import PubSub.Pool.Rotation

/-!
# Rosters

A rotation together with the links that were picked from it, so that whole runs can be described:
users pick links and keep them, use the next one for a call, close a link that they kept, and close
the rotation.
-/

namespace PubSub

/-- A rotation and the places of the links that were picked, in this order. -/
structure Roster where
  rotation : Rotation
  picked : List Nat := []

/-- What users of a rotation may do. -/
inductive RosterMove where
  | pick
  /-- The next link is picked for a call. -/
  | use
  /-- The link that was picked at this turn, counted from zero, is closed. -/
  | closePicked (turn : Nat)
  | close
  deriving DecidableEq, Repr

namespace Roster

/-- Picks the next link and returns its place. -/
def pick (r : Roster) : Nat × Roster :=
  let (i, rotation) := r.rotation.pick
  (i, { rotation, picked := r.picked ++ [i] })

/-- Picks so many links in turn and returns their places. -/
def pickMany : Nat → Roster → List Nat × Roster
  | 0, r => ([], r)
  | n + 1, r =>
    let (i, r) := r.pick
    let (others, r) := pickMany n r
    (i :: others, r)

/-- Picks the next link and returns its connection. -/
def use (r : Roster) : Except TransportError Nat × Roster :=
  let (i, next) := r.pick
  (r.rotation.connectionAt i, next)

/-- The link that was picked at a turn. -/
def link? (r : Roster) (turn : Nat) : Option Link := do
  let i ← r.picked[turn]?
  r.rotation.links[i]?

/-- Closes the link that was picked at a turn; none if there was no such turn. -/
def closePicked? (r : Roster) (turn : Nat) : Option (Reply Roster (Except TransportError Unit)) :=
  (r.picked[turn]?).map fun i =>
    let closing := r.rotation.closeLink i
    { closing with next := { r with rotation := closing.next } }

/-- Closes the rotation. -/
def close (r : Roster) : Reply Roster Unit :=
  let closing := r.rotation.close
  { closing with next := { r with rotation := closing.next } }

/-- The roster after a move. -/
def step (r : Roster) : RosterMove → Roster
  | .pick => r.pick.2
  | .use => r.use.2
  | .closePicked turn => ((r.closePicked? turn).map (·.next)).getD r
  | .close => r.close.next

/-- The roster after a run of moves. -/
def run (r : Roster) (moves : List RosterMove) : Roster := moves.foldl step r

end Roster

end PubSub

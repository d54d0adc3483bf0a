import PubSub.Pool.Link

/-!
# Rotations

A fixed set of links for short calls, used in turn.  Short calls do not hold slots, so there is no
admission; links that were closed keep their turn.
-/

namespace PubSub

/-- Links that are used in turn. -/
structure Rotation where
  links : List Link
  dialer : Dialer
  /-- The number of picks so far; the next one goes to this place, counted round the links. -/
  rotor : Nat := 0

namespace Rotation

/-- The number of links. -/
def size (r : Rotation) : Nat := r.links.length

/-- Makes a rotation of so many links, or none at all. -/
def build (count : Nat) (d : Dialer) : Reply Dialer (Except TransportError Rotation) :=
  if count = 0 then { answer := .error (.invalidSetup .noCallLinks), next := d }
  else
    let built := Links.build count d
    { answer := built.answer.map fun links => { links := links, dialer := built.next }
      next := built.next
      notices := built.notices }

/-- Picks the next link and returns its place. -/
def pick (r : Rotation) : Nat × Rotation :=
  (r.rotor % r.size, { r with rotor := nextVisit r.rotor })

/-- The connection of the link at a place. -/
def connectionAt (r : Rotation) (i : Nat) : Except TransportError Nat :=
  match r.links[i]? with
  | some l => l.connection?
  | none => .error .connectionClosed

/-- Picks the next link and returns its connection. -/
def use (r : Rotation) : Except TransportError Nat × Rotation :=
  let (i, next) := r.pick
  (r.connectionAt i, next)

/-- Closes the link at a place. -/
def closeLink (r : Rotation) (i : Nat) : Reply Rotation (Except TransportError Unit) :=
  let closing := Links.closeAt r.links i r.dialer
  { answer := closing.answer
    next := { r with links := closing.next.1, dialer := closing.next.2 } }

/-- Closes all links. -/
def close (r : Rotation) : Reply Rotation Unit :=
  let closing := Links.closeAll r.links r.dialer
  { answer := ()
    next := { r with links := closing.next.1, dialer := closing.next.2 }
    notices := closing.notices }

end Rotation

end PubSub

import PubSub.Pool.SlotPool

/-!
# Desks

A stream pool together with the slots that its callers hold, so that whole runs can be described:
callers claim slots and give them back, leave before they are served, and close links or the pool.

Every granted slot has a handle, numbered from zero.  A handle remembers the place of its link for
as long as the slot is held.

One move ends before the next one begins.  Moves that overlap are described by `Queue`.
-/

namespace PubSub

/-- A pool and the slots that are held. -/
structure Desk where
  pool : SlotPool
  /-- For each handle the place of the link, or none once the slot was given back. -/
  leases : List (Option Nat) := []

/-- A granted slot. -/
structure Grant where
  handle : Nat
  link : Nat
  deriving DecidableEq, Repr

/-- What callers may do. -/
inductive Move where
  | claim
  /-- So many callers claim at the same time. -/
  | burst (callers : Nat)
  /-- A caller claims and is gone before the answer comes. -/
  | abandon
  | drop (handle : Nat)
  | dropAll
  | closeLink (link : Nat)
  | closeLease (handle : Nat)
  | close
  deriving DecidableEq, Repr

namespace Desk

/-- The place of the link of a slot that is held. -/
def held? (d : Desk) (handle : Nat) : Option Nat := (d.leases[handle]?).join

/-- The places of the links of all slots that are held. -/
def live (d : Desk) : List Nat := d.leases.filterMap id

/-- Opens a desk with a pool of the given shape. -/
def build (shape : PoolShape) (scheduler : Bool) (d : Dialer) :
    Reply Dialer (Except TransportError Desk) :=
  let built := SlotPool.build shape scheduler d
  { built with answer := built.answer.map fun pool => { pool } }

/-- Hands out a slot on the link at a place. -/
def grant (d : Desk) (link : Nat) : Grant × Desk :=
  (⟨d.leases.length, link⟩, { d with leases := d.leases ++ [some link] })

/-- A caller claims a slot. -/
def claim (d : Desk) : Reply Desk (Except TransportError Grant) :=
  let claimed := d.pool.claim
  let desk := { d with pool := claimed.next }
  match claimed.answer with
  | .error e => { answer := .error e, next := desk, notices := claimed.notices }
  | .ok link =>
    let (grant, desk) := desk.grant link
    { answer := .ok grant, next := desk, notices := claimed.notices }

/-- So many claims on a pool, one after another. -/
def claims : Nat → SlotPool → Reply SlotPool (List (Except TransportError Nat))
  | 0, p => { answer := [], next := p }
  | callers + 1, p =>
    let first := p.claim
    let others := claims callers first.next
    { answer := first.answer :: others.answer
      next := others.next
      notices := first.notices ++ others.notices }

/-- Hands out slots on links one after another. -/
def grantAll : List Nat → Desk → List Grant × Desk
  | [], d => ([], d)
  | link :: rest, d =>
    let (first, d) := d.grant link
    let (others, d) := grantAll rest d
    (first :: others, d)

/-- What callers that claim at the same time get: slots, in the order of their links, and errors. -/
structure BurstAnswer where
  granted : List Grant
  errors : List TransportError

/-- Inserts a place into an ascending list. -/
def insertPlace (i : Nat) : List Nat → List Nat
  | [] => [i]
  | j :: rest => if i ≤ j then i :: j :: rest else j :: insertPlace i rest

/-- The places of granted links in ascending order. -/
def grantedPlaces (answers : List (Except TransportError Nat)) : List Nat :=
  (answers.filterMap (·.toOption)).foldr insertPlace []

/-- The errors among answers. -/
def refusals (answers : List (Except TransportError Nat)) : List TransportError :=
  answers.filterMap fun
    | .ok _ => none
    | .error e => some e

/-- So many callers claim at the same time. -/
def burst (d : Desk) (callers : Nat) : Reply Desk BurstAnswer :=
  let claimed := claims callers d.pool
  let (granted, desk) := grantAll (grantedPlaces claimed.answer) { d with pool := claimed.next }
  { answer := { granted, errors := refusals claimed.answer }
    next := desk
    notices := claimed.notices }

/-- A caller claims a slot and is gone before the answer comes, so the slot is given back at
once. -/
def abandon (d : Desk) : Reply Desk Unit :=
  let claimed := d.pool.claim
  { answer := ()
    next := { d with
      pool := match claimed.answer with
        | .ok link => claimed.next.release link
        | .error _ => claimed.next }
    notices := claimed.notices }

/-- Gives a slot back; says whether it was held. -/
def drop (d : Desk) (handle : Nat) : Bool × Desk :=
  match d.held? handle with
  | none => (false, d)
  | some link => (true, { pool := d.pool.release link, leases := d.leases.set handle none })

/-- Gives all slots back; says how many were held. -/
def dropAll (d : Desk) : Nat × Desk :=
  (d.live.length,
   { pool := d.live.foldl SlotPool.release d.pool, leases := d.leases.map fun _ => none })

/-- Closes the link at a place. -/
def closeLink (d : Desk) (link : Nat) : Reply Desk (Except TransportError Unit) :=
  let closing := d.pool.closeLink link
  { closing with next := { d with pool := closing.next } }

/-- Closes the link of a slot that is held. -/
def closeLease (d : Desk) (handle : Nat) : Reply Desk (Except TransportError Unit) :=
  match d.held? handle with
  | some link => d.closeLink link
  | none => { answer := .ok (), next := d }

/-- Closes the pool. -/
def close (d : Desk) : Reply Desk Unit :=
  let closing := d.pool.close
  { closing with next := { d with pool := closing.next } }

/-- The desk after a move. -/
def step (d : Desk) : Move → Desk
  | .claim => d.claim.next
  | .burst callers => (d.burst callers).next
  | .abandon => d.abandon.next
  | .drop handle => (d.drop handle).2
  | .dropAll => d.dropAll.2
  | .closeLink link => (d.closeLink link).next
  | .closeLease handle => (d.closeLease handle).next
  | .close => d.close.next

/-- The desk after a run of moves. -/
def run (d : Desk) (moves : List Move) : Desk := moves.foldl step d

end Desk

end PubSub

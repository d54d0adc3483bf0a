import PubSub.Pool.Link
import PubSub.Pool.Shape

/-!
# Stream pools

Admission of streams to a set of links.

A claim first compares all streams with all slots.  If no slot is left, it adds a link, or is
refused if the pool may not grow.  Then the links are visited in turn, from where the last claim
stopped, and the first one with a free slot is taken.  A slot that is claimed is held until it is
released, whatever happens to its link or to the pool.

Each operation is a single step here: no slot is given back and nothing is closed in the middle of a
claim, and no claim comes in the middle of closing the pool.  What can happen between the steps of
which they consist is described by `Queue`.
-/

namespace PubSub

/-- A set of links with room for streams. -/
structure SlotPool where
  slotsPerLink : Nat
  maxLinks : Nat
  canGrow : Bool
  links : List Link
  dialer : Dialer
  /-- The number of visits so far; the next one goes to this place, counted round the links. -/
  rotor : Nat := 0
  closed : Bool := false

namespace SlotPool

/-- Fewer free slots than this in a pool that cannot grow are reported. -/
def headroom : Nat := 10

/-- The number of links. -/
def size (p : SlotPool) : Nat := p.links.length

/-- The number of slots on the links there are. -/
def capacity (p : SlotPool) : Nat := p.size * p.slotsPerLink

/-- The number of streams. -/
def active (p : SlotPool) : Nat := Links.streams p.links

/-- Makes a pool with its first links.  A pool can only be made where its claims can be
scheduled. -/
def build (shape : PoolShape) (scheduler : Bool) (d : Dialer) :
    Reply Dialer (Except TransportError SlotPool) :=
  match shape.check with
  | .error fault => { answer := .error (.invalidSetup fault), next := d }
  | .ok () =>
    if !scheduler then { answer := .error (.invalidSetup .noScheduler), next := d }
    else
      let built := Links.build shape.initialLinks d
      { answer := built.answer.map fun links =>
          { slotsPerLink := shape.slotsPerLink, maxLinks := shape.maxLinks
            canGrow := shape.canGrow, links := links, dialer := built.next }
        next := built.next
        notices := built.notices }

/-- Visits links in turn, at most `visits` of them, until one has a free slot.  Returns its place,
if there is one, and the counter of visits. -/
def findFree (links : List Link) (slots : Nat) : Nat → Nat → Option Nat × Nat
  | 0, rotor => (none, rotor)
  | visits + 1, rotor =>
    let i := rotor % links.length
    match links[i]? with
    | none => (none, nextVisit rotor)
    | some l =>
      if l.streams < slots then (some i, nextVisit rotor)
      else findFree links slots visits (nextVisit rotor)

/-- Adds a link. -/
def grow (p : SlotPool) : Reply SlotPool (Except TransportError Unit) :=
  match p.dialer.connect with
  | (.ok connection, d) =>
    { answer := .ok ()
      next :=
        { p with
          links := p.links ++ [{ id := p.size, connection := some connection }]
          dialer := d } }
  | (.error refusal, d) =>
    { answer := .error refusal.error
      next := { p with dialer := d }
      notices := refusal.notices ++ [.linkNotAdded p.size refusal.error] }

/-- Makes room for a stream if there is none and the pool may grow. -/
def makeRoom (p : SlotPool) : Reply SlotPool (Except TransportError Unit) :=
  if p.active < p.capacity then { answer := .ok (), next := p }
  else if p.canGrow && p.size < p.maxLinks then p.grow
  else
    { answer := .error (.exhausted (.allTaken p.active p.size p.capacity)), next := p }

/-- The warning that a pool which has all of its links is nearly full, given the number of streams
before the claim. -/
def headroomNotices (p : SlotPool) (active : Nat) : List Notice :=
  if p.size = p.maxLinks ∧ p.capacity - active < headroom then
    [.nearLimit (p.capacity - active) p.capacity]
  else []

/-- Takes a slot on the next link that has one. -/
def take (p : SlotPool) : Except TransportError Nat × SlotPool :=
  match findFree p.links p.slotsPerLink p.capacity p.rotor with
  | (some i, rotor) => (.ok i, { p with links := p.links.modify i Link.claim, rotor := rotor })
  | (none, rotor) => (.error (.exhausted (.noneFree p.capacity p.size)), { p with rotor := rotor })

/-- Claims a slot and returns the place of its link. -/
def claim (p : SlotPool) : Reply SlotPool (Except TransportError Nat) :=
  if p.closed then { answer := .error .shuttingDown, next := p }
  else
    let room := p.makeRoom
    match room.answer with
    | .error e => { answer := .error e, next := room.next, notices := room.notices }
    | .ok () =>
      let (answer, next) := room.next.take
      { answer, next, notices := room.notices ++ room.next.headroomNotices p.active }

/-- Gives a slot on the link at a place back. -/
def release (p : SlotPool) (i : Nat) : SlotPool :=
  { p with links := p.links.modify i Link.release }

/-- Closes the link at a place. -/
def closeLink (p : SlotPool) (i : Nat) : Reply SlotPool (Except TransportError Unit) :=
  let closing := Links.closeAt p.links i p.dialer
  { answer := closing.answer
    next := { p with links := closing.next.1, dialer := closing.next.2 } }

/-- Marks a pool as closed, which ends no connection yet. -/
def markClosed (p : SlotPool) : SlotPool := { p with closed := true }

/-- Closes all links of a pool. -/
def closeLinks (p : SlotPool) : Reply SlotPool Unit :=
  let closing := Links.closeAll p.links p.dialer
  { answer := ()
    next := { p with links := closing.next.1, dialer := closing.next.2 }
    notices := closing.notices }

/-- Closes a pool and all of its links, with nothing happening in between.  Closing it again changes
nothing. -/
def close (p : SlotPool) : Reply SlotPool Unit :=
  if p.closed then { answer := (), next := p } else p.markClosed.closeLinks

/-- Closing a pool ends no stream. -/
theorem active_close (p : SlotPool) : p.close.next.active = p.active := by
  unfold close active
  split <;> simp [closeLinks, markClosed, Links.streams_closeAll]

end SlotPool

end PubSub

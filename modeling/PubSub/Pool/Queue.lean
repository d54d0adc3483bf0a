import PubSub.Pool.Desk

/-!
# Queues

What happens at a stream pool step by step, while claims and the closing of the pool are under way.

The callers of a pool stand in line for one clerk, who serves them one after another, so that no two
claims are ever decided at the same time.  A claim takes the clerk several steps: it looks whether
there is room, has a link added if there is none, visits one link after another, and hands its
answer over.  Between any two of these steps slots may be given back, links may be closed, and
callers may come and leave.

Closing the pool takes several steps as well.  The call that closes it marks the pool as closed, by
which new callers are turned away at once, and then gives the clerk the signal to stop.  The clerk
looks for the signal between two claims; it stops then, and everyone who stands in line is turned
away.  When it has gone the call closes the links one by one and returns.  A call that finds the
mark returns at once, be the pool closed by then or not.

On a `SlotPool` and at a `Desk` a claim and the closing of the pool are single moves, with nothing
happening in the middle of them; `Queue.run_claim` and `Queue.run_close` say that the steps come to
the same if nothing does.
-/

namespace PubSub

/-- What the clerk is at. -/
inductive Clerk where
  | free
  /-- It has called a caller up. -/
  | called (caller : Nat)
  /-- It found no room among so many streams, and a link is to be added. -/
  | growing (caller active : Nat)
  /-- It searches for a free slot and has so many visits left; says whether a link was added. -/
  | searching (caller visits : Nat) (grown : Bool)
  /-- It has an answer: the place of the link on which it took a slot, or an error. -/
  | answering (caller : Nat) (answer : Except TransportError Nat)
  /-- It has stopped. -/
  | gone

/-- How far the call has come that closes the pool. -/
inductive Shutdown where
  /-- The clerk was not given the signal to stop. -/
  | pending
  /-- The signal was given; the links are closed in turn, and this is the place of the next one. -/
  | closing (next : Nat)
  /-- The call has returned. -/
  | complete
  deriving DecidableEq, Repr

/-- A desk, its clerk and those who stand in line. -/
structure Queue where
  desk : Desk
  clerk : Clerk := .free
  shutdown : Shutdown := .pending
  /-- The callers that came so far; they are numbered from zero. -/
  callers : Nat := 0
  /-- The callers that found the pool open and are about to stand in line. -/
  entering : List Nat := []
  /-- The callers that stand in line, the first one in front. -/
  waiting : List Nat := []
  /-- The callers that left without an answer. -/
  left : List Nat := []
  /-- What callers were answered, in this order. -/
  answered : List (Nat × Except TransportError Grant) := []

/-- What can happen next at a queue. -/
inductive QueueMove where
  /-- A caller comes. -/
  | call
  /-- A caller that found the pool open stands in line. -/
  | join (caller : Nat)
  /-- A caller leaves before it is called up. -/
  | withdraw (caller : Nat)
  /-- The clerk does its next step. -/
  | serve
  /-- The clerk has an answer, and the caller is gone. -/
  | miss
  | drop (handle : Nat)
  | closeLink (link : Nat)
  | closeLease (handle : Nat)
  /-- Someone calls to close the pool. -/
  | close
  /-- The call that closes the pool gives the clerk the signal. -/
  | signal
  /-- The call that closes the pool closes the next link, or returns. -/
  | finish
  deriving DecidableEq, Repr

namespace Clerk

/-- The caller that is being served. -/
def caller? : Clerk → Option Nat
  | .called caller | .growing caller _ | .searching caller .. | .answering caller _ => some caller
  | .free | .gone => none

/-- The place of the slot that was taken and not handed over yet. -/
def hand : Clerk → List Nat
  | .answering _ (.ok link) => [link]
  | _ => []

/-- The next step of a claim that has not come to its answer. -/
def proceed (p : SlotPool) : Clerk → Reply (Clerk × SlotPool) Unit
  | .called caller =>
    if p.active < p.capacity then
      { answer := (), next := (.searching caller p.capacity false, p)
        notices := p.headroomNotices p.active }
    else if p.canGrow && p.size < p.maxLinks then
      { answer := (), next := (.growing caller p.active, p) }
    else
      let refusal := .exhausted (.allTaken p.active p.size p.capacity)
      { answer := (), next := (.answering caller (.error refusal), p) }
  | .growing caller active =>
    let grown := p.grow
    match grown.answer with
    | .error e =>
      { answer := (), next := (.answering caller (.error e), grown.next), notices := grown.notices }
    | .ok () =>
      { answer := (), next := (.searching caller grown.next.capacity true, grown.next)
        notices := grown.notices ++ grown.next.headroomNotices active }
  | .searching caller 0 _ =>
    { answer := ()
      next := (.answering caller (.error (.exhausted (.noneFree p.capacity p.size))), p) }
  | .searching caller (visits + 1) grown =>
    match SlotPool.findFree p.links p.slotsPerLink 1 p.rotor with
    | (some link, rotor) =>
      { answer := ()
        next := (.answering caller (.ok link),
          { p with links := p.links.modify link Link.claim, rotor := rotor }) }
    | (none, rotor) =>
      { answer := (), next := (.searching caller visits grown, { p with rotor := rotor }) }
  | clerk => { answer := (), next := (clerk, p) }

end Clerk

/-- The queue at a desk while nobody stands in line. -/
def Desk.queue (d : Desk) : Queue :=
  if d.pool.closed then { desk := d, clerk := .gone, shutdown := .complete } else { desk := d }

namespace Queue

/-- The places of the links of all slots that are taken, handed over or not. -/
def held (q : Queue) : List Nat := q.clerk.hand ++ q.desk.live

/-- Whether the clerk was given the signal to stop. -/
def signalled (q : Queue) : Bool :=
  match q.shutdown with
  | .pending => false
  | .closing _ | .complete => true

/-- The refusal of a caller. -/
def turnedAway (caller : Nat) : Nat × Except TransportError Grant := (caller, .error .shuttingDown)

/-- A caller comes. -/
def call (q : Queue) : Queue :=
  if q.desk.pool.closed then
    { q with callers := q.callers + 1, answered := q.answered ++ [turnedAway q.callers] }
  else { q with callers := q.callers + 1, entering := q.entering ++ [q.callers] }

/-- A caller that found the pool open stands in line, unless the clerk has gone by now. -/
def join (q : Queue) (caller : Nat) : Queue :=
  if caller ∈ q.entering then
    let q := { q with entering := q.entering.erase caller }
    match q.clerk with
    | .gone => { q with answered := q.answered ++ [turnedAway caller] }
    | _ => { q with waiting := q.waiting ++ [caller] }
  else q

/-- A caller leaves before it is called up. -/
def withdraw (q : Queue) (caller : Nat) : Queue :=
  if caller ∈ q.entering then
    { q with entering := q.entering.erase caller, left := q.left ++ [caller] }
  else if caller ∈ q.waiting then
    { q with waiting := q.waiting.erase caller, left := q.left ++ [caller] }
  else q

/-- The clerk stops; those that it has called up or that stand in line are turned away. -/
def stop (q : Queue) : Queue :=
  { q with
    clerk := .gone, waiting := []
    answered := q.answered ++ (q.clerk.caller?.toList ++ q.waiting).map turnedAway }

/-- The clerk does the next step of a claim. -/
def proceed (q : Queue) : Reply Queue Unit :=
  let step := q.clerk.proceed q.desk.pool
  { answer := ()
    next := { q with clerk := step.next.1, desk := { q.desk with pool := step.next.2 } }
    notices := step.notices }

/-- The clerk hands an answer over. -/
def handOver (q : Queue) (caller : Nat) : Except TransportError Nat → Queue
  | .error e => { q with clerk := .free, answered := q.answered ++ [(caller, .error e)] }
  | .ok link =>
    let (grant, desk) := q.desk.grant link
    { q with clerk := .free, desk, answered := q.answered ++ [(caller, .ok grant)] }

/-- The clerk does its next step.  It stops between two claims, and also when it has called someone
up and has not begun with the claim. -/
def serve (q : Queue) : Reply Queue Unit :=
  match q.clerk with
  | .free =>
    if q.signalled then { answer := (), next := q.stop }
    else
      match q.waiting with
      | [] => { answer := (), next := q }
      | caller :: waiting => { answer := (), next := { q with clerk := .called caller, waiting } }
  | .called _ => if q.signalled then { answer := (), next := q.stop } else q.proceed
  | .growing .. | .searching .. => q.proceed
  | .answering caller answer => { answer := (), next := q.handOver caller answer }
  | .gone => { answer := (), next := q }

/-- The clerk has an answer for a caller who is gone; a slot that it took is given back. -/
def miss (q : Queue) : Queue :=
  match q.clerk with
  | .answering caller (.ok link) =>
    { q with
      clerk := .free, desk := { q.desk with pool := q.desk.pool.release link }
      left := q.left ++ [caller] }
  | .answering caller (.error _) => { q with clerk := .free, left := q.left ++ [caller] }
  | _ => q

/-- Someone calls to close the pool; says whether the call returns at once. -/
def close (q : Queue) : Bool × Queue :=
  if q.desk.pool.closed then (true, q)
  else (false, { q with desk := { q.desk with pool := q.desk.pool.markClosed } })

/-- The call that closes the pool gives the clerk the signal to stop. -/
def signal (q : Queue) : Queue :=
  match q.shutdown with
  | .pending => if q.desk.pool.closed then { q with shutdown := .closing 0 } else q
  | .closing _ | .complete => q

/-- The call that closes the pool closes the next link when the clerk has gone, and returns after
the last one. -/
def finish (q : Queue) : Reply Queue Unit :=
  match q.clerk, q.shutdown with
  | .gone, .closing next =>
    match q.desk.pool.links[next]? with
    | none => { answer := (), next := { q with shutdown := .complete } }
    | some l =>
      let closing := q.desk.closeLink next
      { answer := ()
        next := { q with desk := closing.next, shutdown := .closing (next + 1) }
        notices := match closing.answer with
          | .error e => [.linkNotClosed l.id e]
          | .ok () => [] }
  | _, _ => { answer := (), next := q }

/-- The queue after a move. -/
def step (q : Queue) : QueueMove → Reply Queue Unit
  | .call => { answer := (), next := q.call }
  | .join caller => { answer := (), next := q.join caller }
  | .withdraw caller => { answer := (), next := q.withdraw caller }
  | .serve => q.serve
  | .miss => { answer := (), next := q.miss }
  | .drop handle => { answer := (), next := { q with desk := (q.desk.drop handle).2 } }
  | .closeLink link => { answer := (), next := { q with desk := (q.desk.closeLink link).next } }
  | .closeLease handle =>
    { answer := (), next := { q with desk := (q.desk.closeLease handle).next } }
  | .close => { answer := (), next := q.close.2 }
  | .signal => { answer := (), next := q.signal }
  | .finish => q.finish

/-- The queue after a run of moves. -/
def run (q : Queue) : List QueueMove → Reply Queue Unit
  | [] => { answer := (), next := q }
  | m :: moves =>
    let first := q.step m
    let others := first.next.run moves
    { answer := (), next := others.next, notices := first.notices ++ others.notices }

/-- The slots that callers were granted. -/
def granted (q : Queue) : List Grant := q.answered.filterMap (·.2.toOption)

/-- The errors that callers were answered. -/
def refusals (q : Queue) : List TransportError :=
  q.answered.filterMap fun
    | (_, .ok _) => none
    | (_, .error e) => some e

/-- So many callers come and stand in line, one after another. -/
def arrivals (callers : Nat) : List QueueMove :=
  (List.range callers).flatMap fun caller => [.call, .join caller]

/-- A call that closes a pool with so many links, and the clerk, who is free, stops. -/
def closingMoves (links : Nat) : List QueueMove :=
  [.close, .signal, .serve] ++ List.replicate (links + 1) .finish

end Queue

/-- Closes the pool while so many callers wait to be served. -/
def Desk.closeWithWaiters (d : Desk) (callers : Nat) : Reply Desk Desk.BurstAnswer :=
  let closing := d.queue.run (Queue.arrivals callers ++ Queue.closingMoves d.pool.size)
  { answer := { granted := closing.next.granted, errors := closing.next.refusals }
    next := closing.next.desk
    notices := closing.notices }

end PubSub

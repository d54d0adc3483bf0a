import PubSub.Proofs.Pool.Interleaving
import PubSub.Proofs.Pool.Search

/-!
# Moves that nothing interrupts

A claim and the closing of a pool come to what `SlotPool` and `Desk` say of them as single moves, if
nothing else happens between their steps.

* `Queue.run_claim`: the clerk serves the caller in front.
* `Queue.run_close`: the pool is closed while the clerk is free.
* `Desk.closeWithWaiters_eq`: the same while callers stand in line.
-/

namespace PubSub

namespace SlotPool

/-- A search with so many visits, and what a claim makes of it. -/
def search (p : SlotPool) (visits : Nat) : Except TransportError Nat × SlotPool :=
  match findFree p.links p.slotsPerLink visits p.rotor with
  | (some i, rotor) => (.ok i, p.withStream i rotor)
  | (none, rotor) => (.error (.exhausted (.noneFree p.capacity p.size)), { p with rotor := rotor })

/-- A claim that finds or makes room is a search. -/
theorem claim_eq_search {p : SlotPool} (hopen : p.closed = false)
    (hroom : p.makeRoom.answer = .ok ()) :
    p.claim =
      { answer := (p.makeRoom.next.search p.makeRoom.next.capacity).1
        next := (p.makeRoom.next.search p.makeRoom.next.capacity).2
        notices := p.makeRoom.notices ++ p.makeRoom.next.headroomNotices p.active } := by
  simp only [claim, hopen, hroom]
  rfl

theorem claim_eq_refusal {p : SlotPool} {e : TransportError} (hopen : p.closed = false)
    (hroom : p.makeRoom.answer = .error e) :
    p.claim =
      { answer := .error e, next := p.makeRoom.next, notices := p.makeRoom.notices } := by
  simp only [claim, hopen, hroom]
  rfl

/-- A pool without links has no slots to search. -/
theorem links_pos_of_capacity {p : SlotPool} (h : 0 < p.capacity) : 0 < p.links.length :=
  Nat.pos_of_mul_pos_right h

end SlotPool

namespace Queue

variable {q q' : Queue} {caller : Nat} {clerk next : Clerk} {p p' : SlotPool}
  {notices : List Notice}

/-- Some turns of the clerk lead from one queue to another, with these notices. -/
def Serves (q q' : Queue) (notices : List Notice) : Prop :=
  ∃ turns, q.run (List.replicate turns .serve) = { answer := (), next := q', notices }

theorem Serves.refl (q : Queue) : q.Serves q [] := ⟨0, rfl⟩

/-- The first turn of several. -/
theorem Serves.turn {q'' : Queue} {later : List Notice} (h : q'.Serves q'' later)
    (hserve : q.serve = { answer := (), next := q', notices }) :
    q.Serves q'' (notices ++ later) := by
  rcases h with ⟨turns, hturns⟩
  refine ⟨turns + 1, ?_⟩
  rw [List.replicate_succ, run, step, hserve, hturns]

theorem Serves.trans {q'' : Queue} {later : List Notice} (h : q.Serves q' notices)
    (h' : q'.Serves q'' later) : q.Serves q'' (notices ++ later) := by
  rcases h with ⟨turns, hturns⟩
  rcases h' with ⟨others, hothers⟩
  refine ⟨turns + others, ?_⟩
  rw [List.replicate_add, run_append, hturns, hothers]

/-! ## Claims -/

/-- A turn of the clerk in the middle of a claim. -/
theorem serve_deciding (h : clerk.deciding = true)
    (hproceed : clerk.proceed p = { answer := (), next := (next, p'), notices }) (q : Queue) :
    (q.withPool clerk p).serve = { answer := (), next := q.withPool next p', notices } := by
  cases clerk with
  | growing caller active => simp only [serve, withPool, proceed, hproceed]
  | searching caller visits grown => simp only [serve, withPool, proceed, hproceed]
  | free | called _ | answering _ _ | gone => cases h

/-- The first turn of the clerk for the caller that it has called up. -/
theorem serve_called (h : q.signalled = false)
    (hproceed : (Clerk.called caller).proceed p = { answer := (), next := (next, p'), notices }) :
    (q.withPool (.called caller) p).serve =
      { answer := (), next := q.withPool next p', notices } := by
  have hserve : (q.withPool (.called caller) p).serve =
      if q.signalled then { answer := (), next := (q.withPool (.called caller) p).stop }
      else (q.withPool (.called caller) p).proceed := rfl
  rw [hserve, h, if_neg Bool.false_ne_true]
  simp only [proceed, withPool, hproceed]

/-- The clerk visits links until it has an answer. -/
theorem serves_search (q : Queue) (caller visits : Nat) (grown : Bool) {p : SlotPool}
    (hlinks : 0 < visits → 0 < p.links.length) :
    (q.withPool (.searching caller visits grown) p).Serves
      (q.withPool (.answering caller (p.search visits).1) (p.search visits).2) [] := by
  induction visits generalizing p with
  | zero => exact ⟨1, rfl⟩
  | succ visits ih =>
    have hsome : 0 < p.links.length := hlinks (Nat.succ_pos visits)
    have hfind : SlotPool.findFree p.links p.slotsPerLink (visits + 1) p.rotor = _ :=
      SlotPool.findFree_succ hsome visits p.rotor
    -- the first visit decides, or the search goes on behind it
    cases hvisit : SlotPool.findFree p.links p.slotsPerLink 1 p.rotor with
    | mk found rotor =>
      rw [hvisit] at hfind
      cases found with
      | some link =>
        have hproceed : (Clerk.searching caller (visits + 1) grown).proceed p =
            { answer := (), next := (.answering caller (.ok link), p.withStream link rotor) } := by
          rw [Clerk.proceed, hvisit]
          rfl
        rw [SlotPool.search, hfind]
        exact (Serves.refl _).turn (serve_deciding rfl hproceed q)
      | none =>
        have hproceed : (Clerk.searching caller (visits + 1) grown).proceed p =
            { answer := ()
              next := (.searching caller visits grown, { p with rotor := rotor }) } := by
          rw [Clerk.proceed, hvisit]
        rw [SlotPool.search, hfind]
        exact (ih (p := { p with rotor := rotor }) fun _ => hsome).turn
          (serve_deciding rfl hproceed q)

/-- The clerk decides on the claim of the caller that it has called up. -/
theorem serves_claim (h : q.signalled = false) (hopen : p.closed = false) :
    (q.withPool (.called caller) p).Serves
      (q.withPool (.answering caller p.claim.answer) p.claim.next) p.claim.notices := by
  by_cases hroom : p.active < p.capacity
  · have hmade : p.makeRoom = { answer := .ok (), next := p } := if_pos hroom
    have hlook : (Clerk.called caller).proceed p =
        { answer := (), next := (.searching caller p.capacity false, p)
          notices := p.headroomNotices p.active } := if_pos hroom
    rw [SlotPool.claim_eq_search hopen (by rw [hmade]), hmade]
    simpa using (q.serves_search caller p.capacity false SlotPool.links_pos_of_capacity).turn
      (serve_called h hlook)
  · by_cases hgrow : (p.canGrow && p.size < p.maxLinks) = true
    · have hmade : p.makeRoom = p.grow := by rw [SlotPool.makeRoom, if_neg hroom, if_pos hgrow]
      have hlook : (Clerk.called caller).proceed p =
          { answer := (), next := (.growing caller p.active, p) } := by
        rw [Clerk.proceed, if_neg hroom, if_pos hgrow]
      cases hgrown : p.grow.answer with
      | error e =>
        have hrefused : (Clerk.growing caller p.active).proceed p =
            { answer := (), next := (.answering caller (.error e), p.grow.next)
              notices := p.grow.notices } := by
          simp only [Clerk.proceed, hgrown]
        rw [SlotPool.claim_eq_refusal hopen (by rw [hmade, hgrown]), hmade]
        simpa using ((Serves.refl _).turn (serve_deciding rfl hrefused q)).turn
          (serve_called h hlook)
      | ok _ =>
        have hadded : (Clerk.growing caller p.active).proceed p =
            { answer := (), next := (.searching caller p.grow.next.capacity true, p.grow.next)
              notices := p.grow.notices ++ p.grow.next.headroomNotices p.active } := by
          simp only [Clerk.proceed, hgrown]
        rw [SlotPool.claim_eq_search hopen (by rw [hmade, hgrown]), hmade]
        simpa using ((q.serves_search caller p.grow.next.capacity true
          SlotPool.links_pos_of_capacity).turn (serve_deciding rfl hadded q)).turn
          (serve_called h hlook)
    · let full := TransportError.exhausted (.allTaken p.active p.size p.capacity)
      have hmade : p.makeRoom = { answer := .error full, next := p } := by
        rw [SlotPool.makeRoom, if_neg hroom, if_neg hgrow]
      have hlook : (Clerk.called caller).proceed p =
          { answer := (), next := (.answering caller (.error full), p) } := by
        rw [Clerk.proceed, if_neg hroom, if_neg hgrow]
      rw [SlotPool.claim_eq_refusal hopen (by rw [hmade]), hmade]
      exact (Serves.refl _).turn (serve_called h hlook)

/-- What is handed over is what `Desk.claim` answers. -/
theorem handOver_claim (q : Queue) (caller : Nat) :
    (q.withPool (.answering caller q.desk.pool.claim.answer) q.desk.pool.claim.next).handOver caller
        q.desk.pool.claim.answer =
      { q with
        clerk := .free, desk := q.desk.claim.next
        answered := q.answered ++ [(caller, q.desk.claim.answer)] } := by
  simp only [Desk.claim]
  cases q.desk.pool.claim.answer <;> rfl

/-- While the pool is open and nothing else happens, the clerk serves the caller in front as
`Desk.claim` does. -/
theorem run_claim {waiting : List Nat} (hclerk : q.clerk = .free) (hsignal : q.signalled = false)
    (hopen : q.desk.pool.closed = false) (hwaiting : q.waiting = caller :: waiting) :
    q.Serves
      { q with
        desk := q.desk.claim.next, waiting
        answered := q.answered ++ [(caller, q.desk.claim.answer)] }
      q.desk.claim.notices := by
  let q₁ := { q with waiting }
  have hcall : q.serve = { answer := (), next := q₁.withPool (.called caller) q.desk.pool } := by
    simp only [serve, hclerk, hsignal, hwaiting]
    rfl
  -- the claim is decided and the answer handed over
  have hclaim : (q₁.withPool (.called caller) q.desk.pool).Serves _ q.desk.pool.claim.notices :=
    serves_claim hsignal hopen
  have hlast := (Serves.refl _).turn
    (show (q₁.withPool (.answering caller q.desk.pool.claim.answer) q.desk.pool.claim.next).serve =
      _ from congrArg (Reply.mk () · []) (q₁.handOver_claim caller))
  have hnotices : q.desk.claim.notices = q.desk.pool.claim.notices := by
    simp only [Desk.claim]
    split <;> rfl
  have hall := (hclaim.trans hlast).turn hcall
  simpa [hnotices, q₁, hclerk] using hall

/-! ## Closing -/

/-- The links that are left are closed one after another. -/
theorem run_finish (rest done : List Link) {q : Queue} (hclerk : q.clerk = .gone)
    (hshutdown : q.shutdown = .closing done.length) (hlinks : q.desk.pool.links = done ++ rest) :
    let closing := Links.closeAll rest q.desk.pool.dialer
    q.run (List.replicate (rest.length + 1) .finish) =
      { answer := ()
        next := { q with
          shutdown := .complete
          desk := { q.desk with
            pool := { q.desk.pool with
              links := done ++ closing.next.1, dialer := closing.next.2 } } }
        notices := closing.notices } := by
  induction rest generalizing done q with
  | nil =>
    have hnone : q.desk.pool.links[done.length]? = none := by simp [hlinks]
    have hfinish : q.finish = { answer := (), next := { q with shutdown := .complete } } := by
      simp only [finish, hclerk, hshutdown, hnone]
    have hdone : done = q.desk.pool.links := by simp [hlinks]
    simp [run, step, hfinish, Links.closeAll, hdone]
  | cons l rest ih =>
    have hsome : q.desk.pool.links[done.length]? = some l := by simp [hlinks]
    have hset : q.desk.pool.links.set done.length (l.close q.desk.pool.dialer).2.1 =
        done ++ [(l.close q.desk.pool.dialer).2.1] ++ rest := by
      simp [hlinks]
    let q₁ : Queue :=
      { q with
        clerk := .gone, shutdown := .closing (done.length + 1)
        desk := { q.desk with
          pool := { q.desk.pool with
            links := done ++ [(l.close q.desk.pool.dialer).2.1] ++ rest
            dialer := (l.close q.desk.pool.dialer).2.2 } } }
    have hfinish : q.finish =
        { answer := (), next := q₁
          notices := ((l.close q.desk.pool.dialer).1.map (Notice.linkNotClosed l.id)).toList } := by
      simp only [finish, hclerk, hshutdown, hsome, Desk.closeLink, SlotPool.closeLink,
        Links.closeAt, hset]
      cases (l.close q.desk.pool.dialer).1 <;> rfl
    have hrest := ih (done ++ [(l.close q.desk.pool.dialer).2.1]) (q := q₁) rfl
      (by simp [q₁]) rfl
    rw [List.length_cons, List.replicate_succ, run, step, hfinish]
    simp only [hrest]
    simp [Links.closeAll, q₁, hclerk]

/-- While the clerk is free and nothing else happens, closing the pool is what `Desk.close` says,
and those who stand in line are turned away. -/
theorem run_close (hclerk : q.clerk = .free) (hshutdown : q.shutdown = .pending)
    (hopen : q.desk.pool.closed = false) :
    q.run (closingMoves q.desk.pool.size) =
      { answer := ()
        next := { q with
          clerk := .gone, shutdown := .complete, waiting := []
          desk := q.desk.close.next
          answered := q.answered ++ q.waiting.map turnedAway }
        notices := q.desk.close.notices } := by
  let q₁ : Queue :=
    { q with
      clerk := .gone, shutdown := .closing 0, waiting := []
      desk := { q.desk with pool := q.desk.pool.markClosed }
      answered := q.answered ++ q.waiting.map turnedAway }
  have hstop : q.run [.close, .signal, .serve] = { answer := (), next := q₁ } := by
    simp [run, step, close, signal, serve, stop, signalled, SlotPool.markClosed, hclerk, hshutdown,
      hopen, q₁, Clerk.caller?]
  have hrest := run_finish q.desk.pool.links [] (q := q₁) rfl rfl rfl
  rw [closingMoves, run_append, hstop]
  simp only [SlotPool.size, hrest]
  simp [Desk.close, SlotPool.close, SlotPool.closeLinks, SlotPool.markClosed, hopen, q₁]

/-- Callers who find the pool open stand in line in the order in which they come. -/
theorem run_arrivals (hclerk : q.clerk = .free) (hopen : q.desk.pool.closed = false)
    (hcallers : q.callers = 0) (hentering : q.entering = []) (callers : Nat) :
    q.run (arrivals callers) =
      { answer := ()
        next := { q with callers, waiting := q.waiting ++ List.range callers } } := by
  induction callers with
  | zero =>
    simp only [arrivals, List.range_zero, List.flatMap_nil, run, List.append_nil]
    rw [← hcallers]
  | succ callers ih =>
    have hlast : arrivals (callers + 1) = arrivals callers ++ [.call, .join callers] := by
      rw [arrivals, List.range_succ, List.flatMap_append, List.flatMap_singleton]
      rfl
    rw [hlast, run_append, ih]
    simp [run, step, call, join, hopen, hentering, hclerk, List.range_succ]

end Queue

/-- While callers stand in line and the clerk does nothing, closing an open pool is what
`Desk.close` says, and all of them are turned away. -/
theorem Desk.closeWithWaiters_eq {d : Desk} (hopen : d.pool.closed = false) (callers : Nat) :
    d.closeWithWaiters callers =
      { answer := { granted := [], errors := List.replicate callers .shuttingDown }
        next := d.close.next
        notices := d.close.notices } := by
  have hqueue : d.queue = { desk := d } := by simp [Desk.queue, hopen]
  have hclosed := Queue.run_close
    (q := { desk := d, callers, waiting := List.range callers }) rfl rfl hopen
  simp only [Desk.closeWithWaiters, hqueue, Queue.run_append,
    Queue.run_arrivals (q := { desk := d }) rfl hopen rfl rfl, List.nil_append, hclosed]
  simp [Queue.granted, Queue.refusals, Queue.turnedAway, List.filterMap_map, Function.comp_def,
    Except.toOption]

end PubSub

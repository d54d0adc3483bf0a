import PubSub.Proofs.Pool.RoundRobin
import PubSub.Proofs.Pool.Uninterrupted
import PubSub.Proofs.Pool.Visits

/-!
# Refusals

A claim that is refused leaves the pool as it was.

A claim is refused before anything is searched or counted: the pool is closed, or all slots are
taken and no link can be added, or the dialer does not make the link that is needed.  All that
remains of it is the try that the dialer counts, and once the dialer works again the same claim is
granted on a new link.

* `SlotPool.Tallied.all_taken`: in a full pool every link is full.
* `SlotPool.calls_claim`: when a claim asks the dialer.
* `SlotPool.Tallied.claim_grown`: a claim for which a link is added takes the slot there.
* `Queue.desk_of_decided`, `Queue.desk_of_refused`: how callers in a queue are refused.
* `refused_claim_keeps_pool`: all of this for the turns of any run.
-/

namespace PubSub

/-- If a link has a free slot, there are fewer streams than slots. -/
theorem Links.streams_lt_mul {links : List Link} {slots i : Nat} {l : Link}
    (h : ∀ k ∈ links, k.streams ≤ slots) (hl : links[i]? = some l) (hfree : l.streams < slots) :
    streams links < links.length * slots := by
  induction links generalizing i with
  | nil => cases hl
  | cons k links ih =>
    have hrest : ∀ m ∈ links, m.streams ≤ slots := fun m hm => h m (List.mem_cons_of_mem k hm)
    rw [List.length_cons, Nat.succ_mul, streams]
    cases i with
    | zero =>
      cases hl
      have hothers := streams_le_mul hrest
      omega
    | succ i =>
      have hothers := ih hrest hl
      have hfirst : k.streams ≤ slots := h k List.mem_cons_self
      omega

namespace SlotPool

section Claims

variable {p : SlotPool} {live : List Nat}

theorem WantsLink.room (h : p.WantsLink) {connection : Nat} {d : Dialer}
    (hmade : p.dialer.connect = (.ok connection, d)) : p.Room (p.withLink connection d) :=
  .grown h.full h.canGrow h.size_lt hmade

/-- The dialer is asked for room if a link is wanted, and otherwise left alone. -/
theorem Room.calls {q : SlotPool} (h : p.Room q) (hopen : p.closed = false) :
    (p.WantsLink ∧ q.dialer.calls = p.dialer.calls + 1) ∨
      (¬ p.WantsLink ∧ q.dialer = p.dialer) := by
  cases h with
  | already hroom => exact Or.inr ⟨fun hwants => Nat.not_lt_of_le hwants.full hroom, rfl⟩
  | grown hfull hgrow hsize hmade =>
    refine Or.inl ⟨⟨hopen, hfull, hgrow, hsize⟩, ?_⟩
    rcases Dialer.of_connect_ok hmade with ⟨-, rfl⟩
    rfl

/-- A claim asks the dialer for a link once if one is wanted, and otherwise not at all. -/
theorem calls_claim (p : SlotPool) :
    (p.WantsLink ∧ p.claim.next.dialer.calls = p.dialer.calls + 1) ∨
      (¬ p.WantsLink ∧ p.claim.next.dialer = p.dialer) := by
  have hclaim := p.claim_claimed
  generalize p.claim.answer = answer, p.claim.next = q at hclaim
  cases hclaim with
  | closed hclosed =>
    refine Or.inr ⟨fun hwants => ?_, rfl⟩
    rw [hwants.opened] at hclosed
    cases hclosed
  | full _ _ hmax =>
    refine Or.inr ⟨fun hwants => ?_, rfl⟩
    rcases hmax with hgrow | hsize
    · rw [hwants.canGrow] at hgrow
      cases hgrow
    · exact Nat.not_lt_of_le hsize hwants.size_lt
  | refused hopen hfull hgrow hsize hmade =>
    refine Or.inl ⟨⟨hopen, hfull, hgrow, hsize⟩, ?_⟩
    rw [(Dialer.of_connect_error hmade).2]
  | granted hopen hroom _ => exact hroom.calls hopen
  | noneFree hopen hroom _ => exact hroom.calls hopen

namespace Tallied

/-- In a full pool all slots of every link are held. -/
theorem all_taken (h : p.Tallied live) (hfull : p.capacity ≤ p.active) {i : Nat}
    (hi : i < p.size) : live.count i = p.slotsPerLink := by
  have hl : p.links[i]? = some p.links[i] := List.getElem?_eq_getElem hi
  have hbounded : ∀ k ∈ p.links, k.streams ≤ p.slotsPerLink := by
    intro k hk
    rcases List.mem_iff_getElem?.1 hk with ⟨j, hj⟩
    exact h.bounded j k hj
  rw [← h.counted i _ hl]
  refine Nat.le_antisymm (h.bounded i _ hl) (Nat.le_of_not_lt fun hfree => ?_)
  exact Nat.not_lt_of_le hfull (Links.streams_lt_mul hbounded hl hfree)

/-- A claim for which a link is added takes the first slot of that link. -/
theorem claim_grown (h : p.Tallied live) (hslots : 0 < p.slotsPerLink) (hwants : p.WantsLink)
    {connection : Nat} {d : Dialer} (hmade : p.dialer.connect = (.ok connection, d))
    (hwrap : p.rotor + p.visits ≤ rotorPeriod) :
    p.claim.answer = .ok p.size ∧
      p.claim.next.links =
        p.links ++ [{ id := p.size, connection := some connection, streams := 1 }] := by
  have hroom := hwants.room hmade
  cases hanswer : p.claim.answer with
  | error e =>
    rcases refused_cases hslots hwrap hanswer with
      ⟨-, ⟨hclosed, -⟩ | ⟨-, -, hnone, -⟩ | ⟨-, refusal, hrefused, -⟩⟩
    · rw [hwants.opened] at hclosed
      cases hclosed
    · exact absurd hwants hnone
    · rw [Dialer.connect_of_some hrefused] at hmade
      cases hmade
  | ok i =>
    rcases h.takes_first hslots hwrap hanswer with ⟨k, hk, hplace, hfree, -⟩
    have hclaim := p.claim_claimed
    rw [hanswer] at hclaim
    generalize p.claim.next = r at hclaim hk hplace ⊢
    cases hclaim with
    | @granted q i rotor hopen hsearched hsearch =>
      obtain rfl : q = p.withLink connection d := by
        rw [← hsearched.eq_makeRoom.2, ← hroom.eq_makeRoom.2]
      have hafter : ((p.withLink connection d).withStream i rotor).size = p.size + 1 :=
        (size_withStream _ _ _).trans (p.size_withLink connection d)
      rw [hafter] at hk hplace
      -- the slots of all other links are held
      obtain rfl : i = p.size := by
        have hle : i ≤ p.size := Nat.le_of_lt_succ (hplace ▸ Nat.mod_lt _ (Nat.succ_pos _))
        refine Nat.le_antisymm hle (Nat.le_of_not_lt fun hlt => ?_)
        rw [h.all_taken hwants.full hlt] at hfree
        exact Nat.lt_irrefl _ hfree
      refine ⟨rfl, ?_⟩
      show (p.links ++ [_]).modify p.links.length Link.claim = _
      rw [List.modify_eq_take_cons_drop (by simp)]
      simp [Link.claim]

end Tallied

end Claims

end SlotPool

namespace Desk

open SlotPool

variable {d : Desk}

theorem claim_of_error {e : TransportError} (h : d.claim.answer = .error e) :
    d.pool.claim.answer = .error e ∧ d.claim.next = { d with pool := d.pool.claim.next } := by
  unfold claim at h ⊢
  simp only at h ⊢
  split at h
  · rename_i herror
    cases h
    simp [herror]
  · cases h

theorem claim_of_ok {i : Nat} (h : d.pool.claim.answer = .ok i) :
    d.claim.answer = .ok { handle := d.leases.length, link := i } := by
  simp [claim, h, grant]

/-- A claim that is refused leaves the desk as it was, but for a try of the dialer. -/
theorem next_of_refused {e : TransportError} (hslots : 0 < d.pool.slotsPerLink)
    (hwrap : d.pool.rotor + d.pool.visits ≤ rotorPeriod) (h : d.claim.answer = .error e) :
    d.claim.next = d ∨ d.claim.next = { d with pool := d.pool.asked } := by
  rcases claim_of_error h with ⟨hanswer, hnext⟩
  rw [hnext]
  rcases refused_cases hslots hwrap hanswer with
    ⟨-, ⟨-, -, hsame⟩ | ⟨-, -, -, -, hsame⟩ | ⟨-, -, -, -, hsame⟩⟩
  · exact Or.inl (by rw [hsame])
  · exact Or.inl (by rw [hsame])
  · exact Or.inr (by rw [hsame])

theorem run_mem_turnsIn (d : Desk) (moves : List Move) :
    d.run moves ∈ d.turnsIn (moves ++ [.claim]) := by
  rw [turnsIn_append]
  exact List.mem_append_right _ List.mem_cons_self

end Desk

namespace Queue

variable {q : Queue}

/-- The clerk decides to refuse a caller when there is no room, without touching anything, or when
the dialer does not make a link, which is then all that has happened. -/
theorem desk_of_decided {shape : PoolShape} {before : Nat} (hsearches : q.Searches shape before)
    (hwrap : before ≤ rotorPeriod) {m : QueueMove} {caller : Nat} {e : TransportError}
    (hnew : (q.step m).next.clerk ≠ q.clerk)
    (hanswer : (q.step m).next.clerk = .answering caller (.error e)) :
    (q.clerk = .called caller ∧ (q.step m).next.desk = q.desk) ∨
      ∃ active, q.clerk = .growing caller active ∧
        (q.step m).next.desk = { q.desk with pool := q.desk.pool.asked } := by
  by_cases hm : m = .serve
  · subst hm
    have hturn := q.serve_turn
    simp only [step] at hnew hanswer ⊢
    generalize q.serve.next = r at hturn hnew hanswer ⊢
    cases hturn with
    | @claim next p hproceeds _ =>
      obtain rfl : next = .answering caller (.error e) := hanswer
      cases hclerk : q.clerk with
      | called _ =>
        rw [hclerk] at hproceeds
        cases hproceeds with
        | allTaken _ _ => exact Or.inl ⟨rfl, rfl⟩
      | growing _ active =>
        rw [hclerk] at hproceeds
        cases hproceeds with
        | refused hmade =>
          rcases Dialer.of_connect_error hmade with ⟨-, rfl⟩
          exact Or.inr ⟨active, rfl, rfl⟩
      | searching _ _ _ =>
        rw [hclerk] at hproceeds
        cases hproceeds with
        | noneFree => exact absurd (hsearches.wrapped hclerk).2 (Nat.not_lt_of_le hwrap)
      | free | answering _ _ | gone =>
        rw [hclerk] at hproceeds
        cases hproceeds
    | stop _ _ => cases hanswer
    | call _ _ _ => cases hanswer
    | @handOver _ answer _ => cases answer <;> cases hanswer
    | rest _ => exact absurd rfl hnew
  · rcases q.clerk_step hm with hsame | ⟨-, hfree⟩
    · exact absurd hsame hnew
    · cases hfree.symm.trans hanswer

/-- Looking for room touches nothing. -/
theorem desk_of_growing {m : QueueMove} {caller active : Nat}
    (hnew : (q.step m).next.clerk ≠ q.clerk)
    (hgrowing : (q.step m).next.clerk = .growing caller active) :
    q.clerk = .called caller ∧ (q.step m).next.desk = q.desk := by
  by_cases hm : m = .serve
  · subst hm
    have hturn := q.serve_turn
    simp only [step] at hnew hgrowing ⊢
    generalize q.serve.next = r at hturn hnew hgrowing ⊢
    cases hturn with
    | @claim next p hproceeds _ =>
      obtain rfl : next = .growing caller active := hgrowing
      generalize q.clerk = now at hproceeds ⊢
      cases hproceeds with
      | full _ _ _ => exact ⟨rfl, rfl⟩
    | stop _ _ => cases hgrowing
    | call _ _ _ => cases hgrowing
    | @handOver _ answer _ => cases answer <;> cases hgrowing
    | rest _ => exact absurd rfl hnew
  · rcases q.clerk_step hm with hsame | ⟨-, hfree⟩
    · exact absurd hsame hnew
    · cases hfree.symm.trans hgrowing

/-- A step in which callers are refused does nothing at the desk. -/
theorem desk_of_refused {m : QueueMove} (hnew : (q.step m).next.answered ≠ q.answered)
    (h : ∀ answer ∈ (q.step m).next.answered.drop q.answered.length, ∃ e, answer.2 = .error e) :
    (q.step m).next.desk = q.desk := by
  have hhappens := q.step_happens m
  generalize (q.step m).next = r at hhappens hnew h ⊢
  cases hhappens with
  | turn hturn =>
    cases hturn with
    | claim _ _ => exact absurd rfl hnew
    | @handOver caller answer _ =>
      cases answer with
      | error e => rfl
      | ok link =>
        rcases h (caller, .ok (q.desk.grant link).1) (by simp [handOver]) with ⟨e, he⟩
        cases he
    | stop _ _ | call _ _ _ | rest _ => rfl
  | untaken _ | gaveBack _ | closedLink _ | closedLease _ | marked _ | closedNext _ _ _ =>
    exact absurd rfl hnew
  | _ => rfl

/-- A caller whose claim is refused, and that nothing interrupts, leaves the desk as it was, but for
a try of the dialer. -/
theorem serves_refused {caller : Nat} {waiting : List Nat} {e : TransportError}
    (hclerk : q.clerk = .free) (hsignal : q.signalled = false) (hopen : q.desk.pool.closed = false)
    (hwaiting : q.waiting = caller :: waiting) (hslots : 0 < q.desk.pool.slotsPerLink)
    (hwrap : q.desk.pool.rotor + q.desk.pool.visits ≤ rotorPeriod)
    (h : q.desk.claim.answer = .error e) :
    ∃ (r : Queue) (notices : List Notice), q.Serves r notices ∧
      r.answered = q.answered ++ [(caller, .error e)] ∧
      (r.desk = q.desk ∨ r.desk = { q.desk with pool := q.desk.pool.asked }) := by
  refine ⟨_, _, run_claim hclerk hsignal hopen hwaiting, ?_, ?_⟩
  · rw [h]
  · exact Desk.next_of_refused hslots hwrap h

end Queue

/-! ## Refused claims -/

/-- Any run of moves on a pool that could be made, whatever its dialer does, as long as the counter
of visits has not started again from zero.

No claim asks the dialer more than once, and only if all slots are taken and links may be added;
a closed pool does not ask it.  A claim that is refused leaves the desk as it was: the links with
their counters and connections, the counter of visits, the slots that are held and whether the pool
is closed.  Only the dialer has counted a try if it was the one to refuse.  If it works when the
claim is repeated, the pool has one more link and the slot is granted there.

The same holds for the callers in the queue of the pool, whatever else happens meanwhile.  Of the
steps in which a caller is refused none touches the desk: it is found that there is no room, the
dialer is asked, which has counted a try then, and the refusal is handed over, or callers are turned
away.  A caller whose claim nothing interrupts leaves the desk as it was. -/
theorem refused_claim_keeps_pool {shape : PoolShape} {scheduler : Bool} {dialer : Dialer}
    {start : Desk} (hbuilt : (Desk.build shape scheduler dialer).answer = .ok start)
    {moves : List Move} (hwrap : start.visited moves ≤ rotorPeriod) :
    (∀ a ∈ start.turnsIn moves,
      let b := a.claim.next
      let allTaken := ∀ i < a.pool.size, a.live.count i = shape.slotsPerLink
      let mayGrow := shape.canGrow = true ∧ a.pool.size < shape.maxLinks
      (b.pool.dialer.calls = a.pool.dialer.calls ∨
        (b.pool.dialer.calls = a.pool.dialer.calls + 1 ∧ a.pool.closed = false ∧ allTaken ∧
          mayGrow)) ∧
      ∀ e, a.claim.answer = .error e →
        (a.pool.closed = true ∧ e = .shuttingDown ∧ b = a) ∨
        (a.pool.closed = false ∧ allTaken ∧ ¬ mayGrow ∧
          e = .exhausted (.allTaken a.live.length a.pool.size a.live.length) ∧ b = a) ∨
        (a.pool.closed = false ∧ allTaken ∧ mayGrow ∧
          (∃ refusal,
            a.pool.dialer.refusal (a.pool.dialer.calls + 1) a.pool.dialer.created =
              some refusal ∧ e = refusal.error) ∧
          b = { a with pool := a.pool.asked } ∧
          (b.pool.dialer.refusal (b.pool.dialer.calls + 1) b.pool.dialer.created = none →
            b.pool.rotor + b.pool.visits ≤ rotorPeriod →
            b.claim.answer = .ok { handle := a.leases.length, link := a.pool.size } ∧
            b.claim.next.pool.links = a.pool.links ++
              [{ id := a.pool.size, connection := some a.pool.dialer.created
                 streams := 1 }]))) ∧
    ∀ before : List QueueMove,
      let q := (start.queue.run before).next
      (∀ m, start.queue.visited (before ++ [m]) ≤ rotorPeriod →
        let r := (q.step m).next
        (∀ caller active, r.clerk ≠ q.clerk → r.clerk = .growing caller active →
          q.clerk = .called caller ∧ r.desk = q.desk) ∧
        (∀ caller e, r.clerk ≠ q.clerk → r.clerk = .answering caller (.error e) →
          (q.clerk = .called caller ∧ r.desk = q.desk) ∨
          ∃ active, q.clerk = .growing caller active ∧
            r.desk = { q.desk with pool := q.desk.pool.asked }) ∧
        (r.answered ≠ q.answered →
          (∀ answer ∈ r.answered.drop q.answered.length, ∃ e, answer.2 = .error e) →
          r.desk = q.desk)) ∧
      ∀ caller waiting e, q.clerk = .free → q.signalled = false → q.desk.pool.closed = false →
        q.waiting = caller :: waiting → q.desk.pool.rotor + q.desk.pool.visits ≤ rotorPeriod →
        q.desk.claim.answer = .error e →
        ∃ (r : Queue) (notices : List Notice), q.Serves r notices ∧
          r.answered = q.answered ++ [(caller, .error e)] ∧
          (r.desk = q.desk ∨ r.desk = { q.desk with pool := q.desk.pool.asked }) := by
  refine ⟨?_, ?_⟩
  · intro a ha b allTaken mayGrow
    rcases Desk.turn_of_build hbuilt hwrap ha with ⟨htallied, hsized, hpos, hwithin⟩
    have hactive : a.pool.active = a.live.length := htallied.active_eq
    have hall : a.pool.capacity ≤ a.pool.active → allTaken := fun hfull i hi =>
      (htallied.all_taken hfull hi).trans hsized.slotsPerLink
    have hgrow : a.pool.WantsLink → mayGrow := fun hwants =>
      ⟨hsized.canGrow ▸ hwants.canGrow, hsized.maxLinks ▸ hwants.size_lt⟩
    refine ⟨?_, ?_⟩
    · rw [show b.pool = a.pool.claim.next from a.pool_claim]
      rcases a.pool.calls_claim with ⟨hwants, hcalls⟩ | ⟨-, hsame⟩
      · exact Or.inr ⟨hcalls, hwants.opened, hall hwants.full, hgrow hwants⟩
      · exact Or.inl (congrArg Dialer.calls hsame)
    · intro e he
      rcases Desk.claim_of_error he with ⟨hanswer, hnext⟩
      have hb : b = { a with pool := a.pool.claim.next } := hnext
      rcases SlotPool.refused_cases hpos hwithin hanswer with
        ⟨-, ⟨hclosed, rfl, hsame⟩ | ⟨hopen, hfull, hnone, rfl, hsame⟩ |
          ⟨hwants, refusal, hrefused, rfl, hsame⟩⟩
      · rw [hsame] at hb
        exact Or.inl ⟨hclosed, rfl, hb⟩
      · rw [hsame] at hb
        have hcapacity : a.pool.capacity = a.live.length :=
          Nat.le_antisymm (hactive ▸ hfull) htallied.length_le
        refine Or.inr (Or.inl ⟨hopen, hall hfull, ?_, ?_, hb⟩)
        · rintro ⟨hmay, hless⟩
          exact hnone ⟨hopen, hfull, hsized.canGrow.trans hmay, hsized.maxLinks.symm ▸ hless⟩
        · rw [hactive, hcapacity]
      · rw [hsame] at hb
        refine Or.inr (Or.inr ⟨hwants.opened, hall hwants.full, hgrow hwants,
          ⟨refusal, hrefused, rfl⟩, hb, ?_⟩)
        intro hworks hrepeat
        -- nothing but the dialer has changed, so a link is still wanted
        have hstill : a.pool.asked.WantsLink :=
          ⟨hwants.opened, hwants.full, hwants.canGrow, hwants.size_lt⟩
        have hheld : a.pool.asked.Tallied a.live :=
          ⟨htallied.placed, htallied.counted, htallied.bounded, htallied.within⟩
        rw [hb] at hworks hrepeat ⊢
        rcases hheld.claim_grown hpos hstill (Dialer.connect_of_none hworks) hrepeat with
          ⟨hgranted, hlinks⟩
        refine ⟨Desk.claim_of_ok hgranted, ?_⟩
        rw [Desk.pool_claim]
        exact hlinks
  · intro before q
    have hslots : 0 < shape.slotsPerLink := shape.slots_pos (Desk.fresh_of_build hbuilt).1.checked
    have hsearches : q.Searches shape (0 + start.queue.visited before) :=
      Queue.searches_run (Queue.searches_of_build hbuilt) (Queue.sized_of_build hbuilt) hslots before
    rw [Nat.zero_add] at hsearches
    refine ⟨?_, ?_⟩
    · intro m hvisited r
      rw [Queue.visited_append] at hvisited
      have hbefore : start.queue.visited before ≤ rotorPeriod :=
        Nat.le_trans (Nat.le_add_right _ _) hvisited
      exact ⟨fun caller active => Queue.desk_of_growing,
        fun caller e => Queue.desk_of_decided hsearches hbefore, Queue.desk_of_refused⟩
    · intro caller waiting e hclerk hsignal hopen hwaiting hvisits hrefused
      have hsized := (Queue.sized_run (Queue.sized_of_build hbuilt) before).pool
      exact Queue.serves_refused hclerk hsignal hopen hwaiting (hsized.slotsPerLink.symm ▸ hslots)
        hvisits hrefused

/-- A dialer that refuses the second try. -/
def flakyDialer : Dialer where
  refusal tries _ := if tries = 2 then some { error := .connectionFailed "refused" } else none
  closeFault _ := none

/-- The desk that a small pool with such a dialer starts with. -/
def flakyDesk : Desk :=
  { smallDesk with
    pool := { smallDesk.pool with dialer := { flakyDialer with calls := 1, created := 1 } } }

/-- The third claim needs a second link and is refused, and the fourth one gets it. -/
theorem refused_claim_keeps_pool_flaky :
    (Desk.build smallShape true flakyDialer).answer = .ok flakyDesk ∧
    flakyDesk.visited [.burst 2, .claim] ≤ rotorPeriod ∧
    let a := flakyDesk.run [.burst 2]
    a.claim.answer = .error (.connectionFailed "refused") ∧
    a.claim.next = { a with pool := a.pool.asked } ∧
    a.claim.next.claim.answer = .ok { handle := 2, link := 1 } := by
  have hbuilt : (Desk.build smallShape true flakyDialer).answer = .ok flakyDesk := rfl
  have hwrap : flakyDesk.visited [.burst 2, .claim] ≤ rotorPeriod := by decide
  have hrefused : (flakyDesk.run [.burst 2]).claim.answer =
      .error (.connectionFailed "refused") := rfl
  refine ⟨hbuilt, hwrap, hrefused, ?_⟩
  rcases ((refused_claim_keeps_pool hbuilt hwrap).1 _ (flakyDesk.run_mem_turnsIn [.burst 2])).2 _
    hrefused with ⟨hclosed, -⟩ | ⟨-, -, hmay, -⟩ | ⟨-, -, -, -, hnext, hrepeat⟩
  · exact absurd hclosed (by decide)
  · exact absurd ⟨rfl, by decide⟩ hmay
  · exact ⟨hnext, (hrepeat rfl (by decide)).1⟩

end PubSub

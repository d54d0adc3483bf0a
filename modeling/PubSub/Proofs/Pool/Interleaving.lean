import PubSub.Pool.Queue
import PubSub.Proofs.Pool.Connections

/-!
# Interleavings

What the steps of claims, of callers and of the closing of a pool do, in whatever order they come.

A claim that is under way has a slot in hand between taking it and handing it over.  With that slot
counted among those that are held, the invariants of a pool hold after every single step, also in
the middle of claims.

* `Clerk.Proceeds`: every way in which a step of a claim can go.
* `Queue.Turn`: every way in which a turn of the clerk can go.
* `Queue.Happens`: every way in which a move can go; what follows about single steps is read off it.
* `Queue.Effect`: what a step can do to the pool and to the slots that are held.
* `Queue.Advances`: what a step does for the closing of the pool.
* `Queue.tallied_run`, `Queue.sized_run`, `Queue.kept_run`: the invariants after every run of steps.
-/

namespace PubSub

/-! ## Claims -/

namespace Clerk

/-- Whether a claim is in the middle of its decision. -/
def deciding : Clerk → Bool
  | .growing .. | .searching .. => true
  | .free | .called _ | .answering .. | .gone => false

/-- If the clerk is about to add a link, the pool may have one more. -/
def MayGrow (clerk : Clerk) (p : SlotPool) : Prop :=
  ∀ caller active, clerk = .growing caller active → p.canGrow = true ∧ p.size < p.maxLinks

/-- The ways in which a step of a claim can go: what the clerk was at and is at then, and the pool
after it. -/
inductive Proceeds (p : SlotPool) : Clerk → Clerk → SlotPool → Prop where
  | room {caller : Nat} (hroom : p.active < p.capacity) :
      Proceeds p (.called caller) (.searching caller p.capacity false) p
  | full {caller : Nat} (hfull : p.capacity ≤ p.active) (hgrow : p.canGrow = true)
      (hsize : p.size < p.maxLinks) : Proceeds p (.called caller) (.growing caller p.active) p
  | allTaken {caller : Nat} (hfull : p.capacity ≤ p.active)
      (hmax : p.canGrow = false ∨ p.maxLinks ≤ p.size) :
      Proceeds p (.called caller)
        (.answering caller (.error (.exhausted (.allTaken p.active p.size p.capacity)))) p
  | grown {caller active connection : Nat} {d : Dialer}
      (hmade : p.dialer.connect = (.ok connection, d)) :
      Proceeds p (.growing caller active)
        (.searching caller (p.withLink connection d).capacity true) (p.withLink connection d)
  | refused {caller active : Nat} {refusal : Refusal} {d : Dialer}
      (hmade : p.dialer.connect = (.error refusal, d)) :
      Proceeds p (.growing caller active) (.answering caller (.error refusal.error))
        { p with dialer := d }
  | found {caller visits link rotor : Nat} {grown : Bool}
      (hvisit : SlotPool.findFree p.links p.slotsPerLink 1 p.rotor = (some link, rotor)) :
      Proceeds p (.searching caller (visits + 1) grown) (.answering caller (.ok link))
        (p.withStream link rotor)
  | passed {caller visits rotor : Nat} {grown : Bool}
      (hvisit : SlotPool.findFree p.links p.slotsPerLink 1 p.rotor = (none, rotor)) :
      Proceeds p (.searching caller (visits + 1) grown) (.searching caller visits grown)
        { p with rotor := rotor }
  | noneFree {caller : Nat} {grown : Bool} :
      Proceeds p (.searching caller 0 grown)
        (.answering caller (.error (.exhausted (.noneFree p.capacity p.size)))) p

/-- The first step of a claim looks whether there is room. -/
theorem proceeds_called (p : SlotPool) (caller : Nat) :
    Proceeds p (.called caller) ((called caller).proceed p).next.1
      ((called caller).proceed p).next.2 := by
  simp only [proceed]
  split
  · exact .room ‹_›
  · rename_i hroom
    have hfull : p.capacity ≤ p.active := Nat.le_of_not_lt hroom
    split
    · rename_i hgrow
      rw [Bool.and_eq_true, decide_eq_true_eq] at hgrow
      exact .full hfull hgrow.1 hgrow.2
    · rename_i hgrow
      refine .allTaken hfull ?_
      cases hcan : p.canGrow with
      | false => exact Or.inl rfl
      | true => exact Or.inr (by simpa [hcan] using hgrow)

theorem proceeds_growing (p : SlotPool) (caller active : Nat) :
    Proceeds p (.growing caller active) ((growing caller active).proceed p).next.1
      ((growing caller active).proceed p).next.2 := by
  simp only [proceed, SlotPool.grow]
  cases hmade : p.dialer.connect with
  | mk made d =>
    cases made with
    | ok connection => exact .grown hmade
    | error refusal => exact .refused hmade

theorem proceeds_searching (p : SlotPool) (caller visits : Nat) (grown : Bool) :
    Proceeds p (.searching caller visits grown) ((searching caller visits grown).proceed p).next.1
      ((searching caller visits grown).proceed p).next.2 := by
  cases visits with
  | zero => exact .noneFree
  | succ visits =>
    simp only [proceed]
    split
    · exact .found ‹_›
    · exact .passed ‹_›

namespace Proceeds

variable {p q : SlotPool} {clerk next : Clerk}

theorem hand_eq_nil (h : Proceeds p clerk next q) : clerk.hand = [] := by
  cases h <;> rfl

theorem next_ne (h : Proceeds p clerk next q) : next ≠ clerk := by
  cases h <;> simp

theorem closed_eq (h : Proceeds p clerk next q) : q.closed = p.closed := by
  cases h <;> rfl

theorem size_le (h : Proceeds p clerk next q) : p.size ≤ q.size := by
  cases h with
  | grown _ =>
    rw [SlotPool.size_withLink]
    exact Nat.le_succ _
  | found _ => exact Nat.le_of_eq (SlotPool.size_withStream _ _ _).symm
  | _ => exact Nat.le_refl _

theorem alike (h : Proceeds p clerk next q) : p.Alike q := by
  cases h with
  | grown hmade => exact ⟨rfl, rfl, rfl, Dialer.refusal_connect hmade⟩
  | refused hmade => exact ⟨rfl, rfl, rfl, Dialer.refusal_connect hmade⟩
  | _ => exact ⟨rfl, rfl, rfl, rfl⟩

/-- A slot that is taken in a step is in hand then. -/
theorem tallied {live : List Nat} (h : Proceeds p clerk next q)
    (htallied : p.Tallied (clerk.hand ++ live)) : q.Tallied (next.hand ++ live) := by
  rw [h.hand_eq_nil] at htallied
  cases h with
  | grown _ => exact htallied.withLink _ _
  | found hvisit =>
    rcases SlotPool.findFree_some hvisit with ⟨l, hl, hfree⟩
    exact htallied.withStream hl hfree _
  | refused _ => exact ⟨htallied.placed, htallied.counted, htallied.bounded, htallied.within⟩
  | passed _ => exact ⟨htallied.placed, htallied.counted, htallied.bounded, htallied.within⟩
  | room _ | full _ _ _ | allTaken _ _ | noneFree => exact htallied

theorem sized {shape : PoolShape} (h : Proceeds p clerk next q) (hsized : p.Sized shape)
    (hmay : clerk.MayGrow p) : q.Sized shape := by
  have halike := h.alike
  cases h with
  | grown _ => exact hsized.withLink (hmay _ _ rfl).2 _ _
  | refused _ => exact hsized.congr halike rfl
  | found _ => exact hsized.congr halike (SlotPool.size_withStream _ _ _)
  | passed _ => exact hsized.congr halike rfl
  | room _ | full _ _ _ | allTaken _ _ | noneFree => exact hsized

/-- A link is added only after it was seen that this is allowed. -/
theorem mayGrow (h : Proceeds p clerk next q) : next.MayGrow q := by
  intro caller active hgrowing
  cases h with
  | full _ hgrow hsize => exact ⟨hgrow, hsize⟩
  | _ => cases hgrowing

/-- A step of a claim closes no connection. -/
theorem kept {dialer : Dialer} {told : List Nat} (h : Proceeds p clerk next q)
    (hkept : Links.Kept p.links p.dialer dialer told) :
    Links.Kept q.links q.dialer dialer told := by
  cases h with
  | grown hmade => exact hkept.add hmade
  | refused hmade =>
    rcases Dialer.of_connect_error hmade with ⟨-, rfl⟩
    exact hkept.congr (.refl _) rfl rfl
  | found _ =>
    exact hkept.congr (Links.sameConnections_modify _ _ (fun _ => rfl) (fun _ => rfl)) rfl rfl
  | room _ | full _ _ _ | allTaken _ _ | passed _ | noneFree => exact hkept

end Proceeds

end Clerk

/-! ## Steps -/

namespace Queue

variable {q q' : Queue}

/-- The queue when the clerk is at something else and the pool has changed. -/
def withPool (q : Queue) (clerk : Clerk) (p : SlotPool) : Queue :=
  { q with clerk, desk := { q.desk with pool := p } }

/-- The ways in which a turn of the clerk can go.  Once the signal was given, it does the steps of a
claim only if it had begun with it. -/
inductive Turn (q : Queue) : Queue → Prop where
  | claim {clerk : Clerk} {p : SlotPool} (hproceeds : q.clerk.Proceeds q.desk.pool clerk p)
      (hbegun : q.signalled = true → q.clerk.deciding = true) : Turn q (q.withPool clerk p)
  | stop (hsignal : q.signalled = true)
      (hclerk : q.clerk = .free ∨ ∃ caller, q.clerk = .called caller) : Turn q q.stop
  | call {caller : Nat} {waiting : List Nat} (hclerk : q.clerk = .free)
      (hsignal : q.signalled = false) (hwaiting : q.waiting = caller :: waiting) :
      Turn q { q with clerk := .called caller, waiting }
  | handOver {caller : Nat} {answer : Except TransportError Nat}
      (hclerk : q.clerk = .answering caller answer) : Turn q (q.handOver caller answer)
  | rest (hclerk : q.clerk = .gone ∨ (q.clerk = .free ∧ q.signalled = false ∧ q.waiting = [])) :
      Turn q q

theorem serve_turn (q : Queue) : Turn q q.serve.next := by
  unfold serve
  cases hclerk : q.clerk with
  | free =>
    cases hsignal : q.signalled with
    | true => exact .stop hsignal (Or.inl hclerk)
    | false =>
      simp only [Bool.false_eq_true, if_false]
      split
      · exact .rest (Or.inr ⟨hclerk, hsignal, ‹_›⟩)
      · exact .call hclerk hsignal ‹_›
  | called caller =>
    cases hsignal : q.signalled with
    | true => exact .stop hsignal (Or.inr ⟨caller, hclerk⟩)
    | false =>
      have hproceeds := Clerk.proceeds_called q.desk.pool caller
      rw [← hclerk] at hproceeds
      exact .claim hproceeds fun h => by cases hsignal.symm.trans h
  | growing caller active =>
    have hproceeds := Clerk.proceeds_growing q.desk.pool caller active
    rw [← hclerk] at hproceeds
    exact .claim hproceeds fun _ => by rw [hclerk]; rfl
  | searching caller visits grown =>
    have hproceeds := Clerk.proceeds_searching q.desk.pool caller visits grown
    rw [← hclerk] at hproceeds
    exact .claim hproceeds fun _ => by rw [hclerk]; rfl
  | answering caller answer => exact .handOver hclerk
  | gone => exact .rest (Or.inl hclerk)

/-- A turn that is no step of a claim comes between two claims, and leaves the pool alone. -/
theorem Turn.claims_or_idles (h : Turn q q') :
    (∃ clerk p, q.clerk.Proceeds q.desk.pool clerk p ∧ q' = q.withPool clerk p) ∨
      (q'.desk.pool = q.desk.pool ∧ q.clerk.deciding = false ∧ q'.clerk.deciding = false) := by
  cases h with
  | @claim clerk p hproceeds _ => exact Or.inl ⟨clerk, p, hproceeds, rfl⟩
  | stop _ hclerk =>
    refine Or.inr ⟨rfl, ?_, rfl⟩
    rcases hclerk with hclerk | ⟨caller, hclerk⟩ <;> rw [hclerk] <;> rfl
  | call hclerk _ _ => exact Or.inr ⟨rfl, by rw [hclerk]; rfl, rfl⟩
  | @handOver caller answer hclerk =>
    refine Or.inr ⟨?_, by rw [hclerk]; rfl, ?_⟩ <;> cases answer <;> rfl
  | rest hclerk =>
    have hidle : q.clerk.deciding = false := by
      rcases hclerk with hclerk | ⟨hclerk, -, -⟩ <;> rw [hclerk] <;> rfl
    exact Or.inr ⟨rfl, hidle, hidle⟩

/-! ### What a move does -/

/-- The place of a link, if there is one. -/
def placeOf (q : Queue) (link : Nat) : List Nat := if link < q.desk.pool.size then [link] else []

/-- The places of the links that callers tell to close with a move. -/
def asked (q : Queue) : QueueMove → List Nat
  | .closeLink link => q.placeOf link
  | .closeLease handle => (q.desk.held? handle).toList.flatMap q.placeOf
  | _ => []

/-- The places of the links that are told to close with a move. -/
def told (q : Queue) : QueueMove → List Nat
  | .finish =>
    match q.clerk, q.shutdown with
    | .gone, .closing next => q.placeOf next
    | _, _ => []
  | m => q.asked m

theorem told_finish {next : Nat} (hclerk : q.clerk = .gone)
    (hshutdown : q.shutdown = .closing next) : q.told .finish = q.placeOf next := by
  simp only [told, hclerk, hshutdown]

/-- The places of the held slots that are given back with a move. -/
def dropped (q : Queue) : QueueMove → List Nat
  | .drop handle => (q.desk.held? handle).toList
  | _ => []

/-- What a move comes to, and the queue after it. -/
inductive Happens (q : Queue) : QueueMove → Queue → Prop where
  /-- There is nothing to do. -/
  | nothing {m : QueueMove} (hm : m ≠ .serve) (htold : q.told m = [])
      (hdropped : q.dropped m = []) : Happens q m q
  | arrived (hopen : q.desk.pool.closed = false) :
      Happens q .call { q with callers := q.callers + 1, entering := q.entering ++ [q.callers] }
  | refused (hclosed : q.desk.pool.closed = true) :
      Happens q .call
        { q with callers := q.callers + 1, answered := q.answered ++ [turnedAway q.callers] }
  | joined {caller : Nat} (hentering : caller ∈ q.entering) (hclerk : q.clerk ≠ .gone) :
      Happens q (.join caller)
        { q with entering := q.entering.erase caller, waiting := q.waiting ++ [caller] }
  | late {caller : Nat} (hentering : caller ∈ q.entering) (hclerk : q.clerk = .gone) :
      Happens q (.join caller)
        { q with
          entering := q.entering.erase caller, answered := q.answered ++ [turnedAway caller] }
  | turnedBack {caller : Nat} (hentering : caller ∈ q.entering) :
      Happens q (.withdraw caller)
        { q with entering := q.entering.erase caller, left := q.left ++ [caller] }
  | leftLine {caller : Nat} (hwaiting : caller ∈ q.waiting) :
      Happens q (.withdraw caller)
        { q with waiting := q.waiting.erase caller, left := q.left ++ [caller] }
  | turn {q' : Queue} (hturn : Turn q q') : Happens q .serve q'
  /-- Nobody takes the slot in hand. -/
  | untaken {caller link : Nat} (hclerk : q.clerk = .answering caller (.ok link)) :
      Happens q .miss
        { q with
          clerk := .free, desk := { q.desk with pool := q.desk.pool.release link }
          left := q.left ++ [caller] }
  | unheard {caller : Nat} {e : TransportError} (hclerk : q.clerk = .answering caller (.error e)) :
      Happens q .miss { q with clerk := .free, left := q.left ++ [caller] }
  | gaveBack {handle link : Nat} (hheld : q.desk.held? handle = some link) :
      Happens q (.drop handle)
        { q with
          desk :=
            { q.desk with
              pool := q.desk.pool.release link, leases := q.desk.leases.set handle none } }
  | closedLink (link : Nat) :
      Happens q (.closeLink link) { q with desk := (q.desk.closeLink link).next }
  | closedLease {handle link : Nat} (hheld : q.desk.held? handle = some link) :
      Happens q (.closeLease handle) { q with desk := (q.desk.closeLink link).next }
  | marked (hopen : q.desk.pool.closed = false) :
      Happens q .close { q with desk := { q.desk with pool := q.desk.pool.markClosed } }
  | gaveSignal (hshutdown : q.shutdown = .pending) (hclosed : q.desk.pool.closed = true) :
      Happens q .signal { q with shutdown := .closing 0 }
  | closedNext {next : Nat} (hclerk : q.clerk = .gone) (hshutdown : q.shutdown = .closing next)
      (hnext : next < q.desk.pool.size) :
      Happens q .finish
        { q with desk := (q.desk.closeLink next).next, shutdown := .closing (next + 1) }
  | closedAll {next : Nat} (hclerk : q.clerk = .gone) (hshutdown : q.shutdown = .closing next)
      (hnext : q.desk.pool.size ≤ next) : Happens q .finish { q with shutdown := .complete }

theorem finish_happens (q : Queue) : Happens q .finish q.finish.next := by
  -- a link is closed only when the clerk has gone and the signal was given
  by_cases hcloses : ∃ next, q.clerk = .gone ∧ q.shutdown = .closing next
  · rcases hcloses with ⟨next, hclerk, hshutdown⟩
    by_cases hnext : next < q.desk.pool.size
    · have hl : q.desk.pool.links[next]? = some q.desk.pool.links[next] :=
        List.getElem?_eq_getElem hnext
      have hfinish : q.finish.next =
          { q with desk := (q.desk.closeLink next).next, shutdown := .closing (next + 1) } := by
        simp only [finish, hclerk, hshutdown, hl]
      exact hfinish ▸ .closedNext hclerk hshutdown hnext
    · have hl : q.desk.pool.links[next]? = none :=
        List.getElem?_eq_none_iff.2 (Nat.le_of_not_lt hnext)
      have hfinish : q.finish.next = { q with shutdown := .complete } := by
        simp only [finish, hclerk, hshutdown, hl]
      exact hfinish ▸ .closedAll hclerk hshutdown (Nat.le_of_not_lt hnext)
  · have hfinish : q.finish.next = q := by
      unfold finish
      split
      · exact absurd ⟨_, ‹_›, ‹_›⟩ hcloses
      · rfl
    have htold : q.told .finish = [] := by
      simp only [told]
      split
      · exact absurd ⟨_, ‹_›, ‹_›⟩ hcloses
      · rfl
    rw [hfinish]
    exact .nothing QueueMove.noConfusion htold rfl

/-- Nothing else can happen with a move. -/
theorem step_happens (q : Queue) (m : QueueMove) : Happens q m (q.step m).next := by
  cases m with
  | call =>
    simp only [step, call]
    split
    · exact .refused ‹_›
    · exact .arrived (Bool.eq_false_iff.2 ‹_›)
  | join caller =>
    simp only [step, join]
    split
    · rename_i hentering
      split
      · exact .late hentering ‹_›
      · rename_i hclerk
        exact .joined hentering hclerk
    · exact .nothing QueueMove.noConfusion rfl rfl
  | withdraw caller =>
    simp only [step, withdraw]
    split
    · exact .turnedBack ‹_›
    · split
      · exact .leftLine ‹_›
      · exact .nothing QueueMove.noConfusion rfl rfl
  | serve => exact .turn q.serve_turn
  | miss =>
    simp only [step, miss]
    split
    · exact .untaken ‹_›
    · exact .unheard ‹_›
    · exact .nothing QueueMove.noConfusion rfl rfl
  | drop handle =>
    simp only [step, Desk.drop]
    cases hheld : q.desk.held? handle with
    | none => exact .nothing QueueMove.noConfusion rfl (by rw [dropped, hheld]; rfl)
    | some link => exact .gaveBack hheld
  | closeLink link => exact .closedLink link
  | closeLease handle =>
    simp only [step, Desk.closeLease]
    cases hheld : q.desk.held? handle with
    | none => exact .nothing QueueMove.noConfusion (by simp [told, asked, hheld]) rfl
    | some link => exact .closedLease hheld
  | close =>
    simp only [step, close]
    split
    · exact .nothing QueueMove.noConfusion rfl rfl
    · exact .marked (Bool.eq_false_iff.2 ‹_›)
  | signal =>
    simp only [step, signal]
    cases hshutdown : q.shutdown with
    | pending =>
      simp only
      split
      · exact .gaveSignal hshutdown ‹_›
      · exact .nothing QueueMove.noConfusion rfl rfl
    | closing next => exact .nothing QueueMove.noConfusion rfl rfl
    | complete => exact .nothing QueueMove.noConfusion rfl rfl
  | finish => exact q.finish_happens

/-! ### What this does to the pool -/

/-- The clerk goes on without a step of a claim: it stays at what it is at, or it is between two
claims. -/
def Passes (clerk next : Clerk) : Prop :=
  next = clerk ∨ (clerk ≠ .gone ∧ next.deciding = false)

theorem Passes.eq_of_deciding {clerk next : Clerk} (h : Passes clerk next)
    (hdeciding : next.deciding = true) : next = clerk := by
  rcases h with hsame | ⟨-, hnot⟩
  · exact hsame
  · cases hnot.symm.trans hdeciding

/-- What a step can do to the pool and to the slots that are held.  It comes with the places of the
links that it tells to close. -/
inductive Effect (q q' : Queue) : List Nat → Prop where
  /-- The pool stays as it is; a slot may be handed over. -/
  | quiet (hpool : q'.desk.pool = q.desk.pool) (hheld : q.held.Perm q'.held)
      (hclerk : Passes q.clerk q'.clerk) : Effect q q' []
  | proceeded (hproceeds : q.clerk.Proceeds q.desk.pool q'.clerk q'.desk.pool)
      (hlive : q'.desk.live = q.desk.live) : Effect q q' []
  | released {link : Nat} (hpool : q'.desk.pool = q.desk.pool.release link)
      (hheld : q.held.Perm (link :: q'.held)) (hclerk : Passes q.clerk q'.clerk) : Effect q q' []
  | closed {link : Nat} (hpool : q'.desk.pool = (q.desk.pool.closeLink link).next)
      (hheld : q'.held = q.held) (hclerk : q'.clerk = q.clerk) :
      Effect q q' (if link < q.desk.pool.size then [link] else [])
  | marked (hpool : q'.desk.pool = q.desk.pool.markClosed) (hheld : q'.held = q.held)
      (hclerk : q'.clerk = q.clerk) : Effect q q' []

theorem effect_refl (q : Queue) : Effect q q [] := .quiet rfl (.refl _) (Or.inl rfl)

/-- Whoever comes, stands in line or leaves does not come near the pool. -/
theorem effect_of_eq (hdesk : q'.desk = q.desk) (hclerk : q'.clerk = q.clerk) : Effect q q' [] :=
  .quiet (by rw [hdesk]) (by rw [held, held, hdesk, hclerk]) (Or.inl hclerk)

theorem effect_stop (h : q.clerk.hand = []) (hgone : q.clerk ≠ .gone) : Effect q q.stop [] := by
  refine .quiet rfl ?_ (Or.inr ⟨hgone, rfl⟩)
  rw [held, h]
  exact .refl _

theorem effect_handOver {caller : Nat} {answer : Except TransportError Nat}
    (h : q.clerk = .answering caller answer) : Effect q (q.handOver caller answer) [] := by
  have hclerk : q.clerk ≠ .gone := by
    rw [h]
    exact Clerk.noConfusion
  cases answer with
  | error e =>
    refine .quiet rfl ?_ (Or.inr ⟨hclerk, rfl⟩)
    rw [held, h]
    exact .refl _
  | ok link =>
    -- the slot in hand becomes one that the caller holds
    refine .quiet rfl ?_ (Or.inr ⟨hclerk, rfl⟩)
    have hlive : (q.handOver caller (.ok link)).held = q.desk.live ++ [link] :=
      q.desk.live_grant link
    rw [hlive, held, h]
    exact List.perm_append_comm

theorem Turn.effect (h : Turn q q') : Effect q q' [] := by
  cases h with
  | claim hproceeds _ => exact .proceeded hproceeds rfl
  | stop _ hclerk =>
    rcases hclerk with hclerk | ⟨caller, hclerk⟩ <;>
      exact effect_stop (by rw [hclerk]; rfl) (by rw [hclerk]; exact Clerk.noConfusion)
  | call hclerk _ _ =>
    refine .quiet rfl ?_ (Or.inr ⟨by rw [hclerk]; exact Clerk.noConfusion, rfl⟩)
    rw [held, hclerk]
    exact .refl _
  | handOver hclerk => exact effect_handOver hclerk
  | rest _ => exact effect_refl q

theorem step_effect (q : Queue) (m : QueueMove) : Effect q (q.step m).next (q.told m) := by
  have hhappens := q.step_happens m
  generalize (q.step m).next = r at hhappens ⊢
  cases hhappens with
  | nothing _ htold _ => exact htold ▸ effect_refl q
  | turn hturn => exact hturn.effect
  | @untaken caller link hclerk =>
    -- the slot in hand is the one that is given back
    refine .released (show _ = q.desk.pool.release link from rfl) ?_
      (Or.inr ⟨by rw [hclerk]; exact Clerk.noConfusion, rfl⟩)
    rw [held, hclerk]
    exact .refl _
  | unheard hclerk =>
    refine .quiet rfl ?_ (Or.inr ⟨by rw [hclerk]; exact Clerk.noConfusion, rfl⟩)
    rw [held, hclerk]
    exact .refl _
  | gaveBack hheld =>
    refine .released rfl ?_ (Or.inl rfl)
    exact ((Desk.live_set hheld).append_left q.clerk.hand).trans List.perm_middle
  | closedLink link => exact .closed rfl rfl rfl
  | @closedLease handle link hheld =>
    have htold : q.told (.closeLease handle) = q.placeOf link := by simp [told, asked, hheld]
    exact htold ▸ .closed rfl rfl rfl
  | marked _ => exact .marked rfl rfl rfl
  | closedNext hclerk hshutdown _ => exact told_finish hclerk hshutdown ▸ .closed rfl rfl rfl
  | closedAll hclerk hshutdown hnext =>
    -- there is no link at this place any more, so none is told
    rw [told_finish hclerk hshutdown, placeOf, if_neg (Nat.not_lt.2 hnext)]
    exact effect_of_eq rfl rfl
  | _ => exact effect_of_eq rfl rfl

/-- Only its own turns and a caller who is gone bring the clerk on. -/
theorem clerk_step (q : Queue) {m : QueueMove} (hm : m ≠ .serve) :
    (q.step m).next.clerk = q.clerk ∨
      ((∃ caller answer, q.clerk = .answering caller answer) ∧ (q.step m).next.clerk = .free) := by
  have hhappens := q.step_happens m
  generalize (q.step m).next = r at hhappens ⊢
  cases hhappens with
  | turn _ => exact absurd rfl hm
  | untaken hclerk => exact Or.inr ⟨⟨_, _, hclerk⟩, rfl⟩
  | unheard hclerk => exact Or.inr ⟨⟨_, _, hclerk⟩, rfl⟩
  | _ => exact Or.inl rfl

/-! ### Closing the pool -/

namespace Effect

variable {places : List Nat}

theorem tallied (h : Effect q q' places) (htallied : q.desk.pool.Tallied q.held) :
    q'.desk.pool.Tallied q'.held := by
  cases h with
  | quiet hpool hheld _ => exact hpool.symm ▸ htallied.perm hheld
  | proceeded hproceeds hlive =>
    rw [held, hlive]
    exact hproceeds.tallied htallied
  | released hpool hheld _ => exact hpool.symm ▸ (htallied.perm hheld).release
  | closed hpool hheld _ =>
    rw [hpool, hheld]
    exact htallied.closeLink _
  | marked hpool hheld _ =>
    rw [hpool, hheld]
    exact ⟨htallied.placed, htallied.counted, htallied.bounded, htallied.within⟩

theorem alike (h : Effect q q' places) : q.desk.pool.Alike q'.desk.pool := by
  cases h with
  | quiet hpool _ _ => exact hpool.symm ▸ .refl _
  | proceeded hproceeds _ => exact hproceeds.alike
  | released hpool _ _ => exact hpool.symm ▸ SlotPool.alike_release _ _
  | closed hpool _ _ => exact hpool.symm ▸ SlotPool.alike_closeLink _ _
  | marked hpool _ _ => exact hpool.symm ▸ ⟨rfl, rfl, rfl, rfl⟩

/-- A step that is not one of a claim leaves the number of links as it is. -/
theorem passes_or_proceeds (h : Effect q q' places) :
    (q'.desk.pool.size = q.desk.pool.size ∧ Passes q.clerk q'.clerk) ∨
      q.clerk.Proceeds q.desk.pool q'.clerk q'.desk.pool := by
  cases h with
  | quiet hpool _ hclerk => exact Or.inl ⟨by rw [hpool], hclerk⟩
  | proceeded hproceeds _ => exact Or.inr hproceeds
  | released hpool _ hclerk => exact Or.inl ⟨by rw [hpool, SlotPool.size_release], hclerk⟩
  | closed hpool _ hclerk =>
    exact Or.inl ⟨by rw [hpool]; exact (Links.sameCounts_closeAt _ _ _).1, Or.inl hclerk⟩
  | marked hpool _ hclerk => exact Or.inl ⟨by rw [hpool]; rfl, Or.inl hclerk⟩

theorem size_le (h : Effect q q' places) : q.desk.pool.size ≤ q'.desk.pool.size := by
  rcases h.passes_or_proceeds with ⟨hsize, -⟩ | hproceeds
  · exact Nat.le_of_eq hsize.symm
  · exact hproceeds.size_le

/-- A pool that is marked as closed stays so. -/
theorem stays_closed (h : Effect q q' places) (hclosed : q.desk.pool.closed = true) :
    q'.desk.pool.closed = true := by
  cases h with
  | quiet hpool _ _ => exact hpool.symm ▸ hclosed
  | proceeded hproceeds _ => exact hproceeds.closed_eq.trans hclosed
  | released hpool _ _ => exact hpool.symm ▸ hclosed
  | closed hpool _ _ => exact hpool.symm ▸ hclosed
  | marked hpool _ _ => exact hpool.symm ▸ rfl

/-- The places that a step tells to close are added to those told before. -/
theorem kept {dialer : Dialer} {told : List Nat} (h : Effect q q' places)
    (hkept : Links.Kept q.desk.pool.links q.desk.pool.dialer dialer told) :
    Links.Kept q'.desk.pool.links q'.desk.pool.dialer dialer (told ++ places) := by
  cases h with
  | quiet hpool _ _ => simpa [hpool] using hkept
  | proceeded hproceeds _ => simpa using hproceeds.kept hkept
  | released hpool _ _ =>
    rw [hpool, List.append_nil]
    exact hkept.congr (SlotPool.sameConnections_release _ _) rfl rfl
  | @closed link hpool _ _ =>
    rw [hpool]
    split
    · exact hkept.closeAt ‹_›
    · rw [List.append_nil]
      exact hkept.closeAt_of_le (Nat.le_of_not_lt ‹_›)
  | marked hpool _ _ => simpa [hpool, SlotPool.markClosed] using hkept

end Effect

/-- The pool has the shape that it was built with, and the clerk is not about to add a link that
this does not allow. -/
structure Sized (q : Queue) (shape : PoolShape) : Prop where
  pool : q.desk.pool.Sized shape
  mayGrow : q.clerk.MayGrow q.desk.pool

theorem Effect.sized {shape : PoolShape} {places : List Nat} (h : Effect q q' places)
    (hsized : q.Sized shape) : q'.Sized shape := by
  rcases h.passes_or_proceeds with ⟨hsize, hclerk⟩ | hproceeds
  · refine ⟨hsized.pool.congr h.alike hsize, ?_⟩
    intro caller active hgrowing
    have hsame : q'.clerk = q.clerk := hclerk.eq_of_deciding (by rw [hgrowing]; rfl)
    have hmay := hsized.mayGrow caller active (hsame ▸ hgrowing)
    rw [hsize, h.alike.canGrow, h.alike.maxLinks]
    exact hmay
  · exact ⟨hproceeds.sized hsized.pool hsized.mayGrow, hproceeds.mayGrow⟩

/-! ### Runs -/

theorem run_append (q : Queue) (before after : List QueueMove) :
    q.run (before ++ after) =
      { answer := (), next := ((q.run before).next.run after).next
        notices := (q.run before).notices ++ ((q.run before).next.run after).notices } := by
  induction before generalizing q with
  | nil => simp [run]
  | cons m before ih => simp [run, ih]

theorem run_induction {P : Queue → Prop} (hstep : ∀ q m, P q → P (q.step m).next) (h : P q)
    (moves : List QueueMove) : P (q.run moves).next := by
  induction moves generalizing q with
  | nil => exact h
  | cons m moves ih => exact ih (hstep q m h)

theorem tallied_run (h : q.desk.pool.Tallied q.held) (moves : List QueueMove) :
    (q.run moves).next.desk.pool.Tallied (q.run moves).next.held :=
  run_induction (P := fun q => q.desk.pool.Tallied q.held)
    (fun q m htallied => (q.step_effect m).tallied htallied) h moves

theorem sized_run {shape : PoolShape} (h : q.Sized shape) (moves : List QueueMove) :
    (q.run moves).next.Sized shape :=
  run_induction (P := fun q => q.Sized shape) (fun q m hsized => (q.step_effect m).sized hsized) h
    moves

theorem closed_run (h : q.desk.pool.closed = true) (moves : List QueueMove) :
    (q.run moves).next.desk.pool.closed = true :=
  run_induction (P := fun q => q.desk.pool.closed = true)
    (fun q m hclosed => (q.step_effect m).stays_closed hclosed) h moves

theorem size_run_le (q : Queue) (moves : List QueueMove) :
    q.desk.pool.size ≤ (q.run moves).next.desk.pool.size := by
  induction moves generalizing q with
  | nil => exact Nat.le_refl _
  | cons m moves ih => exact Nat.le_trans (q.step_effect m).size_le (ih _)

/-- The places of the links that a run tells to close, in this order. -/
def toldIn (q : Queue) : List QueueMove → List Nat
  | [] => []
  | m :: moves => q.told m ++ (q.step m).next.toldIn moves

/-- At a new desk nobody stands in line, and the clerk is free. -/
theorem queue_of_build {shape : PoolShape} {scheduler : Bool} {dialer : Dialer} {start : Desk}
    (h : (Desk.build shape scheduler dialer).answer = .ok start) :
    start.queue = { desk := start } := by
  have hopen : start.pool.closed = false := (Desk.fresh_of_build h).1.notClosed
  simp [Desk.queue, hopen]

section Build

variable {shape : PoolShape} {scheduler : Bool} {dialer : Dialer} {start : Desk}

theorem tallied_of_build (h : (Desk.build shape scheduler dialer).answer = .ok start) :
    start.queue.desk.pool.Tallied start.queue.held := by
  rw [queue_of_build h]
  exact Desk.tallied_of_build h

theorem sized_of_build (h : (Desk.build shape scheduler dialer).answer = .ok start) :
    start.queue.Sized shape := by
  rw [queue_of_build h]
  exact ⟨(Desk.fresh_of_build h).1.sized, fun _ _ hgrowing => nomatch hgrowing⟩

end Build

end Queue

end PubSub

import PubSub.Pool.Roster
import PubSub.Proofs.Pool.Connections
import PubSub.Proofs.Pool.Construction

/-!
# Rotations

What a rotation does over whole runs.

Who is picked depends on the number of picks alone: the turns go round the links, closed ones
included, for as long as the counter of visits has not started again.  So a run says by itself which
links it tells to close, and the account of connections that stream pools have (`Links.Kept`) holds
for rotations too.

* `RosterMove.picks`, `RosterMove.told`: the links that a move picks, and those that it tells to
  close.
* `Roster.Turned`: the invariant, for the number of turns and the places told so far.
* `Roster.turned_step`, `Roster.turned_run`: every move and every run keeps it.
* `rotation_goes_round`: what follows for a new rotation.
-/

namespace PubSub

namespace RosterMove

/-- The number of links that a move picks. -/
def picks : RosterMove → Nat
  | .pick | .use => 1
  | .closePicked _ | .close => 0

/-- The places that a move tells to close, of so many links that were picked in turn so often.
There is nothing to close at a turn that has not come yet. -/
def told (count turns : Nat) : RosterMove → List Nat
  | .closePicked turn => if turn < turns then [turn % count] else []
  | .close => List.range count
  | .pick | .use => []

/-- A move tells all links to close, or the one that was picked at a turn. -/
theorem mem_told_iff {count : Nat} (hcount : 0 < count) {turns i : Nat} {m : RosterMove} :
    i ∈ m.told count turns ↔ i < count ∧
      (m = .close ∨ ∃ turn < turns, m = .closePicked turn ∧ turn % count = i) := by
  cases m with
  | pick | use => simp [told]
  | close => simp [told]
  | closePicked turn =>
    rw [told]
    by_cases hturn : turn < turns
    · rw [if_pos hturn, List.mem_singleton]
      constructor
      · rintro rfl
        exact ⟨Nat.mod_lt turn hcount, Or.inr ⟨turn, hturn, rfl, rfl⟩⟩
      · rintro ⟨-, hclose | ⟨other, -, hother, hplace⟩⟩
        · cases hclose
        · cases hother
          exact hplace.symm
    · rw [if_neg hturn]
      constructor
      · intro hnone
        cases hnone
      · rintro ⟨-, hclose | ⟨other, hless, hother, -⟩⟩
        · cases hclose
        · cases hother
          exact absurd hless hturn

end RosterMove

theorem Links.SameCounts.idle {ks ls : List Link} (h : SameCounts ks ls)
    (hidle : ∀ l ∈ ls, l.streams = 0) : ∀ k ∈ ks, k.streams = 0 := by
  intro k hk
  rcases List.mem_iff_getElem?.1 hk with ⟨i, hi⟩
  rcases h.2 i k hi with ⟨l, hl, -, hstreams⟩
  exact hstreams.trans (hidle l (List.mem_of_getElem? hl))

namespace Roster

/-- The number of links that a run picks. -/
def picksIn : List RosterMove → Nat
  | [] => 0
  | m :: moves => m.picks + picksIn moves

/-- The places that a run tells to close, in this order, if there have been so many turns before. -/
def toldIn (count : Nat) : Nat → List RosterMove → List Nat
  | _, [] => []
  | turns, m :: moves => m.told count turns ++ toldIn count (turns + m.picks) moves

/-- What a run tells to close was told by one of its moves, after the turns before that. -/
theorem mem_toldIn_iff {count turns i : Nat} {moves : List RosterMove} :
    i ∈ toldIn count turns moves ↔ ∃ before m after,
      moves = before ++ m :: after ∧ i ∈ m.told count (turns + picksIn before) := by
  induction moves generalizing turns with
  | nil => simp [toldIn]
  | cons m moves ih =>
    rw [toldIn, List.mem_append, ih]
    constructor
    · rintro (hnow | ⟨before, later, after, rfl, hlater⟩)
      · exact ⟨[], m, moves, rfl, hnow⟩
      · refine ⟨m :: before, later, after, rfl, ?_⟩
        rwa [picksIn, ← Nat.add_assoc]
    · rintro ⟨before, later, after, hmoves, hlater⟩
      cases before with
      | nil =>
        cases hmoves
        exact Or.inl hlater
      | cons _ before =>
        cases hmoves
        rw [picksIn, ← Nat.add_assoc] at hlater
        exact Or.inr ⟨before, later, after, rfl, hlater⟩

/-! ## The invariant -/

/-- A rotation of so many links that were made by a dialer and picked in turn so often.  The
connections are accounted for by the places told to close, and no link has streams. -/
structure Turned (r : Roster) (count : Nat) (dialer : Dialer) (turns : Nat) (told : List Nat) :
    Prop where
  kept : Links.Kept r.rotation.links r.rotation.dialer dialer told
  size : r.rotation.size = count
  rotor : r.rotation.rotor = turns % rotorPeriod
  picked : r.picked = (List.range turns).map (· % count)
  idle : ∀ l ∈ r.rotation.links, l.streams = 0

section

variable {r : Roster} {count : Nat} {dialer : Dialer} {turns : Nat} {told : List Nat}

namespace Turned

/-- The next link is the one whose turn it is, as long as the counter has not started again. -/
theorem pick_eq (h : r.Turned count dialer turns told) (hturns : turns < rotorPeriod) :
    r.pick.1 = turns % count := by
  show r.rotation.rotor % r.rotation.size = turns % count
  rw [h.rotor, h.size, Nat.mod_eq_of_lt hturns]

theorem pick (h : r.Turned count dialer turns told) (hturns : turns < rotorPeriod) :
    r.pick.2.Turned count dialer (turns + 1) told where
  kept := h.kept
  size := h.size
  rotor := by
    show nextVisit r.rotation.rotor = _
    rw [nextVisit, h.rotor, Nat.mod_add_mod]
  picked := by
    show r.picked ++ [r.pick.1] = _
    rw [h.picked, h.pick_eq hturns, List.range_succ, List.map_append, List.map_singleton]
  idle := h.idle

/-- What was picked at a turn that has come. -/
theorem picked_turn (h : r.Turned count dialer turns told) (turn : Nat) :
    r.picked[turn]? = if turn < turns then some (turn % count) else none := by
  rw [h.picked, List.getElem?_map]
  by_cases hturn : turn < turns
  · rw [List.getElem?_range hturn, if_pos hturn]
    rfl
  · rw [if_neg hturn, List.getElem?_eq_none (by simpa using hturn)]
    rfl

/-- The turns go round the links that there are. -/
theorem getElem?_turn (h : r.Turned count dialer turns told) (hcount : 0 < count) (turn : Nat) :
    ∃ l, r.rotation.links[turn % count]? = some l := by
  have hlength : r.rotation.links.length = count := h.size
  exact ⟨_, List.getElem?_eq_getElem (hlength.symm ▸ Nat.mod_lt turn hcount)⟩

theorem link? (h : r.Turned count dialer turns told) (hcount : 0 < count) {turn : Nat}
    (hturn : turn < turns) :
    ∃ l, r.link? turn = some l ∧ r.rotation.links[turn % count]? = some l := by
  rcases h.getElem?_turn hcount turn with ⟨l, hl⟩
  refine ⟨l, ?_, hl⟩
  rw [Roster.link?, h.picked_turn, if_pos hturn]
  exact hl

theorem closePicked (h : r.Turned count dialer turns told) (hcount : 0 < count) (turn : Nat) :
    (r.step (.closePicked turn)).Turned count dialer turns
      (told ++ RosterMove.told count turns (.closePicked turn)) := by
  show (((r.closePicked? turn).map (·.next)).getD r).Turned count dialer turns
    (told ++ if turn < turns then [turn % count] else [])
  rw [closePicked?, h.picked_turn]
  by_cases hturn : turn < turns
  · rcases h.getElem?_turn hcount turn with ⟨l, hl⟩
    have hcounts := Links.sameCounts_closeAt r.rotation.links (turn % count) r.rotation.dialer
    have hwithin : turn % count < r.rotation.links.length := (List.getElem?_eq_some_iff.1 hl).1
    rw [if_pos hturn, if_pos hturn]
    exact ⟨h.kept.closeAt hwithin, hcounts.1.trans h.size, h.rotor, h.picked, hcounts.idle h.idle⟩
  · rw [if_neg hturn, if_neg hturn, List.append_nil]
    exact h

theorem close (h : r.Turned count dialer turns told) :
    r.close.next.Turned count dialer turns (told ++ List.range count) := by
  have hcounts := Links.sameCounts_closeAll r.rotation.links r.rotation.dialer
  have hkept := h.kept.closeAll
  rw [show r.rotation.links.length = count from h.size] at hkept
  exact ⟨hkept, hcounts.1.trans h.size, h.rotor, h.picked, hcounts.idle h.idle⟩

end Turned

/-- Every move keeps the turns and the account of the connections. -/
theorem turned_step (h : r.Turned count dialer turns told) (hcount : 0 < count) (m : RosterMove)
    (hturns : turns + m.picks ≤ rotorPeriod) :
    (r.step m).Turned count dialer (turns + m.picks) (told ++ m.told count turns) := by
  cases m with
  | pick =>
    rw [RosterMove.told, List.append_nil]
    exact h.pick hturns
  | use =>
    rw [RosterMove.told, List.append_nil]
    exact h.pick hturns
  | closePicked turn => exact h.closePicked hcount turn
  | close => exact h.close

/-- The counter must not start again before the last pick of the run. -/
theorem turned_run (h : r.Turned count dialer turns told) (hcount : 0 < count)
    (moves : List RosterMove) (hturns : turns + picksIn moves ≤ rotorPeriod) :
    (r.run moves).Turned count dialer (turns + picksIn moves)
      (told ++ toldIn count turns moves) := by
  induction moves generalizing r turns told with
  | nil => simpa [picksIn, toldIn, run] using h
  | cons m moves ih =>
    have hsum : turns + picksIn (m :: moves) = turns + m.picks + picksIn moves := by
      rw [picksIn, ← Nat.add_assoc]
    rw [hsum] at hturns ⊢
    have hnow := turned_step h hcount m (Nat.le_trans (Nat.le_add_right _ _) hturns)
    have hrest := ih hnow hturns
    rw [List.append_assoc] at hrest
    exact hrest

end

/-- A new rotation has not turned yet. -/
theorem turned_of_makes {count : Nat} (dialer : Dialer) :
    Turned
      { rotation := { links := dialer.nextLinks count, dialer := dialer.making count } }
      count dialer 0 [] where
  kept :=
    { created := congrArg (dialer.created + ·) (dialer.length_nextLinks count).symm
      closed := (List.append_nil _).symm
      within := by
        intro i hi
        cases hi
      connection := by
        intro i l hl
        rw [if_neg List.not_mem_nil]
        exact congrArg Link.connection (Dialer.getElem?_nextLinks hl) }
  size := dialer.length_nextLinks count
  rotor := rfl
  picked := rfl
  idle := by
    intro l hl
    rcases List.mem_iff_getElem?.1 hl with ⟨i, hi⟩
    exact congrArg Link.streams (Dialer.getElem?_nextLinks hi)

end Roster

open Roster in
/-- A rotation for which all connections could be made, whatever its dialer does when it closes
them, after any run during which the counter of visits has not started again.

The links were picked in turn, and all of them are there and carry no streams.  The next one to be
used is the one whose turn it is; it answers with the connection that was made for it if it was not
told to close, and so does every link that was picked before.  A link was told to close if the
rotation was closed, or if the link was picked and then closed.

The dialer has closed the connections of the links that were told, each of them once and in the
order in which they were first told.  Closing the rotation closes those that are left, in the order
of the links; from then on every connection was closed once. -/
theorem rotation_goes_round (dialer : Dialer) {count : Nat} (hcount : 0 < count)
    (hmakes : dialer.Makes count) (moves : List RosterMove)
    (hturns : picksIn moves ≤ rotorPeriod) :
    ∃ rotation, (Rotation.build count dialer).answer = .ok rotation ∧
      let start : Roster := { rotation }
      let r := start.run moves
      let turns := picksIn moves
      let told := toldIn count 0 moves
      (r.picked = (List.range turns).map (· % count) ∧ r.rotation.size = count ∧
        (∀ l ∈ r.rotation.links, l.streams = 0) ∧
        r.rotation.dialer.created = dialer.created + count) ∧
      (turns < rotorPeriod → r.pick.1 = turns % count ∧
        r.use.1 = if turns % count ∈ told then .error .connectionClosed
          else .ok (dialer.created + turns % count)) ∧
      (∀ turn < turns, ∃ l, r.link? turn = some l ∧
        l.isClosed = decide (turn % count ∈ told) ∧
        l.connection? = if turn % count ∈ told then .error .connectionClosed
          else .ok (dialer.created + turn % count)) ∧
      (∀ i, i ∈ told ↔ ∃ before m after, moves = before ++ m :: after ∧ i < count ∧
        (m = .close ∨ ∃ turn < picksIn before, m = .closePicked turn ∧ turn % count = i)) ∧
      (r.rotation.dialer.closed = dialer.closed ++ told.eraseDups.map (dialer.created + ·) ∧
        (told.eraseDups.map (dialer.created + ·)).Nodup ∧
        (.close ∈ moves → (told.eraseDups.map (dialer.created + ·)).Perm
          ((List.range count).map (dialer.created + ·)))) ∧
      r.close.next.rotation.dialer.closed = r.rotation.dialer.closed ++
        ((List.range count).filter fun i => i ∉ told).map (dialer.created + ·) := by
  have hbuilt := ((Rotation.build_allOrNothing dialer hcount).all hmakes).1
  refine ⟨_, hbuilt, ?_⟩
  intro start r turns told
  have h : r.Turned count dialer turns told := by
    have hrun := turned_run (turned_of_makes dialer) hcount moves
      ((Nat.zero_add _).symm ▸ hturns)
    rw [Nat.zero_add, List.nil_append] at hrun
    exact hrun
  have hlength : r.rotation.links.length = count := h.size
  have htold (i : Nat) : i ∈ told ↔ ∃ before m after, moves = before ++ m :: after ∧ i < count ∧
      (m = .close ∨ ∃ turn < picksIn before, m = .closePicked turn ∧ turn % count = i) := by
    simp only [told, mem_toldIn_iff, RosterMove.mem_told_iff hcount, Nat.zero_add]
  refine ⟨⟨h.picked, h.size, h.idle, hlength ▸ h.kept.created⟩, ?_, ?_, htold,
    ⟨h.kept.closed, ?_, ?_⟩, ?_⟩
  · intro hless
    have hpick := h.pick_eq hless
    refine ⟨hpick, ?_⟩
    rcases h.getElem?_turn hcount turns with ⟨l, hl⟩
    show r.rotation.connectionAt r.pick.1 = _
    rw [hpick, Rotation.connectionAt, hl]
    exact (h.kept.connection? hl).2
  · intro turn hturn
    rcases h.link? hcount hturn with ⟨l, hlink, hl⟩
    exact ⟨l, hlink, h.kept.connection? hl⟩
  · exact (nodup_firsts told).map fun _ _ h => Nat.add_left_cancel h
  · intro hclose
    have hall : ∀ i < r.rotation.links.length, i ∈ told := by
      intro i hi
      rcases List.append_of_mem hclose with ⟨before, after, hmoves⟩
      exact (htold i).2 ⟨before, .close, after, hmoves, hlength ▸ hi, Or.inl rfl⟩
    exact (hlength ▸ h.kept.firsts_perm hall).map _
  · exact hlength ▸ h.kept.closed_closeAll

/-- A dialer that reports an error when it closes the second connection. -/
def touchyDialer : Dialer :=
  { Dialer.faultless with closeFault := fun c => if c = 1 then some .connectionClosed else none }

/-- The second of three links is closed by hand and has its turn again; then the rotation is closed,
and more is closed once more. -/
def fullTurn : List RosterMove :=
  [.pick, .use, .pick, .closePicked 5, .closePicked 1, .use, .use, .close, .closePicked 0, .pick,
    .close]

theorem rotation_goes_round_closed :
    0 < 3 ∧ touchyDialer.Makes 3 ∧ Roster.picksIn fullTurn ≤ rotorPeriod ∧
    ∃ rotation, (Rotation.build 3 touchyDialer).answer = .ok rotation ∧
      let start : Roster := { rotation }
      let r := start.run fullTurn
      r.picked = [0, 1, 2, 0, 1, 2] ∧ Roster.toldIn 3 0 fullTurn = [1, 0, 1, 2, 0, 0, 1, 2] ∧
      r.rotation.dialer.closed = [1, 0, 2] ∧ [1, 0, 2].Perm [0, 1, 2] ∧
      r.use.1 = .error .connectionClosed ∧ ∃ l, r.link? 4 = some l ∧ l.isClosed = true := by
  have hmakes : touchyDialer.Makes 3 := fun _ _ => rfl
  have hturns : Roster.picksIn fullTurn ≤ rotorPeriod := by decide
  rcases rotation_goes_round touchyDialer (by decide) hmakes fullTurn hturns with
    ⟨rotation, hbuilt, ⟨hpicked, -⟩, hnext, hlinks, -, ⟨hclosed, -, hall⟩, -⟩
  rcases hlinks 4 (by decide) with ⟨l, hl, hlclosed, -⟩
  exact ⟨by decide, hmakes, hturns, rotation, hbuilt, hpicked, by decide, hclosed,
    hall (by decide), (hnext (by decide)).2, l, hl, hlclosed⟩

end PubSub

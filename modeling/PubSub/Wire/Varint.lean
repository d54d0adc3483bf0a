/-!
# Variable-length numbers

A number travels as a list of bytes of seven bits each, least significant first; the top bit of a
byte says that another one follows.  Numbers of up to sixty-four bits take at most ten bytes, and
the tenth may only hold the last bit.  Longer spellings of small numbers are read as well.
-/

namespace PubSub

/-- A sequence of bytes. -/
abbrev Bytes := List UInt8

namespace Varint

/-- The bytes of a number, at most `width` of them. -/
def digits : Nat → Nat → Bytes
  | 0, _ => []
  | width + 1, n =>
    if n < 128 then [UInt8.ofNat n] else UInt8.ofNat (n % 128 + 128) :: digits width (n / 128)

/-- The bytes of a number of up to sixty-four bits. -/
def write (n : Nat) : Bytes := digits 10 n

/-- Reads a number of at most `width` bytes and returns it with the bytes behind it.  The last byte
of the full width holds a single bit. -/
def readDigits : Nat → Bytes → Option (Nat × Bytes)
  | 0, _ => none
  | _, [] => none
  | width + 1, b :: rest =>
    if b.toNat < 128 then
      if width = 0 ∧ 2 ≤ b.toNat then none else some (b.toNat, rest)
    else
      (readDigits width rest).map fun r => (b.toNat - 128 + 128 * r.1, r.2)

/-- Reads a number of up to sixty-four bits and returns it with the bytes behind it. -/
def read (bytes : Bytes) : Option (Nat × Bytes) := readDigits 10 bytes

/-! ## Reading what was written -/

/-- The numbers that can be read from at most `width` bytes lie below this bound. -/
def capacity : Nat → Nat
  | 0 => 0
  | 1 => 2
  | width + 2 => 128 * capacity (width + 1)

/-- Ten bytes hold sixty-four bits and no more. -/
theorem capacity_ten : capacity 10 = UInt64.size := rfl

theorem readDigits_digits (width n : Nat) (rest : Bytes) (h : n < capacity width) :
    readDigits width (digits width n ++ rest) = some (n, rest) := by
  induction width using capacity.induct generalizing n with
  | case1 => simp [capacity] at h
  | case2 =>
    simp only [capacity] at h
    have h8 : (UInt8.ofNat n).toNat = n := by simp; omega
    have hs : n < 128 := by omega
    simp only [digits, hs, if_true, List.cons_append, List.nil_append, readDigits, h8]
    simp; omega
  | case3 width ih =>
    simp only [capacity] at h
    by_cases hs : n < 128
    · have h8 : (UInt8.ofNat n).toNat = n := by simp; omega
      simp [digits, hs, readDigits, h8]
    · have h8 : (UInt8.ofNat (n % 128 + 128)).toNat = n % 128 + 128 := by simp; omega
      have hn : ¬ n % 128 + 128 < 128 := by omega
      have hq := ih (n / 128) (by omega)
      rw [digits, if_neg hs, List.cons_append, readDigits, h8, if_neg hn, hq]
      simp; omega

/-- A written number is read back, whatever follows it. -/
theorem read_write_append (n : Nat) (rest : Bytes) (h : n < UInt64.size) :
    read (write n ++ rest) = some (n, rest) :=
  readDigits_digits 10 n rest h

end Varint

end PubSub

import PubSub.Rpc.Address
import PubSub.Text.Numeral

/-!
# Numbered machines

The two kinds of numbers that machines have, and how they are written.

A number of thirty-two bits is written as four decimal numbers without leading zeros; the long
tradition also admits fewer than four numbers, of which the last fills the rest, and octal and
hexadecimal ones.  A number of a hundred and twenty-eight bits is written as eight groups of up to
four hexadecimal digits, of which one run of zero groups may be left out, and the last two may be
written in the first way.
-/

namespace PubSub

/-- The number of a machine: thirty-two bits, or eight groups of sixteen. -/
inductive IpAddress where
  | four (number : UInt32)
  | six (groups : List UInt16)
  deriving DecidableEq, Repr

namespace Address

/-- The parts of a text between the bytes of a kind. -/
def splitAt (mark : UInt8) : Bytes → List Bytes
  | [] => [[]]
  | b :: rest =>
    if b = mark then [] :: splitAt mark rest
    else
      match splitAt mark rest with
      | part :: parts => (b :: part) :: parts
      | [] => [[b]]

/-- Whether a byte is a decimal digit. -/
def isDigitByte (b : UInt8) : Bool := code '0' ≤ b && b ≤ code '9'

/-- The characters of an ASCII text. -/
def asciiChars (bytes : Bytes) : List Char := bytes.map fun b => Char.ofNat b.toNat

end Address

namespace IpAddress

open Address

/-! ## Digits -/

/-- The value of a digit in bases up to sixteen. -/
def digitValue? (b : UInt8) : Option Nat :=
  if isDigitByte b then some (b - code '0').toNat
  else if code 'a' ≤ b ∧ b ≤ code 'f' then some ((b - code 'a').toNat + 10)
  else if code 'A' ≤ b ∧ b ≤ code 'F' then some ((b - code 'A').toNat + 10)
  else none

/-- Reads digits in a base, of which there has to be one. -/
def readDigits? (base : Nat) (digits : Bytes) : Option Nat :=
  if digits.isEmpty then none
  else
    digits.foldlM
      (fun n b => (digitValue? b).bind fun d => if d < base then some (n * base + d) else none) 0

/-! ## Four numbers -/

/-- Reads a number below 256 without a leading zero. -/
def readOctet? (digits : Bytes) : Option Nat :=
  if digits.length ≤ 3 && (digits.length = 1 || digits.head? != some (code '0')) then
    (readDigits? 10 digits).filter (· < 256)
  else none

/-- The number that has these in base 256. -/
def ofOctets (octets : List Nat) : UInt32 :=
  UInt32.ofNat (octets.foldl (fun n octet => n * 256 + octet) 0)

/-- Reads four numbers. -/
def readQuad? (host : Bytes) : Option UInt32 :=
  match (splitAt (code '.') host).mapM readOctet? with
  | some octets => if octets.length = 4 then some (ofOctets octets) else none
  | none => none

/-- Reads a number that its beginning marks as octal or hexadecimal. -/
def readAnyBase? : Bytes → Option Nat
  | [] => none
  | [b] => readDigits? 10 [b]
  | b :: c :: rest =>
    if b ≠ code '0' then readDigits? 10 (b :: c :: rest)
    else if c = code 'x' ∨ c = code 'X' then readDigits? 16 rest
    else readDigits? 8 (c :: rest)

/-- Reads one to four numbers in any base, of which the last fills what the others leave. -/
def readLoose? (host : Bytes) : Option UInt32 :=
  match (splitAt (code '.') host).mapM readAnyBase? with
  | none => none
  | some parts =>
    let room := Nat.pow 256 (5 - parts.length)
    match parts.getLast? with
    | none => none
    | some last =>
      if parts.length ≤ 4 ∧ parts.dropLast.all (· < 256) ∧ last < room then
        some (UInt32.ofNat (parts.dropLast.foldl (fun n octet => n * 256 + octet) 0 * room + last))
      else none

/-! ## Eight groups -/

/-- Reads a group of up to four digits. -/
def readGroup? (digits : Bytes) : Option UInt16 :=
  if digits.length ≤ 4 then (readDigits? 16 digits).map UInt16.ofNat else none

/-- Reads groups, of which the last two may be given by four numbers. -/
def readGroups? (quadAllowed : Bool) : List Bytes → Option (List UInt16)
  | [] => some []
  | [part] =>
    match readGroup? part with
    | some group => some [group]
    | none =>
      if quadAllowed then
        (readQuad? part).map fun n =>
          [UInt16.ofNat (n.toNat / 65536), UInt16.ofNat (n.toNat % 65536)]
      else none
  | part :: rest => do
    let group ← readGroup? part
    let groups ← readGroups? quadAllowed rest
    some (group :: groups)

/-- What stands in front of the first pair of colons, and what behind it. -/
def splitGap : Bytes → Option (Bytes × Bytes)
  | [] => none
  | [_] => none
  | b :: c :: rest =>
    if b = code ':' ∧ c = code ':' then some ([], rest)
    else (splitGap (c :: rest)).map fun halves => (b :: halves.1, halves.2)

/-- Reads one side of a pair of colons. -/
def readSide? (quadAllowed : Bool) (side : Bytes) : Option (List UInt16) :=
  if side.isEmpty then some [] else readGroups? quadAllowed (splitAt (code ':') side)

/-- Reads eight groups; a pair of colons stands for at least one that is left out. -/
def readSix? (host : Bytes) : Option (List UInt16) :=
  match splitGap host with
  | none => (readGroups? true (splitAt (code ':') host)).filter (·.length = 8)
  | some (front, back) => do
    let head ← readSide? false front
    let tail ← readSide? true back
    if head.length + tail.length < 8 then
      some (head ++ List.replicate (8 - head.length - tail.length) 0 ++ tail)
    else none

/-- Reads a number in one of its two strict forms. -/
def read? (host : Bytes) : Option IpAddress :=
  match readQuad? host with
  | some number => some (four number)
  | none => (readSix? host).map six

/-! ## Text -/

/-- The four numbers of a number. -/
def quadText (n : UInt32) : String :=
  let octet (place : Nat) : String := toString (n.toNat / Nat.pow 256 place % 256)
  ".".intercalate [octet 3, octet 2, octet 1, octet 0]

/-- The groups with colons between them. -/
def groupsText (groups : List UInt16) : String :=
  ":".intercalate (groups.map fun g => String.ofList (Nat.toDigits 16 g.toNat))

/-- How many zero groups begin at each place. -/
def zeroRuns : List UInt16 → List Nat
  | [] => []
  | group :: rest => ((group :: rest).takeWhile (· == 0)).length :: zeroRuns rest

/-- The text of a number.  Of eight groups, the first of the longest runs of zeros is left out, if
that is two groups or more; a number that stands for one of the other kind shows it. -/
def text : IpAddress → String
  | four n => quadText n
  | six groups =>
    if groups.take 6 = [0, 0, 0, 0, 0, 0xFFFF] then
      "::ffff:" ++ quadText
        (UInt32.ofNat ((groups.drop 6).foldl (fun n group => n * 65536 + group.toNat) 0))
    else
      let run := (zeroRuns groups).foldl max 0
      if run < 2 then groupsText groups
      else
        let start := (zeroRuns groups).idxOf run
        groupsText (groups.take start) ++ "::" ++ groupsText (groups.drop (start + run))

end IpAddress

end PubSub

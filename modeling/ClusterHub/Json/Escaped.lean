/-!
# Quoted text

The characters between the quotes of a JSON string, as they are spelled.  The
spelling is kept as octets and only read when its text is asked for: a member
that nobody reads may hold octets that are not UTF-8 or half of a surrogate
pair.  Writing escapes the quote, the backslash and the control characters
below the space, and nothing else.
-/

namespace ClusterHub.Json

/-- The spelling of a string: the octets between its quotes. -/
structure Escaped where
  octets : List UInt8
deriving DecidableEq, Repr, Inhabited

namespace Escaped

/-- The octet of a quotation mark. -/
abbrev quote : UInt8 := 0x22

/-- The octet of a backslash. -/
abbrev backslash : UInt8 := 0x5C

/-- The octet that starts an escape by number, the letter `u`. -/
abbrev letterU : UInt8 := 0x75

/-- The value of a hexadecimal digit. -/
def hexValue? (b : UInt8) : Option Nat :=
  if 0x30 ≤ b ∧ b ≤ 0x39 then some (b.toNat - 0x30)
  else if 0x41 ≤ b ∧ b ≤ 0x46 then some (b.toNat - 0x37)
  else if 0x61 ≤ b ∧ b ≤ 0x66 then some (b.toNat - 0x57)
  else none

/-- The number named by four hexadecimal digits. -/
def hexValue4? (a b c d : UInt8) : Option Nat := do
  let a ← hexValue? a
  let b ← hexValue? b
  let c ← hexValue? c
  let d ← hexValue? d
  return 4096 * a + 256 * b + 16 * c + d

/-- The octet that a one-letter escape stands for. -/
def shortEscape? (b : UInt8) : Option UInt8 :=
  if b = quote ∨ b = backslash ∨ b = 0x2F then some b
  else if b = 0x62 then some 0x08
  else if b = 0x66 then some 0x0C
  else if b = 0x6E then some 0x0A
  else if b = 0x72 then some 0x0D
  else if b = 0x74 then some 0x09
  else none

/-- A hexadecimal digit in lower case; meant for `n < 16`. -/
def hexDigit (n : Nat) : UInt8 :=
  if n < 10 then UInt8.ofNat (0x30 + n) else UInt8.ofNat (0x57 + n)

/-- The spelling of one octet of a text. -/
def escapeOctet (b : UInt8) : List UInt8 :=
  if b = quote then [backslash, quote]
  else if b = backslash then [backslash, backslash]
  else if 0x20 ≤ b then [b]
  else if b = 0x08 then [backslash, 0x62]
  else if b = 0x09 then [backslash, 0x74]
  else if b = 0x0A then [backslash, 0x6E]
  else if b = 0x0C then [backslash, 0x66]
  else if b = 0x0D then [backslash, 0x72]
  else [backslash, letterU, 0x30, 0x30, hexDigit (b.toNat / 16), hexDigit (b.toNat % 16)]

/-- The spelling of a text. -/
def ofString (s : String) : Escaped :=
  ⟨s.toUTF8.data.toList.flatMap escapeOctet⟩

/-- Take a spelling, up to its closing quote, off the front of a text.  Escapes
must be complete, and control characters must be escaped. -/
def scan : List UInt8 → Option (List UInt8 × List UInt8)
  | [] => none
  | 0x22 :: rest => some ([], rest)
  | 0x5C :: 0x75 :: a :: b :: c :: d :: rest => do
      let _ ← hexValue4? a b c d
      let (body, rest) ← scan rest
      return (0x5C :: 0x75 :: a :: b :: c :: d :: body, rest)
  | 0x5C :: e :: rest => do
      let _ ← shortEscape? e
      let (body, rest) ← scan rest
      return (0x5C :: e :: body, rest)
  | b :: rest => do
      if b < 0x20 then none
      let (body, rest) ← scan rest
      return (b :: body, rest)

/-- A part of a spelling: an octet of the text, or a number of 16 bits. -/
inductive Piece
  | octet (b : UInt8)
  | unit (n : Nat)
deriving DecidableEq, Repr

/-- Split a spelling into its parts. -/
def pieces? : List UInt8 → Option (List Piece)
  | [] => some []
  | 0x5C :: 0x75 :: a :: b :: c :: d :: rest => do
      let n ← hexValue4? a b c d
      let tail ← pieces? rest
      return .unit n :: tail
  | 0x5C :: e :: rest => do
      let b ← shortEscape? e
      let tail ← pieces? rest
      return .octet b :: tail
  | b :: rest => do
      if b = backslash then none
      let tail ← pieces? rest
      return .octet b :: tail

/-- Whether a number is the first half of a surrogate pair. -/
def isHigh (n : Nat) : Bool := 0xD800 ≤ n && n < 0xDC00

/-- Whether a number is the second half of a surrogate pair. -/
def isLow (n : Nat) : Bool := 0xDC00 ≤ n && n < 0xE000

/-- The octets that parts stand for; halves of surrogate pairs must come in
pairs. -/
def join? : List Piece → Option (List UInt8)
  | [] => some []
  | .octet b :: rest => do
      let tail ← join? rest
      return b :: tail
  | .unit high :: .unit low :: rest =>
      if isHigh high then
        if isLow low then do
          let tail ← join? rest
          let c := Char.ofNat (0x10000 + 0x400 * (high - 0xD800) + (low - 0xDC00))
          return String.utf8EncodeChar c ++ tail
        else none
      else if isLow high then none
      else do
        let tail ← join? (.unit low :: rest)
        return String.utf8EncodeChar (Char.ofNat high) ++ tail
  | .unit n :: rest =>
      if isHigh n || isLow n then none
      else do
        let tail ← join? rest
        return String.utf8EncodeChar (Char.ofNat n) ++ tail

/-- The octets that a spelling stands for. -/
def unescape? (octets : List UInt8) : Option (List UInt8) :=
  (pieces? octets).bind join?

/-- The text that a spelling stands for. -/
def text? (e : Escaped) : Option String :=
  (unescape? e.octets).bind fun octets => String.fromUTF8? ⟨octets.toArray⟩

end Escaped

end ClusterHub.Json

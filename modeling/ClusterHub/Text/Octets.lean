/-!
# Text in octets

Reading octets as UTF-8.  `String.fromUTF8?` refuses octets that are not
UTF-8; `lossy` puts a replacement character in the place of every part that
cannot be read.  Such a part is as long as it could still have been the start
of a character.
-/

namespace ClusterHub.Text

/-- The character that stands for what cannot be read. -/
def replacement : Char := '\uFFFD'

/-- Whether an octet continues a character. -/
def isContinuation (b : UInt8) : Bool := 0x80 ≤ b && b ≤ 0xBF

/-- How a character of several octets goes on after its first: how many octets
follow, and the range that the next one must lie in. -/
def opening? (b : UInt8) : Option (Nat × UInt8 × UInt8) :=
  if 0xC2 ≤ b ∧ b ≤ 0xDF then some (1, 0x80, 0xBF)
  else if b = 0xE0 then some (2, 0xA0, 0xBF)
  else if b = 0xED then some (2, 0x80, 0x9F)
  else if 0xE1 ≤ b ∧ b ≤ 0xEF then some (2, 0x80, 0xBF)
  else if b = 0xF0 then some (3, 0x90, 0xBF)
  else if 0xF1 ≤ b ∧ b ≤ 0xF3 then some (3, 0x80, 0xBF)
  else if b = 0xF4 then some (3, 0x80, 0x8F)
  else none

/-- A character whose octets have been read in part: how many are missing, the
range of the next one, and the bits so far. -/
structure Partial where
  missing : Nat
  low : UInt8
  high : UInt8
  bits : Nat

/-- The bits of a first octet, before which `missing` others follow. -/
def leadingBits (missing : Nat) (b : UInt8) : Nat :=
  b.toNat % Nat.pow 2 (6 - missing)

/-- Read octets, given what has been read of the present character. -/
def lossyFrom : Option Partial → List UInt8 → List Char
  | none, [] => []
  | some _, [] => [replacement]
  | none, b :: rest =>
      if b < 0x80 then Char.ofNat b.toNat :: lossyFrom none rest
      else match opening? b with
        | none => replacement :: lossyFrom none rest
        | some (missing, low, high) =>
            lossyFrom (some ⟨missing, low, high, leadingBits missing b⟩) rest
  | some p, b :: rest =>
      if p.low ≤ b ∧ b ≤ p.high then
        let bits := 64 * p.bits + b.toNat % 64
        if p.missing ≤ 1 then Char.ofNat bits :: lossyFrom none rest
        else lossyFrom (some ⟨p.missing - 1, 0x80, 0xBF, bits⟩) rest
      else if b < 0x80 then replacement :: Char.ofNat b.toNat :: lossyFrom none rest
      else match opening? b with
        | none => replacement :: replacement :: lossyFrom none rest
        | some (missing, low, high) =>
            replacement ::
              lossyFrom (some ⟨missing, low, high, leadingBits missing b⟩) rest

/-- The text of octets, with replacements for what is not UTF-8. -/
def lossy (octets : ByteArray) : String :=
  match String.fromUTF8? octets with
  | some s => s
  | none => String.ofList (lossyFrom none octets.data.toList)

end ClusterHub.Text

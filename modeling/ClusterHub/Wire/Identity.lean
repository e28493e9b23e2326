import ClusterHub.Json.Escaped

/-!
# Made-up identities

An identity for somebody who was given none, from 128 bits that are supposed
to be random: 32 hexadecimal digits in five groups, with the digits that mark
the identity as a random one.
-/

namespace ClusterHub.Identity

/-- The lowest `count` hexadecimal digits of a number, the highest first. -/
def hexDigits : Nat → Nat → List Char
  | 0, _ => []
  | count + 1, n => hexDigits count (n / 16) ++ [Char.ofUInt8 (Json.Escaped.hexDigit (n % 16))]

/-- The identity that is made of some bits.  Six of the 128 bits are fixed. -/
def ofBits (bits : Nat) : String :=
  let digits := hexDigits 30 bits
  let variant := Char.ofUInt8 (Json.Escaped.hexDigit (8 + bits / Nat.pow 16 30 % 4))
  String.ofList (digits.take 8 ++ ['-'] ++ (digits.drop 8).take 4 ++ ['-', '4'] ++
    (digits.drop 12).take 3 ++ ['-', variant] ++ (digits.drop 15).take 3 ++ ['-'] ++
    digits.drop 18)

/-- The identity that was given, or one made of some bits if it is empty. -/
def orRandom (given : String) (bits : Nat) : String :=
  if given.isEmpty then ofBits bits else given

theorem length_hexDigits (count n : Nat) : (hexDigits count n).length = count := by
  induction count generalizing n with
  | zero => rfl
  | succ count ih => simp [hexDigits, ih]

/-- Made-up identities have 36 characters. -/
theorem length_ofBits (bits : Nat) : (ofBits bits).length = 36 := by
  have length := length_hexDigits 30 bits
  unfold ofBits
  generalize hexDigits 30 bits = digits at length
  simp only [String.length_ofList, List.length_append, List.length_take, List.length_drop,
    List.length_cons, List.length_nil, length]
  rfl

end ClusterHub.Identity

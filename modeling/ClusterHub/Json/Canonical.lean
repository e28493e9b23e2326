import ClusterHub.Decimal.Layout
import ClusterHub.Json.Reading

/-!
# Canonical values

One spelling for each value of arbitrary JSON: members in ascending order of
their keys, of two with one key the later, strings with the fewest escapes,
integers of up to 64 bits as they are, and every other number as the double
that it is read as, with the fewest digits that tell it from others.  Of two
such spellings that are equally near, the one with an even last digit is taken.
-/

namespace ClusterHub.Json

open Decimal

/-- The digits of a number as those after the point of a numeral. -/
def fractionDigits (cs : List Char) : List (Fin 10) :=
  cs.map Numeral.digitOfChar

/-- The numeral of a decimal.  From 10^16 on, and below 10^-5, it has an
exponent; without one it has a point and at least one digit after it. -/
def Numeral.ofScientific (negative : Bool) (d : Scientific) : Numeral :=
  let ds := Text.digits d.mantissa
  let point := d.point
  if 0 ≤ d.power ∧ point ≤ 16 then
    ⟨negative, d.mantissa * Nat.pow 10 d.power.toNat, some [Numeral.zeroDigit], none⟩
  else if 0 < point ∧ point ≤ 16 then
    ⟨negative, Text.value (ds.take point.toNat), some (fractionDigits (ds.drop point.toNat)), none⟩
  else if -5 < point ∧ point ≤ 0 then
    ⟨negative, 0, some (List.replicate point.natAbs Numeral.zeroDigit ++ fractionDigits ds), none⟩
  else
    let fraction := fractionDigits (ds.drop 1)
    ⟨negative, Text.value (ds.take 1), if fraction.isEmpty then none else some fraction,
      some (point - 1)⟩

/-- The numeral of a double; one that is not finite has none. -/
def Numeral.ofFloat? (x : Float) : Option Numeral :=
  match Double.ofFloat x with
  | .nan => none
  | .infinite _ => none
  | .zero negative => some ⟨negative, 0, some [Numeral.zeroDigit], none⟩
  | .finite negative magnitude => some (.ofScientific negative (magnitude.shortest .toEven))

/-- The canonical spelling of a number. -/
def Numeral.canonical? (n : Numeral) : Option Numeral :=
  let integer := n.fraction.isNone && n.exponent.isNone
  let fits := if n.negative then 0 < n.whole && n.whole ≤ Nat.pow 2 63
    else n.whole < Nat.pow 2 64
  if integer && fits then some n
  else n.toFloat?.bind Numeral.ofFloat?

mutual

/-- The canonical spelling of a value, if all its strings are text and all its
numbers finite. -/
def canonical? : Json → Option Json
  | .null => some .null
  | .bool b => some (.bool b)
  | .number n => n.canonical?.map .number
  | .string e => e.text?.map ofText
  | .array items => (canonicalItems? items).map .array
  | .object members => do
      let pairs ← canonicalMembers? members
      return ofTextMap id (mapOfPairs pairs)

/-- The canonical spellings of items. -/
def canonicalItems? : List Json → Option (List Json)
  | [] => some []
  | item :: items => do
      let item ← canonical? item
      let items ← canonicalItems? items
      return item :: items

/-- The canonical spellings of members, with their keys. -/
def canonicalMembers? : List (Escaped × Json) → Option (List (String × Json))
  | [] => some []
  | (key, value) :: members => do
      let name ← key.text?
      let value ← canonical? value
      let members ← canonicalMembers? members
      return (name, value) :: members

end

/-- Read any value, in its canonical spelling. -/
def any : Reading Json := fun _ value =>
  if canHold maxDepth value then canonical? value else none

end ClusterHub.Json

import ClusterHub.Text.Digits

/-!
# Numerals

Numbers as JSON spells them: an optional minus, a whole part without leading
zeros, and perhaps a fraction and an exponent.  A numeral is an integer only if
it is written as one, without fraction or exponent.
-/

namespace ClusterHub.Json

/-- The spelling of a number.  `fraction` holds the digits after the point. -/
structure Numeral where
  negative : Bool := false
  whole : Nat
  fraction : Option (List (Fin 10)) := none
  exponent : Option Int := none
deriving DecidableEq, Repr

namespace Numeral

instance : Inhabited Numeral := ⟨⟨false, 0, none, none⟩⟩

/-- The numeral of a natural number. -/
def ofNat (n : Nat) : Numeral := ⟨false, n, none, none⟩

/-- The numeral of an integer. -/
def ofInt (n : Int) : Numeral := ⟨n < 0, n.natAbs, none, none⟩

/-- The natural number that is spelled, if the numeral is that of one.  A minus
is refused even before zero. -/
def nat? (n : Numeral) : Option Nat :=
  if n.negative || n.fraction.isSome || n.exponent.isSome then none else some n.whole

/-- The octet of a digit. -/
def digitOctet (d : Fin 10) : UInt8 := UInt8.ofNat (0x30 + d.val)

/-- The digit of an octet, if it is one. -/
def digit? (b : UInt8) : Option (Fin 10) :=
  if h : 0x30 ≤ b.toNat ∧ b.toNat < 0x3A then some ⟨b.toNat - 0x30, by omega⟩ else none

/-- The octets of the decimal digits of a number. -/
def wholeOctets (n : Nat) : List UInt8 :=
  (Text.digits n).map Char.toUInt8

/-- The octets of a numeral; its exponent has a sign. -/
def octets (n : Numeral) : List UInt8 :=
  (if n.negative then [0x2D] else []) ++ wholeOctets n.whole ++
    (match n.fraction with
      | none => []
      | some ds => 0x2E :: ds.map digitOctet) ++
    (match n.exponent with
      | none => []
      | some e => 0x65 :: (if e < 0 then 0x2D else 0x2B) :: wholeOctets e.natAbs)

/-- Take the digits off the front of a text. -/
def takeDigits : List UInt8 → List (Fin 10) × List UInt8
  | [] => ([], [])
  | b :: rest =>
      match digit? b with
      | none => ([], b :: rest)
      | some d =>
          let (ds, rest) := takeDigits rest
          (d :: ds, rest)

/-- The number that a list of digits names. -/
def value (ds : List (Fin 10)) : Nat :=
  ds.foldl (fun n d => 10 * n + d.val) 0

/-- Read a whole part: `0` alone, or digits that start with another one. -/
def scanWhole (s : List UInt8) : Option (Nat × List UInt8) :=
  match takeDigits s with
  | ([], _) => none
  | (d :: ds, rest) => if d = 0 ∧ ds ≠ [] then none else some (value (d :: ds), rest)

/-- Read an optional fraction. -/
def scanFraction : List UInt8 → Option (Option (List (Fin 10)) × List UInt8)
  | 0x2E :: rest =>
      match takeDigits rest with
      | ([], _) => none
      | (ds, rest) => some (some ds, rest)
  | rest => some (none, rest)

/-- Read the digits of an exponent. -/
def scanExponentDigits (negative : Bool) (s : List UInt8) :
    Option (Option Int × List UInt8) :=
  match takeDigits s with
  | ([], _) => none
  | (ds, rest) => some (some (if negative then -(value ds : Int) else value ds), rest)

/-- Read an optional exponent. -/
def scanExponent : List UInt8 → Option (Option Int × List UInt8)
  | b :: rest =>
      if b = 0x65 ∨ b = 0x45 then
        match rest with
        | 0x2B :: rest => scanExponentDigits false rest
        | 0x2D :: rest => scanExponentDigits true rest
        | rest => scanExponentDigits false rest
      else some (none, b :: rest)
  | [] => some (none, [])

/-- Read an unsigned numeral off the front of a text. -/
def scanUnsigned (negative : Bool) (s : List UInt8) : Option (Numeral × List UInt8) := do
  let (whole, rest) ← scanWhole s
  let (fraction, rest) ← scanFraction rest
  let (exponent, rest) ← scanExponent rest
  return (⟨negative, whole, fraction, exponent⟩, rest)

/-- Read a numeral off the front of a text. -/
def scan : List UInt8 → Option (Numeral × List UInt8)
  | 0x2D :: rest => scanUnsigned true rest
  | rest => scanUnsigned false rest

/-! ## Numerals as doubles

A double is computed from a numeral in two steps, each of which rounds: its
leading digits, as many as fit 64 bits, are made a double, which is then
multiplied with or divided by a power of ten.  The outcome can therefore be a
neighbour of the double nearest to the numeral. -/

/-- The digit zero. -/
def zeroDigit : Fin 10 := ⟨0, Nat.succ_pos 9⟩

/-- The digit that a character names. -/
def digitOfChar (c : Char) : Fin 10 := ⟨(c.toNat - 48) % 10, Nat.mod_lt _ (Nat.succ_pos 9)⟩

/-- Put digits after a number up to the first with which it would no longer fit
64 bits.  Gives the number and how many digits were left out. -/
def appendDigits (n : Nat) : List (Fin 10) → Nat × Nat
  | [] => (n, 0)
  | d :: ds => if 10 * n + d.val < UInt64.size then appendDigits (10 * n + d.val) ds
      else (n, ds.length + 1)

/-- The leading digits of a numeral as one number, and the power of ten that it
is to be multiplied with.  If whole digits are left out, the fraction goes on
where they began. -/
def leading (n : Numeral) : Nat × Int :=
  let places := n.fraction.getD []
  let (whole, wholeLeft) := appendDigits 0 ((Text.digits n.whole).map digitOfChar)
  let (significand, placesLeft) := appendDigits whole places
  (significand, n.exponent.getD 0 + wholeLeft + placesLeft - places.length)

/-- The double nearest to a power of ten. -/
def tenTo (power : Nat) : Float := Float.ofScientific 1 false power

/-- Divide a double below `2^64` by a power of ten.  Powers past `10^308` are
divided by in two steps; past the second there would be nothing left. -/
def scaleDown (x : Float) (power : Nat) : Float :=
  if power ≤ 308 then x / tenTo power
  else if power ≤ 616 then x / tenTo 308 / tenTo (power - 308)
  else 0.0

/-- Multiply a double with a power of ten, if the product is finite. -/
def scaleUp? (x : Float) (power : Nat) : Option Float :=
  if power ≤ 308 then
    let product := x * tenTo power
    if product.isInf then none else some product
  else if x == 0.0 then some 0.0
  else none

/-- The double that a numeral is read as, unless it is too large. -/
def toFloat? (n : Numeral) : Option Float :=
  let (significand, power) := n.leading
  let x := (UInt64.ofNat significand).toFloat
  let magnitude := if power ≤ 0 then some (scaleDown x power.natAbs) else scaleUp? x power.natAbs
  magnitude.map fun x => if n.negative then -x else x

/-- Whether a numeral can be read as a double. -/
def isFinite (n : Numeral) : Bool := n.toFloat?.isSome

end Numeral

end ClusterHub.Json

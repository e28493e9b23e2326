import ClusterHub.Text.Digits

/-!
# Shortest decimals

A double stands for every real that rounds to it.  The shortest decimal of a
double is the one with the fewest digits in that interval, and of several with
equally many the one nearest to the double; a rule for ties decides between two
that are equally near.  All arithmetic is on natural numbers, so nothing is
rounded on the way.
-/

namespace ClusterHub.Decimal

/-- A positive number given as `mantissa * 2 ^ power`, and whether the double
below it is only half as far away as the one above. -/
structure Binary where
  mantissa : Nat
  power : Int
  lopsided : Bool := false
deriving DecidableEq, Repr

/-- Which of two decimals that are equally near is taken. -/
inductive Tie
  /-- The one whose last digit is even. -/
  | toEven
  /-- The larger one. -/
  | up
deriving DecidableEq, Repr

/-- A number given as `mantissa * 10 ^ power`. -/
structure Scientific where
  mantissa : Nat
  power : Int
deriving DecidableEq, Repr

/-- Remove the zeros that a mantissa ends with. -/
def reduce (mantissa : Nat) (power : Int) : Scientific :=
  if h : mantissa ≠ 0 ∧ mantissa % 10 = 0 then reduce (mantissa / 10) (power + 1)
  else ⟨mantissa, power⟩
termination_by mantissa
decreasing_by omega

namespace Binary

/-- The common denominator of a number and the ends of its interval. -/
def denominator (b : Binary) : Nat :=
  if b.power < 0 then 4 * Nat.pow 2 b.power.natAbs else 4

/-- The numerator of `quarters` quarters of a unit in the last place. -/
def numerator (b : Binary) (quarters : Nat) : Nat :=
  if b.power < 0 then quarters else quarters * Nat.pow 2 b.power.natAbs

/-- The numerator of the number itself. -/
def centre (b : Binary) : Nat := b.numerator (4 * b.mantissa)

/-- The numerator of the lower end of the interval. -/
def lower (b : Binary) : Nat :=
  b.numerator (if b.lopsided then 4 * b.mantissa - 1 else 4 * b.mantissa - 2)

/-- The numerator of the upper end of the interval. -/
def upper (b : Binary) : Nat := b.numerator (4 * b.mantissa + 2)

/-- Whether a decimal lies in the interval.  The ends belong to it if the
mantissa is even. -/
def contains (b : Binary) (d : Scientific) : Bool :=
  let point := if d.power < 0 then d.mantissa * b.denominator
    else d.mantissa * Nat.pow 10 d.power.natAbs * b.denominator
  let stretch := if d.power < 0 then Nat.pow 10 d.power.natAbs else 1
  let low := b.lower * stretch
  let high := b.upper * stretch
  if b.mantissa % 2 = 0 then low ≤ point && point ≤ high
  else low < point && point < high

/-- How far a decimal is from the number, up to a factor that depends on its
power alone. -/
def distance (b : Binary) (d : Scientific) : Nat :=
  let point := if d.power < 0 then d.mantissa * b.denominator
    else d.mantissa * Nat.pow 10 d.power.natAbs * b.denominator
  let stretch := if d.power < 0 then Nat.pow 10 d.power.natAbs else 1
  let centre := b.centre * stretch
  (point - centre) + (centre - point)

/-- The whole multiples of a power of ten that are contained in the number. -/
def quotient (b : Binary) (power : Int) : Nat :=
  if power < 0 then b.centre * Nat.pow 10 power.natAbs / b.denominator
  else b.centre / (b.denominator * Nat.pow 10 power.natAbs)

/-- The number of places before the decimal point, negative or zero for numbers
below one tenth or one: the least `p` with the number below `10 ^ p`. -/
def places (b : Binary) : Int :=
  let whole := b.quotient 0
  if 0 < whole then (Text.digits whole).length
  else
    let fine := b.quotient (-400)
    ((Text.digits fine).length : Int) - 400

/-- The nearer of a decimal and its successor of the same power. -/
def nearer (b : Binary) (tie : Tie) (below above : Scientific) : Scientific :=
  if b.distance above < b.distance below then above
  else if b.distance below < b.distance above then below
  else match tie with
    | .up => above
    | .toEven => if below.mantissa % 2 = 0 then below else above

/-- The decimal with `count` digits that is in the interval, if there is one;
of two the nearer. -/
def withDigits? (b : Binary) (tie : Tie) (count : Nat) : Option Scientific :=
  let power := b.places - count
  let below : Scientific := ⟨b.quotient power, power⟩
  let above : Scientific := ⟨below.mantissa + 1, power⟩
  match b.contains below, b.contains above with
  | true, true => some (b.nearer tie below above)
  | true, false => some below
  | false, true => some above
  | false, false => none

/-- The shortest decimal of a number.  Seventeen digits are always enough.  A
number just below a power of ten may have that power as its decimal. -/
def shortest (b : Binary) (tie : Tie) : Scientific :=
  match (List.range 17).findSome? fun i => b.withDigits? tie (i + 1) with
  | some d => reduce d.mantissa d.power
  | none => ⟨0, 0⟩

end Binary

/-- What a double is. -/
inductive Double
  | nan
  | infinite (negative : Bool)
  | zero (negative : Bool)
  | finite (negative : Bool) (magnitude : Binary)
deriving DecidableEq, Repr

/-- Take a double apart: a sign, eleven bits of exponent and 52 of mantissa. -/
def Double.ofFloat (x : Float) : Double :=
  let bits : Nat := x.toBits.toNat
  let negative : Bool := bits / Nat.pow 2 63 = 1
  let exponent : Nat := bits / Nat.pow 2 52 % Nat.pow 2 11
  let mantissa : Nat := bits % Nat.pow 2 52
  if exponent = 2047 then if mantissa = 0 then .infinite negative else .nan
  else if exponent = 0 then
    if mantissa = 0 then .zero negative else .finite negative ⟨mantissa, -1074, false⟩
  else
    .finite negative
      ⟨Nat.pow 2 52 + mantissa, (exponent : Int) - 1075, mantissa = 0 && 1 < exponent⟩

end ClusterHub.Decimal

import ClusterHub.Decimal.Shortest

/-!
# Layouts of decimals

How the digits of a decimal are set out as text: `positional` never uses an
exponent and writes no point after a whole number.
-/

namespace ClusterHub.Decimal

open Text

/-- The digits of a decimal and the place of its point: the number of digits
before it. -/
def Scientific.point (d : Scientific) : Int :=
  (digits d.mantissa).length + d.power

/-- Digits with a point after the first `point` of them, zeros added on either
side as needed. -/
def setPoint (ds : List Char) (point : Int) : List Char :=
  if point ≤ 0 then '0' :: '.' :: (List.replicate point.natAbs '0' ++ ds)
  else ds.take point.toNat ++ '.' :: ds.drop point.toNat

/-- A decimal without an exponent; whole numbers get no point. -/
def Scientific.positional (d : Scientific) : List Char :=
  if 0 ≤ d.power then digits d.mantissa ++ List.replicate d.power.toNat '0'
  else setPoint (digits d.mantissa) d.point

/-- A sign, if one is called for. -/
def sign (negative : Bool) : List Char :=
  if negative then ['-'] else []

/-- A double without an exponent, with the fewest digits that read back; a tie
goes up. -/
def positionalText (x : Float) : String :=
  String.ofList <| match Double.ofFloat x with
    | .nan => ['N', 'a', 'N']
    | .infinite negative => sign negative ++ ['i', 'n', 'f']
    | .zero negative => sign negative ++ ['0']
    | .finite negative magnitude => sign negative ++ (magnitude.shortest .up).positional

end ClusterHub.Decimal

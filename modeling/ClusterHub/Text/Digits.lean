/-!
# Decimal digits

Numbers written in base ten, as lists of characters.  `digits` writes the
shortest form, `padded` fills it with zeros on the left, and `value` reads any
list of digits back.
-/

namespace ClusterHub.Text

/-- The character of a digit; total, and meant for `d < 10`. -/
def digitChar (d : Nat) : Char :=
  Char.ofNat (48 + d % 10)

/-- The value of a digit character, if it is one of `0` to `9`. -/
def digitValue? (c : Char) : Option Nat :=
  if '0' ≤ c ∧ c ≤ '9' then some (c.toNat - 48) else none

/-- Whether a character is one of `0` to `9`. -/
def isDigit (c : Char) : Bool :=
  (digitValue? c).isSome

/-- The decimal digits of a number in front of other characters. -/
def digitsOnto (n : Nat) (rest : List Char) : List Char :=
  if n < 10 then digitChar n :: rest else digitsOnto (n / 10) (digitChar (n % 10) :: rest)
termination_by n
decreasing_by omega

/-- The decimal digits of a number, most significant first; `0` has one. -/
def digits (n : Nat) : List Char :=
  digitsOnto n []

/-- The decimal digits of a number, filled with zeros to at least `width`
characters. -/
def padded (width n : Nat) : List Char :=
  List.replicate (width - (digits n).length) '0' ++ digits n

/-- The last `width` decimal digits of a number, one character each. -/
def fixed : Nat → Nat → List Char
  | 0, _ => []
  | width + 1, n => fixed width (n / 10) ++ [digitChar (n % 10)]

/-- Read digits onto a number already read. -/
def valueFrom (start : Nat) (cs : List Char) : Nat :=
  cs.foldl (fun n c => 10 * n + (digitValue? c).getD 0) start

/-- The number that a list of digits names. -/
def value (cs : List Char) : Nat :=
  valueFrom 0 cs

/-- Read a text that consists of digits alone, at least one of them, after an
optional plus sign. -/
def natOfText? (s : String) : Option Nat :=
  let body := match s.toList with
    | '+' :: rest => rest
    | cs => cs
  if body.isEmpty || !body.all isDigit then none else some (value body)

/-- Split a text after its leading digits, of which at most `limit` are
taken. -/
def takeDigits : Nat → List Char → List Char × List Char
  | 0, cs => ([], cs)
  | _ + 1, [] => ([], [])
  | limit + 1, c :: cs =>
      if isDigit c then
        let (ds, rest) := takeDigits limit cs
        (c :: ds, rest)
      else ([], c :: cs)

/-- The decimal text of a number. -/
def decimal (n : Nat) : String :=
  String.ofList (digits n)

@[simp]
theorem digitValue?_digitChar {d : Nat} (small : d < 10) :
    digitValue? (digitChar d) = some d := by
  rcases d with _ | _ | _ | _ | _ | _ | _ | _ | _ | _ | d
  all_goals first | rfl | omega

theorem valueFrom_append (start : Nat) (cs ds : List Char) :
    valueFrom start (cs ++ ds) = valueFrom (valueFrom start cs) ds := by
  simp [valueFrom, List.foldl_append]

/-- Digits are put in front of characters one by one. -/
theorem digitsOnto_append (n : Nat) (cs ds : List Char) :
    digitsOnto n (cs ++ ds) = digitsOnto n cs ++ ds := by
  induction n, cs using digitsOnto.induct with
  | case1 n cs small =>
      rw [digitsOnto, if_pos small, digitsOnto.eq_1 n cs, if_pos small, List.cons_append]
  | case2 n cs large inductionHypothesis =>
      rw [digitsOnto, if_neg large, digitsOnto.eq_1 n cs, if_neg large, ← inductionHypothesis,
        List.cons_append]

/-- The digits of a number in front of others name it, with the others read
on. -/
theorem valueFrom_digitsOnto (n : Nat) (cs : List Char) :
    valueFrom 0 (digitsOnto n cs) = valueFrom n cs := by
  induction n, cs using digitsOnto.induct with
  | case1 n cs small =>
      rw [digitsOnto, if_pos small]
      simp [valueFrom, small]
  | case2 n cs large inductionHypothesis =>
      rw [digitsOnto, if_neg large, inductionHypothesis]
      have small : n % 10 < 10 := Nat.mod_lt n (by decide)
      have whole := Nat.div_add_mod n 10
      simp [valueFrom, small, whole]

/-- The digits of a number name it. -/
@[simp]
theorem value_digits (n : Nat) : value (digits n) = n :=
  valueFrom_digitsOnto n []

end ClusterHub.Text

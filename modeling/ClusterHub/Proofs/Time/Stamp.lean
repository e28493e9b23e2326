import ClusterHub.Heart.Monitor
import Mathlib.Algebra.Ring.Nat

/-!
# Distinct stamps

The parts of a timestamp's text have fixed widths, the year at its front apart,
so the text can be taken apart from its end.  Different microseconds of the
calendar have different texts.
-/

namespace ClusterHub

namespace Text

theorem eq_of_digitChar {c d : Nat} (smallLeft : c < 10) (smallRight : d < 10)
    (same : digitChar c = digitChar d) : c = d := by
  have values := congrArg digitValue? same
  rw [digitValue?_digitChar smallLeft, digitValue?_digitChar smallRight] at values
  exact Option.some.inj values

@[simp]
theorem length_fixed (width n : Nat) : (fixed width n).length = width := by
  induction width generalizing n with
  | zero => rfl
  | succ width inductionHypothesis => simp [fixed, inductionHypothesis]

/-- Digits of a fixed width tell apart numbers that have no more digits. -/
theorem eq_of_fixed {width m n : Nat} (smallLeft : m < 10 ^ width) (smallRight : n < 10 ^ width)
    (same : fixed width m = fixed width n) : m = n := by
  induction width generalizing m n with
  | zero => omega
  | succ width inductionHypothesis =>
      rw [fixed, fixed] at same
      rcases List.append_inj' same rfl with ⟨front, last⟩
      have high := inductionHypothesis (by rw [Nat.pow_succ] at smallLeft; omega)
        (by rw [Nat.pow_succ] at smallRight; omega) front
      have low := eq_of_digitChar (Nat.mod_lt m (by decide)) (Nat.mod_lt n (by decide))
        (List.singleton_inj.mp last)
      omega

theorem valueFrom_zeros (count : Nat) : valueFrom 0 (List.replicate count '0') = 0 := by
  induction count with
  | zero => rfl
  | succ count inductionHypothesis => exact inductionHypothesis

/-- Filling with zeros does not change what digits name. -/
theorem value_padded (width n : Nat) : value (padded width n) = n := by
  rw [padded, value, valueFrom_append, valueFrom_zeros]
  exact value_digits n

/-- The characters of a digit are not signs. -/
theorem digitChar_ne_sign (d : Nat) : digitChar (d % 10) ≠ '-' ∧ digitChar (d % 10) ≠ '+' := by
  have small := Nat.mod_lt d (y := 10) (by decide)
  generalize d % 10 = digit at small
  rcases digit with _ | _ | _ | _ | _ | _ | _ | _ | _ | _ | digit
  all_goals first | decide | omega

end Text

namespace Timestamp

open Text

/-- A year of four digits does not start with a sign. -/
theorem fixed_ne_sign (n : Nat) (year : Int) (rest : List Char) :
    fixed 4 n ≠ (if year < 0 then '-' else '+') :: rest := by
  intro same
  have head := congrArg List.head? same
  simp only [fixed, List.nil_append, List.cons_append, List.head?_cons] at head
  have first := Option.some.inj head
  have digit := digitChar_ne_sign (n / 10 / 10 / 10)
  split at first
  · exact digit.1 first
  · exact digit.2 first

theorem eq_of_yearText {year other : Int} (same : yearText year = yearText other) :
    year = other := by
  unfold yearText at same
  by_cases short : 0 ≤ year ∧ year ≤ 9999
  · by_cases otherShort : 0 ≤ other ∧ other ≤ 9999
    · rw [if_pos short, if_pos otherShort] at same
      have numbers : year.toNat = other.toNat :=
        eq_of_fixed (by omega) (by omega) same
      omega
    · rw [if_pos short, if_neg otherShort] at same
      exact absurd same (fixed_ne_sign _ _ _)
  · by_cases otherShort : 0 ≤ other ∧ other ≤ 9999
    · rw [if_neg short, if_pos otherShort] at same
      exact absurd same.symm (fixed_ne_sign _ _ _)
    · rw [if_neg short, if_neg otherShort] at same
      rcases List.cons.inj same with ⟨signs, digits⟩
      have numbers : year.natAbs = other.natAbs := by
        rw [← value_padded 4 year.natAbs, digits, value_padded]
      split at signs <;> split at signs <;> first | omega | contradiction

/-- A date is known by its year and the last two digits of its month and day. -/
theorem eq_of_date {number other : Int}
    (years : (Date.ofDayNumber number).year = (Date.ofDayNumber other).year)
    (months : fixed 2 (Date.ofDayNumber number).month = fixed 2 (Date.ofDayNumber other).month)
    (days : fixed 2 (Date.ofDayNumber number).day = fixed 2 (Date.ofDayNumber other).day) :
    number = other := by
  have bounds := Date.bounds_ofDayNumber number
  have otherBounds := Date.bounds_ofDayNumber other
  have month := eq_of_fixed (by omega) (by omega) months
  have day := eq_of_fixed (by omega) (by omega) days
  have date : Date.ofDayNumber number = Date.ofDayNumber other := by
    change Date.mk (Date.ofDayNumber number).year (Date.ofDayNumber number).month
      (Date.ofDayNumber number).day = Date.ofDayNumber other
    rw [years, month, day]
  rw [← Date.toDayNumber_ofDayNumber number, date, Date.toDayNumber_ofDayNumber]

/-- The last part of a text, with the mark in front of it, can be taken off. -/
theorem split_last {front other : List Char} {mark : Char} {width m n : Nat}
    (same : front ++ mark :: fixed width m = other ++ mark :: fixed width n) :
    front = other ∧ fixed width m = fixed width n := by
  rcases List.append_inj' same (by simp) with ⟨fronts, lasts⟩
  exact ⟨fronts, (List.cons.inj lasts).2⟩

/-- Timestamps outside of leap seconds that have one text with six fraction
digits agree to the microsecond. -/
theorem eq_of_text_micros {s t : Timestamp} (regular : s.nanos < 1000000000)
    (otherRegular : t.nanos < 1000000000) (same : s.text .micros = t.text .micros) :
    s.seconds = t.seconds ∧ s.nanos / 1000 = t.nanos / 1000 := by
  have chars : s.chars .micros = t.chars .micros := String.ofList_injective same
  have whole := (List.append_inj' chars rfl).1
  rcases split_last whole with ⟨whole, micros⟩
  rcases split_last whole with ⟨whole, seconds⟩
  rcases split_last whole with ⟨whole, minutes⟩
  rcases split_last whole with ⟨whole, hours⟩
  rcases split_last whole with ⟨whole, days⟩
  rcases split_last whole with ⟨years, months⟩
  have date := eq_of_date (eq_of_yearText years) months days
  have hour := eq_of_fixed (by omega) (by omega) hours
  have minute := eq_of_fixed (by omega) (by omega) minutes
  have second := eq_of_fixed (by simp only [secondOfMinute]; omega)
    (by simp only [secondOfMinute]; omega) seconds
  have micro := eq_of_fixed (by omega) (by omega) micros
  simp only [secondOfMinute] at second
  constructor
  · omega
  · omega

end Timestamp

/-! ## Stamps -/

/-- Whether an instant lies in the calendar. -/
def Instant.IsDated (now : Instant) : Prop :=
  Timestamp.inCalendar (Timestamp.clockStart + now / 1000000) = true

instance (now : Instant) : Decidable now.IsDated :=
  inferInstanceAs (Decidable (_ = true))

theorem Instant.isDated_iff {now : Instant} :
    now.IsDated ↔ Timestamp.firstSecond ≤ Timestamp.clockStart + now / 1000000 ∧
      Timestamp.clockStart + now / 1000000 ≤ Timestamp.lastSecond := by
  simp [IsDated, Timestamp.inCalendar]

/-- The calendar has no gaps. -/
theorem Instant.IsDated.between {first now last : Instant} (early : first.IsDated)
    (late : last.IsDated) (after : first ≤ now) (before : now ≤ last) : now.IsDated := by
  rw [isDated_iff] at early late ⊢
  unfold Instant at *
  omega

namespace Monitor

/-- Pings that are sent in different microseconds of the calendar have different
texts. -/
theorem eq_of_stamp {first second : Instant} (dated : first.IsDated)
    (otherDated : second.IsDated) (same : stamp first = stamp second) : first = second := by
  rw [Instant.isDated_iff] at dated otherDated
  have regular : ∀ now : Instant, (Timestamp.ofInstant now).nanos < 1000000000 := by
    intro now
    simp only [Timestamp.ofInstant]
    omega
  rcases Timestamp.eq_of_text_micros (regular first) (regular second) same with ⟨seconds, micros⟩
  simp only [Timestamp.ofInstant] at seconds micros
  unfold Instant at *
  omega

end Monitor

end ClusterHub

import ClusterHub.Proofs.Time.Stamp

/-!
# Timestamps read back

The text of a timestamp with as many fraction digits as it needs is read as that
timestamp.  Each part is read off the front of whatever follows it, and the parts
make up the day and the second that they were taken from, leap seconds included.
-/

namespace ClusterHub

namespace Text

theorem isDigit_digitChar (n : Nat) : isDigit (digitChar (n % 10)) = true := by
  rw [isDigit, digitValue?_digitChar (Nat.mod_lt n (by decide))]
  rfl

theorem isBlank_digitChar (n : Nat) : isBlank (digitChar (n % 10)) = false := by
  have each : ∀ d : Fin 10, isBlank (digitChar d) = false := by decide
  exact each ⟨n % 10, Nat.mod_lt n (by decide)⟩

theorem isDigit_fixed (width n : Nat) : ∀ c ∈ fixed width n, isDigit c = true := by
  induction width generalizing n with
  | zero => simp [fixed]
  | succ width inductionHypothesis =>
      intro c member
      rcases List.mem_append.mp member with member | member
      · exact inductionHypothesis (n / 10) c member
      · rw [List.mem_singleton.mp member]
        exact isDigit_digitChar n

theorem isDigit_digitsOnto (n : Nat) {cs : List Char} (digits : ∀ c ∈ cs, isDigit c = true) :
    ∀ c ∈ digitsOnto n cs, isDigit c = true := by
  induction n, cs using digitsOnto.induct with
  | case1 n cs small =>
      rw [digitsOnto, if_pos small]
      have own := isDigit_digitChar n
      rw [Nat.mod_eq_of_lt small] at own
      exact List.forall_mem_cons.mpr ⟨own, digits⟩
  | case2 n cs large inductionHypothesis =>
      rw [digitsOnto, if_neg large]
      exact inductionHypothesis (List.forall_mem_cons.mpr ⟨isDigit_digitChar n, digits⟩)

theorem isDigit_padded (width n : Nat) : ∀ c ∈ padded width n, isDigit c = true := by
  intro c member
  rcases List.mem_append.mp member with member | member
  · rw [List.eq_of_mem_replicate member]
    rfl
  · exact isDigit_digitsOnto n (by simp) c member

/-- Digits of a fixed width name every number that has no more of them. -/
theorem value_fixed {width n : Nat} (small : n < 10 ^ width) : value (fixed width n) = n := by
  induction width generalizing n with
  | zero =>
      rw [Nat.lt_one_iff.mp small]
      rfl
  | succ width inductionHypothesis =>
      have tenth : n / 10 < 10 ^ width := by
        rw [Nat.pow_succ] at small
        omega
      have front := inductionHypothesis tenth
      have whole := Nat.div_add_mod n 10
      rw [value] at front
      rw [fixed, value, valueFrom_append, front]
      simp [valueFrom, Nat.mod_lt, whole]

/-- Digits are taken up to the limit, or up to what is none. -/
theorem takeDigits_append {ds rest : List Char} {limit : Nat}
    (digits : ∀ c ∈ ds, isDigit c = true) (enough : ds.length ≤ limit)
    (stops : ds.length = limit ∨ ∀ c ∈ rest.head?, isDigit c = false) :
    takeDigits limit (ds ++ rest) = (ds, rest) := by
  induction ds generalizing limit with
  | nil =>
      cases limit with
      | zero => rfl
      | succ limit =>
          cases rest with
          | nil => rfl
          | cons c rest =>
              have none := stops.resolve_left (by simp) c rfl
              simp [takeDigits, none]
  | cons d ds inductionHypothesis =>
      cases limit with
      | zero => contradiction
      | succ limit =>
          have others := inductionHypothesis
            (fun c member => digits c (List.mem_cons_of_mem _ member))
            (Nat.le_of_succ_le_succ enough) (by simpa using stops)
          simp [takeDigits, digits d List.mem_cons_self, others]

end Text

namespace Timestamp

open Text

theorem readNumber_append {ds rest : List Char} {limit : Nat} (some : ds ≠ [])
    (taken : takeDigits limit (ds ++ rest) = (ds, rest)) :
    readNumber limit (ds ++ rest) = .some (value ds, rest) := by
  rw [readNumber, taken]
  cases ds with
  | nil => contradiction
  | cons d ds => rfl

theorem readNumber_fixed (width : Nat) {n : Nat} (small : n < 10 ^ (width + 1))
    (rest : List Char) : readNumber (width + 1) (fixed (width + 1) n ++ rest) = some (n, rest) := by
  have filled : fixed (width + 1) n ≠ [] := List.ne_nil_of_length_eq_add_one (length_fixed _ n)
  have taken : takeDigits (width + 1) (fixed (width + 1) n ++ rest) = (_, rest) :=
    takeDigits_append (isDigit_fixed _ n) (Nat.le_of_eq (length_fixed _ n))
      (Or.inl (length_fixed _ n))
  rw [readNumber_append filled taken, value_fixed small]

theorem readField_fixed {n : Nat} (small : n < 100) (rest : List Char) :
    readField 2 (fixed 2 n ++ rest) = some (n, rest) := by
  have bare : skipBlanks (fixed 2 n ++ rest) = fixed 2 n ++ rest := by
    simp [fixed, skipBlanks, isBlank_digitChar]
  rw [readField, bare]
  exact readNumber_fixed 1 small rest

/-- A year without a sign has four digits. -/
theorem readYear_fixed {n : Nat} (small : n < 10000) (rest : List Char) :
    readYear (fixed 4 n ++ rest) = some ((n : Int), rest) := by
  have number := readNumber_fixed 3 small rest
  have bare : skipBlanks (fixed 4 n ++ rest) = fixed 4 n ++ rest := by
    simp [fixed, skipBlanks, isBlank_digitChar]
  have unsigned := digitChar_ne_sign (n / 10 / 10 / 10)
  rw [readYear, bare]
  simp only [fixed, List.nil_append, List.cons_append] at number ⊢
  split
  next same => exact absurd (List.cons.inj same).1 unsigned.1
  next same => exact absurd (List.cons.inj same).1 unsigned.2
  next => rw [number]; rfl

theorem readNumber_padded (n : Nat) (rest : List Char) :
    readNumber (padded 4 n ++ '-' :: rest).length (padded 4 n ++ '-' :: rest) =
      some (n, '-' :: rest) := by
  have filled : padded 4 n ≠ [] := by
    apply List.ne_nil_of_length_pos
    rw [padded, List.length_append, List.length_replicate]
    omega
  have taken : takeDigits (padded 4 n ++ '-' :: rest).length (padded 4 n ++ '-' :: rest) =
      (_, '-' :: rest) :=
    takeDigits_append (isDigit_padded _ n) (by simp) (Or.inr (by simp [isDigit, digitValue?]))
  rw [readNumber_append filled taken, value_padded]

theorem readYear_yearText (year : Int) (rest : List Char) :
    readYear (yearText year ++ '-' :: rest) = some (year, '-' :: rest) := by
  unfold yearText
  by_cases short : 0 ≤ year ∧ year ≤ 9999
  · rw [if_pos short, readYear_fixed (by omega), Int.toNat_of_nonneg short.1]
  · rw [if_neg short]
    by_cases negative : year < 0
    · rw [if_pos negative, List.cons_append]
      change (readNumber _ _).map _ = _
      have same : -(year.natAbs : Int) = year := by omega
      simp only [readNumber_padded, Option.map_some, same]
    · rw [if_neg negative, List.cons_append]
      change (readNumber _ _).map _ = _
      have same : (year.natAbs : Int) = year := by omega
      simp only [readNumber_padded, Option.map_some, same]

theorem readMark_colon (rest : List Char) : readMark ':' (':' :: rest) = some rest := rfl

theorem readMark_hyphen (rest : List Char) : readMark '-' ('-' :: rest) = some rest := rfl

theorem readDate_text (date : Date) (month : date.month < 100) (day : date.day < 100)
    (rest : List Char) :
    readDate (yearText date.year ++ '-' ::
      (fixed 2 date.month ++ '-' :: (fixed 2 date.day ++ rest))) = some (date, rest) := by
  simp [readDate, readYear_yearText, readMark_hyphen, readField_fixed month, readField_fixed day]

/-- A fraction of a second is read from its digits, however many they are. -/
theorem readFraction_fixed (width : Nat) {n : Nat} (few : width < 9)
    (small : n < 10 ^ (width + 1)) : readFraction ('.' :: (fixed (width + 1) n ++ ['Z'])) =
      some (n * 10 ^ (8 - width), ['Z']) := by
  have taken : takeDigits 9 (fixed (width + 1) n ++ ['Z']) = (_, ['Z']) :=
    takeDigits_append (isDigit_fixed _ n) (by rw [length_fixed]; omega)
      (Or.inr (by simp [isDigit, digitValue?]))
  have named := value_fixed small
  have long := length_fixed (width + 1) n
  rw [readFraction, taken]
  generalize fixed (width + 1) n = ds at named long
  cases ds with
  | nil => contradiction
  | cons d ds =>
      have places : 9 - (d :: ds).length = 8 - width := by omega
      simp only [named, places]
      rfl

theorem readFraction_text {nanos : Nat} (small : nanos < 1000000000) :
    readFraction (fractionText .exact nanos ++ ['Z']) = some (nanos, ['Z']) := by
  unfold fractionText
  by_cases none : nanos = 0
  · rw [if_pos none, none]
    rfl
  · rw [if_neg none]
    by_cases millis : nanos % 1000000 = 0
    · rw [if_pos millis, List.cons_append, readFraction_fixed 2 (by decide) (by omega)]
      congr
      omega
    · rw [if_neg millis]
      by_cases micros : nanos % 1000 = 0
      · rw [if_pos micros, List.cons_append, readFraction_fixed 5 (by decide) (by omega)]
        congr
        omega
      · rw [if_neg micros, List.cons_append, readFraction_fixed 8 (by decide) (by omega)]
        congr
        omega

theorem readTime_text (time : TimeOfDay) (hour : time.hour < 100) (minute : time.minute < 100)
    (second : time.second < 100) (nanos : time.nanos < 1000000000) :
    readTime (fixed 2 time.hour ++ ':' :: (fixed 2 time.minute ++ ':' ::
      (fixed 2 time.second ++ (fractionText .exact time.nanos ++ ['Z'])))) =
        some (time, ['Z']) := by
  simp [readTime, readMark_colon, readField_fixed hour, readField_fixed minute,
    readField_fixed second, readFraction_text nanos]

/-! ## Whole timestamps -/

/-- The time of day of a timestamp, as it is written. -/
def timeOfDay (t : Timestamp) : TimeOfDay :=
  let ofDay := (t.seconds % 86400).toNat
  ⟨ofDay / 3600, ofDay / 60 % 60, t.secondOfMinute, t.nanos % 1000000000⟩

/-- The text of a timestamp is that of its date and that of its time of day. -/
theorem chars_exact {t : Timestamp} {date : Date}
    (named : Date.ofDayNumber (t.seconds / 86400) = date) : t.chars .exact =
      yearText date.year ++ '-' :: (fixed 2 date.month ++ '-' :: (fixed 2 date.day ++ 'T' ::
        (fixed 2 t.timeOfDay.hour ++ ':' :: (fixed 2 t.timeOfDay.minute ++ ':' ::
          (fixed 2 t.timeOfDay.second ++ (fractionText .exact t.timeOfDay.nanos ++ ['Z'])))))) := by
  simp [chars, timeOfDay, named]

theorem isValid_timeOfDay (t : Timestamp) : t.timeOfDay.isValid = true := by
  have leap := t.leap
  have bound := t.nanos_lt
  unfold TimeOfDay.isValid timeOfDay secondOfMinute
  simp only [Bool.and_eq_true, decide_eq_true_eq]
  omega

/-- The parts of a timestamp make it up again; a leap second is the second before it and
a thousand million nanoseconds. -/
theorem ofLocal?_parts (t : Timestamp) :
    ofLocal? (Date.ofDayNumber (t.seconds / 86400)) t.timeOfDay 0 = some t := by
  have leap := t.leap
  have bound := t.nanos_lt
  have seconds : t.seconds / 86400 * 86400 +
      ((3600 * t.timeOfDay.hour + 60 * t.timeOfDay.minute +
        (t.timeOfDay.second - t.timeOfDay.second / 60) : Nat) : Int) = t.seconds := by
    simp only [timeOfDay, secondOfMinute]
    omega
  have nanos : t.timeOfDay.nanos + 1000000000 * (t.timeOfDay.second / 60) = t.nanos := by
    simp only [timeOfDay, secondOfMinute]
    omega
  have inside : inCalendar t.seconds = true := by
    simp [inCalendar, firstSecond, lastSecond, t.first_le, t.le_last]
  simp only [ofLocal?, Date.toDayNumber_ofDayNumber, Date.isValid_ofDayNumber, isValid_timeOfDay,
    seconds, nanos, inside]
  simp

/-- The text of a timestamp is read as that timestamp. -/
theorem ofText?_text (t : Timestamp) : ofText? (t.text .exact) = some t := by
  have bounds := Date.bounds_ofDayNumber (t.seconds / 86400)
  have valid := t.isValid_timeOfDay
  simp only [TimeOfDay.isValid, Bool.and_eq_true, decide_eq_true_eq] at valid
  generalize named : Date.ofDayNumber (t.seconds / 86400) = date at bounds
  have dateRead := readDate_text date (by omega) (by omega)
  have timeRead := readTime_text t.timeOfDay (by omega) (by omega) (by omega)
    (Nat.mod_lt _ (by decide))
  have offsetRead : readOffset (skipBlanks ['Z']) = some (0, []) := rfl
  have nothingLeft : skipBlanks [] = [] := rfl
  have parts := ofLocal?_parts t
  rw [named] at parts
  rw [ofText?, text, String.toList_ofList, chars_exact named, ofChars?, dateRead]
  simp [timeRead, offsetRead, nothingLeft, parts]

end Timestamp

end ClusterHub

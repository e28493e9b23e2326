import ClusterHub.Text.Blank
import ClusterHub.Text.Digits
import ClusterHub.Time.Calendar
import ClusterHub.Time.Timestamp

/-!
# Timestamps as text

The form of RFC 3339, in universal time: `2023-11-14T22:13:20Z`.  Writing uses
the fewest of 0, 3, 6 and 9 fraction digits that are exact, or six where a
fixed width is wanted.  Reading is generous: blanks may stand before each
number, numbers may be short, a blank or a small `t` may separate date and
time, and any offset is accepted and taken off.
-/

namespace ClusterHub.Timestamp

open Text

/-- How many fraction digits are written. -/
inductive Precision
  /-- The fewest of 0, 3, 6 and 9 that lose nothing. -/
  | exact
  /-- Always six; the rest is cut off. -/
  | micros
deriving DecidableEq, Repr

/-- The fraction digits of `nanos`, with their point. -/
def fractionText (precision : Precision) (nanos : Nat) : List Char :=
  match precision with
  | .micros => '.' :: fixed 6 (nanos / 1000)
  | .exact =>
      if nanos = 0 then []
      else if nanos % 1000000 = 0 then '.' :: fixed 3 (nanos / 1000000)
      else if nanos % 1000 = 0 then '.' :: fixed 6 (nanos / 1000)
      else '.' :: fixed 9 nanos

/-- A year: four digits from 0 to 9999, otherwise a sign and at least four. -/
def yearText (year : Int) : List Char :=
  if 0 ≤ year ∧ year ≤ 9999 then fixed 4 year.toNat
  else (if year < 0 then '-' else '+') :: padded 4 year.natAbs

/-- The second within its minute; a leap second is number 60. -/
def secondOfMinute (t : Timestamp) : Nat :=
  (t.seconds % 60).toNat + t.nanos / 1000000000

/-- A timestamp as text, character by character. -/
def chars (precision : Precision) (t : Timestamp) : List Char :=
  let date := Date.ofDayNumber (t.seconds / 86400)
  let ofDay := (t.seconds % 86400).toNat
  yearText date.year ++ '-' :: fixed 2 date.month ++ '-' :: fixed 2 date.day ++
    'T' :: fixed 2 (ofDay / 3600) ++ ':' :: fixed 2 (ofDay / 60 % 60) ++
    ':' :: fixed 2 t.secondOfMinute ++
    fractionText precision (t.nanos % 1000000000) ++ ['Z']

/-- A timestamp as text. -/
def text (precision : Precision) (t : Timestamp) : String :=
  String.ofList (t.chars precision)

/-! ## Reading -/

/-- What is left of a text after a value was read off its front. -/
abbrev Reading (α : Type) := List Char → Option (α × List Char)

/-- Read one to `limit` digits. -/
def readNumber (limit : Nat) : Reading Nat := fun cs =>
  match takeDigits limit cs with
  | ([], _) => none
  | (ds, rest) => some (value ds, rest)

/-- Read a number after blanks. -/
def readField (limit : Nat) : Reading Nat := fun cs =>
  readNumber limit (skipBlanks cs)

/-- Read a year: up to four digits, or a sign and any number of them. -/
def readYear : Reading Int := fun cs =>
  match skipBlanks cs with
  | '-' :: rest => (readNumber rest.length rest).map fun (n, r) => (-(n : Int), r)
  | '+' :: rest => (readNumber rest.length rest).map fun (n, r) => ((n : Int), r)
  | rest => (readNumber 4 rest).map fun (n, r) => ((n : Int), r)

/-- Read one given character, blanks before it skipped. -/
def readMark (mark : Char) : List Char → Option (List Char) := fun cs =>
  match skipBlanks cs with
  | c :: rest => if c = mark then some rest else none
  | [] => none

/-- Read a date. -/
def readDate : Reading Date := fun cs => do
  let (year, cs) ← readYear cs
  let cs ← readMark '-' cs
  let (month, cs) ← readField 2 cs
  let cs ← readMark '-' cs
  let (day, cs) ← readField 2 cs
  return (⟨year, month, day⟩, cs)

/-- Read an optional fraction of a second as nanoseconds.  Digits past the
ninth are dropped. -/
def readFraction : Reading Nat := fun cs =>
  match cs with
  | '.' :: rest =>
      match takeDigits 9 rest with
      | ([], _) => none
      | (ds, rest) =>
          some (value ds * Nat.pow 10 (9 - ds.length), rest.dropWhile isDigit)
  | _ => some (0, cs)

/-- A time of day: hour, minute, second and nanoseconds, with 60 for the number
of a leap second. -/
structure TimeOfDay where
  hour : Nat
  minute : Nat
  second : Nat
  nanos : Nat
deriving DecidableEq, Repr

/-- Whether the parts of a time of day are in range. -/
def TimeOfDay.isValid (time : TimeOfDay) : Bool :=
  time.hour < 24 && time.minute < 60 && time.second ≤ 60

/-- Read a time of day. -/
def readTime : Reading TimeOfDay := fun cs => do
  let (hour, cs) ← readField 2 cs
  let cs ← readMark ':' cs
  let (minute, cs) ← readField 2 cs
  let cs ← readMark ':' cs
  let (second, cs) ← readField 2 cs
  let (nanos, cs) ← readFraction cs
  return (⟨hour, minute, second, nanos⟩, cs)

/-- Two digits that must both be there. -/
def readPair : Reading Nat := fun cs =>
  match cs with
  | a :: b :: rest =>
      match digitValue? a, digitValue? b with
      | some a, some b => some (10 * a + b, rest)
      | _, _ => none
  | _ => none

/-- The sign of an offset: plus, hyphen or the minus sign proper. -/
def readSign : Reading Int := fun cs =>
  match cs with
  | '+' :: rest => some (1, rest)
  | '-' :: rest => some (-1, rest)
  | '\u2212' :: rest => some (-1, rest)
  | _ => none

/-- Read the offset from universal time, in seconds: `Z`, `UTC`, or a sign with
two digits each for hours and minutes, which colons and blanks may separate. -/
def readOffset : Reading Int := fun cs =>
  match cs with
  | 'Z' :: rest => some (0, rest)
  | 'z' :: rest => some (0, rest)
  | u :: t :: c :: rest =>
      if u.toUpper = 'U' ∧ t.toUpper = 'T' ∧ c.toUpper = 'C' then some (0, rest)
      else do
        let (sign, cs) ← readSign cs
        let (hours, cs) ← readPair cs
        let (minutes, cs) ← readPair (cs.dropWhile fun c => c = ':' || isBlank c)
        if minutes < 60 then return (sign * (3600 * hours + 60 * minutes : Nat), cs)
        else none
  | _ => none

/-- Whether a local second is one of the calendar's. -/
def inCalendar (seconds : Int) : Bool :=
  firstSecond ≤ seconds && seconds ≤ lastSecond

/-- The timestamp of a local date and time under an offset. -/
def ofLocal? (date : Date) (time : TimeOfDay) (offset : Int) : Option Timestamp :=
  let leap := time.second / 60
  let seconds := date.toDayNumber * 86400 +
    ((3600 * time.hour + 60 * time.minute + (time.second - leap) : Nat) : Int)
  if date.isValid && time.isValid && inCalendar seconds && offset.natAbs < 86400 then
    ofParts? (seconds - offset) (time.nanos + 1000000000 * leap)
  else none

/-- Read a timestamp that fills a text. -/
def ofChars? (cs : List Char) : Option Timestamp := do
  let (date, cs) ← readDate cs
  let cs ← match cs with
    | c :: rest => if c = 'T' ∨ c = 't' ∨ c = ' ' then some rest else none
    | [] => none
  let (time, cs) ← readTime cs
  let (offset, cs) ← readOffset (skipBlanks cs)
  if (skipBlanks cs).isEmpty then ofLocal? date time offset else none

/-- Read a timestamp from its text. -/
def ofText? (s : String) : Option Timestamp :=
  ofChars? s.toList

end ClusterHub.Timestamp

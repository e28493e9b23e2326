import ClusterHub.Json.Escaped
import ClusterHub.Json.Numeral

/-!
# Spellings

The leaves of a JSON value are scanned up to their ends.  What is written for a
natural number or a text is scanned as a whole, whatever comes after it, and means
that number or that text.
-/

namespace ClusterHub

/-- The digits of a number are those of its tenth part and one more. -/
theorem Text.digits_of_large {n : Nat} (large : 10 ≤ n) :
    Text.digits n = Text.digits (n / 10) ++ [Text.digitChar (n % 10)] := by
  have split := Text.digitsOnto_append (n / 10) [] [Text.digitChar (n % 10)]
  rw [Text.digits, Text.digitsOnto, if_neg (by omega)]
  exact split

theorem Text.digits_of_small {n : Nat} (small : n < 10) : Text.digits n = [Text.digitChar n] := by
  rw [Text.digits, Text.digitsOnto, if_pos small]

namespace Json

/-- Whether a text goes on as it can after a value: with a comma, a bracket or a brace,
or not at all. -/
def Ends (rest : List UInt8) : Prop :=
  ∀ b ∈ rest.head?, b = 0x2C ∨ b = 0x5D ∨ b = 0x7D

theorem ends_nil : Ends [] := by simp [Ends]

namespace Numeral

variable {rest : List UInt8} {n : Nat}

theorem digit?_digitOctet (d : Fin 10) : digit? (digitOctet d) = some d := by
  revert d
  decide

/-- Digits are taken up to an end. -/
theorem takeDigits_digits (ds : List (Fin 10)) (ends : Ends rest) :
    takeDigits (ds.map digitOctet ++ rest) = (ds, rest) := by
  induction ds with
  | nil =>
      cases rest with
      | nil => rfl
      | cons b rest =>
          have none : digit? b = none := by
            rcases ends b rfl with rfl | rfl | rfl <;> rfl
          simp [takeDigits, none]
  | cons d ds inductionHypothesis =>
      simp [takeDigits, digit?_digitOctet, inductionHypothesis]

theorem value_concat (ds : List (Fin 10)) (d : Fin 10) : value (ds ++ [d]) = 10 * value ds + d := by
  simp [value]

theorem digitOctet_eq (d : Fin 10) : (Text.digitChar d).toUInt8 = digitOctet d := by
  revert d
  decide

/-- The digits of a number name it, and the first of them is not zero unless it is the
only one. -/
theorem exists_digits (n : Nat) : ∃ d ds, wholeOctets n = (d :: ds).map digitOctet ∧
    value (d :: ds) = n ∧ (d = 0 → ds = []) := by
  induction n using Nat.strongRecOn with
  | ind n inductionHypothesis =>
      by_cases small : n < 10
      · refine ⟨⟨n, small⟩, [], ?_, ?_, fun _ => rfl⟩
        · rw [wholeOctets, Text.digits_of_small small]
          simp [← digitOctet_eq]
        · simp [value]
      · have large : 10 ≤ n := Nat.le_of_not_lt small
        rcases inductionHypothesis (n / 10) (by omega) with ⟨d, ds, spelled, named, leads⟩
        let last : Fin 10 := ⟨n % 10, Nat.mod_lt n (by decide)⟩
        refine ⟨d, ds ++ [last], ?_, ?_, ?_⟩
        · rw [wholeOctets, Text.digits_of_large large, List.map_append]
          change wholeOctets (n / 10) ++ _ = _
          rw [spelled]
          simp [last, ← digitOctet_eq]
        · have whole := Nat.div_add_mod n 10
          rw [← List.cons_append, value_concat, named]
          exact whole
        · rintro rfl
          rw [leads rfl] at named
          have tenth : n / 10 = 0 := named.symm
          omega

theorem scanWhole_wholeOctets (n : Nat) (ends : Ends rest) :
    scanWhole (wholeOctets n ++ rest) = some (n, rest) := by
  rcases exists_digits n with ⟨d, ds, spelled, named, leads⟩
  rw [spelled, scanWhole, takeDigits_digits (d :: ds) ends]
  have allowed : ¬ (d = 0 ∧ ds ≠ []) := fun both => both.2 (leads both.1)
  simp [allowed, named]

theorem scanFraction_of_ends (ends : Ends rest) : scanFraction rest = some (none, rest) := by
  cases rest with
  | nil => rfl
  | cons b rest => rcases ends b rfl with rfl | rfl | rfl <;> rfl

theorem scanExponent_of_ends (ends : Ends rest) : scanExponent rest = some (none, rest) := by
  cases rest with
  | nil => rfl
  | cons b rest => rcases ends b rfl with rfl | rfl | rfl <;> rfl

theorem octets_ofNat (n : Nat) : (ofNat n).octets = wholeOctets n := by
  simp [octets, ofNat]

theorem digitOctet_ne_minus (d : Fin 10) : digitOctet d ≠ 0x2D := by
  revert d
  decide

/-- A numeral starts with a minus or a digit. -/
theorem head_octets (n : Numeral) : ∃ b tail, n.octets = b :: tail ∧
    (b = 0x2D ∨ ∃ d, b = digitOctet d) := by
  rcases exists_digits n.whole with ⟨d, ds, spelled, _⟩
  unfold octets
  rw [spelled]
  cases n.negative with
  | true => exact ⟨0x2D, _, rfl, Or.inl rfl⟩
  | false => exact ⟨digitOctet d, _, rfl, Or.inr ⟨d, rfl⟩⟩

/-- Whether a numeral is scanned as it is written. -/
def IsSpelled (n : Numeral) : Prop :=
  ∀ rest, Ends rest → scan (n.octets ++ rest) = some (n, rest)

theorem isSpelled_ofNat (n : Nat) : (ofNat n).IsSpelled := by
  intro rest ends
  have unsigned : scan ((ofNat n).octets ++ rest) =
      scanUnsigned false ((ofNat n).octets ++ rest) := by
    rcases exists_digits n with ⟨d, ds, spelled, _⟩
    rw [octets_ofNat, spelled, scan]
    intro tail same
    exact digitOctet_ne_minus d (List.cons.inj same).1
  rw [unsigned, octets_ofNat, scanUnsigned, scanWhole_wholeOctets n ends]
  simp [scanFraction_of_ends ends, scanExponent_of_ends ends, ofNat]

end Numeral

/-! ## Quoted texts -/

namespace Escaped

/-- The part of a spelling that stands for an octet. -/
def pieceOf (b : UInt8) : Piece :=
  if 0x20 ≤ b ∨ b = 0x08 ∨ b = 0x09 ∨ b = 0x0A ∨ b = 0x0C ∨ b = 0x0D then .octet b
  else .unit b.toNat

/-- The ways in which an octet is spelled. -/
inductive Spells : UInt8 → List UInt8 → Prop
  | plain {b : UInt8} (printable : 0x20 ≤ b) (unquoted : b ≠ quote) (unescaped : b ≠ backslash) :
      Spells b [b]
  | short {b e : UInt8} (stands : shortEscape? e = some b) (own : pieceOf b = .octet b) :
      Spells b [backslash, e]
  | long {b h l : UInt8} (stands : hexValue4? 0x30 0x30 h l = some b.toNat)
      (own : pieceOf b = .unit b.toNat) :
      Spells b [backslash, letterU, 0x30, 0x30, h, l]

theorem hexValue4?_hexDigit (b : UInt8) :
    hexValue4? 0x30 0x30 (hexDigit (b.toNat / 16)) (hexDigit (b.toNat % 16)) = some b.toNat := by
  have each : ∀ n : Fin 256,
      hexValue4? 0x30 0x30 (hexDigit (n.val / 16)) (hexDigit (n.val % 16)) = some n.val := by
    decide +kernel
  exact each ⟨b.toNat, b.toNat_lt⟩

/-- A control character is spelled with a letter if it has one, and else by its
number. -/
theorem spells_of_low {b : UInt8} (low : ¬ 0x20 ≤ b) : Spells b
    (if b = 0x08 then [backslash, 0x62]
      else if b = 0x09 then [backslash, 0x74]
      else if b = 0x0A then [backslash, 0x6E]
      else if b = 0x0C then [backslash, 0x66]
      else if b = 0x0D then [backslash, 0x72]
      else [backslash, letterU, 0x30, 0x30, hexDigit (b.toNat / 16), hexDigit (b.toNat % 16)]) := by
  by_cases lettered : b = 0x08 ∨ b = 0x09 ∨ b = 0x0A ∨ b = 0x0C ∨ b = 0x0D
  · rcases lettered with rfl | rfl | rfl | rfl | rfl <;> exact .short rfl rfl
  · have own : pieceOf b = .unit b.toNat := if_neg (not_or.mpr ⟨low, lettered⟩)
    simp only [not_or] at lettered
    rcases lettered with ⟨backspace, tab, feed, form, carriage⟩
    rw [if_neg backspace, if_neg tab, if_neg feed, if_neg form, if_neg carriage]
    exact .long (hexValue4?_hexDigit b) own

theorem spells_escapeOctet (b : UInt8) : Spells b (escapeOctet b) := by
  unfold escapeOctet
  by_cases quoted : b = quote
  · rw [if_pos quoted, quoted]
    exact .short rfl rfl
  · by_cases escaped : b = backslash
    · rw [if_neg quoted, if_pos escaped, escaped]
      exact .short rfl rfl
    · rw [if_neg quoted, if_neg escaped]
      by_cases printable : 0x20 ≤ b
      · rw [if_pos printable]
        exact .plain printable quoted escaped
      · rw [if_neg printable]
        exact spells_of_low printable

variable {b : UInt8} {spelling rest : List UInt8}

/-- A spelling of an octet is scanned as a whole. -/
theorem scan_spells (spells : Spells b spelling) (rest : List UInt8) :
    scan (spelling ++ rest) = (scan rest).map fun scanned =>
      (spelling ++ scanned.1, scanned.2) := by
  cases spells with
  | plain printable unquoted unescaped =>
      have high : ¬ b < 0x20 := UInt8.not_lt.mpr printable
      rw [List.singleton_append, scan]
      · rw [if_neg high]
        cases scan rest <;> rfl
      · exact unquoted
      · intro a b c d rest same
        exact absurd same unescaped
      · intro e rest same
        exact absurd same unescaped
  | @short e stands own =>
      have unnumbered : e ≠ letterU := by
        rintro rfl
        contradiction
      rw [List.cons_append, List.singleton_append, scan]
      · rw [stands]
        cases scan rest <;> rfl
      · intro a b c d rest same
        exact absurd same unnumbered
  | long stands own =>
      simp only [List.cons_append, List.nil_append, scan, stands]
      cases scan rest <;> rfl

theorem pieces?_spells (spells : Spells b spelling) (rest : List UInt8) :
    pieces? (spelling ++ rest) = (pieces? rest).map (pieceOf b :: ·) := by
  cases spells with
  | plain printable unquoted unescaped =>
      have own : pieceOf b = .octet b := if_pos (Or.inl printable)
      rw [List.singleton_append, pieces?]
      · rw [if_neg unescaped, own]
        cases pieces? rest <;> rfl
      · intro a b c d rest same
        exact absurd same unescaped
      · intro e rest same
        exact absurd same unescaped
  | @short e stands own =>
      have unnumbered : e ≠ letterU := by
        rintro rfl
        contradiction
      rw [List.cons_append, List.singleton_append, pieces?]
      · rw [stands, own]
        cases pieces? rest <;> rfl
      · intro a b c d rest same
        exact absurd same unnumbered
  | long stands own =>
      simp only [List.cons_append, List.nil_append, pieces?, stands, own]
      cases pieces? rest <;> rfl

/-- The number of a control character is no half of a surrogate pair. -/
theorem join?_unit {n : Nat} (low : n < 0x20) (rest : List Piece) :
    join? (.unit n :: rest) =
      (join? rest).map (String.utf8EncodeChar (Char.ofNat n) ++ ·) := by
  have notHigh : isHigh n = false := by
    simp only [isHigh, Bool.and_eq_false_imp, decide_eq_true_eq, decide_eq_false_iff_not]
    omega
  have notLow : isLow n = false := by
    simp only [isLow, Bool.and_eq_false_imp, decide_eq_true_eq, decide_eq_false_iff_not]
    omega
  cases rest with
  | nil => simp [join?, notHigh, notLow]
  | cons piece rest =>
      cases piece with
      | octet b =>
          simp only [join?, notHigh, notLow, Bool.or_self, Bool.false_eq_true, if_false]
          cases join? rest <;> rfl
      | unit m =>
          simp only [join?, notHigh, notLow, Bool.false_eq_true, if_false]
          cases join? (.unit m :: rest) <;> rfl

theorem join?_pieceOf (b : UInt8) (rest : List Piece) :
    join? (pieceOf b :: rest) = (join? rest).map (b :: ·) := by
  unfold pieceOf
  split
  next => cases plain : join? rest <;> simp [join?, plain]
  next unlisted =>
    have low : b.toNat < 0x20 := by
      have below := UInt8.not_le.mp (not_or.mp unlisted).1
      exact UInt8.lt_iff_toNat_lt.mp below
    have encoded : String.utf8EncodeChar (Char.ofNat b.toNat) = [b] := by
      have each : ∀ n : Fin 0x20, String.utf8EncodeChar (Char.ofNat n) = [UInt8.ofNat n] := by
        decide +kernel
      simpa using each ⟨b.toNat, low⟩
    rw [join?_unit low, encoded]
    rfl

/-- Whether a spelling is scanned as it is written, up to its closing quote. -/
def IsSpelled (e : Escaped) : Prop :=
  ∀ rest, scan (e.octets ++ quote :: rest) = some (e.octets, rest)

theorem isSpelled_of_spells {bs : List UInt8} {spell : UInt8 → List UInt8}
    (spells : ∀ b ∈ bs, Spells b (spell b)) : IsSpelled ⟨bs.flatMap spell⟩ := by
  intro rest
  induction bs with
  | nil => rfl
  | cons b bs inductionHypothesis =>
      have own := spells b List.mem_cons_self
      have others := inductionHypothesis fun b member => spells b (List.mem_cons_of_mem _ member)
      simp only [List.flatMap_cons, List.append_assoc] at others ⊢
      rw [scan_spells own, others]
      rfl

theorem pieces?_of_spells {bs : List UInt8} {spell : UInt8 → List UInt8}
    (spells : ∀ b ∈ bs, Spells b (spell b)) :
    pieces? (bs.flatMap spell) = some (bs.map pieceOf) := by
  induction bs with
  | nil => rfl
  | cons b bs inductionHypothesis =>
      have own := spells b List.mem_cons_self
      have others := inductionHypothesis fun b member => spells b (List.mem_cons_of_mem _ member)
      rw [List.flatMap_cons, pieces?_spells own, others]
      rfl

theorem join?_map_pieceOf (bs : List UInt8) : join? (bs.map pieceOf) = some bs := by
  induction bs with
  | nil => rfl
  | cons b bs inductionHypothesis =>
      rw [List.map_cons, join?_pieceOf, inductionHypothesis]
      rfl

/-- Octets are what their spellings stand for. -/
theorem unescape?_of_spells {bs : List UInt8} {spell : UInt8 → List UInt8}
    (spells : ∀ b ∈ bs, Spells b (spell b)) : unescape? (bs.flatMap spell) = some bs := by
  rw [unescape?, pieces?_of_spells spells]
  exact join?_map_pieceOf bs

theorem isSpelled_ofString (s : String) : (ofString s).IsSpelled :=
  isSpelled_of_spells fun b _ => spells_escapeOctet b

/-- What is written for a text means it. -/
theorem text?_ofString (s : String) : (ofString s).text? = some s := by
  have octets : unescape? (ofString s).octets = some s.toUTF8.data.toList :=
    unescape?_of_spells fun b _ => spells_escapeOctet b
  rw [text?, octets]
  exact dif_pos s.isValidUTF8

/-- The digits of a number need no escapes. -/
theorem isSpelled_ofNat (n : Nat) : IsSpelled ⟨(Numeral.ofNat n).octets⟩ := by
  rcases Numeral.exists_digits n with ⟨d, ds, spelled, _⟩
  have plain : (d :: ds).map Numeral.digitOctet =
      ((d :: ds).map Numeral.digitOctet).flatMap fun b => [b] := by simp
  rw [Numeral.octets_ofNat, spelled, plain]
  apply isSpelled_of_spells
  intro b member
  rcases List.mem_map.mp member with ⟨d, _, rfl⟩
  have bounds : ∀ d, 0x20 ≤ Numeral.digitOctet d ∧ Numeral.digitOctet d ≠ quote ∧
      Numeral.digitOctet d ≠ backslash := by decide
  exact .plain (bounds d).1 (bounds d).2.1 (bounds d).2.2

end Escaped

end Json

end ClusterHub

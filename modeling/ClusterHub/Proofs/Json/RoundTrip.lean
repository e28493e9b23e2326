import ClusterHub.Json.Parse
import ClusterHub.Json.Print
import ClusterHub.Proofs.Json.Spelling

/-!
# Printed values

A value whose leaves are scanned as they are written is read back whole.  Reading
starts anywhere before something that can follow a value, so that items and members
are read back one by one.
-/

namespace ClusterHub.Json

/-- Whether all leaves of a value are scanned as they are written. -/
inductive IsSpelled : Json → Prop
  | null : IsSpelled .null
  | bool (b : Bool) : IsSpelled (.bool b)
  | number {n : Numeral} (spelled : n.IsSpelled) : IsSpelled (.number n)
  | string {e : Escaped} (spelled : e.IsSpelled) : IsSpelled (.string e)
  | array {items : List Json} (spelled : ∀ item ∈ items, IsSpelled item) :
      IsSpelled (.array items)
  | object {members : List (Escaped × Json)} (keys : ∀ member ∈ members, member.1.IsSpelled)
      (values : ∀ member ∈ members, IsSpelled member.2) : IsSpelled (.object members)

/-- Whether an octet starts a value: it is no blank and closes nothing. -/
def Opens (b : UInt8) : Prop :=
  isBlank b = false ∧ b ≠ 0x5D ∧ b ≠ 0x7D

instance (b : UInt8) : Decidable (Opens b) := inferInstanceAs (Decidable (_ ∧ _ ∧ _))

theorem skipBlanks_of_opens {b : UInt8} (opens : Opens b) (rest : List UInt8) :
    skipBlanks (b :: rest) = b :: rest := by
  simp [skipBlanks, opens.1]

/-- Whether an octet starts a numeral and nothing else. -/
def StartsNumeral (b : UInt8) : Prop :=
  Opens b ∧ b ≠ 0x6E ∧ b ≠ 0x74 ∧ b ≠ 0x66 ∧ b ≠ 0x22 ∧ b ≠ 0x5B ∧ b ≠ 0x7B

instance (b : UInt8) : Decidable (StartsNumeral b) :=
  inferInstanceAs (Decidable (_ ∧ _ ∧ _ ∧ _ ∧ _ ∧ _ ∧ _))

theorem exists_startsNumeral (n : Numeral) :
    ∃ b tail, n.octets = b :: tail ∧ StartsNumeral b := by
  rcases n.head_octets with ⟨b, tail, head, minus | ⟨d, digit⟩⟩
  · exact ⟨b, tail, head, minus ▸ by decide⟩
  · have starts : ∀ d, StartsNumeral (Numeral.digitOctet d) := by decide
    exact ⟨b, tail, head, digit ▸ starts d⟩

theorem exists_opens_print (value : Json) : ∃ b tail, value.print = b :: tail ∧ Opens b := by
  cases value with
  | null => exact ⟨_, _, rfl, by decide⟩
  | bool b => cases b <;> exact ⟨_, _, rfl, by decide⟩
  | number n =>
      rcases exists_startsNumeral n with ⟨b, tail, head, opens, -⟩
      exact ⟨b, tail, head, opens⟩
  | string e => exact ⟨_, _, rfl, by decide⟩
  | array items => cases items <;> exact ⟨_, _, rfl, by decide⟩
  | object members =>
      cases members with
      | nil => exact ⟨_, _, rfl, by decide⟩
      | cons member members => exact ⟨_, _, rfl, by decide⟩

theorem quoted_append (e : Escaped) (rest : List UInt8) :
    e.quoted ++ rest = Escaped.quote :: (e.octets ++ Escaped.quote :: rest) := by
  simp [Escaped.quoted]

section Steps

variable {fuel : Nat} {b : UInt8} {rest : List UInt8}

theorem parseValue_quote : parseValue (fuel + 1) (0x22 :: rest) =
    (Escaped.scan rest).map fun scanned => (.string ⟨scanned.1⟩, scanned.2) := by
  change (Escaped.scan rest).bind _ = _
  cases Escaped.scan rest <;> rfl

theorem parseValue_bracket (opens : Opens b) : parseValue (fuel + 1) (0x5B :: b :: rest) = do
    let (item, rest) ← parseValue fuel (b :: rest)
    let (items, rest) ← parseItems fuel rest
    return (.array (item :: items), rest) := by
  have token : skipBlanks (0x5B :: b :: rest) = 0x5B :: b :: rest := rfl
  rw [parseValue, token]
  simp only [skipBlanks_of_opens opens]
  split
  next same => exact absurd (List.cons.inj same).1 opens.2.1
  next => rfl

theorem parseItems_bracket : parseItems (fuel + 1) (0x5D :: rest) = some ([], rest) := rfl

theorem parseItems_comma : parseItems (fuel + 1) (0x2C :: rest) = do
    let (item, rest) ← parseValue fuel rest
    let (items, rest) ← parseItems fuel rest
    return (item :: items, rest) := rfl

theorem parseValue_brace (key : Escaped) :
    parseValue (fuel + 1) (0x7B :: (key.quoted ++ rest)) = do
      let (member, rest) ← parseMember fuel (key.quoted ++ rest)
      let (members, rest) ← parseMembers fuel rest
      return (.object (member :: members), rest) := by
  rw [quoted_append]
  rfl

theorem parseMember_quoted {key : Escaped} (spelled : key.IsSpelled) :
    parseMember (fuel + 1) (key.quoted ++ 0x3A :: rest) =
      (parseValue fuel rest).map fun parsed => ((key, parsed.1), parsed.2) := by
  rw [quoted_append]
  change (Escaped.scan _).bind _ = _
  rw [spelled]
  change (parseValue fuel rest).bind _ = _
  cases parseValue fuel rest <;> rfl

theorem parseMembers_brace : parseMembers (fuel + 1) (0x7D :: rest) = some ([], rest) := rfl

theorem parseMembers_comma : parseMembers (fuel + 1) (0x2C :: rest) = do
    let (member, rest) ← parseMember fuel rest
    let (members, rest) ← parseMembers fuel rest
    return (member :: members, rest) := rfl

end Steps

/-! ## Values before a rest -/

/-- Whether a value is read back from where it is written, by as many steps as it has
octets, up to whatever follows it. -/
def IsReadBack (value : Json) : Prop :=
  ∀ fuel rest, value.print.length ≤ fuel → Ends rest →
    parseValue fuel (value.print ++ rest) = some (value, rest)

theorem exists_step {value : Json} {fuel : Nat} (enough : value.print.length ≤ fuel) :
    ∃ steps, fuel = steps + 1 := by
  rcases exists_opens_print value with ⟨b, tail, head, -⟩
  rw [head, List.length_cons] at enough
  exact Nat.exists_eq_add_one.mpr (Nat.lt_of_lt_of_le (Nat.succ_pos _) enough)

theorem isReadBack_number {n : Numeral} (spelled : n.IsSpelled) : IsReadBack (.number n) := by
  intro fuel rest enough ends
  rcases exists_step enough with ⟨fuel, rfl⟩
  rcases exists_startsNumeral n with ⟨b, tail, head, opens, others⟩
  have scanned := spelled rest ends
  rw [head, List.cons_append] at scanned
  rw [print, head, List.cons_append, parseValue, skipBlanks_of_opens opens]
  -- the other patterns all start with octets that no numeral starts with
  split <;> simp_all

theorem isReadBack_string {e : Escaped} (spelled : e.IsSpelled) : IsReadBack (.string e) := by
  intro fuel rest enough ends
  rcases exists_step enough with ⟨fuel, rfl⟩
  rw [print, quoted_append, parseValue_quote, spelled]
  rfl

theorem ends_printItems (items : List Json) (rest : List UInt8) :
    Ends (printItems items ++ rest) := by
  cases items <;> simp [printItems, Ends]

theorem parseItems_printItems {items : List Json} (each : ∀ item ∈ items, IsReadBack item)
    {fuel : Nat} (enough : (printItems items).length ≤ fuel) (rest : List UInt8) :
    parseItems fuel (printItems items ++ rest) = some (items, rest) := by
  induction items generalizing fuel with
  | nil =>
      cases fuel with
      | zero => contradiction
      | succ fuel => exact parseItems_bracket
  | cons item items inductionHypothesis =>
      cases fuel with
      | zero => contradiction
      | succ fuel =>
          simp only [printItems, List.length_append, List.length_cons, List.cons_append,
            List.append_assoc] at enough ⊢
          have own := each item List.mem_cons_self fuel _ (by omega) (ends_printItems items rest)
          have others := inductionHypothesis
            (fun item member => each item (List.mem_cons_of_mem _ member))
            (show (printItems items).length ≤ fuel by omega)
          rw [parseItems_comma, own]
          simp [others]

theorem isReadBack_array {items : List Json} (each : ∀ item ∈ items, IsReadBack item) :
    IsReadBack (.array items) := by
  intro fuel rest enough ends
  rcases exists_step enough with ⟨fuel, rfl⟩
  cases items with
  | nil => rfl
  | cons item items =>
      simp only [print, List.length_append, List.length_cons, List.cons_append,
        List.append_assoc] at enough ⊢
      have own := each item List.mem_cons_self fuel _ (by omega) (ends_printItems items rest)
      have others := parseItems_printItems
        (fun item member => each item (List.mem_cons_of_mem _ member))
        (show (printItems items).length ≤ fuel by omega) rest
      rcases exists_opens_print item with ⟨b, tail, head, opens⟩
      rw [head, List.cons_append] at own ⊢
      rw [parseValue_bracket opens, own]
      simp [others]

theorem ends_printMembers (members : List (Escaped × Json)) (rest : List UInt8) :
    Ends (printMembers members ++ rest) := by
  cases members <;> simp [printMembers, Ends]

theorem parseMember_print {key : Escaped} {value : Json} (spelled : key.IsSpelled)
    (readBack : IsReadBack value) {fuel : Nat} {rest : List UInt8}
    (enough : value.print.length < fuel) (ends : Ends rest) :
    parseMember fuel (key.quoted ++ 0x3A :: (value.print ++ rest)) = some ((key, value), rest) := by
  cases fuel with
  | zero => contradiction
  | succ fuel =>
      rw [parseMember_quoted spelled, readBack fuel rest (Nat.le_of_lt_succ enough) ends]
      rfl

theorem parseMembers_printMembers {members : List (Escaped × Json)}
    (keys : ∀ member ∈ members, member.1.IsSpelled)
    (values : ∀ member ∈ members, IsReadBack member.2)
    {fuel : Nat} (enough : (printMembers members).length ≤ fuel) (rest : List UInt8) :
    parseMembers fuel (printMembers members ++ rest) = some (members, rest) := by
  induction members generalizing fuel with
  | nil =>
      cases fuel with
      | zero => contradiction
      | succ fuel => exact parseMembers_brace
  | cons member members inductionHypothesis =>
      cases fuel with
      | zero => contradiction
      | succ fuel =>
          simp only [printMembers, List.length_append, List.length_cons, List.cons_append,
            List.append_assoc] at enough ⊢
          have own := parseMember_print (keys member List.mem_cons_self)
            (values member List.mem_cons_self) (show member.2.print.length < fuel by omega)
            (ends_printMembers members rest)
          have others := inductionHypothesis
            (fun other later => keys other (List.mem_cons_of_mem _ later))
            (fun other later => values other (List.mem_cons_of_mem _ later))
            (show (printMembers members).length ≤ fuel by omega)
          rw [parseMembers_comma, own]
          simp [others]

theorem isReadBack_object {members : List (Escaped × Json)}
    (keys : ∀ member ∈ members, member.1.IsSpelled)
    (values : ∀ member ∈ members, IsReadBack member.2) : IsReadBack (.object members) := by
  intro fuel rest enough ends
  rcases exists_step enough with ⟨fuel, rfl⟩
  cases members with
  | nil => rfl
  | cons member members =>
      simp only [print, List.length_append, List.length_cons, List.cons_append,
        List.append_assoc] at enough ⊢
      have own := parseMember_print (keys member List.mem_cons_self)
        (values member List.mem_cons_self) (show member.2.print.length < fuel by omega)
        (ends_printMembers members rest)
      have others := parseMembers_printMembers
        (fun other later => keys other (List.mem_cons_of_mem _ later))
        (fun other later => values other (List.mem_cons_of_mem _ later))
        (show (printMembers members).length ≤ fuel by omega) rest
      rw [parseValue_brace, own]
      simp [others]

/-- What is printed for a value is read back from where it stands. -/
theorem IsSpelled.isReadBack {value : Json} (spelled : value.IsSpelled) : IsReadBack value := by
  induction spelled with
  | null =>
      intro fuel rest enough ends
      rcases exists_step enough with ⟨fuel, rfl⟩
      rfl
  | bool b =>
      intro fuel rest enough ends
      rcases exists_step enough with ⟨fuel, rfl⟩
      cases b <;> rfl
  | number spelled => exact isReadBack_number spelled
  | string spelled => exact isReadBack_string spelled
  | array _ each => exact isReadBack_array each
  | object keys _ values => exact isReadBack_object keys values

/-- What is printed for a value is read as that value. -/
theorem parse?_print {value : Json} (spelled : value.IsSpelled) :
    parse? value.print = some value := by
  have readBack := spelled.isReadBack (value.print.length + 1) [] (Nat.le_succ _) ends_nil
  rw [List.append_nil] at readBack
  rw [parse?, readBack]
  rfl

end ClusterHub.Json

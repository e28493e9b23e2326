import ClusterHub.Json.Reading
import ClusterHub.Proofs.Json.RoundTrip
import ClusterHub.Proofs.Time.RoundTrip

/-!
# Values read back

A writer and a reader of a type go together if what is written has leaves that are
scanned as they are written, and is read as the value it was written for.  Such pairs
are put together as values are: to lists, to values that may be absent, to maps and to
structures.
-/

namespace ClusterHub.Json

/-- Whether a reader reads back what a writer writes. -/
structure ReadsBack {α : Type} (write : α → Json) (read : Reading α) : Prop where
  spelled : ∀ a, (write a).IsSpelled
  read : ∀ a, read .direct (write a) = some a

variable {α β : Type} {write : α → Json} {read : Reading α}

/-- What is written for a value is printed and parsed again without loss. -/
theorem ReadsBack.parse? (readsBack : ReadsBack write read) (a : α) :
    (Json.parse? (write a).print).bind (read .direct) = some a := by
  rw [parse?_print (readsBack.spelled a)]
  exact readsBack.read a

theorem readsBack_text : ReadsBack ofText text where
  spelled s := .string (Escaped.isSpelled_ofString s)
  read s := Escaped.text?_ofString s

theorem readsBack_flag : ReadsBack .bool flag where
  spelled := .bool
  read _ := rfl

theorem natBelow_ofNat {bound n : Nat} (small : n < bound) :
    natBelow bound .direct (ofNat n) = some n := by
  simp [natBelow, ofNat, Numeral.ofNat, Numeral.nat?, small]

theorem isSpelled_ofNat (n : Nat) : (ofNat n).IsSpelled := .number (Numeral.isSpelled_ofNat n)

theorem uint32_ofNat (n : UInt32) : uint32 .direct (ofNat n.toNat) = some n := by
  rw [uint32, natBelow_ofNat n.toNat_lt_size]
  simp

theorem uint64_ofNat (n : UInt64) : uint64 .direct (ofNat n.toNat) = some n := by
  rw [uint64, natBelow_ofNat n.toNat_lt_size]
  simp

theorem readsBack_nothing : ReadsBack (fun _ => .null) nothing where
  spelled _ := .null
  read _ := rfl

theorem readsBack_timestamp : ReadsBack ofTimestamp timestamp where
  spelled t := readsBack_text.spelled (t.text .exact)
  read t := by
    change (text .direct (ofText (t.text .exact))).bind _ = _
    rw [readsBack_text.read, Option.bind_some]
    exact t.ofText?_text

/-- Choices are told apart by their names. -/
theorem readsBack_choice {choices : List (String × α)} {name : α → String}
    (named : ∀ a, choices.lookup (name a) = some a) :
    ReadsBack (fun a => ofText (name a)) (choice choices) where
  spelled a := readsBack_text.spelled (name a)
  read a := by
    change (Escaped.text? _).bind _ = _
    rw [Escaped.text?_ofString]
    exact named a

theorem ReadsBack.list (readsBack : ReadsBack write read) :
    ReadsBack (ofList write) (list read) where
  spelled items := by
    apply IsSpelled.array
    intro item member
    rcases List.mem_map.mp member with ⟨a, _, rfl⟩
    exact readsBack.spelled a
  read items := by
    rw [ofList, Json.list]
    induction items with
    | nil => rfl
    | cons a items inductionHypothesis =>
        simp [readsBack.read a, inductionHypothesis]

/-- A value that is never written as nothing can be told from nothing. -/
theorem ReadsBack.optional (readsBack : ReadsBack write read) (present : ∀ a, write a ≠ .null) :
    ReadsBack (ofOption write) (optional read) where
  spelled a := by
    cases a with
    | none => exact .null
    | some a => exact readsBack.spelled a
  read a := by
    cases a with
    | none => rfl
    | some a =>
        rw [ofOption, Json.optional]
        · rw [readsBack.read]
          rfl
        · exact present a

/-! ## Maps -/

/-- A map is made up of its pairs. -/
theorem mapOfPairs_toList {κ : Type} [Ord κ] [Std.TransOrd κ] [Std.LawfulEqOrd κ] [BEq κ]
    [Std.LawfulBEqOrd κ] (map : Std.ExtTreeMap κ β) : mapOfPairs map.toList = map := by
  rw [mapOfPairs, ← Std.ExtTreeMap.ofList_eq_foldl]
  apply Std.ExtTreeMap.ext_getElem?
  intro key
  cases found : map[key]? with
  | some value =>
      have member := Std.ExtTreeMap.mem_toList_iff_getElem?_eq_some.mpr found
      exact Std.ExtTreeMap.getElem?_ofList_of_mem Std.ReflCmp.compare_self
        Std.ExtTreeMap.distinct_keys_toList member
  | none =>
      apply Std.ExtTreeMap.getElem?_ofList_of_contains_eq_false
      rw [Std.ExtTreeMap.map_fst_toList_eq_keys, Std.ExtTreeMap.contains_keys]
      rw [Std.ExtTreeMap.contains_eq_isSome_getElem?, found]
      rfl

section Pairs

variable {κ : Type} {key : κ → Escaped} {readKey : Escaped → Option κ}

theorem isSpelled_ofPairs (keys : ∀ k, (key k).IsSpelled) (readsBack : ReadsBack write read)
    (pairs : List (κ × α)) :
    (Json.object (pairs.map fun pair => (key pair.1, write pair.2))).IsSpelled := by
  apply IsSpelled.object
  · intro member listed
    rcases List.mem_map.mp listed with ⟨pair, _, rfl⟩
    exact keys pair.1
  · intro member listed
    rcases List.mem_map.mp listed with ⟨pair, _, rfl⟩
    exact readsBack.spelled pair.2

/-- Members are read back one by one if their keys are. -/
theorem mapM_ofPairs (keys : ∀ k, readKey (key k) = some k) (readsBack : ReadsBack write read)
    (pairs : List (κ × α)) :
    (pairs.map fun pair => (key pair.1, write pair.2)).mapM (fun member => do
      let k ← readKey member.1
      let a ← read .direct member.2
      return (k, a)) = some pairs := by
  induction pairs with
  | nil => rfl
  | cons pair pairs inductionHypothesis =>
      rw [List.map_cons, List.mapM_cons, inductionHypothesis]
      simp [keys, readsBack.read]

end Pairs

theorem ReadsBack.textMap (readsBack : ReadsBack write read) :
    ReadsBack (ofTextMap write) (textMap read) where
  spelled map := isSpelled_ofPairs Escaped.isSpelled_ofString readsBack map.toList
  read map := calc
    Json.textMap read .direct (ofTextMap write map)
      = (some map.toList).bind fun pairs => some (mapOfPairs pairs) :=
        congrArg (fun read => read.bind fun pairs => some (mapOfPairs pairs))
          (mapM_ofPairs Escaped.text?_ofString readsBack map.toList)
    _ = some map := congrArg some (mapOfPairs_toList map)

/-- A number is read from a key that spells it. -/
theorem keyNumber?_ofNat (n : UInt32) : keyNumber? ⟨(Numeral.ofNat n.toNat).octets⟩ = some n := by
  have scanned := Numeral.isSpelled_ofNat n.toNat [] ends_nil
  rw [List.append_nil] at scanned
  rw [keyNumber?, scanned]
  exact uint32_ofNat n

theorem ReadsBack.numberMap (readsBack : ReadsBack write read) :
    ReadsBack (ofNumberMap write) (numberMap read) where
  spelled map :=
    have keys (n : UInt32) : Escaped.IsSpelled ⟨(Numeral.ofNat n.toNat).octets⟩ :=
      Escaped.isSpelled_ofNat n.toNat
    isSpelled_ofPairs keys readsBack map.toList
  read map := calc
    Json.numberMap read .direct (ofNumberMap write map)
      = (some map.toList).bind fun pairs => some (mapOfPairs pairs) :=
        congrArg (fun read => read.bind fun pairs => some (mapOfPairs pairs))
          (mapM_ofPairs keyNumber?_ofNat readsBack map.toList)
    _ = some map := congrArg some (mapOfPairs_toList map)

/-- The members of a structure are its fields, if they are named as fields are and in
the same order. -/
theorem fields?_ofMembers {names : List String} {members : List (String × Json)}
    (distinct : names.Nodup) (ordered : (members.map Prod.fst).Sublist names) :
    fields? names .direct (ofMembers members) = some ⟨false, .direct, members⟩ := by
  have named : namedMembers? (members.map fun member => (.ofString member.1, member.2)) =
      some members := by
    rw [namedMembers?]
    induction members with
    | nil => rfl
    | cons member members inductionHypothesis =>
        have others := inductionHypothesis ((List.sublist_cons_self _ _).trans ordered)
        simp [Escaped.text?_ofString, others]
  have known : (members.filter fun member => names.contains member.1) = members := by
    rw [List.filter_eq_self]
    intro member listed
    exact List.elem_eq_true_of_mem (ordered.subset (List.mem_map_of_mem listed))
  have once : (members.map Prod.fst).Nodup := distinct.sublist ordered
  rw [ofMembers, fields?, named]
  change (if (List.map Prod.fst (members.filter _)).Nodup then _ else _) = _
  rw [known, if_pos once]
  rfl

theorem isSpelled_ofMembers {members : List (String × Json)}
    (spelled : ∀ member ∈ members, member.2.IsSpelled) : (ofMembers members).IsSpelled := by
  apply IsSpelled.object
  · intro member listed
    rcases List.mem_map.mp listed with ⟨own, _, rfl⟩
    exact Escaped.isSpelled_ofString own.1
  · intro member listed
    rcases List.mem_map.mp listed with ⟨own, given, rfl⟩
    exact spelled own given

/-- A structure is read back if it is made up again from its members. -/
theorem readsBack_ofMembers {names : List String} {members : α → List (String × Json)}
    {build : Fields → Option α} (distinct : names.Nodup)
    (ordered : ∀ a, ((members a).map Prod.fst).Sublist names)
    (spelled : ∀ a, ∀ member ∈ members a, member.2.IsSpelled)
    (rebuilt : ∀ a, build ⟨false, .direct, members a⟩ = some a) :
    ReadsBack (fun a => ofMembers (members a))
      (fun source value => (fields? names source value).bind build) where
  spelled a := isSpelled_ofMembers (spelled a)
  read a := by
    rw [fields?_ofMembers distinct (ordered a)]
    exact rebuilt a

end ClusterHub.Json

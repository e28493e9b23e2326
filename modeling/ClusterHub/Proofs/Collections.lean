import Std.Data.ExtTreeMap
import Std.Data.ExtTreeSet

/-!
# Lists, maps and sets

Which element of a list is the first with a property, and what an operation on a
map or a set comes to under a key that is there already, or one that is not.
-/

namespace ClusterHub

section Lists

variable {α : Type} {property other : α → Prop} {list : List α} {a b : α}

/-- Whether an element of a list has a property that none before it has. -/
def IsFirst (property : α → Prop) (list : List α) (a : α) : Prop :=
  ∃ earlier later, list = earlier ++ a :: later ∧ property a ∧ ∀ b ∈ earlier, ¬ property b

theorem not_isFirst_nil : ¬ IsFirst property [] a := by
  rintro ⟨earlier, later, split, _⟩
  cases earlier <;> contradiction

theorem isFirst_cons : IsFirst property (b :: list) a ↔
    property b ∧ a = b ∨ ¬ property b ∧ IsFirst property list a := by
  constructor
  · rintro ⟨earlier, later, split, holds, before⟩
    cases earlier with
    | nil =>
        cases split
        exact Or.inl ⟨holds, rfl⟩
    | cons first rest =>
        cases split
        exact Or.inr ⟨before b List.mem_cons_self, rest, later, rfl, holds,
          fun other member => before other (List.mem_cons_of_mem b member)⟩
  · rintro (⟨holds, rfl⟩ | ⟨fails, earlier, later, rfl, holds, before⟩)
    · exact ⟨[], list, rfl, holds, fun other => nofun⟩
    · exact ⟨b :: earlier, later, rfl, holds, List.forall_mem_cons.mpr ⟨fails, before⟩⟩

theorem IsFirst.mem (first : IsFirst property list a) : a ∈ list := by
  rcases first with ⟨earlier, later, rfl, _⟩
  exact List.mem_append_cons_self

theorem IsFirst.holds (first : IsFirst property list a) : property a := by
  rcases first with ⟨earlier, later, _, holds, _⟩
  exact holds

theorem isFirst_congr (same : ∀ a, property a ↔ other a) :
    IsFirst property list a ↔ IsFirst other list a := by
  rw [funext fun a => propext (same a)]

/-- If an element has a property, then one of those with it is the first. -/
theorem exists_isFirst (member : a ∈ list) (holds : property a) :
    ∃ b, IsFirst property list b := by
  induction list with
  | nil => contradiction
  | cons first rest inductionHypothesis =>
      by_cases here : property first
      · exact ⟨first, isFirst_cons.mpr (Or.inl ⟨here, rfl⟩)⟩
      · rcases List.mem_cons.mp member with rfl | later
        · contradiction
        · rcases inductionHypothesis later with ⟨b, found⟩
          exact ⟨b, isFirst_cons.mpr (Or.inr ⟨here, found⟩)⟩

theorem find?_eq_some_iff_isFirst {test : α → Bool} :
    list.find? test = some a ↔ IsFirst (fun a => test a = true) list a := by
  rw [List.find?_eq_some_iff_append]
  constructor
  · rintro ⟨holds, earlier, later, split, before⟩
    exact ⟨earlier, later, split, holds, fun b member => by simpa using before b member⟩
  · rintro ⟨earlier, later, split, holds, before⟩
    exact ⟨holds, earlier, later, split, fun b member => by simpa using before b member⟩

end Lists

variable {κ α : Type} [Ord κ] [Std.TransOrd κ] [Std.LawfulEqOrd κ] {key : κ}

section Maps

variable {map : Std.ExtTreeMap κ α}

theorem insert_insert (map : Std.ExtTreeMap κ α) (key : κ) (first last : α) :
    (map.insert key first).insert key last = map.insert key last := by
  apply Std.ExtTreeMap.ext_getElem?
  intro other
  rw [Std.ExtTreeMap.getElem?_insert, Std.ExtTreeMap.getElem?_insert,
    Std.ExtTreeMap.getElem?_insert]
  split <;> rfl

/-- To change what stands under a key is to replace it. -/
theorem modify_of_found {value : α} (found : map[key]? = some value) (change : α → α) :
    map.modify key change = map.insert key (change value) := by
  apply Std.ExtTreeMap.ext_getElem?
  intro other
  rw [Std.ExtTreeMap.getElem?_modify, Std.ExtTreeMap.getElem?_insert]
  split
  · rw [found]
    rfl
  · rfl

/-- To put under a key what stands there changes nothing. -/
theorem insert_of_found {value : α} (found : map[key]? = some value) :
    map.insert key value = map := by
  apply Std.ExtTreeMap.ext_getElem?
  intro other
  rw [Std.ExtTreeMap.getElem?_insert]
  split
  · next same => rw [← Std.LawfulEqCmp.eq_of_compare same, found]
  · rfl

theorem modify_of_absent (absent : map[key]? = none) (change : α → α) :
    map.modify key change = map := by
  apply Std.ExtTreeMap.ext_getElem?
  intro other
  rw [Std.ExtTreeMap.getElem?_modify]
  split
  · next same =>
      rw [← Std.LawfulEqCmp.eq_of_compare same, absent]
      rfl
  · rfl

theorem insert_swap {other : κ} (apart : key ≠ other) (map : Std.ExtTreeMap κ α)
    (first last : α) :
    (map.insert key first).insert other last = (map.insert other last).insert key first := by
  apply Std.ExtTreeMap.ext_getElem?
  intro found
  simp only [Std.ExtTreeMap.getElem?_insert, Std.LawfulEqCmp.compare_eq_iff_eq]
  by_cases here : key = found
  · simp [here, here ▸ apart.symm]
  · simp [here]

end Maps

section Sets

variable {other : κ}

theorem insert_comm (set : Std.ExtTreeSet κ) (key other : κ) :
    (set.insert key).insert other = (set.insert other).insert key := by
  apply Std.ExtTreeSet.ext_mem
  intro member
  simp only [Std.ExtTreeSet.mem_insert]
  exact or_left_comm

theorem erase_comm (set : Std.ExtTreeSet κ) (key other : κ) :
    (set.erase key).erase other = (set.erase other).erase key := by
  apply Std.ExtTreeSet.ext_mem
  intro member
  simp only [Std.ExtTreeSet.mem_erase]
  exact and_left_comm

theorem erase_insert_of_ne (set : Std.ExtTreeSet κ) (apart : key ≠ other) :
    (set.insert other).erase key = (set.erase key).insert other := by
  apply Std.ExtTreeSet.ext_mem
  intro member
  simp only [Std.ExtTreeSet.mem_erase, Std.ExtTreeSet.mem_insert, ne_eq,
    Std.LawfulEqCmp.compare_eq_iff_eq]
  constructor
  · rintro ⟨different, same | there⟩
    · exact Or.inl same
    · exact Or.inr ⟨different, there⟩
  · rintro (rfl | ⟨different, there⟩)
    · exact ⟨apart, Or.inl rfl⟩
    · exact ⟨different, Or.inr there⟩

end Sets

theorem erase_of_not_mem {set : Std.ExtTreeSet κ} (absent : key ∉ set) :
    set.erase key = set := by
  apply Std.ExtTreeSet.ext_mem
  intro other
  rw [Std.ExtTreeSet.mem_erase]
  apply and_iff_right_of_imp
  intro member same
  rw [Std.LawfulEqCmp.eq_of_compare same] at absent
  exact absent member

end ClusterHub

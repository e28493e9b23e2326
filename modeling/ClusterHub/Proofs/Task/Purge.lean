import ClusterHub.Proofs.Task.Load

/-!
# What a purge forgets

Tasks are forgotten one after the other, on a ledger that shrinks: first those that an
order lists, then the completed ones of the engines that it lists.  So a task that is
listed twice, or is reached in both ways, is met again when it is no longer known, and
counts once.  An order that lists a pending task comes to nothing before anything is
forgotten.
-/

namespace ClusterHub.Ledger

variable {l before middle after : Ledger} {id : String} {ids : List String}
  {gone other : String → Prop} {count more : Nat} {order : PurgeOrder}

/-- Some tasks are gone from every set and group, and counted; of all others the ledger
says what it said before. -/
structure Forgets (before after : Ledger) (gone : String → Prop) (count : Nat) : Prop where
  known : ∀ id, gone id → id ∈ before.tasks
  evicted : ∀ id, gone id → after.Unfiled id ∧ id ∉ after.unassigned
  kept : ∀ id, ¬ gone id →
    Untouched before after id ∧ (id ∈ after.unassigned ↔ id ∈ before.unassigned)
  size : after.size + count = before.size

namespace Forgets

theorem refl (l : Ledger) : Forgets l l (fun _ => False) 0 where
  known := fun _ => False.elim
  evicted := fun _ => False.elim
  kept := fun id _ => ⟨.refl l id, Iff.rfl⟩
  size := rfl

theorem congr (forgets : Forgets before after gone count) (same : ∀ id, gone id ↔ other id) :
    Forgets before after other count := by
  rwa [← funext fun id => propext (same id)]

theorem mem_tasks (forgets : Forgets before after gone count) :
    id ∈ after.tasks ↔ ¬ gone id ∧ id ∈ before.tasks := by
  by_cases lost : gone id
  · exact iff_of_false (forgets.evicted id lost).1.not_mem_tasks fun both => both.1 lost
  · rw [(forgets.kept id lost).1.mem_tasks]
    exact (and_iff_right lost).symm

/-- What is gone later was there in between. -/
theorem trans (first : Forgets before middle gone count)
    (second : Forgets middle after other more) :
    Forgets before after (fun id => gone id ∨ other id) (count + more) := by
  constructor
  case known =>
    rintro id (early | late)
    · exact first.known id early
    · exact (first.mem_tasks.mp (second.known id late)).2
  case evicted =>
    intro id lost
    by_cases late : other id
    · exact second.evicted id late
    · rcases first.evicted id (lost.resolve_right late) with ⟨unfiled, assigned⟩
      rcases second.kept id late with ⟨untouched, same⟩
      exact ⟨unfiled.untouched untouched, fun waits => assigned (same.mp waits)⟩
  case kept =>
    intro id spared
    rcases first.kept id fun early => spared (Or.inl early) with ⟨untouched, same⟩
    rcases second.kept id fun late => spared (Or.inr late) with ⟨still, again⟩
    exact ⟨untouched.trans still, again.trans same⟩
  case size =>
    have earlier := first.size
    have later := second.size
    omega

/-- Every task that is gone is counted once. -/
theorem count_eq (forgets : Forgets before after gone count) :
    count = {id | gone id}.ncard := by
  have keys : ∀ l : Ledger, {id | id ∈ l.tasks}.ncard = l.size ∧ {id | id ∈ l.tasks}.Finite := by
    intro l
    have same : ∀ id, id ∈ l.tasks.keys ↔ id ∈ l.tasks := fun id => Std.ExtTreeMap.mem_keys
    rw [ncard_of_nodup l.tasks.nodup_keys same, Std.ExtTreeMap.length_keys]
    exact ⟨rfl, l.tasks.keys.finite_toSet.subset fun id known => (same id).mpr known⟩
  have whole : {id | id ∈ before.tasks} = {id | id ∈ after.tasks} ∪ {id | gone id} := by
    ext id
    change id ∈ before.tasks ↔ id ∈ after.tasks ∨ gone id
    rw [forgets.mem_tasks]
    constructor
    · intro known
      by_cases lost : gone id
      · exact Or.inr lost
      · exact Or.inl ⟨lost, known⟩
    · rintro (⟨_, known⟩ | lost)
      · exact known
      · exact forgets.known id lost
  have apart : Disjoint {id | id ∈ after.tasks} {id | gone id} :=
    Set.disjoint_left.mpr fun id still lost => (forgets.mem_tasks.mp still).1 lost
  have finite : {id | gone id}.Finite := (keys before).2.subset fun id => forgets.known id
  have total := Set.ncard_union_eq apart (keys after).2 finite
  rw [← whole, (keys before).1, (keys after).1] at total
  have size := forgets.size
  omega

end Forgets

theorem evict_of_unknown (unknown : id ∉ l.tasks) : l.evict id = (false, l) := by
  simp [evict, unknown]

theorem fst_evict (known : id ∈ l.tasks) : (l.evict id).1 = true := by
  simp [evict, Std.ExtTreeMap.getElem?_eq_some_getElem known]

theorem size_evict (known : id ∈ l.tasks) : (l.evict id).2.size + 1 = l.size := by
  have some_left : l.tasks.size ≠ 0 := fun none =>
    Std.ExtTreeMap.not_mem_empty (Std.ExtTreeMap.eq_empty_iff_size_eq_zero.mpr none ▸ known)
  simp only [evict, Std.ExtTreeMap.getElem?_eq_some_getElem known, size,
    Std.ExtTreeMap.size_erase, Std.ExtTreeMap.contains_iff_mem, known, if_true]
  omega

theorem mem_unassigned_evict (known : id ∈ l.tasks) {task : String} :
    task ∈ (l.evict id).2.unassigned ↔ id ≠ task ∧ task ∈ l.unassigned := by
  simp [evict, Std.ExtTreeMap.getElem?_eq_some_getElem known]

theorem Consistent.forgets_evict (consistent : l.Consistent) (id : String) :
    Forgets l (l.evict id).2 (fun task => task = id ∧ task ∈ l.tasks)
      (if (l.evict id).1 then 1 else 0) := by
  by_cases known : id ∈ l.tasks
  · rw [fst_evict known, if_pos rfl]
    constructor
    case known => exact fun task lost => lost.2
    case size => exact size_evict known
    case evicted =>
      rintro task ⟨rfl, _⟩
      exact ⟨consistent.unfiled_evict task, fun waits => ((mem_unassigned_evict known).mp waits).1 rfl⟩
    case kept =>
      intro task spared
      have different : id ≠ task := by
        rintro rfl
        exact spared ⟨rfl, known⟩
      exact ⟨untouched_evict different,
        (mem_unassigned_evict known).trans (and_iff_right different)⟩
  · rw [evict_of_unknown known]
    apply (Forgets.refl l).congr
    intro task
    apply iff_of_false not_false
    rintro ⟨rfl, there⟩
    exact known there

/-- Those that are evicted are added to those counted before. -/
theorem foldl_evict (ids : List String) (count : Nat) (l : Ledger) :
    ids.foldl (fun (count, l) id =>
      let (known, l) := l.evict id
      (if known then count + 1 else count, l)) (count, l) =
    (count + (l.evictAll ids).1, (l.evictAll ids).2) := by
  induction ids generalizing count l with
  | nil => rfl
  | cons id rest inductionHypothesis =>
      rw [evictAll, List.foldl_cons, List.foldl_cons]
      simp only [inductionHypothesis]
      split
      · rw [Nat.zero_add, Nat.add_assoc]
      · rw [Nat.zero_add]

theorem evictAll_cons (id : String) (ids : List String) :
    l.evictAll (id :: ids) =
      ((if (l.evict id).1 then 1 else 0) + ((l.evict id).2.evictAll ids).1,
        ((l.evict id).2.evictAll ids).2) := by
  rw [evictAll, List.foldl_cons]
  exact foldl_evict ids _ (l.evict id).2

/-- Of the listed tasks those are forgotten that are known, each once. -/
theorem Consistent.forgets_evictAll (consistent : l.Consistent) (ids : List String) :
    Forgets l (l.evictAll ids).2 (fun id => id ∈ ids ∧ id ∈ l.tasks) (l.evictAll ids).1 := by
  induction ids generalizing l with
  | nil => exact (Forgets.refl l).congr fun id => by simp
  | cons first rest inductionHypothesis =>
      have evicted := consistent.forgets_evict first
      rw [evictAll_cons]
      apply (evicted.trans (inductionHypothesis (consistent.evict first))).congr
      intro id
      rw [evicted.mem_tasks, List.mem_cons]
      constructor
      · rintro (⟨rfl, known⟩ | ⟨listed, _, known⟩)
        · exact ⟨Or.inl rfl, known⟩
        · exact ⟨Or.inr listed, known⟩
      · rintro ⟨listed, known⟩
        by_cases here : id = first
        · exact Or.inl ⟨here, known⟩
        · exact Or.inr ⟨listed.resolve_left here, fun lost => here lost.1, known⟩

/-! ## Orders to purge -/

/-- A purge of listed tasks comes to nothing for the first that is pending. -/
theorem purge_eq_error_iff {fault : Fault} : l.purge ids = .error fault ↔
    ∃ id, IsFirst (· ∈ l.pending) ids id ∧ fault = .taskPending id := by
  have first : ∀ id, ids.find? (fun id => l.pending.contains id) = some id ↔
      IsFirst (· ∈ l.pending) ids id := fun id =>
    find?_eq_some_iff_isFirst.trans (isFirst_congr fun _ => Std.ExtTreeSet.contains_iff_mem)
  simp only [← first]
  unfold purge
  cases ids.find? fun id => l.pending.contains id with
  | none => simp
  | some id => simp [eq_comm]

theorem purge_of_settled (settled : ∀ id ∈ ids, id ∉ l.pending) :
    l.purge ids = .ok (l.evictAll ids) := by
  have none_first : ids.find? (fun id => l.pending.contains id) = none :=
    List.find?_eq_none.mpr fun id listed => by simpa using settled id listed
  rw [purge, none_first]

/-- What an order to purge comes to: how many tasks are forgotten, and the ledger that is
left. -/
def obey (l : Ledger) (order : PurgeOrder) : Except Fault (Nat × Ledger) :=
  if order.all then .ok l.purgeAll
  else do
    let (listed, l) ← l.purge order.tasks
    let (ofEngines, l) := l.purgeEngines order.engines
    return (listed + ofEngines, l)

/-- The tasks that an order to purge names: those that it lists, and the completed ones of
the engines that it lists. -/
def IsNamed (l : Ledger) (order : PurgeOrder) (id : String) : Prop :=
  id ∈ l.tasks ∧ (id ∈ order.tasks ∨
    id ∈ l.completed ∧ ∃ engine ∈ order.engines, l.engineOf id = some engine)

theorem Consistent.forgets_purgeEngines (consistent : l.Consistent) (engines : List EngineId) :
    Forgets l (l.purgeEngines engines).2
      (fun id => id ∈ l.completed ∧ ∃ engine ∈ engines, l.engineOf id = some engine)
      (l.purgeEngines engines).1 := by
  apply (consistent.forgets_evictAll _).congr
  intro id
  simp only [List.mem_flatMap, Std.ExtTreeSet.mem_toList, Std.ExtTreeSet.mem_inter_iff,
    consistent.byEngine]
  constructor
  · rintro ⟨⟨engine, listed, bound, completed⟩, _⟩
    exact ⟨completed, engine, listed, bound⟩
  · rintro ⟨completed, engine, listed, bound⟩
    exact ⟨⟨engine, listed, bound, completed⟩, (consistent.known id).mpr (Or.inr completed)⟩

/-- The tasks that are listed are forgotten first, and those of the engines from what is
left. -/
theorem isNamed_iff (forgets : Forgets l after (fun id => id ∈ order.tasks ∧ id ∈ l.tasks) count)
    (consistent : l.Consistent) : l.IsNamed order id ↔
      (id ∈ order.tasks ∧ id ∈ l.tasks) ∨
        id ∈ after.completed ∧ ∃ engine ∈ order.engines, after.engineOf id = some engine := by
  by_cases lost : id ∈ order.tasks ∧ id ∈ l.tasks
  · exact iff_of_true ⟨lost.2, Or.inl lost.1⟩ (Or.inl lost)
  · have untouched := (forgets.kept id lost).1
    rw [engineOf, untouched.found, untouched.completed]
    constructor
    · rintro ⟨known, listed | ofEngine⟩
      · exact Or.inl ⟨listed, known⟩
      · exact Or.inr ofEngine
    · rintro (listed | ⟨completed, ofEngine⟩)
      · exact absurd listed lost
      · exact ⟨(consistent.known id).mpr (Or.inr completed), Or.inr ⟨completed, ofEngine⟩⟩

/-- No pending task is forgotten. -/
theorem Forgets.pending_eq (forgets : Forgets l after (l.IsNamed order) count)
    (consistent : l.Consistent) (settled : ∀ id ∈ order.tasks, id ∉ l.pending) :
    after.pending = l.pending := by
  apply Std.ExtTreeSet.ext_mem
  intro id
  by_cases named : l.IsNamed order id
  · have outside : id ∉ l.pending := by
      rcases named.2 with listed | ⟨completed, _⟩
      · exact settled id listed
      · exact fun pending => consistent.apart pending completed
    exact iff_of_false (forgets.evicted id named).1.pending outside
  · exact (forgets.kept id named).1.pending

theorem obey_of_all (all : order.all = true) : l.obey order = .ok (l.size, {}) :=
  if_pos all

theorem obey_of_pending (listed : order.all = false)
    (first : IsFirst (· ∈ l.pending) order.tasks id) :
    l.obey order = .error (.taskPending id) := by
  have refused : l.purge order.tasks = .error (.taskPending id) :=
    purge_eq_error_iff.mpr ⟨id, first, rfl⟩
  rw [obey, listed, refused]
  rfl

/-- An order that lists no pending task is carried out. -/
theorem Consistent.obey_of_settled (consistent : l.Consistent) (listed : order.all = false)
    (settled : ∀ id ∈ order.tasks, id ∉ l.pending) :
    ∃ count after, l.obey order = .ok (count, after) ∧ Forgets l after (l.IsNamed order) count := by
  have first := consistent.forgets_evictAll order.tasks
  have second := (consistent.evictAll order.tasks).forgets_purgeEngines order.engines
  have both := (first.trans second).congr fun id => (isNamed_iff first consistent).symm
  rw [obey, listed, purge_of_settled settled]
  exact ⟨_, _, rfl, both⟩

end ClusterHub.Ledger

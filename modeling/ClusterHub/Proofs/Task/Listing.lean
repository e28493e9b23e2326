import ClusterHub.Proofs.Task.Consistency
import ClusterHub.Task.Report
import Mathlib

/-!
# Listings of tasks

A listing shows the tasks that pass a filter, each of them once, in the order in which
they were submitted.  The candidates are taken from the index by client if a client is
asked for, and are all tasks otherwise.  There is only one list of given tasks in that
order, so it does not matter where the candidates come from, nor in which order.
-/

namespace ClusterHub

/-- Where a task stands in listings: by the time of its submission, then by its
identity. -/
def TaskRecord.rank (record : TaskRecord) : Int ×ₗ Nat ×ₗ String :=
  toLex (record.submitted.seconds, toLex (record.submitted.nanos, record.id))

namespace Ledger

variable {l : Ledger} {filter : TaskFilter} {record : TaskRecord} {list rows : List TaskRecord}

theorem isLE_compare_id (a b : String) : (compare a b).isLE = true ↔ a ≤ b := by
  rw [Ordering.isLE_iff_eq_lt_or_eq_eq, Std.compare_eq_iff_eq, le_iff_lt_or_eq]
  exact or_congr compareOfLessAndEq_eq_lt Iff.rfl

/-- Summaries are compared by the ranks of their tasks. -/
theorem olderOrSame_summarize (l : Ledger) (a b : TaskRecord) :
    olderOrSame (l.summarize a) (l.summarize b) = decide (a.rank ≤ b.rank) := by
  rw [Bool.eq_iff_iff, decide_eq_true_iff]
  change (((compare a.submitted.seconds b.submitted.seconds).then
    (compare a.submitted.nanos b.submitted.nanos)).then (compare a.id b.id)).isLE = true ↔ _
  simp only [Ordering.isLE_then_iff_or, Ordering.then_eq_lt, Ordering.then_eq_eq,
    Std.compare_eq_lt, Std.compare_eq_iff_eq, isLE_compare_id, TaskRecord.rank,
    Prod.Lex.toLex_le_toLex]
  tauto

/-- The tasks of a list in the order of listings. -/
def arrange (list : List TaskRecord) : List TaskRecord :=
  list.mergeSort fun a b => a.rank ≤ b.rank

theorem mergeSort_summaries (l : Ledger) (list : List TaskRecord) :
    (list.map l.summarize).mergeSort olderOrSame = (arrange list).map l.summarize :=
  (List.map_mergeSort fun a _ b _ => (l.olderOrSame_summarize a b).symm).symm

/-- What it means that some tasks are those with a property, each once, in the order of
listings. -/
structure Lists (list : List TaskRecord) (property : TaskRecord → Prop) : Prop where
  mem : ∀ record, record ∈ list ↔ property record
  sorted : list.Pairwise fun a b => a.rank < b.rank

theorem Lists.nodup {property : TaskRecord → Prop} (lists : Lists list property) : list.Nodup := by
  have apart : ∀ {a b : TaskRecord}, a.rank < b.rank → a ≠ b := fun less =>
    ne_of_apply_ne TaskRecord.rank less.ne
  exact lists.sorted.imp apart

/-- There is only one such list. -/
theorem Lists.unique {property : TaskRecord → Prop} (lists : Lists list property)
    (others : Lists rows property) : list = rows := by
  have same : list.Perm rows :=
    (List.perm_ext_iff_of_nodup lists.nodup others.nodup).mpr fun record =>
      (lists.mem record).trans (others.mem record).symm
  exact same.eq_of_pairwise (fun _ _ _ _ less more => absurd more less.asymm) lists.sorted
    others.sorted

theorem Lists.congr {property other : TaskRecord → Prop} (lists : Lists list property)
    (same : ∀ record, property record ↔ other record) : Lists list other where
  mem record := (lists.mem record).trans (same record)
  sorted := lists.sorted

/-- Tasks that are arranged stand in strict order, as no two have the same identity. -/
theorem lists_arrange (distinct : list.Pairwise fun a b => a.id ≠ b.id) :
    Lists (arrange list) (· ∈ list) where
  mem _ := List.mem_mergeSort
  sorted := by
    let ranks (a b : TaskRecord) : Bool := a.rank ≤ b.rank
    have transitive : ∀ a b c, ranks a b → ranks b c → ranks a c := by
      simpa [ranks] using fun a b c => le_trans
    have total : ∀ a b, ranks a b || ranks b a := by
      simpa [ranks] using fun a b => le_total _ _
    have sorted : (arrange list).Pairwise fun a b => a.rank ≤ b.rank :=
      (List.pairwise_mergeSort transitive total list).imp of_decide_eq_true
    have apart : (arrange list).Pairwise fun a b => a.id ≠ b.id :=
      (List.mergeSort_perm list _).symm.pairwise distinct Ne.symm
    refine sorted.imp₂ (fun a b le different => lt_of_le_of_ne le fun same => different ?_) apart
    exact congrArg (fun rank => (ofLex (ofLex rank).2).2) same

/-- The records of all tasks. -/
def allRecords (l : Ledger) : List TaskRecord := l.tasks.toList.map Prod.snd

/-- The tasks that a query looks through. -/
def candidates (l : Ledger) (filter : TaskFilter) : List TaskRecord :=
  match filter.client with
  | some client => (l.clientGroup client).toList.filterMap l.get?
  | none => l.allRecords

/-- Of the candidates, those that pass the filter are shown. -/
theorem query_eq (l : Ledger) (filter : TaskFilter) :
    l.query filter = (arrange ((l.candidates filter).filter fun record =>
      passes filter (l.summarize record))).map l.summarize := by
  rw [← mergeSort_summaries, query, candidates]
  cases filter.client <;>
    simp [summaries, allRecords, clientSummaries, List.filter_map, Function.comp_def]

/-- The history is what a query without a filter shows. -/
theorem history_eq (l : Ledger) : l.history = (l.query {}).map TaskSummary.id := by
  have all : l.summaries.filter (passes {}) = l.summaries :=
    List.filter_eq_self.mpr fun _ _ => rfl
  rw [query, all, history]

theorem Lists.distinct {property : TaskRecord → Prop} (lists : Lists list property)
    (known : ∀ record, property record → l.get? record.id = some record) :
    (list.map TaskRecord.id).Nodup := by
  refine List.pairwise_map.mpr (lists.nodup.imp_of_mem ?_)
  intro a b here there apart same
  have found := known a ((lists.mem a).mp here)
  rw [same, known b ((lists.mem b).mp there)] at found
  exact apart (Option.some.inj found).symm

/-- What the sets of a ledger say of the status of a task. -/
def HasStatus (l : Ledger) (id : String) : TaskStatus → Prop
  | .pending => id ∈ l.pending
  | .completed => id ∈ l.completed

/-- A known task that agrees with every field of a filter that is set. -/
structure Meets (l : Ledger) (filter : TaskFilter) (record : TaskRecord) : Prop where
  known : l.get? record.id = some record
  client : ∀ client, filter.client = some client → record.client = client
  engine : ∀ engine, filter.engine = some engine → record.engine = some engine
  lane : ∀ lane, filter.lane = some lane → record.lane = lane
  status : ∀ status, filter.status = some status → l.HasStatus record.id status

theorem meets_empty : l.Meets {} record ↔ l.get? record.id = some record :=
  ⟨Meets.known, fun known => ⟨known, nofun, nofun, nofun, nofun⟩⟩

/-- The answer to a query that looks at all tasks, in whatever order they come. -/
def scan (l : Ledger) (filter : TaskFilter) (rows : List TaskRecord) : List TaskSummary :=
  ((rows.map l.summarize).filter fun summary =>
    filter.client.all (fun client => summary.client = client) &&
      passes filter summary).mergeSort olderOrSame

/-- What queries with a filter and the history of a ledger come to. -/
structure Answers (l : Ledger) (filter : TaskFilter) : Prop where
  /-- The summaries of the tasks that meet the filter, in the order of listings. -/
  query : ∃ list, Lists list (l.Meets filter) ∧ l.query filter = list.map l.summarize
  once : ((l.query filter).map TaskSummary.id).Nodup
  /-- A scan of all tasks would say the same, wherever it began. -/
  scan : ∀ rows : List TaskRecord, rows.Perm l.allRecords → l.query filter = l.scan filter rows
  /-- The history has all tasks, in the same order. -/
  history : ∃ list, Lists list (fun record => l.get? record.id = some record) ∧
    l.history = list.map TaskRecord.id
  known : l.history.Nodup ∧ ∀ id, id ∈ l.history ↔ id ∈ l.tasks
  whole : l.history = (l.query {}).map TaskSummary.id

/-! ## Ledgers in order -/

section Filed

variable (filed : l.Filed)
include filed

theorem Filed.mem_allRecords : record ∈ l.allRecords ↔ l.get? record.id = some record := by
  simp only [allRecords, List.mem_map, Prod.exists, exists_eq_right,
    Std.ExtTreeMap.mem_toList_iff_getElem?_eq_some]
  constructor
  · rintro ⟨id, found⟩
    rw [get?, filed.identified found]
    exact found
  · exact fun found => ⟨record.id, found⟩

theorem Filed.distinct_allRecords : l.allRecords.Pairwise fun a b => a.id ≠ b.id := by
  refine List.pairwise_map.mpr (l.tasks.distinct_keys_toList.imp_of_mem ?_)
  rintro ⟨id, record⟩ ⟨other, otherRecord⟩ here there apart same
  rw [Std.ExtTreeMap.mem_toList_iff_getElem?_eq_some] at here there
  rw [filed.identified here, filed.identified there] at same
  exact apart (Std.compare_eq_iff_eq.mpr same)

/-- The index by client leads to the tasks of the client. -/
theorem Filed.mem_candidates :
    record ∈ l.candidates filter ↔ l.get? record.id = some record ∧
      ∀ client, filter.client = some client → record.client = client := by
  unfold candidates
  cases filter.client with
  | none => simpa using filed.mem_allRecords
  | some client =>
      simp only [List.mem_filterMap, Std.ExtTreeSet.mem_toList, Option.some.injEq, forall_eq']
      constructor
      · rintro ⟨id, member, found⟩
        have filedAs := filed.filedAs found
        rw [filedAs.identified]
        exact ⟨found, (filedAs.client client).mp member⟩
      · rintro ⟨found, same⟩
        exact ⟨record.id, ((filed.filedAs found).client client).mpr same, found⟩

theorem Filed.distinct_candidates :
    (l.candidates filter).Pairwise fun a b => a.id ≠ b.id := by
  unfold candidates
  split
  · refine List.pairwise_filterMap.mpr ((l.clientGroup _).distinct_toList.imp ?_)
    intro id other apart record found otherRecord otherFound same
    rw [filed.identified found, filed.identified otherFound] at same
    exact apart (Std.compare_eq_iff_eq.mpr same)
  · exact filed.distinct_allRecords

/-- The status in a summary is that which the sets tell. -/
theorem Filed.status_summarize (known : l.get? record.id = some record) (status : TaskStatus) :
    (l.summarize record).status = status ↔ l.HasStatus record.id status := by
  have filedAs := filed.filedAs known
  have pending : l.isPending record.id = true ↔ ¬ record.completed.isSome :=
    Std.ExtTreeSet.contains_iff_mem.trans filedAs.pending
  cases status with
  | pending => simp [summarize, HasStatus, pending, filedAs.pending]
  | completed =>
      simp [summarize, HasStatus, pending, filedAs.completed, Option.isSome_iff_ne_none]

theorem Filed.meets_iff : l.Meets filter record ↔ l.get? record.id = some record ∧
    (∀ client, filter.client = some client → record.client = client) ∧
      passes filter (l.summarize record) = true := by
  have passed : passes filter (l.summarize record) = true ↔
      (∀ engine, filter.engine = some engine → record.engine = some engine) ∧
        (∀ lane, filter.lane = some lane → record.lane = lane) ∧
          ∀ status, filter.status = some status → (l.summarize record).status = status := by
    simp only [passes, Bool.and_eq_true, Option.all_eq_true, decide_eq_true_eq, and_assoc]
    rfl
  rw [passed]
  constructor
  · rintro ⟨known, client, engine, lane, status⟩
    refine ⟨known, client, engine, lane, fun asked is => ?_⟩
    exact (filed.status_summarize known asked).mpr (status asked is)
  · rintro ⟨known, client, engine, lane, status⟩
    refine ⟨known, client, engine, lane, fun asked is => ?_⟩
    exact (filed.status_summarize known asked).mp (status asked is)

/-- The tasks that are shown are those that meet the filter. -/
theorem Filed.lists_query (filter : TaskFilter) :
    ∃ list, Lists list (l.Meets filter) ∧ l.query filter = list.map l.summarize := by
  refine ⟨_, ?_, l.query_eq filter⟩
  refine (lists_arrange (filed.distinct_candidates.filter _)).congr fun record => ?_
  rw [List.mem_filter, filed.mem_candidates, filed.meets_iff, and_assoc]

theorem Filed.lists_scan (filter : TaskFilter) (whole : rows.Perm l.allRecords) :
    ∃ list, Lists list (l.Meets filter) ∧ l.scan filter rows = list.map l.summarize := by
  have distinct := whole.symm.pairwise filed.distinct_allRecords Ne.symm
  refine ⟨_, ?_, by rw [scan, List.filter_map, mergeSort_summaries]⟩
  refine (lists_arrange (distinct.filter _)).congr fun record => ?_
  rw [List.mem_filter, whole.mem_iff, filed.mem_allRecords, filed.meets_iff]
  simp only [Function.comp_apply, Bool.and_eq_true, Option.all_eq_true, decide_eq_true_eq]
  rfl

theorem Filed.answers (filter : TaskFilter) : l.Answers filter := by
  have ids : ∀ list : List TaskRecord,
      (list.map l.summarize).map TaskSummary.id = list.map TaskRecord.id := by
    intro list
    rw [List.map_map]
    rfl
  rcases filed.lists_query filter with ⟨shown, lists, answer⟩
  rcases filed.lists_query {} with ⟨all, listsAll, answerAll⟩
  have history : l.history = all.map TaskRecord.id := by rw [history_eq, answerAll, ids]
  constructor
  case query => exact ⟨shown, lists, answer⟩
  case once =>
    rw [answer, ids]
    exact lists.distinct fun _ meets => meets.known
  case scan =>
    intro rows whole
    rcases filed.lists_scan filter whole with ⟨scanned, same, scan⟩
    rw [answer, scan, lists.unique same]
  case history => exact ⟨all, listsAll.congr fun _ => meets_empty, history⟩
  case whole => exact history_eq l
  case known =>
    rw [history]
    refine ⟨listsAll.distinct fun _ meets => meets.known, fun id => ?_⟩
    rw [Std.ExtTreeMap.mem_iff_isSome_getElem?, Option.isSome_iff_exists, List.mem_map]
    constructor
    · rintro ⟨record, member, rfl⟩
      exact ⟨record, ((listsAll.mem record).mp member).known⟩
    · rintro ⟨record, found⟩
      have same := filed.identified found
      subst same
      exact ⟨record, (listsAll.mem record).mpr (meets_empty.mpr found), rfl⟩

end Filed

/-- Whatever was asked of a ledger that was empty at first, a query shows each task that
meets its filter once, by the time of its submission and then by its identity; the index by
client leads to what a scan of all tasks finds; and the history has all tasks in that
order. -/
theorem answers_performAll (history : List Operation) (filter : TaskFilter) :
    (performAll {} history).Answers filter :=
  (consistent_empty.performAll history).toFiled.answers filter

/-- Three tasks of two clients. -/
def threeTasks : List Operation :=
  let header (id client : String) : RequestHeader := { id, client }
  [.request (header "c" "x") .immediate none .empty (.ofInstant 0),
    .request (header "b" "y") .immediate (some 7) .empty (.ofInstant 5),
    .request (header "a" "x") .scheduled none .empty (.ofInstant 5)]

theorem answers_threeTasks :
    let l := performAll {} threeTasks
    l.history = ["c", "a", "b"] ∧
      l.allRecords.reverse.Perm l.allRecords ∧
      l.query { client := "x" } = l.scan { client := "x" } l.allRecords.reverse ∧
      (l.query { client := "x" }).map TaskSummary.id = ["c", "a"] := by
  intro l
  have whole := List.reverse_perm l.allRecords
  refine ⟨by cbv, whole, (answers_performAll threeTasks _).scan _ whole, ?_⟩
  cbv

end Ledger

end ClusterHub

import ClusterHub.Proofs.Task.Stranding

/-!
# Who a task is put down to

A record names the engine of its task twice, by its number and by its queue.  The
operations that bind a task are given both, and what they are given fits together
if an engine of that number was known by that queue at some time.  Then the records
fit as well, whatever else is done to the ledger.
-/

namespace ClusterHub

/-- Whether a record names no engine, or one by a number and a queue that belong
together. -/
def TaskRecord.IsAttributed (belong : EngineId → String → Prop) (record : TaskRecord) : Prop :=
  record.engine = none ∧ record.engineQueue = none ∨
    ∃ engine queue, record.engine = some engine ∧ record.engineQueue = some queue ∧
      belong engine queue

namespace Ledger

variable {belong : EngineId → String → Prop} {l : Ledger} {id queue : String}
  {engine : EngineId} {source : Option EngineId} {header : RequestHeader}
  {content : Frame} {now : Timestamp}

/-- Whether all records name engines by numbers and queues that belong together. -/
def Attributed (belong : EngineId → String → Prop) (l : Ledger) : Prop :=
  ∀ (id : String) (record : TaskRecord), l.tasks[id]? = some record → record.IsAttributed belong

/-- Whether an operation names engines by numbers and queues that belong together. -/
def Operation.Fits (belong : EngineId → String → Prop) : Operation → Prop
  | .request header _ engine _ _ => ∀ number ∈ engine, ∃ queue ∈ header.engine, belong number queue
  | .result header engine _ _ => ∀ number ∈ engine, ∃ queue ∈ header.engine, belong number queue
  | .destination _ engine queue => belong engine queue
  | .sweep engine queue _ => belong engine queue
  | _ => True

theorem Operation.fits_of_isQuiet {operation : Operation} (quiet : operation.isQuiet) :
    operation.Fits belong := by
  cases operation <;> trivial

theorem attributed_empty : Attributed belong {} := by
  intro id record found
  simp at found

/-- More may belong together later. -/
theorem Attributed.mono (attributed : l.Attributed belong) {other : EngineId → String → Prop}
    (more : ∀ engine queue, belong engine queue → other engine queue) : l.Attributed other := by
  intro id record found
  rcases attributed id record found with none | ⟨engine, queue, bound, named, both⟩
  · exact Or.inl none
  · exact Or.inr ⟨engine, queue, bound, named, more engine queue both⟩

theorem Attributed.saveRequest (attributed : l.Attributed belong) (lane : Lane)
    (fits : ∀ number ∈ source, ∃ queue ∈ header.engine, belong number queue) :
    (l.saveRequest header lane source content now).2.Attributed belong := by
  unfold Ledger.saveRequest
  split
  · exact attributed
  · intro id record found
    simp only [Std.ExtTreeMap.getElem?_insert] at found
    split at found
    · cases found
      cases source with
      | none => exact Or.inl ⟨rfl, rfl⟩
      | some engine =>
          rcases fits engine rfl with ⟨queue, named, both⟩
          exact Or.inr ⟨engine, queue, rfl, named, both⟩
    · exact attributed id record found

/-- A note on a record that names no engine. -/
theorem Attributed.modifyTask (attributed : l.Attributed belong) {change : TaskRecord → TaskRecord}
    (keepsEngine : ∀ record, (change record).engine = record.engine)
    (keepsQueue : ∀ record, (change record).engineQueue = record.engineQueue) :
    (l.modifyTask id change).Attributed belong := by
  intro other record found
  rw [Ledger.modifyTask, Std.ExtTreeMap.getElem?_modify] at found
  split at found
  · rcases Option.map_eq_some_iff.mp found with ⟨before, stood, rfl⟩
    have fitting := attributed _ before stood
    unfold TaskRecord.IsAttributed
    rw [keepsEngine, keepsQueue]
    exact fitting
  · exact attributed other record found

theorem Attributed.assign (attributed : l.Attributed belong) {name : Option String}
    (fits : ∃ queue ∈ name, belong engine queue) :
    (l.assign id engine name).Attributed belong := by
  rcases fits with ⟨queue, named, both⟩
  cases named
  intro other record found
  rw [getElem?_assign] at found
  split at found
  · rcases Option.map_eq_some_iff.mp found with ⟨before, _, rfl⟩
    exact Or.inr ⟨engine, queue, rfl, rfl, both⟩
  · exact attributed other record found

theorem Attributed.rebind (attributed : l.Attributed belong) {name : Option String}
    (fits : ∀ number ∈ source, ∃ queue ∈ name, belong number queue) :
    (l.rebind id source name).Attributed belong := by
  have taken : Attributed belong { l with unassigned := l.unassigned.erase id } := attributed
  cases source with
  | none => exact taken
  | some engine => exact taken.assign (fits engine rfl)

theorem Attributed.saveResult (attributed : l.Attributed belong) {header : ResultHeader}
    (fits : ∀ number ∈ source, ∃ queue ∈ header.engine, belong number queue) :
    (l.saveResult header source content now).2.Attributed belong := by
  have bound : (l.rebind header.id source header.engine).Attributed belong := attributed.rebind fits
  have filled : ((l.rebind header.id source header.engine).modifyTask header.id
      (TaskRecord.fill header content now)).Attributed belong :=
    bound.modifyTask (fun _ => rfl) fun _ => rfl
  by_cases known : header.id ∈ l.tasks
  · by_cases pending : header.id ∈ l.pending
    · rw [saveResult_of_pending known pending]
      exact filled
    · rw [saveResult_of_completed known pending]
      exact filled
  · rw [saveResult_of_unknown known]
    exact attributed

theorem Attributed.saveDestination (attributed : l.Attributed belong)
    (fits : belong engine queue) : (l.saveDestination id engine queue).2.Attributed belong := by
  unfold Ledger.saveDestination
  split
  · have taken : Attributed belong { l with unassigned := l.unassigned.erase id } := attributed
    exact taken.assign ⟨queue, rfl, fits⟩
  · exact attributed

/-- A sweep writes the queue of an engine to records that are bound to the engine. -/
theorem Attributed.strandedSweep (attributed : l.Attributed belong) (consistent : l.Consistent)
    (fits : belong engine queue) :
    (l.strandedSweep engine queue now).2.Attributed belong := by
  have sweeps := sweeps_strandedSweep consistent engine queue now
  intro id record found
  by_cases outstanding : l.IsOutstanding engine id
  · obtain ⟨before, stood⟩ := consistent.exists_record outstanding.1
    have bound : before.engine = some engine := by
      have own := outstanding.2
      rw [engineOf, stood] at own
      exact own
    cases found.symm.trans (sweeps.outstanding id before stood outstanding).1
    exact Or.inr ⟨engine, queue, bound, rfl, fits⟩
  · rw [(sweeps.others id outstanding).1] at found
    exact attributed id record found

theorem Attributed.evict (attributed : l.Attributed belong) (id : String) :
    (l.evict id).2.Attributed belong := by
  unfold Ledger.evict
  split
  · exact attributed
  · intro other record found
    rw [Std.ExtTreeMap.getElem?_erase] at found
    split at found
    · contradiction
    · exact attributed other record found

theorem Attributed.evictAll (attributed : l.Attributed belong) (ids : List String) :
    (l.evictAll ids).2.Attributed belong := by
  rw [evictAll_eq_foldl]
  induction ids generalizing l with
  | nil => exact attributed
  | cons id ids inductionHypothesis => exact inductionHypothesis (attributed.evict id)

/-! ## All operations -/

theorem Attributed.perform (attributed : l.Attributed belong) (consistent : l.Consistent)
    {operation : Operation} (fits : operation.Fits belong) :
    (l.perform operation).Attributed belong := by
  cases operation with
  | request header lane engine content now => exact attributed.saveRequest lane fits
  | result header engine result now => exact attributed.saveResult fits
  | destination id engine queue => exact attributed.saveDestination fits
  | sweep engine queue now => exact attributed.strandedSweep consistent fits
  | output id stream text => exact attributed.modifyTask (fun _ => rfl) fun _ => rfl
  | resubmission id now => exact attributed.modifyTask (fun _ => rfl) fun _ => rfl
  | purge ids =>
      simp only [Ledger.perform, Ledger.purge]
      cases ids.find? fun id => l.pending.contains id with
      | some id => exact attributed
      | none => exact attributed.evictAll ids
  | purgeEngines engines => exact attributed.evictAll _
  | purgeAll => exact attributed_empty

/-- Operations that fit leave records that fit. -/
theorem Attributed.performAll (attributed : l.Attributed belong) (consistent : l.Consistent)
    {history : List Operation} (fits : ∀ operation ∈ history, operation.Fits belong) :
    (l.performAll history).Attributed belong := by
  have step : ∀ (l : Ledger), ∀ operation ∈ history, l.Consistent ∧ l.Attributed belong →
      (l.perform operation).Consistent ∧ (l.perform operation).Attributed belong :=
    fun l operation member kept =>
      ⟨kept.1.perform operation, kept.2.perform kept.1 (fits operation member)⟩
  exact (performAll_induction step ⟨consistent, attributed⟩).2

end Ledger

end ClusterHub

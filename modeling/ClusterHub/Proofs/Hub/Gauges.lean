import ClusterHub.Proofs.Hub.Answering
import ClusterHub.Proofs.Hub.Interleaving
import ClusterHub.Proofs.Hub.Registration

/-!
# The gauges

A hub has a gauge for its active engines and one for its pending tasks, which it
overwrites wherever it thinks of it.  Both are right after every event.  The gauge
of engines rests on the numbers of engines: if they went round, a registration
could put an engine that waits for its heart in the place of an active one, and
only then would the gauge be wrong.
-/

namespace ClusterHub

namespace Registry

variable {r registry : Registry} {id : EngineId} {record : EngineRecord}
  {deletion : Option TimerHandle} {heart : String}

/-- Whether every record stands under its number. -/
def Numbered (r : Registry) : Prop :=
  ∀ (id : EngineId) (record : EngineRecord), r.engines[id]? = some record → record.id = id

theorem Numbered.insert (numbered : r.Numbered) (own : record.id = id) :
    Numbered { r with engines := r.engines.insert id record } := by
  intro other stands found
  rw [Std.ExtTreeMap.getElem?_insert] at found
  split at found
  · next same =>
      cases found
      rw [own, Std.LawfulEqCmp.eq_of_compare same]
  · exact numbered other stands found

theorem Numbered.erase (numbered : r.Numbered) :
    Numbered { r with engines := r.engines.erase id } := by
  intro other stands found
  rw [Std.ExtTreeMap.getElem?_erase] at found
  split at found
  · contradiction
  · exact numbered other stands found

theorem Numbered.modify (numbered : r.Numbered) {change : EngineRecord → EngineRecord}
    (kept : ∀ record, (change record).id = record.id) :
    Numbered { r with engines := r.engines.modify id change } := by
  cases found : r.engines[id]? with
  | none =>
      rw [modify_of_absent found]
      exact numbered
  | some record =>
      rw [modify_of_found found]
      exact numbered.insert ((kept record).trans (numbered id record found))

theorem Numbered.promote (numbered : r.Numbered)
    (promoted : r.promote heart = some (record, deletion, registry)) : registry.Numbered := by
  simp only [Registry.promote, Option.bind_eq_bind, Option.bind_eq_some_iff] at promoted
  rcases promoted with ⟨id, _, stands, found, promoted⟩
  cases promoted
  exact numbered.insert (numbered id stands found)

theorem Numbered.remove (numbered : r.Numbered)
    (removed : r.remove id = some (record, deletion, registry)) : registry.Numbered := by
  simp only [Registry.remove, Option.bind_eq_bind, Option.bind_eq_some_iff] at removed
  rcases removed with ⟨stands, _, removed⟩
  cases removed
  exact numbered.erase

/-- The engine that waits for a heart is pending, even if the heart is listed
wrongly. -/
theorem Numbered.pending (numbered : r.Numbered) (waiting : r.pendingForHeart heart = some id) :
    ∃ record, r.engines[id]? = some record ∧ record.state = .pending := by
  simp only [pendingForHeart, Option.bind_eq_bind, Option.bind_eq_some_iff] at waiting
  rcases waiting with ⟨listed, _, record, found, waiting⟩
  split at waiting
  · next pending =>
      cases waiting
      rw [numbered listed record found]
      exact ⟨record, found, pending⟩
  · contradiction

end Registry

namespace Hub

variable {hub before middle after : Hub} {event : Event} {history : List Event} {id : EngineId}
  {identity : Frame} {message : Message} {kind : QueryKind}

/-- Whether the gauge of tasks shows how many are pending. -/
def ShowsTasks (hub : Hub) : Prop :=
  hub.metrics.pendingTasks.level = hub.ledger.pending.size

/-- Whether the gauge of engines shows how many are active. -/
def ShowsEngines (hub : Hub) : Prop :=
  hub.metrics.registeredEngines.level = hub.registry.activeCount

/-- A step that gives out no number and leaves no gauge wrong that was right
before. -/
structure Steady (before after : Hub) : Prop where
  nextId : after.registry.nextId = before.registry.nextId
  numbered : before.registry.Numbered → after.registry.Numbered
  tasks : before.ShowsTasks → after.ShowsTasks
  engines : before.registry.Numbered → before.ShowsEngines → after.ShowsEngines

theorem Steady.refl (hub : Hub) : hub.Steady hub :=
  ⟨rfl, id, id, fun _ => id⟩

theorem Steady.trans (first : before.Steady middle) (second : middle.Steady after) :
    before.Steady after where
  nextId := second.nextId.trans first.nextId
  numbered := second.numbered ∘ first.numbered
  tasks := second.tasks ∘ first.tasks
  engines numbered := second.engines (first.numbered numbered) ∘ first.engines numbered

theorem Steady.send (steady : before.Steady after) (item : Outgoing) :
    before.Steady (after.send item) :=
  ⟨steady.nextId, steady.numbered, steady.tasks, steady.engines⟩

theorem Steady.modifyMetrics (steady : before.Steady after) {change : HubMetrics → HubMetrics}
    (tasks : (change after.state.metrics).pendingTasks = after.state.metrics.pendingTasks)
    (engines : (change after.state.metrics).registeredEngines =
      after.state.metrics.registeredEngines) : before.Steady (after.modifyMetrics change) where
  nextId := steady.nextId
  numbered := steady.numbered
  tasks shown := (congrArg Gauge.level tasks).trans (steady.tasks shown)
  engines own shown := (congrArg Gauge.level engines).trans (steady.engines own shown)

theorem Steady.disarm (steady : before.Steady after) (handle : Option TimerHandle) :
    before.Steady (after.disarm handle) := by
  cases handle with
  | none => exact steady
  | some handle => exact ⟨steady.nextId, steady.numbered, steady.tasks, steady.engines⟩

theorem Steady.assignDuty (steady : before.Steady after) (delay : Duration) (duty : Duty) :
    before.Steady (after.assignDuty delay duty).2 :=
  ⟨steady.nextId, steady.numbered, steady.tasks, steady.engines⟩

theorem Steady.modifyMonitor (steady : before.Steady after)
    (change : Monitor HeartDuty → Monitor HeartDuty) :
    before.Steady (MonitorWorld.modifyMonitor after change) :=
  ⟨steady.nextId, steady.numbered, steady.tasks, steady.engines⟩

end Hub

end ClusterHub

import ClusterHub.Proofs.Collections
import ClusterHub.Proofs.Engine.Consistency

/-!
# What the registry's operations do

In a consistent registry each operation comes to one of three changes: a record
is admitted under the next number, replaced by another form of itself, or
withdrawn.  There is one equation for each operation that says which.
-/

namespace ClusterHub.Registry

variable {r : Registry} {id : EngineId} {record another : EngineRecord}
  {heart queue : String} {registration : Registration} {requester : Option Frame}
  {now : Timestamp}

theorem insertPending_of_available (consistent : r.Consistent)
    (available : r.Available registration.heart registration.queue) :
    r.insertPending registration requester now =
      .ok (r.nextId, r.enroll (r.applicant registration requester now)) := by
  simp only [insertPending, checkAvailable_of_available consistent available]
  rfl

theorem insertPending_of_refused {fault : Fault}
    (refused : r.checkAvailable registration.heart registration.queue = .error fault) :
    r.insertPending registration requester now = .error fault := by
  simp only [insertPending, refused]
  rfl

theorem replace_replace (same : record.id = another.id) :
    (r.replace record).replace another = r.replace another := by
  simp only [replace, same, insert_insert]

/-- A record can be admitted in one form and replaced by another, or be admitted
in the other form at once. -/
theorem replace_enroll (numbered : another.id = r.nextId) (sameQueue : another.queue = record.queue)
    (sameHeart : another.heart = record.heart) :
    (r.enroll record).replace another = r.enroll another := by
  simp only [replace, enroll, numbered, insert_insert, sameQueue, sameHeart]

/-- Changing a record where it stands is replacing it. -/
theorem modify_eq_replace (found : r.engines[id]? = some record)
    {change : EngineRecord → EngineRecord} (numbered : (change record).id = id) :
    { r with engines := r.engines.modify id change } = r.replace (change record) := by
  rw [modify_of_found found, replace, numbered]

theorem armDeletion_of_found (found : r.engines[id]? = some record) (numbered : record.id = id)
    (handle : TimerHandle) :
    r.armDeletion id handle =
      (record.deletion, r.replace { record with deletion := some handle }) := by
  rw [armDeletion, found, Option.bind_some, modify_eq_replace found numbered]

theorem takeRequester_of_found (found : r.engines[id]? = some record) (numbered : record.id = id) :
    r.takeRequester id = (record.requester, r.replace { record with requester := none }) := by
  rw [takeRequester, found, Option.bind_some, modify_eq_replace found numbered]

theorem promote_of_pending (consistent : r.Consistent) (found : r.engines[id]? = some record)
    (pending : record.state = .pending) :
    r.promote record.heart =
      let promoted := { record with state := .active, deletion := none }
      some (promoted, record.deletion, r.replace promoted) := by
  have waiting := (pendingForHeart_eq_some_iff consistent).mpr ⟨record, found, pending, rfl⟩
  simp [promote, waiting, found, replace, consistent.identified found]

theorem remove_of_found (found : r.engines[id]? = some record) (numbered : record.id = id) :
    r.remove id = some ({ record with deletion := none }, record.deletion, r.withdraw record) := by
  simp [remove, found, withdraw, numbered]

theorem remove_eq_none (absent : r.engines[id]? = none) : r.remove id = none := by
  simp [remove, absent]

theorem purgePending_of_pending (consistent : r.Consistent)
    (found : r.engines[id]? = some record) (pending : record.state = .pending) :
    r.purgePending record.heart =
      some ({ record with deletion := none }, record.deletion, r.withdraw record) := by
  have waiting := (pendingForHeart_eq_some_iff consistent).mpr ⟨record, found, pending, rfl⟩
  simp only [purgePending, waiting, Option.bind_eq_bind, Option.bind_some]
  exact remove_of_found found (consistent.identified found)

theorem purgePending_eq_none (waiting : r.pendingForHeart heart = none) :
    r.purgePending heart = none := by
  simp [purgePending, waiting]

end ClusterHub.Registry

import ClusterHub.Proofs.Engine.Operation
import ClusterHub.Proofs.Timer.Running

/-!
# The registry and the timers of its records

A registry hands back the timers that it takes out of use, and its caller
cancels them.  A roster does both at once.  Its histories are those of a
registry whose records are armed with timers of one queue, whatever else
happens to that queue.
-/

namespace ClusterHub

/-- A registry with the timers that its records are armed with. -/
structure Roster (α : Type) where
  registry : Registry := {}
  timers : Timers α := {}

namespace Roster

/-- What can be done with a registry and with its timers. -/
inductive Operation (α : Type)
  | insert (registration : Registration) (requester : Option Frame) (now : Timestamp)
  | arm (id : EngineId) (handle : TimerHandle)
  | promote (heart : String)
  /-- Tell the one who asked for an engine. -/
  | tell (id : EngineId)
  | purge (heart : String)
  | remove (id : EngineId)
  | markDead (queue : String)
  | schedule (deadline : Instant) (action : α)
  | cancel (handle : TimerHandle)
  /-- Take an entry off the queue of timers, which has its turn. -/
  | drop (position : Nat)

variable {α : Type}

/-- The roster with the outcome of an operation that takes a record's timer out
of use. -/
def settle (roster : Roster α)
    (outcome : Option (EngineRecord × Option TimerHandle × Registry)) : Roster α :=
  match outcome with
  | some (_, retired, registry) => ⟨registry, roster.timers.disarm retired⟩
  | none => roster

/-- The roster after an operation. -/
def perform (roster : Roster α) : Operation α → Roster α
  | .insert registration requester now =>
      match roster.registry.insertPending registration requester now with
      | .ok (_, registry) => { roster with registry }
      | .error _ => roster
  | .arm id handle =>
      let (replaced, registry) := roster.registry.armDeletion id handle
      ⟨registry, roster.timers.disarm replaced⟩
  | .promote heart => roster.settle (roster.registry.promote heart)
  | .tell id => { roster with registry := (roster.registry.takeRequester id).2 }
  | .purge heart => roster.settle (roster.registry.purgePending heart)
  | .remove id => roster.settle (roster.registry.remove id)
  | .markDead queue => { roster with registry := roster.registry.markDead queue }
  | .schedule deadline action =>
      { roster with timers := (roster.timers.scheduleAt deadline action).2 }
  | .cancel handle => { roster with timers := roster.timers.cancel handle }
  | .drop position => { roster with timers := roster.timers.dropAt position }

/-- The roster after a history. -/
def run (roster : Roster α) (history : List (Operation α)) : Roster α :=
  history.foldl perform roster

/-- The number that an operation gives out. -/
def gives (roster : Roster α) : Operation α → Option EngineId
  | .insert registration requester now =>
      (roster.registry.insertPending registration requester now).toOption.map Prod.fst
  | _ => none

/-- The numbers that are given out in a history, in their order. -/
def given (roster : Roster α) : List (Operation α) → List EngineId
  | [] => []
  | operation :: rest => (roster.gives operation).toList ++ (roster.perform operation).given rest

/-- Whether an operation takes the timer of an engine's record out of use: it
gives the record another one, promotes the record or removes it. -/
def Retires (roster : Roster α) (operation : Operation α) (id : EngineId) : Prop :=
  ∃ record, roster.registry.engines[id]? = some record ∧
    ((∃ another, operation = .arm id another) ∨
      (operation = .promote record.heart ∧ record.state = .pending) ∨
      (operation = .purge record.heart ∧ record.state = .pending) ∨
      operation = .remove id)

variable {roster after : Roster α} {operation : Operation α} {past rest : List (Operation α)}
  {id : EngineId} {record another : EngineRecord} {handle : TimerHandle}
  {registration : Registration} {requester : Option Frame} {now : Timestamp}

theorem run_append : roster.run (past ++ rest) = (roster.run past).run rest :=
  List.foldl_append

theorem run_cons : roster.run (operation :: rest) = (roster.perform operation).run rest := rfl

theorem given_append :
    roster.given (past ++ rest) = roster.given past ++ (roster.run past).given rest := by
  induction past generalizing roster with
  | nil => rfl
  | cons operation past inductionHypothesis =>
      rw [List.cons_append, given, given, inductionHypothesis, run_cons, List.append_assoc]

theorem perform_insert_of_available (consistent : roster.registry.Consistent)
    (available : roster.registry.Available registration.heart registration.queue) :
    roster.perform (.insert registration requester now) =
      { roster with
        registry := roster.registry.enroll
          (roster.registry.applicant registration requester now) } := by
  rw [perform, Registry.insertPending_of_available consistent available]

theorem perform_arm_of_found (consistent : roster.registry.Consistent)
    (found : roster.registry.engines[id]? = some record) (handle : TimerHandle) :
    roster.perform (.arm id handle) =
      ⟨roster.registry.replace { record with deletion := some handle },
        roster.timers.disarm record.deletion⟩ := by
  rw [perform, Registry.armDeletion_of_found found (consistent.identified found)]

theorem perform_promote_of_pending (consistent : roster.registry.Consistent)
    (found : roster.registry.engines[id]? = some record) (pending : record.state = .pending) :
    roster.perform (.promote record.heart) =
      ⟨roster.registry.replace { record with state := .active, deletion := none },
        roster.timers.disarm record.deletion⟩ := by
  rw [perform, Registry.promote_of_pending consistent found pending]
  rfl

theorem perform_purge_of_pending (consistent : roster.registry.Consistent)
    (found : roster.registry.engines[id]? = some record) (pending : record.state = .pending) :
    roster.perform (.purge record.heart) =
      ⟨roster.registry.withdraw record, roster.timers.disarm record.deletion⟩ := by
  rw [perform, Registry.purgePending_of_pending consistent found pending]
  rfl

theorem perform_remove_of_found (consistent : roster.registry.Consistent)
    (found : roster.registry.engines[id]? = some record) :
    roster.perform (.remove id) =
      ⟨roster.registry.withdraw record, roster.timers.disarm record.deletion⟩ := by
  rw [perform, Registry.remove_of_found found (consistent.identified found)]
  rfl

theorem perform_insert_of_taken (requester : Option Frame) (now : Timestamp)
    (consistent : roster.registry.Consistent)
    (taken : ¬ roster.registry.Available registration.heart registration.queue) :
    (∃ fault, roster.registry.insertPending registration requester now = .error fault ∧
      (fault = .queueInUse registration.queue ∨ fault = .heartInUse registration.heart)) ∧
    roster.perform (.insert registration requester now) = roster := by
  rcases Registry.checkAvailable_of_not_available consistent taken with ⟨fault, refused, named⟩
  have error : roster.registry.insertPending registration requester now = .error fault :=
    Registry.insertPending_of_refused refused
  refine ⟨⟨fault, error, named⟩, ?_⟩
  rw [perform, error]

theorem perform_arm_of_absent (absent : roster.registry.engines[id]? = none)
    (handle : TimerHandle) : roster.perform (.arm id handle) = roster := by
  simp only [perform, Registry.armDeletion, modify_of_absent absent, absent]
  rfl

theorem perform_tell_of_absent (absent : roster.registry.engines[id]? = none) :
    roster.perform (.tell id) = roster := by
  simp only [perform, Registry.takeRequester, modify_of_absent absent]

/-! ## Steps -/

/-- What an operation can come to: a record is admitted, takes another form or
is withdrawn, a queue is marked, or only timers change. -/
inductive Step (before : Roster α) : Operation α → Roster α → Prop
  | admits (registration : Registration) (requester : Option Frame) (now : Timestamp)
      (available : before.registry.Available registration.heart registration.queue) :
      Step before (.insert registration requester now)
        { before with
          registry := before.registry.enroll
            (before.registry.applicant registration requester now) }
  | arms {id : EngineId} {record : EngineRecord} (handle : TimerHandle)
      (found : before.registry.engines[id]? = some record) :
      Step before (.arm id handle)
        ⟨before.registry.replace { record with deletion := some handle },
          before.timers.disarm record.deletion⟩
  | promotes {id : EngineId} {record : EngineRecord}
      (found : before.registry.engines[id]? = some record) (pending : record.state = .pending) :
      Step before (.promote record.heart)
        ⟨before.registry.replace { record with state := .active, deletion := none },
          before.timers.disarm record.deletion⟩
  | tells {id : EngineId} {record : EngineRecord}
      (found : before.registry.engines[id]? = some record) :
      Step before (.tell id)
        { before with registry := before.registry.replace { record with requester := none } }
  | withdraws {operation : Operation α} {id : EngineId} {record : EngineRecord}
      (found : before.registry.engines[id]? = some record)
      (asked : operation = .remove id ∨
        (operation = .purge record.heart ∧ record.state = .pending)) :
      Step before operation
        ⟨before.registry.withdraw record, before.timers.disarm record.deletion⟩
  | marks (queue : String) :
      Step before (.markDead queue) { before with registry := before.registry.markDead queue }
  | waits {operation : Operation α} (timers : Timers α) (later : before.timers.Extends timers)
      (kept : before.gives operation = none) : Step before operation { before with timers }

/-- Nothing changes in an operation that comes to nothing. -/
theorem Step.rests (same : roster.perform operation = roster)
    (kept : roster.gives operation = none) : roster.Step operation (roster.perform operation) := by
  rw [same]
  exact .waits roster.timers (.refl _) kept

theorem step_perform (consistent : roster.registry.Consistent) (operation : Operation α) :
    roster.Step operation (roster.perform operation) := by
  cases operation with
  | insert registration requester now =>
      by_cases available : roster.registry.Available registration.heart registration.queue
      · rw [perform_insert_of_available consistent available]
        exact .admits registration requester now available
      · rcases perform_insert_of_taken requester now consistent available with
          ⟨⟨fault, refused, _⟩, same⟩
        apply Step.rests same
        rw [gives, refused]
        rfl
  | arm id handle =>
      cases found : roster.registry.engines[id]? with
      | none => exact .rests (perform_arm_of_absent found handle) rfl
      | some record =>
          rw [perform_arm_of_found consistent found]
          exact .arms handle found
  | promote heart =>
      cases waiting : roster.registry.pendingForHeart heart with
      | none =>
          apply Step.rests _ rfl
          rw [perform, Registry.promote, waiting]
          rfl
      | some id =>
          rcases (Registry.pendingForHeart_eq_some_iff consistent).mp waiting with
            ⟨record, found, pending, rfl⟩
          rw [perform_promote_of_pending consistent found pending]
          exact .promotes found pending
  | tell id =>
      cases found : roster.registry.engines[id]? with
      | none => exact .rests (perform_tell_of_absent found) rfl
      | some record =>
          rw [perform, Registry.takeRequester_of_found found (consistent.identified found)]
          exact .tells found
  | purge heart =>
      cases waiting : roster.registry.pendingForHeart heart with
      | none =>
          apply Step.rests _ rfl
          rw [perform, Registry.purgePending_eq_none waiting]
          rfl
      | some id =>
          rcases (Registry.pendingForHeart_eq_some_iff consistent).mp waiting with
            ⟨record, found, pending, rfl⟩
          rw [perform_purge_of_pending consistent found pending]
          exact .withdraws found (Or.inr ⟨rfl, pending⟩)
  | remove id =>
      cases found : roster.registry.engines[id]? with
      | none =>
          apply Step.rests _ rfl
          rw [perform, Registry.remove_eq_none found]
          rfl
      | some record =>
          rw [perform_remove_of_found consistent found]
          exact .withdraws found (Or.inl rfl)
  | markDead queue => exact .marks queue
  | schedule deadline action => exact .waits _ (Timers.extends_scheduleAt deadline action) rfl
  | cancel handle => exact .waits _ (Timers.extends_disarm (some handle)) rfl
  | drop position => exact .waits _ (Timers.extends_dropAt position) rfl

end Roster

end ClusterHub

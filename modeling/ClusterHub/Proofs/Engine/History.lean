import ClusterHub.Proofs.Engine.Roster

/-!
# Histories of a registry

What holds of a registry after every history that starts with an empty one: its
indexes agree with its records, numbers are given out in ascending order and
once, a record changes its state when it is promoted and at no other time, and
a timer that was taken out of use does not run.
-/

namespace ClusterHub.Roster

variable {α : Type} {roster before after : Roster α} {operation : Operation α}
  {history : List (Operation α)} {id : EngineId} {record another : EngineRecord}
  {handle : TimerHandle} {registration : Registration} {requester : Option Frame} {now : Timestamp}

theorem gives_of_available (consistent : roster.registry.Consistent)
    (available : roster.registry.Available registration.heart registration.queue) :
    roster.gives (.insert registration requester now) = some roster.registry.nextId := by
  rw [gives, Registry.insertPending_of_available consistent available]
  rfl

/-- An operation gives out the next number or leaves it as it is. -/
theorem Step.numbers (step : before.Step operation after)
    (consistent : before.registry.Consistent) :
    (before.gives operation = some before.registry.nextId ∧
      after.registry.nextId = before.registry.nextId + 1) ∨
    (before.gives operation = none ∧ after.registry.nextId = before.registry.nextId) := by
  cases step with
  | admits _ _ _ available => exact Or.inl ⟨gives_of_available consistent available, rfl⟩
  | arms => exact Or.inr ⟨rfl, rfl⟩
  | promotes => exact Or.inr ⟨rfl, rfl⟩
  | tells => exact Or.inr ⟨rfl, rfl⟩
  | withdraws _ asked => rcases asked with rfl | ⟨rfl, _⟩ <;> exact Or.inr ⟨rfl, rfl⟩
  | marks => exact Or.inr ⟨rfl, rfl⟩
  | waits _ _ kept => exact Or.inr ⟨kept, rfl⟩

/-- Whether the numbers last for a history. -/
def HasRoomFor (roster : Roster α) (history : List (Operation α)) : Prop :=
  roster.registry.nextId.toNat + (roster.given history).length < UInt32.size

theorem Step.consistent (step : before.Step operation after)
    (consistent : before.registry.Consistent) (room : before.HasRoomFor (operation :: history)) :
    after.registry.Consistent := by
  cases step with
  | admits registration requester now available =>
      rw [HasRoomFor, given, gives_of_available consistent available, Option.toList_some,
        List.singleton_append, List.length_cons] at room
      exact consistent.enroll rfl available (by omega)
  | arms _ found => exact consistent.replace found rfl rfl rfl
  | promotes found => exact consistent.replace found rfl rfl rfl
  | tells found => exact consistent.replace found rfl rfl rfl
  | withdraws found => exact consistent.withdraw found
  | marks => exact ⟨consistent.identified, consistent.fresh, consistent.byQueue, consistent.byHeart⟩
  | waits => exact consistent

/-- The next number grows by one with each that is given out. -/
theorem nextId_perform (consistent : roster.registry.Consistent)
    (room : roster.HasRoomFor (operation :: history)) :
    (roster.perform operation).registry.nextId.toNat =
      roster.registry.nextId.toNat + (roster.gives operation).toList.length := by
  rcases (step_perform consistent operation).numbers consistent with
    ⟨gave, numbered⟩ | ⟨kept, numbered⟩
  · rw [HasRoomFor, given, gave, Option.toList_some, List.singleton_append,
      List.length_cons] at room
    have bound : roster.registry.nextId.toNat + 1 < UInt32.size := by omega
    rw [gave, numbered, UInt32.toNat_add]
    exact Nat.mod_eq_of_lt bound
  · rw [kept, numbered]
    rfl

theorem HasRoomFor.tail (room : roster.HasRoomFor (operation :: history))
    (consistent : roster.registry.Consistent) : (roster.perform operation).HasRoomFor history := by
  have next := nextId_perform consistent room
  rw [HasRoomFor, given, List.length_append] at room
  rw [HasRoomFor, next]
  omega

/-- What every step keeps holds after a history. -/
theorem run_induction {motive : Roster α → Prop} (consistent : roster.registry.Consistent)
    (room : roster.HasRoomFor history) (holds : motive roster)
    (keeps : ∀ {before after : Roster α} {operation : Operation α}, before.registry.Consistent →
      before.Step operation after → motive before → motive after) :
    (roster.run history).registry.Consistent ∧ motive (roster.run history) := by
  induction history generalizing roster with
  | nil => exact ⟨consistent, holds⟩
  | cons operation rest inductionHypothesis =>
      have step := step_perform consistent operation
      exact inductionHypothesis (step.consistent consistent room) (room.tail consistent)
        (keeps consistent step holds)

theorem consistent_run (consistent : roster.registry.Consistent)
    (room : roster.HasRoomFor history) : (roster.run history).registry.Consistent :=
  (run_induction (motive := fun _ => True) consistent room trivial fun _ _ _ => trivial).1

/-- The numbers that are given out follow one another. -/
theorem numbers_given (consistent : roster.registry.Consistent)
    (room : roster.HasRoomFor history) :
    (roster.given history).map UInt32.toNat =
      List.range' roster.registry.nextId.toNat (roster.given history).length := by
  induction history generalizing roster with
  | nil => rfl
  | cons operation rest inductionHypothesis =>
      have step := step_perform consistent operation
      have later := inductionHypothesis (step.consistent consistent room) (room.tail consistent)
      rw [nextId_perform consistent room] at later
      rw [given, List.map_append, later]
      rcases step.numbers consistent with ⟨gave, _⟩ | ⟨kept, _⟩
      · rw [gave, Option.toList_some, List.singleton_append, List.length_cons]
        exact List.range'_succ.symm
      · rw [kept]
        rfl

theorem nextId_run (consistent : roster.registry.Consistent) (room : roster.HasRoomFor history) :
    (roster.run history).registry.nextId.toNat =
      roster.registry.nextId.toNat + (roster.given history).length := by
  induction history generalizing roster with
  | nil => rfl
  | cons operation rest inductionHypothesis =>
      have step := step_perform consistent operation
      rw [run_cons, inductionHypothesis (step.consistent consistent room) (room.tail consistent),
        nextId_perform consistent room, given, List.length_append, Nat.add_assoc]

theorem HasRoomFor.past {rest : List (Operation α)} (room : roster.HasRoomFor (history ++ rest)) :
    roster.HasRoomFor history := by
  rw [HasRoomFor, given_append, List.length_append] at room
  rw [HasRoomFor]
  omega

theorem HasRoomFor.future {rest : List (Operation α)} (room : roster.HasRoomFor (history ++ rest))
    (consistent : roster.registry.Consistent) : (roster.run history).HasRoomFor rest := by
  have next := nextId_run consistent room.past
  rw [HasRoomFor, given_append, List.length_append] at room
  rw [HasRoomFor, next]
  omega

/-- The state of a record changes from pending to active, when the record is
promoted. -/
theorem Step.promoted (step : before.Step operation after)
    (consistent : before.registry.Consistent)
    (found : before.registry.engines[id]? = some record)
    (later : after.registry.engines[id]? = some another) (changed : another.state ≠ record.state) :
    record.state = .pending ∧ another.state = .active ∧ operation = .promote record.heart := by
  have same : before.registry.engines[id]? ≠ some another := by
    intro still
    rw [found] at still
    exact changed (congrArg EngineRecord.state (Option.some.inj still)).symm
  cases step with
  | admits =>
      rw [consistent.found_enroll found] at later
      exact absurd (found.trans later) same
  | arms _ otherFound =>
      rcases Registry.eq_or_found_of_replace later with ⟨own, rfl⟩ | ⟨_, still⟩
      · rw [own, consistent.identified otherFound, otherFound] at found
        cases found
        contradiction
      · contradiction
  | promotes otherFound pending =>
      rcases Registry.eq_or_found_of_replace later with ⟨own, rfl⟩ | ⟨_, still⟩
      · rw [own, consistent.identified otherFound, otherFound] at found
        cases found
        exact ⟨pending, rfl, rfl⟩
      · contradiction
  | tells otherFound =>
      rcases Registry.eq_or_found_of_replace later with ⟨own, rfl⟩ | ⟨_, still⟩
      · rw [own, consistent.identified otherFound, otherFound] at found
        cases found
        contradiction
      · contradiction
  | withdraws => exact absurd (Registry.found_of_withdraw later).2 same
  | marks => contradiction
  | waits => contradiction

/-- Whether an engine's record is armed with a timer. -/
def Arms (roster : Roster α) (id : EngineId) (handle : TimerHandle) : Prop :=
  ∃ record, roster.registry.engines[id]? = some record ∧ record.deletion = some handle

theorem Step.extends (step : before.Step operation after) :
    before.timers.Extends after.timers := by
  cases step with
  | admits => exact .refl _
  | arms => exact Timers.extends_disarm _
  | promotes => exact Timers.extends_disarm _
  | tells => exact .refl _
  | withdraws => exact Timers.extends_disarm _
  | marks => exact .refl _
  | waits _ later => exact later

/-- A record that takes another form keeps its timer or loses it, and a timer
that is lost does not run. -/
theorem arms_or_spent_of_replace (consistent : before.registry.Consistent)
    (armed : before.Arms id handle) (issued : handle.ticket ≤ before.timers.issued)
    {other : EngineId} (found : before.registry.engines[other]? = some record)
    (sameId : another.id = record.id) :
    (⟨before.registry.replace another, before.timers.disarm record.deletion⟩ : Roster α).Arms
        id handle ∨
      (before.timers.disarm record.deletion).Spent handle := by
  rcases armed with ⟨own, stands, armed⟩
  by_cases same : other = id
  · subst other
    cases stands.symm.trans found
    rw [armed]
    exact Or.inr (Timers.spent_disarm issued)
  · refine Or.inl ⟨own, Registry.found_replace ?_ stands, armed⟩
    rwa [sameId, consistent.identified found]

theorem Step.arms_or_spent (step : before.Step operation after)
    (consistent : before.registry.Consistent) (armed : before.Arms id handle)
    (issued : handle.ticket ≤ before.timers.issued) :
    after.Arms id handle ∨ after.timers.Spent handle := by
  cases step with
  | admits =>
      rcases armed with ⟨own, stands, armed⟩
      exact Or.inl ⟨own, consistent.found_enroll stands, armed⟩
  | arms _ found => exact arms_or_spent_of_replace consistent armed issued found rfl
  | promotes found => exact arms_or_spent_of_replace consistent armed issued found rfl
  | @tells other record found =>
      rcases armed with ⟨own, stands, armed⟩
      by_cases same : record.id = id
      · rw [← same, consistent.identified found, found] at stands
        cases stands
        refine Or.inl ⟨{ record with requester := none }, ?_, armed⟩
        exact (Registry.getElem?_replace id).trans (if_pos same)
      · exact Or.inl ⟨own, Registry.found_replace same stands, armed⟩
  | @withdraws _ other record found =>
      rcases armed with ⟨own, stands, armed⟩
      by_cases same : other = id
      · subst other
        cases stands.symm.trans found
        rw [armed]
        exact Or.inr (Timers.spent_disarm issued)
      · refine Or.inl ⟨own, Registry.found_withdraw ?_ stands, armed⟩
        rwa [consistent.identified found]
  | marks => exact Or.inl armed
  | waits => exact Or.inl armed

/-- The timer of a record does not run once the record has another one, is
promoted or is removed. -/
theorem spent_of_retires (consistent : roster.registry.Consistent) (armed : roster.Arms id handle)
    (issued : handle.ticket ≤ roster.timers.issued) (retires : roster.Retires operation id) :
    (roster.perform operation).timers.Spent handle := by
  rcases armed with ⟨record, found, armed⟩
  rcases retires with ⟨own, stands, retires⟩
  cases stands.symm.trans found
  have spent : (roster.timers.disarm record.deletion).Spent handle := by
    rw [armed]
    exact Timers.spent_disarm issued
  rcases retires with ⟨another, rfl⟩ | ⟨rfl, pending⟩ | ⟨rfl, pending⟩ | rfl
  · rwa [perform_arm_of_found consistent found]
  · rwa [perform_promote_of_pending consistent found pending]
  · rwa [perform_purge_of_pending consistent found pending]
  · rwa [perform_remove_of_found consistent found]

/-- A record keeps a timer that is to run, and no operation makes a timer run
again that was taken out of use. -/
theorem arms_or_spent_run (consistent : roster.registry.Consistent)
    (room : roster.HasRoomFor history) (issued : handle.ticket ≤ roster.timers.issued)
    (armed : roster.Arms id handle ∨ roster.timers.Spent handle) :
    handle.ticket ≤ (roster.run history).timers.issued ∧
      ((roster.run history).Arms id handle ∨ (roster.run history).timers.Spent handle) := by
  refine (run_induction (motive := fun roster => handle.ticket ≤ roster.timers.issued ∧
    (roster.Arms id handle ∨ roster.timers.Spent handle)) consistent room ⟨issued, armed⟩ ?_).2
  rintro before after operation consistent step ⟨issued, armed | spent⟩
  · exact ⟨Nat.le_trans issued step.extends.issued, step.arms_or_spent consistent armed issued⟩
  · have still := spent.extends step.extends
    exact ⟨still.issued, Or.inr still⟩

theorem spent_run (consistent : roster.registry.Consistent) (room : roster.HasRoomFor history)
    (spent : roster.timers.Spent handle) : (roster.run history).timers.Spent handle :=
  (run_induction (motive := fun roster => roster.timers.Spent handle) consistent room spent
    fun _ step spent => spent.extends step.extends).2

/-- A timer that an engine was armed with is taken out of use by the operation
that replaces it, promotes the engine or removes it, and does not run
afterwards. -/
theorem inactive_run {middle later : List (Operation α)} (consistent : roster.registry.Consistent)
    (room : roster.HasRoomFor (.arm id handle :: (middle ++ operation :: later)))
    (issued : handle.ticket ≤ roster.timers.issued)
    (found : roster.registry.engines[id]? = some record)
    (retires : (roster.run (.arm id handle :: middle)).Retires operation id) :
    (roster.run (.arm id handle :: (middle ++ operation :: later))).timers.isActive handle =
      false := by
  have armed : (roster.perform (.arm id handle)).Arms id handle := by
    rw [perform_arm_of_found consistent found]
    refine ⟨{ record with deletion := some handle }, ?_, rfl⟩
    exact (Registry.getElem?_replace id).trans (if_pos (consistent.identified found))
  have step := step_perform consistent (.arm id handle)
  have first := step.consistent consistent room
  have rest := room.tail consistent
  have halfway := consistent_run first rest.past
  have spent : (roster.run (.arm id handle :: (middle ++ [operation]))).timers.Spent handle := by
    rw [run_cons, run_append]
    rcases arms_or_spent_run first rest.past (Nat.le_trans issued step.extends.issued)
      (Or.inl armed) with ⟨still, armed | spent⟩
    · exact spent_of_retires halfway armed still retires
    · exact spent.extends (step_perform halfway operation).extends
  have remaining := (rest.future first).tail halfway
  have last := (step_perform halfway operation).consistent halfway (rest.future first)
  rw [run_cons, run_append] at spent ⊢
  exact (spent_run last remaining spent).inactive

/-! ## The whole history -/

/-- What holds of a registry after a history. -/
structure Sound (history : List (Operation α)) : Prop where
  /-- A record stands under its number, and an index lists it, and nothing else,
  under its name. -/
  consistent : (run {} history).registry.Consistent
  unshared : ∀ (id other : EngineId) (record another : EngineRecord),
    (run {} history).registry.engines[id]? = some record →
    (run {} history).registry.engines[other]? = some another →
    record.queue = another.queue ∨ record.heart = another.heart → id = other
  /-- The next registration succeeds if nobody has its identities, under a number
  that counts those before it. -/
  accepts : ∀ (registration : Registration) (requester : Option Frame) (now : Timestamp),
    (run {} history).registry.Available registration.heart registration.queue →
    ∃ (id : EngineId) (registry : Registry),
      (run {} history).registry.insertPending registration requester now = .ok (id, registry) ∧
      id.toNat = (given ({} : Roster α) history).length
  refuses : ∀ (registration : Registration) (requester : Option Frame) (now : Timestamp),
    ¬ (run {} history).registry.Available registration.heart registration.queue →
    (∃ fault, (run {} history).registry.insertPending registration requester now =
        .error fault ∧
      (fault = .queueInUse registration.queue ∨ fault = .heartInUse registration.heart)) ∧
    (run {} history).perform (.insert registration requester now) = run {} history
  numbered : (given ({} : Roster α) history).map UInt32.toNat =
    List.range (given ({} : Roster α) history).length
  distinct : (given ({} : Roster α) history).Nodup
  promoted : ∀ (past later : List (Operation α)) (operation : Operation α),
    history = past ++ operation :: later →
    ∀ (id : EngineId) (record another : EngineRecord),
      (run {} past).registry.engines[id]? = some record →
      ((run {} past).perform operation).registry.engines[id]? = some another →
      another.state ≠ record.state →
      record.state = .pending ∧ another.state = .active ∧ operation = .promote record.heart
  retired : ∀ (past middle later : List (Operation α)) (operation : Operation α) (id : EngineId)
    (handle : TimerHandle), history = past ++ .arm id handle :: (middle ++ operation :: later) →
    handle.ticket ≤ (run {} past).timers.issued →
    (∃ record, (run {} past).registry.engines[id]? = some record) →
    (run {} (past ++ .arm id handle :: middle)).Retires operation id →
    (run {} history).timers.isActive handle = false

/-- Numbers are 32 bits wide, so that many registrations can succeed before one is
given out again. -/
theorem sound_of_history {history : List (Operation α)}
    (few : (given ({} : Roster α) history).length < UInt32.size) : Sound history := by
  have empty : ({} : Roster α).registry.Consistent := Registry.consistent_empty
  have zero : ({} : Roster α).registry.nextId.toNat = 0 := rfl
  have room : ({} : Roster α).HasRoomFor history := by rwa [HasRoomFor, zero, Nat.zero_add]
  have consistent := consistent_run empty room
  have numbers := numbers_given empty room
  rw [zero, ← List.range_eq_range'] at numbers
  constructor
  case consistent => exact consistent
  case unshared =>
    rintro id other record another found otherFound (sameQueue | sameHeart)
    · exact consistent.eq_of_queue found otherFound sameQueue
    · exact consistent.eq_of_heart found otherFound sameHeart
  case accepts =>
    intro registration requester now available
    refine ⟨_, _, Registry.insertPending_of_available consistent available, ?_⟩
    rw [nextId_run empty room, zero, Nat.zero_add]
  case refuses =>
    exact fun _ requester now taken => perform_insert_of_taken requester now consistent taken
  case numbered => exact numbers
  case distinct =>
    have distinct : ((given ({} : Roster α) history).map UInt32.toNat).Nodup := by
      rw [numbers]
      exact List.nodup_range
    exact List.Pairwise.of_map UInt32.toNat (fun _ _ different same => different (congrArg _ same))
      distinct
  case promoted =>
    rintro past later operation rfl id record another found after changed
    have earlier := consistent_run empty room.past
    exact (step_perform earlier operation).promoted earlier found after changed
  case retired =>
    rintro past middle later operation id handle rfl issued ⟨record, found⟩ retires
    have earlier := consistent_run empty room.past
    rw [run_append] at retires ⊢
    exact inactive_run earlier (room.future empty) issued found retires

/-- An engine is armed twice, promoted and removed, and another one registers
under its identities.  A registration in between is refused. -/
theorem sound_of_history_of_reuse :
    let registration : Registration := ⟨"heart-a", "queue-a", "a", []⟩
    let history : List (Operation Unit) := [
      .insert registration none default, .schedule 5 (), .arm 0 ⟨1, 5⟩,
      .insert { registration with heart := "heart-b" } none default, .schedule 7 (), .arm 0 ⟨2, 7⟩,
      .promote "heart-a", .markDead "queue-a", .remove 0, .insert registration none default]
    given {} history = [0, 1] ∧ (given ({} : Roster Unit) history).length < UInt32.size ∧
      Sound history := by
  intro registration history
  have numbers : given {} history = [0, 1] := by decide +kernel
  have few : (given ({} : Roster Unit) history).length < UInt32.size := by
    rw [numbers]
    decide
  exact ⟨numbers, few, sound_of_history few⟩

end ClusterHub.Roster

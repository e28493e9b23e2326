import ClusterHub.Proofs.Hub.Replies

/-!
# Registrations are replied to once

Through any history, a registration that is given a number is not replied to
while its engine waits, and is replied to once when it stops waiting, whichever
way that happens.
-/

namespace ClusterHub

namespace Core

variable {r after : Core} {id : EngineId} {record : EngineRecord}

/-- Whether a number was given out, and nobody who has it waits. -/
def Settled (r : Core) (id : EngineId) : Prop :=
  id < r.registry.nextId ∧ ∀ record : EngineRecord, r.registry.engines[id]? = some record →
    record.state = .active

/-- Whoever has the number afterwards had it before. -/
def Succeeds (r after : Core) (id : EngineId) : Prop :=
  (after.registry.engines[id]?).isSome → (r.registry.engines[id]?).isSome

theorem Settled.enroll (settled : r.Settled id)
    (room : r.registry.nextId.toNat + 1 < UInt32.size) :
    Settled { r with registry := r.registry.enroll record } id ∧
      Succeeds r { r with registry := r.registry.enroll record } id := by
  rcases settled with ⟨bound, active⟩
  have same : (r.registry.enroll record).engines[id]? = r.registry.engines[id]? := by
    rw [Registry.getElem?_enroll, if_neg]
    rintro rfl
    exact UInt32.lt_irrefl _ bound
  refine ⟨⟨(EngineId.lt_succ_iff room).mpr (Or.inl bound), ?_⟩, ?_⟩
  · intro other found
    exact active other (same ▸ found)
  · intro present
    exact same ▸ present

theorem Settled.withdraw (settled : r.Settled id) :
    Settled { r with registry := r.registry.withdraw record } id ∧
      Succeeds r { r with registry := r.registry.withdraw record } id := by
  rcases settled with ⟨bound, active⟩
  refine ⟨⟨bound, ?_⟩, ?_⟩
  · intro other found
    exact active other (Registry.found_of_withdraw found).2
  · intro present
    rcases Option.isSome_iff_exists.mp present with ⟨other, found⟩
    rw [(Registry.found_of_withdraw found).2]
    rfl

theorem Settled.replace (settled : r.Settled id) (consistent : r.registry.Consistent)
    {other : EngineId} (found : r.registry.engines[other]? = some record) :
    Settled { r with registry := r.registry.replace record.activated } id ∧
      Succeeds r { r with registry := r.registry.replace record.activated } id := by
  rcases settled with ⟨bound, active⟩
  refine ⟨⟨bound, ?_⟩, ?_⟩
  · intro another anotherFound
    rcases Registry.eq_or_found_of_replace anotherFound with ⟨_, rfl⟩ | ⟨_, before⟩
    · rfl
    · exact active another before
  · intro present
    rcases Option.isSome_iff_exists.mp present with ⟨another, anotherFound⟩
    rcases Registry.eq_or_found_of_replace anotherFound with ⟨same, _⟩ | ⟨_, before⟩
    · have numbered : id = record.id := same
      rw [consistent.identified found] at numbered
      rw [numbered, found]
      rfl
    · rw [before]
      rfl

theorem Step.settled (step : r.Step after) (consistent : r.registry.Consistent)
    (settled : r.Settled id) : after.Settled id ∧ r.Succeeds after id := by
  have unchanged : r.Settled id ∧ r.Succeeds r id := ⟨settled, fun present => present⟩
  cases step with
  | handled handled =>
      cases handled with
      | noted after noted =>
          rcases noted with ⟨operations, _, rfl⟩
          exact unchanged
      | stopping => exact unchanged
      | joined record numbered available room => exact settled.enroll room
      | waiting record deadline numbered available room => exact settled.enroll room
      | left => exact settled.withdraw
  | fired position entry stands fired =>
      cases fired with
      | purged => exact settled.withdraw
      | swept => exact settled.withdraw
      | _ => exact unchanged
  | pulse pulse =>
      cases pulse with
      | welcomed heart rest other record first found => exact settled.replace consistent found
      | _ => exact unchanged

theorem Steps.settled (steps : Steps r after) (coherent : r.Coherent) (settled : r.Settled id) :
    after.Settled id ∧ r.Succeeds after id := by
  induction steps with
  | refl => exact ⟨settled, fun present => present⟩
  | tail earlier last inductionHypothesis =>
      have next := last.settled (Steps.coherent earlier coherent).consistent inductionHypothesis.1
      exact ⟨next.1, fun present => inductionHypothesis.2 (next.2 present)⟩

end Core

namespace Hub

variable {hub : Hub} {event : Event} {history : List Event} {id : EngineId}
  {record : EngineRecord} {identity : Frame} {message : Message} {registration : Registration}
  {handle : TimerHandle}

theorem not_waits_of_settled (settled : hub.core.Settled id) : ¬ hub.waits id := by
  rintro ⟨record, found, pending⟩
  rw [settled.2 record found] at pending
  contradiction

theorem settled_of_active (consistent : hub.registry.Consistent)
    (found : hub.registry.engines[id]? = some record) (active : record.state = .active) :
    hub.core.Settled id := by
  refine ⟨consistent.fresh found, ?_⟩
  intro other otherFound
  cases found.symm.trans otherFound
  exact active

theorem settled_of_gone (gone : hub.core.Gone id) : hub.core.Settled id := by
  refine ⟨gone.2, ?_⟩
  intro record found
  rw [gone.1] at found
  contradiction

theorem settled_of_not_waits (bound : id < hub.registry.nextId) (unawaiting : ¬ hub.waits id) :
    hub.core.Settled id := by
  refine ⟨bound, ?_⟩
  intro record found
  cases state : record.state with
  | active => rfl
  | pending => exact absurd ⟨record, found, state⟩ unawaiting

/-- An engine that does not wait becomes active only if it is. -/
theorem hasActive_of_succeeds {after : Hub} (settled : hub.core.Settled id)
    (succeeds : hub.core.Succeeds after.core id) (active : after.hasActive id) :
    hub.hasActive id := by
  rcases active with ⟨record, found, _⟩
  have present : (after.core.registry.engines[id]?).isSome :=
    Option.isSome_iff_exists.mpr ⟨record, found⟩
  rcases Option.isSome_iff_exists.mp (succeeds present) with ⟨before, beforeFound⟩
  exact ⟨before, beforeFound, settled.2 before beforeFound⟩

theorem hasActive_of_settled (orderly : hub.Orderly) (room : hub.HasRoom event)
    (settled : hub.core.Settled id) (active : (hub.react event).hasActive id) : hub.hasActive id :=
  hasActive_of_succeeds settled ((steps_react orderly room).settled orderly.coherent settled).2
    active

theorem settled_run (orderly : hub.Orderly) (enough : hub.HasRoomFor history)
    (settled : hub.core.Settled id) : (hub.run history).core.Settled id :=
  ((steps_run orderly enough).settled orderly.coherent settled).1

/-- Nothing more is said to an engine that does not wait. -/
theorem allRepliesTo_of_settled (orderly : hub.Orderly) (enough : hub.HasRoomFor history)
    (settled : hub.core.Settled id) : hub.allRepliesTo id history = [] := by
  induction history generalizing hub with
  | nil => rfl
  | cons event history inductionHypothesis =>
      have next := (steps_react orderly enough.head).settled orderly.coherent settled
      have silent : hub.repliesTo id event = [] :=
        repliesTo_eq_nil orderly enough.head (hasActive_of_settled orderly enough.head settled)
          fun gone => not_waits_of_settled settled gone.1
      rw [allRepliesTo, silent, List.nil_append]
      exact inductionHypothesis (orderly_react orderly enough.head) (enough.tail orderly) next.1

/-! ## Engines that wait -/

/-- An engine that still waits has the record that it had. -/
theorem found_run_of_waits (orderly : hub.Orderly) (enough : hub.HasRoomFor history)
    (found : hub.registry.engines[id]? = some record) (pending : record.state = .pending)
    (armed : record.deletion = some handle) (waits : (hub.run history).waits id) :
    (hub.run history).registry.engines[id]? = some record := by
  induction history generalizing hub with
  | nil => exact found
  | cons event history inductionHypothesis =>
      have next := orderly_react orderly enough.head
      have rest := enough.tail orderly
      by_cases reported : hub.reportsNew record.heart event
      · have welcomed := found_react_of_reported orderly found pending reported
        have settled := settled_run next rest (settled_of_active next.consistent welcomed rfl)
        exact absurd waits (not_waits_of_settled settled)
      · by_cases fired : hub.fires handle.ticket event
        · have withdrawn := registry_react_of_fired orderly found pending armed fired
          have gone := gone_of_withdraw orderly found withdrawn
          have settled := settled_run next rest (settled_of_gone gone)
          exact absurd waits (not_waits_of_settled settled)
        · exact inductionHypothesis next rest
            (found_react_of_neither orderly enough.head found pending armed reported fired) waits

/-- What is said to an engine from when it waits on. -/
structure Answers (hub : Hub) (id : EngineId) (identity : Frame) (heart : String)
    (history : List Event) : Prop where
  /-- Nothing is said as long as it waits. -/
  waiting : (hub.run history).waits id → hub.allRepliesTo id history = []
  /-- If it becomes active, it is acknowledged. -/
  active : hub.everActive id history →
    hub.allRepliesTo id history = [.acknowledgement identity id]
  /-- If it stops waiting but does not become active, it is rejected. -/
  gone : ¬ (hub.run history).waits id → ¬ hub.everActive id history →
    hub.allRepliesTo id history = [.rejection identity (stalledFault heart)]

/-- An event in which nothing is said. -/
theorem Answers.cons {heart : String} (silent : hub.repliesTo id event = [])
    (inactive : ¬ hub.hasActive id) (later : (hub.react event).Answers id identity heart history) :
    hub.Answers id identity heart (event :: history) := by
  have same : hub.allRepliesTo id (event :: history) =
      (hub.react event).allRepliesTo id history := by
    rw [allRepliesTo, silent, List.nil_append]
  have active : hub.everActive id (event :: history) ↔
      (hub.react event).everActive id history := by
    rw [everActive_cons, or_iff_right inactive]
  constructor
  case waiting =>
    rw [same]
    exact later.waiting
  case active =>
    rw [same, active]
    exact later.active
  case gone =>
    rw [same, active]
    exact later.gone

/-- An event in which the engine becomes active. -/
theorem answers_of_confirmed {heart : String} (next : (hub.react event).Orderly)
    (enough : (hub.react event).HasRoomFor history)
    (told : hub.repliesTo id event = [.acknowledgement identity id])
    (found : (hub.react event).registry.engines[id]? = some record)
    (active : record.state = .active) : hub.Answers id identity heart (event :: history) := by
  have settled := settled_of_active next.consistent found active
  have ever := settled_run next enough settled
  constructor
  case waiting => exact fun waits => absurd waits (not_waits_of_settled ever)
  case active =>
    intro _
    rw [allRepliesTo, told, allRepliesTo_of_settled next enough settled]
    rfl
  case gone =>
    intro _ never
    exact absurd (everActive_cons.mpr (Or.inr ⟨[], List.nil_prefix, record, found, active⟩)) never

/-- An event in which the engine is withdrawn. -/
theorem answers_of_withdrawn {heart : String} (next : (hub.react event).Orderly)
    (enough : (hub.react event).HasRoomFor history) (inactive : ¬ hub.hasActive id)
    (told : hub.repliesTo id event = [.rejection identity (stalledFault heart)])
    (gone : (hub.react event).core.Gone id) :
    hub.Answers id identity heart (event :: history) := by
  have settled := settled_of_gone gone
  have ever := settled_run next enough settled
  constructor
  case waiting => exact fun waits => absurd waits (not_waits_of_settled ever)
  case active =>
    intro active
    rcases everActive_cons.mp active with now | later
    · exact absurd now inactive
    · exact absurd later (not_everActive_of_gone next enough gone)
  case gone =>
    intro _ _
    rw [allRepliesTo, told, allRepliesTo_of_settled next enough settled]
    rfl

theorem answers_of_pending (orderly : hub.Orderly) (enough : hub.HasRoomFor history)
    (found : hub.registry.engines[id]? = some record) (pending : record.state = .pending)
    (asked : record.requester = some identity) (armed : record.deletion = some handle) :
    hub.Answers id identity record.heart history := by
  induction history generalizing hub with
  | nil =>
      constructor
      case waiting => exact fun _ => rfl
      case active =>
        intro active
        exact absurd (everActive_nil.mp active) (not_hasActive_of_pending found pending)
      case gone => exact fun unawaiting => absurd ⟨record, found, pending⟩ unawaiting
  | cons event history inductionHypothesis =>
      have next := orderly_react orderly enough.head
      have rest := enough.tail orderly
      have inactive := not_hasActive_of_pending found pending
      by_cases reported : hub.reportsNew record.heart event
      · exact answers_of_confirmed next rest
          (repliesTo_of_reported orderly found pending asked reported)
          (found_react_of_reported orderly found pending reported) rfl
      · by_cases fired : hub.fires handle.ticket event
        · have withdrawn := registry_react_of_fired orderly found pending armed fired
          have gone := gone_of_withdraw orderly found withdrawn
          exact answers_of_withdrawn next rest inactive
            (repliesTo_of_withdraws ⟨⟨record, found, pending⟩, gone.1⟩
              (posts_of_fired orderly found pending asked armed fired)) gone
        · have still :=
            found_react_of_neither orderly enough.head found pending armed reported fired
          refine .cons (repliesTo_eq_nil orderly enough.head ?_ ?_) inactive
            (inductionHypothesis next rest still)
          · exact fun active => absurd active (not_hasActive_of_pending still pending)
          · rintro ⟨_, gone⟩
            rw [still] at gone
            contradiction

variable {earlier later : List Event}

end Hub

end ClusterHub

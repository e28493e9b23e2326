import ClusterHub.Proofs.Hub.Beating
import ClusterHub.Proofs.Hub.Coherence.Beat

/-!
# The course of a hub

Every event keeps a hub orderly, and so does every history, as long as the
numbers of engines do not run out.
-/

namespace ClusterHub.Hub

variable {hub : Hub} {event : Event}

/-- The parts of a hub fit together, and its monitor has its handlers. -/
structure Orderly (hub : Hub) : Prop where
  attentive : hub.Attentive
  coherent : hub.core.Coherent

theorem Orderly.consistent (orderly : hub.Orderly) : hub.registry.Consistent :=
  orderly.coherent.consistent

/-- If a number is given out, there is one left to give out next. -/
def HasRoom (hub : Hub) (event : Event) : Prop :=
  hub.admits event → hub.registry.nextId.toNat + 1 < UInt32.size

theorem attentive_fire (attentive : hub.Attentive) (consistent : hub.registry.Consistent)
    (position : Nat) : (hub.fire position).Attentive := by
  cases stands : hub.timers.entries[position]? with
  | none =>
      rw [fire_of_none stands]
      exact attentive
  | some entry =>
      rcases fired_fire consistent stands with fired | ⟨active, due⟩
      · exact attentive_of_same attentive fired.monitor_eq
      · rw [fire_of_beat stands active due]
        exact attentive_beat (attentive_of_same attentive rfl)

theorem attentive_react (orderly : hub.Orderly) (room : hub.HasRoom event) :
    (hub.react event).Attentive := by
  have attentive := orderly.attentive
  cases event with
  | query message =>
      exact attentive_of_same attentive (handled_dispatchQuery orderly.consistent room).monitor_eq
  | traffic message =>
      have handled := Core.Handled.noted _ (noted_dispatchTraffic hub message)
      exact attentive_of_same attentive handled.monitor_eq
  | pong message =>
      have handlers := handlers_handlePong hub.monitor message
      exact ⟨handlers.1.trans attentive.onNew, handlers.2.trans attentive.onFailure⟩
  | beat => exact attentive_beat attentive
  | timer position => exact attentive_fire attentive orderly.consistent position
  | elapse d => exact attentive_of_same attentive rfl
  | flush => exact attentive_of_same attentive rfl

/-- The hub is orderly when the timer of a beat has come off its queue. -/
theorem Orderly.dropTimer (orderly : hub.Orderly) {position : Nat}
    {entry : TimerEntry (Reactor.Alarm Duty)}
    (stands : hub.timers.entries[position]? = some entry) (due : entry.action = .own .beat) :
    (hub.dropTimer position).Orderly :=
  ⟨attentive_of_same orderly.attentive rfl,
    (fired_dropTimer due).coherent stands orderly.coherent⟩

theorem steps_fire (orderly : hub.Orderly) (position : Nat) :
    Core.Steps hub.core (hub.fire position).core := by
  cases stands : hub.timers.entries[position]? with
  | none => rw [fire_of_none stands]
  | some entry =>
      rcases fired_fire orderly.consistent stands with fired | ⟨active, due⟩
      · exact .single (.fired position entry stands fired)
      · rw [fire_of_beat stands active due]
        have dropped := orderly.dropTimer stands due
        exact .head (.fired position entry stands (fired_dropTimer due))
          (pulses_beat dropped.attentive dropped.consistent).steps

theorem steps_react (orderly : hub.Orderly) (room : hub.HasRoom event) :
    Core.Steps hub.core (hub.react event).core := by
  cases event with
  | query message => exact .single (.handled (handled_dispatchQuery orderly.consistent room))
  | traffic message => exact .single (.handled (.noted _ (noted_dispatchTraffic hub message)))
  | pong message => exact .single (.pulse (.heard hub.core message))
  | beat => exact (pulses_beat orderly.attentive orderly.consistent).steps
  | timer position => exact steps_fire orderly position
  | elapse d => exact .refl
  | flush => exact .refl

theorem orderly_react (orderly : hub.Orderly) (room : hub.HasRoom event) :
    (hub.react event).Orderly :=
  ⟨attentive_react orderly room, (steps_react orderly room).coherent orderly.coherent⟩

theorem nextId_fire (orderly : hub.Orderly) (position : Nat) :
    (hub.fire position).registry.nextId = hub.registry.nextId := by
  cases stands : hub.timers.entries[position]? with
  | none => rw [fire_of_none stands]
  | some entry =>
      rcases fired_fire orderly.consistent stands with fired | ⟨active, due⟩
      · exact fired.nextId_eq
      · rw [fire_of_beat stands active due]
        have dropped := orderly.dropTimer stands due
        exact (pulses_beat dropped.attentive dropped.consistent).nextId_eq

/-- An event that is no query gives out no number. -/
theorem nextId_react_of_other (orderly : hub.Orderly)
    (other : ∀ message, event ≠ .query message) :
    (hub.react event).registry.nextId = hub.registry.nextId := by
  cases event with
  | query message => exact absurd rfl (other message)
  | traffic message =>
      rcases noted_dispatchTraffic hub message with ⟨operations, _, same⟩
      exact congrArg (fun core => core.registry.nextId) same
  | pong message => rfl
  | beat => exact (pulses_beat orderly.attentive orderly.consistent).nextId_eq
  | timer position => exact nextId_fire orderly position
  | elapse d => rfl
  | flush => rfl

/-- An event gives out the next number or none. -/
theorem nextId_react (orderly : hub.Orderly) (event : Event) :
    (hub.react event).registry.nextId = hub.registry.nextId ∨
      (hub.react event).registry.nextId = hub.registry.nextId + 1 := by
  cases event with
  | query message => exact nextId_dispatchQuery orderly.consistent message
  | _ => exact Or.inl (nextId_react_of_other orderly nofun)

/-- The numbers that are given out add up as long as they do not run out. -/
theorem toNat_nextId_react (orderly : hub.Orderly) (room : hub.HasRoom event) :
    (hub.react event).registry.nextId.toNat =
      hub.registry.nextId.toNat + (hub.admits event).toNat := by
  by_cases same : (hub.react event).registry.nextId = hub.registry.nextId
  · have none : hub.admits event = false := decide_eq_false (not_not_intro same)
    rw [same, none]
    rfl
  · have admission : hub.admits event = true := decide_eq_true same
    have room := room admission
    rw [(nextId_react orderly event).resolve_left same, admission, UInt32.toNat_add]
    exact Nat.mod_eq_of_lt room

/-! ## Histories -/

/-- The numbers do not run out in a history. -/
def HasRoomFor (hub : Hub) (history : List Event) : Prop :=
  hub.registry.nextId.toNat + hub.admissions history < UInt32.size

theorem HasRoom.single (room : hub.HasRoom event) : hub.HasRoomFor [event] := by
  unfold HasRoomFor admissions admissions
  cases admission : hub.admits event with
  | true => exact room admission
  | false => exact hub.registry.nextId.toNat_lt_size

theorem HasRoomFor.head {history : List Event} (enough : hub.HasRoomFor (event :: history)) :
    hub.HasRoom event := by
  intro admission
  rw [HasRoomFor, admissions_cons, admission] at enough
  simp only [Bool.toNat_true] at enough
  omega

theorem HasRoomFor.tail {history : List Event} (orderly : hub.Orderly)
    (enough : hub.HasRoomFor (event :: history)) : (hub.react event).HasRoomFor history := by
  have next := toNat_nextId_react orderly enough.head
  rw [HasRoomFor, admissions_cons] at enough
  rw [HasRoomFor, next]
  omega

/-- What every event keeps, every history keeps. -/
theorem run_induction {property : Hub → Prop} {history : List Event}
    (step : ∀ hub event, hub.Orderly → hub.HasRoom event → property hub →
      property (hub.react event))
    (orderly : hub.Orderly) (enough : hub.HasRoomFor history) (start : property hub) :
    property (hub.run history) := by
  induction history generalizing hub with
  | nil => exact start
  | cons event history inductionHypothesis =>
      exact inductionHypothesis (orderly_react orderly enough.head) (enough.tail orderly)
        (step hub event orderly enough.head start)

theorem orderly_run {history : List Event} (orderly : hub.Orderly)
    (enough : hub.HasRoomFor history) : (hub.run history).Orderly :=
  run_induction (fun _ _ orderly room _ => orderly_react orderly room) orderly enough orderly

theorem steps_run {history : List Event} (orderly : hub.Orderly)
    (enough : hub.HasRoomFor history) : Core.Steps hub.core (hub.run history).core := by
  induction history generalizing hub with
  | nil => exact .refl
  | cons event history inductionHypothesis =>
      have first := steps_react orderly enough.head
      exact first.trans
        (inductionHypothesis (orderly_react orderly enough.head) (enough.tail orderly))

theorem toNat_nextId_run {history : List Event} (orderly : hub.Orderly)
    (enough : hub.HasRoomFor history) :
    (hub.run history).registry.nextId.toNat =
      hub.registry.nextId.toNat + hub.admissions history := by
  induction history generalizing hub with
  | nil => rfl
  | cons event history inductionHypothesis =>
      have next := toNat_nextId_react orderly enough.head
      rw [run_cons, inductionHypothesis (orderly_react orderly enough.head) (enough.tail orderly),
        next, admissions_cons, Nat.add_assoc]

theorem HasRoomFor.past {past future : List Event} (enough : hub.HasRoomFor (past ++ future)) :
    hub.HasRoomFor past := by
  rw [HasRoomFor, admissions_append] at enough
  unfold HasRoomFor
  omega

theorem HasRoomFor.future {past future : List Event} (orderly : hub.Orderly)
    (enough : hub.HasRoomFor (past ++ future)) : (hub.run past).HasRoomFor future := by
  have next := toNat_nextId_run orderly enough.past
  rw [HasRoomFor, admissions_append] at enough
  rw [HasRoomFor, next]
  omega

theorem IsAttached.orderly (attached : hub.IsAttached) : hub.Orderly := by
  rcases attached with ⟨config, engineAddresses, clientAddresses, now, rfl⟩
  refine ⟨⟨rfl, rfl⟩, ?_⟩
  have idle := Core.coherent_start (start config engineAddresses clientAddresses now).monitor
  exact idle.schedule rfl

theorem IsAttached.nextId (attached : hub.IsAttached) : hub.registry.nextId = 0 := by
  rcases attached with ⟨config, engineAddresses, clientAddresses, now, rfl⟩
  rfl

theorem IsAttached.hasRoomFor {history : List Event} (attached : hub.IsAttached)
    (few : hub.admissions history < UInt32.size) : hub.HasRoomFor history := by
  rw [HasRoomFor, attached.nextId]
  simpa using few

end ClusterHub.Hub

import ClusterHub.Proofs.Hub.Recovery
import ClusterHub.Proofs.Hub.Verdicts

/-!
# Tasks whose engine is not there

When an engine that was given up is swept, its tasks are completed before its
record goes.  When an engine that waits is withdrawn, its tasks are left as they
are, although the task queues may have bound some to it: engines are found by
their queues from when they register.  So unless engines ask to leave, a task
is left pending on an engine that is not there exactly if an engine that waits
is withdrawn while tasks are pending on it.
-/

namespace ClusterHub

namespace Core

variable {r after : Core} {id : EngineId} {position : Nat}
  {entry : TimerEntry (Reactor.Alarm Duty)}

/-- Why an engine is not there after an event, if none asks to leave. -/
inductive Absence (r after : Core) (id : EngineId) : Prop
  /-- It was not there before, and is given no task. -/
  | already (absent : r.registry.engines[id]? = none)
      (idle : r.ledger.Cleared id → after.ledger.Cleared id)
  /-- It waited, and all tasks are left as they are. -/
  | withdrawn (record : EngineRecord) (found : r.registry.engines[id]? = some record)
      (pending : record.state = .pending) (ledger : after.ledger = r.ledger)
  /-- It was given up, and its tasks are completed. -/
  | swept (record : EngineRecord) (found : r.registry.engines[id]? = some record)
      (active : record.state = .active) (now : Timestamp)
      (sweeps : Ledger.Sweeps r.ledger after.ledger id record.queue now)
      (cleared : after.ledger.Cleared id)

/-- In a step in which no engine goes, one that is not there is given no task. -/
theorem Step.absence_of_kept (step : r.Step after) (consistent : r.registry.Consistent)
    (kept : after.registry.engines[id]? = none → r.registry.engines[id]? = none)
    (absent : after.registry.engines[id]? = none) : r.Absence after id :=
  .already (kept absent) (step.cleared consistent (kept absent))

/-- No engine goes while one joins. -/
theorem Handled.kept_of_admission (handled : r.Handled after) (consistent : r.registry.Consistent)
    (admitted : after.registry.nextId ≠ r.registry.nextId)
    (absent : after.registry.engines[id]? = none) : r.registry.engines[id]? = none := by
  have joining : ∀ record : EngineRecord, (r.registry.enroll record).engines[id]? = none →
      r.registry.engines[id]? = none := by
    intro record absent
    cases before : r.registry.engines[id]? with
    | none => rfl
    | some other =>
        rw [consistent.found_enroll before] at absent
        contradiction
  cases handled with
  | noted after noted =>
      rcases noted with ⟨operations, _, rfl⟩
      exact absurd rfl admitted
  | stopping => exact absurd rfl admitted
  | joined record => exact joining record absent
  | waiting record => exact joining record absent
  | left => exact absurd rfl admitted

/-- No engine goes in a beat. -/
theorem Pulse.kept (pulse : Pulse r after) (absent : after.registry.engines[id]? = none) :
    r.registry.engines[id]? = none := by
  cases pulse with
  | welcomed heart rest other record =>
      change (r.registry.replace record.activated).engines[id]? = none at absent
      rw [Registry.getElem?_replace] at absent
      split at absent
      · contradiction
      · exact absent
  | _ => exact absent

theorem Pulses.already (pulses : Pulses r after) (consistent : r.registry.Consistent)
    (absent : after.registry.engines[id]? = none) :
    r.registry.engines[id]? = none ∧ (r.ledger.Cleared id → after.ledger.Cleared id) := by
  induction pulses with
  | refl => exact ⟨absent, fun cleared => cleared⟩
  | tail earlier last inductionHypothesis =>
      have middle := last.kept absent
      rcases inductionHypothesis middle with ⟨before, idle⟩
      exact ⟨before, fun cleared =>
        Step.cleared (.pulse last) (Pulses.consistent earlier consistent) middle (idle cleared)⟩

theorem Fired.absence (fired : r.Fired position entry after)
    (stands : r.timers.entries[position]? = some entry) (coherent : r.Coherent)
    (absent : after.registry.engines[id]? = none) : r.Absence after id := by
  have own : ∀ {other : EngineId} {record : EngineRecord},
      r.registry.engines[other]? = some record →
      (r.registry.withdraw record).engines[id]? = none →
      r.registry.engines[id]? = none ∨ other = id := by
    intro other record found absent
    rw [Registry.getElem?_withdraw] at absent
    split at absent
    · next named => exact Or.inr ((coherent.consistent.identified found).symm.trans named)
    · exact Or.inl absent
  have step : r.Step after := .fired position entry stands fired
  have kept : (after.registry.engines[id]? = none → r.registry.engines[id]? = none) →
      after.registry.engines[id]? = none → r.Absence after id :=
    step.absence_of_kept coherent.consistent
  cases fired with
  | purged other record active due found pending =>
      rcases own found absent with before | rfl
      · exact kept (fun _ => before) absent
      · exact .withdrawn record found pending rfl
  | swept other queue now record active due found =>
      rcases own found absent with before | rfl
      · exact kept (fun _ => before) absent
      · have running := Timers.mem_running.mpr ⟨List.mem_of_getElem? stands, active⟩
        rcases coherent.swept_active running due found with ⟨rfl, _, seen⟩
        have sweeps := Ledger.sweeps_strandedSweep coherent.ledger other record.queue now
        exact .swept record found seen now sweeps (sweeps.cleared coherent.ledger)
  | _ => exact kept (fun absent => absent) absent

end Core

namespace Hub

variable {hub after : Hub} {event : Event} {history : List Event} {id : EngineId}
  {identity : Frame} {message : Message} {kind : QueryKind}

/-- Whether an event is the query by which an engine asks to leave. -/
def Event.asksToLeave : Event → Bool
  | .query message =>
      match (message.text 1).bind QueryKind.ofTag with
      | .ok .unregistration => true
      | _ => false
  | _ => false

/-- Whether an engine leaves that has asked to. -/
def dismisses (hub : Hub) (event : Event) : Prop :=
  ∃ message identity after, event = .query message ∧ IsQuery message identity .unregistration ∧
    (hub.countQuery .unregistration).unregisterEngine identity message = .ok after

/-- Whether an engine that waits is withdrawn while tasks are pending on it. -/
def abandons (hub : Hub) (id : EngineId) (event : Event) : Prop :=
  hub.withdraws id event ∧ ∃ task, hub.ledger.IsOutstanding id task

/-- No task is pending on an engine that is not there. -/
def Attended (hub : Hub) : Prop :=
  ∀ id task, hub.ledger.IsOutstanding id task → (hub.registry.engines[id]?).isSome

/-- No engine goes in a query, unless it asks to. -/
theorem kept_answerQuery (consistent : hub.registry.Consistent)
    (room : after.registry.nextId ≠ hub.registry.nextId →
      hub.registry.nextId.toNat + 1 < UInt32.size)
    (other : kind ≠ .unregistration)
    (done : hub.answerQuery identity message kind = .ok after)
    (absent : after.registry.engines[id]? = none) : hub.registry.engines[id]? = none := by
  cases reading : kind.isReading with
  | true =>
      rcases answerQuery_of_reading reading done with ⟨answer, trailing, rfl⟩
      exact absent
  | false =>
      cases kind with
      | purge =>
          rcases purgeResults_eq_ok done with ⟨operations, _, same⟩
          exact (congrArg (fun core => core.registry.engines[id]?) same).symm.trans absent
      | resubmit =>
          rcases resubmit_eq_ok done with ⟨operations, _, same⟩
          exact (congrArg (fun core => core.registry.engines[id]?) same).symm.trans absent
      | shutdown =>
          cases done
          exact absent
      | registration =>
          have next : after.registry.nextId = hub.registry.nextId + 1 := nextId_registerEngine done
          have admitted : after.registry.nextId ≠ hub.registry.nextId := by
            rw [next]
            exact EngineId.succ_ne_self _
          have handled := handled_answerQuery consistent room done
          exact handled.kept_of_admission consistent admitted absent
      | unregistration => exact absurd rfl other
      | _ => contradiction

theorem kept_dispatchQuery (consistent : hub.registry.Consistent)
    (room : hub.HasRoom (.query message)) (staying : ¬ hub.dismisses (.query message))
    (absent : (hub.dispatchQuery message).registry.engines[id]? = none) :
    hub.registry.engines[id]? = none := by
  have admission : (hub.dispatchQuery message).registry.nextId ≠ hub.registry.nextId →
      hub.registry.nextId.toNat + 1 < UInt32.size := by
    intro different
    exact room (decide_eq_true different)
  unfold dispatchQuery at absent admission
  split at absent
  · next identity kind sender tag =>
      rw [sender, tag] at admission
      simp only at absent admission
      cases done : (hub.countQuery kind).answerQuery identity message kind with
      | ok after =>
          rw [done] at absent admission
          have other : kind ≠ .unregistration := by
            rintro rfl
            exact staying ⟨message, identity, after, rfl,
              isQuery_iff.mpr ⟨sender, tag, canRead_of_answerQuery done⟩, done⟩
          have kept : (hub.countQuery kind).registry.engines[id]? = none :=
            kept_answerQuery consistent admission other done absent
          exact kept
      | error fault =>
          rw [done] at absent
          have same := core_refuse (hub.countQuery kind) identity kind fault
          exact (congrArg (fun core => core.registry.engines[id]?) same).symm.trans absent
  · exact absent

/-- What is behind it that an engine is not there after an event. -/
theorem absence_react (orderly : hub.Orderly) (room : hub.HasRoom event)
    (staying : ¬ hub.dismisses event)
    (absent : (hub.react event).registry.engines[id]? = none) :
    hub.core.Absence (hub.react event).core id := by
  have consistent := orderly.consistent
  cases event with
  | query message =>
      have step : hub.core.Step _ := .handled (handled_dispatchQuery consistent room)
      exact step.absence_of_kept consistent (kept_dispatchQuery consistent room staying) absent
  | traffic message =>
      have noted := noted_dispatchTraffic hub message
      have step : hub.core.Step _ := .handled (.noted _ noted)
      refine step.absence_of_kept consistent ?_ absent
      rcases noted with ⟨operations, _, same⟩
      exact (congrArg (fun core => core.registry.engines[id]?) same).symm.trans
  | pong message => exact .already absent fun cleared => cleared
  | elapse d => exact .already absent fun cleared => cleared
  | flush => exact .already absent fun cleared => cleared
  | beat =>
      have pulses := pulses_beat orderly.attentive consistent
      rcases pulses.already consistent absent with ⟨before, idle⟩
      exact .already before idle
  | timer position =>
      change hub.core.Absence (hub.fire position).core id
      change (hub.fire position).core.registry.engines[id]? = none at absent
      cases stands : hub.timers.entries[position]? with
      | none =>
          rw [fire_of_none stands] at absent ⊢
          exact .already absent fun cleared => cleared
      | some entry =>
          rcases fired_fire consistent stands with fired | ⟨active, due⟩
          · exact fired.absence stands orderly.coherent absent
          · rw [fire_of_beat stands active due] at absent ⊢
            have dropped := orderly.dropTimer stands due
            rcases (pulses_beat dropped.attentive dropped.consistent).already dropped.consistent
              absent with ⟨before, idle⟩
            exact .already before idle

/-- Tasks that are pending on an engine that is withdrawn are so afterwards. -/
theorem isOutstanding_of_withdraws {task : String} (orderly : hub.Orderly)
    (room : hub.HasRoom event) (staying : ¬ hub.dismisses event) (gone : hub.withdraws id event)
    (outstanding : hub.ledger.IsOutstanding id task) :
    (hub.react event).ledger.IsOutstanding id task := by
  rcases gone with ⟨⟨record, found, pending⟩, absent⟩
  cases absence_react orderly room staying absent with
  | already before =>
      have found : hub.core.registry.engines[id]? = some record := found
      rw [before] at found
      contradiction
  | withdrawn other otherFound otherPending ledger =>
      have same : (hub.react event).ledger = hub.ledger := ledger
      rw [same]
      exact outstanding
  | swept other otherFound active =>
      cases found.symm.trans otherFound
      rw [pending] at active
      contradiction

/-! ## Histories -/

/-- No engine leaves in a history that has asked to. -/
def DismissesNobody (hub : Hub) (history : List Event) : Prop :=
  ∀ earlier event later, history = earlier ++ event :: later →
    ¬ (hub.run earlier).dismisses event

theorem DismissesNobody.head (staying : hub.DismissesNobody (event :: history)) :
    ¬ hub.dismisses event :=
  staying [] event history rfl

theorem DismissesNobody.tail (staying : hub.DismissesNobody (event :: history)) :
    (hub.react event).DismissesNobody history := by
  rintro earlier other later rfl
  exact staying (event :: earlier) other later rfl

/-- No engine leaves if none asks to. -/
theorem dismissesNobody_of_unasked (unasked : history.all fun event => !event.asksToLeave) :
    hub.DismissesNobody history := by
  rintro earlier event later rfl ⟨message, identity, after, rfl, query, _⟩
  have asked : (Event.query message).asksToLeave = true := by
    rw [Event.asksToLeave, (isQuery_iff.mp query).2.1]
  have member : Event.query message ∈ earlier ++ Event.query message :: later :=
    List.mem_append_right _ List.mem_cons_self
  have never := List.all_eq_true.mp unasked _ member
  rw [asked] at never
  contradiction

theorem DismissesNobody.past {past future : List Event}
    (staying : hub.DismissesNobody (past ++ future)) : hub.DismissesNobody past := by
  rintro earlier event later rfl
  exact staying earlier event (later ++ future) (by simp)

/-- A task is pending on an engine that is not there only if the engine was
withdrawn while a task was pending on it. -/
theorem exists_abandonment {task : String} (orderly : hub.Orderly)
    (enough : hub.HasRoomFor history) (staying : hub.DismissesNobody history)
    (idle : hub.registry.engines[id]? = none → hub.ledger.Cleared id)
    (absent : (hub.run history).registry.engines[id]? = none)
    (outstanding : (hub.run history).ledger.IsOutstanding id task) :
    ∃ earlier event later, history = earlier ++ event :: later ∧
      (hub.run earlier).abandons id event := by
  induction history generalizing hub with
  | nil => exact absurd outstanding (idle absent task)
  | cons event history inductionHypothesis =>
      by_cases abandoned : hub.abandons id event
      · exact ⟨[], event, history, rfl, abandoned⟩
      · have still : (hub.react event).registry.engines[id]? = none →
            (hub.react event).ledger.Cleared id := by
          intro gone
          cases absence_react orderly enough.head staying.head gone with
          | already before kept => exact kept (idle before)
          | swept record found active now sweeps cleared => exact cleared
          | withdrawn record found pending ledger =>
              intro other outstanding
              have same : (hub.react event).ledger = hub.ledger := ledger
              rw [same] at outstanding
              exact abandoned ⟨⟨⟨record, found, pending⟩, gone⟩, other, outstanding⟩
        rcases inductionHypothesis (orderly_react orderly enough.head) (enough.tail orderly)
          staying.tail still absent outstanding with ⟨earlier, other, later, rfl, abandoned⟩
        exact ⟨event :: earlier, other, later, rfl, abandoned⟩

/-- As long as no engine asks to leave, every engine that goes after all either
waited, and its tasks are left as they are, or was given up, and its tasks are
completed.  So tasks are pending on engines that are there at all times exactly
if none is pending on an engine that waits when it is withdrawn, and each engine
that is missed was withdrawn in that way. -/
theorem attended_iff {start : Hub} (attached : start.IsAttached)
    (few : start.admissions history < UInt32.size) (staying : start.DismissesNobody history) :
    ((∀ past, past <+: history → (start.run past).Attended) ↔
      ∀ earlier event later, history = earlier ++ event :: later →
        ∀ id, ¬ (start.run earlier).abandons id event) ∧
    (∀ past, past <+: history → ∀ id task, (start.run past).ledger.IsOutstanding id task →
      (start.run past).registry.engines[id]? = none →
        ∃ earlier event later, past = earlier ++ event :: later ∧
          (start.run earlier).abandons id event) ∧
    ∀ earlier event later, history = earlier ++ event :: later →
      ∀ id, ((start.run earlier).react event).registry.engines[id]? = none →
        (start.run earlier).core.Absence ((start.run earlier).react event).core id := by
  have enough := attached.hasRoomFor few
  have orderly := attached.orderly
  have missed : ∀ past, past <+: history → ∀ id task,
      (start.run past).ledger.IsOutstanding id task →
      (start.run past).registry.engines[id]? = none →
        ∃ earlier event later, past = earlier ++ event :: later ∧
          (start.run earlier).abandons id event := by
    rintro past ⟨later, rfl⟩ id task outstanding absent
    have idle : start.ledger.Cleared id := by
      rcases attached with ⟨config, engineAddresses, clientAddresses, now, rfl⟩
      rintro task ⟨pending, _⟩
      exact absurd pending Std.ExtTreeSet.not_mem_empty
    exact exists_abandonment orderly enough.past staying.past (fun _ => idle) absent outstanding
  refine ⟨⟨?_, ?_⟩, missed, ?_⟩
  · rintro attended earlier event later rfl id ⟨gone, task, outstanding⟩
    have middle := orderly_run orderly enough.past
    have room := (enough.future orderly).head
    have unasked := staying earlier event later rfl
    have still := isOutstanding_of_withdraws middle room unasked gone outstanding
    have present := attended (earlier ++ [event]) ⟨later, by simp⟩ id task
    rw [run_append] at present
    have absent : ((start.run earlier).react event).registry.engines[id]? = none := gone.2
    rw [run_cons, run_nil, absent] at present
    exact Bool.false_ne_true (present still)
  · rintro kept past ⟨future, rfl⟩ id task outstanding
    cases absent : (start.run past).registry.engines[id]? with
    | some record => rfl
    | none =>
        rcases missed past (List.prefix_append past future) id task outstanding absent with
          ⟨earlier, event, later, rfl, abandoned⟩
        exact absurd abandoned (kept earlier event (later ++ future) (by simp) id)
  · rintro earlier event later rfl id absent
    have middle := orderly_run orderly enough.past
    have room := (enough.future orderly).head
    exact absence_react middle room (staying earlier event later rfl) absent

/-- An engine is given a task and falls silent for two rounds; when its timer has
had its turn it is not there. -/
theorem attended_iff_of_silence :
    let start := attached {} default default 0
    let past : List Event :=
      [.registration (.ofText "a") ⟨"heart-a", "queue-a", "a", []⟩,
       .echo "heart-a" start.monitor.currentPing, .beat,
       .traffic (.taskRequest .immediate ⟨"task", "client", some "queue-a", none⟩ .empty),
       .beat, .beat]
    start.IsAttached ∧ start.admissions (past ++ [.timer 5]) < UInt32.size ∧
      start.DismissesNobody (past ++ [.timer 5]) ∧
      ((start.run past).registry.engines[(0 : EngineId)]?).isSome ∧
      (start.run past).core.Absence ((start.run past).react (.timer 5)).core 0 := by
  intro start past
  have attached : start.IsAttached := ⟨_, _, _, _, rfl⟩
  have few : start.admissions (past ++ [.timer 5]) < UInt32.size := by decide +kernel
  have staying : start.DismissesNobody (past ++ [.timer 5]) :=
    dismissesNobody_of_unasked (by decide +kernel)
  have present : ((start.run past).registry.engines[(0 : EngineId)]?).isSome = true := by
    decide +kernel
  have absent : (((start.run past).react (.timer 5)).registry.engines[(0 : EngineId)]?).isNone =
      true := by decide +kernel
  -- What is known of the history now suffices; it need not be run again.
  clear_value start past
  rcases attended_iff attached few staying with ⟨_, _, absences⟩
  exact ⟨attached, few, staying, present,
    absences past (.timer 5) [] rfl 0 (Option.isNone_iff_eq_none.mp absent)⟩

/-- An engine registers and is given a task before its heart is seen, and its
heart is never seen.  When its timer has had its turn the task is pending on an
engine that is not there, although none has asked to leave. -/
theorem not_attended_of_purge :
    let start := attached {} default default 0
    let history : List Event :=
      [.registration (.ofText "a") ⟨"heart-a", "queue-a", "a", []⟩,
       .traffic (.taskRequest .immediate ⟨"task", "client", some "queue-a", none⟩ .empty),
       .elapse (.ofMillis 2000), .timer 0, .elapse (.ofMillis 2000), .timer 0,
       .elapse (.ofMillis 1000), .timer 0]
    start.IsAttached ∧ start.admissions history < UInt32.size ∧ start.DismissesNobody history ∧
      ¬ (start.run history).Attended := by
  intro start history
  have attached : start.IsAttached := ⟨_, _, _, _, rfl⟩
  have few : start.admissions history < UInt32.size := by decide +kernel
  have staying : start.DismissesNobody history := dismissesNobody_of_unasked (by decide +kernel)
  have pending : (start.run history).ledger.pending.contains "task" = true := by decide +kernel
  have bound : (start.run history).ledger.engineOf "task" = some 0 := by decide +kernel
  have absent : ((start.run history).registry.engines[(0 : EngineId)]?).isSome = false := by
    decide +kernel
  clear_value start history
  refine ⟨attached, few, staying, ?_⟩
  intro attended
  have present := attended 0 "task" ⟨Std.ExtTreeSet.contains_iff_mem.mp pending, bound⟩
  rw [absent] at present
  contradiction

end Hub

end ClusterHub

import ClusterHub.Proofs.Hub.Turns

/-!
# Notices of membership

Over a whole history an engine is announced once when it becomes active, if it
ever does, and once when it departs: when its heart fails, or when it leaves on
request.  There is one exception.  An engine that was given up is kept for its
time of grace, and if it leaves on request within that time it is announced as
having left once more.
-/

namespace ClusterHub

/-- Whether an engine is announced not at all, as having joined, or as having
joined and then left. -/
def Notice.WellBracketed (said : List Notice) : Prop :=
  said = [] ∨ ∃ engine, said = [.joined engine] ∨ said = [.joined engine, .left engine]

namespace Hub

variable {hub : Hub} {event : Event} {history : List Event} {id : EngineId}
  {engine : EngineNotice} {said : List Notice}

/-- What a history broadcasts of an engine. -/
def allNoticesOf (hub : Hub) (id : EngineId) : List Event → List Notice
  | [] => []
  | event :: history => hub.noticesOf id event ++ (hub.react event).allNoticesOf id history

/-- Whether the heart of an engine fails, or the engine leaves on request. -/
def departs (id : EngineId) (hub : Hub) (event : Event) : Prop :=
  hub.losesHeart id event ∨ hub.leaves id event

/-- Whether an engine leaves on request that was given up before. -/
def leavesLate (id : EngineId) (hub : Hub) (event : Event) : Prop :=
  hub.leaves id event ∧ ∃ record, hub.registry.engines[id]? = some record ∧
    hub.registry.isDead record.queue = true

/-- Leaving late is departing. -/
theorem happens_departs_of_late (late : hub.happens (leavesLate id) history) :
    hub.happens (departs id) history :=
  happens_mono (fun _ _ late => Or.inr late.1) late

/-- Only active engines depart. -/
theorem exists_standing_of_departs (orderly : hub.Orderly) (departs : departs id hub event) :
    ∃ engine, hub.registry.standing id = .member engine ∨
      hub.registry.standing id = .lost engine := by
  have active : ∃ record, hub.registry.engines[id]? = some record ∧ record.state = .active := by
    rcases departs with ⟨_, record, found, failed⟩ | ⟨_, _, record, _, _, found, active⟩
    · cases state : record.state with
      | active => exact ⟨record, found, state⟩
      | pending => exact absurd failed (not_mem_failures_of_pending orderly found state)
    · exact ⟨record, found, active⟩
  rcases active with ⟨record, found, active⟩
  exact ⟨record.notice, Registry.standing_of_active found active⟩

theorem leavesLate_iff : leavesLate id hub event ↔
    hub.leaves id event ∧ ∃ engine, hub.registry.standing id = .lost engine := by
  refine and_congr_right fun leaving => ?_
  rcases leaving with ⟨_, _, record, _, _, found, active⟩
  constructor
  · rintro ⟨other, otherFound, dead⟩
    cases found.symm.trans otherFound
    exact ⟨_, (Registry.Stands.lost record found active (Registry.isDead_iff.mp dead)).standing_eq⟩
  · rintro ⟨engine, lost⟩
    cases Registry.standing_eq_iff.mp lost with
    | lost other otherFound _ dead => exact ⟨other, otherFound, Registry.isDead_iff.mpr dead⟩

theorem hasActive_of_standing (member : hub.registry.standing id = .member engine) :
    hub.hasActive id := by
  cases Registry.standing_eq_iff.mp member with
  | member record found active spared => exact ⟨record, found, active⟩

theorem not_hasActive_of_standing
    (new : hub.registry.standing id = .absent ∨ hub.registry.standing id = .waiting) :
    ¬ hub.hasActive id := by
  rintro ⟨record, found, active⟩
  rw [Registry.standing_eq_iff, Registry.standing_eq_iff] at new
  rcases new with absent | waiting
  · cases absent with
    | absent absent =>
        rw [found] at absent
        contradiction
  · cases waiting with
    | waiting other otherFound pending =>
        cases found.symm.trans otherFound
        rw [active] at pending
        contradiction

/-- An engine that is not there any more has gone for good. -/
theorem gone_of_standing (orderly : hub.Orderly) (room : hub.HasRoom event)
    (before : hub.registry.standing id ≠ .absent)
    (after : (hub.react event).registry.standing id = .absent) :
    (hub.react event).core.Gone id := by
  cases Registry.standing_eq_iff.mp after with
  | absent absent =>
      refine ⟨absent, ?_⟩
      cases found : hub.registry.engines[id]? with
      | none => exact absurd (Registry.standing_of_absent found) before
      | some record =>
          have bound := orderly.consistent.fresh found
          have next := toNat_nextId_react orderly room
          rw [UInt32.lt_iff_toNat_lt] at bound ⊢
          change id.toNat < (hub.react event).registry.nextId.toNat
          omega

/-! ## What follows -/

/-- Nothing is broadcast of an engine that has gone. -/
theorem silent_of_gone (orderly : hub.Orderly) (enough : hub.HasRoomFor history)
    (gone : hub.core.Gone id) :
    hub.allNoticesOf id history = [] ∧ ¬ hub.happens (departs id) history := by
  induction history generalizing hub with
  | nil => exact ⟨rfl, not_happens_nil hub _⟩
  | cons event history inductionHypothesis =>
      have next := orderly_react orderly enough.head
      have still := (steps_react orderly enough.head).gone orderly.coherent gone
      rcases inductionHypothesis next (enough.tail orderly) still with ⟨silent, staying⟩
      have before : hub.registry.standing id = .absent := Registry.standing_of_absent gone.1
      have after : (hub.react event).registry.standing id = .absent :=
        Registry.standing_of_absent still.1
      have turn := turns_react orderly enough.head id
      rw [Turns, before, after] at turn
      constructor
      · rw [allNoticesOf, silent, List.append_nil]
        generalize hub.noticesOf id event = said at turn
        cases turn with
        | stays => rfl
        | leaves place engine asks old =>
            rcases old with old | old <;> contradiction
      · rw [happens_cons, not_or]
        refine ⟨fun departs => ?_, staying⟩
        rcases exists_standing_of_departs orderly departs with ⟨engine, old⟩
        rw [before] at old
        rcases old with old | old <;> contradiction

theorem silent_of_left (orderly : hub.Orderly) (enough : hub.HasRoomFor (event :: history))
    (before : hub.registry.standing id ≠ .absent)
    (after : (hub.react event).registry.standing id = .absent) :
    (hub.react event).allNoticesOf id history = [] ∧
      ¬ (hub.react event).happens (departs id) history :=
  silent_of_gone (orderly_react orderly enough.head) (enough.tail orderly)
    (gone_of_standing orderly enough.head before after)

/-- An engine that was given up is announced once more if it leaves on request. -/
theorem sequel_of_lost (orderly : hub.Orderly) (enough : hub.HasRoomFor history)
    (lost : hub.registry.standing id = .lost engine) :
    hub.allNoticesOf id history = [] ∧ ¬ hub.happens (leavesLate id) history ∨
      hub.allNoticesOf id history = [.left engine] ∧ hub.happens (leavesLate id) history := by
  induction history generalizing hub with
  | nil => exact Or.inl ⟨rfl, not_happens_nil hub _⟩
  | cons event history inductionHypothesis =>
      have present : hub.registry.standing id ≠ .absent := by
        rw [lost]
        exact nofun
      have left := silent_of_left orderly enough present
      have turn := turns_react orderly enough.head id
      rw [Turns, lost] at turn
      rw [allNoticesOf, happens_cons]
      generalize hub.noticesOf id event = said at turn ⊢
      generalize after : (hub.react event).registry.standing id = place at turn left
      cases turn with
      | stays place unasked beating =>
          have timely : ¬ leavesLate id hub event := fun late => unasked late.1
          rcases inductionHypothesis (orderly_react orderly enough.head) (enough.tail orderly) after
            with ⟨silent, never⟩ | ⟨again, late⟩
          · exact Or.inl ⟨silent, not_or.mpr ⟨timely, never⟩⟩
          · exact Or.inr ⟨again, Or.inr late⟩
      | swept engine unasked =>
          rcases left rfl with ⟨silent, staying⟩
          refine Or.inl ⟨silent, not_or.mpr ⟨fun late => unasked late.1, fun late => ?_⟩⟩
          exact staying (happens_departs_of_late late)
      | leaves place other asks old =>
          rcases left rfl with ⟨silent, _⟩
          have late : leavesLate id hub event := leavesLate_iff.mpr ⟨asks, engine, lost⟩
          rcases old with old | old
          · contradiction
          · cases old
            exact Or.inr ⟨by rw [silent]; rfl, Or.inl late⟩
      | joins place other new => rcases new with new | new <;> contradiction

/-- How an active engine parts, and what is broadcast then. -/
inductive Parting (hub : Hub) (id : EngineId) (history : List Event) (engine : EngineNotice) :
    List Notice → Prop
  | stays (staying : ¬ hub.happens (departs id) history) : Parting hub id history engine []
  | once (departs : hub.happens (departs id) history)
      (timely : ¬ hub.happens (leavesLate id) history) :
      Parting hub id history engine [.left engine]
  | twice (late : hub.happens (leavesLate id) history) :
      Parting hub id history engine [.left engine, .left engine]

theorem Parting.cons (parting : (hub.react event).Parting id history engine said)
    (staying : ¬ departs id hub event) : hub.Parting id (event :: history) engine said := by
  have timely : ¬ leavesLate id hub event := fun late => staying (Or.inr late.1)
  cases parting with
  | stays never =>
      apply Parting.stays
      rw [happens_cons, not_or]
      exact ⟨staying, never⟩
  | once departs never =>
      apply Parting.once
      · rw [happens_cons]
        exact Or.inr departs
      · rw [happens_cons, not_or]
        exact ⟨timely, never⟩
  | twice late =>
      apply Parting.twice
      rw [happens_cons]
      exact Or.inr late

theorem parting_of_member (orderly : hub.Orderly) (enough : hub.HasRoomFor history)
    (member : hub.registry.standing id = .member engine) :
    hub.Parting id history engine (hub.allNoticesOf id history) := by
  induction history generalizing hub with
  | nil => exact .stays (not_happens_nil hub _)
  | cons event history inductionHypothesis =>
      have next := orderly_react orderly enough.head
      have rest := enough.tail orderly
      have present : hub.registry.standing id ≠ .absent := by
        rw [member]
        exact nofun
      have left := silent_of_left orderly enough present
      have timely : ¬ leavesLate id hub event := by
        rw [leavesLate_iff, member]
        rintro ⟨_, other, lost⟩
        contradiction
      have turn := turns_react orderly enough.head id
      rw [Turns, member] at turn
      rw [allNoticesOf]
      generalize hub.noticesOf id event = said at turn ⊢
      generalize after : (hub.react event).registry.standing id = place at turn left
      cases turn with
      | stays place unasked beating =>
          have staying : ¬ departs id hub event := not_or.mpr ⟨beating engine rfl, unasked⟩
          exact (inductionHypothesis next rest after).cons staying
      | fails engine failing =>
          have departed : hub.happens (departs id) (event :: history) :=
            (happens_cons hub _ event history).mpr (Or.inl (Or.inl failing))
          rcases sequel_of_lost next rest after with ⟨silent, never⟩ | ⟨again, late⟩
          · rw [silent]
            refine .once departed ?_
            rw [happens_cons, not_or]
            exact ⟨timely, never⟩
          · rw [again]
            refine .twice ?_
            rw [happens_cons]
            exact Or.inr late
      | leaves place other asks old =>
          rcases left rfl with ⟨silent, staying⟩
          rcases old with old | old
          · cases old
            rw [silent]
            refine .once ((happens_cons hub _ event history).mpr (Or.inl (Or.inr asks))) ?_
            rw [happens_cons, not_or]
            exact ⟨timely, fun late => staying (happens_departs_of_late late)⟩
          · contradiction
      | joins place other new => rcases new with new | new <;> contradiction

/-- What becomes of an engine that is not active yet, and what is broadcast. -/
inductive Career (hub : Hub) (id : EngineId) (history : List Event) : List Notice → Prop
  | never (inactive : ¬ hub.everActive id history)
      (staying : ¬ hub.happens (departs id) history) : Career hub id history []
  | joined (engine : EngineNotice) (said : List Notice) (active : hub.everActive id history)
      (parting : hub.Parting id history engine said) :
      Career hub id history (.joined engine :: said)

theorem Career.cons (career : (hub.react event).Career id history said)
    (inactive : ¬ hub.hasActive id) (staying : ¬ departs id hub event) :
    hub.Career id (event :: history) said := by
  cases career with
  | never never stays =>
      apply Career.never
      · rw [everActive_cons, not_or]
        exact ⟨inactive, never⟩
      · rw [happens_cons, not_or]
        exact ⟨staying, stays⟩
  | joined engine said active parting =>
      exact .joined engine said (everActive_cons.mpr (Or.inr active)) (parting.cons staying)

theorem career_of_newcomer (orderly : hub.Orderly) (enough : hub.HasRoomFor history)
    (new : hub.registry.standing id = .absent ∨ hub.registry.standing id = .waiting) :
    hub.Career id history (hub.allNoticesOf id history) := by
  have inactive := not_hasActive_of_standing new
  induction history generalizing hub with
  | nil =>
      refine .never ?_ (not_happens_nil hub _)
      rw [everActive_nil]
      exact inactive
  | cons event history inductionHypothesis =>
      have next := orderly_react orderly enough.head
      have rest := enough.tail orderly
      have staying : ¬ departs id hub event := by
        intro departs
        rcases exists_standing_of_departs orderly departs with ⟨engine, old⟩
        rcases new with new | new <;> rw [new] at old <;>
          rcases old with old | old <;> contradiction
      have later : (hub.react event).registry.standing id = .absent ∨
          (hub.react event).registry.standing id = .waiting →
          hub.Career id (event :: history) ((hub.react event).allNoticesOf id history) :=
        fun after => (inductionHypothesis next rest after (not_hasActive_of_standing after)).cons
          inactive staying
      have turn := turns_react orderly enough.head id
      unfold Turns at turn
      rw [allNoticesOf]
      generalize hub.noticesOf id event = said at turn ⊢
      generalize before : hub.registry.standing id = place at turn new
      generalize after : (hub.react event).registry.standing id = place' at turn later
      cases turn with
      | stays => exact later new
      | registers => exact later (Or.inr rfl)
      | expires => exact later (Or.inl rfl)
      | joins place engine _ =>
          have active : (hub.react event).everActive id history :=
            ⟨[], List.nil_prefix, hasActive_of_standing after⟩
          refine .joined engine _ (everActive_cons.mpr (Or.inr active)) ?_
          exact (parting_of_member next rest after).cons staying
      | fails => rcases new with new | new <;> contradiction
      | swept => rcases new with new | new <;> contradiction
      | leaves place engine asks old => exact absurd (Or.inr asks) staying

/-! ## Whole histories -/

/-- What is broadcast of an engine in a history. -/
structure Announces (start : Hub) (history : List Event) (id : EngineId) : Prop where
  /-- The notices are well-bracketed unless the engine leaves after it was given up. -/
  bracketed : Notice.WellBracketed (start.allNoticesOf id history) ↔
    ¬ start.happens (leavesLate id) history
  /-- In that case it is announced once more that it has left. -/
  twice : start.happens (leavesLate id) history →
    ∃ engine, start.allNoticesOf id history = [.joined engine, .left engine, .left engine]
  joined : (∃ engine, .joined engine ∈ start.allNoticesOf id history) ↔
    start.everActive id history
  left : (∃ engine, .left engine ∈ start.allNoticesOf id history) ↔
    start.happens (departs id) history

/-- In every history, every engine is announced once when it becomes active and once
when its heart fails or it leaves on request, and no more than that, unless it leaves
on request after its heart has failed. -/
theorem announces_of_history {start : Hub} (attached : start.IsAttached)
    (few : start.admissions history < UInt32.size) (id : EngineId) :
    start.Announces history id := by
  have orderly := attached.orderly
  have new : start.registry.standing id = .absent := by
    rcases attached with ⟨config, engineAddresses, clientAddresses, now, rfl⟩
    exact Registry.standing_of_absent Std.ExtTreeMap.getElem?_empty
  have career := career_of_newcomer orderly (attached.hasRoomFor few) (Or.inl new)
  generalize noticed : start.allNoticesOf id history = said at career
  have late_departs := @happens_departs_of_late start history id
  cases career with
  | never inactive staying =>
      constructor <;> rw [noticed]
      case bracketed => exact iff_of_true (Or.inl rfl) fun late => staying (late_departs late)
      case twice => exact fun late => absurd (late_departs late) staying
      case joined => exact iff_of_false (by simp) inactive
      case left => exact iff_of_false (by simp) staying
  | joined engine said active parting =>
      have joins : ∃ other, Notice.joined other ∈ .joined engine :: said :=
        ⟨engine, List.mem_cons_self⟩
      cases parting with
      | stays staying =>
          constructor <;> rw [noticed]
          case bracketed =>
            exact iff_of_true (Or.inr ⟨engine, Or.inl rfl⟩) fun late => staying (late_departs late)
          case twice => exact fun late => absurd (late_departs late) staying
          case joined => exact iff_of_true joins active
          case left => exact iff_of_false (by simp) staying
      | once departs timely =>
          constructor <;> rw [noticed]
          case bracketed => exact iff_of_true (Or.inr ⟨engine, Or.inr rfl⟩) timely
          case twice => exact fun late => absurd late timely
          case joined => exact iff_of_true joins active
          case left => exact iff_of_true ⟨engine, by simp⟩ departs
      | twice late =>
          constructor <;> rw [noticed]
          case bracketed =>
            exact iff_of_false (by simp [Notice.WellBracketed]) (not_not_intro late)
          case twice => exact fun _ => ⟨engine, rfl⟩
          case joined => exact iff_of_true joins active
          case left => exact iff_of_true ⟨engine, by simp⟩ (late_departs late)

/-- The heart of an engine fails, and when the engine has been swept another one
registers under its names. -/
theorem announces_of_history_of_silence :
    let start := attached {} default default 0
    let history : List Event :=
      [.registration (.ofText "a") ⟨"heart-a", "queue-a", "a", []⟩,
       .echo "heart-a" start.monitor.currentPing, .beat, .beat, .beat, .timer 5,
       .registration (.ofText "a") ⟨"heart-a", "queue-a", "a", []⟩]
    let engine : EngineNotice := ⟨0, "queue-a", "heart-a", "a", []⟩
    start.IsAttached ∧ start.admissions history < UInt32.size ∧
      start.allNoticesOf 0 history = [.joined engine, .left engine] ∧
      start.Announces history 0 := by
  intro start history engine
  have attached : start.IsAttached := ⟨_, _, _, _, rfl⟩
  have few : start.admissions history < UInt32.size := by decide +kernel
  have noticed : start.allNoticesOf 0 history = [.joined engine, .left engine] := by
    decide +kernel
  -- What is known of the history now suffices; it need not be run again.
  clear_value start history
  exact ⟨attached, few, noticed, announces_of_history attached few 0⟩

/-- An engine's heart fails, and the engine asks to leave before it is swept.
Everybody is told twice that it has left. -/
theorem not_wellBracketed_of_late_request :
    let start := attached {} default default 0
    let history : List Event :=
      [.registration (.ofText "a") ⟨"heart-a", "queue-a", "a", []⟩,
       .echo "heart-a" start.monitor.currentPing, .beat, .beat, .beat,
       .unregistration (.ofText "a") "queue-a"]
    start.IsAttached ∧ start.admissions history < UInt32.size ∧
      ¬ Notice.WellBracketed (start.allNoticesOf 0 history) := by
  intro start history
  have attached : start.IsAttached := ⟨_, _, _, _, rfl⟩
  have few : start.admissions history < UInt32.size := by decide +kernel
  let engine : EngineNotice := ⟨0, "queue-a", "heart-a", "a", []⟩
  have noticed : start.allNoticesOf 0 history = [.joined engine, .left engine, .left engine] := by
    decide +kernel
  refine ⟨attached, few, ?_⟩
  rw [noticed]
  simp [Notice.WellBracketed]

end Hub

end ClusterHub

import ClusterHub.Heart.Beat
import ClusterHub.Proofs.Timer.Deed

/-!
# Calls of handlers

Handlers are told of a heart, one after the other.  They may have further handlers
registered, set timers and cancel some, and take their time.  What they leave alone are
the judgement of hearts and the pings; and the handlers that they have registered come to
stand behind one another in the order of the calls.
-/

namespace ClusterHub

namespace MonitorWorld

variable {η ρ α : Type}

/-- One thing that a handler may do. -/
inductive Deed (η ρ α : Type)
  /-- Have another handler of new hearts registered. -/
  | watchNew (handler : η)
  /-- Have another handler of failed hearts registered. -/
  | watchFailure (handler : η)
  /-- Give the monitor an echo. -/
  | echo (message : Message)
  /-- Change the owner's state. -/
  | change (update : ρ → ρ)
  | elapse (d : Duration)
  | cancel (handle : TimerHandle)
  | schedule (delay : Duration) (action : α)
  | scheduleAt (deadline : Instant) (action : α)

namespace Deed

/-- A deed as one that changes a world. -/
def plain : Deed η ρ α → World.Deed (MonitorState η ρ) α
  | .watchNew handler =>
      .change fun state => { state with monitor := state.monitor.addNewHandler handler }
  | .watchFailure handler =>
      .change fun state => { state with monitor := state.monitor.addFailureHandler handler }
  | .echo message =>
      .change fun state => { state with monitor := state.monitor.handlePong message }
  | .change update => .change fun state => { state with owner := update state.owner }
  | .elapse d => .elapse d
  | .cancel handle => .cancel handle
  | .schedule delay action => .schedule delay action
  | .scheduleAt deadline action => .scheduleAt deadline action

/-- The handler of new hearts that a deed has registered. -/
def onNew : Deed η ρ α → List η
  | .watchNew handler => [handler]
  | _ => []

/-- The handler of failed hearts that a deed has registered. -/
def onFailure : Deed η ρ α → List η
  | .watchFailure handler => [handler]
  | _ => []

end Deed

/-- What handlers do, given the heart that they are told of and the world that they
see. -/
abbrev Plan (η ρ α : Type) := η → String → MonitorWorld η ρ α → List (Deed η ρ α)

/-- Do what a handler's plan says. -/
def heed (plan : Plan η ρ α) (handler : η) (heart : String) (world : MonitorWorld η ρ α) :
    MonitorWorld η ρ α :=
  world.performAll ((plan handler heart world).map Deed.plain)

/-- A call of a handler. -/
structure Call (η ρ α : Type) where
  /-- Whether the heart has failed; otherwise it is new. -/
  failed : Bool
  heart : String
  handler : η
  /-- What the handler sees. -/
  world : MonitorWorld η ρ α

namespace Call

/-- Who is called, and of which heart he is told. -/
def subject (call : Call η ρ α) : Bool × String × η := (call.failed, call.heart, call.handler)

/-- What is done in a call. -/
def deeds (plan : Plan η ρ α) (call : Call η ρ α) : List (Deed η ρ α) :=
  plan call.handler call.heart call.world

/-- The world after a call. -/
def after (plan : Plan η ρ α) (call : Call η ρ α) : MonitorWorld η ρ α :=
  heed plan call.handler call.heart call.world

/-- The timers that are set in a call. -/
def sets (plan : Plan η ρ α) (call : Call η ρ α) : List (TimerHandle × α) :=
  call.world.setsAll ((call.deeds plan).map Deed.plain)

/-- The handlers of new hearts that are registered in a call, in their order. -/
def onNew (plan : Plan η ρ α) (call : Call η ρ α) : List η := (call.deeds plan).flatMap Deed.onNew

/-- The handlers of failed hearts that are registered in a call, in their order. -/
def onFailure (plan : Plan η ρ α) (call : Call η ρ α) : List η :=
  (call.deeds plan).flatMap Deed.onFailure

end Call

/-- The calls that lead from one world to another one.  Between them only failures are
counted. -/
inductive Tells (plan : Plan η ρ α) :
    MonitorWorld η ρ α → List (Call η ρ α) → MonitorWorld η ρ α → Prop
  | nil (world : MonitorWorld η ρ α) : Tells plan world [] world
  | count {world last : MonitorWorld η ρ α} {calls : List (Call η ρ α)}
      (rest : Tells plan (modifyMonitor world Monitor.countFailure) calls last) :
      Tells plan world calls last
  | call (call : Call η ρ α) {last : MonitorWorld η ρ α} {calls : List (Call η ρ α)}
      (rest : Tells plan (call.after plan) calls last) : Tells plan call.world (call :: calls) last

variable {plan : Plan η ρ α} {again : α} {world before middle after last : MonitorWorld η ρ α}
  {call : Call η ρ α} {calls earlier later : List (Call η ρ α)}

namespace Tells

theorem append (left : Tells plan world earlier middle) (right : Tells plan middle later last) :
    Tells plan world (earlier ++ later) last := by
  induction left with
  | nil => exact right
  | count _ inductionHypothesis => exact .count (inductionHypothesis right)
  | call call _ inductionHypothesis => exact .call call (inductionHypothesis right)

/-- The calls before some call, and those after it. -/
theorem split (tells : Tells plan world (earlier ++ call :: later) last) :
    Tells plan world earlier call.world ∧ Tells plan (call.after plan) later last := by
  generalize whole : earlier ++ call :: later = calls at tells
  induction tells generalizing earlier with
  | nil => simp at whole
  | count _ inductionHypothesis =>
      rcases inductionHypothesis whole with ⟨early, late⟩
      exact ⟨.count early, late⟩
  | call first rest inductionHypothesis =>
      cases earlier with
      | nil =>
          cases whole
          exact ⟨.nil _, rest⟩
      | cons other earlier =>
          cases whole
          rcases inductionHypothesis rfl with ⟨early, late⟩
          exact ⟨.call _ early, late⟩

/-- What is done for each of some items, one after the other. -/
theorem exists_foldl {κ : Type} {step : MonitorWorld η ρ α → κ → MonitorWorld η ρ α}
    {subjects : κ → List (Bool × String × η)}
    (each : ∀ world item, ∃ calls, Tells plan world calls (step world item) ∧
      calls.map Call.subject = subjects item) (items : List κ) (world : MonitorWorld η ρ α) :
    ∃ calls, Tells plan world calls (items.foldl step world) ∧
      calls.map Call.subject = items.flatMap subjects := by
  induction items generalizing world with
  | nil => exact ⟨[], .nil world, rfl⟩
  | cons item items inductionHypothesis =>
      rcases each world item with ⟨first, told, same⟩
      rcases inductionHypothesis (step world item) with ⟨rest, further, others⟩
      refine ⟨first ++ rest, told.append further, ?_⟩
      rw [List.map_append, same, others, List.flatMap_cons]

end Tells

theorem exists_callEach (plan : Plan η ρ α) (failed : Bool) (handlers : List η) (heart : String)
    (world : MonitorWorld η ρ α) :
    ∃ calls, Tells plan world calls (callEach (heed plan) handlers heart world) ∧
      calls.map Call.subject = handlers.map fun handler => (failed, heart, handler) := by
  rw [← List.flatMap_singleton' (handlers.map _), List.flatMap_map]
  refine Tells.exists_foldl (fun world handler => ?_) handlers world
  exact ⟨[⟨failed, heart, handler, world⟩], .call ⟨failed, heart, handler, world⟩ (.nil _), rfl⟩

theorem exists_announceNew (plan : Plan η ρ α) (handlers : List η) (hearts : List String)
    (world : MonitorWorld η ρ α) :
    ∃ calls, Tells plan world calls (announceNew (heed plan) handlers hearts world) ∧
      calls.map Call.subject = hearts.flatMap fun heart =>
        handlers.map fun handler => (false, heart, handler) :=
  Tells.exists_foldl (fun world heart => exists_callEach plan false handlers heart world) hearts
    world

theorem exists_announceFailures (plan : Plan η ρ α) (handlers : List η) (hearts : List String)
    (world : MonitorWorld η ρ α) :
    ∃ calls, Tells plan world calls (announceFailures (heed plan) handlers hearts world) ∧
      calls.map Call.subject = hearts.flatMap fun heart =>
        handlers.map fun handler => (true, heart, handler) := by
  refine Tells.exists_foldl (fun world heart => ?_) hearts world
  rcases exists_callEach plan true handlers heart (modifyMonitor world Monitor.countFailure) with
    ⟨calls, tells, subjects⟩
  exact ⟨calls, .count tells, subjects⟩

/-! ## What calls leave alone -/

/-- What becomes of a monitor when handlers are called: some are registered behind those
that it has, and it goes on with the same judgement and the same pings. -/
structure Grows (before : MonitorWorld η ρ α) (onNew onFailure : List η)
    (after : MonitorWorld η ρ α) : Prop where
  onNew : after.rest.monitor.onNew = before.rest.monitor.onNew ++ onNew
  onFailure : after.rest.monitor.onFailure = before.rest.monitor.onFailure ++ onFailure
  alive : ∀ heart, after.rest.monitor.isAlive heart = before.rest.monitor.isAlive heart
  clock : after.rest.monitor.clock = before.rest.monitor.clock
  pings : after.rest.pings = before.rest.pings

/-- Nothing is registered, and all else is as it was. -/
theorem Grows.of_same (onNew : after.rest.monitor.onNew = before.rest.monitor.onNew)
    (onFailure : after.rest.monitor.onFailure = before.rest.monitor.onFailure)
    (alive : after.rest.monitor.liveness.alive = before.rest.monitor.liveness.alive)
    (clock : after.rest.monitor.clock = before.rest.monitor.clock)
    (pings : after.rest.pings = before.rest.pings) : Grows before [] [] after where
  onNew := onNew.trans (List.append_nil _).symm
  onFailure := onFailure.trans (List.append_nil _).symm
  alive heart := congrArg (fun hearts => hearts.contains heart) alive
  clock := clock
  pings := pings

theorem Grows.refl (world : MonitorWorld η ρ α) : Grows world [] [] world :=
  .of_same rfl rfl rfl rfl rfl

theorem Grows.trans {onNew onFailure furtherNew furtherFailure : List η}
    (first : Grows before onNew onFailure middle)
    (second : Grows middle furtherNew furtherFailure after) :
    Grows before (onNew ++ furtherNew) (onFailure ++ furtherFailure) after where
  onNew := by rw [second.onNew, first.onNew, List.append_assoc]
  onFailure := by rw [second.onFailure, first.onFailure, List.append_assoc]
  alive heart := (second.alive heart).trans (first.alive heart)
  clock := second.clock.trans first.clock
  pings := second.pings.trans first.pings

theorem same_handlePong (m : Monitor η) (message : Message) :
    (m.handlePong message).onNew = m.onNew ∧ (m.handlePong message).onFailure = m.onFailure ∧
      (m.handlePong message).liveness.alive = m.liveness.alive ∧
      (m.handlePong message).clock = m.clock := by
  unfold Monitor.handlePong
  split
  · split <;> exact ⟨rfl, rfl, rfl, rfl⟩
  · exact ⟨rfl, rfl, rfl, rfl⟩

/-- An echo counts in the round that has begun, and changes nothing else. -/
theorem grows_echo (world : MonitorWorld η ρ α) (message : Message) :
    Grows world [] [] (modifyMonitor world fun m => m.handlePong message) := by
  rcases same_handlePong world.rest.monitor message with ⟨onNew, onFailure, alive, clock⟩
  exact .of_same onNew onFailure alive clock rfl

theorem grows_perform (world : MonitorWorld η ρ α) (deed : Deed η ρ α) :
    Grows world deed.onNew deed.onFailure (world.perform deed.plain) := by
  cases deed with
  | watchNew handler => exact ⟨rfl, (List.append_nil _).symm, fun _ => rfl, rfl, rfl⟩
  | watchFailure handler => exact ⟨(List.append_nil _).symm, rfl, fun _ => rfl, rfl, rfl⟩
  | echo message => exact grows_echo world message
  | change | elapse | cancel | schedule | scheduleAt => exact .of_same rfl rfl rfl rfl rfl

theorem grows_performAll (world : MonitorWorld η ρ α) (deeds : List (Deed η ρ α)) :
    Grows world (deeds.flatMap Deed.onNew) (deeds.flatMap Deed.onFailure)
      (world.performAll (deeds.map Deed.plain)) := by
  induction deeds generalizing world with
  | nil => exact .refl world
  | cons deed deeds inductionHypothesis =>
      exact (grows_perform world deed).trans (inductionHypothesis (world.perform deed.plain))

theorem Call.grows (plan : Plan η ρ α) (call : Call η ρ α) :
    Grows call.world (call.onNew plan) (call.onFailure plan) (call.after plan) :=
  grows_performAll call.world (call.deeds plan)

theorem Call.issued_le (plan : Plan η ρ α) (call : Call η ρ α) :
    call.world.timers.issued ≤ (call.after plan).timers.issued :=
  (World.extends_performAll call.world _).issued

namespace Tells

theorem grows (tells : Tells plan world calls last) :
    Grows world (calls.flatMap (Call.onNew plan)) (calls.flatMap (Call.onFailure plan)) last := by
  induction tells with
  | nil => exact .refl _
  | @count world _ _ _ inductionHypothesis =>
      have counted : Grows world [] [] (modifyMonitor world Monitor.countFailure) :=
        .of_same rfl rfl rfl rfl rfl
      exact counted.trans inductionHypothesis
  | call call _ inductionHypothesis => exact (call.grows plan).trans inductionHypothesis

theorem issued_le (tells : Tells plan world calls last) :
    world.timers.issued ≤ last.timers.issued := by
  induction tells with
  | nil => exact Nat.le_refl _
  | count _ inductionHypothesis => exact inductionHypothesis
  | call call _ inductionHypothesis => exact Nat.le_trans (call.issued_le plan) inductionHypothesis

/-- What is in the queue after some calls: all that was, and what is set in them. -/
theorem tasks (tells : Tells plan world calls last) :
    (last.timers.entries.map TimerEntry.task).Perm
      (world.timers.entries.map TimerEntry.task ++ calls.flatMap (Call.sets plan)) := by
  induction tells with
  | nil => exact List.Perm.of_eq (List.append_nil _).symm
  | count _ inductionHypothesis => exact inductionHypothesis
  | call call _ inductionHypothesis =>
      refine inductionHypothesis.trans ?_
      rw [List.flatMap_cons, ← List.append_assoc]
      exact (World.tasks_performAll call.world _).append_right _

/-- The timers with old tickets are as the deeds leave them. -/
theorem upTo {horizon : Nat} (tells : Tells plan world calls last)
    (known : horizon ≤ world.timers.issued) :
    last.timers.upTo horizon = (world.timers.upTo horizon).map fun entry =>
      entry.afterAll (calls.flatMap fun call => (call.deeds plan).map Deed.plain) := by
  induction tells with
  | nil => exact (List.map_id _).symm
  | count _ inductionHypothesis => exact inductionHypothesis known
  | call call _ inductionHypothesis =>
      have still := Nat.le_trans known (call.issued_le plan)
      refine (inductionHypothesis still).trans ?_
      rw [Call.after, heed, World.upTo_performAll known, List.map_map]
      simp only [List.flatMap_cons, TimerEntry.afterAll_append]
      rfl

/-- The timers that are set in the calls have new tickets. -/
theorem lt_of_set (tells : Tells plan world calls last) :
    ∀ set ∈ calls.flatMap (Call.sets plan), world.timers.issued < set.1.ticket := by
  intro set member
  rcases List.mem_flatMap.mp member with ⟨call, called, here⟩
  rcases List.append_of_mem called with ⟨earlier, later, rfl⟩
  exact Nat.lt_of_le_of_lt tells.split.1.issued_le (World.lt_of_setsAll _ _ set here)

end Tells

end MonitorWorld

end ClusterHub

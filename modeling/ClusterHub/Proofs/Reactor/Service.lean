import ClusterHub.Proofs.Reactor.Visit
import ClusterHub.Proofs.Timer.Deed
import Mathlib.Data.List.Infix

/-!
# Iterations

An iteration does nothing if a stop is requested before it or while it waits.  Otherwise
each endpoint has its turn, and the timers that are due run.  So an endpoint that stays
registered has its messages dispatched in the order of their arrival, one in each
iteration that is not stopped, as long as there are any.
-/

namespace ClusterHub.Reactor

variable {σ ε α : Type} {handlers : Handlers σ ε α} {reactor next first last : Reactor σ ε α}
  {scene : Scene σ α} {inbox : InboxId} {endpoint : Endpoint ε} {visits : List (Visit σ ε α)}

/-- One iteration, given the scene when its wait is over.  Others may have sent messages
or requested a stop meanwhile. -/
def iterate (handlers : Handlers σ ε α) (waited : Option (Scene σ α)) (reactor : Reactor σ ε α) :
    Outcome × Reactor σ ε α :=
  if reactor.scene.rest.signal.requested then (.stopped, reactor)
  else match waited with
    | none => (.asleep, reactor)
    | some scene =>
        if scene.rest.signal.requested then (.stopped, { reactor with scene })
        else dispatch handlers { reactor with scene }

/-- The scene when a wait is over in which nobody else does anything. -/
def waitOut (timeout : Option Duration) (reactor : Reactor σ ε α) : Option (Scene σ α) :=
  if isReady reactor.endpoints reactor.scene then some reactor.scene
  else (waitLimit timeout (reactor.scene.timers.nextWait reactor.scene.now)).map
    reactor.scene.elapse

theorem poll_eq_iterate (handlers : Handlers σ ε α) (timeout : Option Duration)
    (reactor : Reactor σ ε α) :
    poll handlers timeout reactor = iterate handlers (waitOut timeout reactor) reactor := by
  unfold poll iterate waitOut
  split
  · rfl
  · next unasked =>
      split
      · exact (if_neg unasked).symm
      · cases waitLimit timeout (reactor.scene.timers.nextWait reactor.scene.now) with
        | none => rfl
        | some wait => exact (if_neg unasked).symm

/-- A wait in which nobody else does anything leaves all inboxes as they are. -/
theorem gains_waitOut {timeout : Option Duration} (waited : waitOut timeout reactor = some scene) :
    Scene.Gains inbox reactor.scene scene := by
  unfold waitOut at waited
  split at waited
  · cases waited
    exact .refl inbox _
  · rcases Option.map_eq_some_iff.mp waited with ⟨wait, _, rfl⟩
    exact .refl inbox _

/-- What an iteration comes to. -/
inductive Iteration (handlers : Handlers σ ε α) (reactor : Reactor σ ε α) :
    Option (Scene σ α) → Outcome × Reactor σ ε α → Prop
  | early (waited : Option (Scene σ α)) (asked : reactor.scene.rest.signal.requested = true) :
      Iteration handlers reactor waited (.stopped, reactor)
  | asleep (unasked : reactor.scene.rest.signal.requested = false) :
      Iteration handlers reactor none (.asleep, reactor)
  | late (scene : Scene σ α) (unasked : reactor.scene.rest.signal.requested = false)
      (asked : scene.rest.signal.requested = true) :
      Iteration handlers reactor (some scene) (.stopped, { reactor with scene })
  /-- Each endpoint has its turn, in the order of registration, and then the timers have
  theirs. -/
  | ran (scene : Scene σ α) (unasked : reactor.scene.rest.signal.requested = false)
      (still : scene.rest.signal.requested = false) {visits : List (Visit σ ε α)}
      {last : Scene σ α} (turns : visits.map Visit.endpoint = reactor.endpoints)
      (tours : Tours handlers scene visits last) :
      Iteration handlers reactor (some scene)
        (.ran (visits.countP fun visit => visit.taken.isSome)
          (last.fireDue (runAlarm handlers)).1,
        ⟨visits.map Visit.left, (last.fireDue (runAlarm handlers)).2⟩)

theorem iteration_iterate (handlers : Handlers σ ε α) (waited : Option (Scene σ α))
    (reactor : Reactor σ ε α) :
    Iteration handlers reactor waited (iterate handlers waited reactor) := by
  unfold iterate
  split
  · next asked => exact .early waited asked
  · next unasked =>
      have unasked := eq_false_of_ne_true unasked
      cases waited with
      | none => exact .asleep unasked
      | some scene =>
          dsimp only
          split
          · next asked => exact .late scene unasked asked
          · next still =>
              have still := eq_false_of_ne_true still
              rcases exists_tours handlers reactor.endpoints scene with
                ⟨visits, last, turns, tours, reads⟩
              rw [dispatch, reads]
              exact .ran scene unasked still turns tours

theorem gains_runAlarm (feed : handlers.Feed inbox) (alarm : Alarm α) (scene : Scene σ α) :
    Scene.Gains inbox scene (runAlarm handlers alarm scene) := by
  cases alarm with
  | deadline => exact .refl inbox _
  | own action => exact feed.timer action scene

theorem gains_fireUpTo (feed : handlers.Feed inbox) (due : Instant) (horizon fuel : Nat)
    (scene : Scene σ α) :
    Scene.Gains inbox scene (scene.fireUpTo (runAlarm handlers) due horizon fuel).2 := by
  induction fuel generalizing scene with
  | zero => exact .refl inbox _
  | succ fuel inductionHypothesis =>
      unfold World.fireUpTo
      cases entries : scene.timers.entries with
      | nil => exact .refl inbox _
      | cons entry rest =>
          simp only [World.popped_eq_dropFirst entries]
          split
          · split
            · exact (gains_runAlarm feed entry.action scene.dropFirst).trans (inductionHypothesis _)
            · exact inductionHypothesis scene.dropFirst
          · exact .refl inbox _

theorem gains_fireDue (feed : handlers.Feed inbox) (scene : Scene σ α) :
    Scene.Gains inbox scene (scene.fireDue (runAlarm handlers)).2 :=
  gains_fireUpTo feed _ _ _ scene

/-- Whether an endpoint is the only one that reads an inbox, and is closed only if that is
over. -/
structure Attends (inbox : InboxId) (endpoint : Endpoint ε) (reactor : Reactor σ ε α) : Prop where
  alone : (reactor.endpoints.filter fun other => other.inbox = inbox) = [endpoint]
  opened : inbox ∈ reactor.scene.rest.network.inboxes
  isOver : endpoint.closed = true → Network.IsOver inbox reactor.scene.rest.network

theorem Attends.gains (attends : Attends inbox endpoint reactor)
    (stays : (next.endpoints.filter fun other => other.inbox = inbox) =
      reactor.endpoints.filter fun other => other.inbox = inbox)
    (gains : Scene.Gains inbox reactor.scene next.scene) : Attends inbox endpoint next where
  alone := stays.trans attends.alone
  opened := gains.opened attends.opened
  isOver closed := gains.isOver (attends.isOver closed)

/-- What is done for an inbox over some time. -/
structure Service where
  /-- What is put into it. -/
  arrived : List Message := []
  /-- What is taken from it, for the callback of its endpoint. -/
  dispatched : List Message := []
  /-- How many iterations there are that are not stopped. -/
  iterations : Nat := 0

instance : Append Service where
  append past later :=
    ⟨past.arrived ++ later.arrived, past.dispatched ++ later.dispatched,
      past.iterations + later.iterations⟩

/-- How an inbox is served: from the messages that wait there to those that are left. -/
structure Served (service : Service) (waiting left : List Message) : Prop where
  /-- Messages leave in the order of their arrival; none is lost, and none comes twice. -/
  balance : waiting ++ service.arrived = service.dispatched ++ left
  /-- None waits for more iterations than its place in the inbox says. -/
  pace : waiting.take service.iterations <+: service.dispatched
  length : service.dispatched.length ≤ service.iterations

theorem Scene.Gains.served {before after : Scene σ α} (gains : Scene.Gains inbox before after) :
    Served ⟨arrivals inbox before after, [], 0⟩ (before.rest.network.waiting inbox)
      (after.rest.network.waiting inbox) where
  balance := gains.waiting_eq
  pace := List.nil_prefix
  length := Nat.le_refl 0

theorem Served.trans {past later : Service} {waiting middle left : List Message}
    (first : Served past waiting middle) (second : Served later middle left) :
    Served (past ++ later) waiting left := by
  have balance : waiting ++ (past.arrived ++ later.arrived) =
      (past.dispatched ++ later.dispatched) ++ left := by
    rw [← List.append_assoc, first.balance, List.append_assoc, second.balance,
      ← List.append_assoc]
  constructor
  case balance => exact balance
  case pace =>
    have whole : (past.dispatched ++ later.dispatched) <+:
        waiting ++ (past.arrived ++ later.arrived) := balance ▸ List.prefix_append _ _
    -- Both are prefixes of one list, so only their lengths matter.
    apply List.prefix_of_prefix_length_le _ whole
    · have firstBalance := congrArg List.length first.balance
      have firstPace := first.pace.length_le
      have secondPace := second.pace.length_le
      have firstLength := first.length
      change (waiting.take (past.iterations + later.iterations)).length ≤ _
      simp only [List.length_take, List.length_append] at *
      omega
    · exact (List.take_prefix _ _).trans (List.prefix_append _ _)
  case length =>
    change (past.dispatched ++ later.dispatched).length ≤ past.iterations + later.iterations
    rw [List.length_append]
    exact Nat.add_le_add first.length second.length

/-- What an iteration does for an inbox, given the turns of the endpoints and the scene after
them. -/
def serviceOf (handlers : Handlers σ ε α) (inbox : InboxId) (visits : List (Visit σ ε α))
    (last next : Scene σ α) : Service where
  arrived := visits.flatMap (Visit.puts handlers inbox) ++ arrivals inbox last next
  dispatched := takenFrom inbox visits
  iterations := 1

/-- The turn that the endpoint at an inbox has among those of the others. -/
structure TurnAt (handlers : Handlers σ ε α) (inbox : InboxId) (first : Scene σ α)
    (visits : List (Visit σ ε α)) (last : Scene σ α) (visit : Visit σ ε α) : Prop where
  own : visit.endpoint.inbox = inbox
  alone : (visits.filter fun visit => visit.endpoint.inbox = inbox) = [visit]
  arrives : Scene.Gains inbox first visit.scene
  leaves : Scene.Gains inbox (visit.after handlers) last
  serves : visit.Serves handlers

theorem Attends.exists_turnAt {last : Scene σ α} (feed : handlers.Feed inbox)
    (attends : Attends inbox endpoint { reactor with scene })
    (turns : visits.map Visit.endpoint = reactor.endpoints)
    (tours : Tours handlers scene visits last) :
    ∃ visit, TurnAt handlers inbox scene visits last visit := by
  have alone := attends.alone
  dsimp only at alone
  rw [← turns] at alone
  rcases exists_visit alone with ⟨before, visit, later, split, found, rfl, rfl, none, rest⟩
  have halves := tours
  rw [split] at halves
  rcases halves.split with ⟨past, future⟩
  have arrives := past.gains feed none
  have serves := visit.serves (arrives.opened attends.opened) feed
    fun closed => arrives.isOver (attends.isOver closed)
  exact ⟨visit, rfl, found, arrives, future.gains feed rest, serves⟩

section Turns

variable {last : Scene σ α} {visit : Visit σ ε α} (feed : handlers.Feed inbox)
  (turn : TurnAt handlers inbox scene visits last visit)
include feed turn

/-- After an iteration the endpoint still attends to its inbox. -/
theorem TurnAt.attends :
    Attends inbox visit.left ⟨visits.map Visit.left, (last.fireDue (runAlarm handlers)).2⟩ := by
  rcases turn with ⟨rfl, alone, _, leaves, serves⟩
  have later := leaves.trans (gains_fireDue feed last)
  constructor
  case alone =>
    simp only [List.filter_map, Function.comp_def, Visit.inbox_left, alone, List.map_singleton]
  case opened => exact later.opened serves.opened
  case isOver => exact fun closed => later.isOver (serves.isOver closed)

theorem TurnAt.served (tours : Tours handlers scene visits last) :
    Served (serviceOf handlers inbox visits last (last.fireDue (runAlarm handlers)).2)
      (scene.rest.network.waiting inbox)
      ((last.fireDue (runAlarm handlers)).2.rest.network.waiting inbox) := by
  rcases turn with ⟨rfl, alone, arrives, _, serves⟩
  have fires := gains_fireDue feed last
  have taken : takenFrom visit.endpoint.inbox visits = visit.waiting.take 1 := by
    rw [takenFrom, alone, List.flatMap_singleton, serves.taken]
  constructor
  case balance =>
    rw [serviceOf, ← List.append_assoc, tours.balance feed, List.append_assoc, fires.waiting_eq]
  case pace =>
    rw [serviceOf, taken]
    exact List.IsPrefix.take arrives.waiting 1
  case length =>
    rw [serviceOf, taken, List.length_take]
    exact Nat.min_le_left _ _

end Turns

/-! ## Iterations one after another -/

/-- Iterations of a loop, and whatever others do while it waits and between them, as far as
one inbox goes that stays registered. -/
inductive Polls (handlers : Handlers σ ε α) (inbox : InboxId) (first : Reactor σ ε α) :
    Service → Reactor σ ε α → Prop
  | start : Polls handlers inbox first {} first
  | stopped {service : Service} {reactor next : Reactor σ ε α} {waited : Option (Scene σ α)}
      (polls : Polls handlers inbox first service reactor)
      (gains : ∀ scene, waited = some scene → Scene.Gains inbox reactor.scene scene)
      (returned : iterate handlers waited reactor = (.stopped, next)) :
      Polls handlers inbox first
        (service ++ ⟨arrivals inbox reactor.scene next.scene, [], 0⟩) next
  | ran {service : Service} {messages timers : Nat} {reactor next : Reactor σ ε α}
      {scene last : Scene σ α} {visits : List (Visit σ ε α)}
      (polls : Polls handlers inbox first service reactor)
      (gains : Scene.Gains inbox reactor.scene scene)
      (returned : iterate handlers (some scene) reactor = (.ran messages timers, next))
      (turns : visits.map Visit.endpoint = reactor.endpoints)
      (tours : Tours handlers scene visits last) :
      Polls handlers inbox first
        (service ++ ⟨arrivals inbox reactor.scene scene, [], 0⟩ ++
          serviceOf handlers inbox visits last next.scene) next
  | others {service : Service} {reactor next : Reactor σ ε α}
      (polls : Polls handlers inbox first service reactor)
      (stays : (next.endpoints.filter fun other => other.inbox = inbox) =
        reactor.endpoints.filter fun other => other.inbox = inbox)
      (gains : Scene.Gains inbox reactor.scene next.scene) :
      Polls handlers inbox first
        (service ++ ⟨arrivals inbox reactor.scene next.scene, [], 0⟩) next

/-- How much an iteration adds to the number of those that are not stopped. -/
def Outcome.weight : Outcome → Nat
  | .ran .. => 1
  | .stopped | .asleep => 0

/-- After any iterations there may be another one, which counts unless it is stopped. -/
theorem Polls.exists_iterate {service : Service} {waited : Option (Scene σ α)}
    (polls : Polls handlers inbox first service reactor)
    (gains : ∀ scene, waited = some scene → Scene.Gains inbox reactor.scene scene)
    (awake : (iterate handlers waited reactor).1 ≠ .asleep) :
    ∃ whole : Service, Polls handlers inbox first whole (iterate handlers waited reactor).2 ∧
      whole.iterations = service.iterations + (iterate handlers waited reactor).1.weight := by
  have iteration := iteration_iterate handlers waited reactor
  generalize returned : iterate handlers waited reactor = result at iteration awake ⊢
  cases iteration with
  | early _ asked => exact ⟨_, polls.stopped gains returned, rfl⟩
  | asleep unasked => contradiction
  | late scene unasked asked => exact ⟨_, polls.stopped gains returned, rfl⟩
  | ran scene unasked still turns tours =>
      exact ⟨_, polls.ran (gains scene rfl) returned turns tours, rfl⟩

theorem Polls.served {service : Service} (polls : Polls handlers inbox first service last)
    (feed : handlers.Feed inbox) (attends : Attends inbox endpoint first) :
    (∃ endpoint, Attends inbox endpoint last) ∧
      Served service (first.scene.rest.network.waiting inbox)
        (last.scene.rest.network.waiting inbox) := by
  induction polls with
  | start => exact ⟨⟨endpoint, attends⟩, List.append_nil _, List.nil_prefix, Nat.le_refl 0⟩
  | @stopped _ reactor next waited polls gains returned inductionHypothesis =>
      rcases inductionHypothesis with ⟨⟨endpoint, attends⟩, served⟩
      have iteration := iteration_iterate handlers waited reactor
      rw [returned] at iteration
      cases iteration with
      | early _ asked =>
          have same : Scene.Gains inbox reactor.scene reactor.scene := .refl inbox _
          exact ⟨⟨endpoint, attends⟩, served.trans same.served⟩
      | late scene unasked asked =>
          have gains := gains scene rfl
          exact ⟨⟨endpoint, attends.gains rfl gains⟩, served.trans gains.served⟩
  | @ran _ _ _ reactor next scene last visits polls gains returned turns tours
      inductionHypothesis =>
      rcases inductionHypothesis with ⟨⟨endpoint, attends⟩, served⟩
      have iteration := iteration_iterate handlers (some scene) reactor
      rw [returned] at iteration
      cases iteration with
      | ran _ unasked still theirTurns theirTours =>
          rcases tours.unique theirTours (turns.trans theirTurns.symm) with ⟨rfl, rfl⟩
          have waited : Attends inbox endpoint { reactor with scene } := attends.gains rfl gains
          rcases waited.exists_turnAt feed turns tours with ⟨visit, turn⟩
          have iterated := turn.served feed tours
          exact ⟨⟨visit.left, turn.attends feed⟩, (served.trans gains.served).trans iterated⟩
  | others polls stays gains inductionHypothesis =>
      rcases inductionHypothesis with ⟨⟨endpoint, attends⟩, served⟩
      exact ⟨⟨endpoint, attends.gains stays gains⟩, served.trans gains.served⟩

/-- The endpoints of a loop have inboxes of their own, and are closed only once these are
empty and nobody can write to them. -/
structure Sound (reactor : Reactor σ ε α) : Prop where
  separate : reactor.endpoints.Pairwise fun a b => a.inbox ≠ b.inbox
  opened : ∀ endpoint ∈ reactor.endpoints, endpoint.inbox ∈ reactor.scene.rest.network.inboxes
  isOver : ∀ endpoint ∈ reactor.endpoints, endpoint.closed = true →
    Network.IsOver endpoint.inbox reactor.scene.rest.network

theorem sound_ofState (now : Instant) (network : Network) (state : σ) :
    (ofState now network state : Reactor σ ε α).Sound where
  separate := .nil
  opened := List.forall_mem_nil _
  isOver := List.forall_mem_nil _

/-- To register an endpoint with an inbox of its own. -/
theorem Sound.add {name : String} {action : ε} (sound : reactor.Sound)
    (own : ∀ endpoint ∈ reactor.endpoints, endpoint.inbox ≠ inbox)
    (opened : inbox ∈ reactor.scene.rest.network.inboxes)
    (added : reactor.add name inbox action = .ok next) : next.Sound := by
  unfold Reactor.add at added
  split at added
  · contradiction
  · cases added
    constructor
    case separate =>
      refine List.pairwise_append.mpr ⟨sound.separate, List.pairwise_singleton _ _, ?_⟩
      intro endpoint member other otherMember
      cases List.mem_singleton.mp otherMember
      exact own endpoint member
    case opened =>
      exact List.forall_mem_append.mpr ⟨sound.opened, List.forall_mem_singleton.mpr opened⟩
    case isOver =>
      exact List.forall_mem_append.mpr ⟨sound.isOver, List.forall_mem_singleton.mpr nofun⟩

theorem Sound.remove (sound : reactor.Sound) (name : String) : (reactor.remove name).2.Sound where
  separate := sound.separate.filter _
  opened endpoint member := sound.opened endpoint (List.mem_filter.mp member).1
  isOver endpoint member := sound.isOver endpoint (List.mem_filter.mp member).1

theorem Sound.attends (sound : reactor.Sound) (member : endpoint ∈ reactor.endpoints) :
    Attends endpoint.inbox endpoint reactor where
  alone := by
    rcases List.append_of_mem member with ⟨before, later, split⟩
    have separate := sound.separate
    rw [split, List.pairwise_append, List.pairwise_cons] at separate
    rcases separate with ⟨_, ⟨apart, _⟩, earlier⟩
    have none : (before.filter fun other => other.inbox = endpoint.inbox) = [] := by
      apply List.filter_eq_nil_iff.mpr
      intro other otherMember
      simpa using earlier other otherMember endpoint List.mem_cons_self
    have rest : (later.filter fun other => other.inbox = endpoint.inbox) = [] := by
      apply List.filter_eq_nil_iff.mpr
      intro other otherMember
      simpa using Ne.symm (apart other otherMember)
    rw [split, List.filter_append, none, List.filter_cons_of_pos (by simp), rest]
    rfl
  opened := sound.opened endpoint member
  isOver := sound.isOver endpoint member

/-- What others do while the loop waits. -/
theorem Sound.gains (sound : reactor.Sound) (gains : ∀ endpoint ∈ reactor.endpoints,
    Scene.Gains endpoint.inbox reactor.scene scene) : Sound { reactor with scene } where
  separate := sound.separate
  opened endpoint member := (gains endpoint member).opened (sound.opened endpoint member)
  isOver endpoint member closed :=
    (gains endpoint member).isOver (sound.isOver endpoint member closed)

theorem Sound.attends_left {last : Scene σ α} (sound : Sound { reactor with scene })
    (feed : ∀ endpoint ∈ reactor.endpoints, handlers.Feed endpoint.inbox)
    (turns : visits.map Visit.endpoint = reactor.endpoints)
    (tours : Tours handlers scene visits last) {visit : Visit σ ε α} (member : visit ∈ visits) :
    Attends visit.endpoint.inbox visit.left
      ⟨visits.map Visit.left, (last.fireDue (runAlarm handlers)).2⟩ := by
  have registered : visit.endpoint ∈ reactor.endpoints := turns ▸ List.mem_map_of_mem member
  have feed := feed visit.endpoint registered
  rcases (sound.attends registered).exists_turnAt feed turns tours with ⟨found, turn⟩
  have same : visit ∈ [found] := by
    rw [← turn.alone]
    exact List.mem_filter.mpr ⟨member, decide_eq_true rfl⟩
  cases List.mem_singleton.mp same
  exact turn.attends feed

theorem Sound.ran {last : Scene σ α} (sound : Sound { reactor with scene })
    (feed : ∀ endpoint ∈ reactor.endpoints, handlers.Feed endpoint.inbox)
    (turns : visits.map Visit.endpoint = reactor.endpoints)
    (tours : Tours handlers scene visits last) :
    Sound ⟨visits.map Visit.left, (last.fireDue (runAlarm handlers)).2⟩ := by
  have separate := sound.separate
  dsimp only at separate
  rw [← turns, List.pairwise_map] at separate
  constructor
  case separate =>
    rw [List.pairwise_map]
    simpa only [Visit.inbox_left] using separate
  case opened =>
    intro endpoint member
    rcases List.mem_map.mp member with ⟨visit, turn, rfl⟩
    rw [visit.inbox_left]
    exact (sound.attends_left feed turns tours turn).opened
  case isOver =>
    intro endpoint member
    rcases List.mem_map.mp member with ⟨visit, turn, rfl⟩
    rw [visit.inbox_left]
    exact (sound.attends_left feed turns tours turn).isOver

/-- If others leave the reading of the inboxes to the loop, no iteration closes an endpoint
for which there is, or could still be, a message. -/
theorem Sound.iterate {waited : Option (Scene σ α)} (sound : reactor.Sound)
    (feed : ∀ endpoint ∈ reactor.endpoints, handlers.Feed endpoint.inbox)
    (gains : ∀ scene, waited = some scene → ∀ endpoint ∈ reactor.endpoints,
      Scene.Gains endpoint.inbox reactor.scene scene) :
    (iterate handlers waited reactor).2.Sound := by
  have iteration := iteration_iterate handlers waited reactor
  generalize Reactor.iterate handlers waited reactor = result at iteration ⊢
  cases iteration with
  | early _ asked => exact sound
  | asleep unasked => exact sound
  | late scene unasked asked => exact sound.gains (gains scene rfl)
  | ran scene unasked still turns tours =>
      exact (sound.gains (gains scene rfl)).ran feed turns tours

/-- What a loop does for its endpoints. -/
structure Services (handlers : Handlers σ ε α) (reactor : Reactor σ ε α) : Prop where
  /-- Iterations in whose waits nobody else does anything are the ones that a loop makes. -/
  poll : ∀ timeout,
    poll handlers timeout reactor = iterate handlers (waitOut timeout reactor) reactor
  quiet : ∀ inbox timeout scene, waitOut timeout reactor = some scene →
    Scene.Gains inbox reactor.scene scene
  iteration : ∀ waited, Iteration handlers reactor waited (iterate handlers waited reactor)
  reads : ∀ (visit : Visit σ ε α) (message : Message), visit.taken = some message →
    visit.Reads message
  /-- Endpoints are closed only once their inboxes are over. -/
  sound : ∀ waited, (∀ scene, waited = some scene → ∀ endpoint ∈ reactor.endpoints,
      Scene.Gains endpoint.inbox reactor.scene scene) →
    (iterate handlers waited reactor).2.Sound
  /-- Every iteration that comes back is one of those that serve an inbox. -/
  goesOn : ∀ inbox service last waited, Polls handlers inbox reactor service last →
    (∀ scene, waited = some scene → Scene.Gains inbox last.scene scene) →
      (iterate handlers waited last).1 ≠ .asleep →
        ∃ whole : Service, Polls handlers inbox reactor whole (iterate handlers waited last).2 ∧
          whole.iterations = service.iterations + (iterate handlers waited last).1.weight
  served : ∀ endpoint ∈ reactor.endpoints, ∀ service last,
    Polls handlers endpoint.inbox reactor service last →
      Served service (reactor.scene.rest.network.waiting endpoint.inbox)
        (last.scene.rest.network.waiting endpoint.inbox)

/-- A loop whose endpoints have inboxes of their own serves each of them: in an iteration
that is not stopped every endpoint in its turn has its oldest message dispatched, and over
any iterations messages are dispatched in the order of their arrival, one at a time. -/
theorem services_of_sound (sound : reactor.Sound)
    (feed : ∀ endpoint ∈ reactor.endpoints, handlers.Feed endpoint.inbox) :
    Services handlers reactor where
  poll timeout := poll_eq_iterate handlers timeout reactor
  quiet _ _ _ waited := gains_waitOut waited
  iteration waited := iteration_iterate handlers waited reactor
  reads _ _ taken := Visit.reads_of_taken taken
  sound _ gains := sound.iterate feed gains
  goesOn _ _ _ _ polls gains awake := polls.exists_iterate gains awake
  served endpoint member _ _ polls :=
    (polls.served (feed endpoint member) (sound.attends member)).2

/-- Callbacks of a loop: one passes messages on, and the other one asks it to stop. -/
def relay : Handlers Unit (Option Dealer) Unit where
  message
    | some dealer, message, scene =>
        Scene.modifyNetwork scene fun network => (dealer.send network message).2
    | none, _, scene => Scene.requestStop scene
  timer _ scene := scene

theorem feed_relay (inbox : InboxId) : relay.Feed inbox where
  message
    | some dealer, message, scene => Network.gains_post scene.rest.network inbox dealer message
    | none, _, _ => .refl inbox _
  timer _ _ := .refl inbox _

/-- Two inboxes: two messages wait in the first one, and the second one is bound. -/
def relayNetwork : Network where
  slots := (∅ : Std.ExtTreeMap String Slot).insert "a" { bound := some 1 }
  inboxes := ((∅ : Std.ExtTreeMap InboxId Inbox).insert 0
    ⟨[Message.empty.pushText "1", Message.empty.pushText "2"], true⟩).insert 1 ⟨[], true⟩

/-- A loop that passes messages on to another endpoint of its own. -/
def relayed : Reactor Unit (Option Dealer) Unit where
  endpoints := [⟨"in", 0, some ⟨.ofText "x", 2, "a"⟩, false⟩, ⟨"out", 1, none, false⟩]
  scene := { now := 0, timers := {}, rest := { network := relayNetwork, state := () } }

theorem sound_relayed : relayed.Sound where
  separate := by decide
  opened := by decide +kernel
  isOver := by
    have areOpen : ∀ endpoint ∈ relayed.endpoints, endpoint.closed = false := by decide
    exact fun endpoint member closed => absurd closed (ne_true_of_eq_false (areOpen endpoint member))

/-- The first message is passed on and read again in one iteration, which the second endpoint
makes the last one. -/
theorem services_of_relayed :
    relayed.Sound ∧ (∀ endpoint ∈ relayed.endpoints, relay.Feed endpoint.inbox) ∧
      (poll relay none relayed).1 = .ran 2 0 ∧
      (poll relay none (poll relay none relayed).2).1 = .stopped ∧ Services relay relayed := by
  refine ⟨sound_relayed, fun endpoint _ => feed_relay endpoint.inbox, ?_, ?_, ?_⟩
  · decide +kernel
  · decide +kernel
  · exact services_of_sound sound_relayed fun endpoint _ => feed_relay endpoint.inbox

end ClusterHub.Reactor

import ClusterHub.Proofs.Transport.Gain
import ClusterHub.Reactor.Basic

/-!
# Turns of endpoints

In an iteration each endpoint has its turn, in the order of registration.  An open endpoint
with messages has the oldest one taken, be it from a callback earlier in the iteration;
one that finds nothing, and nobody left who could write to it, is closed.
-/

namespace ClusterHub.Reactor

variable {σ ε α : Type}

/-- The turn of an endpoint. -/
structure Visit (σ ε α : Type) where
  endpoint : Endpoint ε
  /-- The scene when the endpoint has its turn. -/
  scene : Scene σ α

namespace Visit

/-- The messages that wait for the endpoint. -/
def waiting (visit : Visit σ ε α) : List Message :=
  visit.scene.rest.network.waiting visit.endpoint.inbox

/-- The message that is taken: the oldest one, if the endpoint is open. -/
def taken (visit : Visit σ ε α) : Option Message :=
  if visit.endpoint.closed then none else visit.waiting.head?

/-- The scene without that message, which its callback is given. -/
def read (visit : Visit σ ε α) : Scene σ α :=
  match visit.taken with
  | some _ =>
      Scene.modifyNetwork visit.scene fun network => (network.tryReceive visit.endpoint.inbox).2
  | none => visit.scene

/-- The scene after the turn. -/
def after (handlers : Handlers σ ε α) (visit : Visit σ ε α) : Scene σ α :=
  match visit.taken with
  | some message => handlers.message visit.endpoint.action message visit.read
  | none => visit.scene

/-- The endpoint after its turn. -/
def left (visit : Visit σ ε α) : Endpoint ε :=
  if visit.endpoint.closed then visit.endpoint
  else match visit.scene.rest.network.receive visit.endpoint.inbox with
    | .closed => { visit.endpoint with closed := true }
    | _ => visit.endpoint

end Visit

/-- Turns that lead from one scene to another. -/
inductive Tours (handlers : Handlers σ ε α) : Scene σ α → List (Visit σ ε α) → Scene σ α → Prop
  | nil (scene : Scene σ α) : Tours handlers scene [] scene
  | cons (endpoint : Endpoint ε) (scene : Scene σ α) {visits : List (Visit σ ε α)}
      {last : Scene σ α} (rest : Tours handlers (Visit.after handlers ⟨endpoint, scene⟩) visits last) :
      Tours handlers scene (⟨endpoint, scene⟩ :: visits) last

namespace Visit

variable {visit : Visit σ ε α} {handlers : Handlers σ ε α} {message : Message}
  {network : Network}

theorem taken_of_closed (closed : visit.endpoint.closed = true) : visit.taken = none :=
  if_pos closed

theorem taken_of_message (isOpen : ¬ visit.endpoint.closed = true)
    (received : visit.scene.rest.network.receive visit.endpoint.inbox =
      .message message network) : visit.taken = some message := by
  rw [taken, if_neg isOpen, waiting, (Network.waiting_of_receive received).1]
  rfl

theorem waiting_eq_nil (idle : ∀ message network,
    visit.scene.rest.network.receive visit.endpoint.inbox ≠ .message message network) :
    visit.waiting = [] := by
  cases waits : visit.waiting with
  | nil => rfl
  | cons message rest =>
      rcases Network.receive_of_waiting waits with ⟨network, received⟩
      exact absurd received (idle message network)

theorem taken_of_empty (empty : visit.waiting = []) : visit.taken = none := by
  rw [taken, empty]
  exact ite_self none

theorem after_of_none (none : visit.taken = none) : visit.after handlers = visit.scene := by
  rw [after, none]

theorem read_of_none (none : visit.taken = none) : visit.read = visit.scene := by
  rw [read, none]

theorem read_of_message (isOpen : ¬ visit.endpoint.closed = true)
    (received : visit.scene.rest.network.receive visit.endpoint.inbox =
      .message message network) :
    visit.read = Scene.modifyNetwork visit.scene fun _ => network := by
  rw [read, taken_of_message isOpen received]
  simp only [Network.tryReceive, Scene.modifyNetwork, World.modifyRest, received]

theorem after_of_message (isOpen : ¬ visit.endpoint.closed = true)
    (received : visit.scene.rest.network.receive visit.endpoint.inbox =
      .message message network) :
    visit.after handlers = handlers.message visit.endpoint.action message
      (Scene.modifyNetwork visit.scene fun _ => network) := by
  rw [after, taken_of_message isOpen received, ← read_of_message isOpen received]

end Visit

/-- Reading from an endpoint and from others after it is its turn, and then theirs. -/
theorem readEach_cons (handlers : Handlers σ ε α) (visit : Visit σ ε α)
    (endpoints : List (Endpoint ε)) :
    readEach handlers (visit.endpoint :: endpoints) visit.scene =
      ((readEach handlers endpoints (visit.after handlers)).1 + visit.taken.isSome.toNat,
        visit.left :: (readEach handlers endpoints (visit.after handlers)).2.1,
        (readEach handlers endpoints (visit.after handlers)).2.2) := by
  rw [readEach, Visit.left]
  split
  · next closed =>
      have taken : visit.taken = none := Visit.taken_of_closed closed
      rw [Visit.after_of_none taken, taken]
      rfl
  · next isOpen =>
      cases received : visit.scene.rest.network.receive visit.endpoint.inbox with
      | message message network =>
          rw [Visit.after_of_message isOpen received, Visit.taken_of_message isOpen received]
          rfl
      | nothing | closed =>
          have taken : visit.taken = none :=
            Visit.taken_of_empty (Visit.waiting_eq_nil (by simp [received]))
          rw [Visit.after_of_none taken, taken]
          rfl

/-- What an iteration reads it reads in the turns of the endpoints. -/
theorem exists_tours (handlers : Handlers σ ε α) (endpoints : List (Endpoint ε))
    (scene : Scene σ α) :
    ∃ (visits : List (Visit σ ε α)) (last : Scene σ α),
      visits.map Visit.endpoint = endpoints ∧ Tours handlers scene visits last ∧
      readEach handlers endpoints scene =
        (visits.countP fun visit => visit.taken.isSome, visits.map Visit.left, last) := by
  induction endpoints generalizing scene with
  | nil => exact ⟨[], scene, rfl, .nil scene, rfl⟩
  | cons endpoint endpoints inductionHypothesis =>
      let visit : Visit σ ε α := ⟨endpoint, scene⟩
      rcases inductionHypothesis (visit.after handlers) with ⟨visits, last, rfl, tours, reads⟩
      refine ⟨visit :: visits, last, rfl, .cons endpoint scene tours, ?_⟩
      have first := readEach_cons handlers visit (visits.map Visit.endpoint)
      rw [reads] at first
      rw [first, List.countP_cons]
      cases visit.taken <;> rfl

/-- What is done to an inbox between two scenes by those who do not read it. -/
def Scene.Gains (inbox : InboxId) (before after : Scene σ α) : Prop :=
  Network.Gains inbox before.rest.network after.rest.network

/-- The callbacks of a loop leave the reading of an inbox to the loop. -/
structure Handlers.Feed (handlers : Handlers σ ε α) (inbox : InboxId) : Prop where
  message : ∀ action message scene,
    Scene.Gains inbox scene (handlers.message action message scene)
  timer : ∀ action scene, Scene.Gains inbox scene (handlers.timer action scene)

namespace Visit

/-- What is done with a message that is taken. -/
structure Reads (visit : Visit σ ε α) (message : Message) : Prop where
  isOpen : visit.endpoint.closed = false
  oldest : visit.waiting = message :: visit.read.rest.network.waiting visit.endpoint.inbox
  others : ∀ inbox, visit.endpoint.inbox ≠ inbox →
    visit.read.rest.network.waiting inbox = visit.scene.rest.network.waiting inbox

variable {visit : Visit σ ε α} {handlers : Handlers σ ε α} {message : Message} {inbox : InboxId}

theorem isOpen_of_taken (taken : visit.taken = some message) : visit.endpoint.closed = false := by
  apply eq_false_of_ne_true
  intro closed
  rw [taken_of_closed closed] at taken
  contradiction

theorem receive_of_taken (taken : visit.taken = some message) :
    visit.scene.rest.network.receive visit.endpoint.inbox =
      .message message visit.read.rest.network := by
  have isOpen := ne_true_of_eq_false (isOpen_of_taken taken)
  rw [Visit.taken, if_neg isOpen] at taken
  rcases List.head?_eq_some_iff.mp taken with ⟨rest, waits⟩
  rcases Network.receive_of_waiting waits with ⟨network, received⟩
  have first := (Network.waiting_of_receive received).1
  rw [show visit.scene.rest.network.waiting visit.endpoint.inbox = message :: rest from waits]
    at first
  cases first
  rw [read_of_message isOpen received]
  exact received

theorem reads_of_taken (taken : visit.taken = some message) : visit.Reads message where
  isOpen := isOpen_of_taken taken
  oldest := (Network.waiting_of_receive (receive_of_taken taken)).1
  others := (Network.waiting_of_receive (receive_of_taken taken)).2

/-- An endpoint is closed only once its inbox is empty and nobody can write to it. -/
theorem isOver_of_left (opened : visit.endpoint.inbox ∈ visit.scene.rest.network.inboxes)
    (isOpen : visit.endpoint.closed = false) (closed : visit.left.closed = true) :
    Network.IsOver visit.endpoint.inbox visit.scene.rest.network := by
  rw [left, if_neg (ne_true_of_eq_false isOpen)] at closed
  split at closed
  · next received =>
      exact ⟨waiting_eq_nil (by simp [received]), Network.hasWriter_of_closed opened received⟩
  · rw [isOpen] at closed
    contradiction

/-- Reading takes what is read, and nothing else, out of the inboxes. -/
theorem waiting_eq (visit : Visit σ ε α) (inbox : InboxId) :
    visit.scene.rest.network.waiting inbox =
      (if visit.endpoint.inbox = inbox then visit.taken.toList else []) ++
        visit.read.rest.network.waiting inbox := by
  cases taken : visit.taken with
  | none => rw [read_of_none taken, Option.toList_none, ite_self, List.nil_append]
  | some message =>
      have reads := reads_of_taken taken
      split
      · next own =>
          subst own
          exact reads.oldest
      · next other => exact (reads.others inbox other).symm

theorem gains_read (visit : Visit σ ε α) (apart : visit.endpoint.inbox ≠ inbox) :
    Scene.Gains inbox visit.scene visit.read := by
  cases taken : visit.taken with
  | none =>
      rw [read_of_none taken]
      exact .refl inbox _
  | some message => exact Network.gains_receive (receive_of_taken taken) apart

/-- What the callback of an endpoint does. -/
theorem gains_after (visit : Visit σ ε α) (feed : handlers.Feed inbox) :
    Scene.Gains inbox visit.read (visit.after handlers) := by
  cases taken : visit.taken with
  | none =>
      rw [read_of_none taken, after_of_none taken]
      exact .refl inbox _
  | some message =>
      rw [after, taken]
      exact feed.message _ _ _

theorem inbox_left (visit : Visit σ ε α) : visit.left.inbox = visit.endpoint.inbox := by
  unfold left
  split
  · rfl
  · split <;> rfl

/-- What the turn of an endpoint does for the inbox that it reads. -/
structure Serves (handlers : Handlers σ ε α) (visit : Visit σ ε α) : Prop where
  opened : visit.endpoint.inbox ∈ (visit.after handlers).rest.network.inboxes
  taken : visit.taken.toList = visit.waiting.take 1
  isOver : visit.left.closed = true →
    Network.IsOver visit.endpoint.inbox (visit.after handlers).rest.network

section Serves

variable (opened : visit.endpoint.inbox ∈ visit.scene.rest.network.inboxes)
include opened

theorem serves_of_nil (waits : visit.waiting = [])
    (spent : visit.endpoint.closed = true →
      Network.IsOver visit.endpoint.inbox visit.scene.rest.network) : visit.Serves handlers := by
  have taken : visit.taken = none := taken_of_empty waits
  have same : visit.after handlers = visit.scene := after_of_none taken
  constructor
  case opened =>
    rw [same]
    exact opened
  case taken =>
    rw [taken, waits]
    rfl
  case isOver =>
    intro closed
    rw [same]
    cases before : visit.endpoint.closed with
    | true => exact spent before
    | false => exact isOver_of_left opened before closed

theorem serves_of_cons {rest : List Message} (feed : handlers.Feed visit.endpoint.inbox)
    (waits : visit.waiting = message :: rest) (isOpen : visit.endpoint.closed = false) :
    visit.Serves handlers := by
  have taken : visit.taken = some message := by
    rw [Visit.taken, if_neg (ne_true_of_eq_false isOpen), waits]
    rfl
  constructor
  case opened =>
    have read := Network.samePlaces_receive (receive_of_taken taken)
    exact (visit.gains_after feed).opened ((read.opened _).mpr opened)
  case taken =>
    rw [taken, waits]
    rfl
  case isOver =>
    intro closed
    have empty : visit.waiting = [] := (isOver_of_left opened isOpen closed).waiting
    rw [waits] at empty
    contradiction

theorem serves (feed : handlers.Feed visit.endpoint.inbox)
    (spent : visit.endpoint.closed = true →
      Network.IsOver visit.endpoint.inbox visit.scene.rest.network) : visit.Serves handlers := by
  cases waits : visit.waiting with
  | nil => exact serves_of_nil opened waits spent
  | cons message rest =>
      apply serves_of_cons opened feed waits
      apply eq_false_of_ne_true
      intro closed
      have empty : visit.waiting = [] := (spent closed).waiting
      rw [waits] at empty
      contradiction

end Serves

end Visit

namespace Tours

variable {handlers : Handlers σ ε α} {first last : Scene σ α} {visit : Visit σ ε α}
  {visits before later : List (Visit σ ε α)} {inbox : InboxId}

theorem split (tours : Tours handlers first (before ++ visit :: later) last) :
    Tours handlers first before visit.scene ∧ Tours handlers (visit.after handlers) later last := by
  induction before generalizing first with
  | nil =>
      cases tours with
      | cons _ _ rest => exact ⟨.nil _, rest⟩
  | cons earlier before inductionHypothesis =>
      cases tours with
      | cons endpoint _ rest =>
          rcases inductionHypothesis rest with ⟨past, future⟩
          exact ⟨.cons endpoint first past, future⟩

/-- The turns of other endpoints. -/
theorem gains (tours : Tours handlers first visits last) (feed : handlers.Feed inbox)
    (apart : ∀ visit ∈ visits, visit.endpoint.inbox ≠ inbox) : Scene.Gains inbox first last := by
  induction tours with
  | nil scene => exact .refl inbox _
  | cons endpoint scene _ inductionHypothesis =>
      rcases List.forall_mem_cons.mp apart with ⟨here, others⟩
      let visit : Visit σ ε α := ⟨endpoint, scene⟩
      have turn := (visit.gains_read here).trans (visit.gains_after feed)
      exact turn.trans (inductionHypothesis others)

/-- The scene and the endpoints determine the turns. -/
theorem unique {others : List (Visit σ ε α)} {otherLast : Scene σ α}
    (tours : Tours handlers first visits last) (otherTours : Tours handlers first others otherLast)
    (same : visits.map Visit.endpoint = others.map Visit.endpoint) :
    visits = others ∧ last = otherLast := by
  induction tours generalizing others with
  | nil scene =>
      cases otherTours with
      | nil => exact ⟨rfl, rfl⟩
      | cons => contradiction
  | cons endpoint scene _ inductionHypothesis =>
      cases otherTours with
      | nil => contradiction
      | cons other _ rest =>
          rcases List.cons.inj same with ⟨here, others⟩
          cases here
          rcases inductionHypothesis rest others with ⟨rfl, sameLast⟩
          exact ⟨rfl, sameLast⟩

end Tours

/-! ## What comes and goes -/

/-- What is put into an inbox between two scenes. -/
def arrivals (inbox : InboxId) (before after : Scene σ α) : List Message :=
  (after.rest.network.waiting inbox).drop (before.rest.network.waiting inbox).length

/-- What the callback of an endpoint puts into an inbox. -/
def Visit.puts (handlers : Handlers σ ε α) (inbox : InboxId) (visit : Visit σ ε α) :
    List Message := arrivals inbox visit.read (visit.after handlers)

/-- The messages that are taken from an inbox. -/
def takenFrom (inbox : InboxId) (visits : List (Visit σ ε α)) : List Message :=
  (visits.filter fun visit => visit.endpoint.inbox = inbox).flatMap fun visit => visit.taken.toList

theorem Scene.Gains.waiting_eq {inbox : InboxId} {before after : Scene σ α}
    (gains : Scene.Gains inbox before after) :
    before.rest.network.waiting inbox ++ arrivals inbox before after =
      after.rest.network.waiting inbox :=
  List.prefix_iff_eq_append.mp gains.waiting

theorem takenFrom_cons (inbox : InboxId) (visit : Visit σ ε α) (visits : List (Visit σ ε α)) :
    takenFrom inbox (visit :: visits) =
      (if visit.endpoint.inbox = inbox then visit.taken.toList else []) ++
        takenFrom inbox visits := by
  rw [takenFrom, List.filter_cons]
  split
  · next own =>
      rw [if_pos (of_decide_eq_true own), List.flatMap_cons]
      rfl
  · next other =>
      rw [if_neg fun own => other (decide_eq_true own)]
      rfl

/-- What waits, and what comes, is what is taken, and what is left. -/
theorem Tours.balance {handlers : Handlers σ ε α} {first last : Scene σ α} {inbox : InboxId}
    {visits : List (Visit σ ε α)} (tours : Tours handlers first visits last)
    (feed : handlers.Feed inbox) :
    first.rest.network.waiting inbox ++ visits.flatMap (Visit.puts handlers inbox) =
      takenFrom inbox visits ++ last.rest.network.waiting inbox := by
  induction tours with
  | nil scene => exact List.append_nil _
  | @cons endpoint scene visits last _ inductionHypothesis =>
      let visit : Visit σ ε α := ⟨endpoint, scene⟩
      let taken := if visit.endpoint.inbox = inbox then visit.taken.toList else []
      let put := visit.puts handlers inbox
      let later := visits.flatMap (Visit.puts handlers inbox)
      have read := visit.waiting_eq inbox
      have handled : visit.read.rest.network.waiting inbox ++ put = _ :=
        (visit.gains_after feed).waiting_eq
      calc
        scene.rest.network.waiting inbox ++ (put ++ later)
            = (taken ++ visit.read.rest.network.waiting inbox) ++ (put ++ later) :=
          congrArg (fun waiting => waiting ++ (put ++ later)) read
        _ = taken ++ ((visit.read.rest.network.waiting inbox ++ put) ++ later) := by
          simp only [List.append_assoc]
        _ = taken ++ (takenFrom inbox visits ++ last.rest.network.waiting inbox) := by
          rw [handled, inductionHypothesis]
        _ = takenFrom inbox (visit :: visits) ++ last.rest.network.waiting inbox := by
          rw [takenFrom_cons, List.append_assoc]

/-- The turn of the one endpoint that reads an inbox, among those of the others. -/
theorem exists_visit {visits : List (Visit σ ε α)} {inbox : InboxId} {endpoint : Endpoint ε}
    (alone : ((visits.map Visit.endpoint).filter fun other => other.inbox = inbox) = [endpoint]) :
    ∃ before visit later, visits = before ++ visit :: later ∧
      (visits.filter fun visit => visit.endpoint.inbox = inbox) = [visit] ∧
      visit.endpoint = endpoint ∧ endpoint.inbox = inbox ∧
      (∀ other ∈ before, other.endpoint.inbox ≠ inbox) ∧
      ∀ other ∈ later, other.endpoint.inbox ≠ inbox := by
  rw [List.filter_map] at alone
  rcases List.map_eq_singleton_iff.mp alone with ⟨visit, found, rfl⟩
  rcases List.filter_eq_cons_iff.mp found with ⟨before, later, rfl, none, here, rest⟩
  refine ⟨before, visit, later, rfl, found, rfl, by simpa using here, ?_, ?_⟩
  · simpa using none
  · simpa using rest

end ClusterHub.Reactor

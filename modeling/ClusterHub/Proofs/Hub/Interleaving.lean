import ClusterHub.Proofs.Hub.Event
import ClusterHub.Proofs.Task.Edit

/-!
# Interleavings of traffic

A report from the monitor socket names one task or none.  What reports of
different tasks do to the hub is the same in either order, although they share
the registry, the groups and sets of the ledger and the metrics.  So a hub that
reads many reports at one time is the same in the end for all orders in which
the reports of each task come one after the other as they did.
-/

namespace ClusterHub

namespace Message

/-- The task that the header of a report of a kind names. -/
def taskOf (message : Message) : TrafficKind → Option String
  | .queueRequest | .taskRequest => (message.payload RequestHeader 1).toOption.map RequestHeader.id
  | .queueResult | .taskResult => (message.payload ResultHeader 1).toOption.map ResultHeader.id
  | .taskDestination => (message.payload Destination 1).toOption.map Destination.id
  | .output => (message.payload OutputHeader 1).toOption.map OutputHeader.id
  | .controlRequest | .controlReply => none

/-- The task that a message from the monitor socket names.  A message that cannot
be read names none. -/
def task? (message : Message) : Option String :=
  ((message.text 0).bind TrafficKind.ofTag).toOption.bind message.taskOf

/-- What a report of a kind asks of a ledger, where engines have numbers by a
registry. -/
def operation? (message : Message) (registry : Registry) (now : Timestamp) :
    TrafficKind → Option Ledger.Operation
  | .queueRequest => (message.payload RequestHeader 1).toOption.map (request .immediate)
  | .taskRequest => (message.payload RequestHeader 1).toOption.map (request .scheduled)
  | .queueResult | .taskResult => (message.payload ResultHeader 1).toOption.map fun header =>
      .result header (header.engine.bind registry.idByQueue) (Hub.bodyAt message 2) now
  | .taskDestination => (message.payload Destination 1).toOption.bind fun destination =>
      (registry.idByQueue destination.engine).map fun engine =>
        .destination destination.id engine destination.engine
  | .output => (message.payload OutputHeader 1).toOption.map fun header =>
      .output header.id header.stream header.text
  | .controlRequest | .controlReply => none
where
  /-- What a report of a submitted task asks. -/
  request (lane : Lane) (header : RequestHeader) : Ledger.Operation :=
    .request header lane (header.engine.bind registry.idByQueue) (Hub.bodyAt message 2) now

/-- A report asks something about the task that it names. -/
theorem task?_of_operation? {message : Message} {registry : Registry} {now : Timestamp}
    {kind : TrafficKind} {operation : Ledger.Operation}
    (asked : message.operation? registry now kind = some operation) :
    ∃ id, message.taskOf kind = some id ∧ operation.task? = some id := by
  cases kind with
  | queueRequest | taskRequest | queueResult | taskResult | output =>
      rcases Option.map_eq_some_iff.mp asked with ⟨header, read, rfl⟩
      refine ⟨header.id, ?_, rfl⟩
      rw [taskOf, read, Option.map_some]
  | taskDestination =>
      rcases Option.bind_eq_some_iff.mp asked with ⟨destination, read, asked⟩
      rcases Option.map_eq_some_iff.mp asked with ⟨engine, _, rfl⟩
      refine ⟨destination.id, ?_, rfl⟩
      rw [taskOf, read, Option.map_some]
  | controlRequest | controlReply => contradiction

/-- Whether two messages name different tasks, if both name one. -/
def Apart (first second : Message) : Prop :=
  ∀ id, first.task? = some id → second.task? ≠ some id

end Message

/-- It does not matter in which order two tags are counted. -/
theorem TaggedCounter.increment_comm (counter : TaggedCounter) (tag other : String) :
    (counter.increment tag).increment other = (counter.increment other).increment tag := by
  by_cases same : tag = other
  · rw [same]
  · simp [increment, get, Std.ExtTreeMap.getD_insert, same, Ne.symm same, insert_swap same]

namespace Hub

variable {hub : Hub} {first second : Message}

/-- The ledger of a hub that has read a report of a kind. -/
def ledgerAfter (hub : Hub) (message : Message) (kind : TrafficKind) : Ledger :=
  hub.ledger.performAll (message.operation? hub.registry hub.time kind).toList

/-- A hub that has read a report of a kind, and has a given ledger now. -/
def noting (hub : Hub) (kind : TrafficKind) (ledger : Ledger) : Hub :=
  ((hub.countTraffic kind).setLedger ledger).gaugeTasks

/-- A report is refused only if it asks nothing of the ledger. -/
theorem takeIn_outcome (hub : Hub) (message : Message) (kind : TrafficKind) :
    hub.takeIn message kind = .ok (hub.setLedger (hub.ledgerAfter message kind)) ∨
      (∃ fault, hub.takeIn message kind = .error fault) ∧
        hub.ledgerAfter message kind = hub.ledger := by
  unfold ledgerAfter
  cases kind with
  | queueRequest | taskRequest =>
      unfold takeIn saveRequest Message.operation?
      cases message.payload RequestHeader 1 with
      | ok header => exact Or.inl rfl
      | error fault => exact Or.inr ⟨⟨fault, rfl⟩, rfl⟩
  | queueResult | taskResult =>
      unfold takeIn saveResult Message.operation?
      cases message.payload ResultHeader 1 with
      | ok header => exact Or.inl rfl
      | error fault => exact Or.inr ⟨⟨fault, rfl⟩, rfl⟩
  | taskDestination =>
      unfold takeIn saveDestination Message.operation?
      cases message.payload Destination 1 with
      | ok destination =>
          simp only [bind, Except.bind, Except.toOption, Option.bind_some]
          cases hub.registry.idByQueue destination.engine with
          | none => exact Or.inr ⟨⟨_, rfl⟩, rfl⟩
          | some engine => exact Or.inl rfl
      | error fault => exact Or.inr ⟨⟨fault, rfl⟩, rfl⟩
  | output =>
      unfold takeIn saveOutput Message.operation?
      cases message.payload OutputHeader 1 with
      | ok header => exact Or.inl rfl
      | error fault => exact Or.inr ⟨⟨fault, rfl⟩, rfl⟩
  | controlRequest | controlReply => exact Or.inl rfl

theorem dispatchTraffic_of_read {message : Message} {kind : TrafficKind}
    (read : (message.text 0).bind TrafficKind.ofTag = .ok kind) :
    hub.dispatchTraffic message = hub.noting kind (hub.ledgerAfter message kind) := by
  unfold dispatchTraffic
  rw [read]
  rcases takeIn_outcome (hub.countTraffic kind) message kind with done | ⟨⟨fault, done⟩, same⟩
  · simp only [done]
    rfl
  · simp only [done]
    change _ = hub.noting kind ((hub.countTraffic kind).ledgerAfter message kind)
    rw [same]
    rfl

/-- Reports of different tasks make the same ledger in either order. -/
theorem ledgerAfter_noting (apart : first.Apart second) {kind other : TrafficKind}
    (task : first.task? = first.taskOf kind) (otherTask : second.task? = second.taskOf other) :
    (hub.noting kind (hub.ledgerAfter first kind)).ledgerAfter second other =
      (hub.noting other (hub.ledgerAfter second other)).ledgerAfter first kind := by
  change (hub.ledger.performAll (first.operation? hub.registry hub.time kind).toList).performAll
      (second.operation? hub.registry hub.time other).toList =
    (hub.ledger.performAll (second.operation? hub.registry hub.time other).toList).performAll
      (first.operation? hub.registry hub.time kind).toList
  cases asked : first.operation? hub.registry hub.time kind with
  | none => rfl
  | some operation =>
      cases otherAsked : second.operation? hub.registry hub.time other with
      | none => rfl
      | some otherOperation =>
          rcases Message.task?_of_operation? asked with ⟨id, names, about⟩
          rcases Message.task?_of_operation? otherAsked with ⟨otherId, otherNames, otherAbout⟩
          refine Ledger.perform_comm about otherAbout ?_
          rintro rfl
          exact apart id (task.trans names) (otherTask.trans otherNames)

theorem noting_eq (hub : Hub) (kind : TrafficKind) (ledger : Ledger) :
    hub.noting kind ledger = hub.modifyState fun state =>
      { state with
        ledger
        metrics := { state.metrics with
          monitorMessages := state.metrics.monitorMessages.increment kind.tag
          pendingTasks := state.metrics.pendingTasks.set ledger.pending.size } } := rfl

theorem modifyState_modifyState (hub : Hub) (first second : HubState → HubState) :
    (hub.modifyState first).modifyState second =
      hub.modifyState fun state => second (first state) := rfl

/-- Two reports are counted in either order, and the ledger and the gauge are those
of the second. -/
theorem noting_comm (hub : Hub) (kind other : TrafficKind) (ledger otherLedger final : Ledger) :
    (hub.noting kind ledger).noting other final =
      (hub.noting other otherLedger).noting kind final := by
  simp only [noting_eq, modifyState_modifyState]
  apply congrArg hub.modifyState
  funext state
  rw [TaggedCounter.increment_comm]
  simp only [Gauge.set]

theorem dispatchTraffic_of_unread {message : Message} {fault : Fault}
    (unread : (message.text 0).bind TrafficKind.ofTag = .error fault) :
    hub.dispatchTraffic message = hub := by
  unfold dispatchTraffic
  rw [unread]

/-- The hub is the same in the end whichever of two reports of different tasks
it reads first. -/
theorem dispatchTraffic_comm (apart : first.Apart second) (hub : Hub) :
    (hub.dispatchTraffic first).dispatchTraffic second =
      (hub.dispatchTraffic second).dispatchTraffic first := by
  cases read : (first.text 0).bind TrafficKind.ofTag with
  | error fault => rw [dispatchTraffic_of_unread read, dispatchTraffic_of_unread read]
  | ok kind =>
      cases otherRead : (second.text 0).bind TrafficKind.ofTag with
      | error fault => rw [dispatchTraffic_of_unread otherRead, dispatchTraffic_of_unread otherRead]
      | ok other =>
          have task : first.task? = first.taskOf kind := by rw [Message.task?, read]; rfl
          have otherTask : second.task? = second.taskOf other := by
            rw [Message.task?, otherRead]
            rfl
          rw [dispatchTraffic_of_read read, dispatchTraffic_of_read otherRead,
            dispatchTraffic_of_read otherRead, dispatchTraffic_of_read read,
            ledgerAfter_noting apart task otherTask, noting_comm]

/-! ## Many reports -/

/-- The reports that name a task, in their order. -/
def about (id : String) (traffic : List Message) : List Message :=
  traffic.filter fun message => message.task? = some id

/-- A hub that has read some reports one after the other. -/
def readAll (hub : Hub) (traffic : List Message) : Hub := traffic.foldl dispatchTraffic hub

theorem run_traffic (hub : Hub) (traffic : List Message) :
    hub.run (traffic.map .traffic) = hub.readAll traffic :=
  List.foldl_map

/-- A report can be read before others that it is apart from. -/
theorem readAll_append_cons {before after : List Message} {message : Message}
    (apart : ∀ earlier ∈ before, earlier.Apart message) (hub : Hub) :
    hub.readAll (before ++ message :: after) = hub.readAll (message :: (before ++ after)) := by
  induction before generalizing hub with
  | nil => rfl
  | cons earlier before inductionHypothesis =>
      have rest : ∀ earlier ∈ before, earlier.Apart message := fun earlier member =>
        apart earlier (List.mem_cons_of_mem _ member)
      calc
        hub.readAll (earlier :: before ++ message :: after)
          = (hub.dispatchTraffic earlier).readAll (before ++ message :: after) := rfl
        _ = ((hub.dispatchTraffic earlier).dispatchTraffic message).readAll (before ++ after) :=
            inductionHypothesis rest _
        _ = ((hub.dispatchTraffic message).dispatchTraffic earlier).readAll (before ++ after) := by
            rw [dispatchTraffic_comm (apart earlier List.mem_cons_self)]
        _ = hub.readAll (message :: (earlier :: before ++ after)) := rfl

/-- Nothing that comes before the first report of a task names that task. -/
theorem apart_of_first {message : Message} {traffic before after : List Message}
    (agree : ∀ id, about id (message :: traffic) = about id (before ++ message :: after))
    (new : message ∉ before) : ∀ earlier ∈ before, earlier.Apart message := by
  intro earlier member id named same
  have found : earlier ∈ about id before := List.mem_filter.mpr ⟨member, by simpa using named⟩
  have starts := agree id
  simp only [about, List.filter_append, List.filter_cons, same, decide_true, if_true] at starts
  cases split : about id before with
  | nil =>
      rw [split] at found
      contradiction
  | cons first rest =>
      unfold about at split
      rw [split] at starts
      have firstMember : first ∈ before := (List.mem_filter.mp (split ▸ List.mem_cons_self)).1
      rw [(List.cons.inj starts).1] at new
      exact new firstMember

/-- Orders of the same reports that agree on the reports of each task make the same
hub. -/
theorem readAll_eq_of_perm {first second : List Message} (same : first.Perm second)
    (agree : ∀ id, about id first = about id second) (hub : Hub) :
    hub.readAll first = hub.readAll second := by
  induction first generalizing second hub with
  | nil => rw [same.nil_eq]
  | cons message first inductionHypothesis =>
      -- The first report moves to the front of the other order; nothing that it
      -- overtakes names its task.
      rcases List.eq_append_cons_of_mem (same.subset List.mem_cons_self) with
        ⟨before, after, rfl, new⟩
      have apart := apart_of_first agree new
      have rest : first.Perm (before ++ after) :=
        (same.trans List.perm_middle).cons_inv
      have restAgree : ∀ id, about id first = about id (before ++ after) := by
        intro id
        have whole := agree id
        by_cases named : message.task? = some id
        · have none : about id before = [] := List.filter_eq_nil_iff.mpr fun earlier member =>
            by simpa using fun other => apart earlier member id other named
          unfold about at whole none ⊢
          simpa [named, none] using whole
        · unfold about at whole ⊢
          simpa [named] using whole
      rw [readAll_append_cons apart]
      exact inductionHypothesis rest restAgree (hub.dispatchTraffic message)

section Publishers

variable {ι : Type} [DecidableEq ι]

/-- What a publisher sends, in its order. -/
def sentBy (publisher : ι) (traffic : List (ι × Message)) : List (ι × Message) :=
  traffic.filter fun report => report.1 = publisher

/-- Whether no two publishers name the same task. -/
def SeparateTasks (traffic : List (ι × Message)) : Prop :=
  ∀ report ∈ traffic, ∀ other ∈ traffic,
    report.2.task? ≠ none → report.2.task? = other.2.task? → report.1 = other.1

instance (traffic : List (ι × Message)) : Decidable (SeparateTasks traffic) :=
  inferInstanceAs (Decidable (∀ report ∈ traffic, ∀ other ∈ traffic,
    report.2.task? ≠ none → report.2.task? = other.2.task? → report.1 = other.1))

variable {first second traffic : List (ι × Message)} {publisher : ι} {id : String}

theorem perm_of_sentBy (same : ∀ publisher, sentBy publisher first = sentBy publisher second) :
    first.Perm second := by
  apply List.perm_iff_count.mpr
  intro report
  calc
    first.count report
      = (sentBy report.1 first).count report := (List.count_filter (by simp)).symm
    _ = (sentBy report.1 second).count report := by rw [same]
    _ = second.count report := List.count_filter (by simp)

/-- Reports of a task that only one publisher names are all in what that publisher
sends. -/
theorem about_of_publisher
    (only : ∀ report ∈ traffic, report.2.task? = some id → report.1 = publisher) :
    about id (traffic.map Prod.snd) = about id ((sentBy publisher traffic).map Prod.snd) := by
  unfold about sentBy
  rw [List.filter_map, List.filter_map, List.filter_filter]
  congr 1
  apply List.filter_congr
  intro report member
  by_cases named : report.2.task? = some id
  · simp [named, only report member named]
  · simp [named]

omit [DecidableEq ι] in
theorem about_of_unnamed (unnamed : ∀ report ∈ traffic, report.2.task? ≠ some id) :
    about id (traffic.map Prod.snd) = [] := by
  apply List.filter_eq_nil_iff.mpr
  intro message member
  rcases List.mem_map.mp member with ⟨report, reportMember, rfl⟩
  simpa using unnamed report reportMember

/-- If no two publishers name the same task, then orders that keep what each
publisher sends in order agree on the reports of each task. -/
theorem about_eq_of_separate (separate : SeparateTasks first)
    (same : ∀ publisher, sentBy publisher first = sentBy publisher second) (id : String) :
    about id (first.map Prod.snd) = about id (second.map Prod.snd) := by
  have perm := perm_of_sentBy same
  by_cases named : ∃ report ∈ first, report.2.task? = some id
  · rcases named with ⟨report, member, named⟩
    have only : ∀ other ∈ first, other.2.task? = some id → other.1 = report.1 :=
      fun other otherMember otherNamed => separate other otherMember report member
        (otherNamed ▸ Option.some_ne_none id) (otherNamed.trans named.symm)
    rw [about_of_publisher only, same report.1,
      ← about_of_publisher fun other otherMember => only other (perm.mem_iff.mpr otherMember)]
  · have unnamed : ∀ report ∈ first, report.2.task? ≠ some id := fun report member names =>
      named ⟨report, member, names⟩
    rw [about_of_unnamed unnamed,
      about_of_unnamed fun report member => unnamed report (perm.mem_iff.mpr member)]

end Publishers

/-- A hub that reads the same reports at one time, in any two orders that agree on
the reports of each task, is the same in the end: its ledger, its registry and
everything that it answers.  So it does not matter how what several publishers
send is interleaved, if no two of them name the same task. -/
theorem run_traffic_of_interleaving (hub : Hub) :
    (∀ first second : List Message, first.Perm second →
      (∀ id, about id first = about id second) →
      hub.run (first.map .traffic) = hub.run (second.map .traffic)) ∧
    ∀ (ι : Type) [DecidableEq ι] (first second : List (ι × Message)), SeparateTasks first →
      (∀ publisher, sentBy publisher first = sentBy publisher second) →
      hub.run ((first.map Prod.snd).map .traffic) =
        hub.run ((second.map Prod.snd).map .traffic) := by
  have unordered : ∀ first second : List Message, first.Perm second →
      (∀ id, about id first = about id second) →
      hub.run (first.map .traffic) = hub.run (second.map .traffic) := by
    intro first second same agree
    rw [run_traffic, run_traffic]
    exact readAll_eq_of_perm same agree hub
  refine ⟨unordered, ?_⟩
  intro ι _ first second separate same
  exact unordered _ _ ((perm_of_sentBy same).map _) (about_eq_of_separate separate same)

/-- Two clients of one engine report their tasks and results at one time, and so
does someone whose message cannot be read. -/
theorem run_traffic_of_two_publishers :
    let hub := attached {} default default 0
    let request (task client : String) : Message :=
      .taskRequest .immediate ⟨task, client, some "queue", none⟩ .empty
    let result (task : String) : Message := .taskResult .immediate ⟨task, none, none, none⟩ .empty
    let first := [("a", request "task-a" "a"), ("a", result "task-a"),
      ("b", request "task-b" "b"), ("b", result "task-b")]
    let second := [("b", request "task-b" "b"), ("a", request "task-a" "a"),
      ("b", result "task-b"), ("a", result "task-a")]
    SeparateTasks first ∧ (∀ publisher, sentBy publisher first = sentBy publisher second) ∧
      hub.run ((first.map Prod.snd).map .traffic) =
        hub.run ((second.map Prod.snd).map .traffic) ∧
      hub.run [.traffic .empty, .traffic (request "task-a" "a")] =
        hub.run [.traffic (request "task-a" "a"), .traffic .empty] := by
  intro hub request result first second
  have separate : SeparateTasks first := by decide +kernel
  have same : ∀ publisher, sentBy publisher first = sentBy publisher second := by
    intro publisher
    by_cases a : publisher = "a"
    · subst publisher
      rfl
    · by_cases b : publisher = "b"
      · subst publisher
        rfl
      · simp [sentBy, first, second, Ne.symm a, Ne.symm b]
  have unread : Message.empty.task? = none := by decide +kernel
  refine ⟨separate, same, (run_traffic_of_interleaving hub).2 String first second separate same, ?_⟩
  apply (run_traffic_of_interleaving hub).1 [.empty, request "task-a" "a"]
    [request "task-a" "a", .empty]
  · exact List.Perm.swap ..
  · intro id
    simp [about, unread, List.filter_cons]

end Hub

end ClusterHub

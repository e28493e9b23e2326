import ClusterHub.Proofs.Hub.Ledger
import ClusterHub.Proofs.Hub.Requests
import ClusterHub.Proofs.Task.Content

/-!
# Tasks that are submitted again

Only reports take tasks in, and a task keeps the body that it came with for as long as it
is known.  So a task that is submitted again has the body that came with the report that
took it in, however long ago that was and whatever was said of the task since.
-/

namespace ClusterHub

/-- A report that a task was submitted with a body. -/
structure Message.Submits (message : Message) (id : String) (body : Frame) : Prop where
  tag : ∃ kind, (message.text 0).bind TrafficKind.ofTag = .ok kind ∧
    (kind = .queueRequest ∨ kind = .taskRequest)
  header : ∃ header, message.payload RequestHeader 1 = .ok header ∧ header.id = id
  body : Hub.bodyAt message 2 = body

namespace Hub

variable {start hub : Hub} {event : Event} {history past future : List Event} {id : String}
  {body : Frame} {message : Message}

theorem isReached_react (reached : hub.ledger.IsReached) (event : Event) :
    (hub.react event).ledger.IsReached := by
  rcases reached with ⟨operations, same⟩
  rcases asked_react hub event with ⟨more, _, after⟩
  exact ⟨operations ++ more, by rw [Ledger.performAll_append, ← same, after]⟩

theorem isReached_run (reached : hub.ledger.IsReached) (history : List Event) :
    (hub.run history).ledger.IsReached := by
  induction history generalizing hub with
  | nil => exact reached
  | cons event history inductionHypothesis =>
      exact inductionHypothesis (isReached_react reached event)

theorem IsAttached.ledger_eq (attached : start.IsAttached) : start.ledger = {} := by
  rcases attached with ⟨config, engineAddresses, clientAddresses, now, rfl⟩
  rfl

theorem IsAttached.isReached (attached : start.IsAttached) : start.ledger.IsReached :=
  ⟨[], attached.ledger_eq⟩

/-- Reports of requests are built so. -/
theorem submits_taskRequest (lane : Lane) (header : RequestHeader) (content : Frame) :
    (Message.taskRequest lane header content).Submits header.id content := by
  have read : Message.payload (.taskRequest lane header content) RequestHeader 1 = .ok header :=
    Message.payload_of_getElem? rfl (Frame.payload?_ofPayload header)
  constructor
  case tag =>
    cases lane with
    | immediate => exact ⟨.queueRequest, by rfl, Or.inl rfl⟩
    | scheduled => exact ⟨.taskRequest, by rfl, Or.inr rfl⟩
  case header => exact ⟨header, read, rfl⟩
  case body => rfl

theorem submits_of_operation? {registry : Registry} {now : Timestamp} {kind : TrafficKind}
    {operation : Ledger.Operation} {l : Ledger}
    (read : (message.text 0).bind TrafficKind.ofTag = .ok kind)
    (asks : message.operation? registry now kind = some operation)
    (admitted : l.admits id operation = true) (brought : operation.body? = some body) :
    message.Submits id body := by
  have reported : ∀ lane, (message.payload RequestHeader 1).toOption.map
      (Message.operation?.request message registry now lane) = some operation →
      (kind = .queueRequest ∨ kind = .taskRequest) → message.Submits id body := by
    intro lane asks requests
    rcases Option.map_eq_some_iff.mp asks with ⟨header, found, rfl⟩
    rcases Ledger.admits_iff.mp admitted with ⟨_, _, _, _, _, _, same, named⟩
    cases same
    cases brought
    exact ⟨⟨kind, read, requests⟩, ⟨header, Fault.toOption_eq_some_iff.mp found, named⟩, rfl⟩
  cases kind with
  | queueRequest => exact reported .immediate asks (Or.inl rfl)
  | taskRequest => exact reported .scheduled asks (Or.inr rfl)
  | queueResult | taskResult | output =>
      rcases Option.map_eq_some_iff.mp asks with ⟨header, _, rfl⟩
      contradiction
  | taskDestination =>
      rcases Option.bind_eq_some_iff.mp asks with ⟨destination, _, asks⟩
      rcases Option.map_eq_some_iff.mp asks with ⟨engine, _, rfl⟩
      contradiction
  | controlRequest | controlReply => contradiction

/-- A task has the body that it had before, or was just taken in. -/
theorem contentOf_react (kept : (hub.react event).ledger.contentOf id = some body) :
    hub.ledger.contentOf id = some body ∨
      ∃ message, event = .traffic message ∧ message.Submits id body ∧ id ∉ hub.ledger.tasks := by
  rcases asked_react hub event with ⟨operations, asked, same⟩
  rw [same] at kept
  cases asked with
  | quiet _ quiet =>
      apply Or.inl
      apply Ledger.contentOf_performAll _ kept
      exact fun operation member => Ledger.Operation.body?_of_isQuiet (quiet operation member)
  | reported message kind operation reports read asks =>
      rcases Ledger.contentOf_before kept with before | ⟨admitted, brought⟩
      · exact Or.inl before
      · exact Or.inr ⟨message, reports, submits_of_operation? read asks admitted brought,
          (Ledger.admits_iff.mp admitted).1⟩
  | swept position entry engine queue =>
      apply Or.inl
      apply Ledger.contentOf_performAll _ kept
      simp [Ledger.Operation.body?]

/-- The report that took a task in, and what happened before it and since. -/
structure Origin (start : Hub) (history : List Event) (id : String) (body : Frame)
    (past : List Event) (report : Message) (future : List Event) : Prop where
  whole : history = past ++ .traffic report :: future
  submits : report.Submits id body
  new : id ∉ (start.run past).ledger.tasks
  /-- The task was not forgotten since. -/
  known : ∀ part, part <+: future →
    id ∈ (start.run (past ++ .traffic report :: part)).ledger.tasks

/-- Every task that is known has the body that came with the report that took it in. -/
theorem exists_origin (empty : start.ledger = {})
    (kept : (start.run history).ledger.contentOf id = some body) :
    ∃ past report future, start.Origin history id body past report future := by
  induction history using List.reverseRecOn with
  | nil =>
      rw [run_nil, empty] at kept
      exact absurd (Ledger.mem_tasks_of_contentOf kept) Std.ExtTreeMap.not_mem_empty
  | append_singleton earlier event inductionHypothesis =>
      have known := Ledger.mem_tasks_of_contentOf kept
      rw [run_append] at kept
      rcases contentOf_react kept with before | ⟨report, rfl, submits, new⟩
      · rcases inductionHypothesis before with ⟨past, report, future, rfl, submits, new, since⟩
        refine ⟨past, report, future ++ [event], by simp, submits, new, ?_⟩
        intro part before
        rcases List.prefix_concat_iff.mp before with rfl | shorter
        · simpa using known
        · exact since part shorter
      · refine ⟨earlier, report, [], rfl, submits, new, ?_⟩
        intro part before
        rwa [List.prefix_nil.mp before]

/-- The message that goes out by the socket of resubmissions. -/
def toResubmitSocket : Outgoing → Option Message
  | .resubmission task body => some ⟨[.ofText task, body]⟩
  | _ => none

theorem send_of_toResubmitSocket {sockets : HubSockets} {net : Network} {item : Outgoing}
    (out : toResubmitSocket item = some message) :
    sockets.send net item = (sockets.resubmit.send net message).2 := by
  cases item <;> cases out
  rfl

theorem send_of_toResubmitSocket_eq_none {sockets : HubSockets} {net : Network} {item : Outgoing}
    (other : toResubmitSocket item = none) (resubmit : Dealer) :
    { sockets with resubmit }.send net item = sockets.send net item := by
  cases item <;> first | rfl | contradiction

/-- What a hub sends by the socket of resubmissions in an event. -/
def resubmits (hub : Hub) (event : Event) : List Message :=
  (hub.posts event).filterMap toResubmitSocket

variable {identity : Frame} {order : ResubmitOrder}

theorem resubmits_of_outbox {items : List Outgoing}
    (added : (hub.react event).state.outbox = hub.state.outbox ++ items) :
    hub.resubmits event = items.filterMap toResubmitSocket := by
  rw [resubmits, posts_of_outbox added]

/-! ## Orders to submit tasks again -/

/-- What becomes of an order to submit tasks again, where bodies come from some source. -/
structure Resubmits (hub : Hub) (message : Message) (identity : Frame) (order : ResubmitOrder)
    (source : String → Frame → Prop) : Prop where
  nothing : (∃ id ∈ order.tasks, id ∉ hub.ledger.tasks ∨ id ∉ hub.ledger.completed) →
    hub.resubmits (.query message) = [] ∧ (hub.react (.query message)).ledger = hub.ledger
  /-- The first task that is not completed stands in the way. -/
  refused : ∀ id, IsFirst (· ∉ hub.ledger.completed) order.tasks id →
    hub.Replies (hub.react (.query message)) identity .resubmit (.ofFault (hub.ledger.obstacle id))
      [] hub.ledger
  sent : (∀ id ∈ order.tasks, id ∈ hub.ledger.completed) →
    List.Forall₂ (fun id sent => ∃ body, source id body ∧ sent = ⟨[.ofText id, body]⟩)
      order.tasks (hub.resubmits (.query message))
  noted : (∀ id ∈ order.tasks, id ∈ hub.ledger.completed) →
    hub.ledger.Marks (hub.react (.query message)).ledger order.tasks hub.time

theorem replies_of_obstacle (filed : hub.ledger.Filed)
    (asks : IsRequest message identity .resubmit order)
    (first : IsFirst (· ∉ hub.ledger.completed) order.tasks id) :
    hub.Replies (hub.dispatchQuery message) identity .resubmit (.ofFault (hub.ledger.obstacle id))
      [] hub.ledger := by
  have failed := (Ledger.resubmittable_eq_error_iff filed).mpr ⟨id, first, rfl⟩
  have refused : (hub.countQuery .resubmit).resubmit identity message =
      .error (hub.ledger.obstacle id) := by
    apply Fault.bind_eq_error_iff.mpr
    exact Or.inr ⟨order, asks.payload, Fault.bind_eq_error_iff.mpr (Or.inl failed)⟩
  have own : (hub.ledger.obstacle id).isCallersOwn := by
    unfold Ledger.obstacle
    split <;> rfl
  exact replies_of_error asks own nofun refused

/-- Tasks that are handed out are put up to be submitted again, and noted as such. -/
theorem dispatchQuery_of_resubmittable {tasks : List (String × Frame)}
    (asks : IsRequest message identity .resubmit order)
    (done : hub.ledger.resubmittable order.tasks = .ok tasks) :
    hub.dispatchQuery message = (tasks.foldl resubmitTask (hub.countQuery .resubmit)).respond
      identity .resubmit (.resubmitted ⟨tasks.map Prod.fst⟩) [] := by
  apply dispatchQuery_of_ok asks
  apply Fault.bind_eq_ok_iff.mpr
  exact ⟨order, asks.payload, Fault.bind_eq_ok_iff.mpr ⟨tasks, done, rfl⟩⟩

/-- Completed tasks are submitted again with their bodies, in the order in which they are
listed. -/
theorem resubmits_of_resubmittable {tasks : List (String × Frame)}
    (asks : IsRequest message identity .resubmit order)
    (done : hub.ledger.resubmittable order.tasks = .ok tasks) :
    hub.resubmits (.query message) = tasks.map fun task => ⟨[.ofText task.1, task.2]⟩ := by
  have added : (hub.react (.query message)).state.outbox = hub.state.outbox ++
      (tasks.map (fun task => .resubmission task.1 task.2) ++
        [.reply identity .resubmit (.ok (.resubmitted ⟨tasks.map Prod.fst⟩)) []]) := by
    rw [react, dispatchQuery_of_resubmittable asks done, outbox_respond, outbox_resubmitAll,
      List.append_assoc]
    rfl
  rw [resubmits_of_outbox added, List.filterMap_append, List.filterMap_map]
  apply (List.append_nil _).trans
  exact congrFun List.filterMap_eq_map tasks

theorem marks_of_resubmittable {tasks : List (String × Frame)}
    (asks : IsRequest message identity .resubmit order)
    (done : hub.ledger.resubmittable order.tasks = .ok tasks) :
    hub.ledger.Marks (hub.react (.query message)).ledger (tasks.map Prod.fst) hub.time := by
  have noted : (hub.react (.query message)).ledger =
      hub.ledger.performAll ((tasks.map Prod.fst).map fun id => .resubmission id hub.time) := by
    rw [react, dispatchQuery_of_resubmittable asks done, List.map_map]
    exact congrArg Core.ledger (core_resubmitAll tasks)
  rw [noted]
  exact Ledger.marks_performAll (tasks.map Prod.fst) hub.time hub.ledger

/-- Where the body of a task comes from. -/
def HasOrigin (start : Hub) (history : List Event) (id : String) (body : Frame) : Prop :=
  ∃ past report future, start.Origin history id body past report future

/-- An order to submit tasks again comes to nothing if one of them is not completed.  If all
are, each goes out as often as it is listed, with the very body that came with the report
that took it in. -/
theorem resubmits_of_isRequest (attached : start.IsAttached) (history : List Event)
    (asks : IsRequest message identity .resubmit order) :
    (start.run history).Resubmits message identity order (start.HasOrigin history) := by
  have consistent := (isReached_run attached.isReached history).consistent
  constructor
  case nothing =>
    rintro ⟨id, listed, missing⟩
    have fails : id ∉ (start.run history).ledger.completed := fun completed =>
      missing.elim (fun unknown => unknown ((consistent.known id).mpr (Or.inr completed)))
        (fun absent => absent completed)
    obtain ⟨first, isFirst⟩ : ∃ first,
        IsFirst (· ∉ (start.run history).ledger.completed) order.tasks first :=
      exists_isFirst listed fails
    have replies := replies_of_obstacle consistent.toFiled asks isFirst
    have added : ((start.run history).react (.query message)).state.outbox = _ := replies.told
    exact ⟨resubmits_of_outbox added, replies.ledger_eq⟩
  case refused => exact fun id first => replies_of_obstacle consistent.toFiled asks first
  case sent =>
    intro completed
    rcases Ledger.exists_resubmittable consistent.toFiled completed with ⟨tasks, done, bodies⟩
    rw [resubmits_of_resubmittable asks done, List.forall₂_map_right_iff]
    apply bodies.imp
    rintro id ⟨task, body⟩ ⟨rfl, kept⟩
    exact ⟨body, exists_origin attached.ledger_eq kept, rfl⟩
  case noted =>
    intro completed
    rcases Ledger.exists_resubmittable consistent.toFiled completed with ⟨tasks, done, bodies⟩
    have listed : order.tasks = tasks.map Prod.fst := by
      rw [← List.forall₂_eq_eq_eq, List.forall₂_map_right_iff]
      exact bodies.imp fun _ _ found => found.1.symm
    rw [listed]
    exact marks_of_resubmittable asks done

/-- A task that was submitted again, forgotten and taken in again goes out with the body of
the later of the two requests that took it in, and not with those of requests that came
while it was known. -/
theorem resubmits_of_readmitted_task :
    let start := attached {} default default 0
    let request (id body : String) : Event :=
      .traffic (.taskRequest .scheduled ⟨id, "client", none, none⟩ (.ofText body))
    let result (id : String) : Event :=
      .traffic (.taskResult .scheduled ⟨id, none, none, none⟩ (.ofText "result"))
    let history : List Event := [request "a" "1", request "a" "2", result "a",
      .query ((Message.query .resubmit (⟨["a"]⟩ : ResubmitOrder)).pushFront (.ofText "client")),
      .query ((Message.query .purge ({ tasks := ["a"] } : PurgeOrder)).pushFront
        (.ofText "client")),
      request "a" "3", request "b" "4", request "a" "5",
      .traffic (.taskOutput ⟨"a", "stdout", "text"⟩), result "b", result "a", result "a"]
    let order : ResubmitOrder := ⟨["b", "a", "b"]⟩
    let message := (Message.query .resubmit order).pushFront (.ofText "client")
    start.IsAttached ∧ IsRequest message (.ofText "client") .resubmit order ∧
      (∀ id ∈ order.tasks, id ∈ (start.run history).ledger.completed) ∧
      (start.run history).Resubmits message (.ofText "client") order (start.HasOrigin history) ∧
      (start.run history).resubmits (.query message) = [⟨[.ofText "b", .ofText "4"]⟩,
        ⟨[.ofText "a", .ofText "3"]⟩, ⟨[.ofText "b", .ofText "4"]⟩] := by
  intro start request result history order message
  have attached : start.IsAttached := ⟨_, _, _, _, rfl⟩
  have asks := isRequest_query (.ofText "client") .resubmit order
  exact ⟨attached, asks, by decide +kernel, resubmits_of_isRequest attached history asks,
    by decide +kernel⟩

end Hub

end ClusterHub

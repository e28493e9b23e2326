import ClusterHub.Hub.Sockets
import ClusterHub.Proofs.Hub.InPlace
import ClusterHub.Proofs.Hub.Posting

/-!
# Queries are answered or dropped

A query that cannot be read is dropped.  Any other is answered once, with what
was asked for or with a fault that is the asker's own, except that an engine
that registers is not told anything while it waits for its heart.  There are no
other faults, and one that is told of has changed nothing.
-/

namespace ClusterHub

variable {message : Message} {identity : Frame} {fault : Fault}

/-- Whether the payload of a query can be read, if there is to be one. -/
def QueryKind.canRead (message : Message) : QueryKind → Bool
  | .queueStatus => (message.payload QueueQuery 2).isOk
  | .results => (message.payload ResultQuery 2).isOk
  | .db => (message.payload TaskFilter 2).isOk
  | .purge => (message.payload PurgeOrder 2).isOk
  | .load => (message.payload LoadQuery 2).isOk
  | .resubmit => (message.payload ResubmitOrder 2).isOk
  | .registration => (message.payload Registration 2).isOk
  | .unregistration => (message.payload Unregistration 2).isOk
  | .history | .shutdown | .connection => true

namespace Hub

variable {hub after : Hub} {kind : QueryKind}

theorem isCallersOwn_of_resolveTargets {targets : Option (List EngineId)}
    (failed : hub.resolveTargets targets = .error fault) : fault.isCallersOwn := by
  cases targets with
  | none => contradiction
  | some ids =>
      rcases Fault.exists_of_mapM_eq_error failed with ⟨id, _, failed⟩
      unfold Registry.requireActive at failed
      split at failed
      · contradiction
      · cases failed
        rfl

theorem isCallersOwn_of_results {ids : List String} {statusOnly : Bool}
    (failed : hub.ledger.results ids statusOnly = .error fault) : fault.isCallersOwn := by
  rcases Fault.bind_eq_error_iff.mp failed with failed | ⟨_, _, failed⟩
  · rcases Fault.exists_of_mapM_eq_error failed with ⟨id, _, failed⟩
    split at failed
    · contradiction
    · cases failed
      rfl
  · contradiction

theorem isCallersOwn_of_resubmittable {ids : List String}
    (failed : hub.ledger.resubmittable ids = .error fault) : fault.isCallersOwn := by
  rcases Fault.exists_of_mapM_eq_error failed with ⟨id, _, failed⟩
  unfold Ledger.resubmittableBody at failed
  split at failed
  · cases failed
    rfl
  · split at failed
    · contradiction
    · cases failed
      rfl

theorem isCallersOwn_of_purge {ids : List String}
    (failed : hub.ledger.purge ids = .error fault) : fault.isCallersOwn := by
  unfold Ledger.purge at failed
  split at failed
  · cases failed
    rfl
  · contradiction

theorem isCallersOwn_of_getByQueue {queue : String}
    (failed : hub.registry.getByQueue queue = .error fault) : fault.isCallersOwn := by
  unfold Registry.getByQueue at failed
  split at failed
  · contradiction
  · cases failed
    rfl

/-- A handler that reads a payload first fails for want of it, or else later. -/
theorem classified_of_bind {α : Type} [Payload α] {next : α → Except Fault Hub}
    (failed : message.payload α 2 >>= next = .error fault)
    (own : ∀ value, next value = .error fault → fault.isCallersOwn) :
    fault.isUnreadable ∧ (message.payload α 2).isOk = false ∨
      fault.isCallersOwn ∧ (message.payload α 2).isOk = true := by
  rcases Fault.bind_eq_error_iff.mp failed with unread | ⟨value, read, failed⟩
  · refine Or.inl ⟨HubProgram.isUnreadable_of_payload unread, ?_⟩
    rw [unread]
    rfl
  · refine Or.inr ⟨own value failed, ?_⟩
    rw [read]
    rfl

/-- Every fault of a handler is of one of two classes, and which one depends on
whether the query can be read. -/
theorem classified_answerQuery (failed : hub.answerQuery identity message kind = .error fault) :
    fault.isUnreadable ∧ kind.canRead message = false ∨
      fault.isCallersOwn ∧ kind.canRead message = true := by
  cases kind with
  | queueStatus =>
      refine classified_of_bind failed fun query failed => ?_
      rcases Fault.bind_eq_error_iff.mp failed with failed | ⟨_, _, failed⟩
      · exact isCallersOwn_of_resolveTargets failed
      · contradiction
  | results =>
      refine classified_of_bind failed fun query failed => ?_
      rcases Fault.bind_eq_error_iff.mp failed with failed | ⟨_, _, failed⟩
      · exact isCallersOwn_of_results failed
      · contradiction
  | history => contradiction
  | db => exact classified_of_bind failed nofun
  | purge =>
      refine classified_of_bind failed fun order failed => ?_
      simp only at failed
      split at failed
      · contradiction
      · rcases Fault.bind_eq_error_iff.mp failed with failed | ⟨_, _, failed⟩
        · exact isCallersOwn_of_purge failed
        · contradiction
  | load =>
      refine classified_of_bind failed fun query failed => ?_
      rcases Fault.bind_eq_error_iff.mp failed with failed | ⟨_, _, failed⟩
      · exact isCallersOwn_of_resolveTargets failed
      · contradiction
  | resubmit =>
      refine classified_of_bind failed fun order failed => ?_
      rcases Fault.bind_eq_error_iff.mp failed with failed | ⟨_, _, failed⟩
      · exact isCallersOwn_of_resubmittable failed
      · contradiction
  | shutdown => contradiction
  | registration =>
      refine classified_of_bind failed fun registration failed => ?_
      rcases Fault.bind_eq_error_iff.mp failed with failed | ⟨inserted, _, failed⟩
      · rcases Fault.bind_eq_error_iff.mp failed with failed | ⟨_, _, failed⟩
        · exact HubProgram.isCallersOwn_of_checkAvailable failed
        · contradiction
      · simp only at failed
        split at failed <;> contradiction
  | unregistration =>
      refine classified_of_bind failed fun request failed => ?_
      rcases Fault.bind_eq_error_iff.mp failed with failed | ⟨record, _, failed⟩
      · exact isCallersOwn_of_getByQueue failed
      · split at failed
        · split at failed
          · cases failed
            rfl
          · contradiction
        · cases failed
          rfl
  | connection => contradiction

/-- A query whose payload cannot be read is not answered. -/
theorem canRead_of_answerQuery (done : hub.answerQuery identity message kind = .ok after) :
    kind.canRead message := by
  cases kind
  case history | shutdown | connection => rfl
  all_goals
    rcases Fault.bind_eq_ok_iff.mp done with ⟨value, read, _⟩
    simp only [QueryKind.canRead, read]
    rfl

theorem outbox_resubmitAll (tasks : List (String × Frame)) :
    (tasks.foldl resubmitTask hub).state.outbox =
      hub.state.outbox ++ tasks.map fun task => .resubmission task.1 task.2 := by
  induction tasks generalizing hub with
  | nil => simp
  | cons task tasks inductionHypothesis =>
      rw [List.foldl_cons, inductionHypothesis]
      simp [resubmitTask]

/-- The engine that was enrolled last is the one that waits for its heart. -/
theorem promote_enroll {r : Registry} {record : EngineRecord} (numbered : record.id = r.nextId)
    (pending : record.state = .pending) :
    (r.enroll record).promote record.heart = some
      ({ record with state := .active, deletion := none }, record.deletion,
        (r.enroll record).replace { record with state := .active, deletion := none }) := by
  have listed : (r.enroll record).byHeart[record.heart]? = some r.nextId := by
    simp [Registry.enroll]
  have stands : (r.enroll record).engines[r.nextId]? = some record := by
    rw [Registry.getElem?_enroll, if_pos rfl]
  have awaited : (r.enroll record).pendingForHeart record.heart = some r.nextId := by
    simp [Registry.pendingForHeart, listed, stands, pending, numbered]
  simp [Registry.promote, awaited, stands, Registry.replace, numbered]

theorem outbox_finishRegistration_enroll {record : EngineRecord}
    (numbered : record.id = hub.registry.nextId) (pending : record.state = .pending) :
    ((hub.setRegistry (hub.registry.enroll record)).finishRegistration record.heart).state.outbox =
      hub.state.outbox ++ record.greeting := by
  let promoted := { record with state := .active, deletion := none }
  have promotion : (hub.setRegistry (hub.registry.enroll record)).registry.promote record.heart =
      some (promoted, record.deletion, (hub.registry.enroll record).replace promoted) :=
    promote_enroll numbered pending
  have stands : ((hub.registry.enroll record).replace promoted).engines[record.id]? =
      some promoted := by
    rw [Registry.getElem?_replace, if_pos rfl]
  have asked := Registry.takeRequester_of_found stands rfl
  unfold finishRegistration EngineRecord.greeting
  simp only [promotion, promoted, asked]
  cases record.requester <;> simp [Outgoing.acknowledgement, EngineRecord.notice]

theorem insertPending_eq_ok {r registry : Registry} {registration : Registration}
    {requester : Option Frame} {now : Timestamp} {id : EngineId}
    (inserted : r.insertPending registration requester now = .ok (id, registry)) :
    id = r.nextId ∧ registry = r.enroll (r.applicant registration requester now) := by
  rcases Fault.bind_eq_ok_iff.mp inserted with ⟨_, _, done⟩
  cases done
  exact ⟨rfl, rfl⟩

/-- An engine that registers is told at once, or it waits. -/
theorem outbox_registerEngine (done : hub.registerEngine identity message = .ok after) :
    (∃ notice id, after.state.outbox = hub.state.outbox ++
      [.notice notice, .acknowledgement identity id]) ∨
    after.state.outbox = hub.state.outbox ∧ after.waits hub.registry.nextId := by
  unfold registerEngine at done
  rcases Fault.bind_eq_ok_iff.mp done with ⟨registration, _, done⟩
  rcases Fault.bind_eq_ok_iff.mp done with ⟨⟨id, registry⟩, inserted, done⟩
  obtain ⟨rfl, rfl⟩ := insertPending_eq_ok inserted
  let applicant := hub.registry.applicant registration (some identity) hub.time
  simp only at done
  split at done
  · cases done
    have told : ((hub.setRegistry (hub.registry.enroll applicant)).finishRegistration
        applicant.heart).state.outbox = _ := outbox_finishRegistration_enroll rfl rfl
    exact Or.inl ⟨.joined applicant.notice, hub.registry.nextId, told⟩
  · cases done
    refine Or.inr ⟨by simp, ?_⟩
    let handle : TimerHandle :=
      ⟨hub.timers.issued + 1, hub.now + hub.config.registrationTimeout⟩
    have stands : (hub.registry.enroll applicant).engines[hub.registry.nextId]? =
        some applicant := by
      rw [Registry.getElem?_enroll, if_pos rfl]
    have armed := Registry.armDeletion_of_found stands rfl handle
    refine ⟨{ applicant with deletion := some handle }, ?_, rfl⟩
    -- Setting the timer and storing the record do not get in each other's way.
    change (((hub.assignDuty hub.config.registrationTimeout
      (.purgeStalled registration.heart)).2.setRegistry
        ((hub.registry.enroll applicant).armDeletion hub.registry.nextId handle).2).disarm
          ((hub.registry.enroll applicant).armDeletion
            hub.registry.nextId handle).1).core.registry.engines[hub.registry.nextId]? = _
    rw [armed, core_disarm]
    exact (Registry.getElem?_replace hub.registry.nextId).trans (if_pos rfl)

theorem outbox_purgeResults (done : hub.purgeResults identity message = .ok after) :
    ∃ report, after.state.outbox =
      hub.state.outbox ++ [.reply identity .purge (.ok (.purged report)) []] := by
  rcases Fault.bind_eq_ok_iff.mp done with ⟨order, _, done⟩
  simp only at done
  split at done
  · cases done
    exact ⟨_, rfl⟩
  · rcases Fault.bind_eq_ok_iff.mp done with ⟨⟨listed, ledger⟩, _, done⟩
    cases done
    exact ⟨_, rfl⟩

theorem outbox_resubmit (done : hub.resubmit identity message = .ok after) :
    ∃ (tasks : List (String × Frame)) (report : ResubmitReport),
      after.state.outbox = hub.state.outbox ++
      (tasks.map (fun task => .resubmission task.1 task.2) ++
        [.reply identity .resubmit (.ok (.resubmitted report)) []]) := by
  rcases Fault.bind_eq_ok_iff.mp done with ⟨order, _, done⟩
  rcases Fault.bind_eq_ok_iff.mp done with ⟨tasks, _, done⟩
  cases done
  refine ⟨tasks, ⟨tasks.map Prod.fst⟩, ?_⟩
  rw [outbox_respond, outbox_resubmitAll, List.append_assoc]

theorem outbox_shutdownRequest (hub : Hub) (identity : Frame) :
    (hub.shutdownRequest identity).state.outbox = hub.state.outbox ++
      [.reply identity .shutdown
        (.ok (.stopping ⟨UInt64.ofNat (Duration.toMillis hub.config.shutdownDelay)⟩)) [],
       .notice .stopping] := by
  simp [shutdownRequest]

theorem outbox_unregisterEngine (done : hub.unregisterEngine identity message = .ok after) :
    ∃ ack notice, after.state.outbox = hub.state.outbox ++
      [.reply identity .unregistration (.ok (.engine ack)) [], .notice notice] := by
  rcases Fault.bind_eq_ok_iff.mp done with ⟨request, _, done⟩
  rcases Fault.bind_eq_ok_iff.mp done with ⟨record, _, done⟩
  split at done
  · split at done
    · contradiction
    · next record deletion registry _ =>
        cases done
        exact ⟨⟨record.id⟩, .left record.notice, by simp⟩
  · contradiction

/-- A query that is answered is answered once, unless it is that of an engine that
waits from now on. -/
theorem outbox_answerQuery (done : hub.answerQuery identity message kind = .ok after) :
    ∃ items, after.state.outbox = hub.state.outbox ++ items ∧
      ((∃ answer trailing,
          items.filter Outgoing.isReply = [.reply identity kind (.ok answer) trailing]) ∨
        items = [] ∧ kind = .registration ∧ after.waits hub.registry.nextId) := by
  cases reading : kind.isReading with
  | true =>
      rcases answerQuery_of_reading reading done with ⟨answer, trailing, rfl⟩
      exact ⟨_, outbox_respond .., Or.inl ⟨answer, trailing, rfl⟩⟩
  | false =>
      cases kind with
      | purge =>
          rcases outbox_purgeResults done with ⟨report, told⟩
          exact ⟨_, told, Or.inl ⟨.purged report, [], rfl⟩⟩
      | resubmit =>
          rcases outbox_resubmit done with ⟨tasks, report, told⟩
          refine ⟨_, told, Or.inl ⟨.resubmitted report, [], ?_⟩⟩
          rw [List.filter_append, List.filter_eq_nil_iff.mpr]
          · rfl
          · intro item member
            rcases List.mem_map.mp member with ⟨task, _, rfl⟩
            exact Bool.false_ne_true
      | shutdown =>
          cases done
          exact ⟨_, outbox_shutdownRequest hub identity, Or.inl ⟨.stopping _, [], rfl⟩⟩
      | registration =>
          rcases outbox_registerEngine done with ⟨notice, id, told⟩ | ⟨silent, waits⟩
          · exact ⟨_, told, Or.inl ⟨.engine ⟨id⟩, [], rfl⟩⟩
          · exact ⟨[], by simpa using silent, Or.inr ⟨rfl, rfl, waits⟩⟩
      | unregistration =>
          rcases outbox_unregisterEngine done with ⟨ack, notice, told⟩
          exact ⟨_, told, Or.inl ⟨.engine ack, [], rfl⟩⟩
      | _ => contradiction

/-! ## All messages -/

/-- The message that goes out by the query socket. -/
def toQuerySocket : Outgoing → Option Message
  | .reply recipient kind content trailing =>
      some (.reply recipient kind (content.map Answer.toJson) trailing)
  | _ => none

/-- A query that can be read: who asks, what for, and with what. -/
structure IsQuery (message : Message) (identity : Frame) (kind : QueryKind) : Prop where
  sender : message.frames[0]? = some identity
  tag : message.text 1 = .ok kind.tag
  payload : kind.canRead message

/-- Nothing but the metrics is changed, and nothing is put up. -/
def Drops (before after : Hub) : Prop :=
  ∃ metrics, after = before.modifyMetrics fun _ => metrics

/-- What becomes of a query that can be read. -/
inductive Deals (before after : Hub) (identity : Frame) (kind : QueryKind) : Prop
  | answered (items : List Outgoing) (answer : Answer) (trailing : List Frame)
      (outbox : after.state.outbox = before.state.outbox ++ items)
      (told : items.filter Outgoing.isReply = [.reply identity kind (.ok answer) trailing])
      (sent : items.filterMap toQuerySocket =
        [.reply identity kind (Reply.ok answer.toJson) trailing])
  | awaited (outbox : after.state.outbox = before.state.outbox) (joining : kind = .registration)
      (waits : after.waits before.registry.nextId)
  | refused (fault : Fault) (own : fault.isCallersOwn)
      (outbox : after.state.outbox =
        before.state.outbox ++ [.reply identity kind (.error fault.name fault.message) []])
      (core : after.core = before.core)

/-- What goes out by the query socket, and nothing else does. -/
theorem send_of_toQuerySocket {sockets : HubSockets} {net : Network} {item : Outgoing}
    (out : toQuerySocket item = some message) :
    sockets.send net item = (sockets.query.send net message).2 := by
  cases item <;> cases out
  rfl

theorem send_of_toQuerySocket_eq_none {sockets : HubSockets} {net : Network} {item : Outgoing}
    (other : toQuerySocket item = none) (query : Router) :
    { sockets with query }.send net item = sockets.send net item := by
  cases item <;> first | rfl | contradiction

theorem ofTag_eq_ok_iff {tag : String} : QueryKind.ofTag tag = .ok kind ↔ tag = kind.tag := by
  constructor
  · intro known
    unfold QueryKind.ofTag at known
    split at known
    · next found =>
        cases known
        have same := List.find?_some found
        exact (by simpa using same : kind.tag = tag).symm
    · contradiction
  · rintro rfl
    exact QueryKind.ofTag_tag kind

theorem isQuery_iff :
    IsQuery message identity kind ↔ message.frame 0 = .ok identity ∧
      (message.text 1).bind QueryKind.ofTag = .ok kind ∧ kind.canRead message := by
  have sender : message.frame 0 = .ok identity ↔ message.frames[0]? = some identity := by
    unfold Message.frame
    split <;> simp_all
  have tag : (message.text 1).bind QueryKind.ofTag = .ok kind ↔ message.text 1 = .ok kind.tag := by
    cases message.text 1 with
    | error fault => simp [Except.bind]
    | ok tag => simp [Except.bind, ofTag_eq_ok_iff]
  rw [sender, tag]
  exact ⟨fun query => ⟨query.sender, query.tag, query.payload⟩,
    fun ⟨sender, tag, payload⟩ => ⟨sender, tag, payload⟩⟩

theorem filterMap_toQuerySocket {items : List Outgoing} {answer : Answer} {trailing : List Frame}
    (told : items.filter Outgoing.isReply = [.reply identity kind (.ok answer) trailing]) :
    items.filterMap toQuerySocket =
      [.reply identity kind (Reply.ok answer.toJson) trailing] := by
  have only : (fun item : Outgoing => if item.isReply then toQuerySocket item else none) =
      toQuerySocket := by
    funext item
    cases item <;> rfl
  have same : (items.filter Outgoing.isReply).filterMap toQuerySocket =
      items.filterMap toQuerySocket := by
    rw [List.filterMap_filter, only]
  rw [← same, told]
  rfl

/-- A handler that fails on the way has changed nothing. -/
theorem drops_of_exec {after : Hub}
    (failed : (HubProgram.answer identity message kind).exec hub = (.error fault, after)) :
    (fault.isUnreadable ∨ fault.isCallersOwn) ∧ Drops hub after := by
  rw [HubProgram.exec_answer] at failed
  cases outcome : hub.answerQuery identity message kind with
  | ok other =>
      rw [outcome] at failed
      cases failed
  | error other =>
      rw [outcome] at failed
      cases failed
      constructor
      · rcases classified_answerQuery outcome with ⟨unreadable, _⟩ | ⟨own, _⟩
        · exact Or.inl unreadable
        · exact Or.inr own
      · split
        · exact ⟨_, rfl⟩
        · exact ⟨hub.state.metrics, rfl⟩

/-- A message that is not a query is dropped. -/
theorem drops_of_not_isQuery (strange : ∀ identity kind, ¬ IsQuery message identity kind) :
    Drops hub (hub.dispatchQuery message) := by
  unfold dispatchQuery
  split
  · next identity kind sender tag =>
      simp only
      cases outcome : (hub.countQuery kind).answerQuery identity message kind with
      | ok after =>
          have payload := canRead_of_answerQuery outcome
          exact absurd (isQuery_iff.mpr ⟨sender, tag, payload⟩) (strange identity kind)
      | error fault =>
          rcases classified_answerQuery outcome with ⟨unreadable, _⟩ | ⟨_, payload⟩
          · have foreign := HubProgram.not_isCallersOwn_of_isUnreadable unreadable
            refine ⟨(hub.countQuery kind).state.metrics, ?_⟩
            simp only [refuse, foreign]
            rfl
          · exact absurd (isQuery_iff.mpr ⟨sender, tag, payload⟩) (strange identity kind)
  · exact ⟨hub.state.metrics, rfl⟩

/-- A query is dealt with. -/
theorem deals_of_isQuery (query : IsQuery message identity kind) :
    Deals hub (hub.dispatchQuery message) identity kind := by
  obtain ⟨sender, tag, payload⟩ := isQuery_iff.mp query
  unfold dispatchQuery
  rw [sender, tag]
  simp only
  cases outcome : (hub.countQuery kind).answerQuery identity message kind with
  | ok after =>
      rcases outbox_answerQuery outcome with
        ⟨items, outbox, ⟨answer, trailing, told⟩ | ⟨rfl, joining, waits⟩⟩
      · exact .answered items answer trailing outbox told (filterMap_toQuerySocket told)
      · exact .awaited (outbox.trans (List.append_nil _)) joining waits
  | error fault =>
      rcases classified_answerQuery outcome with ⟨_, unread⟩ | ⟨own, _⟩
      · rw [unread] at payload
        contradiction
      · refine .refused fault own ?_ (core_refuse (hub.countQuery kind) identity kind fault)
        simp only [refuse, own, ↓reduceIte, outbox_respondFault]
        split <;> rfl

/-- Every message from the query socket is dropped or dealt with.  This is so even
if handlers change the hub in place: one that fails has changed nothing by then,
and its fault is one of those that are dropped or told. -/
theorem dispatchQuery_outcome (hub : Hub) (message : Message) :
    ((∀ identity kind, ¬ IsQuery message identity kind) → Drops hub (hub.dispatchQuery message)) ∧
    (∀ identity kind, IsQuery message identity kind →
      Deals hub (hub.dispatchQuery message) identity kind) ∧
    HubProgram.dispatch message hub = hub.dispatchQuery message ∧
    ∀ identity kind fault after,
      (HubProgram.answer identity message kind).exec hub = (.error fault, after) →
        (fault.isUnreadable ∨ fault.isCallersOwn) ∧ Drops hub after :=
  ⟨drops_of_not_isQuery, fun _ _ => deals_of_isQuery, HubProgram.dispatch_eq hub message,
    fun _ _ _ _ => drops_of_exec⟩

end Hub

end ClusterHub

import ClusterHub.Proofs.Hub.Interleaving
import ClusterHub.Proofs.Wire.RoundTrip

/-!
# Reports about tasks

What the task queues report reaches the ledger as it was reported: the tag, the header
and the body of a message are read back as they were put in, and engines that are named
by their queues are those of the registry.  Every other message from the monitor socket
leaves the ledger as it is, and none touches anything besides the ledger and the metrics.
-/

namespace ClusterHub

/-- Whether a message tells of a task under the tag of a kind: the header that goes with
the tag can be read. -/
def TrafficKind.canRead (message : Message) : TrafficKind → Bool
  | .queueRequest | .taskRequest => (message.payload RequestHeader 1).isOk
  | .queueResult | .taskResult => (message.payload ResultHeader 1).isOk
  | .taskDestination => (message.payload Destination 1).isOk
  | .output => (message.payload OutputHeader 1).isOk
  | .controlRequest | .controlReply => false

/-- Whether a message tells of a task: it has the tag of such messages, and the header
that goes with the tag. -/
def Message.isReport (message : Message) : Bool :=
  match (message.text 0).bind TrafficKind.ofTag with
  | .ok kind => kind.canRead message
  | .error _ => false

theorem Fault.toOption_of_not_isOk {α : Type} {result : Except Fault α}
    (failed : result.isOk = false) : result.toOption = none := by
  cases result with
  | ok value => contradiction
  | error fault => rfl

namespace Hub

variable {hub : Hub} {message : Message}

/-- Whether a hub differs from another in its ledger and its metrics at most. -/
structure Records (before after : Hub) : Prop where
  registry : after.registry = before.registry
  monitor : after.monitor = before.monitor
  timers : after.timers = before.timers
  aside : after.state.aside = before.state.aside
  outbox : after.state.outbox = before.state.outbox
  pings : after.rest.pings = before.rest.pings
  now : after.now = before.now
  config : after.config = before.config
  addresses : after.state.engineAddresses = before.state.engineAddresses ∧
    after.state.clientAddresses = before.state.clientAddresses

theorem records_dispatchTraffic (hub : Hub) (message : Message) :
    hub.Records (hub.dispatchTraffic message) := by
  cases read : (message.text 0).bind TrafficKind.ofTag with
  | error fault =>
      rw [dispatchTraffic_of_unread read]
      exact ⟨rfl, rfl, rfl, rfl, rfl, rfl, rfl, rfl, rfl, rfl⟩
  | ok kind =>
      rw [dispatchTraffic_of_read read]
      exact ⟨rfl, rfl, rfl, rfl, rfl, rfl, rfl, rfl, rfl, rfl⟩

theorem ledger_of_read {kind : TrafficKind}
    (read : (message.text 0).bind TrafficKind.ofTag = .ok kind) :
    (hub.dispatchTraffic message).ledger = hub.ledgerAfter message kind := by
  rw [dispatchTraffic_of_read read]
  rfl

/-- A header that cannot be read asks nothing of the ledger. -/
theorem ledgerAfter_of_not_canRead {kind : TrafficKind} (foreign : kind.canRead message = false) :
    hub.ledgerAfter message kind = hub.ledger := by
  have ignored : message.operation? hub.registry hub.time kind = none := by
    cases kind with
    | queueRequest | taskRequest | queueResult | taskResult | taskDestination | output =>
        rw [Message.operation?, Fault.toOption_of_not_isOk foreign]
        rfl
    | controlRequest | controlReply => rfl
  rw [ledgerAfter, ignored]
  rfl

theorem ledger_of_not_isReport (foreign : message.isReport = false) :
    (hub.dispatchTraffic message).ledger = hub.ledger := by
  unfold Message.isReport at foreign
  cases read : (message.text 0).bind TrafficKind.ofTag with
  | error fault => rw [dispatchTraffic_of_unread read]
  | ok kind =>
      rw [read] at foreign
      rw [ledger_of_read read, ledgerAfter_of_not_canRead foreign]

theorem ledger_of_tag {kind : TrafficKind}
    (tagged : message.frames[0]? = some (.ofText kind.tag)) :
    (hub.dispatchTraffic message).ledger = hub.ledgerAfter message kind := by
  apply ledger_of_read
  rw [Message.text_eq_of_getElem? tagged]
  exact kind.ofTag_tag

theorem ledger_taskRequest (lane : Lane) (header : RequestHeader) (content : Frame) :
    (hub.dispatchTraffic (.taskRequest lane header content)).ledger =
      (hub.ledger.saveRequest header lane (header.engine.bind hub.registry.idByQueue) content
        hub.time).2 := by
  have read : Message.payload (.taskRequest lane header content) RequestHeader 1 = .ok header :=
    Message.payload_of_getElem? rfl (Frame.payload?_ofPayload header)
  cases lane with
  | immediate => calc
      (hub.dispatchTraffic (.taskRequest .immediate header content)).ledger
        = hub.ledgerAfter (.taskRequest .immediate header content) .queueRequest :=
          ledger_of_tag rfl
      _ = _ := by rw [ledgerAfter, Message.operation?, read]; rfl
  | scheduled => calc
      (hub.dispatchTraffic (.taskRequest .scheduled header content)).ledger
        = hub.ledgerAfter (.taskRequest .scheduled header content) .taskRequest :=
          ledger_of_tag rfl
      _ = _ := by rw [ledgerAfter, Message.operation?, read]; rfl

theorem ledger_taskResult (lane : Lane) (header : ResultHeader) (result : Frame) :
    (hub.dispatchTraffic (.taskResult lane header result)).ledger =
      (hub.ledger.saveResult header (header.engine.bind hub.registry.idByQueue) result
        hub.time).2 := by
  have read : Message.payload (.taskResult lane header result) ResultHeader 1 = .ok header :=
    Message.payload_of_getElem? rfl (Frame.payload?_ofPayload header)
  cases lane with
  | immediate => calc
      (hub.dispatchTraffic (.taskResult .immediate header result)).ledger
        = hub.ledgerAfter (.taskResult .immediate header result) .queueResult :=
          ledger_of_tag rfl
      _ = _ := by rw [ledgerAfter, Message.operation?, read]; rfl
  | scheduled => calc
      (hub.dispatchTraffic (.taskResult .scheduled header result)).ledger
        = hub.ledgerAfter (.taskResult .scheduled header result) .taskResult :=
          ledger_of_tag rfl
      _ = _ := by rw [ledgerAfter, Message.operation?, read]; rfl

/-- A destination that names nobody's queue is dropped. -/
theorem ledger_taskDestination (destination : Destination) :
    (hub.dispatchTraffic (.taskDestination destination)).ledger =
      match hub.registry.idByQueue destination.engine with
      | some engine => (hub.ledger.saveDestination destination.id engine destination.engine).2
      | none => hub.ledger := by
  have read : Message.payload (.taskDestination destination) Destination 1 = .ok destination :=
    Message.payload_of_getElem? rfl (Frame.payload?_ofPayload destination)
  calc
    (hub.dispatchTraffic (.taskDestination destination)).ledger
      = hub.ledgerAfter (.taskDestination destination) .taskDestination := ledger_of_tag rfl
    _ = _ := by
      rw [ledgerAfter, Message.operation?, read, Except.toOption, Option.bind_some]
      cases hub.registry.idByQueue destination.engine <;> rfl

theorem ledger_taskOutput (header : OutputHeader) :
    (hub.dispatchTraffic (.taskOutput header)).ledger =
      (hub.ledger.appendOutput header.id header.stream header.text).2 := by
  have read : Message.payload (.taskOutput header) OutputHeader 1 = .ok header :=
    Message.payload_of_getElem? rfl (Frame.payload?_ofPayload header)
  calc
    (hub.dispatchTraffic (.taskOutput header)).ledger
      = hub.ledgerAfter (.taskOutput header) .output := ledger_of_tag rfl
    _ = _ := by rw [ledgerAfter, Message.operation?, read]; rfl

/-! ## All messages -/

/-- What was reported of a task is done by the ledger with the very values that it was
reported with, and with the numbers that the registry has for the queues that were named;
a message that tells of no task leaves the ledger as it is.  Nothing else than the ledger
and the metrics changes. -/
theorem reports_of_dispatchTraffic (hub : Hub) :
    (∀ lane header content, (hub.dispatchTraffic (.taskRequest lane header content)).ledger =
      (hub.ledger.saveRequest header lane (header.engine.bind hub.registry.idByQueue) content
        hub.time).2) ∧
    (∀ lane header result, (hub.dispatchTraffic (.taskResult lane header result)).ledger =
      (hub.ledger.saveResult header (header.engine.bind hub.registry.idByQueue) result
        hub.time).2) ∧
    (∀ id queue, (hub.dispatchTraffic (.taskDestination ⟨id, queue⟩)).ledger =
      match hub.registry.idByQueue queue with
      | some engine => (hub.ledger.saveDestination id engine queue).2
      | none => hub.ledger) ∧
    (∀ id stream text, (hub.dispatchTraffic (.taskOutput ⟨id, stream, text⟩)).ledger =
      (hub.ledger.appendOutput id stream text).2) ∧
    (∀ message, message.isReport = false → (hub.dispatchTraffic message).ledger = hub.ledger) ∧
    ∀ message, hub.Records (hub.dispatchTraffic message) :=
  ⟨ledger_taskRequest, ledger_taskResult, fun id queue => ledger_taskDestination ⟨id, queue⟩,
    fun id stream text => ledger_taskOutput ⟨id, stream, text⟩,
    fun _ => ledger_of_not_isReport, records_dispatchTraffic hub⟩

/-- The tag of a request is not enough: a hub that knows a task goes on knowing it when
something that is no header comes with the tag. -/
theorem reports_of_dispatchTraffic_of_garbage :
    let hub := (start {} default default 0).dispatchTraffic
      (.taskRequest .scheduled ⟨"task", "client", none, none⟩ (.ofText "body"))
    let message : Message := ⟨[.ofText "in", .ofText "not json"]⟩
    message.isReport = false ∧ (hub.dispatchTraffic message).ledger = hub.ledger := by
  intro hub message
  have foreign : message.isReport = false := by decide +kernel
  rcases reports_of_dispatchTraffic hub with ⟨_, _, _, _, ignores, _⟩
  exact ⟨foreign, ignores message foreign⟩

end Hub

end ClusterHub

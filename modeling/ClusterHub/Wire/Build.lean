import ClusterHub.Wire.Kind
import ClusterHub.Wire.Reply

/-!
# Building messages

Every message of the protocol from its tag and its payload.
-/

namespace ClusterHub.Message

/-- A message that starts with a tag. -/
def tagged (tag : String) : Message := ⟨[.ofText tag]⟩

/-- The report of a task that was submitted. -/
def taskRequest (lane : Lane) (header : RequestHeader) (content : Frame) : Message :=
  let kind : TrafficKind := match lane with
    | .immediate => .queueRequest
    | .scheduled => .taskRequest
  ((tagged kind.tag).pushPayload header).push content

/-- The report of a task's result. -/
def taskResult (lane : Lane) (header : ResultHeader) (result : Frame) : Message :=
  let kind : TrafficKind := match lane with
    | .immediate => .queueResult
    | .scheduled => .taskResult
  ((tagged kind.tag).pushPayload header).push result

/-- The report that the scheduler chose an engine for a task. -/
def taskDestination (destination : Destination) : Message :=
  (tagged TrafficKind.taskDestination.tag).pushPayload destination

/-- The report of a task's output. -/
def taskOutput (header : OutputHeader) : Message :=
  (tagged TrafficKind.output.tag).pushPayload header

/-- A query. -/
def query {α : Type} [Payload α] (kind : QueryKind) (payload : α) : Message :=
  (tagged kind.tag).pushPayload payload

/-- A reply to the query of `identity`, with frames that follow it. -/
def reply {α : Type} [Payload α] (identity : Frame) (kind : QueryKind) (content : Reply α)
    (trailing : List Frame) : Message :=
  ⟨[identity, .ofText kind.replyTag, .ofPayload content] ++ trailing⟩

/-- The notice that an engine joined or left. -/
def engineNotice (kind : NoticeKind) (notice : EngineNotice) : Message :=
  (tagged kind.tag).pushPayload notice

end ClusterHub.Message

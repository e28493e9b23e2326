/-!
# Faults

Everything that can go wrong in the hub, its clients and its engines, by cause.
A fault has a short name, which replies carry, and a message for people.  Two
classes of faults matter to the hub: a message it cannot read is dropped, and a
request that asks for something impossible is answered with its fault.
-/

namespace ClusterHub

/-- The causes of failure. -/
inductive Fault
  /-- Another socket is bound at the address. -/
  | addressInUse (address : String)
  /-- Nobody is connected under the routing identity. -/
  | peerUnreachable (identity : String)
  /-- The event loop already has an endpoint of that name. -/
  | duplicateEndpoint (name : String)
  /-- A wait came to its end. -/
  | timeout (waitedFor : String) (afterMillis : Nat)
  /-- All senders of an inbox are gone. -/
  | channelClosed (endpoint : String)
  /-- A message is shorter than expected. -/
  | missingFrame (index : Nat)
  /-- A frame that should be text is not. -/
  | invalidUtf8 (index : Nat)
  /-- A tag is not in the table of message kinds. -/
  | unknownMessageType (tag : String)
  /-- A payload frame does not hold a value of its type. -/
  | malformedPayload
  /-- The queue identity belongs to a pending or active engine. -/
  | queueInUse (queue : String)
  /-- The heart identity belongs to a pending or active engine. -/
  | heartInUse (heart : String)
  /-- No engine has that number or queue identity. -/
  | unknownEngine (engine : String)
  /-- A registration came to nothing. -/
  | registrationRejected (reason : String)
  /-- No task has that identity. -/
  | unknownTask (task : String)
  /-- The task is still outstanding. -/
  | taskPending (task : String)
  /-- The task has not completed and cannot be sent again. -/
  | taskNotDone (task : String)
  /-- The hub answered with an error. -/
  | remote (name : String) (reason : String)
  /-- Anything else. -/
  | internal (message : String)
deriving DecidableEq, Repr, Inhabited

namespace Fault

/-- The name that replies carry. -/
def name : Fault → String
  | .addressInUse _ => "AddressInUse"
  | .peerUnreachable _ => "PeerUnreachable"
  | .duplicateEndpoint _ => "DuplicateEndpoint"
  | .timeout _ _ => "Timeout"
  | .channelClosed _ => "ChannelClosed"
  | .missingFrame _ => "MissingFrame"
  | .invalidUtf8 _ => "InvalidUtf8"
  | .unknownMessageType _ => "UnknownMessageType"
  | .malformedPayload => "Codec"
  | .queueInUse _ => "QueueInUse"
  | .heartInUse _ => "HeartInUse"
  | .unknownEngine _ => "UnknownEngine"
  | .registrationRejected _ => "RegistrationRejected"
  | .unknownTask _ => "UnknownTask"
  | .taskPending _ => "TaskPending"
  | .taskNotDone _ => "TaskNotDone"
  | .remote _ _ => "Remote"
  | .internal _ => "Internal"

/-- The message for people. -/
def message : Fault → String
  | .addressInUse address => s!"Address already bound: {address}"
  | .peerUnreachable identity => s!"Peer `{identity}' is not reachable"
  | .duplicateEndpoint name => s!"Endpoint `{name}' already registered"
  | .timeout waitedFor afterMillis =>
      s!"Timed out after {afterMillis} ms waiting for {waitedFor}"
  | .channelClosed endpoint => s!"Channel closed: {endpoint}"
  | .missingFrame index => s!"Missing frame {index}"
  | .invalidUtf8 index => s!"Frame {index} is not valid UTF-8"
  | .unknownMessageType tag => s!"Unknown message type `{tag}'"
  | .malformedPayload => "Malformed payload"
  | .queueInUse queue => s!"Queue id `{queue}' in use"
  | .heartInUse heart => s!"Heart id `{heart}' in use"
  | .unknownEngine engine => s!"Unknown engine: {engine}"
  | .registrationRejected reason => s!"Registration rejected: {reason}"
  | .unknownTask task => s!"unknown message id: {task}"
  | .taskPending task => s!"Task {task} is still pending"
  | .taskNotDone task => s!"Task {task} has not completed"
  | .remote name reason => s!"{name}: {reason}"
  | .internal message => s!"Internal error: {message}"

/-- Whether the message that caused the fault cannot be read and is to be
dropped. -/
def isUnreadable : Fault → Bool
  | .missingFrame _ | .invalidUtf8 _ | .unknownMessageType _ | .malformedPayload => true
  | _ => false

/-- Whether the one who asked is told of the fault. -/
def isCallersOwn : Fault → Bool
  | .queueInUse _ | .heartInUse _ | .unknownEngine _ | .unknownTask _ | .taskPending _
  | .taskNotDone _ => true
  | _ => false

end Fault

end ClusterHub

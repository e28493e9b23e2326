import ClusterHub.Fault
import ClusterHub.Json.Parse
import ClusterHub.Json.Print
import ClusterHub.Json.Reading

/-!
# Messages

A message is a list of frames of octets: a routing identity where one is
needed, then a tag, then payloads.  A payload frame holds one JSON value.
-/

namespace ClusterHub

/-- One part of a message. -/
abbrev Frame := ByteArray

/-- Frames are equal if their octets are. -/
instance (priority := 2000) Frame.decidableEq : DecidableEq Frame := ByteArray.instDecidableEq

/-- The frame of a text. -/
def Frame.ofText (s : String) : Frame := s.toUTF8

@[simp]
theorem Frame.fromUTF8?_ofText (s : String) : String.fromUTF8? (Frame.ofText s) = some s :=
  dif_pos s.isValidUTF8

/-- A value that frames can carry. -/
class Payload (α : Type) where
  toJson : α → Json
  read : Json.Reading α

/-- The frame of a value. -/
def Frame.ofPayload {α : Type} [Payload α] (a : α) : Frame :=
  (Payload.toJson a).toOctets

/-- The value of a type that a frame holds. -/
def Frame.payload? (α : Type) [Payload α] (frame : Frame) : Option α :=
  (Json.parse? frame.data.toList).bind (Payload.read .direct)

/-- A list of frames. -/
structure Message where
  frames : List Frame
deriving DecidableEq, Inhabited

namespace Message

/-- The message without frames. -/
def empty : Message := ⟨[]⟩

/-- Add a frame at the end. -/
def push (m : Message) (frame : Frame) : Message := ⟨m.frames ++ [frame]⟩

/-- Add a text at the end. -/
def pushText (m : Message) (s : String) : Message := m.push (.ofText s)

/-- Add the frame of a value at the end. -/
def pushPayload {α : Type} [Payload α] (m : Message) (a : α) : Message :=
  m.push (.ofPayload a)

/-- Add a frame in front. -/
def pushFront (m : Message) (frame : Frame) : Message := ⟨frame :: m.frames⟩

/-- The first frame and the message without it. -/
def popFront? (m : Message) : Option (Frame × Message) :=
  match m.frames with
  | [] => none
  | frame :: frames => some (frame, ⟨frames⟩)

@[simp]
theorem frames_push (m : Message) (frame : Frame) :
    (m.push frame).frames = m.frames ++ [frame] :=
  rfl

@[simp]
theorem popFront?_pushFront (m : Message) (frame : Frame) :
    (m.pushFront frame).popFront? = some (frame, m) :=
  rfl

/-- The number of frames. -/
def size (m : Message) : Nat := m.frames.length

/-- Whether there are no frames. -/
def isEmpty (m : Message) : Bool := m.frames.isEmpty

/-- The frame at an index. -/
def frame (m : Message) (index : Nat) : Except Fault Frame :=
  match m.frames[index]? with
  | some frame => .ok frame
  | none => .error (.missingFrame index)

/-- The frame at an index as text. -/
def text (m : Message) (index : Nat) : Except Fault String := do
  let frame ← m.frame index
  match String.fromUTF8? frame with
  | some s => return s
  | none => throw (.invalidUtf8 index)

/-- A frame that was made of a text is read as that text. -/
theorem text_eq_of_getElem? {m : Message} {index : Nat} {s : String}
    (found : m.frames[index]? = some (.ofText s)) : m.text index = .ok s := by
  simp [text, frame, found, Bind.bind, Except.bind, Pure.pure, Except.pure]

/-- The value that the frame at an index holds. -/
def payload (m : Message) (α : Type) [Payload α] (index : Nat) : Except Fault α := do
  let frame ← m.frame index
  match frame.payload? α with
  | some a => return a
  | none => throw .malformedPayload

/-- The frames from an index on. -/
def framesFrom (m : Message) (index : Nat) : List Frame := m.frames.drop index

end Message

end ClusterHub

import ClusterHub.Wire.Codec

/-!
# Replies

The envelope of answers: an object with a `status`, `ok` or `error`, and the
`content` that belongs to it, or the array of the two.  When the content comes
before the status it has to be held until the status is known.
-/

namespace ClusterHub.Reply

variable {α : Type}

/-- The two sorts of replies. -/
inductive Status
  | ok
  | error
deriving DecidableEq, Repr

/-- Read the name of a status. -/
def Status.ofName? : String → Option Status
  | "ok" => some .ok
  | "error" => some .error
  | _ => none

/-- Read the status of a reply that is an object. -/
def readStatus : Json.Reading Status :=
  Json.choice [("ok", .ok), ("error", .error)]

/-- Read the content of an error, which must be an object. -/
def readError (source : Json.Source) (value : Json) : Option (Reply α) :=
  match value with
  | .object _ => do
      let fields ← Json.fields? ["ename", "reason"] source value
      return .error (← fields.required Json.text "ename") (← fields.required Json.text "reason")
  | _ => none

/-- Read the content that goes with a status. -/
def readContent (read : Json.Reading α) (status : Status) (source : Json.Source)
    (value : Json) : Option (Reply α) :=
  match status with
  | .ok => (read source value).map .ok
  | .error => readError source value

/-- Read a reply. -/
def read (read : Json.Reading α) : Json.Reading (Reply α) := fun source value =>
  match value with
  | .array [status, content] => do
      let status ← (Json.text source status).bind Status.ofName?
      readContent read status source content
  | .object members => do
      let named ← Json.namedMembers? members
      match named.filter fun member => member.1 = "status" || member.1 = "content" with
      | [(first, value), (second, other)] =>
          if first = "status" ∧ second = "content" then do
            let status ← readStatus source value
            readContent read status source other
          else if first = "content" ∧ second = "status" then
            if Json.canHold Json.maxDepth value then do
              let status ← readStatus source other
              readContent read status .held value
            else none
          else none
      | _ => none
  | _ => none

/-- The JSON form of a reply. -/
def toJson (write : α → Json) : Reply α → Json
  | .ok content => .ofMembers [("status", .ofText "ok"), ("content", write content)]
  | .error name reason => .ofMembers
      [("status", .ofText "error"),
       ("content", .ofMembers [("ename", .ofText name), ("reason", .ofText reason)])]

instance [Payload α] : Payload (Reply α) where
  toJson := toJson Payload.toJson
  read := Reply.read Payload.read

/-- Change the content of a reply. -/
def map {β : Type} (f : α → β) : Reply α → Reply β
  | .ok content => .ok (f content)
  | .error name reason => .error name reason

/-- The reply that tells of a fault. -/
def ofFault (fault : Fault) : Reply α := .error fault.name fault.message

/-- The content of a reply; an error is a fault of the remote side. -/
def toExcept : Reply α → Except Fault α
  | .ok content => .ok content
  | .error name reason => .error (.remote name reason)

end ClusterHub.Reply

import ClusterHub.Json.Canonical
import ClusterHub.Wire.Message
import ClusterHub.Wire.Payload

/-!
# JSON forms of payloads

For every payload type, the object it is written as and the reader of values of
that type.  Readers also take the array of the fields in the order in which
they are written here.
-/

namespace ClusterHub

open Json (Fields)

instance : Payload Unit := ⟨fun _ => .null, Json.nothing⟩

instance : Payload Json := ⟨id, Json.any⟩

instance : Payload String := ⟨Json.ofText, Json.text⟩

/-- The text of an engine number. -/
def EngineId.text (id : EngineId) : String := Text.decimal id.toNat

/-- The JSON form of a number of 32 bits. -/
def Json.ofUInt32 (n : UInt32) : Json := .ofNat n.toNat

/-- The JSON form of a number of 64 bits. -/
def Json.ofUInt64 (n : UInt64) : Json := .ofNat n.toNat

instance : Payload EngineId := ⟨Json.ofUInt32, Json.uint32⟩

/-- The name of a lane. -/
def Lane.name : Lane → String
  | .immediate => "immediate"
  | .scheduled => "scheduled"

instance : Payload Lane where
  toJson lane := .ofText lane.name
  read := Json.choice [("immediate", .immediate), ("scheduled", .scheduled)]

/-- The name of a status. -/
def TaskStatus.name : TaskStatus → String
  | .pending => "pending"
  | .completed => "completed"

instance : Payload TaskStatus where
  toJson status := .ofText status.name
  read := Json.choice [("pending", .pending), ("completed", .completed)]

/-- The JSON form of a list of texts. -/
def Json.ofTexts (texts : List String) : Json := .ofList .ofText texts

/-- The JSON form of a time that may be missing. -/
def Json.ofTime? (time : Option Timestamp) : Json := .ofOption .ofTimestamp time

instance : Payload Registration where
  toJson r := .ofMembers
    [("heartbeat", .ofText r.heart), ("queue", .ofText r.queue),
     ("registration", .ofText r.name), ("services", .ofTexts r.services)]
  read source value := do
    let fields ← Json.fields? ["heartbeat", "queue", "registration", "services"] source value
    return {
      heart := ← fields.required Json.text "heartbeat"
      queue := ← fields.required Json.text "queue"
      name := ← fields.required Json.text "registration"
      services := ← fields.withDefault (Json.list Json.text) [] "services" }

instance : Payload EngineAck where
  toJson a := .ofMembers [("id", .ofUInt32 a.id)]
  read source value := do
    let fields ← Json.fields? ["id"] source value
    return { id := ← fields.required Json.uint32 "id" }

instance : Payload Unregistration where
  toJson u := .ofMembers [("queue", .ofText u.queue)]
  read source value := do
    let fields ← Json.fields? ["queue"] source value
    return { queue := ← fields.required Json.text "queue" }

instance : Payload EngineNotice where
  toJson n := .ofMembers
    [("id", .ofUInt32 n.id), ("queue", .ofText n.queue), ("heartbeat", .ofText n.heart),
     ("registration", .ofText n.name), ("services", .ofTexts n.services)]
  read source value := do
    let fields ← Json.fields? ["id", "queue", "heartbeat", "registration", "services"]
      source value
    return {
      id := ← fields.required Json.uint32 "id"
      queue := ← fields.required Json.text "queue"
      heart := ← fields.required Json.text "heartbeat"
      name := ← fields.required Json.text "registration"
      services := ← fields.required (Json.list Json.text) "services" }

/-! ## Queries and answers -/

/-- The JSON form of a choice of engines. -/
def Json.ofTargets (targets : Option (List EngineId)) : Json :=
  .ofOption (Json.ofList Json.ofUInt32) targets

instance : Payload LoadQuery where
  toJson q := .ofMembers [("targets", .ofTargets q.targets)]
  read source value := do
    let fields ← Json.fields? ["targets"] source value
    return {
      targets := ←
        fields.withDefault (Json.optional (Json.list Json.uint32)) none "targets" }

instance : Payload EngineLoad where
  toJson l := .ofMembers
    [("queue", .ofUInt64 l.immediate), ("tasks", .ofUInt64 l.scheduled)]
  read source value := do
    let fields ← Json.fields? ["queue", "tasks"] source value
    return {
      immediate := ← fields.required Json.uint64 "queue"
      scheduled := ← fields.required Json.uint64 "tasks" }

instance : Payload LoadReport where
  toJson := Json.ofNumberMap Payload.toJson
  read := Json.numberMap Payload.read

instance : Payload QueueQuery where
  toJson q := .ofMembers [("targets", .ofTargets q.targets), ("verbose", .bool q.verbose)]
  read source value := do
    let fields ← Json.fields? ["targets", "verbose"] source value
    return {
      targets := ←
        fields.withDefault (Json.optional (Json.list Json.uint32)) none "targets"
      verbose := ← fields.withDefault Json.flag false "verbose" }

/-- A member that is left out when there is no value for it. -/
def Json.memberOfSome {α : Type} (name : String) (write : α → Json) :
    Option α → List (String × Json)
  | none => []
  | some a => [(name, write a)]

instance : Payload EngineQueue where
  toJson q := .ofMembers <|
    [("queue", .ofUInt64 q.immediate), ("tasks", .ofUInt64 q.scheduled),
     ("completed", .ofUInt64 q.completed)] ++
    Json.memberOfSome "queue_ids" Json.ofTexts q.immediateIds ++
    Json.memberOfSome "completed_ids" Json.ofTexts q.completedIds
  read source value := do
    let fields ← Json.fields? ["queue", "tasks", "completed", "queue_ids", "completed_ids"]
      source value
    return {
      immediate := ← fields.required Json.uint64 "queue"
      scheduled := ← fields.required Json.uint64 "tasks"
      completed := ← fields.required Json.uint64 "completed"
      immediateIds := ←
        fields.withDefault (Json.optional (Json.list Json.text)) none "queue_ids"
      completedIds := ←
        fields.withDefault (Json.optional (Json.list Json.text)) none "completed_ids" }

instance : Payload QueueReport where
  toJson r := .ofMembers
    [("engines", .ofNumberMap Payload.toJson r.engines),
     ("unassigned", .ofTexts r.unassigned)]
  read source value := do
    let fields ← Json.fields? ["engines", "unassigned"] source value
    return {
      engines := ← fields.required (Json.numberMap Payload.read) "engines"
      unassigned := ← fields.required (Json.list Json.text) "unassigned" }

instance : Payload PurgeOrder where
  toJson o := .ofMembers
    [("all", .bool o.all), ("msg_ids", .ofTexts o.tasks),
     ("engine_ids", .ofList Json.ofUInt32 o.engines)]
  read source value := do
    let fields ← Json.fields? ["all", "msg_ids", "engine_ids"] source value
    return {
      all := ← fields.withDefault Json.flag false "all"
      tasks := ← fields.withDefault (Json.list Json.text) [] "msg_ids"
      engines := ← fields.withDefault (Json.list Json.uint32) [] "engine_ids" }

instance : Payload PurgeReport where
  toJson r := .ofMembers [("purged", .ofUInt64 r.purged)]
  read source value := do
    let fields ← Json.fields? ["purged"] source value
    return { purged := ← fields.required Json.uint64 "purged" }

instance : Payload ResultQuery where
  toJson q := .ofMembers
    [("msg_ids", .ofTexts q.tasks), ("status_only", .bool q.statusOnly)]
  read source value := do
    let fields ← Json.fields? ["msg_ids", "status_only"] source value
    return {
      tasks := ← fields.required (Json.list Json.text) "msg_ids"
      statusOnly := ← fields.withDefault Json.flag false "status_only" }

instance : Payload TaskSummary where
  toJson s := .ofMembers
    [("msg_id", .ofText s.id), ("client", .ofText s.client),
     ("lane", Payload.toJson s.lane), ("status", Payload.toJson s.status),
     ("engine", .ofOption Json.ofUInt32 s.engine), ("submitted", .ofTime? s.submitted),
     ("started", .ofTime? s.started), ("completed", .ofTime? s.completed),
     ("resubmitted", .ofTime? s.resubmitted), ("stranded", .bool s.stranded)]
  read source value := do
    let fields ← Json.fields?
      ["msg_id", "client", "lane", "status", "engine", "submitted", "started", "completed",
       "resubmitted", "stranded"] source value
    return {
      id := ← fields.required Json.text "msg_id"
      client := ← fields.required Json.text "client"
      lane := ← fields.required Payload.read "lane"
      status := ← fields.required Payload.read "status"
      engine := ← fields.nullable Json.uint32 "engine"
      submitted := ← fields.nullable Json.timestamp "submitted"
      started := ← fields.nullable Json.timestamp "started"
      completed := ← fields.nullable Json.timestamp "completed"
      resubmitted := ← fields.nullable Json.timestamp "resubmitted"
      stranded := ← fields.withDefault Json.flag false "stranded" }

instance : Payload ResultReport where
  toJson r := .ofMembers
    [("pending", .ofTexts r.pending), ("completed", .ofTexts r.completed),
     ("results", .ofTextMap Payload.toJson r.results)]
  read source value := do
    let fields ← Json.fields? ["pending", "completed", "results"] source value
    return {
      pending := ← fields.required (Json.list Json.text) "pending"
      completed := ← fields.required (Json.list Json.text) "completed"
      results := ← fields.required (Json.textMap Payload.read) "results" }

instance : Payload HistoryReport where
  toJson r := .ofMembers [("history", .ofTexts r.history)]
  read source value := do
    let fields ← Json.fields? ["history"] source value
    return { history := ← fields.required (Json.list Json.text) "history" }

instance : Payload TaskFilter where
  toJson f := .ofMembers
    [("client", .ofOption Json.ofText f.client), ("engine", .ofOption Json.ofUInt32 f.engine),
     ("status", .ofOption Payload.toJson f.status), ("lane", .ofOption Payload.toJson f.lane)]
  read source value := do
    let fields ← Json.fields? ["client", "engine", "status", "lane"] source value
    return {
      client := ← fields.withDefault (Json.optional Json.text) none "client"
      engine := ← fields.withDefault (Json.optional Json.uint32) none "engine"
      status := ← fields.withDefault (Json.optional Payload.read) none "status"
      lane := ← fields.withDefault (Json.optional Payload.read) none "lane" }

instance : Payload TaskListing where
  toJson l := .ofMembers [("records", .ofList Payload.toJson l.records)]
  read source value := do
    let fields ← Json.fields? ["records"] source value
    return { records := ← fields.required (Json.list Payload.read) "records" }

instance : Payload ResubmitOrder where
  toJson o := .ofMembers [("msg_ids", .ofTexts o.tasks)]
  read source value := do
    let fields ← Json.fields? ["msg_ids"] source value
    return { tasks := ← fields.required (Json.list Json.text) "msg_ids" }

instance : Payload ResubmitReport where
  toJson r := .ofMembers [("resubmitted", .ofTexts r.resubmitted)]
  read source value := do
    let fields ← Json.fields? ["resubmitted"] source value
    return { resubmitted := ← fields.required (Json.list Json.text) "resubmitted" }

instance : Payload ShutdownAck where
  toJson a := .ofMembers [("delay_ms", .ofUInt64 a.delayMillis)]
  read source value := do
    let fields ← Json.fields? ["delay_ms"] source value
    return { delayMillis := ← fields.required Json.uint64 "delay_ms" }

instance : Payload ClientAddresses where
  toJson a := .ofMembers
    [("registration", .ofText a.registration), ("control", .ofText a.control),
     ("mux", .ofText a.mux), ("task", .ofText a.task), ("task_scheme", .ofText a.taskScheme),
     ("iopub", .ofText a.output), ("notification", .ofText a.notification)]
  read source value := do
    let fields ← Json.fields?
      ["registration", "control", "mux", "task", "task_scheme", "iopub", "notification"]
      source value
    return {
      registration := ← fields.required Json.text "registration"
      control := ← fields.required Json.text "control"
      mux := ← fields.required Json.text "mux"
      task := ← fields.required Json.text "task"
      taskScheme := ← fields.required Json.text "task_scheme"
      output := ← fields.required Json.text "iopub"
      notification := ← fields.required Json.text "notification" }

/-- Read exactly two texts. -/
def Json.textPair : Json.Reading (String × String) := fun source value => do
  match ← Json.list Json.text source value with
  | [a, b] => some (a, b)
  | _ => none

instance : Payload EngineAddresses where
  toJson a := .ofMembers
    [("registration", .ofText a.registration), ("control", .ofText a.control),
     ("mux", .ofText a.mux), ("task", .ofText a.task), ("iopub", .ofText a.output),
     ("heartbeat", .ofTexts [a.ping, a.pong])]
  read source value := do
    let fields ← Json.fields? ["registration", "control", "mux", "task", "iopub", "heartbeat"]
      source value
    let heartbeat ← fields.required Json.textPair "heartbeat"
    return {
      registration := ← fields.required Json.text "registration"
      control := ← fields.required Json.text "control"
      mux := ← fields.required Json.text "mux"
      task := ← fields.required Json.text "task"
      output := ← fields.required Json.text "iopub"
      ping := heartbeat.1
      pong := heartbeat.2 }

instance : Payload Directory where
  toJson d := .ofMembers
    [("client", Payload.toJson d.client), ("engines", .ofNumberMap Json.ofText d.engines)]
  read source value := do
    let fields ← Json.fields? ["client", "engines"] source value
    return {
      client := ← fields.required Payload.read "client"
      engines := ← fields.required (Json.numberMap Json.text) "engines" }

instance : Payload RequestHeader where
  toJson h := .ofMembers
    [("msg_id", .ofText h.id), ("client", .ofText h.client),
     ("engine", .ofOption Json.ofText h.engine), ("submitted", .ofTime? h.submitted)]
  read source value := do
    let fields ← Json.fields? ["msg_id", "client", "engine", "submitted"] source value
    return {
      id := ← fields.required Json.text "msg_id"
      client := ← fields.required Json.text "client"
      engine := ← fields.withDefault (Json.optional Json.text) none "engine"
      submitted := ← fields.withDefault (Json.optional Json.timestamp) none "submitted" }

instance : Payload ResultHeader where
  toJson h := .ofMembers
    [("msg_id", .ofText h.id), ("engine", .ofOption Json.ofText h.engine),
     ("started", .ofTime? h.started), ("completed", .ofTime? h.completed)]
  read source value := do
    let fields ← Json.fields? ["msg_id", "engine", "started", "completed"] source value
    return {
      id := ← fields.required Json.text "msg_id"
      engine := ← fields.withDefault (Json.optional Json.text) none "engine"
      started := ← fields.withDefault (Json.optional Json.timestamp) none "started"
      completed := ← fields.withDefault (Json.optional Json.timestamp) none "completed" }

instance : Payload Destination where
  toJson d := .ofMembers [("msg_id", .ofText d.id), ("engine", .ofText d.engine)]
  read source value := do
    let fields ← Json.fields? ["msg_id", "engine"] source value
    return {
      id := ← fields.required Json.text "msg_id"
      engine := ← fields.required Json.text "engine" }

instance : Payload OutputHeader where
  toJson h := .ofMembers
    [("msg_id", .ofText h.id), ("stream", .ofText h.stream), ("text", .ofText h.text)]
  read source value := do
    let fields ← Json.fields? ["msg_id", "stream", "text"] source value
    return {
      id := ← fields.required Json.text "msg_id"
      stream := ← fields.required Json.text "stream"
      text := ← fields.required Json.text "text" }

end ClusterHub

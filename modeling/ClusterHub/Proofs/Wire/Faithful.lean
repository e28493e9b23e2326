import ClusterHub.Proofs.Json.Reading
import ClusterHub.Wire.Reply

/-!
# Faithful payloads

Every type that frames carry between the hub, its engines and its clients is read back
from what is written for it: each structure is made up again from its members, with the
members that were left out at their defaults.
-/

namespace ClusterHub

open Json (Fields ReadsBack IsSpelled)

/-- A type whose values are read back from their JSON forms. -/
class Payload.Faithful (α : Type) [Payload α] : Prop where
  readsBack : ReadsBack (Payload.toJson : α → Json) Payload.read

/-! ## Members

What the members of structures are written with. -/

namespace Json

@[simp]
theorem isSpelled_ofText (s : String) : (ofText s).IsSpelled := readsBack_text.spelled s

@[simp]
theorem text_ofText (s : String) : text .direct (ofText s) = some s := readsBack_text.read s

@[simp]
theorem isSpelled_bool (b : Bool) : (bool b).IsSpelled := readsBack_flag.spelled b

@[simp]
theorem flag_bool (b : Bool) : flag .direct (bool b) = some b := rfl

theorem readsBack_uint32 : ReadsBack ofUInt32 uint32 where
  spelled n := isSpelled_ofNat n.toNat
  read := uint32_ofNat

@[simp]
theorem isSpelled_ofUInt32 (n : UInt32) : (ofUInt32 n).IsSpelled := readsBack_uint32.spelled n

@[simp]
theorem uint32_ofUInt32 (n : UInt32) : uint32 .direct (ofUInt32 n) = some n := uint32_ofNat n

@[simp]
theorem isSpelled_ofUInt64 (n : UInt64) : (ofUInt64 n).IsSpelled := isSpelled_ofNat n.toNat

@[simp]
theorem uint64_ofUInt64 (n : UInt64) : uint64 .direct (ofUInt64 n) = some n := uint64_ofNat n

@[simp]
theorem isSpelled_ofTexts (texts : List String) : (ofTexts texts).IsSpelled :=
  readsBack_text.list.spelled texts

@[simp]
theorem list_ofTexts (texts : List String) : list text .direct (ofTexts texts) = some texts :=
  readsBack_text.list.read texts

@[simp]
theorem textPair_ofTexts (a b : String) :
    textPair .direct (ofTexts [a, b]) = some (a, b) := by
  simp [textPair]

@[simp]
theorem isSpelled_ofUInt32s (ns : List UInt32) : (ofList ofUInt32 ns).IsSpelled :=
  readsBack_uint32.list.spelled ns

@[simp]
theorem list_ofUInt32s (ns : List UInt32) : list uint32 .direct (ofList ofUInt32 ns) = some ns :=
  readsBack_uint32.list.read ns

@[simp]
theorem isSpelled_ofTargets (targets : Option (List EngineId)) : (ofTargets targets).IsSpelled :=
  (readsBack_uint32.list.optional fun _ => Json.noConfusion).spelled targets

@[simp]
theorem optional_ofTargets (targets : Option (List EngineId)) :
    optional (list uint32) .direct (ofTargets targets) = some targets :=
  (readsBack_uint32.list.optional fun _ => Json.noConfusion).read targets

@[simp]
theorem isSpelled_ofTime? (time : Option Timestamp) : (ofTime? time).IsSpelled :=
  (readsBack_timestamp.optional fun _ => Json.noConfusion).spelled time

@[simp]
theorem optional_ofTime? (time : Option Timestamp) :
    optional timestamp .direct (ofTime? time) = some time :=
  (readsBack_timestamp.optional fun _ => Json.noConfusion).read time

@[simp]
theorem isSpelled_ofText? (s : Option String) : (ofOption ofText s).IsSpelled :=
  (readsBack_text.optional fun _ => Json.noConfusion).spelled s

@[simp]
theorem optional_ofText? (s : Option String) :
    optional text .direct (ofOption ofText s) = some s :=
  (readsBack_text.optional fun _ => Json.noConfusion).read s

/-- A list is never read as absent. -/
@[simp]
theorem optional_ofTexts (texts : List String) :
    optional (list text) .direct (ofTexts texts) = some (some texts) :=
  (readsBack_text.list.optional fun _ => Json.noConfusion).read (some texts)

@[simp]
theorem isSpelled_ofUInt32? (n : Option UInt32) : (ofOption ofUInt32 n).IsSpelled :=
  (readsBack_uint32.optional fun _ => Json.noConfusion).spelled n

@[simp]
theorem optional_ofUInt32? (n : Option UInt32) :
    optional uint32 .direct (ofOption ofUInt32 n) = some n :=
  (readsBack_uint32.optional fun _ => Json.noConfusion).read n

end Json

namespace Payload

variable {α : Type} [Payload α] [Faithful α]

@[simp]
theorem isSpelled_toJson (a : α) : (toJson a).IsSpelled := Faithful.readsBack.spelled a

@[simp]
theorem read_toJson (a : α) : read .direct (toJson a) = some a := Faithful.readsBack.read a

@[simp]
theorem isSpelled_ofList (items : List α) : (Json.ofList toJson items).IsSpelled :=
  Faithful.readsBack.list.spelled items

@[simp]
theorem list_toJson (items : List α) :
    Json.list read .direct (Json.ofList toJson items) = some items :=
  Faithful.readsBack.list.read items

@[simp]
theorem isSpelled_ofNumberMap (map : Std.ExtTreeMap UInt32 α) :
    (Json.ofNumberMap toJson map).IsSpelled :=
  Faithful.readsBack.numberMap.spelled map

@[simp]
theorem numberMap_toJson (map : Std.ExtTreeMap UInt32 α) :
    Json.numberMap read .direct (Json.ofNumberMap toJson map) = some map :=
  Faithful.readsBack.numberMap.read map

@[simp]
theorem isSpelled_ofTextMap (map : Std.ExtTreeMap String α) :
    (Json.ofTextMap toJson map).IsSpelled :=
  Faithful.readsBack.textMap.spelled map

@[simp]
theorem textMap_toJson (map : Std.ExtTreeMap String α) :
    Json.textMap read .direct (Json.ofTextMap toJson map) = some map :=
  Faithful.readsBack.textMap.read map

end Payload

open Payload (Faithful)
open Json (readsBack_ofMembers)

attribute [local simp] Fields.required Fields.withDefault Fields.nullable List.lookup_cons

/-! ## Leaves -/

instance : Faithful Unit := ⟨Json.readsBack_nothing⟩

instance : Faithful EngineId := ⟨Json.readsBack_uint32⟩

instance : Faithful Lane :=
  ⟨Json.readsBack_choice fun lane => by cases lane <;> rfl⟩

instance : Faithful TaskStatus :=
  ⟨Json.readsBack_choice fun status => by cases status <;> rfl⟩

instance : Faithful Registration :=
  ⟨readsBack_ofMembers (by decide) (by simp) (by simp) (by simp)⟩

instance : Faithful EngineAck :=
  ⟨readsBack_ofMembers (by decide) (by simp) (by simp) (by simp)⟩

instance : Faithful Unregistration :=
  ⟨readsBack_ofMembers (by decide) (by simp) (by simp) (by simp)⟩

instance : Faithful EngineNotice :=
  ⟨readsBack_ofMembers (by decide) (by simp) (by simp) (by simp)⟩

instance : Faithful LoadQuery :=
  ⟨readsBack_ofMembers (by decide) (by simp) (by simp) (by simp)⟩

instance : Faithful EngineLoad :=
  ⟨readsBack_ofMembers (by decide) (by simp) (by simp) (by simp)⟩

instance : Faithful LoadReport := ⟨Faithful.readsBack.numberMap⟩

instance : Faithful QueueQuery :=
  ⟨readsBack_ofMembers (by decide) (by simp) (by simp) (by simp)⟩

/-- What is left out of the queue of an engine is read as absent. -/
instance : Faithful EngineQueue where
  readsBack := by
    apply readsBack_ofMembers
    case distinct => decide
    case ordered =>
      rintro ⟨immediate, scheduled, completed, _ | immediateIds, _ | completedIds⟩ <;>
        simp [Json.memberOfSome]
    case spelled =>
      rintro ⟨immediate, scheduled, completed, _ | immediateIds, _ | completedIds⟩ <;>
        simp [Json.memberOfSome]
    case rebuilt =>
      rintro ⟨immediate, scheduled, completed, _ | immediateIds, _ | completedIds⟩ <;>
        simp [Json.memberOfSome]

instance : Faithful QueueReport :=
  ⟨readsBack_ofMembers (by decide) (by simp) (by simp) (by simp)⟩

instance : Faithful PurgeOrder :=
  ⟨readsBack_ofMembers (by decide) (by simp) (by simp) (by simp)⟩

instance : Faithful PurgeReport :=
  ⟨readsBack_ofMembers (by decide) (by simp) (by simp) (by simp)⟩

instance : Faithful ResultQuery :=
  ⟨readsBack_ofMembers (by decide) (by simp) (by simp) (by simp)⟩

instance : Faithful TaskSummary :=
  ⟨readsBack_ofMembers (by decide) (by simp) (by simp) (by simp)⟩

instance : Faithful ResultReport :=
  ⟨readsBack_ofMembers (by decide) (by simp) (by simp) (by simp)⟩

instance : Faithful HistoryReport :=
  ⟨readsBack_ofMembers (by decide) (by simp) (by simp) (by simp)⟩

instance : Faithful TaskFilter where
  readsBack := by
    have status : ReadsBack (.ofOption (Payload.toJson : TaskStatus → Json))
        (Json.optional Payload.read) :=
      Faithful.readsBack.optional fun _ => Json.noConfusion
    have lane : ReadsBack (.ofOption (Payload.toJson : Lane → Json))
        (Json.optional Payload.read) :=
      Faithful.readsBack.optional fun _ => Json.noConfusion
    apply readsBack_ofMembers
    case distinct => decide
    case ordered => simp
    case spelled => simp [status.spelled, lane.spelled]
    case rebuilt => simp [status.read, lane.read]

instance : Faithful TaskListing :=
  ⟨readsBack_ofMembers (by decide) (by simp) (by simp) (by simp)⟩

instance : Faithful ResubmitOrder :=
  ⟨readsBack_ofMembers (by decide) (by simp) (by simp) (by simp)⟩

instance : Faithful ResubmitReport :=
  ⟨readsBack_ofMembers (by decide) (by simp) (by simp) (by simp)⟩

instance : Faithful ShutdownAck :=
  ⟨readsBack_ofMembers (by decide) (by simp) (by simp) (by simp)⟩

instance : Faithful ClientAddresses :=
  ⟨readsBack_ofMembers (by decide) (by simp) (by simp) (by simp)⟩

instance : Faithful EngineAddresses :=
  ⟨readsBack_ofMembers (by decide) (by simp) (by simp) (by simp)⟩

instance : Faithful Directory where
  readsBack := by
    have engines := Json.readsBack_text.numberMap
    apply readsBack_ofMembers
    case distinct => decide
    case ordered => simp
    case spelled => simp [engines.spelled]
    case rebuilt => simp [engines.read]

instance : Faithful RequestHeader :=
  ⟨readsBack_ofMembers (by decide) (by simp) (by simp) (by simp)⟩

instance : Faithful ResultHeader :=
  ⟨readsBack_ofMembers (by decide) (by simp) (by simp) (by simp)⟩

instance : Faithful Destination :=
  ⟨readsBack_ofMembers (by decide) (by simp) (by simp) (by simp)⟩

instance : Faithful OutputHeader :=
  ⟨readsBack_ofMembers (by decide) (by simp) (by simp) (by simp)⟩

namespace Reply

variable {α : Type} {write : α → Json} {read : Json.Reading α}

/-- The members of a reply are its status and its content, in this order. -/
theorem read_ofMembers {status : String} (content : Json) (kind : Status)
    (known : [("ok", Status.ok), ("error", Status.error)].lookup status = some kind) :
    Reply.read read .direct (.ofMembers [("status", .ofText status), ("content", content)]) =
      readContent read kind .direct content := by
  have named : readStatus .direct (.ofText status) = some kind := by
    change (Json.Escaped.text? _).bind _ = _
    rw [Json.Escaped.text?_ofString]
    exact known
  simp [Reply.read, Json.ofMembers, Json.namedMembers?, Json.Escaped.text?_ofString, named]

theorem isSpelled_error (name reason : String) :
    ((Reply.error name reason : Reply α).toJson write).IsSpelled := by
  have content : IsSpelled
      (.ofMembers [("ename", .ofText name), ("reason", .ofText reason)]) := by
    apply Json.isSpelled_ofMembers
    simp
  apply Json.isSpelled_ofMembers
  simp [content]

/-- An error is read as itself, whatever the content would have been. -/
theorem read_error {β : Type} (write : α → Json) (read : Json.Reading β) (name reason : String) :
    Reply.read read .direct ((Reply.error name reason : Reply α).toJson write) =
      some (.error name reason) := by
  have fields : Json.fields? ["ename", "reason"] .direct
      (.ofMembers [("ename", .ofText name), ("reason", .ofText reason)]) = some _ :=
    Json.fields?_ofMembers (by decide) (by simp)
  rw [toJson, read_ofMembers _ .error rfl]
  unfold Json.ofMembers at fields ⊢
  rw [readContent, readError, fields]
  simp

theorem readsBack (readsBack : ReadsBack write read) :
    ReadsBack (toJson write) (Reply.read read) where
  spelled reply := by
    cases reply with
    | ok content =>
        apply Json.isSpelled_ofMembers
        simp [readsBack.spelled]
    | error name reason => exact isSpelled_error name reason
  read reply := by
    cases reply with
    | ok content =>
        rw [toJson, read_ofMembers (write content) .ok rfl]
        simp [readContent, readsBack.read]
    | error name reason => exact read_error write read name reason

end Reply

instance {α : Type} [Payload α] [Faithful α] : Faithful (Reply α) :=
  ⟨Reply.readsBack Faithful.readsBack⟩

end ClusterHub

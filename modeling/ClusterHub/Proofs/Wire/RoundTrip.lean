import ClusterHub.Proofs.Wire.Faithful

/-!
# Frames read back

The frame that was written for a value is read as that value, wherever in a message it
stands.  An error is read as the same error under every type of answers.
-/

namespace ClusterHub

open Payload (Faithful)

section Frames

variable {α : Type} [Payload α]

theorem Message.payload_of_getElem? {message : Message} {index : Nat} {frame : Frame} {a : α}
    (found : message.frames[index]? = some frame) (holds : frame.payload? α = some a) :
    message.payload α index = .ok a := by
  simp [payload, Message.frame, found, holds, Bind.bind, Except.bind, Pure.pure, Except.pure]

theorem Message.getElem?_push (message : Message) (frame : Frame) (later : List Frame) :
    ((message.push frame).frames ++ later)[message.size]? = some frame := by
  simp [size]

/-- A frame that was made of a value holds that value. -/
theorem Frame.payload?_ofPayload [Faithful α] (a : α) :
    (Frame.ofPayload a).payload? α = some a := by
  rw [payload?, ofPayload, Json.toOctets, List.toList_toArray]
  exact Faithful.readsBack.parse? a

/-- Different values have different frames. -/
theorem Frame.ofPayload_injective [Faithful α] :
    Function.Injective (Frame.ofPayload : α → Frame) := by
  intro a b same
  have read := Frame.payload?_ofPayload a
  rw [same, Frame.payload?_ofPayload] at read
  exact (Option.some.inj read).symm

/-- A frame that was made of an error holds that error under every type of answers. -/
theorem Frame.payload?_ofPayload_error (α β : Type) [Payload α] [Payload β]
    (name reason : String) :
    (Frame.ofPayload (Reply.error name reason : Reply α)).payload? (Reply β) =
      some (.error name reason) := by
  have spelled : (Payload.toJson (Reply.error name reason : Reply α)).IsSpelled :=
    Reply.isSpelled_error name reason
  rw [payload?, ofPayload, Json.toOctets, List.toList_toArray, Json.parse?_print spelled]
  exact Reply.read_error (Payload.toJson : α → Json) Payload.read name reason

end Frames

/-! ## Types of payloads -/

/-- The types that answers have and that frames carry outside of answers. -/
inductive IsContent : (α : Type) → [Payload α] → Prop
  | unit : IsContent Unit
  | engineId : IsContent EngineId
  | lane : IsContent Lane
  | taskStatus : IsContent TaskStatus
  | registration : IsContent Registration
  | engineAck : IsContent EngineAck
  | unregistration : IsContent Unregistration
  | engineNotice : IsContent EngineNotice
  | loadQuery : IsContent LoadQuery
  | engineLoad : IsContent EngineLoad
  | loadReport : IsContent LoadReport
  | queueQuery : IsContent QueueQuery
  | engineQueue : IsContent EngineQueue
  | queueReport : IsContent QueueReport
  | purgeOrder : IsContent PurgeOrder
  | purgeReport : IsContent PurgeReport
  | resultQuery : IsContent ResultQuery
  | taskSummary : IsContent TaskSummary
  | resultReport : IsContent ResultReport
  | historyReport : IsContent HistoryReport
  | taskFilter : IsContent TaskFilter
  | taskListing : IsContent TaskListing
  | resubmitOrder : IsContent ResubmitOrder
  | resubmitReport : IsContent ResubmitReport
  | shutdownAck : IsContent ShutdownAck
  | clientAddresses : IsContent ClientAddresses
  | engineAddresses : IsContent EngineAddresses
  | directory : IsContent Directory
  | requestHeader : IsContent RequestHeader
  | resultHeader : IsContent ResultHeader
  | destination : IsContent Destination
  | outputHeader : IsContent OutputHeader

/-- The types that frames carry. -/
inductive IsCarried : (α : Type) → [Payload α] → Prop
  | plain {α : Type} [Payload α] (content : IsContent α) : IsCarried α
  | reply {α : Type} [Payload α] (content : IsContent α) : IsCarried (Reply α)

variable {α : Type} [Payload α]

theorem IsContent.faithful (content : IsContent α) : Faithful α := by
  cases content <;> infer_instance

theorem IsCarried.faithful (carried : IsCarried α) : Faithful α := by
  cases carried with
  | plain content => exact content.faithful
  | reply content =>
      have := content.faithful
      infer_instance

/-- What is pushed onto a message as a value is read from there as that value, whatever
is pushed later.  An error is read as the same error under every type of answers, and is
then the fault of the remote side. -/
theorem payload_of_pushPayload :
    (∀ (α : Type) [Payload α], IsCarried α → ∀ (message : Message) (value : α)
      (later : List Frame),
      Message.payload ⟨(message.pushPayload value).frames ++ later⟩ α message.size = .ok value) ∧
    (∀ (α β : Type) [Payload α] [Payload β] (message : Message) (name reason : String)
      (later : List Frame),
      let answer : Reply β := .error name reason
      Message.payload ⟨(message.pushPayload (.error name reason : Reply α)).frames ++ later⟩
          (Reply β) message.size = .ok answer ∧
        answer.toExcept = .error (.remote name reason)) := by
  constructor
  · intro α _ carried message value later
    have := carried.faithful
    exact Message.payload_of_getElem? (message.getElem?_push _ later)
      (Frame.payload?_ofPayload value)
  · intro α β _ _ message name reason later answer
    have read : Message.payload _ (Reply β) message.size = .ok answer :=
      Message.payload_of_getElem? (message.getElem?_push _ later)
        (Frame.payload?_ofPayload_error α β name reason)
    exact ⟨read, rfl⟩

/-- A header may have been made within a leap second. -/
theorem payload_of_pushPayload_of_leap :
    let submitted : Timestamp :=
      ⟨1483228799, 1999999999, by decide, by decide, by decide, by decide⟩
    let header : RequestHeader := ⟨"t1", "é\n", none, some submitted⟩
    let answer : Reply RequestHeader := .ok header
    IsCarried (Reply RequestHeader) ∧
      Message.payload ⟨(Message.empty.pushPayload answer).frames ++ [.ofText "body"]⟩
        (Reply RequestHeader) 0 = .ok answer := by
  intro submitted header answer
  have carried : IsCarried (Reply RequestHeader) := .reply .requestHeader
  exact ⟨carried, payload_of_pushPayload.1 _ carried .empty answer _⟩

end ClusterHub

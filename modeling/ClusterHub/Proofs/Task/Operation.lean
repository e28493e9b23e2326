import ClusterHub.Task.Ledger

/-!
# Operations on a ledger

Everything that can be asked of a ledger, with all that is said in asking, as
data.  A history of a ledger is a list of operations.
-/

namespace ClusterHub.Ledger

/-- Something that is asked of a ledger. -/
inductive Operation
  | request (header : RequestHeader) (lane : Lane) (engine : Option EngineId)
      (content : Frame) (now : Timestamp)
  | result (header : ResultHeader) (engine : Option EngineId) (result : Frame)
      (now : Timestamp)
  | destination (id : String) (engine : EngineId) (queue : String)
  | sweep (engine : EngineId) (queue : String) (now : Timestamp)
  | output (id stream text : String)
  | resubmission (id : String) (now : Timestamp)
  | purge (ids : List String)
  | purgeEngines (engines : List EngineId)
  | purgeAll

/-- The engine that an operation can bind a task to. -/
def Operation.binding : Operation → Option EngineId
  | .request _ _ engine _ _ => engine
  | .result _ engine _ _ => engine
  | .destination _ engine _ => some engine
  | _ => none

/-- Whether an operation neither takes a task in nor binds or completes one. -/
def Operation.isQuiet : Operation → Bool
  | .output .. | .resubmission .. | .purge _ | .purgeEngines _ | .purgeAll => true
  | _ => false

theorem Operation.binding_of_isQuiet {operation : Operation} (quiet : operation.isQuiet) :
    operation.binding = none := by
  cases operation <;> first | rfl | contradiction

/-- The ledger after an operation.  A purge that is refused leaves it as it
was. -/
def perform (l : Ledger) : Operation → Ledger
  | .request header lane engine content now =>
      (l.saveRequest header lane engine content now).2
  | .result header engine result now => (l.saveResult header engine result now).2
  | .destination id engine queue => (l.saveDestination id engine queue).2
  | .sweep engine queue now => (l.strandedSweep engine queue now).2
  | .output id stream text => (l.appendOutput id stream text).2
  | .resubmission id now => l.markResubmitted id now
  | .purge ids =>
      match l.purge ids with
      | .ok (_, l) => l
      | .error _ => l
  | .purgeEngines engines => (l.purgeEngines engines).2
  | .purgeAll => l.purgeAll.2

/-- The ledger after a history. -/
def performAll (l : Ledger) (history : List Operation) : Ledger :=
  history.foldl perform l

/-- Whether a ledger comes of a history that starts from an empty one. -/
def IsReached (l : Ledger) : Prop := ∃ history, l = performAll {} history

/-- What each operation of a history keeps, the history keeps. -/
theorem performAll_induction {property : Ledger → Prop} {history : List Operation}
    (step : ∀ l, ∀ operation ∈ history, property l → property (perform l operation))
    {l : Ledger} (start : property l) : property (performAll l history) := by
  induction history generalizing l with
  | nil => exact start
  | cons operation history inductionHypothesis =>
      have first := step l operation List.mem_cons_self start
      exact inductionHypothesis
        (fun l other member => step l other (List.mem_cons_of_mem operation member)) first

end ClusterHub.Ledger

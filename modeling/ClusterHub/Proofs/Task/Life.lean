import ClusterHub.Proofs.Task.Progress
import Mathlib.Data.List.Induction
import Mathlib.Data.List.Infix

/-!
# The life of a task

The life of a task begins with the request that takes it in and ends when it is
forgotten.  In between it is completed at most once, and it keeps the last
result that it was given.  A ledger that does not know a task lets nothing be
said of it.
-/

namespace ClusterHub.Ledger

/-- Whether an operation completes a task: a result is taken in as its first, or
a sweep lists it. -/
def completes (l : Ledger) (id : String) : Operation → Bool
  | .result header engine result now =>
      header.id = id && (l.saveResult header engine result now).1 = .completed
  | .sweep engine queue now => (l.strandedSweep engine queue now).1.contains id
  | _ => false

/-- How many operations of a history complete a task. -/
def completions (l : Ledger) (id : String) : List Operation → Nat
  | [] => 0
  | operation :: rest =>
      (if l.completes id operation then 1 else 0) + (l.perform operation).completions id rest

/-- The last result that a history gives a known task, and whether it is made
up. -/
def lastHit (l : Ledger) (id : String) : List Operation → Option (Frame × Bool)
  | [] => none
  | operation :: rest => ((l.perform operation).lastHit id rest).or (l.hit id operation)

/-- Whether an operation forgets tasks. -/
def Operation.purges : Operation → Bool
  | .purge _ | .purgeEngines _ | .purgeAll => true
  | _ => false

/-- A task stays known throughout a history. -/
def Lasts (l : Ledger) (id : String) (life : List Operation) : Prop :=
  ∀ part, part <+: life → id ∈ (l.performAll part).tasks

variable {l : Ledger} {id : String} {operation : Operation} {life history past : List Operation}
  {progress : Progress} {header : ResultHeader} {engine : Option EngineId} {result : Frame}
  {now : Timestamp}

theorem performAll_append {rest : List Operation} :
    l.performAll (past ++ rest) = (l.performAll past).performAll rest :=
  List.foldl_append

theorem known_iff : id ∈ l.tasks ↔ ∃ progress, l.progress id = some progress := by
  rw [← Option.isSome_iff_exists, Option.isSome_iff_ne_none, ne_eq, progress_eq_none_iff,
    Classical.not_not]

theorem admits_iff : l.admits id operation = true ↔ id ∉ l.tasks ∧
    ∃ header lane engine content now,
      operation = .request header lane engine content now ∧ header.id = id := by
  cases operation with
  | request header lane engine content now =>
      by_cases same : header.id = id
      · subst id
        by_cases known : header.id ∈ l.tasks <;> simp [admits, saveRequest, known]
      · simp [admits, same]
  | _ => simp [admits]

theorem pending_of_progress (known : l.progress id = some progress) :
    progress.pending = true ↔ id ∈ l.pending := by
  rcases Option.map_eq_some_iff.mp known with ⟨record, _, rfl⟩
  exact Std.ExtTreeSet.contains_iff_mem

theorem disposition_of_pending (consistent : l.Consistent) (pending : header.id ∈ l.pending) :
    (l.saveResult header engine result now).1 = .completed := by
  rw [saveResult_of_pending ((consistent.known header.id).mpr (Or.inl pending)) pending]

theorem disposition_of_not_pending (completed : header.id ∉ l.pending) :
    (l.saveResult header engine result now).1 ≠ .completed := by
  by_cases known : header.id ∈ l.tasks
  · rw [saveResult_of_completed known completed]
    exact nofun
  · rw [saveResult_of_unknown known]
    exact nofun

/-- A task is completed when it is pending and is given a result. -/
theorem completes_iff (consistent : l.Consistent) :
    l.completes id operation = true ↔ id ∈ l.pending ∧ (l.hit id operation).isSome := by
  cases operation with
  | result header engine result now =>
      by_cases same : header.id = id
      · subst id
        rw [hit, if_pos rfl, completes, decide_eq_true rfl, Bool.true_and, decide_eq_true_eq]
        constructor
        · intro completed
          refine ⟨?_, rfl⟩
          exact Classical.byContradiction fun settled =>
            disposition_of_not_pending settled completed
        · exact fun both => disposition_of_pending consistent both.1
      · simp [completes, hit, same]
  | sweep engine queue now =>
      rw [completes, hit, List.contains_iff_mem]
      constructor
      · intro member
        rw [if_pos member]
        exact ⟨((mem_outstanding consistent).mp member).1, rfl⟩
      · rintro ⟨_, hit⟩
        split at hit
        · assumption
        · contradiction
  | _ => simp [completes, hit]

/-- An operation gives a task that stays known a result, or leaves it as it
is. -/
theorem progress_of_lasting (consistent : l.Consistent) (known : l.progress id = some progress)
    (still : id ∈ (l.perform operation).tasks) :
    (l.perform operation).progress id = some (progress.after (l.hit id operation)) := by
  have before : id ∈ l.tasks := known_iff.mpr ⟨progress, known⟩
  have unasked : ¬ l.admits id operation = true := fun admitted => (admits_iff.mp admitted).1 before
  rcases known_iff.mp still with ⟨later, stands⟩
  have step := progress_perform consistent id operation
  rw [if_neg unasked] at step
  split at step
  · rw [step] at stands
    contradiction
  · rw [step, known]
    rfl

/-! ## A life -/

theorem Progress.after_after (progress : Progress) (first second : Option (Frame × Bool)) :
    (progress.after first).after second = progress.after (second.or first) := by
  cases second <;> rfl

theorem Lasts.tail (lasts : l.Lasts id (operation :: life)) :
    (l.perform operation).Lasts id life := by
  rintro part ⟨rest, rfl⟩
  exact lasts (operation :: part) ⟨rest, rfl⟩

theorem Lasts.next (lasts : l.Lasts id (operation :: life)) : id ∈ (l.perform operation).tasks :=
  lasts.tail [] List.nil_prefix

theorem progress_performAll (consistent : l.Consistent) (lasts : l.Lasts id life)
    (known : l.progress id = some progress) :
    (l.performAll life).progress id = some (progress.after (l.lastHit id life)) := by
  induction life generalizing l progress with
  | nil => exact known
  | cons operation rest inductionHypothesis =>
      have next := progress_of_lasting consistent known lasts.next
      have later := inductionHypothesis (consistent.perform operation) lasts.tail next
      rw [Progress.after_after] at later
      exact later

/-- A task that is pending at first is completed once if it is given a result at
all, and never otherwise. -/
theorem completions_eq (consistent : l.Consistent) (lasts : l.Lasts id life)
    (known : l.progress id = some progress) :
    l.completions id life =
      if progress.pending ∧ (l.lastHit id life).isSome then 1 else 0 := by
  induction life generalizing l progress with
  | nil => simp [completions, lastHit]
  | cons operation rest inductionHypothesis =>
      have next := progress_of_lasting consistent known lasts.next
      have completes : l.completes id operation = true ↔
          progress.pending = true ∧ (l.hit id operation).isSome := by
        rw [completes_iff consistent, pending_of_progress known]
      rw [completions, inductionHypothesis (consistent.perform operation) lasts.tail next, lastHit]
      cases given : l.hit id operation with
      | none =>
          rw [given] at completes
          have unmoved : ¬ l.completes id operation = true := fun moved =>
            Bool.false_ne_true (completes.mp moved).2
          rw [if_neg unmoved, Nat.zero_add, Option.or_none]
          rfl
      | some value =>
          rw [given] at completes
          have settled : (progress.after (some value)).pending = false := rfl
          simp only [completes, settled, Option.isSome_or, Option.isSome_some, Bool.or_true,
            and_true, Bool.false_eq_true, false_and, if_false, Nat.add_zero]

/-- What holds of a task in its life. -/
structure Lives (start : Ledger) (life : List Operation) (id : String) : Prop where
  once : start.completions id life ≤ 1
  pending : id ∈ (start.performAll life).pending ↔ start.completions id life = 0
  completed : id ∈ (start.performAll life).completed ↔ start.completions id life = 1
  /-- A task that was completed is never pending again. -/
  settled : ∀ part, part <+: life → id ∈ (start.performAll part).completed →
    id ∈ (start.performAll life).completed ∧ id ∉ (start.performAll life).pending
  /-- The next operation completes the task if it is a sweep that lists it or a
  result that is taken in as its first, and only then. -/
  moves : ∀ operation, (id ∈ (start.performAll life).pending ∧
      id ∈ ((start.performAll life).perform operation).completed) ↔
    (start.performAll life).completes id operation = true
  late : id ∈ (start.performAll life).completed →
    ∀ (header : ResultHeader) (engine : Option EngineId) (result : Frame) (now : Timestamp),
      header.id = id →
      let outcome := (start.performAll life).saveResult header engine result now
      outcome.1 = .late ∧
        outcome.2.pending.size = (start.performAll life).pending.size ∧
        outcome.2.completed.size = (start.performAll life).completed.size ∧
        outcome.2.tasks.size = (start.performAll life).tasks.size
  repeated : ∀ (header : RequestHeader) (lane : Lane) (engine : Option EngineId)
    (content : Frame) (now : Timestamp), header.id = id →
    (start.performAll life).saveRequest header lane engine content now =
      (false, start.performAll life)
  stored : ∃ record, (start.performAll life).tasks[id]? = some record ∧
    (record.result, record.stranded) = (start.lastHit id life).getD (.empty, false)

/-- A ledger lets nothing be said of a task that it does not know. -/
structure Ignores (l : Ledger) (id : String) : Prop where
  result : ∀ (header : ResultHeader) (engine : Option EngineId) (result : Frame)
    (now : Timestamp), header.id = id → l.saveResult header engine result now = (.unknown, l)
  destination : ∀ (engine : EngineId) (queue : String),
    l.saveDestination id engine queue = (false, l)
  output : ∀ stream text, l.appendOutput id stream text = (false, l)

/-- The part of a history that is the life of a task, up to its end. -/
structure Spans (history past : List Operation) (request : Operation) (life : List Operation)
    (id : String) : Prop where
  whole : history = past ++ request :: life
  admitted : (performAll {} past).admits id request = true
  lasts : (performAll {} (past ++ [request])).Lasts id life

theorem late_of_completed (consistent : l.Consistent) (completed : header.id ∈ l.completed) :
    (l.saveResult header engine result now).1 = .late := by
  have known := (consistent.known header.id).mpr (Or.inr completed)
  have settled : header.id ∉ l.pending := fun pending => consistent.apart pending completed
  rw [saveResult_of_completed known settled]

/-- A task that was just taken in is pending and has no result. -/
theorem progress_of_admits (consistent : l.Consistent) (admitted : l.admits id operation = true) :
    (l.perform operation).progress id = some .new := by
  rw [progress_perform consistent, if_neg, if_pos admitted]
  obtain ⟨_, header, lane, engine, content, now, rfl, _⟩ := admits_iff.mp admitted
  exact List.not_mem_nil

/-- An operation that gives a task a result neither takes it in nor forgets
it. -/
theorem spares_of_hit (hit : (l.hit id operation).isSome) :
    l.doomed operation = [] ∧ l.admits id operation = false := by
  cases operation with
  | result => exact ⟨rfl, rfl⟩
  | sweep => exact ⟨rfl, rfl⟩
  | _ => contradiction

/-- A task goes from the pending ones to the completed ones in the operations
that complete it. -/
theorem moves_iff (consistent : l.Consistent) :
    (id ∈ l.pending ∧ id ∈ (l.perform operation).completed) ↔
      l.completes id operation = true := by
  have later := consistent.perform operation
  rw [completes_iff consistent]
  apply and_congr_right
  intro pending
  rcases known_iff.mp ((consistent.known id).mpr (Or.inl pending)) with ⟨progress, known⟩
  have waits := (pending_of_progress known).mpr pending
  constructor
  · intro completed
    have still := (later.known id).mpr (Or.inr completed)
    have next := progress_of_lasting consistent known still
    have settled : id ∉ (l.perform operation).pending := fun stays => later.apart stays completed
    cases hit : l.hit id operation with
    | some _ => rfl
    | none =>
        rw [hit] at next
        exact absurd ((pending_of_progress next).mp waits) settled
  · intro hit
    rcases spares_of_hit hit with ⟨spared, unasked⟩
    rcases Option.isSome_iff_exists.mp hit with ⟨⟨result, stranded⟩, given⟩
    have next : (l.perform operation).progress id = some ⟨false, result, stranded⟩ := by
      rw [progress_perform consistent, spared, unasked, known, given]
      rfl
    have settled : id ∉ (l.perform operation).pending := fun stays =>
      Bool.false_ne_true ((pending_of_progress next).mpr stays)
    exact ((later.known id).mp (known_iff.mpr ⟨_, next⟩)).resolve_left settled

theorem completions_append {rest : List Operation} :
    l.completions id (past ++ rest) =
      l.completions id past + (l.performAll past).completions id rest := by
  induction past generalizing l with
  | nil => exact (Nat.zero_add _).symm
  | cons operation past inductionHypothesis =>
      rw [List.cons_append, completions, completions, inductionHypothesis, Nat.add_assoc]
      rfl

theorem pending_iff_of_new (consistent : l.Consistent) (lasts : l.Lasts id life)
    (known : l.progress id = some .new) :
    id ∈ (l.performAll life).pending ↔ l.completions id life = 0 := by
  have progress := progress_performAll consistent lasts known
  rw [← pending_of_progress progress, completions_eq consistent lasts known]
  cases l.lastHit id life <;> simp [Progress.after, Progress.new]

theorem completions_le_one (consistent : l.Consistent) (lasts : l.Lasts id life)
    (known : l.progress id = some .new) : l.completions id life ≤ 1 := by
  rw [completions_eq consistent lasts known]
  split <;> omega

theorem completed_iff_of_new (consistent : l.Consistent) (lasts : l.Lasts id life)
    (known : l.progress id = some .new) :
    id ∈ (l.performAll life).completed ↔ l.completions id life = 1 := by
  have later := consistent.performAll life
  have pending := pending_iff_of_new consistent lasts known
  have once := completions_le_one consistent lasts known
  constructor
  · intro completed
    have moved : l.completions id life ≠ 0 := fun none => later.apart (pending.mpr none) completed
    omega
  · intro moved
    have known := (later.known id).mp (lasts life List.prefix_rfl)
    exact known.resolve_left fun stays => by
      rw [pending.mp stays] at moved
      contradiction

theorem lives_of_new (consistent : l.Consistent) (lasts : l.Lasts id life)
    (known : l.progress id = some .new) : Lives l life id := by
  have later := consistent.performAll life
  have progress := progress_performAll consistent lasts known
  have still := lasts life List.prefix_rfl
  have once := completions_le_one consistent lasts known
  have pending := pending_iff_of_new consistent lasts known
  have completed := completed_iff_of_new consistent lasts known
  constructor
  case once => exact once
  case pending => exact pending
  case completed => exact completed
  case settled =>
    rintro part ⟨rest, rfl⟩ earlier
    have shorter : l.Lasts id part := fun first before =>
      lasts first (before.trans (List.prefix_append part rest))
    have moved := (completed_iff_of_new consistent shorter known).mp earlier
    rw [completions_append, moved] at once completed
    have last := completed.mpr (by omega)
    exact ⟨last, fun stays => later.apart stays last⟩
  case moves => exact fun operation => moves_iff later
  case late =>
    rintro completed header engine result now rfl
    have overwrites := overwrites_saveResult later completed engine result now
    refine ⟨late_of_completed later completed, ?_, ?_, overwrites.size⟩
    · rw [overwrites.pending]
    · rw [overwrites.completed]
  case repeated =>
    rintro header lane engine content now rfl
    exact saveRequest_of_known still
  case stored =>
    rcases Option.map_eq_some_iff.mp progress with ⟨record, found, same⟩
    refine ⟨record, found, ?_⟩
    have result := congrArg Progress.result same
    have stranded := congrArg Progress.stranded same
    cases hit : l.lastHit id life with
    | none =>
        rw [hit] at result stranded
        exact Prod.ext result stranded
    | some given =>
        rw [hit] at result stranded
        exact Prod.ext result stranded

theorem modifyTask_of_unknown (unknown : id ∉ l.tasks) (change : TaskRecord → TaskRecord) :
    l.modifyTask id change = l := by
  rw [modifyTask, modify_of_absent (Std.ExtTreeMap.getElem?_eq_none unknown)]

theorem ignores_of_unknown (consistent : l.Consistent) (unknown : id ∉ l.tasks) :
    l.Ignores id := by
  have settled : id ∉ l.pending := fun pending =>
    unknown ((consistent.known id).mpr (Or.inl pending))
  have assigned := consistent.erase_unassigned settled
  constructor
  case result =>
    rintro header engine result now rfl
    rw [saveResult_of_unknown unknown, assigned]
  case destination =>
    intro engine queue
    simp [saveDestination, unknown]
  case output =>
    intro stream text
    have absent : l.tasks.contains id = false :=
      Bool.eq_false_iff.mpr fun known => unknown (Std.ExtTreeMap.contains_iff_mem.mp known)
    rw [appendOutput, modifyTask_of_unknown unknown, absent]

/-! ## The whole history -/

theorem lasts_concat (lasts : l.Lasts id life)
    (still : id ∈ (l.performAll (life ++ [operation])).tasks) :
    l.Lasts id (life ++ [operation]) := by
  intro part before
  rcases List.prefix_concat_iff.mp before with rfl | shorter
  · exact still
  · exact lasts part shorter

/-- A task that was not known becomes known when it is taken in. -/
theorem admits_of_appears (consistent : l.Consistent) (before : id ∉ l.tasks)
    (after : id ∈ (l.perform operation).tasks) : l.admits id operation = true := by
  rcases known_iff.mp after with ⟨progress, known⟩
  have step := progress_perform consistent id operation
  rw [known, progress_eq_none_iff.mpr before] at step
  split at step
  · contradiction
  · split at step
    · assumption
    · contradiction

/-- A task that was known and is so no longer was forgotten. -/
theorem doomed_of_disappears (consistent : l.Consistent) (before : id ∈ l.tasks)
    (after : id ∉ (l.perform operation).tasks) : id ∈ l.doomed operation := by
  rcases known_iff.mp before with ⟨progress, known⟩
  have step := progress_perform consistent id operation
  rw [progress_eq_none_iff.mpr after, known] at step
  split at step
  · assumption
  · split at step <;> contradiction

theorem purges_of_doomed (doomed : id ∈ l.doomed operation) : operation.purges = true := by
  cases operation with
  | purge => rfl
  | purgeEngines => rfl
  | purgeAll => rfl
  | _ => contradiction

/-- A task is known if its life has begun and lasts. -/
theorem known_iff_spans (history : List Operation) (id : String) :
    id ∈ (performAll {} history).tasks ↔
      ∃ past request life, Spans history past request life id := by
  constructor
  · intro known
    induction history using List.reverseRecOn with
    | nil => exact absurd known Std.ExtTreeMap.not_mem_empty
    | append_singleton earlier operation inductionHypothesis =>
        have consistent := consistent_empty.performAll earlier
        by_cases before : id ∈ (performAll {} earlier).tasks
        · rcases inductionHypothesis before with ⟨past, request, life, rfl, admitted, lasts⟩
          refine ⟨past, request, life ++ [operation], by simp, admitted, lasts_concat lasts ?_⟩
          rw [← performAll_append]
          simpa using known
        · refine ⟨earlier, operation, [], rfl, ?_, ?_⟩
          · exact admits_of_appears consistent before (by rwa [performAll_append] at known)
          · intro part before
            rwa [List.prefix_nil.mp before]
  · rintro ⟨past, request, life, rfl, _, lasts⟩
    have known := lasts life List.prefix_rfl
    rw [← performAll_append] at known
    simpa using known

/-- A request that is accepted begins the life of a task that was not known. -/
theorem begins_of_admits {request : Operation}
    (admitted : (performAll {} history).admits id request = true) :
    id ∉ (performAll {} history).tasks ∧ Spans (history ++ [request]) history request [] id ∧
      id ∈ ((performAll {} history).perform request).pending := by
  have consistent := consistent_empty.performAll history
  have progress := progress_of_admits consistent admitted
  refine ⟨(admits_iff.mp admitted).1, ⟨rfl, admitted, ?_⟩, ?_⟩
  · intro part before
    rw [List.prefix_nil.mp before, performAll_append]
    exact known_iff.mpr ⟨_, progress⟩
  · exact (pending_of_progress progress).mp rfl

/-- The life of every task, in every history of a ledger that was empty at
first. -/
theorem life_of_task (history : List Operation) (id : String) :
    (id ∈ (performAll {} history).tasks ↔
      ∃ past request life, Spans history past request life id) ∧
    (id ∉ (performAll {} history).tasks → (performAll {} history).Ignores id) ∧
    (∀ request, (performAll {} history).admits id request = true →
      id ∉ (performAll {} history).tasks ∧ Spans (history ++ [request]) history request [] id ∧
        id ∈ ((performAll {} history).perform request).pending) ∧
    (∀ past request life, Spans history past request life id →
      Lives (performAll {} (past ++ [request])) life id) ∧
    (∀ operation, id ∈ (performAll {} history).tasks →
      id ∉ ((performAll {} history).perform operation).tasks →
      operation.purges = true ∧
        (id ∈ (performAll {} history).pending → operation = .purgeAll)) := by
  have consistent := consistent_empty.performAll history
  refine ⟨known_iff_spans history id, ignores_of_unknown consistent,
    fun request => begins_of_admits, ?_, ?_⟩
  · rintro past request life ⟨rfl, admitted, lasts⟩
    have earlier := consistent_empty.performAll past
    have started := consistent_empty.performAll (past ++ [request])
    rw [performAll_append] at lasts started ⊢
    exact lives_of_new started lasts (progress_of_admits earlier admitted)
  · intro operation before after
    have doomed := doomed_of_disappears consistent before after
    exact ⟨purges_of_doomed doomed, fun pending => eq_purgeAll_of_doomed consistent pending doomed⟩

/-- A task that was forgotten is taken in again.  A sweep of its engine completes it, and
the result that comes late takes the place of the one that was made up. -/
theorem life_of_task_of_late_result :
    let now : Timestamp := default
    let request : Operation := .request ⟨"task", "client", some "queue", none⟩ .immediate (some 1)
      (.ofText "body") now
    let sweep : Operation := .sweep 1 "queue" now
    let late : Operation := .result ⟨"task", none, none, none⟩ none (.ofText "result") now
    let past : List Operation := [request, .purgeAll]
    let life : List Operation := [sweep, late]
    let start := performAll {} (past ++ [request])
    Spans (past ++ request :: life) past request life "task" ∧ "task" ∈ start.pending ∧
      start.completions "task" life = 1 ∧
      start.lastHit "task" life = some (.ofText "result", false) ∧ Lives start life "task" := by
  intro now request sweep late past life start
  have admitted : (performAll {} past).admits "task" request = true := by decide +kernel
  have begun := (life_of_task past "task").2.2.1 request admitted
  have pending : "task" ∈ start.pending := begun.2.2
  have known : ∀ part ∈ life.inits, "task" ∈ (start.performAll part).tasks := by decide +kernel
  have lasts : start.Lasts "task" life := fun part before =>
    known part ((List.mem_inits part life).mpr before)
  have spans : Spans (past ++ request :: life) past request life "task" := ⟨rfl, admitted, lasts⟩
  have once : start.completions "task" life = 1 := by decide +kernel
  have last : start.lastHit "task" life = some (.ofText "result", false) := by decide +kernel
  exact ⟨spans, pending, once, last,
    (life_of_task (past ++ request :: life) "task").2.2.2.1 past request life spans⟩

end ClusterHub.Ledger

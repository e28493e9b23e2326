import ClusterHub.Proofs.Timer.Order
import ClusterHub.Timer.Pass

/-!
# What the actions of timers do

An action sees the world and does one thing after another: it changes the rest of the
world, lets time go by, cancels timers and sets others.  A ticket divides the entries of
a queue into those that were there when it was the last one, which can only be
cancelled, and those that were set since.
-/

namespace ClusterHub

variable {ρ α : Type}

/-- What an entry is about, whether or not it is still to run. -/
def TimerEntry.task (entry : TimerEntry α) : TimerHandle × α := (entry.handle, entry.action)

/-- An entry after a timer was cancelled. -/
def TimerEntry.cancel (entry : TimerEntry α) (handle : TimerHandle) : TimerEntry α :=
  if entry.ticket = handle.ticket then { entry with active := false } else entry

@[simp]
theorem TimerEntry.task_cancel (entry : TimerEntry α) (handle : TimerHandle) :
    (entry.cancel handle).task = entry.task := by
  unfold cancel
  split <;> rfl

namespace Timers

variable {timers : Timers α} {entry : TimerEntry α} {horizon : Nat}

/-- The entries with a ticket up to the given one. -/
def upTo (timers : Timers α) (horizon : Nat) : List (TimerEntry α) :=
  timers.entries.filter fun entry => entry.ticket ≤ horizon

/-- The entries with a later ticket. -/
def beyond (timers : Timers α) (horizon : Nat) : List (TimerEntry α) :=
  timers.entries.filter fun entry => horizon < entry.ticket

/-- The queues that there are: at first there are no timers; then some are set or
cancelled, and the first one is taken off. -/
inductive Arises : Timers α → Prop
  | empty : Arises {}
  | scheduleAt {timers : Timers α} (arises : Arises timers) (deadline : Instant) (action : α) :
      Arises (timers.scheduleAt deadline action).2
  | cancel {timers : Timers α} (arises : Arises timers) (handle : TimerHandle) :
      Arises (timers.cancel handle)
  | dropFirst {timers : Timers α} (arises : Arises timers) : Arises (timers.dropAt 0)

theorem Arises.ordered (arises : timers.Arises) : timers.Ordered := by
  induction arises with
  | empty => exact ordered_empty
  | scheduleAt _ deadline action inductionHypothesis =>
      exact inductionHypothesis.scheduleAt deadline action
  | cancel _ handle inductionHypothesis => exact inductionHypothesis.cancel handle
  | dropFirst _ inductionHypothesis => exact inductionHypothesis.dropAt 0

theorem Arises.ticketed (arises : timers.Arises) : timers.Ticketed := by
  induction arises with
  | empty => exact ticketed_empty
  | scheduleAt _ deadline action inductionHypothesis =>
      exact inductionHypothesis.scheduleAt deadline action
  | cancel _ handle inductionHypothesis => exact inductionHypothesis.cancel handle
  | dropFirst _ inductionHypothesis => exact inductionHypothesis.dropAt 0

theorem mem_upTo :
    entry ∈ timers.upTo horizon ↔ entry ∈ timers.entries ∧ entry.ticket ≤ horizon := by
  simp [upTo]

theorem mem_beyond :
    entry ∈ timers.beyond horizon ↔ entry ∈ timers.entries ∧ horizon < entry.ticket := by
  simp [beyond]

theorem Ticketed.isActive_of_mem (ticketed : timers.Ticketed) (member : entry ∈ timers.entries) :
    timers.isActive entry.handle = entry.active := by
  cases active : entry.active with
  | true => exact List.any_eq_true.mpr ⟨entry, member, by simp [active, TimerEntry.handle]⟩
  | false =>
      apply isActive_eq_false_iff.mpr
      intro other running same
      rcases mem_running.mp running with ⟨there, otherActive⟩
      rw [ticketed.eq_of_mem there member same, active] at otherActive
      contradiction

theorem upTo_issued (ticketed : timers.Ticketed) : timers.upTo timers.issued = timers.entries := by
  apply List.filter_eq_self.mpr
  simpa using ticketed.issued

theorem beyond_issued (ticketed : timers.Ticketed) : timers.beyond timers.issued = [] := by
  apply List.filter_eq_nil_iff.mpr
  simpa using ticketed.issued

/-- Each entry is on one side. -/
theorem upTo_append_beyond (timers : Timers α) (horizon : Nat) :
    (timers.upTo horizon ++ timers.beyond horizon).Perm timers.entries := by
  have split := List.filter_append_perm
    (fun entry : TimerEntry α => decide (entry.ticket ≤ horizon)) timers.entries
  simpa only [upTo, beyond, ← decide_not, Nat.not_le] using split

theorem filter_place_of_neg {property : TimerEntry α → Bool} (fails : ¬ property entry = true)
    (entries : List (TimerEntry α)) :
    (place entry entries).filter property = entries.filter property := by
  induction entries with
  | nil => simp [place, fails]
  | cons first rest inductionHypothesis =>
      unfold place
      split
      · exact List.filter_cons_of_neg fails
      · rw [List.filter_cons, inductionHypothesis, ← List.filter_cons]

theorem upTo_scheduleAt (known : horizon ≤ timers.issued) (deadline : Instant) (action : α) :
    (timers.scheduleAt deadline action).2.upTo horizon = timers.upTo horizon := by
  apply filter_place_of_neg
  simpa using Nat.lt_succ_of_le known

theorem beyond_scheduleAt (known : horizon ≤ timers.issued) (deadline : Instant) (action : α) :
    ((timers.scheduleAt deadline action).2.beyond horizon).Perm
      (⟨deadline, timers.issued + 1, true, action⟩ :: timers.beyond horizon) := by
  refine ((place_perm _ timers.entries).filter _).trans (List.Perm.of_eq ?_)
  exact List.filter_cons_of_pos (by simpa using Nat.lt_succ_of_le known)

/-- Cancelling leaves each entry on its side. -/
theorem filter_cancel (side : Nat → Bool) (handle : TimerHandle) :
    (timers.cancel handle).entries.filter (fun entry => side entry.ticket) =
      (timers.entries.filter fun entry => side entry.ticket).map fun entry =>
        entry.cancel handle := by
  have same : (fun entry : TimerEntry α => side entry.ticket) ∘
      (fun entry : TimerEntry α => entry.cancel handle) = fun entry => side entry.ticket := by
    funext entry
    exact congrArg (fun task => side task.1.ticket) (entry.task_cancel handle)
  change (timers.entries.map fun entry => entry.cancel handle).filter _ = _
  rw [List.filter_map, same]

theorem upTo_cancel (handle : TimerHandle) :
    (timers.cancel handle).upTo horizon =
      (timers.upTo horizon).map fun entry => entry.cancel handle :=
  filter_cancel (fun ticket => decide (ticket ≤ horizon)) handle

theorem beyond_cancel (handle : TimerHandle) :
    (timers.cancel handle).beyond horizon =
      (timers.beyond horizon).map fun entry => entry.cancel handle :=
  filter_cancel (fun ticket => decide (horizon < ticket)) handle

/-- The first entry, and what is there without it. -/
theorem entries_eq_of_first (stands : timers.entries[0]? = some entry) :
    timers.entries = entry :: (timers.dropAt 0).entries := by
  rw [dropAt]
  cases entries : timers.entries with
  | nil =>
      rw [entries] at stands
      contradiction
  | cons first rest =>
      rw [entries] at stands
      cases stands
      rfl

/-- Taking the first entry off the queue leaves the other running ones. -/
theorem mem_running_dropFirst {other : TimerEntry α} (stands : timers.entries[0]? = some entry)
    (member : other ∈ timers.running) (different : other ≠ entry) :
    other ∈ (timers.dropAt 0).running := by
  rcases mem_running.mp member with ⟨there, active⟩
  rw [entries_eq_of_first stands] at there
  exact mem_running.mpr ⟨(List.mem_cons.mp there).resolve_left different, active⟩

theorem upTo_dropFirst (stands : timers.entries[0]? = some entry) (old : entry.ticket ≤ horizon) :
    timers.upTo horizon = entry :: (timers.dropAt 0).upTo horizon := by
  rw [upTo, entries_eq_of_first stands, List.filter_cons_of_pos (by simpa using old)]
  rfl

theorem beyond_dropFirst (stands : timers.entries[0]? = some entry)
    (old : entry.ticket ≤ horizon) : (timers.dropAt 0).beyond horizon = timers.beyond horizon := by
  rw [beyond, beyond, entries_eq_of_first stands, List.filter_cons_of_neg (by simpa using old)]

end Timers

/-! ## Worlds -/

namespace World

/-- One thing that the action of a timer may do. -/
inductive Deed (ρ α : Type)
  | change (change : ρ → ρ)
  | elapse (d : Duration)
  | cancel (handle : TimerHandle)
  /-- Set a timer for some time from now. -/
  | schedule (delay : Duration) (action : α)
  /-- Set a timer for any instant, be it over or not. -/
  | scheduleAt (deadline : Instant) (action : α)

/-- Whether a deed cancels the timer with a ticket. -/
def Deed.Cancels (deed : Deed ρ α) (ticket : Nat) : Prop :=
  ∃ handle, deed = .cancel handle ∧ handle.ticket = ticket

/-- Whether a deed sets no timer for an instant that may be over. -/
def Deed.Timely : Deed ρ α → Prop
  | .scheduleAt .. => False
  | _ => True

def perform (world : World ρ α) : Deed ρ α → World ρ α
  | .change change => world.modifyRest change
  | .elapse d => world.elapse d
  | .cancel handle => world.cancel handle
  | .schedule delay action => world.scheduleFor delay action
  | .scheduleAt deadline action =>
      { world with timers := (world.timers.scheduleAt deadline action).2 }

def performAll (world : World ρ α) (deeds : List (Deed ρ α)) : World ρ α :=
  deeds.foldl perform world

/-- The world without the first entry of its queue. -/
def dropFirst (world : World ρ α) : World ρ α :=
  { world with timers := world.timers.dropAt 0 }

theorem popped_eq_dropFirst {world : World ρ α} {entry : TimerEntry α}
    {rest : List (TimerEntry α)} (entries : world.timers.entries = entry :: rest) :
    { world with timers := { world.timers with entries := rest } } = world.dropFirst := by
  rw [dropFirst, Timers.dropAt, entries]
  rfl

/-- The timer that a deed sets. -/
def sets (world : World ρ α) : Deed ρ α → List (TimerHandle × α)
  | .schedule delay action => [((world.schedule delay action).1, action)]
  | .scheduleAt deadline action => [((world.timers.scheduleAt deadline action).1, action)]
  | _ => []

/-- The timers that some deeds set, in their order. -/
def setsAll (world : World ρ α) : List (Deed ρ α) → List (TimerHandle × α)
  | [] => []
  | deed :: deeds => world.sets deed ++ (world.perform deed).setsAll deeds

end World

namespace TimerEntry

variable {entry : TimerEntry α} {deeds : List (World.Deed ρ α)}

/-- An entry that was there before a deed. -/
def after (entry : TimerEntry α) : World.Deed ρ α → TimerEntry α
  | .cancel handle => entry.cancel handle
  | _ => entry

def afterAll (entry : TimerEntry α) (deeds : List (World.Deed ρ α)) : TimerEntry α :=
  deeds.foldl after entry

@[simp]
theorem task_after (entry : TimerEntry α) (deed : World.Deed ρ α) :
    (entry.after deed).task = entry.task := by
  cases deed with
  | cancel handle => exact entry.task_cancel handle
  | _ => rfl

@[simp]
theorem task_afterAll (entry : TimerEntry α) (deeds : List (World.Deed ρ α)) :
    (entry.afterAll deeds).task = entry.task := by
  induction deeds generalizing entry with
  | nil => rfl
  | cons deed deeds inductionHypothesis =>
      exact (inductionHypothesis (entry.after deed)).trans (entry.task_after deed)

theorem afterAll_append (entry : TimerEntry α) (deeds further : List (World.Deed ρ α)) :
    entry.afterAll (deeds ++ further) = (entry.afterAll deeds).afterAll further :=
  List.foldl_append

theorem handle_eq_of_task {other : TimerEntry α} (same : entry.task = other.task) :
    entry.handle = other.handle :=
  congrArg Prod.fst same

theorem ticket_eq_of_task {other : TimerEntry α} (same : entry.task = other.task) :
    entry.ticket = other.ticket :=
  congrArg TimerHandle.ticket (handle_eq_of_task same)

theorem deadline_eq_of_task {other : TimerEntry α} (same : entry.task = other.task) :
    entry.deadline = other.deadline :=
  congrArg TimerHandle.deadline (handle_eq_of_task same)

/-- Only deeds that cancel a timer change its entry. -/
theorem afterAll_of_spared (spared : ∀ deed ∈ deeds, ¬ deed.Cancels entry.ticket) :
    entry.afterAll deeds = entry := by
  induction deeds with
  | nil => rfl
  | cons deed deeds inductionHypothesis =>
      rcases List.forall_mem_cons.mp spared with ⟨first, rest⟩
      have same : entry.after deed = entry := by
        cases deed with
        | cancel handle => exact if_neg fun ticket => first ⟨handle, rfl, ticket.symm⟩
        | _ => rfl
      rw [afterAll, List.foldl_cons, same]
      exact inductionHypothesis rest

theorem active_of_active_afterAll (active : (entry.afterAll deeds).active = true) :
    entry.active = true ∧ ∀ deed ∈ deeds, ¬ deed.Cancels entry.ticket := by
  induction deeds generalizing entry with
  | nil => exact ⟨active, List.forall_mem_nil _⟩
  | cons deed deeds inductionHypothesis =>
      have active : ((entry.after deed).afterAll deeds).active = true := active
      rcases inductionHypothesis active with ⟨still, rest⟩
      rw [ticket_eq_of_task (entry.task_after deed)] at rest
      cases deed with
      | cancel handle =>
          by_cases same : entry.ticket = handle.ticket
          · rw [after, TimerEntry.cancel, if_pos same] at still
            contradiction
          · rw [after, TimerEntry.cancel, if_neg same] at still
            refine ⟨still, List.forall_mem_cons.mpr ⟨?_, rest⟩⟩
            rintro ⟨_, ⟨⟩, ticket⟩
            exact same ticket.symm
      | _ => exact ⟨still, List.forall_mem_cons.mpr ⟨nofun, rest⟩⟩

end TimerEntry

namespace World

variable {world : World ρ α} {deed : Deed ρ α} {deeds : List (Deed ρ α)} {horizon : Nat}

theorem arises_perform (arises : world.timers.Arises) (deed : Deed ρ α) :
    (world.perform deed).timers.Arises := by
  cases deed with
  | change change => exact arises
  | elapse d => exact arises
  | cancel handle => exact arises.cancel handle
  | schedule delay action => exact arises.scheduleAt _ action
  | scheduleAt deadline action => exact arises.scheduleAt deadline action

theorem extends_perform (world : World ρ α) (deed : Deed ρ α) :
    world.timers.Extends (world.perform deed).timers := by
  cases deed with
  | change change => exact .refl _
  | elapse d => exact .refl _
  | cancel handle => exact Timers.extends_disarm (some handle)
  | schedule delay action => exact Timers.extends_scheduleAt _ action
  | scheduleAt deadline action => exact Timers.extends_scheduleAt deadline action

/-- The clock is never set back. -/
theorem now_le_perform (world : World ρ α) (deed : Deed ρ α) :
    world.now ≤ (world.perform deed).now := by
  cases deed with
  | elapse d => exact Int.le_add_of_nonneg_right (Int.natCast_nonneg d)
  | _ => exact Int.le_refl _

theorem le_of_sets (timely : deed.Timely) :
    ∀ set ∈ world.sets deed, world.now ≤ set.1.deadline := by
  intro set member
  cases deed with
  | schedule delay action =>
      rw [List.mem_singleton.mp member]
      exact Int.le_add_of_nonneg_right (Int.natCast_nonneg delay)
  | scheduleAt deadline action => exact timely.elim
  | change | elapse | cancel => contradiction

/-- The entries that were there before a deed. -/
theorem upTo_perform (known : horizon ≤ world.timers.issued) (deed : Deed ρ α) :
    (world.perform deed).timers.upTo horizon =
      (world.timers.upTo horizon).map fun entry => entry.after deed := by
  cases deed with
  | change change => exact (List.map_id _).symm
  | elapse d => exact (List.map_id _).symm
  | cancel handle => exact Timers.upTo_cancel handle
  | schedule delay action =>
      exact (Timers.upTo_scheduleAt known _ action).trans (List.map_id _).symm
  | scheduleAt deadline action =>
      exact (Timers.upTo_scheduleAt known deadline action).trans (List.map_id _).symm

/-- The timers that were set since some time, and the one that a deed sets. -/
theorem beyond_perform (known : horizon ≤ world.timers.issued) (deed : Deed ρ α) :
    (((world.perform deed).timers.beyond horizon).map TimerEntry.task).Perm
      ((world.timers.beyond horizon).map TimerEntry.task ++ world.sets deed) := by
  have set : ∀ deadline action, (((world.timers.scheduleAt deadline action).2.beyond horizon).map
      TimerEntry.task).Perm ((world.timers.beyond horizon).map TimerEntry.task ++
        [((world.timers.scheduleAt deadline action).1, action)]) := by
    intro deadline action
    exact ((Timers.beyond_scheduleAt known deadline action).map TimerEntry.task).trans
      (List.perm_append_singleton _ _).symm
  cases deed with
  | change change => exact List.Perm.of_eq (List.append_nil _).symm
  | elapse d => exact List.Perm.of_eq (List.append_nil _).symm
  | cancel handle =>
      apply List.Perm.of_eq
      change ((world.timers.cancel handle).beyond horizon).map TimerEntry.task = _
      rw [Timers.beyond_cancel, List.map_map]
      simp [sets, Function.comp_def]
  | schedule delay action => exact set _ action
  | scheduleAt deadline action => exact set deadline action

theorem arises_performAll (arises : world.timers.Arises) (deeds : List (Deed ρ α)) :
    (world.performAll deeds).timers.Arises := by
  induction deeds generalizing world with
  | nil => exact arises
  | cons deed deeds inductionHypothesis => exact inductionHypothesis (arises_perform arises deed)

theorem extends_performAll (world : World ρ α) (deeds : List (Deed ρ α)) :
    world.timers.Extends (world.performAll deeds).timers := by
  induction deeds generalizing world with
  | nil => exact .refl _
  | cons deed deeds inductionHypothesis =>
      exact (extends_perform world deed).trans (inductionHypothesis _)

theorem now_le_performAll (world : World ρ α) (deeds : List (Deed ρ α)) :
    world.now ≤ (world.performAll deeds).now := by
  induction deeds generalizing world with
  | nil => exact Int.le_refl _
  | cons deed deeds inductionHypothesis =>
      exact Int.le_trans (now_le_perform world deed) (inductionHypothesis _)

theorem le_of_setsAll (timely : ∀ deed ∈ deeds, deed.Timely) :
    ∀ set ∈ world.setsAll deeds, world.now ≤ set.1.deadline := by
  induction deeds generalizing world with
  | nil => exact nofun
  | cons deed deeds inductionHypothesis =>
      intro set member
      rcases List.forall_mem_cons.mp timely with ⟨first, rest⟩
      rcases List.mem_append.mp member with here | later
      · exact le_of_sets first set here
      · exact Int.le_trans (now_le_perform world deed) (inductionHypothesis rest set later)

theorem upTo_performAll (known : horizon ≤ world.timers.issued) (deeds : List (Deed ρ α)) :
    (world.performAll deeds).timers.upTo horizon =
      (world.timers.upTo horizon).map fun entry => entry.afterAll deeds := by
  induction deeds generalizing world with
  | nil => exact (List.map_id _).symm
  | cons deed deeds inductionHypothesis =>
      have still := Nat.le_trans known (extends_perform world deed).issued
      refine (inductionHypothesis still).trans ?_
      rw [upTo_perform known, List.map_map]
      rfl

theorem beyond_performAll (known : horizon ≤ world.timers.issued) (deeds : List (Deed ρ α)) :
    (((world.performAll deeds).timers.beyond horizon).map TimerEntry.task).Perm
      ((world.timers.beyond horizon).map TimerEntry.task ++ world.setsAll deeds) := by
  induction deeds generalizing world with
  | nil => exact List.Perm.of_eq (List.append_nil _).symm
  | cons deed deeds inductionHypothesis =>
      have still := Nat.le_trans known (extends_perform world deed).issued
      refine (inductionHypothesis still).trans ?_
      rw [setsAll, ← List.append_assoc]
      exact (beyond_perform known deed).append_right _

/-- New timers get new tickets. -/
theorem lt_of_setsAll (world : World ρ α) (deeds : List (Deed ρ α)) :
    ∀ set ∈ world.setsAll deeds, world.timers.issued < set.1.ticket := by
  induction deeds generalizing world with
  | nil => exact nofun
  | cons deed deeds inductionHypothesis =>
      intro set member
      rcases List.mem_append.mp member with here | later
      · cases deed with
        | schedule delay action =>
            rw [List.mem_singleton.mp here]
            exact Nat.lt_succ_self _
        | scheduleAt deadline action =>
            rw [List.mem_singleton.mp here]
            exact Nat.lt_succ_self _
        | change | elapse | cancel => contradiction
      · exact Nat.lt_of_le_of_lt (extends_perform world deed).issued
          (inductionHypothesis _ set later)

/-- What is in the queue when some deeds are done: all that was, and what they set. -/
theorem tasks_performAll (world : World ρ α) (deeds : List (Deed ρ α)) :
    ((world.performAll deeds).timers.entries.map TimerEntry.task).Perm
      (world.timers.entries.map TimerEntry.task ++ world.setsAll deeds) := by
  have known := Nat.le_refl world.timers.issued
  have old : ((world.performAll deeds).timers.upTo world.timers.issued).map TimerEntry.task =
      (world.timers.upTo world.timers.issued).map TimerEntry.task := by
    rw [upTo_performAll known, List.map_map]
    simp [Function.comp_def]
  have before := (world.timers.upTo_append_beyond world.timers.issued).map TimerEntry.task
  have after := (Timers.upTo_append_beyond (world.performAll deeds).timers
    world.timers.issued).map TimerEntry.task
  rw [List.map_append] at before after
  refine after.symm.trans (((beyond_performAll known deeds).append_left _).trans ?_)
  rw [old, ← List.append_assoc]
  exact before.append_right _

end World

end ClusterHub

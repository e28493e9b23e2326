import ClusterHub.Proofs.Timer.Deed
import ClusterHub.Reactor.Basic
import Mathlib.Logic.Relation

/-!
# What callbacks may do

A callback takes no time.  It schedules timers for later or for now, cancels timers, and
changes what is apart from the clock and the timers as it likes: it may send messages and
ask the loop to stop.  So it leaves no timer behind that is overdue.
-/

namespace ClusterHub

namespace World

variable {ρ α : Type} {before middle after world : World ρ α} {d : Duration}

/-- One thing that a callback may do. -/
inductive Acts : World ρ α → World ρ α → Prop
  | change (world : World ρ α) (change : ρ → ρ) : Acts world (world.modifyRest change)
  | schedule (world : World ρ α) (delay : Duration) (action : α) :
      Acts world (world.schedule delay action).2
  | cancel (world : World ρ α) (handle : TimerHandle) : Acts world (world.cancel handle)

/-- All that a callback may do, one thing after another. -/
def Conducts : World ρ α → World ρ α → Prop := Relation.ReflTransGen Acts

/-- No timer is overdue. -/
structure IsPrompt (world : World ρ α) : Prop where
  /-- The entries stand in their order, as scheduling and cancelling leave them. -/
  ordered : world.timers.Ordered
  ahead : ∀ entry ∈ world.timers.running, world.now ≤ entry.deadline

/-- What becomes of a world within one instant: new timers get new tickets, and are not
overdue. -/
structure Proceeds (before after : World ρ α) : Prop where
  now : after.now = before.now
  ordered : before.timers.Ordered → after.timers.Ordered
  issued : before.timers.issued ≤ after.timers.issued
  running : ∀ entry ∈ after.timers.running, entry ∈ before.timers.running ∨
    before.timers.issued < entry.ticket ∧ before.now ≤ entry.deadline

theorem Proceeds.refl (world : World ρ α) : world.Proceeds world where
  now := rfl
  ordered := id
  issued := Nat.le_refl _
  running _ member := Or.inl member

theorem Proceeds.trans (first : before.Proceeds middle) (second : middle.Proceeds after) :
    before.Proceeds after where
  now := second.now.trans first.now
  ordered ordered := second.ordered (first.ordered ordered)
  issued := Nat.le_trans first.issued second.issued
  running entry member := by
    rcases second.running entry member with there | ⟨new, ahead⟩
    · exact first.running entry there
    · exact Or.inr ⟨Nat.lt_of_le_of_lt first.issued new, first.now ▸ ahead⟩

theorem Proceeds.extends (proceeds : before.Proceeds after) :
    before.timers.Extends after.timers where
  issued := proceeds.issued
  running entry member := (proceeds.running entry member).imp id And.left

theorem Proceeds.isPrompt (proceeds : before.Proceeds after) (prompt : before.IsPrompt) :
    after.IsPrompt where
  ordered := proceeds.ordered prompt.ordered
  ahead entry member := by
    rw [proceeds.now]
    rcases proceeds.running entry member with there | ⟨_, ahead⟩
    · exact prompt.ahead entry there
    · exact ahead

theorem Acts.proceeds (acts : Acts before after) : before.Proceeds after := by
  cases acts with
  | change change => exact ⟨rfl, id, Nat.le_refl _, fun _ member => Or.inl member⟩
  | schedule delay action =>
      constructor
      case now => rfl
      case ordered => exact fun ordered => ordered.scheduleAt _ action
      case issued => exact Nat.le_succ _
      case running =>
        intro entry member
        rcases Timers.mem_running_scheduleAt.mp member with rfl | there
        · exact Or.inr ⟨Nat.lt_succ_self _, Int.le_add_of_nonneg_right (Int.natCast_nonneg delay)⟩
        · exact Or.inl there
  | cancel handle =>
      constructor
      case now => rfl
      case ordered => exact fun ordered => ordered.cancel handle
      case issued => exact Nat.le_refl _
      case running => exact fun entry member => Or.inl (Timers.mem_running_cancel.mp member).1

theorem Conducts.proceeds (conducts : Conducts before after) : before.Proceeds after := by
  induction conducts with
  | refl => exact .refl before
  | tail _ acts inductionHypothesis => exact inductionHypothesis.trans acts.proceeds

/-- What was cancelled at some time in one instant does not run after that. -/
theorem Conducts.spent_of_cancel {handle : TimerHandle}
    (conducts : Conducts (world.cancel handle) after)
    (issued : handle.ticket ≤ world.timers.issued) : after.timers.Spent handle := by
  have cancelled : (world.cancel handle).timers.Spent handle := Timers.spent_disarm issued
  exact cancelled.extends conducts.proceeds.extends

theorem proceeds_dropFirst (world : World ρ α) : world.Proceeds world.dropFirst where
  now := rfl
  ordered ordered := ordered.dropAt 0
  issued := Nat.le_refl _
  running _ member := Or.inl (Timers.mem_running_of_dropAt member)

/-! ## While time goes by -/

/-- A wait that is no longer than until the first timer, cancelled or not, is over before any
instant that is ahead and that a timer stands for. -/
theorem elapse_le {entry : TimerEntry α} (ordered : world.timers.Ordered)
    (short : ∀ next, world.timers.nextWait world.now = some next → d ≤ next)
    (member : entry ∈ world.timers.entries) (ahead : world.now ≤ entry.deadline) :
    (world.elapse d).now ≤ entry.deadline := by
  cases entries : world.timers.entries with
  | nil =>
      rw [entries] at member
      contradiction
  | cons first rest =>
      have stands : world.timers.entries[0]? = some first := by
        rw [entries]
        rfl
      have bound : d ≤ world.now.until first.deadline := by
        apply short
        rw [Timers.nextWait, entries]
        rfl
      have early := ordered.le_of_first stands member
      -- The first entry may be a cancelled one that is overdue: then the wait has no length.
      change world.now + d ≤ entry.deadline
      unfold Instant.until Instant Duration at *
      omega

/-- No timer is overdue when such a wait is over. -/
theorem IsPrompt.elapse (prompt : world.IsPrompt)
    (short : ∀ next, world.timers.nextWait world.now = some next → d ≤ next) :
    (world.elapse d).IsPrompt where
  ordered := prompt.ordered
  ahead entry member :=
    elapse_le prompt.ordered short (Timers.mem_running.mp member).1 (prompt.ahead entry member)

end World

namespace Reactor

variable {σ ε α : Type}

/-- The callbacks of a loop do what callbacks may do. -/
structure Handlers.Behave (handlers : Handlers σ ε α) : Prop where
  message : ∀ action message scene,
    World.Conducts scene (handlers.message action message scene)
  timer : ∀ action scene, World.Conducts scene (handlers.timer action scene)

theorem Handlers.Behave.conducts_runAlarm {handlers : Handlers σ ε α} (behave : handlers.Behave)
    (alarm : Alarm α) (scene : Scene σ α) :
    World.Conducts scene (runAlarm handlers alarm scene) := by
  cases alarm with
  | deadline =>
      exact .single (.change scene fun rest => { rest with signal := rest.signal.request })
  | own action => exact behave.timer action scene

/-- The callbacks of a loop take no time. -/
structure Handlers.Still (handlers : Handlers σ ε α) : Prop where
  message : ∀ action message scene, (handlers.message action message scene).now = scene.now
  timer : ∀ action scene, (handlers.timer action scene).now = scene.now

theorem Handlers.Behave.still {handlers : Handlers σ ε α} (behave : handlers.Behave) :
    handlers.Still where
  message action message scene := (behave.message action message scene).proceeds.now
  timer action scene := (behave.timer action scene).proceeds.now

theorem Handlers.Still.now_runAlarm {handlers : Handlers σ ε α} (still : handlers.Still)
    (alarm : Alarm α) (scene : Scene σ α) : (runAlarm handlers alarm scene).now = scene.now := by
  cases alarm with
  | deadline => rfl
  | own action => exact still.timer action scene

theorem isPrompt_ofState (now : Instant) (network : Network) (state : σ) :
    (ofState now network state : Reactor σ ε α).scene.IsPrompt where
  ordered := ⟨List.Pairwise.nil, List.forall_mem_nil _⟩
  ahead := List.forall_mem_nil _

end Reactor

end ClusterHub

import ClusterHub.Proofs.Hub.Course

/-!
# Membership between events

What coherence comes to when no beat is under way: an engine that waits has one
timer that purges it, and an engine that was given up has one that sweeps it;
an engine whose heart beats has neither.
-/

namespace ClusterHub

namespace Reactor.Alarm

/-- Whether a timer purges the engine that waits for a heart. -/
def purges (heart : String) : Alarm Duty → Bool
  | .own (.purgeStalled name) => name = heart
  | _ => false

/-- Whether a timer sweeps an engine. -/
def sweeps (engine : EngineId) : Alarm Duty → Bool
  | .own (.sweepStranded id _) => id = engine
  | _ => false

variable {alarm : Alarm Duty} {heart : String} {engine : EngineId}

theorem sweeps_iff : alarm.sweeps engine ↔ ∃ queue, alarm = .own (.sweepStranded engine queue) := by
  cases alarm with
  | deadline => simp [sweeps]
  | own duty => cases duty <;> simp [sweeps]

end Reactor.Alarm

namespace Hub

variable {hub : Hub}

end Hub

end ClusterHub

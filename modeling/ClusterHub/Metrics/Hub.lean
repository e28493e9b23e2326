import ClusterHub.Metrics.Histogram

/-!
# The hub's metrics

Everything that a hub counts about itself, and the page on which it is written.
-/

namespace ClusterHub

/-- The metrics of a hub. -/
structure HubMetrics where
  registeredEngines : Gauge :=
    ⟨⟨"parhub_registered_engines", "Engines past registration"⟩, 0⟩
  pendingTasks : Gauge :=
    ⟨⟨"parhub_pending_tasks", "Tasks submitted but not completed"⟩, 0⟩
  pongsReceived : Counter :=
    ⟨⟨"parhub_pongs_received_total", "Valid heartbeat replies received"⟩, 0⟩
  heartFailures : Counter :=
    ⟨⟨"parhub_heart_failures_total", "Hearts declared failed"⟩, 0⟩
  strandedTasks : Counter :=
    ⟨⟨"parhub_stranded_tasks_total", "Tasks failed because their engine died"⟩, 0⟩
  registrationsRejected : Counter :=
    ⟨⟨"parhub_registrations_rejected_total", "Registrations refused or timed out"⟩, 0⟩
  queries : TaggedCounter :=
    ⟨⟨"parhub_queries_total", "Client queries by kind"⟩, "kind", ∅⟩
  monitorMessages : TaggedCounter :=
    ⟨⟨"parhub_monitor_messages_total", "Scheduler traffic seen on the monitor socket"⟩,
      "kind", ∅⟩
  queryDuration : Histogram :=
    .forQueries ⟨"parhub_query_duration_seconds", "Client query handling latency"⟩

namespace HubMetrics

/-- All metrics as text. -/
def render (m : HubMetrics) : String :=
  m.registeredEngines.render ++ m.pendingTasks.render ++ m.pongsReceived.render ++
    m.heartFailures.render ++ m.strandedTasks.render ++ m.registrationsRejected.render ++
    m.queries.render ++ m.monitorMessages.render ++ m.queryDuration.render

end HubMetrics

end ClusterHub

import ClusterHub.Hub.Service

/-!
# The hub service

Runs a hub with the settings of the environment, and as many engines next to it
as `PARHUB_ENGINES` asks for, until the hub is stopped.
-/

namespace ClusterHub

/-- The clock in microseconds since `start`. -/
def clockSince (start : Nat) : IO Instant := do
  return ((← IO.monoNanosNow) / 1000 - start : Nat)

/-- Iterate until the hub is stopped. -/
partial def serve (start : Nat) (service : Service) : IO Service := do
  match service.tick (← clockSince start) with
  | (.stopped, service) => return service.finish
  | (.ran 0 _, service) =>
      IO.sleep (UInt32.ofNat (min 1000 (Duration.toMillis service.pause + 1)))
      serve start service
  | (_, service) => serve start service

end ClusterHub

open ClusterHub

/-- Run the hub service. -/
def main : IO UInt32 := do
  let names := ["PARHUB_IP", "PARHUB_TRANSPORT", "PARHUB_PORT", "PARHUB_HEARTBEAT_MS",
    "PARHUB_REGISTRATION_TIMEOUT_MS", "PARHUB_SHUTDOWN_DELAY_MS"]
  let settings ← names.mapM fun name => do return (name, ← IO.getEnv name)
  let config := Config.ofEnvironment fun name =>
    (settings.lookup name).join.map String.toUTF8
  match Server.build config {} with
  | (.error fault, _) =>
      IO.eprintln fault.message
      return 1
  | (.ok server, site) =>
      let count := Service.engineCount (← IO.getEnv "PARHUB_ENGINES")
      let service := (List.range count).foldl Service.addEngine { server, site }
      let start ← IO.monoNanosNow
      let service ← serve (start / 1000) service
      let hub := Server.hub service.server service.site.now
      IO.println s!"Hub stopped with {hub.registry.activeCount} engines and {hub.ledger.size} tasks"
      IO.print hub.metrics.render
      return 0

import ClusterHub.Engine.Link
import ClusterHub.Hub.Server

/-!
# Services

A hub and some engines next to it, on one network.  An iteration lets the hub
and each engine read what waits for them and run the timers that are due, all
at one instant.
-/

namespace ClusterHub

/-- An engine without timers of its own. -/
abbrev PlainEngine := Engine Unit Empty

/-- A hub and the engines next to it. -/
structure Service where
  server : Server
  engines : List PlainEngine := []
  site : Site

namespace Service

/-- The callback of timers that do not exist. -/
def noTimer : Empty → HostedLink.Scene Unit Empty → HostedLink.Scene Unit Empty :=
  fun timer => nomatch timer

/-- The names of the engines of a service. -/
def engineName (number : Nat) : String := s!"engine-{number}"

/-- Let the engines do something, one after the other. -/
def withEngines (service : Service) (act : PlainEngine → PlainEngine) : Service :=
  let (engines, site) := service.engines.foldl (fun (engines, site) engine =>
    let engine := act (engine.setSite site)
    (engines ++ [engine], engine.site)) ([], service.site)
  { service with engines, site }

/-- Start an engine next to the hub. -/
def addEngine (service : Service) (number : Nat) : Service :=
  let engine : PlainEngine := .ofServices ["default"] service.site ()
  let addresses := service.server.state.hub.owner.engineAddresses
  let (_, engine) := engine.join (engineName number) addresses
  { service with engines := service.engines ++ [engine], site := engine.site }

/-- Let the hub read and run what is due. -/
def pollHub (service : Service) : Reactor.Outcome × Service :=
  let (outcome, server, site) := service.server.poll service.site (some 0)
  (outcome, { service with server, site })

/-- Let an engine read and run what is due, and its heart answer. -/
def pollEngine (engine : PlainEngine) : PlainEngine :=
  let (_, reactor) := engine.reactor.poll (Engine.handlers noTimer) (some 0)
  Engine.answerPings { engine with reactor }

/-- One iteration at an instant. -/
def tick (service : Service) (now : Instant) : Reactor.Outcome × Service :=
  let (outcome, service) := pollHub { service with site.now := now }
  (outcome, service.withEngines pollEngine)

/-- The time until the hub's next timer. -/
def pause (service : Service) : Duration :=
  (service.server.timers.nextWait service.site.now).getD 0

/-- Let the engines leave, and the hub take notice of each of them. -/
def finish (service : Service) : Service :=
  let service := { service.withEngines Engine.leave with
    server.signal := service.server.signal.reset }
  service.engines.foldl (fun service _ => (pollHub service).2) service

/-- The number of engines, from the text of an environment variable. -/
def engineCount (text : Option String) : Nat :=
  (Config.numberBelow? UInt64.size text).getD 0

end Service

end ClusterHub

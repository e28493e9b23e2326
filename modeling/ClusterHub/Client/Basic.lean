import ClusterHub.Transport.Socket
import ClusterHub.Wire.Build

/-!
# Clients

A client asks the hub one question at a time and waits for the answer.  What
it reads is taken for the answer to its last question; a reply of another kind
is a fault.
-/

namespace ClusterHub

/-- A client of a hub. -/
structure Client where
  /-- The socket that is connected to the hub. -/
  dealer : Dealer
  /-- How long to wait for an answer. -/
  patience : Duration

namespace Client

/-- Where a hub is looked for when no address is given. -/
def defaultAddress : String := "tcp://127.0.0.1:5012"

/-- How long to wait when no time is given. -/
def defaultPatience : Duration := .ofMillis 10000

/-- Connect to the hub at an address under an identity. -/
def connect (net : Network) (address identity : String) (patience : Duration) :
    Client × Network :=
  let (dealer, net) := Dealer.connect net address identity
  (⟨dealer, patience⟩, net)

/-- Send frames as they are. -/
def sendRaw (client : Client) (site : Site) (message : Message) : Except Fault Unit × Site :=
  match client.dealer.send site.network message with
  | (true, network) => (.ok (), { site with network })
  | (false, network) => (.error (.peerUnreachable client.dealer.address), { site with network })

/-- What a message says in answer to a query of a given kind, and the frames
that follow. -/
def replyContent (ρ : Type) [Payload ρ] (kind : QueryKind) (message : Message) :
    Except Fault (ρ × List Frame) := do
  let tag ← message.text 0
  if tag = kind.replyTag then
    let reply ← message.payload (Reply ρ) 1
    return (← reply.toExcept, message.framesFrom 2)
  else throw (.unknownMessageType tag)

/-- Wait for the answer to a query of a given kind. -/
def receiveReply (client : Client) (ρ : Type) [Payload ρ] (kind : QueryKind) (site : Site) :
    Except Fault (ρ × List Frame) × Site :=
  match client.dealer.await site client.patience with
  | (.ok message, site) => (replyContent ρ kind message, site)
  | (.error fault, site) => (.error fault, site)

/-- Ask a question and wait for the answer. -/
def exchange {τ : Type} [Payload τ] (client : Client) (ρ : Type) [Payload ρ]
    (kind : QueryKind) (payload : τ) (site : Site) : Except Fault (ρ × List Frame) × Site :=
  match client.sendRaw site (.query kind payload) with
  | (.ok (), site) => client.receiveReply ρ kind site
  | (.error fault, site) => (.error fault, site)

/-- Ask a question; `read` takes what is wanted out of the answer. -/
def request {τ β : Type} [Payload τ] (client : Client) (ρ : Type) [Payload ρ]
    (kind : QueryKind) (payload : τ) (read : ρ → β) (site : Site) : Except Fault β × Site :=
  let (answer, site) := client.exchange ρ kind payload site
  (answer.map fun answer => read answer.1, site)

/-- Register an engine.  The answer comes when its heart has been seen. -/
def register (client : Client) (registration : Registration) :
    Site → Except Fault EngineId × Site :=
  client.request EngineAck .registration registration EngineAck.id

/-- Unregister the engine of a queue. -/
def unregister (client : Client) (queue : String) : Site → Except Fault EngineId × Site :=
  client.request EngineAck .unregistration (⟨queue⟩ : Unregistration) EngineAck.id

/-- Ask for the load of engines. -/
def load (client : Client) (targets : Option (List EngineId)) :
    Site → Except Fault LoadReport × Site :=
  client.request LoadReport .load (⟨targets⟩ : LoadQuery) id

/-- Ask for the queues of engines. -/
def queueStatus (client : Client) (targets : Option (List EngineId)) (verbose : Bool) :
    Site → Except Fault QueueReport × Site :=
  client.request QueueReport .queueStatus (⟨targets, verbose⟩ : QueueQuery) id

/-- Have completed tasks forgotten, and learn how many there were. -/
def purge (client : Client) (order : PurgeOrder) : Site → Except Fault UInt64 × Site :=
  client.request PurgeReport .purge order PurgeReport.purged

/-- Ask for the state of tasks and, unless only that is wanted, their
results. -/
def results (client : Client) (tasks : List String) (statusOnly : Bool) :
    Site → Except Fault (ResultReport × List Frame) × Site :=
  client.exchange ResultReport .results (⟨tasks, statusOnly⟩ : ResultQuery)

/-- Ask for the identities of all tasks. -/
def history (client : Client) : Site → Except Fault (List String) × Site :=
  client.request HistoryReport .history () HistoryReport.history

/-- Ask for the tasks that pass a filter. -/
def tasks (client : Client) (filter : TaskFilter) : Site → Except Fault TaskListing × Site :=
  client.request TaskListing .db filter id

/-- Have completed tasks submitted again. -/
def resubmit (client : Client) (tasks : List String) :
    Site → Except Fault (List String) × Site :=
  client.request ResubmitReport .resubmit (⟨tasks⟩ : ResubmitOrder) ResubmitReport.resubmitted

/-- Ask the hub to stop, and learn how long it takes. -/
def shutdownHub (client : Client) : Site → Except Fault Duration × Site :=
  client.request ShutdownAck .shutdown () fun ack => .ofMillis ack.delayMillis.toNat

/-- Ask where everything is. -/
def directory (client : Client) : Site → Except Fault Directory × Site :=
  client.request Directory .connection () id

end Client

end ClusterHub

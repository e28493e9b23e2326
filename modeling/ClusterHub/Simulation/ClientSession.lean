import ClusterHub.Client.Basic

/-!
# Client sessions

A client opposite a router in the hub's place, which answers what it likes.
-/

namespace ClusterHub.Simulation

/-- A client and the router that it is connected to, as long as it is bound. -/
structure ClientSession where
  client : Client
  router : Option Router
  site : Site

namespace ClientSession

/-- The address of the router. -/
def address : String := "inproc://hub"

/-- Connect a client; the router is bound if that is wanted. -/
def start (identity : String) (patience : Duration) (bound : Bool) :
    Except Fault ClientSession := do
  let (router, network) ←
    if bound then (Router.bind {} address).map fun (router, network) => (some router, network)
    else pure (none, {})
  let (client, network) := Client.connect network address identity patience
  return { client, router, site := { network } }

/-- Let the router send replies to the client; gives the faults of those that
were not delivered. -/
def reply (session : ClientSession) (replies : List Message) : List Fault × ClientSession :=
  match session.router with
  | none => ([], session)
  | some router =>
      let (faults, site) := replies.foldl (fun (faults, site) message =>
        match router.send site.network (message.pushFront session.client.dealer.identity) with
        | (.ok (), network) => (faults, { site with network })
        | (.error fault, network) => (faults ++ [fault], { site with network }))
        ([], session.site)
      (faults, { session with site })

/-- Close the router. -/
def unbind (session : ClientSession) : ClientSession :=
  match session.router with
  | none => session
  | some router => { session with router := none, site := session.site.modifyNetwork router.close }

/-- Take what the router has received. -/
def takeReceived (session : ClientSession) : List Message × ClientSession :=
  match session.router with
  | none => ([], session)
  | some router =>
      let (messages, network) := session.site.network.receiveAll router.inbox
      (messages, { session with site.network := network })

end ClientSession

end ClusterHub.Simulation

import ClusterHub.Heart.Echo

/-!
# Groups of hearts

Hearts by name between one publisher of pings and one router that takes their
echoes, if it is bound.
-/

namespace ClusterHub.Simulation

/-- Some hearts, and the sockets they deal with. -/
structure HeartGroup where
  network : Network
  pings : Publisher
  router : Option Router
  pongAddress : String
  /-- The hearts by identity, in the order in which they were started. -/
  hearts : List (String × Heart) := []

namespace HeartGroup

/-- The address of the pings. -/
def pingAddress : String := "inproc://ping"

/-- No hearts; the router is bound if that is wanted. -/
def start (pongAddress : String) (bound : Bool) : Except Fault HeartGroup :=
  if bound then do
    let (router, network) ← Router.bind {} pongAddress
    return ⟨network, .bound pingAddress, some router, pongAddress, []⟩
  else .ok ⟨{}, .bound pingAddress, none, pongAddress, []⟩

/-- The heart of an identity. -/
def heart? (group : HeartGroup) (identity : String) : Option Heart :=
  group.hearts.lookup identity

/-- Stop a heart, and say whether it was there. -/
def stop (group : HeartGroup) (identity : String) : Bool × HeartGroup :=
  match group.heart? identity with
  | none => (false, group)
  | some heart =>
      (true, { group with
        network := heart.close group.network
        hearts := group.hearts.filter fun entry => entry.1 ≠ identity })

/-- Start a heart, and stop the one of that identity afterwards. -/
def spawn (group : HeartGroup) (identity : String) : HeartGroup :=
  let (heart, network) :=
    Heart.connect group.network pingAddress group.pongAddress identity
  let group := (stop { group with network } identity).2
  { group with hearts := group.hearts ++ [(identity, heart)] }

/-- Let every heart answer what it has heard. -/
def answer (group : HeartGroup) : HeartGroup :=
  group.hearts.foldl (fun group (identity, heart) =>
    let (heart, network) := heart.answerAll group.network
    { group with network, hearts := group.hearts ++ [(identity, heart)] })
    { group with hearts := [] }

/-- Publish a ping and gather the echoes: how many hearts it reached, and what
came back. -/
def ping (group : HeartGroup) (message : Message) : (Nat × List Message) × HeartGroup :=
  let (reached, network) := group.pings.send group.network message
  let group := answer { group with network }
  match group.router with
  | none => ((reached, []), group)
  | some router =>
      let (echoes, network) := group.network.receiveAll router.inbox
      ((reached, echoes), { group with network })

/-- Close the router, and say whether it was bound. -/
def unbind (group : HeartGroup) : Bool × HeartGroup :=
  match group.router with
  | none => (false, group)
  | some router => (true, { group with network := router.close group.network, router := none })

/-- Let the router send a message, if it is bound. -/
def reply (group : HeartGroup) (message : Message) : Option (Except Fault Unit) × HeartGroup :=
  match group.router with
  | none => (none, group)
  | some router =>
      let (sent, network) := router.send group.network message
      (some sent, { group with network })

end HeartGroup

end ClusterHub.Simulation

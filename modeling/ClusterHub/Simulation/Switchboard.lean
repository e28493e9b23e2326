import ClusterHub.Transport.Socket

/-!
# Switchboards

Sockets of every sort, held by name.  A socket that is opened under a name in
use takes the place of the former one, which is closed afterwards.
-/

namespace ClusterHub.Simulation

/-- A socket of any sort. -/
inductive Socket
  | router (router : Router)
  | dealer (dealer : Dealer)
  | publisher (publisher : Publisher)
  | subscriber (subscriber : Subscriber)

namespace Socket

/-- The inbox of a socket; publishers have none. -/
def inbox? : Socket → Option InboxId
  | .router r => some r.inbox
  | .dealer d => some d.inbox
  | .publisher _ => none
  | .subscriber s => some s.inbox

/-- Close a socket. -/
def close : Socket → Network → Network
  | .router r => r.close
  | .dealer d => d.close
  | .publisher _ => id
  | .subscriber s => s.close

/-- Bind a socket at another address as well, if it is of a sort that can be
bound more than once. -/
def bindAlso? (net : Network) (address : String) :
    Socket → Option (Except Fault (Socket × Network))
  | .router r => some ((r.bindAlso net address).map fun (r, net) => (router r, net))
  | .subscriber s =>
      some ((s.bindAlso net address).map fun (s, net) => (subscriber s, net))
  | _ => none

/-- Read a socket, waiting for at most `limit`; publishers cannot be read. -/
def await? (site : Site) (limit : Duration) : Socket → Option (Except Fault Message × Site)
  | .router r => some (r.await site limit)
  | .dealer d => some (d.await site limit)
  | .publisher _ => none
  | .subscriber s => some (s.await site limit)

end Socket

/-- Sockets by name, on one site. -/
structure Switchboard where
  site : Site := {}
  sockets : List (String × Socket) := []

namespace Switchboard

/-- The socket of a name. -/
def get? (board : Switchboard) (name : String) : Option Socket := board.sockets.lookup name

/-- Let the network be as given. -/
def setNetwork (board : Switchboard) (network : Network) : Switchboard :=
  { board with site.network := network }

/-- Put a socket in the place of the one of that name, without closing it. -/
def replace (board : Switchboard) (name : String) (socket : Socket) : Switchboard :=
  { board with
    sockets := (name, socket) :: board.sockets.filter fun entry => entry.1 ≠ name }

/-- Close the socket of a name, and say whether there was one. -/
def drop (board : Switchboard) (name : String) : Bool × Switchboard :=
  match board.get? name with
  | none => (false, board)
  | some socket =>
      (true, { board with
        site.network := socket.close board.site.network
        sockets := board.sockets.filter fun entry => entry.1 ≠ name })

/-- Hold a socket under a name, and close the one that had it. -/
def put (board : Switchboard) (name : String) (socket : Socket) : Switchboard :=
  (board.drop name).2.replace name socket

/-- The dealer of a name. -/
def dealer? (board : Switchboard) (name : String) : Option Dealer :=
  match board.get? name with
  | some (.dealer dealer) => some dealer
  | _ => none

/-- Read everything that waits for the sockets, by name. -/
def receiveAll (board : Switchboard) : List (String × List Message) × Switchboard :=
  board.sockets.foldl (fun (read, board) (name, socket) =>
    match socket.inbox? with
    | none => (read, board)
    | some inbox =>
        let (messages, network) := board.site.network.receiveAll inbox
        ((name, messages) :: read, board.setNetwork network)) ([], board)

end Switchboard

end ClusterHub.Simulation

import ClusterHub.Text.Octets
import ClusterHub.Transport.Network

/-!
# Sockets

The four sorts of sockets.  A router is bound and exchanges messages with
dealers, which it tells apart by their identities.  A publisher sends to the
subscribers of its address, or into the one subscriber that is bound at the
address it connects to.
-/

namespace ClusterHub

/-- A socket that is bound and routes messages by identity. -/
structure Router where
  inbox : InboxId
  /-- The addresses it is bound at, oldest first. -/
  addresses : List String
deriving DecidableEq, Repr, Inhabited

namespace Router

/-- Bind a router at an address. -/
def bind (net : Network) (address : String) : Except Fault (Router × Network) := do
  let (inbox, opened) := net.openInbox true
  let bound ← opened.bind address inbox
  return (⟨inbox, [address]⟩, bound)

/-- Bind a router at another address as well. -/
def bindAlso (router : Router) (net : Network) (address : String) :
    Except Fault (Router × Network) := do
  let bound ← net.bind address router.inbox
  return ({ router with addresses := router.addresses ++ [address] }, bound)

/-- Free a router's addresses and its inbox. -/
def close (router : Router) (net : Network) : Network :=
  (net.release router.addresses router.inbox).closeInbox router.inbox

/-- Send to the first of some addresses at which a peer can be reached.  Peers
that do not read any more are forgotten. -/
def sendVia (net : Network) (identity : Frame) (message : Message) :
    List String → Except Fault Unit × Network
  | [] => (.error (.peerUnreachable (Text.lossy identity)), net)
  | address :: addresses =>
      match (net.slot address).peer? identity with
      | none => sendVia net identity message addresses
      | some inbox =>
          match net.deliver? inbox message with
          | some net => (.ok (), net)
          | none =>
              sendVia (net.modifySlot address fun slot => slot.erasePeer identity)
                identity message addresses

/-- Send a message to the peer that its first frame names. -/
def send (router : Router) (net : Network) (message : Message) :
    Except Fault Unit × Network :=
  match message.popFront? with
  | none => (.error (.missingFrame 0), net)
  | some (identity, message) => sendVia net identity message router.addresses

/-- Read a router's inbox, waiting for at most `limit`. -/
def await (router : Router) (site : Site) (limit : Duration) : Except Fault Message × Site :=
  site.await router.inbox limit "router"

end Router

/-- A socket that is connected to an address under an identity. -/
structure Dealer where
  identity : Frame
  inbox : InboxId
  address : String
deriving DecidableEq, Inhabited

namespace Dealer

/-- Connect under an identity.  An older dealer of the same identity is no
longer reached. -/
def connect (net : Network) (address identity : String) : Dealer × Network :=
  let (inbox, net) := net.openInbox false
  let identity := Frame.ofText identity
  (⟨identity, inbox, address⟩,
    net.modifySlot address fun slot => slot.insertPeer identity inbox)

/-- Disconnect.  Whoever is connected under the identity is no longer
reached. -/
def close (dealer : Dealer) (net : Network) : Network :=
  (net.modifySlot dealer.address fun slot => slot.erasePeer dealer.identity).closeInbox
    dealer.inbox

/-- Send to the socket bound at the address, with the identity in front.  Gives
whether there was one. -/
def send (dealer : Dealer) (net : Network) (message : Message) : Bool × Network :=
  match (net.slot dealer.address).bound.bind fun inbox =>
      net.deliver? inbox (message.pushFront dealer.identity) with
  | some net => (true, net)
  | none => (false, net)

/-- Read a dealer's inbox, waiting for at most `limit`. -/
def await (dealer : Dealer) (site : Site) (limit : Duration) : Except Fault Message × Site :=
  site.await dealer.inbox limit dealer.address

end Dealer

/-! ## Publishers -/

/-- A socket that broadcasts. -/
inductive Publisher
  /-- To every subscriber that is connected to the address. -/
  | bound (address : String)
  /-- To the subscriber that is bound at the address. -/
  | connected (address : String)
deriving DecidableEq, Repr, Inhabited

namespace Publisher

/-- Deliver to inboxes in order; gives those that were reached. -/
def deliverAll (net : Network) (message : Message) :
    List InboxId → List InboxId × Network
  | [] => ([], net)
  | inbox :: inboxes =>
      match net.deliver? inbox message with
      | some net =>
          let (reached, net) := deliverAll net message inboxes
          (inbox :: reached, net)
      | none => deliverAll net message inboxes

/-- Send to every subscriber, and count those that got the message.  Others
are forgotten. -/
def send (publisher : Publisher) (net : Network) (message : Message) : Nat × Network :=
  match publisher with
  | .bound address =>
      let (reached, net) := deliverAll net message (net.slot address).subscribers
      (reached.length, net.modifySlot address fun slot => { slot with subscribers := reached })
  | .connected address =>
      match (net.slot address).bound.bind fun inbox => net.deliver? inbox message with
      | some net => (1, net)
      | none => (0, net)

end Publisher

/-- A socket that listens to publishers. -/
structure Subscriber where
  inbox : InboxId
  /-- The addresses it is bound at, oldest first. -/
  addresses : List String
deriving DecidableEq, Repr, Inhabited

namespace Subscriber

/-- Listen to the publishers that are bound at an address. -/
def connect (net : Network) (address : String) : Subscriber × Network :=
  let (inbox, net) := net.openInbox true
  (⟨inbox, []⟩, net.modifySlot address fun slot =>
    { slot with subscribers := slot.subscribers ++ [inbox] })

/-- Bind a subscriber that publishers connect to. -/
def bind (net : Network) (address : String) : Except Fault (Subscriber × Network) := do
  let (inbox, opened) := net.openInbox true
  let bound ← opened.bind address inbox
  return (⟨inbox, [address]⟩, bound)

/-- Bind a subscriber at another address as well. -/
def bindAlso (subscriber : Subscriber) (net : Network) (address : String) :
    Except Fault (Subscriber × Network) := do
  let bound ← net.bind address subscriber.inbox
  return ({ subscriber with addresses := subscriber.addresses ++ [address] }, bound)

/-- Free a subscriber's addresses and its inbox. -/
def close (subscriber : Subscriber) (net : Network) : Network :=
  (net.release subscriber.addresses subscriber.inbox).closeInbox subscriber.inbox

/-- Read a subscriber's inbox, waiting for at most `limit`. -/
def await (subscriber : Subscriber) (site : Site) (limit : Duration) :
    Except Fault Message × Site :=
  site.await subscriber.inbox limit "subscriber"

end Subscriber

end ClusterHub

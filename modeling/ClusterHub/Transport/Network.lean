import ClusterHub.Time.Instant
import ClusterHub.Wire.Message
import Std.Data.ExtTreeMap

/-!
# Networks

Sockets meet at addresses.  An address has a place for one bound socket, for
dealers by their routing identity, and for subscribers.  Every socket that
receives has an inbox, which the places refer to by number; an inbox exists as
long as somebody reads it.  A network together with the clock is a site.
-/

namespace ClusterHub

/-- The number of an inbox. -/
abbrev InboxId := Nat

/-- Messages that wait to be read. -/
structure Inbox where
  queue : List Message := []
  /-- Whether the reader itself can also write, so that the inbox never counts
  as abandoned. -/
  kept : Bool
deriving DecidableEq, Inhabited

/-- What is known at an address. -/
structure Slot where
  /-- The inbox of the bound socket. -/
  bound : Option InboxId := none
  /-- The inboxes of connected dealers by identity. -/
  peers : List (Frame × InboxId) := []
  /-- The inboxes of subscribers, in the order in which they connected. -/
  subscribers : List InboxId := []
deriving DecidableEq, Inhabited

/-- The inbox of a peer. -/
def Slot.peer? (slot : Slot) (identity : Frame) : Option InboxId :=
  slot.peers.lookup identity

/-- A slot without a peer. -/
def Slot.erasePeer (slot : Slot) (identity : Frame) : Slot :=
  { slot with peers := slot.peers.filter fun peer => peer.1 ≠ identity }

/-- A slot with a peer, in the place of another one of the same identity. -/
def Slot.insertPeer (slot : Slot) (identity : Frame) (inbox : InboxId) : Slot :=
  let slot := slot.erasePeer identity
  { slot with peers := (identity, inbox) :: slot.peers }

/-- Whether a slot refers to an inbox. -/
def Slot.refersTo (slot : Slot) (inbox : InboxId) : Bool :=
  slot.bound = some inbox || slot.peers.any (fun peer => peer.2 = inbox) ||
    slot.subscribers.contains inbox

/-- An address space and the inboxes of its sockets. -/
structure Network where
  slots : Std.ExtTreeMap String Slot := ∅
  inboxes : Std.ExtTreeMap InboxId Inbox := ∅
  /-- The number of the next inbox. -/
  nextInbox : InboxId := 0

namespace Network

instance : Inhabited Network := ⟨{}⟩

/-- What is known at an address. -/
def slot (net : Network) (address : String) : Slot :=
  net.slots.getD address {}

/-- Replace what is known at an address. -/
def setSlot (net : Network) (address : String) (slot : Slot) : Network :=
  { net with slots := net.slots.insert address slot }

/-- Change what is known at an address. -/
def modifySlot (net : Network) (address : String) (change : Slot → Slot) : Network :=
  net.setSlot address (change (net.slot address))

/-- Whether a socket is bound at an address. -/
def isBound (net : Network) (address : String) : Bool :=
  (net.slot address).bound.isSome

/-- A new inbox. -/
def openInbox (net : Network) (kept : Bool) : InboxId × Network :=
  (net.nextInbox,
    { net with
      inboxes := net.inboxes.insert net.nextInbox { kept }
      nextInbox := net.nextInbox + 1 })

/-- Remove an inbox that nobody reads any more. -/
def closeInbox (net : Network) (inbox : InboxId) : Network :=
  { net with inboxes := net.inboxes.erase inbox }

/-- Take away the reader's own right to write to an inbox. -/
def abandonInbox (net : Network) (inbox : InboxId) : Network :=
  { net with inboxes := net.inboxes.modify inbox fun box => { box with kept := false } }

/-- The messages that wait in an inbox. -/
def waiting (net : Network) (inbox : InboxId) : List Message :=
  ((net.inboxes[inbox]?).map Inbox.queue).getD []

/-- Put a message into an inbox, if somebody reads it. -/
def deliver? (net : Network) (inbox : InboxId) (message : Message) : Option Network :=
  match net.inboxes[inbox]? with
  | none => none
  | some box =>
      some { net with
        inboxes := net.inboxes.insert inbox { box with queue := box.queue ++ [message] } }

/-- Whether anybody can still write to an inbox. -/
def hasWriter (net : Network) (inbox : InboxId) : Bool :=
  ((net.inboxes[inbox]?).map Inbox.kept).getD false ||
    net.slots.toList.any fun entry => entry.2.refersTo inbox

/-- What an attempt to read an inbox meets. -/
inductive Received
  /-- The oldest message, and the network without it. -/
  | message (message : Message) (net : Network)
  /-- Nothing yet. -/
  | nothing
  /-- Nothing, and nobody left who could write. -/
  | closed

/-- Try to read an inbox. -/
def receive (net : Network) (inbox : InboxId) : Received :=
  match net.inboxes[inbox]? with
  | none => .closed
  | some box =>
      match box.queue with
      | message :: queue =>
          .message message { net with inboxes := net.inboxes.insert inbox { box with queue } }
      | [] => if net.hasWriter inbox then .nothing else .closed

/-- Whether an attempt to read an inbox would meet anything. -/
def isReady (net : Network) (inbox : InboxId) : Bool :=
  match net.receive inbox with
  | .nothing => false
  | _ => true

/-- Read an inbox without waiting. -/
def tryReceive (net : Network) (inbox : InboxId) : Option Message × Network :=
  match net.receive inbox with
  | .message message net => (some message, net)
  | _ => (none, net)

/-- Read everything that waits in an inbox. -/
def receiveAll (net : Network) (inbox : InboxId) : List Message × Network :=
  (net.waiting inbox,
    { net with inboxes := net.inboxes.modify inbox fun box => { box with queue := [] } })

/-- Bind an inbox at an address that has no bound socket. -/
def bind (net : Network) (address : String) (inbox : InboxId) : Except Fault Network :=
  let slot := net.slot address
  if slot.bound.isSome then .error (.addressInUse address)
  else .ok (net.setSlot address { slot with bound := some inbox })

/-- Free the addresses at which an inbox is bound. -/
def release (net : Network) (addresses : List String) (inbox : InboxId) : Network :=
  addresses.foldl (fun net address => net.modifySlot address fun slot =>
    if slot.bound = some inbox then { slot with bound := none } else slot) net

end Network

/-- A network and the clock that its users share. -/
structure Site where
  network : Network := {}
  now : Instant := 0

namespace Site

instance : Inhabited Site := ⟨{}⟩

/-- Change the network. -/
def modifyNetwork (site : Site) (change : Network → Network) : Site :=
  { site with network := change site.network }

/-- Let time go by. -/
def elapse (site : Site) (d : Duration) : Site := { site with now := site.now + d }

/-- Read an inbox, waiting for at most `limit`. -/
def await (site : Site) (inbox : InboxId) (limit : Duration) (waitedFor : String) :
    Except Fault Message × Site :=
  match site.network.receive inbox with
  | .message message network => (.ok message, { site with network })
  | .closed => (.error (.channelClosed waitedFor), site)
  | .nothing => (.error (.timeout waitedFor (Duration.toMillis limit)), site.elapse limit)

end Site

end ClusterHub

import ClusterHub.Transport.Socket
import ClusterHub.Wire.Identity

/-!
# Hearts

The heart of an engine listens to pings and sends each one back unchanged,
under its own identity.
-/

namespace ClusterHub

/-- A beating heart. -/
structure Heart where
  pings : Subscriber
  pongs : Dealer
  /-- The number of pings that were answered. -/
  count : Nat := 0

namespace Heart

/-- Start a heart. -/
def connect (net : Network) (pingAddress pongAddress identity : String) : Heart × Network :=
  let (pings, net) := Subscriber.connect net pingAddress
  let (pongs, net) := Dealer.connect net pongAddress identity
  (⟨pings, pongs, 0⟩, net)

/-- Send a ping back; whether anybody takes it makes no difference. -/
def echo (heart : Heart) (net : Network) (ping : Message) : Heart × Network :=
  ({ heart with count := heart.count + 1 }, (heart.pongs.send net ping).2)

/-- Answer at most `limit` of the pings that wait. -/
def answer (heart : Heart) (net : Network) : Nat → Heart × Network
  | 0 => (heart, net)
  | limit + 1 =>
      match net.tryReceive heart.pings.inbox with
      | (some ping, net) =>
          let (heart, net) := heart.echo net ping
          heart.answer net limit
      | (none, net) => (heart, net)

/-- Answer all pings that wait. -/
def answerAll (heart : Heart) (net : Network) : Heart × Network :=
  heart.answer net (net.waiting heart.pings.inbox).length

/-- Stop a heart. -/
def close (heart : Heart) (net : Network) : Network :=
  heart.pongs.close (heart.pings.close net)

end Heart

end ClusterHub

import ClusterHub.Client.Basic
import ClusterHub.Proofs.Hub.Correspondence
import ClusterHub.Proofs.Hub.Loop
import ClusterHub.Proofs.Transport.Line

/-!
# Sessions of clients

A client asks one query after another and reads one message for each, or gives up.
Meanwhile the hub deals with its events at any time.  The messages that the client
reads are the replies of the hub to it, in the order in which they were said.  No query
is replied to twice, so that as long as the client has never given up it reads the reply
to what it has just asked.  Once it has given up it can read the reply to an earlier
query instead.
-/

namespace ClusterHub

open Hub (Correspondence)

/-- What the recipient gets of something that a hub says to it. -/
def Outgoing.letter : Outgoing → Message
  | .reply _ kind content trailing =>
      ⟨[.ofText kind.replyTag, .ofPayload (content.map Answer.toJson)] ++ trailing⟩
  | _ => .empty

namespace Line

/-- Whether just some messages were added to what waits for the dealer. -/
structure Carries (line : Line) (messages : List Message) (before after : Network) : Prop where
  stands : line.Stands after
  incoming : line.incoming after = line.incoming before ++ messages
  requests : line.requests after = line.requests before

variable {line : Line} {before middle after : Network} {messages more : List Message}

theorem Keeps.carries (kept : line.Keeps before after) : line.Carries [] before after :=
  ⟨kept.stands, kept.incoming.trans (List.append_nil _).symm, kept.requests⟩

theorem Carries.trans (first : line.Carries messages before middle)
    (second : line.Carries more middle after) : line.Carries (messages ++ more) before after := by
  constructor
  case stands => exact second.stands
  case incoming => rw [second.incoming, first.incoming, List.append_assoc]
  case requests => exact second.requests.trans first.requests

end Line

namespace HubSockets

/-- The hub's sockets at the router's end of a line. -/
structure Attend (sockets : HubSockets) (line : Line) : Prop where
  inbox : sockets.query.inbox = line.desk
  addresses : sockets.query.addresses = [line.address]
  ping : ∃ address, sockets.ping = .bound address
  notifier : ∃ address, sockets.notifier = .bound address
  resubmit : sockets.resubmit.identity ≠ line.identity

variable {sockets : HubSockets} {line : Line} {net : Network} {item : Outgoing}

theorem carries_send (attend : sockets.Attend line) (stands : line.Stands net) (item : Outgoing) :
    line.Carries (([item].filter (Outgoing.isTo line.identity)).map Outgoing.letter) net
      (sockets.send net item) := by
  cases item with
  | reply recipient kind content trailing =>
      by_cases told : recipient = line.identity
      · subst told
        have told : (Outgoing.reply line.identity kind content trailing).isTo line.identity :=
          decide_eq_true rfl
        rw [List.filter_cons_of_pos told]
        rcases Line.send_of_stands stands attend.addresses
            (Outgoing.reply line.identity kind content trailing).letter with
          ⟨after, done, still, incoming, requests⟩
        have sent : sockets.send net (.reply line.identity kind content trailing) = after :=
          congrArg Prod.snd done
        rw [sent]
        exact ⟨still, incoming, requests⟩
      · rw [List.filter_cons_of_neg (by simpa [Outgoing.isTo] using told)]
        exact (Line.keeps_send stands told sockets.query
          (Outgoing.reply recipient kind content trailing).letter).carries
  | notice notice =>
      rcases attend.notifier with ⟨address, notifier⟩
      have kept := Line.keeps_publish stands address notice.toMessage
      rw [← notifier] at kept
      exact kept.carries
  | resubmission task body => exact (Line.keeps_post stands attend.resubmit _).carries
  | stop => exact stands.keeps.carries

theorem carries_foldl_send (attend : sockets.Attend line) (stands : line.Stands net)
    (outbox : List Outgoing) :
    line.Carries ((outbox.filter (Outgoing.isTo line.identity)).map Outgoing.letter) net
      (outbox.foldl sockets.send net) := by
  induction outbox generalizing net with
  | nil => exact stands.keeps.carries
  | cons item outbox inductionHypothesis =>
      have sent := carries_send attend stands item
      rw [← List.singleton_append, List.filter_append, List.map_append]
      exact sent.trans (inductionHypothesis sent.stands)

theorem keeps_foldl_sendPing (attend : sockets.Attend line) (stands : line.Stands net)
    (pings : List String) : line.Keeps net (pings.foldl sockets.sendPing net) := by
  rcases attend.ping with ⟨address, ping⟩
  induction pings generalizing net with
  | nil => exact stands.keeps
  | cons text pings inductionHypothesis =>
      have sent := Line.keeps_publish stands address ⟨[.ofText text]⟩
      rw [← ping] at sent
      exact sent.trans (inductionHypothesis sent.stands)

end HubSockets

namespace ServerState

variable {scene : Scene} {line : Line}

theorem outbox_of_isQuiet (quiet : IsQuiet scene) : (hubOf scene).state.outbox = [] := by
  rw [← quiet]
  rfl

/-- When a hub that has nothing else to send deals with an event, what it says to the
dealer is put into its inbox. -/
theorem carries_visit (quiet : IsQuiet scene) (attend : scene.rest.state.sockets.Attend line)
    (stands : line.Stands scene.rest.network) (event : Hub.Event) :
    line.Carries ((((hubOf scene).posts event).filter (Outgoing.isTo line.identity)).map
      Outgoing.letter) scene.rest.network
        (visit (fun hub => hub.react event) scene).rest.network := by
  let hub := (hubOf scene).react event
  have posted : (hubOf scene).posts event = hub.state.outbox := by
    rw [Hub.posts, outbox_of_isQuiet quiet]
    rfl
  have pinged := (HubSockets.keeps_foldl_sendPing attend stands hub.rest.pings).carries
  have sent := HubSockets.carries_foldl_send attend pinged.stands hub.state.outbox
  rw [posted]
  exact pinged.trans sent

end ServerState

/-! ## Sessions -/

namespace Client

/-- A server at work, and what a client of it has done. -/
structure Session where
  scene : ServerState.Scene
  /-- How many queries the client has sent. -/
  asked : Nat := 0
  /-- What the client has read for each of them, oldest first; nothing if it gave up. -/
  read : List (Option Message) := []

namespace Session

variable (session : Session) (client : Client)

/-- The network that the server and the client share. -/
def network : Network := session.scene.rest.network

/-- What the client sees. -/
def site : Site where
  network := session.network
  now := session.scene.now

/-- A change of the network. -/
def withNetwork (net : Network) : Session :=
  { session with scene := session.scene.modifyNetwork fun _ => net }

/-- What the client has read. -/
def heard : List Message := session.read.filterMap id

/-- The client sends a query. -/
def ask (message : Message) : Session :=
  { session.withNetwork (client.sendRaw session.site message).2.network with
    asked := session.asked + 1 }

/-- The client reads what waits for it, or gives up if there is nothing.  The time that
it has waited has gone by with the hub's events. -/
def hear : Session :=
  let (outcome, site) := client.dealer.await session.site client.patience
  { session.withNetwork site.network with read := session.read ++ [outcome.toOption] }

/-- The message that waits longest for the hub. -/
def next? : Option Message :=
  (session.network.tryReceive session.scene.rest.state.sockets.query.inbox).1

/-- The hub reads the message that waits longest for it, and handles it. -/
def serve (message : Message) : Session :=
  let taken := session.withNetwork
    (session.network.tryReceive session.scene.rest.state.sockets.query.inbox).2
  { session with scene := ServerState.handle .queries message taken.scene }

/-- The hub deals with an event. -/
def visit (event : Hub.Event) : Session :=
  { session with scene := ServerState.visit (fun hub => hub.react event) session.scene }

end Session

/-- What can happen as a client asks one query after another: the session that it comes
to, and the history of the hub. -/
inductive Course (client : Client) (line : Line) (first : ServerState.Scene) :
    Session → List Hub.Event → Prop
  | start : Course client line first { scene := first } []
  | ask {session : Session} {history : List Hub.Event} {message : Message}
      (course : Course client line first session history)
      (idle : session.asked = session.read.length)
      (sent : (client.sendRaw session.site message).1 = .ok ()) :
      Course client line first (session.ask client message) history
  | hear {session : Session} {history : List Hub.Event}
      (course : Course client line first session history)
      (busy : session.asked = session.read.length + 1) :
      Course client line first (session.hear client) history
  | serve {session : Session} {history : List Hub.Event} {message : Message}
      (course : Course client line first session history)
      (next : session.next? = some message) :
      Course client line first (session.serve message) (history ++ [.query message, .flush])
  | event {session : Session} {history : List Hub.Event} {event : Hub.Event}
      (course : Course client line first session history)
      (other : ∀ message, event ≠ .query message) :
      Course client line first (session.visit event) (history ++ [event, .flush])
  /-- What others do on the network. -/
  | others {session : Session} {history : List Hub.Event} {net : Network}
      (course : Course client line first session history)
      (kept : line.Keeps session.network net) :
      Course client line first (session.withNetwork net) history

/-- A client that has a line to the hub of a server that was just built. -/
structure Begins (client : Client) (line : Line) (first : ServerState.Scene) : Prop where
  dealer : client.dealer = ⟨line.identity, line.inbox, line.address⟩
  attached : (ServerState.hubOf first).IsAttached
  attend : first.rest.state.sockets.Attend line
  stands : line.Stands first.rest.network
  incoming : line.incoming first.rest.network = []
  requests : line.requests first.rest.network = []

/-- What is asked of the hub over a line, and what it says. -/
def correspondence (line : Line) (first : ServerState.Scene) (history : List Hub.Event) :
    Correspondence :=
  .through line.identity (ServerState.hubOf first) history

/-- What holds all along a session. -/
structure Tallies (line : Line) (first : ServerState.Scene) (session : Session)
    (history : List Hub.Event) : Prop where
  hub : ServerState.hubOf session.scene = (ServerState.hubOf first).run history
  quiet : ServerState.IsQuiet session.scene
  attend : session.scene.rest.state.sockets.Attend line
  stands : line.Stands session.network
  turn : session.asked = session.read.length ∨ session.asked = session.read.length + 1
  /-- Whatever was asked has reached the hub, or waits for it. -/
  asked : (correspondence line first history).asked + (line.requests session.network).length =
    session.asked
  /-- Whatever was said to the client has been read by it, or waits for it. -/
  said : (correspondence line first history).said.map (fun entry => entry.2.letter) =
    session.heard ++ line.incoming session.network
  /-- Whatever was read is for a query that the client waits no longer for. -/
  early : ∀ entry ∈ (correspondence line first history).said.take session.heard.length,
    ∃ number < session.read.length, entry.1 = some number

variable {client : Client} {line : Line} {first : ServerState.Scene} {session : Session}
  {history : List Hub.Event} {message : Message} {net : Network}

theorem Begins.tallies (begins : Begins client line first) :
    Tallies line first { scene := first } [] := by
  constructor
  case hub => rfl
  case quiet =>
    rcases begins.attached with ⟨config, engineAddresses, clientAddresses, now, same⟩
    rw [ServerState.IsQuiet, same]
    rfl
  case attend => exact begins.attend
  case stands => exact begins.stands
  case turn => exact Or.inl rfl
  case asked =>
    change 0 + (line.requests first.rest.network).length = 0
    rw [begins.requests]
    rfl
  case said => exact begins.incoming.symm
  case early => exact fun _ member => absurd member List.not_mem_nil

/-- A step that leaves the server alone. -/
theorem Tallies.aside (tallies : Tallies line first session history) {asked : Nat}
    {read : List (Option Message)} (stands : line.Stands net)
    (turn : asked = read.length ∨ asked = read.length + 1)
    (arrived : (correspondence line first history).asked + (line.requests net).length = asked)
    (said : (correspondence line first history).said.map (fun entry => entry.2.letter) =
      read.filterMap id ++ line.incoming net)
    (early : ∀ entry ∈ (correspondence line first history).said.take (read.filterMap id).length,
      ∃ number < read.length, entry.1 = some number) :
    Tallies line first { session.withNetwork net with asked, read } history where
  hub := tallies.hub
  quiet := tallies.quiet
  attend := tallies.attend
  stands := stands
  turn := turn
  asked := arrived
  said := said
  early := early

/-- What others do on the network. -/
theorem Tallies.others (tallies : Tallies line first session history)
    (kept : line.Keeps session.network net) :
    Tallies line first (session.withNetwork net) history := by
  refine tallies.aside kept.stands tallies.turn ?_ ?_ tallies.early
  · rw [kept.requests]
    exact tallies.asked
  · rw [kept.incoming]
    exact tallies.said

/-- A query that is sent waits for the hub. -/
theorem Tallies.ask (tallies : Tallies line first session history)
    (dealer : client.dealer = ⟨line.identity, line.inbox, line.address⟩)
    (idle : session.asked = session.read.length) (message : Message) :
    Tallies line first (session.ask client message) history := by
  have named : client.dealer.identity = line.identity := by rw [dealer]
  have here : client.dealer.address = line.address := by rw [dealer]
  rcases Line.post_of_stands tallies.stands named here message with
    ⟨after, sent, still, incoming, requests⟩
  have network : (client.sendRaw session.site message).2.network = after := by
    rw [sendRaw, show client.dealer.send session.site.network message = (true, after) from sent]
  rw [Session.ask, network]
  refine tallies.aside still (Or.inr (congrArg (· + 1) idle)) ?_ ?_ tallies.early
  · rw [requests, List.length_append, ← Nat.add_assoc, tallies.asked]
    rfl
  · rw [incoming]
    exact tallies.said

theorem hear_of_message
    (received : session.network.receive client.dealer.inbox = .message message net) :
    session.hear client =
      { session.withNetwork net with read := session.read ++ [some message] } := by
  have awaited : client.dealer.await session.site client.patience =
      (.ok message, { session.site with network := net }) := by
    have received : session.site.network.receive client.dealer.inbox =
      .message message net := received
    simp only [Dealer.await, Site.await, received]
  rw [Session.hear, awaited]
  rfl

theorem hear_of_nothing (received : session.network.receive client.dealer.inbox = .nothing) :
    session.hear client = { session with read := session.read ++ [none] } := by
  have awaited : client.dealer.await session.site client.patience =
      (.error (.timeout client.dealer.address (Duration.toMillis client.patience)),
        session.site.elapse client.patience) := by
    have received : session.site.network.receive client.dealer.inbox = .nothing := received
    simp only [Dealer.await, Site.await, received]
  rw [Session.hear, awaited]
  rfl

/-- Whatever has been said so far is for a query up to the one that the client waits
for. -/
theorem Tallies.number_lt (tallies : Tallies line first session history)
    (sound : (correspondence line first history).Sound line.identity)
    {entry : Option Nat × Outgoing} (member : entry ∈ (correspondence line first history).said) :
    ∃ number < session.asked, entry.1 = some number := by
  have subject : entry.1 ∈ (correspondence line first history).subjects :=
    List.mem_append_right _ (List.mem_map.mpr ⟨entry, member, rfl⟩)
  rcases sound.asked entry.1 subject with ⟨number, bound, same⟩
  have asked := tallies.asked
  exact ⟨number, by omega, same⟩

/-- What is read is the next thing that was said. -/
theorem Tallies.hear (tallies : Tallies line first session history)
    (dealer : client.dealer = ⟨line.identity, line.inbox, line.address⟩)
    (sound : (correspondence line first history).Sound line.identity)
    (busy : session.asked = session.read.length + 1) :
    Tallies line first (session.hear client) history := by
  have inbox : client.dealer.inbox = line.inbox := by rw [dealer]
  have turn : ∀ outcome, session.asked = (session.read ++ [outcome]).length := by
    intro outcome
    rw [List.length_append]
    exact busy
  have early : ∀ outcome count, ∀ entry ∈ (correspondence line first history).said.take count,
      ∃ number < (session.read ++ [outcome]).length, entry.1 = some number := by
    intro outcome count entry member
    rw [← turn outcome]
    exact tallies.number_lt sound (List.mem_of_mem_take member)
  rcases Line.receive_of_stands tallies.stands with ⟨message, net, received⟩ | ⟨_, received⟩
  · rcases Line.receive_of_inbox tallies.stands received with ⟨still, incoming, requests⟩
    rw [hear_of_message (inbox ▸ received)]
    refine tallies.aside still (Or.inl (turn _)) ?_ ?_ (early _ _)
    · rw [requests]
      exact tallies.asked
    · rw [tallies.said, incoming, Session.heard, List.filterMap_append, List.append_assoc]
      rfl
  · rw [hear_of_nothing (inbox ▸ received)]
    refine tallies.aside tallies.stands (Or.inl (turn _)) tallies.asked ?_ (early _ _)
    rw [tallies.said, Session.heard, List.filterMap_append]
    exact congrArg (· ++ _) (List.append_nil _).symm

/-- The hub deals with an event, for which it may have read a message. -/
theorem Tallies.visit (tallies : Tallies line first session history) (stands : line.Stands net)
    (incoming : line.incoming net = line.incoming session.network) (event : Hub.Event)
    (requests : (line.requests session.network).length =
      (event.isFrom line.identity).toNat + (line.requests net).length) :
    Tallies line first ((session.withNetwork net).visit event) (history ++ [event, .flush]) := by
  obtain ⟨asked, said⟩ := Correspondence.through_append_flush line.identity
    (ServerState.hubOf first) history event
  change (correspondence line first (history ++ [event, .flush])).said =
    (correspondence line first history).said ++ _ at said
  rw [← tallies.hub] at said
  have quiet : ServerState.IsQuiet (session.withNetwork net).scene := tallies.quiet
  have carried := ServerState.carries_visit quiet tallies.attend stands event
  have lengths := congrArg List.length tallies.said
  rw [List.length_map, List.length_append] at lengths
  constructor
  case hub =>
    rw [Hub.run_append, ← tallies.hub]
    rfl
  case quiet => rfl
  case attend => exact tallies.attend
  case stands => exact carried.stands
  case turn => exact tallies.turn
  case asked =>
    calc
      _ = (correspondence line first history).asked + (event.isFrom line.identity).toNat +
          (line.requests net).length :=
        congrArg₂ (· + ·) asked (congrArg List.length carried.requests)
      _ = (correspondence line first history).asked + (line.requests session.network).length := by
        rw [requests, Nat.add_assoc]
      _ = session.asked := tallies.asked
  case said =>
    let told := (((ServerState.hubOf session.scene).posts event).filter
      (Outgoing.isTo line.identity)).map Outgoing.letter
    rw [said, List.map_append, List.map_map]
    calc
      _ = session.heard ++ line.incoming session.network ++ told :=
        congrArg (· ++ told) tallies.said
      _ = session.heard ++ (line.incoming net ++ told) := by rw [incoming, List.append_assoc]
      _ = _ := congrArg (session.heard ++ ·) carried.incoming.symm
  case early =>
    have complete : session.heard.length ≤ (correspondence line first history).said.length := by
      omega
    intro entry member
    change entry ∈ List.take session.heard.length _ at member
    rw [said, List.take_append_of_le_length complete] at member
    exact tallies.early entry member

/-- What holds all along a session holds at its end. -/
theorem Course.tallies (course : Course client line first session history)
    (begins : Begins client line first)
    (few : (ServerState.hubOf first).admissions history < UInt32.size) :
    Tallies line first session history := by
  have fewer : ∀ {past : List Hub.Event} {more : List Hub.Event},
      (ServerState.hubOf first).admissions (past ++ more) < UInt32.size →
      (ServerState.hubOf first).admissions past < UInt32.size := by
    intro past more few
    rw [Hub.admissions_append] at few
    omega
  induction course with
  | start => exact begins.tallies
  | ask _ idle _ inductionHypothesis => exact (inductionHypothesis few).ask begins.dealer idle _
  | hear _ busy inductionHypothesis =>
      have sound := Correspondence.sound_through line.identity begins.attached few
      exact (inductionHypothesis few).hear begins.dealer sound busy
  | @serve session history message _ next inductionHypothesis =>
      have tallies := inductionHypothesis (fewer few)
      have received := Line.receive_of_tryReceive next
      rw [tallies.attend.inbox] at received
      rcases Line.receive_of_desk tallies.stands received with ⟨still, incoming, requests⟩
      -- A query of the client is asked of the hub when it leaves the line.
      have counted : (line.requests session.network).length =
          (Hub.Event.isFrom line.identity (.query message)).toNat +
            (line.requests (session.network.tryReceive line.desk).2).length := by
        have own : Hub.Event.isFrom line.identity (.query message) = line.isFrom message := rfl
        rw [requests, own]
        cases line.isFrom message with
        | false => exact (Nat.zero_add _).symm
        | true => exact Nat.add_comm ..
      have served := tallies.visit still incoming (.query message) counted
      rw [← tallies.attend.inbox] at served
      exact served
  | @event session history event _ other inductionHypothesis =>
      have tallies := inductionHypothesis (fewer few)
      have foreign : event.isFrom line.identity = false := by
        cases event with
        | query message => exact absurd rfl (other message)
        | _ => rfl
      have counted : (line.requests session.network).length =
          (event.isFrom line.identity).toNat + (line.requests session.network).length := by
        rw [foreign]
        exact (Nat.zero_add _).symm
      exact tallies.visit tallies.stands rfl event counted
  | others _ kept inductionHypothesis => exact (inductionHypothesis few).others kept

end Client

end ClusterHub

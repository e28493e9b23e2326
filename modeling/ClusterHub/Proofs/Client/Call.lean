import Mathlib.Data.List.Perm.Subperm
import ClusterHub.Proofs.Client.Session

/-!
# Calls of clients

A client takes the next thing that a hub has said to it for the reply to its last
query.  That is right as long as the client has never given up.  Once it has, the reply
to an earlier query may still come, and is taken for the reply to a later one.
-/

namespace ClusterHub.Client

open Hub (Correspondence)

variable {client : Client} {line : Line} {first : ServerState.Scene} {session : Session}
  {history : List Hub.Event} {message : Message} {net : Network}

/-- A client that has never given up has read as much as it has asked before. -/
theorem length_heard (patient : ∀ outcome ∈ session.read, outcome.isSome) :
    session.heard.length = session.read.length := by
  unfold Session.heard
  generalize session.read = read at patient
  induction read with
  | nil => rfl
  | cons outcome read inductionHypothesis =>
      rcases List.forall_mem_cons.mp patient with ⟨first, others⟩
      rcases Option.isSome_iff_exists.mp first with ⟨message, rfl⟩
      exact congrArg (· + 1) (inductionHypothesis others)

/-- What a client reads that has never given up is for the query that it waits for:
whatever was said before is for the queries before, of which there are no more. -/
theorem Tallies.number_eq (tallies : Tallies line first session history)
    (sound : (correspondence line first history).Sound line.identity)
    (patient : ∀ outcome ∈ session.read, outcome.isSome) {number : Nat} {item : Outgoing}
    (next : (correspondence line first history).said[session.heard.length]? =
      some (some number, item)) (bound : number ≤ session.read.length) :
    number = session.read.length := by
  apply Nat.le_antisymm bound
  apply Nat.le_of_not_lt
  intro early
  -- What was read and what is read next would be for fewer queries than they are replies.
  let told := (correspondence line first history).said.take (session.heard.length + 1)
  have taken : told = (correspondence line first history).said.take session.heard.length ++
      [(some number, item)] := by
    change List.take _ _ = _
    rw [List.take_add_one, next, Option.toList_some]
  have inRange : told.map Prod.fst ⊆ (List.range session.read.length).map some := by
    intro subject member
    rw [taken, List.map_append] at member
    rcases List.mem_append.mp member with before | now
    · rcases List.mem_map.mp before with ⟨entry, earlier, rfl⟩
      rcases tallies.early entry earlier with ⟨other, bound, same⟩
      exact List.mem_map.mpr ⟨other, List.mem_range.mpr bound, same.symm⟩
    · cases List.mem_singleton.mp now
      exact List.mem_map.mpr ⟨number, List.mem_range.mpr early, rfl⟩
  have once : (told.map Prod.fst).Nodup := by
    have distinct := (List.nodup_append.mp sound.once).2.1
    exact distinct.sublist ((List.take_sublist ..).map _)
  have count := (List.subperm_of_subset once inRange).length_le
  rw [List.length_map, List.length_map, List.length_range, taken, List.length_append,
    List.length_take_of_le (Nat.le_of_lt (List.getElem?_eq_some_iff.mp next).1),
    length_heard patient, List.length_singleton] at count
  exact Nat.not_succ_le_self _ count

theorem receiveReply_of_message {ρ : Type} [Payload ρ] (kind : QueryKind)
    (received : session.network.receive client.dealer.inbox = .message message net) :
    (client.receiveReply ρ kind session.site).1 = replyContent ρ kind message := by
  have received : session.site.network.receive client.dealer.inbox =
    .message message net := received
  simp only [receiveReply, Dealer.await, Site.await, received]

theorem receiveReply_of_nothing {ρ : Type} [Payload ρ] (kind : QueryKind)
    (received : session.network.receive client.dealer.inbox = .nothing) :
    (client.receiveReply ρ kind session.site).1 =
      .error (.timeout client.dealer.address (Duration.toMillis client.patience)) := by
  have received : session.site.network.receive client.dealer.inbox = .nothing := received
  simp only [receiveReply, Dealer.await, Site.await, received]

/-- What a client comes to that waits for the reply to its last query.  The hub has said
something to it at most once for each query.  The client reads the first thing that was
said and that it has not read yet, whatever it is for: a query up to the last one, and
the last one itself if the client has never given up.  It runs out of patience if
everything that was said has been read. -/
theorem outcome_of_call (begins : Begins client line first)
    (course : Course client line first session history)
    (few : (ServerState.hubOf first).admissions history < UInt32.size)
    (busy : session.asked = session.read.length + 1) (ρ : Type) [Payload ρ] (kind : QueryKind) :
    let said := (correspondence line first history).said
    let outcome := (client.receiveReply ρ kind session.site).1
    (said.map Prod.fst).Nodup ∧
    (∀ subject item, said[session.heard.length]? = some (subject, item) →
      outcome = replyContent ρ kind item.letter ∧
      ∃ number ≤ session.read.length, subject = some number ∧
        ((∀ earlier ∈ session.read, earlier.isSome) → number = session.read.length)) ∧
    (said[session.heard.length]? = none →
      outcome = .error (.timeout line.address (Duration.toMillis client.patience))) := by
  intro said outcome
  have tallies := course.tallies begins few
  have sound := Correspondence.sound_through line.identity begins.attached few
  have inbox : client.dealer.inbox = line.inbox := by rw [begins.dealer]
  have letter : said[session.heard.length]?.map (fun entry => entry.2.letter) =
      (line.incoming session.network).head? := by
    rw [← List.getElem?_map, tallies.said, List.getElem?_append_right (Nat.le_refl _), Nat.sub_self,
      List.head?_eq_getElem?]
  refine ⟨(List.nodup_append.mp sound.once).2.1, ?_, ?_⟩
  · intro subject item next
    rw [next, Option.map_some] at letter
    have told : ∃ number < session.asked, subject = some number :=
      tallies.number_lt sound (List.mem_of_getElem? next)
    rcases told with ⟨number, bound, rfl⟩
    have bound : number ≤ session.read.length := by omega
    refine ⟨?_, number, bound, rfl, fun patient => tallies.number_eq sound patient next bound⟩
    rcases Line.receive_of_stands tallies.stands with ⟨message, net, received⟩ | ⟨empty, _⟩
    · have incoming := (Line.receive_of_inbox tallies.stands received).2.1
      rw [incoming, List.head?_cons] at letter
      rw [Option.some.inj letter]
      exact receiveReply_of_message kind (inbox ▸ received)
    · rw [empty] at letter
      contradiction
  · intro none
    rw [none, Option.map_none] at letter
    rcases Line.receive_of_stands tallies.stands with ⟨message, net, received⟩ | ⟨_, received⟩
    · have incoming := (Line.receive_of_inbox tallies.stands received).2.1
      rw [incoming] at letter
      contradiction
    · have address : client.dealer.address = line.address := by rw [begins.dealer]
      rw [← address]
      exact receiveReply_of_nothing kind (inbox ▸ received)

/-! ## A server and a client of it -/

theorem isSome_build : (Server.build {} {}).1.toOption.isSome := by decide +kernel

/-- A server with the default settings that was just built. -/
def newServer : Server := (Server.build {} {}).1.toOption.get isSome_build

theorem build_newServer : Server.build {} {} = (.ok newServer, (Server.build {} {}).2) := by
  have built := Option.some_get isSome_build
  change some newServer = _ at built
  cases outcome : (Server.build {} {}).1 with
  | error fault =>
      rw [outcome] at built
      contradiction
  | ok server =>
      rw [outcome] at built
      cases built
      exact Prod.ext outcome rfl

/-- A client that has just connected to the server, and what the server sees then. -/
def newcomer : Client × ServerState.Scene :=
  let site := (Server.build {} {}).2
  let (client, network) := connect site.network
    newServer.state.hub.owner.engineAddresses.registration "c" defaultPatience
  (client, (newServer.resume { site with network }).scene)

/-- The line between the two. -/
def newLine : Line where
  identity := newcomer.1.dealer.identity
  address := newcomer.1.dealer.address
  inbox := newcomer.1.dealer.inbox
  desk := newcomer.2.rest.state.sockets.query.inbox

theorem begins_newcomer : Begins newcomer.1 newLine newcomer.2 := by
  constructor
  case dealer => rfl
  case attached => exact Server.isAttached_build build_newServer
  case attend =>
    constructor
    case inbox => rfl
    case addresses => decide +kernel
    case ping => exact ⟨newServer.state.hub.owner.engineAddresses.ping, by decide +kernel⟩
    case notifier =>
      exact ⟨newServer.state.hub.owner.clientAddresses.notification, by decide +kernel⟩
    case resubmit => decide +kernel
  case stands => apply Line.stands_of_slots <;> decide +kernel
  case incoming => decide +kernel
  case requests => decide +kernel

/-- The query that asks that a queue be unregistered. -/
def unregistering (queue : String) : Message := .query .unregistration (⟨queue⟩ : Unregistration)

/-- The session in which the client has asked for the first time. -/
def asking : Session := ({ scene := newcomer.2 } : Session).ask newcomer.1 (unregistering "a")

theorem course_asking : Course newcomer.1 newLine newcomer.2 asking [] := by
  have connected : Course newcomer.1 newLine newcomer.2 { scene := newcomer.2 } [] := .start
  exact connected.ask rfl (by decide +kernel)

/-- The session in which the hub has replied to that. -/
def promptReply : Session :=
  asking.serve ((unregistering "a").pushFront newcomer.1.dealer.identity)

theorem course_promptReply : Course newcomer.1 newLine newcomer.2 promptReply
    [.query ((unregistering "a").pushFront newcomer.1.dealer.identity), .flush] :=
  course_asking.serve (by decide +kernel)

/-- A client that has never given up reads the reply to its query. -/
theorem outcome_of_call_promptReply :
    let history := [.query ((unregistering "a").pushFront newcomer.1.dealer.identity), .flush]
    Begins newcomer.1 newLine newcomer.2 ∧
      Course newcomer.1 newLine newcomer.2 promptReply history ∧
      (ServerState.hubOf newcomer.2).admissions history < UInt32.size ∧
      promptReply.asked = promptReply.read.length + 1 ∧
      ∃ item, (correspondence newLine newcomer.2 history).said[0]? = some (some 0, item) ∧
        (newcomer.1.receiveReply EngineAck .unregistration promptReply.site).1 =
          replyContent EngineAck .unregistration item.letter := by
  intro history
  have few : (ServerState.hubOf newcomer.2).admissions history < UInt32.size := by decide +kernel
  have busy : promptReply.asked = promptReply.read.length + 1 := by decide +kernel
  have replied : (correspondence newLine newcomer.2 history).said[0]?.map Prod.fst =
      some (some 0) := by decide +kernel
  rcases Option.map_eq_some_iff.mp replied with ⟨⟨subject, item⟩, next, rfl⟩
  refine ⟨begins_newcomer, course_promptReply, few, busy, item, next, ?_⟩
  exact ((outcome_of_call begins_newcomer course_promptReply few busy EngineAck .unregistration).2.1
    _ item next).1

/-- A session in which a client gives up, and then waits for the reply to its second
query when the hub has replied to both. -/
def lateReply : Session :=
  let client := newcomer.1
  let second := (asking.hear client).ask client (unregistering "b")
  (second.serve ((unregistering "a").pushFront client.dealer.identity)).serve
    ((unregistering "b").pushFront client.dealer.identity)

/-- What happens to the hub in it. -/
def lateHistory : List Hub.Event :=
  [.query ((unregistering "a").pushFront newcomer.1.dealer.identity), .flush,
    .query ((unregistering "b").pushFront newcomer.1.dealer.identity), .flush]

theorem course_lateReply : Course newcomer.1 newLine newcomer.2 lateReply lateHistory := by
  have second : Course newcomer.1 newLine newcomer.2
      ((asking.hear newcomer.1).ask newcomer.1 (unregistering "b")) [] :=
    (course_asking.hear rfl).ask (by decide +kernel) (by decide +kernel)
  exact (second.serve (by decide +kernel)).serve (by decide +kernel)

/-- What the client reads in that session is what the hub has replied to its first query,
although the hub has replied something else to the second, which it waits for. -/
theorem mistakes_lateReply :
    Begins newcomer.1 newLine newcomer.2 ∧
      Course newcomer.1 newLine newcomer.2 lateReply lateHistory ∧
      (ServerState.hubOf newcomer.2).admissions lateHistory < UInt32.size ∧
      lateReply.asked = 2 ∧ lateReply.read = [none] ∧
      (correspondence newLine newcomer.2 lateHistory).said.map (fun entry =>
        (entry.1, replyContent EngineAck .unregistration entry.2.letter)) =
          [(some 0, .error (.remote "UnknownEngine" "Unknown engine: a")),
            (some 1, .error (.remote "UnknownEngine" "Unknown engine: b"))] ∧
      (newcomer.1.receiveReply EngineAck .unregistration lateReply.site).1 =
        .error (.remote "UnknownEngine" "Unknown engine: a") := by
  refine ⟨begins_newcomer, course_lateReply, ?_⟩
  decide +kernel

end ClusterHub.Client

import ClusterHub.Proofs.Transport.Network

/-!
# Lines

A dealer that nobody else shares its identity or its inbox with has a line to the
router at its address.  What others do leaves the line as it is: the dealer's inbox
holds what the router has sent to it, and among the messages that wait for the router
those of the dealer stay in their order.
-/

namespace ClusterHub

/-- A dealer and the router at its address. -/
structure Line where
  identity : Frame
  address : String
  /-- Where the dealer reads. -/
  inbox : InboxId
  /-- Where the router reads. -/
  desk : InboxId

namespace Line

/-- Whether a message is from the dealer. -/
def isFrom (line : Line) (message : Message) : Bool := message.frames[0]? = some line.identity

/-- What waits for the dealer. -/
def incoming (line : Line) (net : Network) : List Message := net.waiting line.inbox

/-- What waits for the router and is from the dealer. -/
def requests (line : Line) (net : Network) : List Message :=
  (net.waiting line.desk).filter line.isFrom

/-- Whether the line is up, and nothing else leads to where it ends. -/
structure Stands (line : Line) (net : Network) : Prop where
  peer : net.peer? line.address line.identity = some line.inbox
  bound : (net.slot line.address).bound = some line.desk
  opened : line.inbox ∈ net.inboxes
  manned : line.desk ∈ net.inboxes
  apart : line.inbox ≠ line.desk
  unbound : ∀ address, (net.slot address).bound ≠ some line.inbox
  unsubscribed : ∀ address, line.inbox ∉ (net.slot address).subscribers ∧
    line.desk ∉ (net.slot address).subscribers
  own : ∀ address identity, net.peer? address identity = some line.inbox →
    address = line.address ∧ identity = line.identity
  unshared : ∀ address identity, net.peer? address identity ≠ some line.desk

/-- Whether what is done on a network leaves a line as it is. -/
structure Keeps (line : Line) (before after : Network) : Prop where
  stands : line.Stands after
  incoming : line.incoming after = line.incoming before
  requests : line.requests after = line.requests before

variable {line : Line} {net after : Network} {message : Message} {target : InboxId}
  {address : String} {identity : Frame}

theorem Stands.keeps (stands : line.Stands net) : line.Keeps net net := ⟨stands, rfl, rfl⟩

theorem Keeps.trans {last : Network} (first : line.Keeps net after)
    (second : line.Keeps after last) : line.Keeps net last :=
  ⟨second.stands, second.incoming.trans first.incoming, second.requests.trans first.requests⟩

/-- A line is up if it is, and nothing that is known at any address leads to where it
ends. -/
theorem stands_of_slots (peer : net.peer? line.address line.identity = some line.inbox)
    (bound : (net.slot line.address).bound = some line.desk) (opened : line.inbox ∈ net.inboxes)
    (manned : line.desk ∈ net.inboxes) (apart : line.inbox ≠ line.desk)
    (others : ∀ entry ∈ net.slots.toList, entry.2.bound ≠ some line.inbox ∧
      line.inbox ∉ entry.2.subscribers ∧ line.desk ∉ entry.2.subscribers ∧
      ∀ peer ∈ entry.2.peers, peer.2 ≠ line.desk ∧
        (peer.2 = line.inbox → entry.1 = line.address ∧ peer.1 = line.identity)) :
    line.Stands net := by
  have listed : ∀ {address identity inbox}, net.peer? address identity = some inbox →
      (address, net.slot address) ∈ net.slots.toList ∧
        (identity, inbox) ∈ (net.slot address).peers := by
    intro address identity inbox found
    rcases List.lookup_eq_some_iff.mp found with ⟨before, after, split, _⟩
    have member : (identity, inbox) ∈ (net.slot address).peers := by
      rw [split]
      exact List.mem_append_right _ List.mem_cons_self
    refine ⟨?_, member⟩
    rcases net.slot_eq address with unknown | known
    · rw [unknown] at member
      contradiction
    · exact known
  constructor
  case peer => exact peer
  case bound => exact bound
  case opened => exact opened
  case manned => exact manned
  case apart => exact apart
  case unbound =>
    intro address
    rcases net.slot_eq address with unknown | known
    · rw [unknown]
      nofun
    · exact (others _ known).1
  case unsubscribed =>
    intro address
    rcases net.slot_eq address with unknown | known
    · rw [unknown]
      exact ⟨List.not_mem_nil, List.not_mem_nil⟩
    · exact ⟨(others _ known).2.1, (others _ known).2.2.1⟩
  case own =>
    intro address identity found
    rcases listed found with ⟨known, member⟩
    exact ((others _ known).2.2.2 _ member).2 rfl
  case unshared =>
    intro address identity found
    rcases listed found with ⟨known, member⟩
    exact ((others _ known).2.2.2 _ member).1 rfl

/-- A line stands as long as the places and the inboxes that are open stay the same. -/
theorem Stands.of_slots (stands : line.Stands net) (slots : after.slots = net.slots)
    (opened : ∀ inbox, inbox ∈ after.inboxes ↔ inbox ∈ net.inboxes) : line.Stands after := by
  have slot : after.slot = net.slot := by
    funext address
    rw [Network.slot, slots]
    rfl
  have peer : after.peer? = net.peer? := by
    funext address identity
    rw [Network.peer?, slot]
    rfl
  constructor
  case peer => rw [peer]; exact stands.peer
  case bound => rw [slot]; exact stands.bound
  case opened => exact (opened _).mpr stands.opened
  case manned => exact (opened _).mpr stands.manned
  case apart => exact stands.apart
  case unbound => rw [slot]; exact stands.unbound
  case unsubscribed => rw [slot]; exact stands.unsubscribed
  case own => rw [peer]; exact stands.own
  case unshared => rw [peer]; exact stands.unshared

theorem stands_insert (stands : line.Stands net) {box : Inbox} (opened : target ∈ net.inboxes) :
    line.Stands { net with inboxes := net.inboxes.insert target box } :=
  stands.of_slots rfl (Network.samePlaces_insert opened).opened

/-- What a message that is put into an inbox does to a line. -/
theorem deliver?_eq_some (stands : line.Stands net)
    (done : net.deliver? target message = some after) :
    line.Stands after ∧ ∀ inbox, after.waiting inbox =
      if target = inbox then net.waiting target ++ [message] else net.waiting inbox := by
  unfold Network.deliver? at done
  split at done
  · contradiction
  · next box found =>
      cases done
      refine ⟨stands_insert stands (of_getElem?_eq_some found), ?_⟩
      intro inbox
      rw [Network.waiting_insert, Network.waiting_of_found found]

theorem deliver?_of_mem (opened : target ∈ net.inboxes) (message : Message) :
    ∃ after, net.deliver? target message = some after := by
  rw [Std.ExtTreeMap.mem_iff_isSome_getElem?] at opened
  rcases Option.isSome_iff_exists.mp opened with ⟨box, found⟩
  simp only [Network.deliver?, found]
  exact ⟨_, rfl⟩

/-- A message that goes elsewhere, or to the router but is not from the dealer. -/
theorem keeps_deliver? (stands : line.Stands net)
    (done : net.deliver? target message = some after) (elsewhere : target ≠ line.inbox)
    (foreign : target = line.desk → ¬ line.isFrom message) : line.Keeps net after := by
  rcases deliver?_eq_some stands done with ⟨still, waiting⟩
  refine ⟨still, ?_, ?_⟩
  · rw [incoming, waiting, if_neg elsewhere]
    rfl
  · rw [requests, waiting]
    split
    · next here =>
        rw [List.filter_append, List.filter_cons_of_neg (foreign here), here]
        exact List.append_nil _
    · rfl

/-- A place that others leave or join keeps a line. -/
theorem keeps_setSlot (stands : line.Stands net) {slot : Slot}
    (bound : slot.bound = (net.slot address).bound)
    (subscribers : ∀ inbox ∈ slot.subscribers, inbox ∈ (net.slot address).subscribers)
    (peers : ∀ identity inbox, slot.peer? identity = some inbox →
      net.peer? address identity = some inbox)
    (peer : address = line.address → slot.peer? line.identity = some line.inbox) :
    line.Keeps net (net.setSlot address slot) := by
  have slots : ∀ other, (net.setSlot address slot).slot other =
      if address = other then slot else net.slot other := fun _ => net.slot_setSlot ..
  have known : ∀ other identity inbox,
      (net.setSlot address slot).peer? other identity = some inbox →
      net.peer? other identity = some inbox := by
    intro other identity inbox found
    rw [Network.peer?, slots] at found
    split at found
    · next here =>
        subst here
        exact peers identity inbox found
    · exact found
  refine ⟨?_, rfl, rfl⟩
  constructor
  case peer =>
    rw [Network.peer?, slots]
    split
    · next here => exact peer here
    · exact stands.peer
  case bound =>
    rw [slots]
    split
    · next here =>
        subst here
        exact bound.trans stands.bound
    · exact stands.bound
  case opened => exact stands.opened
  case manned => exact stands.manned
  case apart => exact stands.apart
  case unbound =>
    intro other
    rw [slots]
    split
    · rw [bound]
      exact stands.unbound address
    · exact stands.unbound other
  case unsubscribed =>
    intro other
    rw [slots]
    split
    · exact ⟨fun member => (stands.unsubscribed address).1 (subscribers _ member),
        fun member => (stands.unsubscribed address).2 (subscribers _ member)⟩
    · exact stands.unsubscribed other
  case own => exact fun other identity found => stands.own other identity (known _ _ _ found)
  case unshared =>
    exact fun other identity found => stands.unshared other identity (known _ _ _ found)

/-- Another peer that is forgotten. -/
theorem keeps_erasePeer (stands : line.Stands net) (other : identity ≠ line.identity)
    (address : String) :
    line.Keeps net (net.modifySlot address fun slot => slot.erasePeer identity) := by
  refine keeps_setSlot stands rfl (fun _ member => member) ?_ ?_
  · intro name inbox reached
    rw [Slot.peer?_erasePeer] at reached
    split at reached
    · contradiction
    · exact reached
  · rintro rfl
    rw [Slot.peer?_erasePeer, if_neg other]
    exact stands.peer

/-- What a router sends to others. -/
theorem keeps_sendVia (stands : line.Stands net) (other : identity ≠ line.identity)
    (message : Message) (addresses : List String) :
    line.Keeps net (Router.sendVia net identity message addresses).2 := by
  induction addresses generalizing net with
  | nil => exact stands.keeps
  | cons address addresses inductionHypothesis =>
      unfold Router.sendVia
      split
      · exact inductionHypothesis stands
      · next inbox found =>
          split
          · next after done =>
              refine keeps_deliver? stands done ?_ ?_
              · rintro rfl
                exact other (stands.own address identity found).2
              · rintro rfl
                exact absurd found (stands.unshared address identity)
          · have forgotten := keeps_erasePeer stands other address
            exact forgotten.trans (inductionHypothesis forgotten.stands)

theorem keeps_send (stands : line.Stands net) (other : identity ≠ line.identity) (router : Router)
    (message : Message) :
    line.Keeps net (router.send net (message.pushFront identity)).2 :=
  keeps_sendVia stands other message router.addresses

theorem keeps_deliverAll (stands : line.Stands net) (message : Message) {inboxes : List InboxId}
    (elsewhere : line.inbox ∉ inboxes ∧ line.desk ∉ inboxes) :
    line.Keeps net (Publisher.deliverAll net message inboxes).2 := by
  induction inboxes generalizing net with
  | nil => exact stands.keeps
  | cons inbox inboxes inductionHypothesis =>
      rw [List.mem_cons, List.mem_cons, not_or, not_or] at elsewhere
      obtain ⟨⟨first, rest⟩, ⟨firstDesk, restDesk⟩⟩ := elsewhere
      unfold Publisher.deliverAll
      split
      · next after done =>
          have kept := keeps_deliver? stands done (Ne.symm first) fun here =>
            absurd here.symm firstDesk
          exact kept.trans (inductionHypothesis kept.stands ⟨rest, restDesk⟩)
      · exact inductionHypothesis stands ⟨rest, restDesk⟩

/-- What is published. -/
theorem keeps_publish (stands : line.Stands net) (address : String) (message : Message) :
    line.Keeps net ((Publisher.bound address).send net message).2 := by
  have kept := keeps_deliverAll stands message (stands.unsubscribed address)
  rcases Network.deliverAll_spec net message (net.slot address).subscribers with ⟨slots, fewer⟩
  unfold Publisher.send
  refine kept.trans (keeps_setSlot kept.stands rfl ?_ (fun _ _ found => found) ?_)
  · intro inbox member
    have subscribed := fewer inbox member
    rw [Network.slot, slots]
    exact subscribed
  · rintro rfl
    exact kept.stands.peer

/-- What another dealer sends. -/
theorem keeps_post (stands : line.Stands net) {dealer : Dealer}
    (other : dealer.identity ≠ line.identity) (message : Message) :
    line.Keeps net (dealer.send net message).2 := by
  unfold Dealer.send
  split
  · next after done =>
      rcases Option.bind_eq_some_iff.mp done with ⟨target, bound, done⟩
      refine keeps_deliver? stands done ?_ ?_
      · rintro rfl
        exact stands.unbound _ bound
      · intro _ own
        have same : dealer.identity = line.identity := by
          simpa [isFrom, Message.pushFront] using own
        exact other same
  · exact stands.keeps

/-! ## What goes over the line -/

/-- What the router sends to the dealer is put into its inbox. -/
theorem send_of_stands (stands : line.Stands net) {router : Router}
    (alone : router.addresses = [line.address]) (message : Message) :
    ∃ after, router.send net (message.pushFront line.identity) = (.ok (), after) ∧
      line.Stands after ∧ line.incoming after = line.incoming net ++ [message] ∧
      line.requests after = line.requests net := by
  rcases deliver?_of_mem stands.opened message with ⟨after, done⟩
  rcases deliver?_eq_some stands done with ⟨still, waiting⟩
  have reached : (net.slot line.address).peer? line.identity = some line.inbox := stands.peer
  refine ⟨after, ?_, still, ?_, ?_⟩
  · simp only [Router.send, Message.popFront?_pushFront, alone, Router.sendVia, reached, done]
  · rw [incoming, waiting, if_pos rfl]
    rfl
  · rw [requests, waiting, if_neg stands.apart]
    rfl

/-- What the dealer sends waits for the router. -/
theorem post_of_stands (stands : line.Stands net) {dealer : Dealer}
    (named : dealer.identity = line.identity) (here : dealer.address = line.address)
    (message : Message) :
    ∃ after, dealer.send net message = (true, after) ∧ line.Stands after ∧
      line.incoming after = line.incoming net ∧
      line.requests after = line.requests net ++ [message.pushFront line.identity] := by
  rcases deliver?_of_mem stands.manned (message.pushFront line.identity) with ⟨after, done⟩
  rcases deliver?_eq_some stands done with ⟨still, waiting⟩
  refine ⟨after, ?_, still, ?_, ?_⟩
  · simp only [Dealer.send, named, here, stands.bound, Option.bind_some, done]
  · rw [incoming, waiting, if_neg (Ne.symm stands.apart)]
    rfl
  · rw [requests, waiting, if_pos rfl, List.filter_append]
    have own : line.isFrom (message.pushFront line.identity) := by simp [isFrom, Message.pushFront]
    rw [List.filter_cons_of_pos own]
    rfl

theorem receive_eq_message (stands : line.Stands net)
    (done : net.receive target = .message message after) :
    line.Stands after ∧ net.waiting target = message :: after.waiting target ∧
      ∀ inbox, target ≠ inbox → after.waiting inbox = net.waiting inbox := by
  refine ⟨?_, Network.waiting_of_receive done⟩
  rcases Network.eq_of_receive done with ⟨box, rest, found, _, rfl⟩
  exact stands_insert stands (of_getElem?_eq_some found)

theorem receive_of_tryReceive (read : (net.tryReceive target).1 = some message) :
    net.receive target = .message message (net.tryReceive target).2 := by
  unfold Network.tryReceive at read ⊢
  cases received : net.receive target with
  | message first after =>
      rw [received] at read
      cases read
      rfl
  | nothing =>
      rw [received] at read
      contradiction
  | closed =>
      rw [received] at read
      contradiction

/-- What the dealer reads is what has waited longest. -/
theorem receive_of_inbox (stands : line.Stands net)
    (done : net.receive line.inbox = .message message after) :
    line.Stands after ∧ line.incoming net = message :: line.incoming after ∧
      line.requests after = line.requests net := by
  rcases receive_eq_message stands done with ⟨still, first, others⟩
  refine ⟨still, first, ?_⟩
  rw [requests, others _ stands.apart]
  rfl

/-- As long as the line stands the dealer can read what waits for it, and can expect
more when there is nothing. -/
theorem receive_of_stands (stands : line.Stands net) :
    (∃ message after, net.receive line.inbox = .message message after) ∨
      line.incoming net = [] ∧ net.receive line.inbox = .nothing := by
  have opened := stands.opened
  rw [Std.ExtTreeMap.mem_iff_isSome_getElem?] at opened
  rcases Option.isSome_iff_exists.mp opened with ⟨box, found⟩
  cases queue : box.queue with
  | cons message rest =>
      left
      simp only [Network.receive, found, queue]
      exact ⟨message, _, rfl⟩
  | nil =>
      right
      constructor
      · rw [incoming, Network.waiting_of_found found, queue]
      · simp only [Network.receive, found, queue, Network.hasWriter_of_peer stands.peer, if_true]

/-- What the router reads is from somebody else, or what the dealer sent first. -/
theorem receive_of_desk (stands : line.Stands net)
    (done : net.receive line.desk = .message message after) :
    line.Stands after ∧ line.incoming after = line.incoming net ∧
      line.requests net = if line.isFrom message then message :: line.requests after
        else line.requests after := by
  rcases receive_eq_message stands done with ⟨still, first, others⟩
  refine ⟨still, others _ (Ne.symm stands.apart), ?_⟩
  rw [requests, first, List.filter_cons]
  rfl

end Line

end ClusterHub

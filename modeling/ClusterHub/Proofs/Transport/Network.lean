import ClusterHub.Transport.Socket

/-!
# Places and inboxes

What the operations on a network do to the places of peers at its addresses, and
to its inboxes.
-/

namespace ClusterHub

instance : LawfulBEq Frame where
  rfl {frame} := (beq_self_eq_true frame.data : (frame.data == frame.data) = true)
  eq_of_beq {frame other} same := by
    have octets : (frame.data == other.data) = true := same
    exact ByteArray.ext (eq_of_beq octets)

namespace Slot

variable (slot : Slot) (identity other : Frame)

theorem peer?_erasePeer :
    (slot.erasePeer identity).peer? other =
      if identity = other then none else slot.peer? other := by
  simp only [peer?, erasePeer]
  induction slot.peers with
  | nil => simp
  | cons peer peers inductionHypothesis =>
      rcases peer with ⟨name, inbox⟩
      by_cases erased : name = identity
      · rw [List.filter_cons_of_neg (by simpa using erased), inductionHypothesis]
        by_cases apart : identity = other
        · simp [apart]
        · simp [apart, List.lookup_cons, erased, beq_false_of_ne (Ne.symm apart)]
      · rw [List.filter_cons_of_pos (by simpa using erased)]
        by_cases found : other = name
        · simp [found, Ne.symm erased]
        · simp only [List.lookup_cons, beq_false_of_ne found]
          exact inductionHypothesis

theorem peer?_insertPeer (inbox : InboxId) :
    (slot.insertPeer identity inbox).peer? other =
      if identity = other then some inbox else slot.peer? other := by
  by_cases same : identity = other
  · simp [insertPeer, peer?, same]
  · have unlike : (other == identity) = false := by simpa using Ne.symm same
    have erased := slot.peer?_erasePeer identity other
    simp only [same, if_false] at erased ⊢
    rw [← erased]
    simp only [insertPeer, peer?, List.lookup_cons, unlike]

end Slot

namespace Network

variable {net after : Network} {address other : String} {identity : Frame} {inbox : InboxId}

/-- The inbox of a peer at an address. -/
def peer? (net : Network) (address : String) (identity : Frame) : Option InboxId :=
  (net.slot address).peer? identity

theorem slot_setSlot (net : Network) (address other : String) (slot : Slot) :
    (net.setSlot address slot).slot other = if address = other then slot else net.slot other := by
  simp [Network.slot, setSlot, Std.ExtTreeMap.getD_insert]

theorem slot_modifySlot (net : Network) (address other : String) (change : Slot → Slot) :
    (net.modifySlot address change).slot other =
      if address = other then change (net.slot address) else net.slot other :=
  slot_setSlot ..

/-- What is known at an address, if that is anything. -/
theorem slot_eq (net : Network) (address : String) :
    net.slot address = {} ∨ (address, net.slot address) ∈ net.slots.toList := by
  rw [Network.slot, Std.ExtTreeMap.getD_eq_getD_getElem?]
  cases found : net.slots[address]? with
  | none => exact Or.inl rfl
  | some slot => exact Or.inr (Std.ExtTreeMap.mem_toList_iff_getElem?_eq_some.mpr found)

/-- Whoever has a place at an address can be written to. -/
theorem hasWriter_of_peer (found : net.peer? address identity = some inbox) :
    net.hasWriter inbox := by
  have placed : (net.slot address).refersTo inbox := by
    rcases List.lookup_eq_some_iff.mp found with ⟨before, after, split, _⟩
    simp [Slot.refersTo, split]
  rw [hasWriter, Bool.or_eq_true]
  rcases net.slot_eq address with unknown | member
  · rw [unknown] at placed
    contradiction
  · exact Or.inr (List.any_eq_true.mpr ⟨_, member, placed⟩)

/-- Whether a network has the peers and the inboxes that it had, whatever waits in
them. -/
structure SamePlaces (before after : Network) : Prop where
  peer? : ∀ address identity, after.peer? address identity = before.peer? address identity
  opened : ∀ inbox, inbox ∈ after.inboxes ↔ inbox ∈ before.inboxes
  nextInbox : after.nextInbox = before.nextInbox

namespace SamePlaces

theorem refl (net : Network) : SamePlaces net net where
  peer? _ _ := rfl
  opened _ := Iff.rfl
  nextInbox := rfl

theorem trans {last : Network} (first : SamePlaces net after) (second : SamePlaces after last) :
    SamePlaces net last where
  peer? address identity := (second.peer? ..).trans (first.peer? address identity)
  opened inbox := (second.opened inbox).trans (first.opened inbox)
  nextInbox := second.nextInbox.trans first.nextInbox

end SamePlaces

/-- To change what is bound at an address changes no peer. -/
theorem samePlaces_setSlot {slot : Slot} (same : slot.peers = (net.slot address).peers) :
    SamePlaces net (net.setSlot address slot) where
  peer? other identity := by
    rw [peer?, slot_setSlot]
    split
    · next found => rw [Slot.peer?, same, found, peer?, Slot.peer?]
    · rfl
  opened _ := Iff.rfl
  nextInbox := rfl

theorem samePlaces_bind (done : net.bind address inbox = .ok after) : SamePlaces net after := by
  unfold bind at done
  dsimp only at done
  split at done
  · contradiction
  · cases done
    exact samePlaces_setSlot rfl

theorem samePlaces_release (net : Network) (addresses : List String) (inbox : InboxId) :
    SamePlaces net (net.release addresses inbox) := by
  induction addresses generalizing net with
  | nil => exact .refl net
  | cons address addresses inductionHypothesis =>
      refine SamePlaces.trans ?_ (inductionHypothesis _)
      apply samePlaces_setSlot
      dsimp only
      split <;> rfl

/-- To replace an inbox that is there opens and closes none. -/
theorem samePlaces_insert {box : Inbox} (opened : inbox ∈ net.inboxes) :
    SamePlaces net { net with inboxes := net.inboxes.insert inbox box } where
  peer? _ _ := rfl
  opened other := by
    rw [Std.ExtTreeMap.mem_insert, Std.LawfulEqCmp.compare_eq_iff_eq]
    constructor
    · rintro (rfl | member)
      · exact opened
      · exact member
    · exact Or.inr
  nextInbox := rfl

theorem samePlaces_deliver? {message : Message} (done : net.deliver? inbox message = some after) :
    SamePlaces net after := by
  unfold deliver? at done
  split at done
  · contradiction
  · next box found =>
      cases done
      exact samePlaces_insert (of_getElem?_eq_some found)

theorem slots_deliver? {message : Message} (done : net.deliver? inbox message = some after) :
    after.slots = net.slots := by
  unfold deliver? at done
  split at done
  · contradiction
  · cases done
    rfl

/-- Only subscribers are reached, and no address is touched by that. -/
theorem deliverAll_spec (net : Network) (message : Message) (inboxes : List InboxId) :
    (Publisher.deliverAll net message inboxes).2.slots = net.slots ∧
      ∀ reached ∈ (Publisher.deliverAll net message inboxes).1, reached ∈ inboxes := by
  induction inboxes generalizing net with
  | nil => exact ⟨rfl, fun _ member => member⟩
  | cons inbox inboxes inductionHypothesis =>
      unfold Publisher.deliverAll
      split
      · next after done =>
          rcases inductionHypothesis after with ⟨same, fewer⟩
          refine ⟨same.trans (slots_deliver? done), ?_⟩
          intro reached member
          rcases List.mem_cons.mp member with rfl | member
          · exact List.mem_cons_self
          · exact List.mem_cons_of_mem _ (fewer reached member)
      · rcases inductionHypothesis net with ⟨same, fewer⟩
        exact ⟨same, fun reached member => List.mem_cons_of_mem _ (fewer reached member)⟩

/-- Reading an inbox takes the oldest message out of it. -/
theorem eq_of_receive {message : Message} (done : net.receive inbox = .message message after) :
    ∃ box rest, net.inboxes[inbox]? = some box ∧ box.queue = message :: rest ∧
      after = { net with inboxes := net.inboxes.insert inbox { box with queue := rest } } := by
  unfold receive at done
  split at done
  · contradiction
  · next box found =>
      split at done
      · next first rest queue =>
          cases done
          exact ⟨box, rest, found, queue, rfl⟩
      · split at done <;> contradiction

theorem samePlaces_receive {message : Message} (done : net.receive inbox = .message message after) :
    SamePlaces net after := by
  rcases eq_of_receive done with ⟨box, rest, found, _, rfl⟩
  exact samePlaces_insert (of_getElem?_eq_some found)

theorem samePlaces_tryReceive (net : Network) (inbox : InboxId) :
    SamePlaces net (net.tryReceive inbox).2 := by
  unfold tryReceive
  split
  · next done => exact samePlaces_receive done
  · exact .refl net

theorem waiting_insert (net : Network) (inbox other : InboxId) (box : Inbox) :
    waiting { net with inboxes := net.inboxes.insert inbox box } other =
      if inbox = other then box.queue else net.waiting other := by
  simp only [waiting, Std.ExtTreeMap.getElem?_insert, Std.LawfulEqCmp.compare_eq_iff_eq]
  split <;> rfl

theorem waiting_of_found {box : Inbox} (found : net.inboxes[inbox]? = some box) :
    net.waiting inbox = box.queue := by
  rw [waiting, found]
  rfl

/-- What is read is what has waited longest. -/
theorem waiting_of_receive {message : Message} (done : net.receive inbox = .message message after) :
    net.waiting inbox = message :: after.waiting inbox ∧
      ∀ other, inbox ≠ other → after.waiting other = net.waiting other := by
  rcases eq_of_receive done with ⟨box, rest, found, queue, rfl⟩
  constructor
  · rw [waiting_of_found found, waiting_insert, if_pos rfl, queue]
  · intro other apart
    rw [waiting_insert, if_neg apart]

theorem receive_of_waiting {message : Message} {rest : List Message}
    (waiting : net.waiting inbox = message :: rest) :
    ∃ after, net.receive inbox = .message message after := by
  cases found : net.inboxes[inbox]? with
  | none =>
      rw [Network.waiting, found] at waiting
      contradiction
  | some box =>
      rw [waiting_of_found found] at waiting
      simp only [receive, found, waiting]
      exact ⟨_, rfl⟩

/-- An inbox that is read in vain may get messages later, unless it was found to be closed:
then nobody is left who could write to it. -/
theorem hasWriter_of_closed (opened : inbox ∈ net.inboxes) (closed : net.receive inbox = .closed) :
    net.hasWriter inbox = false := by
  rw [Std.ExtTreeMap.mem_iff_isSome_getElem?] at opened
  rcases Option.isSome_iff_exists.mp opened with ⟨box, found⟩
  simp only [receive, found] at closed
  split at closed
  · contradiction
  · split at closed
    · contradiction
    · next silent => exact eq_false_of_ne_true silent

/-! ## Opening and closing -/

theorem mem_openInbox {kept : Bool} :
    inbox ∈ (net.openInbox kept).2.inboxes ↔ inbox = net.nextInbox ∨ inbox ∈ net.inboxes := by
  rw [openInbox, Std.ExtTreeMap.mem_insert, Std.LawfulEqCmp.compare_eq_iff_eq,
    eq_comm (a := net.nextInbox)]

theorem mem_closeInbox {gone : InboxId} :
    inbox ∈ (net.closeInbox gone).inboxes ↔ gone ≠ inbox ∧ inbox ∈ net.inboxes := by
  rw [closeInbox, Std.ExtTreeMap.mem_erase, Ne, Std.LawfulEqCmp.compare_eq_iff_eq]

theorem peer?_connect {name : String} :
    (Dealer.connect net address name).2.peer? other identity =
      if address = other ∧ .ofText name = identity then some net.nextInbox
      else net.peer? other identity := by
  unfold Dealer.connect peer?
  dsimp only
  rw [slot_modifySlot]
  by_cases here : address = other
  · subst here
    simp only [if_true, Slot.peer?_insertPeer, true_and]
    rfl
  · simp only [here, if_false, false_and]
    rfl

theorem peer?_close (dealer : Dealer) (net : Network) (other : String) (identity : Frame) :
    (dealer.close net).peer? other identity =
      if dealer.address = other ∧ dealer.identity = identity then none
      else net.peer? other identity := by
  change ((net.modifySlot dealer.address fun slot =>
    slot.erasePeer dealer.identity).slot other).peer? identity = _
  rw [slot_modifySlot]
  by_cases here : dealer.address = other
  · subst here
    simp only [if_true, Slot.peer?_erasePeer, true_and]
    rfl
  · simp only [here, if_false, false_and]
    rfl

/-- Whether every peer has an inbox that is open. -/
def ReachesPeers (net : Network) : Prop :=
  ∀ address identity inbox, net.peer? address identity = some inbox → inbox ∈ net.inboxes

/-- While no peer is gone, none is forgotten. -/
theorem samePlaces_sendVia (reaches : net.ReachesPeers) (identity : Frame) (message : Message)
    (addresses : List String) :
    SamePlaces net (Router.sendVia net identity message addresses).2 := by
  induction addresses with
  | nil => exact .refl net
  | cons address addresses inductionHypothesis =>
      unfold Router.sendVia
      split
      · exact inductionHypothesis
      · next inbox found =>
          cases done : net.deliver? inbox message with
          | some after => exact samePlaces_deliver? done
          | none =>
              have opened := reaches address identity inbox found
              rw [Std.ExtTreeMap.mem_iff_isSome_getElem?] at opened
              unfold deliver? at done
              split at done
              · next gone =>
                  rw [gone] at opened
                  contradiction
              · contradiction

theorem samePlaces_send (reaches : net.ReachesPeers) (router : Router) (message : Message) :
    SamePlaces net (router.send net message).2 := by
  unfold Router.send
  split
  · exact .refl net
  · exact samePlaces_sendVia reaches ..

theorem samePlaces_post (dealer : Dealer) (net : Network) (message : Message) :
    SamePlaces net (dealer.send net message).2 := by
  unfold Dealer.send
  split
  · next done =>
      rcases Option.bind_eq_some_iff.mp done with ⟨inbox, _, done⟩
      exact samePlaces_deliver? done
  · exact .refl net

end Network

end ClusterHub

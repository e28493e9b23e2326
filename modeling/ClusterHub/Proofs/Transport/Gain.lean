import ClusterHub.Proofs.Transport.Network

/-!
# Inboxes that gain messages

Those who do not read an inbox can only put messages behind the ones that wait there; and
once nobody is left who can write to it, nobody does.  All that sockets send is of this
kind, for every inbox.
-/

namespace ClusterHub.Network

variable {net before middle after : Network} {inbox target : InboxId} {message : Message}
  {address : String}

/-- What others do to an inbox that is read. -/
structure Gains (inbox : InboxId) (before after : Network) : Prop where
  opened : inbox ∈ before.inboxes → inbox ∈ after.inboxes
  waiting : before.waiting inbox <+: after.waiting inbox
  /-- Nobody writes to an inbox that has no writers, or comes to be one of them. -/
  abandoned : before.hasWriter inbox = false →
    after.hasWriter inbox = false ∧ after.waiting inbox = before.waiting inbox

/-- Whether nothing waits in an inbox, and nobody is left who could write to it. -/
structure IsOver (inbox : InboxId) (net : Network) : Prop where
  waiting : net.waiting inbox = []
  silent : net.hasWriter inbox = false

namespace Gains

theorem refl (inbox : InboxId) (net : Network) : Gains inbox net net where
  opened := id
  waiting := List.prefix_rfl
  abandoned silent := ⟨silent, rfl⟩

theorem trans (first : Gains inbox before middle) (second : Gains inbox middle after) :
    Gains inbox before after where
  opened opened := second.opened (first.opened opened)
  waiting := first.waiting.trans second.waiting
  abandoned silent := by
    rcases first.abandoned silent with ⟨still, same⟩
    rcases second.abandoned still with ⟨last, equal⟩
    exact ⟨last, equal.trans same⟩

theorem isOver (gains : Gains inbox before after) (spent : IsOver inbox before) :
    IsOver inbox after where
  waiting := (gains.abandoned spent.silent).2.trans spent.waiting
  silent := (gains.abandoned spent.silent).1

end Gains

theorem refersTo_iff {slot : Slot} :
    slot.refersTo inbox = true ↔ slot.bound = some inbox ∨ (∃ peer ∈ slot.peers, peer.2 = inbox) ∨
      inbox ∈ slot.subscribers := by
  simp [Slot.refersTo, or_assoc]

theorem hasWriter_eq_false_iff :
    net.hasWriter inbox = false ↔ ((net.inboxes[inbox]?).map Inbox.kept).getD false = false ∧
      ∀ address, (net.slot address).refersTo inbox = false := by
  rw [hasWriter, Bool.or_eq_false_iff, List.any_eq_false]
  apply and_congr_right
  intro _
  constructor
  · intro silent address
    rcases net.slot_eq address with unknown | member
    · rw [unknown]
      rfl
    · exact eq_false_of_ne_true (silent _ member)
  · rintro silent ⟨address, slot⟩ member
    have found := Std.ExtTreeMap.mem_toList_iff_getElem?_eq_some.mp member
    have known : net.slot address = slot := by
      rw [Network.slot, Std.ExtTreeMap.getD_eq_getD_getElem?, found]
      rfl
    rw [← known]
    exact ne_true_of_eq_false (silent address)

/-- What waits in an inbox has nothing to do with who can write to it. -/
theorem hasWriter_insert {box : Inbox} (found : net.inboxes[target]? = some box)
    (queue : List Message) :
    hasWriter { net with inboxes := net.inboxes.insert target { box with queue } } inbox =
      net.hasWriter inbox := by
  have kept : ((net.inboxes.insert target { box with queue })[inbox]?).map Inbox.kept =
      (net.inboxes[inbox]?).map Inbox.kept := by
    rw [Std.ExtTreeMap.getElem?_insert]
    split
    · next same =>
        rw [Std.LawfulEqCmp.compare_eq_iff_eq] at same
        rw [← same, found]
        rfl
    · rfl
  rw [hasWriter, kept]
  rfl

/-! ## What is sent -/

/-- A message that is put into an inbox that somebody can write to. -/
theorem gains_deliver? (done : net.deliver? target message = some after)
    (written : target = inbox → net.hasWriter inbox = true) : Gains inbox net after := by
  unfold deliver? at done
  split at done
  · contradiction
  · next box found =>
      cases done
      constructor
      case opened => exact ((samePlaces_insert (of_getElem?_eq_some found)).opened inbox).mpr
      case waiting =>
        rw [waiting_insert]
        split
        · next same =>
            rw [← same, waiting_of_found found]
            exact List.prefix_append _ _
        · exact List.prefix_rfl
      case abandoned =>
        intro silent
        rw [hasWriter_insert found, waiting_insert]
        split
        · next same =>
            rw [written same] at silent
            contradiction
        · exact ⟨silent, rfl⟩

/-- What is known at an address may change if no inbox comes to be known there. -/
theorem gains_setSlot {slot : Slot}
    (fewer : slot.refersTo inbox = true → (net.slot address).refersTo inbox = true) :
    Gains inbox net (net.setSlot address slot) where
  opened := id
  waiting := List.prefix_rfl
  abandoned silent := by
    refine ⟨?_, rfl⟩
    rcases hasWriter_eq_false_iff.mp silent with ⟨kept, unknown⟩
    refine hasWriter_eq_false_iff.mpr ⟨kept, ?_⟩
    intro other
    rw [slot_setSlot]
    split
    · apply eq_false_of_ne_true
      intro refers
      exact absurd (fewer refers) (ne_true_of_eq_false (unknown address))
    · exact unknown other

theorem hasWriter_of_refersTo (refers : (net.slot address).refersTo inbox = true) :
    net.hasWriter inbox = true := by
  apply eq_true_of_ne_false
  intro silent
  exact absurd refers (ne_true_of_eq_false ((hasWriter_eq_false_iff.mp silent).2 address))

/-- To forget a peer. -/
theorem gains_erasePeer (net : Network) (inbox : InboxId) (address : String) (identity : Frame) :
    Gains inbox net (net.modifySlot address fun slot => slot.erasePeer identity) := by
  apply gains_setSlot
  rw [refersTo_iff, refersTo_iff]
  apply Or.imp_right
  apply Or.imp_left
  rintro ⟨peer, member, same⟩
  exact ⟨peer, (List.mem_filter.mp member).1, same⟩

theorem gains_sendVia (net : Network) (inbox : InboxId) (identity : Frame) (message : Message)
    (addresses : List String) : Gains inbox net (Router.sendVia net identity message addresses).2 := by
  induction addresses generalizing net with
  | nil => exact .refl inbox net
  | cons address addresses inductionHypothesis =>
      unfold Router.sendVia
      split
      · exact inductionHypothesis net
      · next target found =>
          split
          · next after done =>
              apply gains_deliver? done
              rintro rfl
              exact hasWriter_of_peer found
          · exact (gains_erasePeer net inbox address identity).trans (inductionHypothesis _)

/-- What a router sends. -/
theorem gains_send (net : Network) (inbox : InboxId) (router : Router) (message : Message) :
    Gains inbox net (router.send net message).2 := by
  unfold Router.send
  split
  · exact .refl inbox net
  · exact gains_sendVia net inbox _ _ _

/-- A message for the socket that is bound at an address. -/
theorem gains_deliverBound (done : ((net.slot address).bound.bind fun target =>
    net.deliver? target message) = some after) : Gains inbox net after := by
  rcases Option.bind_eq_some_iff.mp done with ⟨target, bound, done⟩
  apply gains_deliver? done
  rintro rfl
  exact hasWriter_of_refersTo (refersTo_iff.mpr (Or.inl bound))

/-- What a dealer sends. -/
theorem gains_post (net : Network) (inbox : InboxId) (dealer : Dealer) (message : Message) :
    Gains inbox net (dealer.send net message).2 := by
  unfold Dealer.send
  split
  · next after done => exact gains_deliverBound done
  · exact .refl inbox net

theorem gains_deliverAll (net : Network) (inbox : InboxId) (message : Message)
    {inboxes : List InboxId}
    (known : ∀ target ∈ inboxes, (net.slot address).refersTo target = true) :
    Gains inbox net (Publisher.deliverAll net message inboxes).2 := by
  induction inboxes generalizing net with
  | nil => exact .refl inbox net
  | cons target inboxes inductionHypothesis =>
      rcases List.forall_mem_cons.mp known with ⟨here, rest⟩
      unfold Publisher.deliverAll
      split
      · next after done =>
          have first : Gains inbox net after := by
            apply gains_deliver? done
            rintro rfl
            exact hasWriter_of_refersTo here
          apply first.trans
          apply inductionHypothesis after
          rw [Network.slot, slots_deliver? done]
          exact rest
      · exact inductionHypothesis net rest

/-- What is published. -/
theorem gains_publish (net : Network) (inbox : InboxId) (publisher : Publisher)
    (message : Message) : Gains inbox net (publisher.send net message).2 := by
  cases publisher with
  | bound address =>
      have known : ∀ target ∈ (net.slot address).subscribers,
          (net.slot address).refersTo target = true :=
        fun target member => refersTo_iff.mpr (Or.inr (Or.inr member))
      have reached := gains_deliverAll net inbox message known
      rcases deliverAll_spec net message (net.slot address).subscribers with ⟨slots, fewer⟩
      have same : (Publisher.deliverAll net message (net.slot address).subscribers).2.slot address =
          net.slot address := congrArg (fun slots => slots.getD address {}) slots
      apply reached.trans
      apply gains_setSlot
      simp only [same, refersTo_iff]
      exact Or.imp_right (Or.imp_right (fewer inbox))
  | connected address =>
      unfold Publisher.send
      dsimp only
      split
      · next after done => exact gains_deliverBound done
      · exact .refl inbox net

/-- What is read elsewhere. -/
theorem gains_receive (done : net.receive target = .message message after)
    (apart : target ≠ inbox) : Gains inbox net after := by
  rcases eq_of_receive done with ⟨box, rest, found, _, rfl⟩
  constructor
  case opened => exact ((samePlaces_insert (of_getElem?_eq_some found)).opened inbox).mpr
  case waiting =>
    simp only [waiting_insert, if_neg apart, List.prefix_rfl]
  case abandoned =>
    intro silent
    rw [hasWriter_insert found, waiting_insert, if_neg apart]
    exact ⟨silent, rfl⟩

end ClusterHub.Network

import ClusterHub.Proofs.Transport.Network

/-!
# What is bound

At most one inbox is bound at an address.  To bind one there is refused exactly if
there is one already, and to release an inbox frees the addresses that are given and
at which it is bound itself.  Nothing else that is done on a network changes what is
bound.
-/

namespace ClusterHub.Network

variable {net before middle after : Network} {address other : String} {inbox : InboxId}
  {message : Message}

/-- The inbox that is bound at an address. -/
def bound? (net : Network) (address : String) : Option InboxId := (net.slot address).bound

theorem isBound_iff : net.isBound address = true ↔ ∃ inbox, net.bound? address = some inbox :=
  Option.isSome_iff_exists

theorem bound?_setSlot (net : Network) (address other : String) (slot : Slot) :
    (net.setSlot address slot).bound? other =
      if address = other then slot.bound else net.bound? other := by
  rw [bound?, slot_setSlot]
  split <;> rfl

theorem bind_of_isBound (taken : net.isBound address = true) (inbox : InboxId) :
    net.bind address inbox = .error (.addressInUse address) :=
  if_pos taken

/-- What it means that an inbox is bound at one more address. -/
structure Binds (before : Network) (address : String) (inbox : InboxId) (after : Network) :
    Prop where
  bound? : ∀ other, after.bound? other =
    if address = other then some inbox else before.bound? other
  nextInbox : after.nextInbox = before.nextInbox

theorem exists_bind_of_free (free : ¬ net.isBound address = true) (inbox : InboxId) :
    ∃ after, net.bind address inbox = .ok after ∧ net.Binds address inbox after := by
  refine ⟨_, if_neg free, ?_⟩
  exact ⟨fun other => net.bound?_setSlot address other _, rfl⟩

theorem bound?_release (net : Network) (addresses : List String) (inbox : InboxId)
    (other : String) :
    (net.release addresses inbox).bound? other =
      if other ∈ addresses ∧ net.bound? other = some inbox then none else net.bound? other := by
  induction addresses generalizing net with
  | nil => simp [release]
  | cons address addresses inductionHypothesis =>
      have first : ∀ place, (net.modifySlot address fun slot =>
          if slot.bound = some inbox then { slot with bound := none } else slot).bound? place =
            if address = place ∧ net.bound? place = some inbox then none
            else net.bound? place := by
        intro place
        rw [modifySlot, bound?_setSlot]
        by_cases here : address = place
        · subst here
          by_cases own : net.bound? address = some inbox
          · have bound : (net.slot address).bound = some inbox := own
            simp [own, bound]
          · have bound : ¬ (net.slot address).bound = some inbox := own
            simp only [bound, own, and_false, if_true, if_false]
            rfl
        · simp [here]
      rw [release, List.foldl_cons, ← release, inductionHypothesis, first]
      by_cases own : net.bound? other = some inbox <;>
        by_cases here : address = other <;> simp [own, here, eq_comm (a := other)]

theorem nextInbox_release (net : Network) (addresses : List String) (inbox : InboxId) :
    (net.release addresses inbox).nextInbox = net.nextInbox :=
  (samePlaces_release net addresses inbox).nextInbox

/-- Whether the same inboxes are bound at all addresses.  New ones may have been
opened. -/
structure KeepsBounds (before after : Network) : Prop where
  bound? : ∀ address, after.bound? address = before.bound? address
  nextInbox : before.nextInbox ≤ after.nextInbox

theorem KeepsBounds.refl (net : Network) : KeepsBounds net net := ⟨fun _ => rfl, Nat.le_refl _⟩

theorem KeepsBounds.trans (first : KeepsBounds before middle) (second : KeepsBounds middle after) :
    KeepsBounds before after where
  bound? address := (second.bound? address).trans (first.bound? address)
  nextInbox := Nat.le_trans first.nextInbox second.nextInbox

theorem keepsBounds_setSlot {slot : Slot} (same : slot.bound = net.bound? address) :
    KeepsBounds net (net.setSlot address slot) where
  bound? other := by
    rw [bound?_setSlot]
    split
    · next here =>
        subst here
        exact same
    · rfl
  nextInbox := Nat.le_refl _

theorem keepsBounds_openInbox (net : Network) (kept : Bool) :
    KeepsBounds net (net.openInbox kept).2 :=
  ⟨fun _ => rfl, Nat.le_succ _⟩

theorem keepsBounds_closeInbox (net : Network) (inbox : InboxId) :
    KeepsBounds net (net.closeInbox inbox) :=
  ⟨fun _ => rfl, Nat.le_refl _⟩

theorem keepsBounds_deliver? (done : net.deliver? inbox message = some after) :
    KeepsBounds net after := by
  unfold deliver? at done
  split at done
  · contradiction
  · cases done
    exact ⟨fun _ => rfl, Nat.le_refl _⟩

theorem keepsBounds_receive (done : net.receive inbox = .message message after) :
    KeepsBounds net after := by
  unfold receive at done
  split at done
  · contradiction
  · split at done
    · cases done
      exact ⟨fun _ => rfl, Nat.le_refl _⟩
    · split at done <;> contradiction

theorem keepsBounds_tryReceive (net : Network) (inbox : InboxId) :
    KeepsBounds net (net.tryReceive inbox).2 := by
  unfold tryReceive
  split
  · next done => exact keepsBounds_receive done
  · exact .refl net

theorem keepsBounds_connect (net : Network) (address identity : String) :
    KeepsBounds net (Dealer.connect net address identity).2 := by
  refine (keepsBounds_openInbox net false).trans ?_
  exact keepsBounds_setSlot rfl

theorem keepsBounds_disconnect (dealer : Dealer) (net : Network) :
    KeepsBounds net (dealer.close net) := by
  refine KeepsBounds.trans ?_ (keepsBounds_closeInbox _ dealer.inbox)
  exact keepsBounds_setSlot rfl

theorem keepsBounds_sendVia (net : Network) (identity : Frame) (message : Message)
    (addresses : List String) :
    KeepsBounds net (Router.sendVia net identity message addresses).2 := by
  induction addresses generalizing net with
  | nil => exact .refl net
  | cons address addresses inductionHypothesis =>
      unfold Router.sendVia
      split
      · exact inductionHypothesis net
      · split
        · next done => exact keepsBounds_deliver? done
        · refine KeepsBounds.trans ?_ (inductionHypothesis _)
          exact keepsBounds_setSlot rfl

theorem keepsBounds_route (router : Router) (net : Network) (message : Message) :
    KeepsBounds net (router.send net message).2 := by
  unfold Router.send
  split
  · exact .refl net
  · exact keepsBounds_sendVia ..

theorem keepsBounds_post (dealer : Dealer) (net : Network) (message : Message) :
    KeepsBounds net (dealer.send net message).2 := by
  unfold Dealer.send
  split
  · next done =>
      rcases Option.bind_eq_some_iff.mp done with ⟨inbox, _, done⟩
      exact keepsBounds_deliver? done
  · exact .refl net

theorem keepsBounds_deliverAll (net : Network) (message : Message) (inboxes : List InboxId) :
    KeepsBounds net (Publisher.deliverAll net message inboxes).2 := by
  induction inboxes generalizing net with
  | nil => exact .refl net
  | cons inbox inboxes inductionHypothesis =>
      unfold Publisher.deliverAll
      split
      · next done => exact (keepsBounds_deliver? done).trans (inductionHypothesis _)
      · exact inductionHypothesis net

theorem keepsBounds_publish (publisher : Publisher) (net : Network) (message : Message) :
    KeepsBounds net (publisher.send net message).2 := by
  cases publisher with
  | bound address =>
      refine (keepsBounds_deliverAll net message (net.slot address).subscribers).trans ?_
      exact keepsBounds_setSlot rfl
  | connected address =>
      unfold Publisher.send
      dsimp only
      split
      · next done =>
          rcases Option.bind_eq_some_iff.mp done with ⟨inbox, _, done⟩
          exact keepsBounds_deliver? done
      · exact .refl net

end ClusterHub.Network

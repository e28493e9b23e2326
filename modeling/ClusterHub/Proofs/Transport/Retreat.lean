import ClusterHub.Proofs.Transport.Holding

/-!
# Places taken and given up

A new socket that is bound at a free address and closed again leaves no trace on a
network, even if others were opened and closed in between.  Sockets that are closed one
after another free what they hold, and nothing that others do with their own sockets
frees it before.
-/

namespace ClusterHub

namespace Network

variable {net before middle after : Network} {address other : String}

/-- Whether a network is as before: the same is bound, connected and subscribed at each
address, and there are the inboxes that there were, with the same in them.  Inboxes may
have been opened and closed. -/
structure Restores (before after : Network) : Prop where
  slot : ∀ address, after.slot address = before.slot address
  inbox : ∀ inbox < before.nextInbox, after.inboxes[inbox]? = before.inboxes[inbox]?
  opened : ∀ inbox ∈ after.inboxes, inbox ∈ before.inboxes
  nextInbox : before.nextInbox ≤ after.nextInbox

theorem Restores.refl (net : Network) : Restores net net where
  slot _ := rfl
  inbox _ _ := rfl
  opened _ member := member
  nextInbox := Nat.le_refl _

/-- What it means that a new socket is bound at an address, and nothing else changes. -/
structure Takes (before : Network) (address : String) (after : Network) : Prop where
  slot : ∀ other, after.slot other =
    if address = other then { before.slot address with bound := some before.nextInbox }
    else before.slot other
  inbox : ∀ inbox < before.nextInbox, after.inboxes[inbox]? = before.inboxes[inbox]?
  opened : ∀ inbox ∈ after.inboxes, inbox = before.nextInbox ∨ inbox ∈ before.inboxes
  nextInbox : after.nextInbox = before.nextInbox + 1

theorem exists_takes_of_free (free : ¬ net.isBound address = true) :
    ∃ after, (net.openInbox true).2.bind address net.nextInbox = .ok after ∧
      net.Takes address after := by
  refine ⟨_, if_neg free, ?_⟩
  constructor
  case slot => exact fun other => slot_setSlot (net.openInbox true).2 address other _
  case inbox =>
    intro inbox old
    change (net.inboxes.insert net.nextInbox _)[inbox]? = _
    rw [Std.ExtTreeMap.getElem?_insert, if_neg]
    rw [Std.LawfulEqCmp.compare_eq_iff_eq]
    exact (Nat.ne_of_lt old).symm
  case opened => exact fun inbox member => mem_openInbox.mp member
  case nextInbox => rfl

theorem Takes.bound? (takes : before.Takes address after) (other : String) :
    after.bound? other =
      if address = other then some before.nextInbox else before.bound? other := by
  rw [Network.bound?, takes.slot]
  split <;> rfl

theorem Takes.isBound_iff (takes : before.Takes address after) (apart : address ≠ other) :
    after.isBound other = true ↔ before.isBound other = true := by
  rw [Network.isBound_iff, Network.isBound_iff, takes.bound?, if_neg apart]

/-- When the socket is closed the network is as it was, if the rest has been put back. -/
theorem Takes.restores (takes : before.Takes address middle)
    (free : ¬ before.isBound address = true) (restores : middle.Restores after) :
    before.Restores
      ((after.release [address] before.nextInbox).closeInbox before.nextInbox) := by
  constructor
  case slot =>
    intro other
    change (after.modifySlot address _).slot other = _
    rw [slot_modifySlot, restores.slot, restores.slot, takes.slot, takes.slot, if_pos rfl]
    split
    · next here =>
        subst here
        rw [if_pos rfl]
        -- Nothing was bound here, and nothing is again.
        have unbound : (before.slot address).bound = none := by simpa [isBound] using free
        rw [← unbound]
    · rfl
  case inbox =>
    intro inbox old
    have apart : before.nextInbox ≠ inbox := (Nat.ne_of_lt old).symm
    have older : inbox < middle.nextInbox := takes.nextInbox ▸ Nat.lt_succ_of_lt old
    rw [← takes.inbox inbox old, ← restores.inbox inbox older]
    change (after.inboxes.erase before.nextInbox)[inbox]? = _
    rw [Std.ExtTreeMap.getElem?_erase, if_neg]
    rw [Std.LawfulEqCmp.compare_eq_iff_eq]
    exact apart
  case opened =>
    intro inbox member
    rcases mem_closeInbox.mp member with ⟨apart, member⟩
    rcases takes.opened inbox (restores.opened inbox member) with new | old
    · exact absurd new.symm apart
    · exact old
  case nextInbox =>
    exact Nat.le_trans (takes.nextInbox ▸ Nat.le_succ _) restores.nextInbox

/-- To bind a socket at a free address leaves the others where they are. -/
theorem Binds.bound?_of_free {inbox held : InboxId} (binds : before.Binds address inbox after)
    (free : ¬ before.isBound address = true) (bound : before.bound? other = some held) :
    after.bound? other = some held := by
  rw [binds.bound?, if_neg, bound]
  rintro rfl
  exact free (isBound_iff.mpr ⟨held, bound⟩)

end Network

section Sockets

variable {net : Network} {address : String}

theorem Router.bind_of_isBound (taken : net.isBound address = true) :
    Router.bind net address = .error (.addressInUse address) := by
  have taken : (net.openInbox true).2.isBound address = true := taken
  have refused := Network.bind_of_isBound taken net.nextInbox
  simp only [Router.bind, Network.openInbox] at refused ⊢
  rw [refused]
  rfl

theorem Router.exists_bind_of_free (free : ¬ net.isBound address = true) :
    ∃ after, Router.bind net address = .ok (⟨net.nextInbox, [address]⟩, after) ∧
      net.Takes address after := by
  rcases Network.exists_takes_of_free free with ⟨after, bound, takes⟩
  refine ⟨after, ?_, takes⟩
  simp only [Router.bind, Network.openInbox] at bound ⊢
  rw [bound]
  rfl

/-- Subscribers are bound as routers are. -/
theorem Subscriber.bind_eq (net : Network) (address : String) :
    Subscriber.bind net address =
      (Router.bind net address).map fun (router, net) =>
        (⟨router.inbox, router.addresses⟩, net) := by
  simp only [Subscriber.bind, Router.bind]
  cases Network.bind _ address _ <;> rfl

theorem Subscriber.bind_of_isBound (taken : net.isBound address = true) :
    Subscriber.bind net address = .error (.addressInUse address) := by
  rw [Subscriber.bind_eq, Router.bind_of_isBound taken]
  rfl

theorem Subscriber.exists_bind_of_free (free : ¬ net.isBound address = true) :
    ∃ after, Subscriber.bind net address = .ok (⟨net.nextInbox, [address]⟩, after) ∧
      net.Takes address after := by
  rcases Router.exists_bind_of_free free with ⟨after, bound, takes⟩
  refine ⟨after, ?_, takes⟩
  rw [Subscriber.bind_eq, bound]
  rfl

end Sockets

/-! ## Sockets that are closed one after another -/

namespace Holder

variable {net : Network} {address : String}

theorem bound?_close (holder : Holder) (net : Network) (address : String) :
    (holder.close net).bound? address =
      if address ∈ holder.addresses ∧ net.bound? address = some holder.inbox then none
      else net.bound? address := by
  rw [close_eq, (Network.keepsBounds_closeInbox _ _).bound?, Network.bound?_release]

/-- Whether a socket holds what it claims to hold, as far as that is bound. -/
def Claims (holder : Holder) (net : Network) : Prop :=
  ∀ address ∈ holder.addresses, ∀ inbox, net.bound? address = some inbox → inbox = holder.inbox

/-- Close sockets one after another. -/
def closeAll (holders : List Holder) (net : Network) : Network :=
  holders.foldl (fun net holder => holder.close net) net

theorem bound?_closeAll {holders : List Holder} (claims : ∀ holder ∈ holders, holder.Claims net)
    (address : String) :
    (closeAll holders net).bound? address =
      if ∃ holder ∈ holders, address ∈ holder.addresses then none else net.bound? address := by
  induction holders generalizing net with
  | nil => simp [closeAll]
  | cons holder holders inductionHypothesis =>
      rcases List.forall_mem_cons.mp claims with ⟨own, others⟩
      have closed : (holder.close net).bound? address =
          if address ∈ holder.addresses then none else net.bound? address := by
        rw [bound?_close]
        by_cases held : address ∈ holder.addresses
        · cases bound : net.bound? address with
          | none => simp
          | some inbox => simp [held, own address held inbox bound]
        · simp [held]
      have still : ∀ other ∈ holders, other.Claims (holder.close net) := by
        intro other member place held inbox bound
        rw [bound?_close] at bound
        split at bound
        · contradiction
        · exact others other member place held inbox bound
      rw [closeAll, List.foldl_cons, ← closeAll, inductionHypothesis still, closed]
      simp only [List.exists_mem_cons_iff]
      by_cases here : address ∈ holder.addresses <;> simp [here]

end Holder

namespace Holdings

variable {h : Holdings} {inbox : InboxId} {address : String}

/-- Whether an inbox is there, and belongs to none of the sockets. -/
structure Lacks (h : Holdings) (inbox : InboxId) : Prop where
  issued : inbox < h.network.nextInbox
  apart : ∀ holder ∈ h.holders, holder.inbox ≠ inbox

/-- Whether the sockets are without an inbox that they were without before, and what it
is bound at has stayed so. -/
structure Spares (inbox : InboxId) (before after : Holdings) : Prop where
  lacks : after.Lacks inbox
  bound? : ∀ address, before.network.bound? address = some inbox →
    after.network.bound? address = some inbox

theorem Lacks.keeps (lacks : h.Lacks inbox) {network : Network}
    (keeps : h.network.KeepsBounds network) : Spares inbox h { h with network } where
  lacks := ⟨Nat.lt_of_lt_of_le lacks.issued keeps.nextInbox, lacks.apart⟩
  bound? address bound := (keeps.bound? address).trans bound

theorem Lacks.refl (lacks : h.Lacks inbox) : Spares inbox h h := lacks.keeps (.refl _)

/-- Nothing that is done with sockets frees an address at which another one is bound. -/
theorem Lacks.perform (lacks : h.Lacks inbox) (act : Act) :
    Spares inbox h (h.perform act).2 := by
  cases act with
  | bind role address =>
      by_cases taken : h.network.isBound address = true
      · rw [perform_bind_of_held taken]
        exact lacks.refl
      · rcases perform_bind_of_free taken role with ⟨network, binds, done⟩
        rw [done]
        constructor
        case lacks =>
          constructor
          case issued => exact binds.nextInbox ▸ Nat.lt_succ_of_lt lacks.issued
          case apart =>
            refine List.forall_mem_append.mpr ⟨lacks.apart, ?_⟩
            rw [List.forall_mem_singleton, Holder.inbox_ofRole]
            exact (Nat.ne_of_lt lacks.issued).symm
        case bound? => exact fun other => binds.bound?_of_free taken
  | bindAlso position address =>
      cases stands : h.holders[position]? with
      | none =>
          simp only [Holdings.perform, stands]
          exact lacks.refl
      | some holder =>
          by_cases taken : h.network.isBound address = true
          · rw [perform_bindAlso_of_held stands taken]
            exact lacks.refl
          · rcases perform_bindAlso_of_free stands taken with ⟨network, binds, done⟩
            rw [done]
            constructor
            case lacks =>
              constructor
              case issued => exact binds.nextInbox ▸ lacks.issued
              case apart =>
                intro other member
                rcases List.mem_or_eq_of_mem_set member with member | rfl
                · exact lacks.apart other member
                · rw [Holder.inbox_ofRole]
                  exact lacks.apart holder (List.mem_of_getElem? stands)
            case bound? => exact fun other => binds.bound?_of_free taken
  | close position =>
      cases stands : h.holders[position]? with
      | none =>
          simp only [Holdings.perform, stands]
          exact lacks.refl
      | some holder =>
          rw [perform_close stands]
          constructor
          case lacks =>
            constructor
            case issued =>
              rw [Holder.close_eq]
              exact Nat.lt_of_lt_of_eq lacks.issued (Network.nextInbox_release ..).symm
            case apart =>
              exact fun other member => lacks.apart other (List.mem_of_mem_eraseIdx member)
          case bound? =>
            intro address bound
            rw [Holder.bound?_close, if_neg, bound]
            rintro ⟨_, same⟩
            rw [bound] at same
            exact lacks.apart holder (List.mem_of_getElem? stands) (Option.some.inj same).symm
  | subscribe address =>
      have keeps : h.network.KeepsBounds (Subscriber.connect h.network address).2 :=
        (Network.keepsBounds_openInbox h.network true).trans (Network.keepsBounds_setSlot rfl)
      have spares := lacks.keeps keeps
      constructor
      case lacks =>
        refine ⟨spares.lacks.issued, List.forall_mem_append.mpr ⟨lacks.apart, ?_⟩⟩
        rw [List.forall_mem_singleton]
        exact (Nat.ne_of_lt lacks.issued).symm
      case bound? => exact spares.bound?
  | use use => exact lacks.keeps (keepsBounds_result use h.network)

end Holdings

end ClusterHub

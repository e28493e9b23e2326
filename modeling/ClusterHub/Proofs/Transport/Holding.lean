import Mathlib.Data.List.Perm.Basic
import ClusterHub.Proofs.Transport.Binding

/-!
# Who holds an address

Routers and subscribers are bound at addresses, at first or later on, and give up
those they hold when they are closed.  What is known at an address, and the lists
that the sockets keep, tell the same: an address is bound exactly if a socket holds
it, that is one socket only, and nobody else can be bound there until it is closed.
-/

namespace ClusterHub

/-- A socket that can be bound. -/
inductive Holder
  | router (router : Router)
  | subscriber (subscriber : Subscriber)
deriving DecidableEq

namespace Holder

/-- The sorts of sockets that can be bound. -/
inductive Role
  | router
  | subscriber
deriving DecidableEq

/-- A socket of a sort. -/
def ofRole : Role → InboxId → List String → Holder
  | .router, inbox, addresses => .router ⟨inbox, addresses⟩
  | .subscriber, inbox, addresses => .subscriber ⟨inbox, addresses⟩

def role : Holder → Role
  | .router _ => .router
  | .subscriber _ => .subscriber

def inbox : Holder → InboxId
  | .router socket => socket.inbox
  | .subscriber socket => socket.inbox

/-- The addresses that a socket holds, oldest first. -/
def addresses : Holder → List String
  | .router socket => socket.addresses
  | .subscriber socket => socket.addresses

/-- A new socket that is bound at an address. -/
def bind (net : Network) (address : String) : Role → Except Fault (Holder × Network)
  | .router => (Router.bind net address).map fun (socket, net) => (.router socket, net)
  | .subscriber =>
      (Subscriber.bind net address).map fun (socket, net) => (.subscriber socket, net)

/-- A socket that is bound at another address as well. -/
def bindAlso (net : Network) (address : String) : Holder → Except Fault (Holder × Network)
  | .router socket =>
      (socket.bindAlso net address).map fun (socket, net) => (.router socket, net)
  | .subscriber socket =>
      (socket.bindAlso net address).map fun (socket, net) => (.subscriber socket, net)

def close : Holder → Network → Network
  | .router socket => socket.close
  | .subscriber socket => socket.close

@[simp]
theorem role_ofRole (role : Role) (inbox : InboxId) (addresses : List String) :
    (ofRole role inbox addresses).role = role := by
  cases role <;> rfl

@[simp]
theorem inbox_ofRole (role : Role) (inbox : InboxId) (addresses : List String) :
    (ofRole role inbox addresses).inbox = inbox := by
  cases role <;> rfl

@[simp]
theorem addresses_ofRole (role : Role) (inbox : InboxId) (addresses : List String) :
    (ofRole role inbox addresses).addresses = addresses := by
  cases role <;> rfl

/-- Both sorts are bound in the same way. -/
theorem bind_eq (net : Network) (address : String) (role : Role) :
    bind net address role =
      ((net.openInbox true).2.bind address net.nextInbox).map fun bound =>
        (ofRole role net.nextInbox [address], bound) := by
  cases role <;>
    simp only [bind, Router.bind, Subscriber.bind, Network.openInbox] <;>
    cases Network.bind _ address net.nextInbox <;> rfl

theorem bindAlso_eq (net : Network) (address : String) (holder : Holder) :
    bindAlso net address holder =
      (net.bind address holder.inbox).map fun bound =>
        (ofRole holder.role holder.inbox (holder.addresses ++ [address]), bound) := by
  cases holder <;>
    simp only [bindAlso, Router.bindAlso, Subscriber.bindAlso, inbox] <;>
    cases Network.bind net address _ <;> rfl

theorem close_eq (holder : Holder) (net : Network) :
    holder.close net = (net.release holder.addresses holder.inbox).closeInbox holder.inbox := by
  cases holder <;> rfl

end Holder

/-- The sockets of a network that can be bound, and have not been closed. -/
structure Holdings where
  network : Network := {}
  holders : List Holder := []

namespace Holdings

/-- What else is done on a network. -/
inductive Use
  | connect (address identity : String)
  | disconnect (dealer : Dealer)
  | route (router : Router) (message : Message)
  | post (dealer : Dealer) (message : Message)
  | publish (publisher : Publisher) (message : Message)
  | read (inbox : InboxId)

def Use.result (net : Network) : Use → Network
  | .connect address identity => (Dealer.connect net address identity).2
  | .disconnect dealer => dealer.close net
  | .route router message => (router.send net message).2
  | .post dealer message => (dealer.send net message).2
  | .publish publisher message => (publisher.send net message).2
  | .read inbox => (net.tryReceive inbox).2

/-- Something that is done.  Sockets are given by their positions. -/
inductive Act
  /-- A new socket is bound at an address. -/
  | bind (role : Holder.Role) (address : String)
  /-- A socket is bound at another address as well. -/
  | bindAlso (position : Nat) (address : String)
  /-- A socket is closed. -/
  | close (position : Nat)
  /-- A new subscriber listens to the publishers of an address, and holds none. -/
  | subscribe (address : String)
  | use (use : Use)

/-- What an act comes to.  A refused one changes nothing, and neither does one of a
socket that is not there. -/
def perform (h : Holdings) : Act → Except Fault Unit × Holdings
  | .bind role address =>
      match Holder.bind h.network address role with
      | .error fault => (.error fault, h)
      | .ok (holder, network) => (.ok (), { network, holders := h.holders ++ [holder] })
  | .bindAlso position address =>
      match h.holders[position]? with
      | none => (.ok (), h)
      | some holder =>
          match holder.bindAlso h.network address with
          | .error fault => (.error fault, h)
          | .ok (holder, network) => (.ok (), { network, holders := h.holders.set position holder })
  | .close position =>
      match h.holders[position]? with
      | none => (.ok (), h)
      | some holder =>
          (.ok (), { network := holder.close h.network, holders := h.holders.eraseIdx position })
  | .subscribe address =>
      let (subscriber, network) := Subscriber.connect h.network address
      (.ok (), { network, holders := h.holders ++ [.subscriber subscriber] })
  | .use use => (.ok (), { h with network := use.result h.network })

/-- The sockets after some acts. -/
def run (h : Holdings) (acts : List Act) : Holdings :=
  acts.foldl (fun h act => (h.perform act).2) h

/-- Whether a socket holds an address. -/
def Held (h : Holdings) (address : String) : Prop :=
  ∃ holder ∈ h.holders, address ∈ holder.addresses

variable {h : Holdings} {holder first second : Holder} {address : String} {position : Nat}

theorem keepsBounds_result (use : Use) (net : Network) : net.KeepsBounds (use.result net) := by
  cases use with
  | connect address identity => exact Network.keepsBounds_connect net address identity
  | disconnect dealer => exact Network.keepsBounds_disconnect dealer net
  | route router message => exact Network.keepsBounds_route router net message
  | post dealer message => exact Network.keepsBounds_post dealer net message
  | publish publisher message => exact Network.keepsBounds_publish publisher net message
  | read inbox => exact Network.keepsBounds_tryReceive net inbox

/-- What is bound on a network is what some sockets hold. -/
structure Accounts (net : Network) (holders : List Holder) : Prop where
  /-- No two sockets share an inbox. -/
  distinct : (holders.map Holder.inbox).Nodup
  issued : ∀ holder ∈ holders, holder.inbox < net.nextInbox
  bound?_iff : ∀ address inbox, net.bound? address = some inbox ↔
    ∃ holder ∈ holders, holder.inbox = inbox ∧ address ∈ holder.addresses

theorem accounts_empty : Accounts {} [] where
  distinct := List.nodup_nil
  issued := nofun
  bound?_iff address inbox := by simp [Network.bound?, Network.slot]

namespace Accounts

variable {net renewed : Network} {holders others : List Holder}

theorem perm (accounts : Accounts net holders) (same : holders.Perm others) :
    Accounts net others where
  distinct := (same.map Holder.inbox).nodup_iff.mp accounts.distinct
  issued holder member := accounts.issued holder (same.mem_iff.mpr member)
  bound?_iff address inbox := by simp only [accounts.bound?_iff, same.mem_iff]

theorem keeps (accounts : Accounts net holders) (keeps : net.KeepsBounds renewed) :
    Accounts renewed holders where
  distinct := accounts.distinct
  issued holder member := Nat.lt_of_lt_of_le (accounts.issued holder member) keeps.nextInbox
  bound?_iff address inbox := by rw [keeps.bound?, accounts.bound?_iff]

/-- A new socket that holds nothing yet. -/
theorem openInbox (accounts : Accounts net holders) (role : Holder.Role) :
    Accounts (net.openInbox true).2 (.ofRole role net.nextInbox [] :: holders) where
  distinct := by
    rw [List.map_cons, List.nodup_cons, Holder.inbox_ofRole]
    refine ⟨fun member => ?_, accounts.distinct⟩
    rcases List.mem_map.mp member with ⟨holder, there, same⟩
    exact Nat.ne_of_lt (accounts.issued holder there) same
  issued := by
    refine List.forall_mem_cons.mpr ⟨?_, ?_⟩
    · rw [Holder.inbox_ofRole]
      exact Nat.lt_succ_self _
    · exact fun holder member => Nat.lt_succ_of_lt (accounts.issued holder member)
  bound?_iff address inbox := by
    rw [(net.keepsBounds_openInbox true).bound?, accounts.bound?_iff]
    simp

/-- A socket that comes to hold one more address, which nobody holds. -/
theorem binds (accounts : Accounts net (holder :: holders))
    (free : ¬ net.isBound address = true) (binds : net.Binds address holder.inbox renewed) :
    Accounts renewed
      (.ofRole holder.role holder.inbox (holder.addresses ++ [address]) :: holders) where
  distinct := by
    rw [List.map_cons, Holder.inbox_ofRole]
    exact accounts.distinct
  issued := by
    rw [binds.nextInbox]
    refine List.forall_mem_cons.mpr ⟨?_, fun holder member =>
      accounts.issued holder (List.mem_cons_of_mem _ member)⟩
    rw [Holder.inbox_ofRole]
    exact accounts.issued holder List.mem_cons_self
  bound?_iff other inbox := by
    rw [binds.bound?]
    by_cases here : address = other
    · -- Nobody has held the address so far.
      subst here
      have unheld : ∀ other ∈ holders, address ∉ other.addresses := by
        intro other member held
        apply free
        rw [Network.isBound_iff]
        exact ⟨_, (accounts.bound?_iff _ _).mpr
          ⟨other, List.mem_cons_of_mem _ member, rfl, held⟩⟩
      simp only [if_true, Option.some.injEq, List.exists_mem_cons_iff, Holder.inbox_ofRole,
        Holder.addresses_ofRole, List.mem_append, List.mem_singleton, or_true, and_true]
      constructor
      · exact Or.inl
      · rintro (same | ⟨other, member, _, held⟩)
        · exact same
        · exact absurd held (unheld other member)
    · simp [here, Ne.symm here, accounts.bound?_iff]

/-- A socket that is closed. -/
theorem close (accounts : Accounts net (holder :: holders)) :
    Accounts (holder.close net) holders := by
  rcases List.nodup_cons.mp accounts.distinct with ⟨apart, distinct⟩
  rw [Holder.close_eq]
  refine keeps ?_ (Network.keepsBounds_closeInbox _ _)
  constructor
  case distinct => exact distinct
  case issued =>
    intro other member
    rw [Network.nextInbox_release]
    exact accounts.issued other (List.mem_cons_of_mem _ member)
  case bound?_iff =>
    intro address inbox
    rw [Network.bound?_release]
    have others : ∀ other ∈ holders, other.inbox ≠ holder.inbox := by
      intro other member same
      exact apart (same ▸ List.mem_map_of_mem member)
    constructor
    · intro bound
      split at bound
      · contradiction
      · next kept =>
          rcases (accounts.bound?_iff _ _).mp bound with ⟨other, member, same, held⟩
          rcases List.mem_cons.mp member with rfl | member
          · rw [same] at kept
            exact absurd ⟨held, bound⟩ kept
          · exact ⟨other, member, same, held⟩
    · rintro ⟨other, member, rfl, held⟩
      have bound := (accounts.bound?_iff _ _).mpr
        ⟨other, List.mem_cons_of_mem _ member, rfl, held⟩
      rw [bound, if_neg]
      rintro ⟨_, same⟩
      exact others other member (Option.some.inj same)

/-- A socket that is closed frees the addresses that it holds, and no other. -/
theorem isBound_close (accounts : Accounts net holders) (member : holder ∈ holders)
    (address : String) :
    (holder.close net).isBound address = true ↔
      net.isBound address = true ∧ address ∉ holder.addresses := by
  have closed : (holder.close net).bound? address =
      (net.release holder.addresses holder.inbox).bound? address := by
    rw [Holder.close_eq, (Network.keepsBounds_closeInbox _ _).bound?]
  rw [Network.isBound_iff, Network.isBound_iff, closed, Network.bound?_release]
  by_cases held : address ∈ holder.addresses
  · have bound := (accounts.bound?_iff _ _).mpr ⟨holder, member, rfl, held⟩
    simp [held, bound]
  · simp [held]

theorem isBound_iff (accounts : Accounts net holders) (address : String) :
    net.isBound address = true ↔ ∃ holder ∈ holders, address ∈ holder.addresses := by
  rw [Network.isBound_iff]
  constructor
  · rintro ⟨inbox, bound⟩
    rcases (accounts.bound?_iff address inbox).mp bound with ⟨holder, member, _, held⟩
    exact ⟨holder, member, held⟩
  · rintro ⟨holder, member, held⟩
    exact ⟨holder.inbox, (accounts.bound?_iff _ _).mpr ⟨holder, member, rfl, held⟩⟩

/-- Two sockets that hold one address are one. -/
theorem position_eq (accounts : Accounts net holders) {i j : Nat}
    (stands : holders[i]? = some first) (otherStands : holders[j]? = some second)
    (held : address ∈ first.addresses) (otherHeld : address ∈ second.addresses) : i = j := by
  have bound := (accounts.bound?_iff _ _).mpr
    ⟨first, List.mem_of_getElem? stands, rfl, held⟩
  rw [(accounts.bound?_iff _ _).mpr
    ⟨second, List.mem_of_getElem? otherStands, rfl, otherHeld⟩] at bound
  have bounded : i < (holders.map Holder.inbox).length := by
    rw [List.length_map]
    exact (List.getElem?_eq_some_iff.mp stands).1
  apply (List.getElem?_inj bounded accounts.distinct).mp
  rw [List.getElem?_map, List.getElem?_map, stands, otherStands]
  exact bound.symm

end Accounts

theorem perform_bind_of_held (taken : h.network.isBound address = true) (role : Holder.Role) :
    h.perform (.bind role address) = (.error (.addressInUse address), h) := by
  have taken : (h.network.openInbox true).2.isBound address = true := taken
  have refused := Network.bind_of_isBound taken h.network.nextInbox
  simp only [perform, Holder.bind_eq, refused]
  rfl

theorem perform_bind_of_free (free : ¬ h.network.isBound address = true) (role : Holder.Role) :
    ∃ network, (h.network.openInbox true).2.Binds address h.network.nextInbox network ∧
      h.perform (.bind role address) =
        (.ok (), ⟨network, h.holders ++ [.ofRole role h.network.nextInbox [address]]⟩) := by
  have free : ¬ (h.network.openInbox true).2.isBound address = true := free
  rcases Network.exists_bind_of_free free h.network.nextInbox with ⟨network, done, binds⟩
  refine ⟨network, binds, ?_⟩
  simp only [perform, Holder.bind_eq, done]
  rfl

theorem perform_bindAlso_of_held (stands : h.holders[position]? = some holder)
    (taken : h.network.isBound address = true) :
    h.perform (.bindAlso position address) = (.error (.addressInUse address), h) := by
  simp only [perform, stands, Holder.bindAlso_eq, Network.bind_of_isBound taken]
  rfl

theorem perform_bindAlso_of_free (stands : h.holders[position]? = some holder)
    (free : ¬ h.network.isBound address = true) :
    ∃ network, h.network.Binds address holder.inbox network ∧
      h.perform (.bindAlso position address) = (.ok (), ⟨network, h.holders.set position
        (.ofRole holder.role holder.inbox (holder.addresses ++ [address]))⟩) := by
  rcases Network.exists_bind_of_free free holder.inbox with ⟨network, done, binds⟩
  refine ⟨network, binds, ?_⟩
  simp only [perform, stands, Holder.bindAlso_eq, done]
  rfl

theorem perform_close (stands : h.holders[position]? = some holder) :
    h.perform (.close position) =
      (.ok (), ⟨holder.close h.network, h.holders.eraseIdx position⟩) := by
  simp only [perform, stands]

/-- The sockets account for what is bound after each act. -/
theorem accounts_perform (accounts : Accounts h.network h.holders) (act : Act) :
    Accounts (h.perform act).2.network (h.perform act).2.holders := by
  cases act with
  | bind role address =>
      by_cases taken : h.network.isBound address = true
      · rw [perform_bind_of_held taken]
        exact accounts
      · rcases perform_bind_of_free taken role with ⟨network, binds, done⟩
        rw [done]
        have opened := accounts.openInbox role
        rw [← Holder.inbox_ofRole role h.network.nextInbox []] at binds
        have bound := opened.binds taken binds
        simp only [Holder.role_ofRole, Holder.inbox_ofRole, Holder.addresses_ofRole,
          List.nil_append] at bound
        exact bound.perm (List.perm_append_singleton _ _).symm
  | bindAlso position address =>
      cases stands : h.holders[position]? with
      | none =>
          simp only [perform, stands]
          exact accounts
      | some holder =>
          by_cases taken : h.network.isBound address = true
          · rw [perform_bindAlso_of_held stands taken]
            exact accounts
          · rcases perform_bindAlso_of_free stands taken with ⟨network, binds, done⟩
            rw [done]
            rcases List.getElem?_eq_some_iff.mp stands with ⟨bounded, rfl⟩
            have split := List.getElem_cons_eraseIdx_perm bounded
            exact ((accounts.perm split.symm).binds taken binds).perm
              (List.set_perm_cons_eraseIdx bounded _).symm
  | close position =>
      cases stands : h.holders[position]? with
      | none =>
          simp only [perform, stands]
          exact accounts
      | some holder =>
          rw [perform_close stands]
          rcases List.getElem?_eq_some_iff.mp stands with ⟨bounded, rfl⟩
          exact (accounts.perm (List.getElem_cons_eraseIdx_perm bounded).symm).close
  | subscribe address =>
      have opened := accounts.openInbox .subscriber
      have keeps : (h.network.openInbox true).2.KeepsBounds
          (Subscriber.connect h.network address).2 := Network.keepsBounds_setSlot rfl
      exact (opened.keeps keeps).perm (List.perm_append_singleton _ _).symm
  | use use => exact accounts.keeps (keepsBounds_result use h.network)

theorem accounts_run (accounts : Accounts h.network h.holders) (acts : List Act) :
    Accounts (h.run acts).network (h.run acts).holders := by
  induction acts generalizing h with
  | nil => exact accounts
  | cons act acts inductionHypothesis => exact inductionHypothesis (accounts_perform accounts act)

/-! ## Exclusive ownership -/

/-- What it means that addresses are held by one socket at a time. -/
structure Exclusive (h : Holdings) : Prop where
  single : ∀ address (i j : Nat) (first second : Holder), h.holders[i]? = some first →
    h.holders[j]? = some second → address ∈ first.addresses → address ∈ second.addresses → i = j
  isBound_iff : ∀ address, h.network.isBound address = true ↔ h.Held address
  /-- To be bound at an address that is held is refused, and changes nothing. -/
  bind_of_held : ∀ role address, h.Held address →
    h.perform (.bind role address) = (.error (.addressInUse address), h)
  bind_of_free : ∀ role address, ¬ h.Held address →
    (h.perform (.bind role address)).1 = .ok () ∧ ∃ holder, holder.role = role ∧
      holder.addresses = [address] ∧
      (h.perform (.bind role address)).2.holders = h.holders ++ [holder]
  bindAlso_of_held : ∀ (position : Nat) (holder : Holder) address,
    h.holders[position]? = some holder → h.Held address →
    h.perform (.bindAlso position address) = (.error (.addressInUse address), h)
  bindAlso_of_free : ∀ (position : Nat) (holder : Holder) address,
    h.holders[position]? = some holder → ¬ h.Held address →
    (h.perform (.bindAlso position address)).1 = .ok () ∧
      ∃ extended, extended.role = holder.role ∧ extended.inbox = holder.inbox ∧
        extended.addresses = holder.addresses ++ [address] ∧
        (h.perform (.bindAlso position address)).2.holders = h.holders.set position extended
  /-- A socket that is closed frees the addresses that it holds, and no other. -/
  close : ∀ (position : Nat) (holder : Holder) address, h.holders[position]? = some holder →
    ((h.perform (.close position)).2.network.isBound address = true ↔
      h.network.isBound address = true ∧ address ∉ holder.addresses)

/-- After any acts, and whatever else is done on the network, addresses are held by
one socket at a time. -/
theorem exclusive_run (acts : List Act) : (run {} acts).Exclusive := by
  have accounts := accounts_run (h := {}) accounts_empty acts
  have held := accounts.isBound_iff
  constructor
  case single =>
    intro address i j first second stands otherStands
    exact accounts.position_eq stands otherStands
  case isBound_iff => exact held
  case bind_of_held =>
    exact fun role address taken => perform_bind_of_held ((held _).mpr taken) role
  case bind_of_free =>
    intro role address free
    rcases perform_bind_of_free (mt (held _).mp free) role with ⟨network, _, done⟩
    rw [done]
    exact ⟨rfl, _, Holder.role_ofRole .., Holder.addresses_ofRole .., rfl⟩
  case bindAlso_of_held =>
    exact fun position holder address stands taken =>
      perform_bindAlso_of_held stands ((held _).mpr taken)
  case bindAlso_of_free =>
    intro position holder address stands free
    rcases perform_bindAlso_of_free stands (mt (held _).mp free) with ⟨network, _, done⟩
    rw [done]
    exact ⟨rfl, _, Holder.role_ofRole .., Holder.inbox_ofRole .., Holder.addresses_ofRole .., rfl⟩
  case close =>
    intro position holder address stands
    rw [perform_close stands]
    exact accounts.isBound_close (List.mem_of_getElem? stands) address

/-- A subscriber cannot be bound where a router is, until the router is closed. -/
example :
    let refused := run {} [.bind .router "a", .bindAlso 0 "b", .bind .subscriber "b"]
    let freed := refused.run [.bind .subscriber "c", .close 0, .bindAlso 0 "b"]
    refused.holders.map Holder.addresses = [["a", "b"]] ∧
      freed.holders.map Holder.addresses = [["c", "b"]] ∧ freed.network.isBound "a" = false := by
  decide +kernel

end Holdings

end ClusterHub

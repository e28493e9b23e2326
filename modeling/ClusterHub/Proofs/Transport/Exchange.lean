import Mathlib.Data.List.Perm.Basic
import ClusterHub.Proofs.Transport.Network

/-!
# Exchanges

Routers and dealers come and go on a network, and write and read.  The peers of an
address are dealers that are connected there, each with an inbox of its own; but a
dealer that disconnects takes the place of its identity with it, even if another
dealer has connected under the identity since.  So the dealer that connected last
is reached exactly as long as no dealer of its identity disconnects.
-/

namespace ClusterHub

/-- The dealers and routers that are in use on a network. -/
structure Exchange where
  network : Network := {}
  dealers : List Dealer := []
  routers : List Router := []

/-- Whether a dealer is connected to an address under an identity. -/
def Dealer.IsAt (dealer : Dealer) (address identity : String) : Prop :=
  dealer.address = address ∧ dealer.identity = .ofText identity

namespace Exchange

/-- Something that is done on an exchange.  Sockets are given by their positions. -/
inductive Act
  /-- A dealer connects to an address under an identity. -/
  | connect (address identity : String)
  /-- A dealer disconnects. -/
  | disconnect (dealer : Nat)
  /-- A router is bound at an address, unless it is taken. -/
  | bind (address : String)
  /-- A router is bound at another address as well, unless it is taken. -/
  | bindAlso (router : Nat) (address : String)
  /-- A router is closed. -/
  | close (router : Nat)
  /-- A router sends a message to the peer that its first frame names. -/
  | route (router : Nat) (message : Message)
  /-- A dealer sends a message to the router that is bound at its address. -/
  | post (dealer : Nat) (message : Message)
  /-- An inbox is read. -/
  | read (inbox : InboxId)
deriving DecidableEq

/-- The exchange after an act.  An act of a socket that is not there comes to
nothing. -/
def perform (ex : Exchange) : Act → Exchange
  | .connect address identity =>
      let (dealer, network) := Dealer.connect ex.network address identity
      { ex with network, dealers := ex.dealers ++ [dealer] }
  | .disconnect position =>
      match ex.dealers[position]? with
      | none => ex
      | some dealer =>
          { ex with
            network := dealer.close ex.network
            dealers := ex.dealers.eraseIdx position }
  | .bind address =>
      match Router.bind ex.network address with
      | .error _ => ex
      | .ok (router, network) => { ex with network, routers := ex.routers ++ [router] }
  | .bindAlso position address =>
      match ex.routers[position]? with
      | none => ex
      | some router =>
          match router.bindAlso ex.network address with
          | .error _ => ex
          | .ok (router, network) => { ex with network, routers := ex.routers.set position router }
  | .close position =>
      match ex.routers[position]? with
      | none => ex
      | some router =>
          { ex with
            network := router.close ex.network
            routers := ex.routers.eraseIdx position }
  | .route position message =>
      match ex.routers[position]? with
      | none => ex
      | some router => { ex with network := (router.send ex.network message).2 }
  | .post position message =>
      match ex.dealers[position]? with
      | none => ex
      | some dealer => { ex with network := (dealer.send ex.network message).2 }
  | .read inbox => { ex with network := (ex.network.tryReceive inbox).2 }

/-- The exchange after some acts. -/
def run (ex : Exchange) (acts : List Act) : Exchange := acts.foldl perform ex

@[simp]
theorem run_nil (ex : Exchange) : ex.run [] = ex := rfl

@[simp]
theorem run_cons (ex : Exchange) (act : Act) (acts : List Act) :
    ex.run (act :: acts) = (ex.perform act).run acts := rfl

theorem run_append (ex : Exchange) (past later : List Act) :
    ex.run (past ++ later) = (ex.run past).run later :=
  List.foldl_append

/-- The inboxes of the sockets that are in use. -/
def inUse (ex : Exchange) : List InboxId :=
  ex.dealers.map Dealer.inbox ++ ex.routers.map Router.inbox

variable {ex after : Exchange} {network : Network} {act : Act} {dealer : Dealer}
  {router : Router} {position : Nat} {address identity : String}

/-- What an act can do to an exchange: only to connect and to disconnect a dealer
changes the peers and the dealers. -/
inductive Effect (ex : Exchange) : Act → Exchange → Prop
  | connects (address identity : String) :
      Effect ex (.connect address identity) { ex with
        network := (Dealer.connect ex.network address identity).2
        dealers := ex.dealers ++ [(Dealer.connect ex.network address identity).1] }
  | disconnects {position : Nat} {dealer : Dealer} (stands : ex.dealers[position]? = some dealer) :
      Effect ex (.disconnect position) { ex with
        network := dealer.close ex.network
        dealers := ex.dealers.eraseIdx position }
  /-- A router comes. -/
  | opens {act : Act} {after : Exchange}
      (places : (ex.network.openInbox true).2.SamePlaces after.network)
      (inUse : after.inUse.Perm (ex.network.nextInbox :: ex.inUse))
      (dealers : after.dealers = ex.dealers) : Effect ex act after
  /-- A router goes. -/
  | closes {act : Act} {after : Exchange} {network : Network} {gone : InboxId}
      (places : ex.network.SamePlaces network) (closed : after.network = network.closeInbox gone)
      (inUse : ex.inUse.Perm (gone :: after.inUse)) (dealers : after.dealers = ex.dealers) :
      Effect ex act after
  | keeps {act : Act} {after : Exchange} (places : ex.network.SamePlaces after.network)
      (inUse : after.inUse = ex.inUse) (dealers : after.dealers = ex.dealers) :
      Effect ex act after

theorem Effect.none (ex : Exchange) (act : Act) : Effect ex act ex := .keeps (.refl _) rfl rfl

theorem effect_bind (ex : Exchange) (address : String) :
    Effect ex (.bind address) (ex.perform (.bind address)) := by
  cases done : (ex.network.openInbox true).2.bind address ex.network.nextInbox with
  | error fault =>
      have refused : Router.bind ex.network address = .error fault := by
        simp only [Router.bind, Network.openInbox] at done ⊢
        rw [done]
        rfl
      simp only [perform, refused]
      exact .none ..
  | ok network =>
      have made : Router.bind ex.network address =
          .ok (⟨ex.network.nextInbox, [address]⟩, network) := by
        simp only [Router.bind, Network.openInbox] at done ⊢
        rw [done]
        rfl
      simp only [perform, made]
      refine .opens (Network.samePlaces_bind done) ?_ rfl
      rw [inUse, List.map_append, ← List.append_assoc]
      exact List.perm_append_singleton ..

theorem effect_bindAlso (ex : Exchange) (position : Nat) (address : String) :
    Effect ex (.bindAlso position address) (ex.perform (.bindAlso position address)) := by
  cases stands : ex.routers[position]? with
  | none =>
      simp only [perform, stands]
      exact .none ..
  | some router =>
      cases done : ex.network.bind address router.inbox with
      | error fault =>
          have refused : router.bindAlso ex.network address = .error fault := by
            simp only [Router.bindAlso, done]
            rfl
          simp only [perform, stands, refused]
          exact .none ..
      | ok network =>
          have made : router.bindAlso ex.network address =
              .ok ({ router with addresses := router.addresses ++ [address] }, network) := by
            simp only [Router.bindAlso, done]
            rfl
          simp only [perform, stands, made]
          refine .keeps (Network.samePlaces_bind done) ?_ rfl
          -- The router keeps its inbox.
          have own : (ex.routers.map Router.inbox)[position]? = some router.inbox := by
            rw [List.getElem?_map, stands, Option.map_some]
          rcases List.getElem?_eq_some_iff.mp own with ⟨bounded, own⟩
          rw [inUse, List.map_set]
          change _ ++ (ex.routers.map Router.inbox).set position router.inbox = ex.inUse
          rw [← own, List.set_getElem_self]
          rfl

theorem effect_close (ex : Exchange) (position : Nat) :
    Effect ex (.close position) (ex.perform (.close position)) := by
  cases stands : ex.routers[position]? with
  | none =>
      simp only [perform, stands]
      exact .none ..
  | some router =>
      simp only [perform, stands]
      rcases List.getElem?_eq_some_iff.mp stands with ⟨bounded, rfl⟩
      have split := (List.getElem_cons_eraseIdx_perm bounded).symm.map Router.inbox
      exact .closes (Network.samePlaces_release ..) rfl
        ((split.append_left _).trans List.perm_middle) rfl

/-- An act does what acts can do, as long as every peer is there. -/
theorem effect_perform (reaches : ex.network.ReachesPeers) (act : Act) :
    Effect ex act (ex.perform act) := by
  cases act with
  | connect address identity => exact .connects address identity
  | disconnect position =>
      cases stands : ex.dealers[position]? with
      | none =>
          simp only [perform, stands]
          exact .none ..
      | some dealer =>
          simp only [perform, stands]
          exact .disconnects stands
  | bind address => exact effect_bind ex address
  | bindAlso position address => exact effect_bindAlso ex position address
  | close position => exact effect_close ex position
  | route position message =>
      cases stands : ex.routers[position]? with
      | none =>
          simp only [perform, stands]
          exact .none ..
      | some router =>
          simp only [perform, stands]
          exact .keeps (Network.samePlaces_send reaches router message) rfl rfl
  | post position message =>
      cases stands : ex.dealers[position]? with
      | none =>
          simp only [perform, stands]
          exact .none ..
      | some dealer =>
          simp only [perform, stands]
          exact .keeps (Network.samePlaces_post dealer ex.network message) rfl rfl
  | read inbox => exact .keeps (Network.samePlaces_tryReceive ex.network inbox) rfl rfl

/-! ## Sound exchanges -/

/-- What holds of an exchange at all times. -/
structure Sound (ex : Exchange) : Prop where
  /-- No two sockets share an inbox. -/
  distinct : ex.inUse.Nodup
  /-- The inbox of a socket is open. -/
  opened : ∀ inbox ∈ ex.inUse, inbox ∈ ex.network.inboxes
  issued : ∀ inbox ∈ ex.network.inboxes, inbox < ex.network.nextInbox
  /-- Only dealers that are connected are peers. -/
  connected : ∀ address identity inbox, ex.network.peer? address identity = some inbox →
    ∃ dealer ∈ ex.dealers, dealer.address = address ∧ dealer.identity = identity ∧
      dealer.inbox = inbox

theorem peer?_empty (address : String) (identity : Frame) :
    Network.peer? {} address identity = none := by
  simp [Network.peer?, Network.slot, Slot.peer?]

/-- Nothing is in use at first. -/
theorem sound_empty : Sound {} where
  distinct := List.nodup_nil
  opened := nofun
  issued _ member := by simp at member
  connected address identity _ found := by
    rw [peer?_empty] at found
    contradiction

namespace Sound

theorem reachesPeers (sound : ex.Sound) : ex.network.ReachesPeers := by
  intro address identity inbox found
  rcases sound.connected address identity inbox found with ⟨dealer, member, _, _, rfl⟩
  exact sound.opened _ (List.mem_append_left _ (List.mem_map_of_mem member))

/-- What one socket more in use comes to. -/
theorem openInbox (sound : ex.Sound) {used : List InboxId} (kept : Bool)
    (split : used.Perm (ex.network.nextInbox :: ex.inUse)) :
    used.Nodup ∧ (∀ inbox ∈ used, inbox ∈ (ex.network.openInbox kept).2.inboxes) ∧
      ∀ inbox ∈ (ex.network.openInbox kept).2.inboxes, inbox < ex.network.nextInbox + 1 := by
  have new : ex.network.nextInbox ∉ ex.inUse := fun member =>
    Nat.lt_irrefl _ (sound.issued _ (sound.opened _ member))
  refine ⟨split.nodup_iff.mpr (List.nodup_cons.mpr ⟨new, sound.distinct⟩), ?_, ?_⟩
  · intro inbox member
    apply Network.mem_openInbox.mpr
    exact (List.mem_cons.mp (split.mem_iff.mp member)).imp_right (sound.opened inbox)
  · intro inbox member
    rcases Network.mem_openInbox.mp member with rfl | member
    · exact Nat.lt_succ_self _
    · exact Nat.lt_succ_of_lt (sound.issued inbox member)

/-- What one socket fewer in use comes to. -/
theorem closeInbox (sound : ex.Sound) {gone : InboxId} {used : List InboxId}
    (split : ex.inUse.Perm (gone :: used)) :
    used.Nodup ∧ ∀ inbox ∈ used, gone ≠ inbox ∧ inbox ∈ ex.network.inboxes := by
  have distinct := List.nodup_cons.mp (split.nodup_iff.mp sound.distinct)
  refine ⟨distinct.2, ?_⟩
  intro inbox member
  refine ⟨?_, sound.opened inbox (split.mem_iff.mpr (List.mem_cons_of_mem _ member))⟩
  rintro rfl
  exact distinct.1 member

theorem connects (sound : ex.Sound) (address identity : String) :
    Sound { ex with
      network := (Dealer.connect ex.network address identity).2
      dealers := ex.dealers ++ [(Dealer.connect ex.network address identity).1] } := by
  have split : ((ex.dealers ++ [(Dealer.connect ex.network address identity).1]).map
      Dealer.inbox ++ ex.routers.map Router.inbox).Perm (ex.network.nextInbox :: ex.inUse) := by
    rw [List.map_append, List.append_assoc]
    exact List.perm_middle
  rcases sound.openInbox false split with ⟨distinct, opened, issued⟩
  refine ⟨distinct, opened, issued, ?_⟩
  intro other name inbox found
  rw [Network.peer?_connect] at found
  split at found
  · next here =>
      cases found
      exact ⟨_, List.mem_append_right _ (List.mem_singleton_self _), here.1, here.2, rfl⟩
  · rcases sound.connected other name inbox found with ⟨dealer, member, same⟩
    exact ⟨dealer, List.mem_append_left _ member, same⟩

theorem disconnects (sound : ex.Sound) (stands : ex.dealers[position]? = some dealer) :
    Sound { ex with
      network := dealer.close ex.network
      dealers := ex.dealers.eraseIdx position } := by
  rcases List.getElem?_eq_some_iff.mp stands with ⟨bounded, rfl⟩
  have split := List.getElem_cons_eraseIdx_perm bounded
  have left := sound.closeInbox ((split.symm.map Dealer.inbox).append_right _)
  constructor
  case distinct => exact left.1
  case opened => exact fun inbox member => Network.mem_closeInbox.mpr (left.2 inbox member)
  case issued =>
    exact fun inbox member => sound.issued inbox (Network.mem_closeInbox.mp member).2
  case connected =>
    intro address identity inbox found
    rw [Network.peer?_close] at found
    split at found
    · contradiction
    · next apart =>
        rcases sound.connected address identity inbox found with ⟨other, member, here, named, same⟩
        rcases List.mem_cons.mp (split.mem_iff.mpr member) with rfl | member
        · exact absurd ⟨here, named⟩ apart
        · exact ⟨other, member, here, named, same⟩

end Sound

/-- What holds at all times holds after each act. -/
theorem Sound.effect (sound : ex.Sound) (effect : Effect ex act after) : after.Sound := by
  cases effect with
  | connects address identity => exact sound.connects address identity
  | disconnects stands => exact sound.disconnects stands
  | opens places inUse dealers =>
      rcases sound.openInbox true inUse with ⟨distinct, opened, issued⟩
      constructor
      case distinct => exact distinct
      case opened => exact fun inbox member => (places.opened inbox).mpr (opened inbox member)
      case issued =>
        intro inbox member
        rw [places.nextInbox]
        exact issued inbox ((places.opened inbox).mp member)
      case connected =>
        intro address identity inbox found
        rw [places.peer?] at found
        rw [dealers]
        exact sound.connected address identity inbox found
  | closes places closed inUse dealers =>
      have left := sound.closeInbox inUse
      constructor
      case distinct => exact left.1
      case opened =>
        intro inbox member
        rw [closed, Network.mem_closeInbox, places.opened]
        exact left.2 inbox member
      case issued =>
        intro inbox member
        rw [closed, Network.mem_closeInbox, places.opened] at member
        rw [closed]
        exact places.nextInbox ▸ sound.issued inbox member.2
      case connected =>
        intro address identity inbox found
        rw [closed] at found
        rw [dealers]
        exact sound.connected address identity inbox ((places.peer? ..).symm.trans found)
  | keeps places inUse dealers =>
      constructor
      case distinct => exact inUse ▸ sound.distinct
      case opened =>
        intro inbox member
        rw [inUse] at member
        exact (places.opened inbox).mpr (sound.opened inbox member)
      case issued =>
        intro inbox member
        rw [places.nextInbox]
        exact sound.issued inbox ((places.opened inbox).mp member)
      case connected =>
        intro address identity inbox found
        rw [places.peer?] at found
        rw [dealers]
        exact sound.connected address identity inbox found

theorem Sound.perform (sound : ex.Sound) (act : Act) : (ex.perform act).Sound :=
  sound.effect (effect_perform sound.reachesPeers act)

theorem Sound.run (sound : ex.Sound) (acts : List Act) : (ex.run acts).Sound := by
  induction acts generalizing ex with
  | nil => exact sound
  | cons act acts inductionHypothesis => exact inductionHypothesis (sound.perform act)

end Exchange

end ClusterHub

import ClusterHub.Hub.Server
import ClusterHub.Proofs.Collections
import ClusterHub.Proofs.Hub.Addresses
import ClusterHub.Proofs.Transport.Retreat

/-!
# Hubs that are opened and closed

A hub takes its addresses one after another.  If one of them is taken already it gives
up those before it, and the network is as it was; otherwise its sockets are seated at
all of them, and to close them frees just these.
-/

namespace ClusterHub

namespace HubSockets

variable {sockets : HubSockets} {addresses : HubAddresses} {net after : Network}
  {first second address : String}

/-- The sockets of a hub that are bound, in the order in which they are closed. -/
def holders (sockets : HubSockets) : List Holder :=
  [.router sockets.pong, .router sockets.query, .subscriber sockets.monitor]

/-- Whether the sockets of a hub are bound at its addresses. -/
structure Seated (sockets : HubSockets) (addresses : HubAddresses) (net : Network) : Prop where
  query : sockets.query.addresses = [addresses.engine.registration]
  pong : sockets.pong.addresses = [addresses.engine.pong]
  monitor : sockets.monitor.addresses = [addresses.monitor, HubAddresses.localMonitor]
  bound? : ∀ holder ∈ sockets.holders, ∀ address ∈ holder.addresses,
    net.bound? address = some holder.inbox

namespace Seated

theorem mem_seats_iff (seated : sockets.Seated addresses net) :
    address ∈ addresses.seats ↔ ∃ holder ∈ sockets.holders, address ∈ holder.addresses := by
  simp only [holders, List.exists_mem_cons_iff, Holder.addresses, seated.query, seated.pong,
    seated.monitor]
  simp only [HubAddresses.seats, List.mem_cons, List.not_mem_nil, or_false, false_and, exists_false]
  tauto

theorem isBound_of_mem (seated : sockets.Seated addresses net) (seat : address ∈ addresses.seats) :
    net.isBound address = true := by
  rcases seated.mem_seats_iff.mp seat with ⟨holder, member, held⟩
  exact Network.isBound_iff.mpr ⟨holder.inbox, seated.bound? holder member address held⟩

/-- Queries are read where the hub says that one registers. -/
theorem bound?_registration (seated : sockets.Seated addresses net) :
    net.bound? addresses.engine.registration = some sockets.query.inbox :=
  seated.bound? (.router sockets.query) (by simp [holders]) _
    (by simp [Holder.addresses, seated.query])

theorem bound?_pong (seated : sockets.Seated addresses net) :
    net.bound? addresses.engine.pong = some sockets.pong.inbox :=
  seated.bound? (.router sockets.pong) (by simp [holders]) _
    (by simp [Holder.addresses, seated.pong])

/-- The sockets of a hub stay where they are if their inboxes stay bound. -/
theorem mono (seated : sockets.Seated addresses net)
    (kept : ∀ holder ∈ sockets.holders, ∀ address, net.bound? address = some holder.inbox →
      after.bound? address = some holder.inbox) : sockets.Seated addresses after where
  query := seated.query
  pong := seated.pong
  monitor := seated.monitor
  bound? holder member address held :=
    kept holder member address (seated.bound? holder member address held)

/-- To close the sockets of a hub frees its addresses, and no other. -/
theorem bound?_close (seated : sockets.Seated addresses net) (address : String) :
    (sockets.close net).bound? address =
      if address ∈ addresses.seats then none else net.bound? address := by
  have claims : ∀ holder ∈ sockets.holders, holder.Claims net := by
    intro holder member place held inbox bound
    rw [seated.bound? holder member place held] at bound
    exact (Option.some.inj bound).symm
  have closed : sockets.close net =
      sockets.resubmit.close (Holder.closeAll sockets.holders net) := rfl
  rw [closed, (Network.keepsBounds_disconnect _ _).bound?, Holder.bound?_closeAll claims]
  simp only [seated.mem_seats_iff]

end Seated

/-- What it means that the sockets of a hub have been opened. -/
structure Opened (sockets : HubSockets) (addresses : HubAddresses) (net after : Network) :
    Prop where
  seated : sockets.Seated addresses after
  new : ∀ holder ∈ sockets.holders, net.nextInbox ≤ holder.inbox ∧ holder.inbox < after.nextInbox
  others : ∀ address, address ∉ addresses.seats → after.bound? address = net.bound? address

theorem bindMonitor_of_first (taken : net.isBound first = true) (second : String) :
    bindMonitor net first second = (.error (.addressInUse first), net) := by
  simp only [bindMonitor, Subscriber.bind_of_isBound taken]

theorem bindMonitor_of_second (apart : first ≠ second) (free : ¬ net.isBound first = true)
    (taken : net.isBound second = true) :
    ∃ after, bindMonitor net first second = (.error (.addressInUse second), after) ∧
      net.Restores after := by
  rcases Subscriber.exists_bind_of_free free with ⟨opened, bound, takes⟩
  have refused := Network.bind_of_isBound ((takes.isBound_iff apart).mpr taken) net.nextInbox
  refine ⟨_, ?_, takes.restores free (.refl opened)⟩
  simp only [bindMonitor, bound, Subscriber.bindAlso, refused]
  rfl

theorem exists_bindMonitor_of_free (apart : first ≠ second) (free : ¬ net.isBound first = true)
    (freeToo : ¬ net.isBound second = true) :
    ∃ middle after,
      bindMonitor net first second = (.ok ⟨net.nextInbox, [first, second]⟩, after) ∧
      net.Takes first middle ∧ middle.Binds second net.nextInbox after := by
  rcases Subscriber.exists_bind_of_free free with ⟨opened, bound, takes⟩
  rcases Network.exists_bind_of_free (mt (takes.isBound_iff apart).mp freeToo) net.nextInbox with
    ⟨after, boundToo, binds⟩
  refine ⟨opened, after, ?_, takes, binds⟩
  simp only [bindMonitor, bound, Subscriber.bindAlso, boundToo]
  rfl

/-- The addresses of the two routers differ, and so do those of the monitor. -/
theorem pairs_of_nodup_seats (distinct : addresses.seats.Nodup) :
    addresses.engine.registration ≠ addresses.engine.pong ∧
      addresses.monitor ≠ HubAddresses.localMonitor := by
  simp only [HubAddresses.seats, List.nodup_cons, List.mem_cons, not_or] at distinct
  exact ⟨distinct.1.1, distinct.2.2.1.1⟩

/-- What the first two sockets of a hub take leaves the addresses of the monitor alone. -/
theorem isBound_iff_of_takes {queried ponged : Network} (distinct : addresses.seats.Nodup)
    (takes : net.Takes addresses.engine.registration queried)
    (takesToo : queried.Takes addresses.engine.pong ponged) :
    (ponged.isBound addresses.monitor = true ↔ net.isBound addresses.monitor = true) ∧
      (ponged.isBound HubAddresses.localMonitor = true ↔
        net.isBound HubAddresses.localMonitor = true) := by
  simp only [HubAddresses.seats, List.nodup_cons, List.mem_cons, not_or] at distinct
  rcases distinct with ⟨⟨_, fromMonitor, fromLocal, _⟩, ⟨pongFromMonitor, pongFromLocal, _⟩, _⟩
  constructor
  · exact (takesToo.isBound_iff pongFromMonitor).trans (takes.isBound_iff fromMonitor)
  · exact (takesToo.isBound_iff pongFromLocal).trans (takes.isBound_iff fromLocal)

/-- If an address of a hub is taken, the first such one is named and nothing has changed. -/
theorem open?_of_taken (distinct : addresses.seats.Nodup)
    (taken : IsFirst (fun address => net.isBound address = true) addresses.seats address) :
    ∃ after, open? net addresses = (.error (.addressInUse address), after) ∧
      net.Restores after := by
  rcases pairs_of_nodup_seats distinct with ⟨fromPong, apart⟩
  -- Which of the addresses is the first one taken; all before it are free, and taken now.
  rcases isFirst_cons.mp taken with ⟨here, rfl⟩ | ⟨free, taken⟩
  · refine ⟨net, ?_, .refl net⟩
    simp only [open?, Router.bind_of_isBound here]
  rcases Router.exists_bind_of_free free with ⟨first, bound, takes⟩
  rcases isFirst_cons.mp taken with ⟨here, rfl⟩ | ⟨freeToo, taken⟩
  · refine ⟨_, ?_, takes.restores free (.refl first)⟩
    simp only [open?, bound, Router.bind_of_isBound ((takes.isBound_iff fromPong).mpr here)]
    rfl
  have freeToo := mt (takes.isBound_iff fromPong).mp freeToo
  rcases Router.exists_bind_of_free freeToo with ⟨second, boundToo, takesToo⟩
  have refused : ∃ after, bindMonitor second addresses.monitor HubAddresses.localMonitor =
      (.error (.addressInUse address), after) ∧ second.Restores after := by
    rcases isBound_iff_of_takes distinct takes takesToo with ⟨isBound_monitor, isBound_local⟩
    rcases isFirst_cons.mp taken with ⟨here, rfl⟩ | ⟨free, taken⟩
    · exact ⟨second, bindMonitor_of_first (isBound_monitor.mpr here) _, .refl second⟩
    · rcases isFirst_cons.mp taken with ⟨here, rfl⟩ | ⟨_, none⟩
      · exact bindMonitor_of_second apart (mt isBound_monitor.mp free) (isBound_local.mpr here)
      · exact absurd none not_isFirst_nil
  rcases refused with ⟨third, refused, restores⟩
  refine ⟨_, ?_, takes.restores free (takesToo.restores freeToo restores)⟩
  simp only [open?, bound, boundToo, refused]
  rfl

/-- The networks that a hub leads from one to the next as it takes its addresses. -/
structure Stages (addresses : HubAddresses) (net first second third fourth : Network) : Prop where
  query : net.Takes addresses.engine.registration first
  pong : first.Takes addresses.engine.pong second
  monitor : second.Takes addresses.monitor third
  localMonitor : third.Binds HubAddresses.localMonitor second.nextInbox fourth

variable {first second third fourth : Network}

theorem Stages.bound? (stages : Stages addresses net first second third fourth) (address : String) :
    fourth.bound? address =
      if address = addresses.monitor ∨ address = HubAddresses.localMonitor then
        some second.nextInbox
      else if address = addresses.engine.pong then some first.nextInbox
      else if address = addresses.engine.registration then some net.nextInbox
      else net.bound? address := by
  rw [stages.localMonitor.bound?, stages.monitor.bound?, stages.pong.bound?, stages.query.bound?]
  split_ifs <;> tauto

theorem Stages.nextInbox (stages : Stages addresses net first second third fourth) :
    first.nextInbox = net.nextInbox + 1 ∧ second.nextInbox = net.nextInbox + 2 ∧
      fourth.nextInbox = net.nextInbox + 3 := by
  have query := stages.query.nextInbox
  have pong : second.nextInbox = net.nextInbox + 2 := by rw [stages.pong.nextInbox, query]
  refine ⟨query, pong, ?_⟩
  rw [stages.localMonitor.nextInbox, stages.monitor.nextInbox, pong]

/-- If all addresses of a hub are free, it takes them. -/
theorem exists_stages_of_free (distinct : addresses.seats.Nodup)
    (free : ∀ address ∈ addresses.seats, ¬ net.isBound address = true) :
    ∃ first second third fourth, Stages addresses net first second third fourth ∧
      open? net addresses = (.ok {
        query := ⟨net.nextInbox, [addresses.engine.registration]⟩
        pong := ⟨first.nextInbox, [addresses.engine.pong]⟩
        monitor := ⟨second.nextInbox, [addresses.monitor, HubAddresses.localMonitor]⟩
        ping := .bound addresses.engine.ping
        notifier := .bound addresses.client.notification
        resubmit := (Dealer.connect fourth addresses.client.task resubmitIdentity).1 },
        (Dealer.connect fourth addresses.client.task resubmitIdentity).2) := by
  rcases pairs_of_nodup_seats distinct with ⟨fromPong, apart⟩
  simp only [HubAddresses.seats, List.forall_mem_cons] at free
  rcases free with ⟨query, pong, monitor, localMonitor, _⟩
  rcases Router.exists_bind_of_free query with ⟨first, bound, takes⟩
  rcases Router.exists_bind_of_free (mt (takes.isBound_iff fromPong).mp pong) with
    ⟨second, boundToo, takesToo⟩
  rcases isBound_iff_of_takes distinct takes takesToo with ⟨isBound_monitor, isBound_local⟩
  rcases exists_bindMonitor_of_free apart (mt isBound_monitor.mp monitor)
    (mt isBound_local.mp localMonitor) with ⟨third, fourth, monitored, takesMonitor, binds⟩
  refine ⟨first, second, third, fourth, ⟨takes, takesToo, takesMonitor, binds⟩, ?_⟩
  simp only [open?, bound, boundToo, monitored]

/-- If all addresses of a hub are free, its sockets are opened. -/
theorem exists_open?_of_free (distinct : addresses.seats.Nodup)
    (free : ∀ address ∈ addresses.seats, ¬ net.isBound address = true) :
    ∃ sockets after, open? net addresses = (.ok sockets, after) ∧
      sockets.Opened addresses net after := by
  rcases exists_stages_of_free distinct free with ⟨first, second, third, fourth, stages, opened⟩
  have connected := Network.keepsBounds_connect fourth addresses.client.task resubmitIdentity
  have bound? := fun address => (connected.bound? address).trans (stages.bound? address)
  refine ⟨_, _, opened, ?_⟩
  constructor
  case seated =>
    refine ⟨rfl, rfl, rfl, ?_⟩
    simp only [HubAddresses.seats, List.nodup_cons, List.mem_cons, not_or] at distinct
    simp [holders, Holder.addresses, Holder.inbox, bound?, distinct]
  case new =>
    rcases stages.nextInbox with ⟨pong, monitor, last⟩
    have recent : ∀ distance < 3, net.nextInbox ≤ net.nextInbox + distance ∧
        net.nextInbox + distance <
          (Dealer.connect fourth addresses.client.task resubmitIdentity).2.nextInbox := by
      intro distance small
      have issued : net.nextInbox + distance < fourth.nextInbox :=
        last ▸ Nat.add_lt_add_left small net.nextInbox
      exact ⟨Nat.le_add_right _ _, Nat.lt_of_lt_of_le issued connected.nextInbox⟩
    simp only [holders, List.forall_mem_cons, Holder.inbox, pong, monitor]
    exact ⟨recent 1 (by decide), recent 0 (by decide), recent 2 (by decide), List.forall_mem_nil _⟩
  case others =>
    intro address stranger
    simp only [HubAddresses.seats, List.mem_cons, not_or] at stranger
    simp [bound?, stranger]

end HubSockets

/-! ## Building -/

namespace Server

variable {config : Config} {start : Site} {fault : Fault} {sockets : HubSockets} {after : Network}

theorem build_of_refused
    (refused : HubSockets.open? start.network (.ofConfig config) = (.error fault, after)) :
    build config start = (.error fault, { start with network := after }) := by
  simp only [build, refused]

/-- The endpoints of a hub's loop, in the order of registration. -/
def endpointsOf (sockets : HubSockets) : List (Reactor.Endpoint HubChannel) :=
  [{ name := "heartbeat", inbox := sockets.pong.inbox, action := .pongs },
    { name := "query", inbox := sockets.query.inbox, action := .queries },
    { name := "monitor", inbox := sockets.monitor.inbox, action := .traffic }]

/-- No endpoint of a hub is refused for the name of another one. -/
theorem add_endpointsOf (sockets : HubSockets)
    (loop : Reactor ServerState HubChannel Duty) (new : loop.endpoints = []) :
    ((endpointsOf sockets).foldlM (fun loop endpoint =>
      loop.add endpoint.name endpoint.inbox endpoint.action) loop) =
        .ok { loop with endpoints := endpointsOf sockets } := by
  simp [endpointsOf, List.foldlM, Reactor.add, new, bind, Except.bind, pure, Except.pure]

/-- What a server consists of once its sockets are open. -/
theorem exists_build_of_opened
    (opened : HubSockets.open? start.network (.ofConfig config) = (.ok sockets, after)) :
    ∃ server, build config start = (.ok server, { start with network := after }) ∧
      server.state.sockets = sockets ∧ server.endpoints = endpointsOf sockets ∧
      server.state.hub.owner.clientAddresses = (HubAddresses.ofConfig config).client ∧
      server.state.hub.owner.engineAddresses = (HubAddresses.ofConfig config).engine := by
  simp only [build, opened]
  exact ⟨_, rfl, rfl, rfl, rfl, rfl⟩

end Server

end ClusterHub

import ClusterHub.Proofs.Hub.Opening
import ClusterHub.Proofs.Reactor.Invariant

/-!
# Hubs among others

A hub is built as a whole or not at all.  Once it is built it keeps its addresses,
whatever it does itself and whatever others do with sockets of their own, until it is
closed: then just its addresses are free again, and the same hub can be built once more.
-/

namespace ClusterHub

namespace Network

theorem keepsBounds_foldl {α : Type} {step : Network → α → Network}
    (each : ∀ (net : Network) item, net.KeepsBounds (step net item)) (net : Network) (items : List α) :
    net.KeepsBounds (items.foldl step net) := by
  induction items generalizing net with
  | nil => exact .refl net
  | cons item items inductionHypothesis =>
      exact (each net item).trans (inductionHypothesis (step net item))

end Network

theorem HubSockets.keepsBounds_send (sockets : HubSockets) (net : Network) (item : Outgoing) :
    net.KeepsBounds (sockets.send net item) := by
  cases item with
  | reply recipient kind content trailing => exact Network.keepsBounds_route ..
  | notice notice => exact Network.keepsBounds_publish ..
  | resubmission task body => exact Network.keepsBounds_post ..
  | stop => exact .refl net

namespace ServerState

variable {sockets : HubSockets} {start : Network} {scene : Scene}

/-- Whether the sockets are still the same and the same inboxes are bound as at first. -/
def Stays (sockets : HubSockets) (start network : Network) (state : ServerState) : Prop :=
  state.sockets = sockets ∧ start.KeepsBounds network

/-- Whatever the hub does, it only sends. -/
theorem stays_consult {β : Type} (stays : Reactor.Scene.Meets (Stays sockets start) scene)
    (act : Hub → β × Hub) : Reactor.Scene.Meets (Stays sockets start) (consult act scene).2 := by
  let hub := (act (scene.withRest scene.rest.state.hub)).2
  have pings : ∀ (net : Network) ping, net.KeepsBounds (scene.rest.state.sockets.sendPing net ping) :=
    fun net _ => Network.keepsBounds_publish _ net _
  have pinged := Network.keepsBounds_foldl pings scene.rest.network hub.rest.pings
  have sent := Network.keepsBounds_foldl scene.rest.state.sockets.keepsBounds_send
    (hub.rest.pings.foldl scene.rest.state.sockets.sendPing scene.rest.network)
    hub.rest.owner.outbox
  exact ⟨stays.1, stays.2.trans (pinged.trans sent)⟩

theorem stays_visit (stays : Reactor.Scene.Meets (Stays sockets start) scene) (act : Hub → Hub) :
    Reactor.Scene.Meets (Stays sockets start) (visit act scene) :=
  stays_consult stays fun hub => ((), act hub)

theorem stays_handle (stays : Reactor.Scene.Meets (Stays sockets start) scene)
    (channel : HubChannel) (message : Message) :
    Reactor.Scene.Meets (Stays sockets start) (handle channel message scene) := by
  cases channel with
  | pongs => exact stays_visit stays _
  | queries => exact stays_visit stays _
  | traffic => exact stays_visit stays _
  | beacon heart => exact ⟨stays.1, stays.2.trans (Network.keepsBounds_post ..)⟩

theorem keep_stays (sockets : HubSockets) (start : Network) :
    handlers.Keep (Stays sockets start) where
  read _ _ _ _ _ received stays :=
    ⟨stays.1, stays.2.trans (Network.keepsBounds_receive received)⟩
  message channel message _ stays := stays_handle stays channel message
  timer _ _ stays := stays_visit stays _

end ServerState

/-- Whether nothing that an endpoint holds is bound. -/
def HubChannel.IsUnbound : HubChannel → Prop
  | .beacon heart => heart.pings.addresses = []
  | _ => True

theorem Heart.keepsBounds_close {heart : Heart} (unbound : heart.pings.addresses = [])
    (net : Network) : net.KeepsBounds (heart.close net) := by
  have released : heart.pings.close net = net.closeInbox heart.pings.inbox := by
    rw [Subscriber.close, unbound]
    rfl
  rw [Heart.close, released]
  exact (Network.keepsBounds_closeInbox net _).trans (Network.keepsBounds_disconnect ..)

theorem Heart.keepsBounds_connect (net : Network) (pingAddress pongAddress identity : String) :
    net.KeepsBounds (Heart.connect net pingAddress pongAddress identity).2 := by
  have listening : net.KeepsBounds (Subscriber.connect net pingAddress).2 :=
    (Network.keepsBounds_openInbox net true).trans (Network.keepsBounds_setSlot rfl)
  exact listening.trans (Network.keepsBounds_connect ..)

namespace Server

theorem keepsBounds_closeChannel {channel : HubChannel} (unbound : channel.IsUnbound)
    (net : Network) : net.KeepsBounds (closeChannel net channel) := by
  cases channel with
  | beacon heart => exact Heart.keepsBounds_close unbound net
  | _ => exact .refl net

theorem keepsBounds_closeChannels {endpoints : List (Reactor.Endpoint HubChannel)}
    (unbound : ∀ endpoint ∈ endpoints, endpoint.action.IsUnbound) (net : Network) :
    net.KeepsBounds
      (endpoints.foldl (fun net endpoint => closeChannel net endpoint.action) net) := by
  induction endpoints generalizing net with
  | nil => exact .refl net
  | cons endpoint endpoints inductionHypothesis =>
      rcases List.forall_mem_cons.mp unbound with ⟨first, rest⟩
      exact (keepsBounds_closeChannel first net).trans (inductionHypothesis rest _)

/-- A heart within a server is bound nowhere, and there is none if its name is in use. -/
theorem exists_addBeacon (server : Server) (site : Site) (identity : String) :
    ∃ (heart : Heart) (network : Network), heart.pings.addresses = [] ∧
      site.network.KeepsBounds network ∧
      ((∃ fault, server.addBeacon site identity =
          (.error fault, { site with network := heart.close network })) ∨
        server.addBeacon site identity =
          (.ok { server with
            endpoints := server.endpoints ++ [{
              name := beaconName identity
              inbox := heart.pings.inbox
              action := .beacon heart }] }, { site with network })) := by
  let advertised := server.state.hub.owner.engineAddresses
  let connection := Heart.connect site.network advertised.ping advertised.pong identity
  refine ⟨connection.1, connection.2, rfl, Heart.keepsBounds_connect .., ?_⟩
  by_cases taken : server.endpoints.any fun endpoint => endpoint.name = beaconName identity
  · refine Or.inl ⟨.duplicateEndpoint (beaconName identity), ?_⟩
    simp only [addBeacon, Reactor.add, Reactor.Parked.resume, taken, if_true]
    rfl
  · refine Or.inr ?_
    simp only [addBeacon, Reactor.add, Reactor.Parked.resume, taken]
    rfl

end Server

/-! ## A server at work -/

/-- A server, and the sockets of others that can be bound. -/
structure Tenancy where
  server : Server
  site : Site
  others : List Holder := []

namespace Tenancy

/-- Something that is done while a server is at work. -/
inductive Act
  /-- Others do something on the network, with sockets of their own. -/
  | others (act : Holdings.Act)
  | elapse (d : Duration)
  | poll (timeout : Option Duration)
  | run (fuel : Nat)
  | runFor (fuel : Nat) (limit : Duration)
  /-- The hub does something outside the loop. -/
  | visit (act : Hub → Hub)
  /-- The loop is asked to stop, or is no longer asked to. -/
  | signal (signal : StopSignal)
  | addBeacon (identity : String)
  | removeBeacon (identity : String)

/-- What a server and its site have come to, if there is an answer. -/
def settle (t : Tenancy) (result : Option (Server × Site)) : Tenancy :=
  match result with
  | none => t
  | some (server, site) => { t with server, site }

/-- What comes of an act.  A run that would go on changes nothing. -/
def perform (t : Tenancy) : Act → Tenancy
  | .others act =>
      let (_, h) := Holdings.perform ⟨t.site.network, t.others⟩ act
      { t with site.network := h.network, others := h.holders }
  | .elapse d => { t with site := t.site.elapse d }
  | .poll timeout =>
      let (_, server, site) := t.server.poll t.site timeout
      { t with server, site }
  | .run fuel => t.settle (t.server.run fuel t.site)
  | .runFor fuel limit => t.settle (t.server.runFor fuel limit t.site)
  | .visit act =>
      let (_, server, site) := t.server.visit t.site fun hub => ((), act hub)
      { t with server, site }
  | .signal signal => { t with server.signal := signal }
  | .addBeacon identity =>
      match t.server.addBeacon t.site identity with
      | (.error _, site) => { t with site }
      | (.ok server, site) => { t with server, site }
  | .removeBeacon identity =>
      let (_, server, site) := t.server.removeBeacon t.site identity
      { t with server, site }

/-- What some acts come to. -/
def run (t : Tenancy) (acts : List Act) : Tenancy := acts.foldl perform t

variable {t after : Tenancy} {addresses : HubAddresses}

/-- Whether a server holds its addresses, with inboxes that are its own. -/
structure Settled (t : Tenancy) (addresses : HubAddresses) : Prop where
  seated : t.server.state.sockets.Seated addresses t.site.network
  lacks : ∀ holder ∈ t.server.state.sockets.holders,
    Holdings.Lacks ⟨t.site.network, t.others⟩ holder.inbox
  unbound : ∀ endpoint ∈ t.server.endpoints, endpoint.action.IsUnbound

/-- What a server does by itself. -/
structure Keeps (before after : Tenancy) : Prop where
  sockets : after.server.state.sockets = before.server.state.sockets
  bounds : before.site.network.KeepsBounds after.site.network
  others : after.others = before.others
  unbound : (∀ endpoint ∈ before.server.endpoints, endpoint.action.IsUnbound) →
    ∀ endpoint ∈ after.server.endpoints, endpoint.action.IsUnbound

theorem Settled.keeps (settled : t.Settled addresses) (keeps : t.Keeps after) :
    after.Settled addresses where
  seated := by
    rw [keeps.sockets]
    exact settled.seated.mono fun holder _ address bound =>
      (keeps.bounds.bound? address).trans bound
  lacks := by
    rw [keeps.sockets, keeps.others]
    intro holder member
    exact ((settled.lacks holder member).keeps keeps.bounds).lacks
  unbound := keeps.unbound settled.unbound

/-- Others do not drive a server out. -/
theorem Settled.others (settled : t.Settled addresses) (act : Holdings.Act) :
    (t.perform (.others act)).Settled addresses := by
  have spares := fun holder member => (settled.lacks holder member).perform act
  constructor
  case seated =>
    exact settled.seated.mono fun holder member => (spares holder member).bound?
  case lacks => exact fun holder member => (spares holder member).lacks
  case unbound => exact settled.unbound

/-- A server that was given its loop back has done what its loop has done. -/
theorem keeps_park {loop : Reactor ServerState HubChannel Duty}
    (meets : loop.scene.Meets (ServerState.Stays t.server.state.sockets t.site.network))
    (actions : loop.actions = (t.server.resume t.site).actions) :
    t.Keeps { t with server := loop.park.1, site := loop.park.2 } where
  sockets := meets.1
  bounds := meets.2
  others := rfl
  unbound unbound := by
    have same : ∀ channel ∈ t.server.endpoints.map Reactor.Endpoint.action, channel.IsUnbound :=
      List.forall_mem_map.mpr unbound
    have still : ∀ channel ∈ loop.actions, channel.IsUnbound := actions ▸ same
    exact List.forall_mem_map.mp still

theorem keeps_addBeacon (t : Tenancy) (identity : String) :
    t.Keeps (t.perform (.addBeacon identity)) := by
  rcases t.server.exists_addBeacon t.site identity with
    ⟨heart, network, unbound, connected, ⟨fault, refused⟩ | added⟩
  · simp only [Tenancy.perform, refused]
    exact ⟨rfl, connected.trans (Heart.keepsBounds_close unbound network), rfl, id⟩
  · simp only [Tenancy.perform, added]
    refine ⟨rfl, connected, rfl, fun others => ?_⟩
    exact List.forall_mem_append.mpr ⟨others, List.forall_mem_singleton.mpr unbound⟩

theorem keeps_removeBeacon (unbound : ∀ endpoint ∈ t.server.endpoints, endpoint.action.IsUnbound)
    (identity : String) : t.Keeps (t.perform (.removeBeacon identity)) := by
  simp only [Tenancy.perform, Server.removeBeacon, List.partition_eq_filter_filter]
  constructor
  case sockets => rfl
  case bounds =>
    exact Server.keepsBounds_closeChannels
      (fun endpoint member => unbound endpoint (List.mem_of_mem_filter member)) _
  case others => rfl
  case unbound => exact fun _ endpoint member => unbound endpoint (List.mem_of_mem_filter member)

theorem Settled.settle (settled : t.Settled addresses) {result : Option (Server × Site)}
    (keeps : ∀ server site, result = some (server, site) → t.Keeps { t with server, site }) :
    (t.settle result).Settled addresses := by
  cases result with
  | none => exact settled
  | some answer => exact settled.keeps (keeps answer.1 answer.2 rfl)

/-- A server holds its addresses after each act. -/
theorem Settled.perform (settled : t.Settled addresses) (act : Act) :
    (t.perform act).Settled addresses := by
  have start : (t.server.resume t.site).scene.Meets
      (ServerState.Stays t.server.state.sockets t.site.network) := ⟨rfl, .refl _⟩
  have keep := ServerState.keep_stays t.server.state.sockets t.site.network
  cases act with
  | others act => exact settled.others act
  | elapse d => exact settled.keeps ⟨rfl, .refl _, rfl, id⟩
  | poll timeout =>
      exact settled.keeps (keeps_park (Reactor.meets_poll keep start timeout)
        (Reactor.actions_poll _ timeout _))
  | run fuel =>
      refine settled.settle fun server site ran => ?_
      rcases Option.map_eq_some_iff.mp ran with ⟨loop, within, parked⟩
      cases parked
      exact keeps_park (Reactor.meets_runWithin keep start within)
        (Reactor.actions_runWithin within)
  | runFor fuel limit =>
      refine settled.settle fun server site ran => ?_
      rcases Option.map_eq_some_iff.mp ran with ⟨loop, within, parked⟩
      cases parked
      exact keeps_park (Reactor.meets_runFor keep start within) (Reactor.actions_runFor within)
  | visit act =>
      exact settled.keeps (keeps_park (ServerState.stays_visit start act) rfl)
  | signal signal => exact settled.keeps ⟨rfl, .refl _, rfl, id⟩
  | addBeacon identity => exact settled.keeps (keeps_addBeacon t identity)
  | removeBeacon identity => exact settled.keeps (keeps_removeBeacon settled.unbound identity)

theorem Settled.run (settled : t.Settled addresses) (acts : List Act) :
    (t.run acts).Settled addresses := by
  induction acts generalizing t with
  | nil => exact settled
  | cons act acts inductionHypothesis => exact inductionHypothesis (settled.perform act)

end Tenancy

/-! ## All or nothing -/

namespace Server

variable {config : Config} {start site : Site} {server : Server} {fault : Fault}

/-- The addresses that a hub with some settings takes. -/
abbrev seats (config : Config) : List String := (HubAddresses.ofConfig config).seats

/-- What it means that a hub could not be built: the first of its addresses that is taken
is named, and everything is as before. -/
structure Refused (config : Config) (start : Site) (fault : Fault) (after : Site) : Prop where
  taken : ∃ address, fault = .addressInUse address ∧
    IsFirst (fun address => start.network.isBound address = true) (seats config) address
  restores : start.network.Restores after.network
  now : after.now = start.now

/-- What it means that a hub was built: it took just its addresses, it reads what comes in
where it tells clients and engines to send, and nothing else was to fail. -/
structure Built (config : Config) (start : Site) (server : Server) (after : Site) : Prop where
  free : ∀ address ∈ seats config, ¬ start.network.isBound address = true
  isBound_iff : ∀ address, after.network.isBound address = true ↔
    start.network.isBound address = true ∨ address ∈ seats config
  others : ∀ address, address ∉ seats config →
    after.network.bound? address = start.network.bound? address
  seated : server.state.sockets.Seated (.ofConfig config) after.network
  clients : after.network.bound? server.state.hub.owner.clientAddresses.registration =
    some server.state.sockets.query.inbox
  engines : after.network.bound? server.state.hub.owner.engineAddresses.registration =
    some server.state.sockets.query.inbox
  hearts : after.network.bound? server.state.hub.owner.engineAddresses.pong =
    some server.state.sockets.pong.inbox
  reads : server.endpoints = endpointsOf server.state.sockets
  /-- The endpoints can be added to any loop that has none. -/
  attached : ∀ loop : Reactor ServerState HubChannel Duty, loop.endpoints = [] →
    server.endpoints.foldlM
      (fun loop endpoint => loop.add endpoint.name endpoint.inbox endpoint.action) loop =
        .ok { loop with endpoints := server.endpoints }
  now : after.now = start.now

/-- What it means that to close a hub frees just the addresses that it has, so that it
can be built again. -/
structure Vacates (config : Config) (server : Server) (site : Site) : Prop where
  held : ∀ address ∈ seats config, site.network.isBound address = true
  bound? : ∀ address, (server.close site).network.bound? address =
    if address ∈ seats config then none else site.network.bound? address
  renewed : ∃ renewed after, build config (server.close site) = (.ok renewed, after)

/-- What it means that a hub is built as a whole or not at all. -/
structure AllOrNothing (config : Config) (start : Site) : Prop where
  apart : (seats config).Nodup
  allocated : (HubAddresses.ofConfig config).allocated =
    (List.range 13).map (HubAddresses.addressAt config)
  distinct : (HubAddresses.ofConfig config).allocated.Nodup
  refuses_iff : (∃ fault after, build config start = (.error fault, after)) ↔
    ∃ address ∈ seats config, start.network.isBound address = true
  refused : ∀ fault after, build config start = (.error fault, after) →
    Refused config start fault after
  built : ∀ server after, build config start = (.ok server, after) →
    Built config start server after
  /-- The addresses are kept until the hub is closed, whatever it does and whatever others
  do with the sockets that they have or come to have. -/
  vacates : ∀ server after, build config start = (.ok server, after) →
    ∀ others : List Holder, (∀ other ∈ others, other.inbox < start.network.nextInbox) →
      ∀ acts, let t := Tenancy.run ⟨server, after, others⟩ acts
        Vacates config t.server t.site

/-- A hub is refused if one of its addresses is taken. -/
theorem exists_refused (taken : ∃ address ∈ seats config, start.network.isBound address = true) :
    ∃ fault after, build config start = (.error fault, after) ∧
      Refused config start fault after := by
  have first : ∃ address,
      IsFirst (fun address => start.network.isBound address = true) (seats config) address := by
    rcases taken with ⟨_, member, bound⟩
    exact exists_isFirst member bound
  rcases first with ⟨address, first⟩
  rcases HubSockets.open?_of_taken (HubAddresses.nodup_seats config) first with
    ⟨network, refused, restores⟩
  exact ⟨_, _, build_of_refused refused, ⟨address, rfl, first⟩, restores, rfl⟩

/-- A hub is built if all of its addresses are free. -/
theorem exists_built
    (free : ∀ address ∈ seats config, ¬ start.network.isBound address = true) :
    ∃ server after, build config start = (.ok server, after) ∧
      Built config start server after ∧
      server.state.sockets.Opened (.ofConfig config) start.network after.network := by
  rcases HubSockets.exists_open?_of_free (HubAddresses.nodup_seats config) free with
    ⟨sockets, network, done, opened⟩
  rcases exists_build_of_opened done with ⟨server, built, rfl, reads, clients, engines⟩
  have seated := opened.seated
  refine ⟨server, _, built, ?_, opened⟩
  constructor
  case free => exact free
  case isBound_iff =>
    intro address
    by_cases seat : address ∈ seats config
    · simp only [seated.isBound_of_mem seat, seat, or_true]
    · simp only [Network.isBound_iff, opened.others address seat, seat, or_false]
  case others => exact opened.others
  case seated => exact seated
  case clients =>
    rw [clients]
    exact seated.bound?_registration
  case engines =>
    rw [engines]
    exact seated.bound?_registration
  case hearts =>
    rw [engines]
    exact seated.bound?_pong
  case reads => exact reads
  case attached =>
    intro loop new
    rw [reads]
    exact add_endpointsOf _ loop new
  case now => rfl

/-- A hub that was just built holds its addresses, and no inbox of it belongs to others. -/
theorem settled_of_opened
    (opened : server.state.sockets.Opened (.ofConfig config) start.network site.network)
    (reads : server.endpoints = endpointsOf server.state.sockets) {others : List Holder}
    (earlier : ∀ other ∈ others, other.inbox < start.network.nextInbox) :
    Tenancy.Settled ⟨server, site, others⟩ (.ofConfig config) where
  seated := opened.seated
  lacks holder member := by
    rcases opened.new holder member with ⟨late, issued⟩
    refine ⟨issued, fun other present => ?_⟩
    exact Nat.ne_of_lt (Nat.lt_of_lt_of_le (earlier other present) late)
  unbound := by
    rw [reads]
    simp [endpointsOf, HubChannel.IsUnbound]

/-- To close a hub that holds its addresses frees them, and it can be built again. -/
theorem vacates_of_settled {t : Tenancy} (settled : t.Settled (.ofConfig config)) :
    Vacates config t.server t.site := by
  have closed : ∀ address, (t.server.close t.site).network.bound? address =
      if address ∈ seats config then none else t.site.network.bound? address := by
    intro address
    have rest := keepsBounds_closeChannels settled.unbound
      (t.server.state.sockets.close t.site.network)
    exact (rest.bound? address).trans (settled.seated.bound?_close address)
  have free : ∀ address ∈ seats config,
      ¬ (t.server.close t.site).network.isBound address = true := by
    intro address seat
    simp [Network.isBound_iff, closed, seat]
  constructor
  case held => exact fun address => settled.seated.isBound_of_mem
  case bound? => exact closed
  case renewed =>
    rcases exists_built free with ⟨renewed, after, built, _⟩
    exact ⟨renewed, after, built⟩

/-- While a hub is there no other one can be built, whatever ports that one is given. -/
theorem exists_refused_of_settled {t : Tenancy} {addresses : HubAddresses}
    (settled : t.Settled addresses) (other : Config) :
    ∃ fault after, build other t.site = (.error fault, after) ∧
      Refused other t.site fault after := by
  have shared : HubAddresses.localMonitor ∈ seats other := by simp [HubAddresses.seats]
  have held : HubAddresses.localMonitor ∈ addresses.seats := by simp [HubAddresses.seats]
  exact exists_refused ⟨HubAddresses.localMonitor, shared, settled.seated.isBound_of_mem held⟩

/-- A hub takes all of its addresses or none, and gives them back when it is closed. -/
theorem allOrNothing_build (config : Config) (start : Site) : AllOrNothing config start := by
  have apart := HubAddresses.nodup_seats config
  have allocated := HubAddresses.allocated_ofConfig config
  have distinct := HubAddresses.nodup_allocated config
  by_cases taken : ∃ address ∈ seats config, start.network.isBound address = true
  · rcases exists_refused taken with ⟨fault, after, outcome, refused⟩
    refine ⟨apart, allocated, distinct, ⟨fun _ => taken, fun _ => ⟨fault, after, outcome⟩⟩,
      ?refused, ?built, ?vacates⟩
    case refused =>
      intro other site same
      cases outcome.symm.trans same
      exact refused
    case built =>
      intro server site success
      cases outcome.symm.trans success
    case vacates =>
      intro server site success
      cases outcome.symm.trans success
  · have free : ∀ address ∈ seats config, ¬ start.network.isBound address = true :=
      fun address seat bound => taken ⟨address, seat, bound⟩
    rcases exists_built free with ⟨server, after, outcome, built, opened⟩
    refine ⟨apart, allocated, distinct, ⟨?fails, fun some => absurd some taken⟩,
      ?refused, ?built, ?vacates⟩
    case fails =>
      rintro ⟨fault, site, failure⟩
      cases outcome.symm.trans failure
    case refused =>
      intro fault site failure
      cases outcome.symm.trans failure
    case built =>
      intro other site same
      cases outcome.symm.trans same
      exact built
    case vacates =>
      intro other site same others earlier acts
      cases outcome.symm.trans same
      exact vacates_of_settled ((settled_of_opened opened built.reads earlier).run acts)

/-- Somebody is bound at an address that a hub sets aside and does not take. -/
def besideHub : Holdings := Holdings.run {} [.bind .router "tcp://127.0.0.1:65530"]

/-- The ports of the hub go on with zero, and the other socket is closed before it. -/
theorem allOrNothing_build_of_wrap :
    let config : Config := { startPort := 65530 }
    let start : Site := { network := besideHub.network }
    seats config =
      ["tcp://127.0.0.1:6", "tcp://127.0.0.1:65531", "tcp://127.0.0.1:4", "inproc://monitor"] ∧
    ∃ server after, build config start = (.ok server, after) ∧
      Built config start server after ∧
      let t := Tenancy.run ⟨server, after, besideHub.holders⟩ [.poll (some 0), .others (.close 0)]
      Vacates config t.server t.site := by
  intro config start
  have whole := allOrNothing_build config start
  have free : ¬ ∃ address ∈ seats config, start.network.isBound address = true := by
    decide +kernel
  have earlier : ∀ other ∈ besideHub.holders, other.inbox < start.network.nextInbox := by
    decide +kernel
  refine ⟨by decide +kernel, ?_⟩
  match outcome : build config start with
  | (.error fault, after) => exact absurd (whole.refuses_iff.mp ⟨fault, after, outcome⟩) free
  | (.ok server, after) =>
      exact ⟨server, after, rfl, whole.built server after outcome,
        whole.vacates server after outcome besideHub.holders earlier _⟩

end Server

end ClusterHub

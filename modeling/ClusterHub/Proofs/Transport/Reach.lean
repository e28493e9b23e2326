import ClusterHub.Proofs.Transport.Exchange

/-!
# Who is reached

A router that is bound at one address sends to the dealer that connected there last
under the identity, as long as no dealer of that identity disconnects from the
address.  A dealer that disconnects takes the place of its identity with it, whoever
has it: from then on nobody is reached under the identity until a dealer connects
under it again, even if one that connected later is still there.
-/

namespace ClusterHub

theorem Frame.ofText_injective : Function.Injective Frame.ofText := by
  intro text other same
  have read := congrArg String.fromUTF8? same
  simpa using read

namespace Exchange

variable {ex after : Exchange} {act : Act} {acts : List Act} {address identity : String}

/-- Whether an act disconnects a dealer that is connected to an address under an
identity. -/
def Disconnects (ex : Exchange) (address identity : String) (act : Act) : Prop :=
  ∃ position dealer, act = .disconnect position ∧ ex.dealers[position]? = some dealer ∧
    dealer.IsAt address identity

/-- Whether one of some acts does. -/
def EverDisconnects (ex : Exchange) (address identity : String) (acts : List Act) : Prop :=
  ∃ past act later, acts = past ++ act :: later ∧
    (ex.run past).Disconnects address identity act

theorem everDisconnects_cons :
    ex.EverDisconnects address identity (act :: acts) ↔
      ex.Disconnects address identity act ∨
        (ex.perform act).EverDisconnects address identity acts := by
  constructor
  · rintro ⟨past, other, later, split, disconnects⟩
    cases past with
    | nil =>
        cases split
        exact Or.inl disconnects
    | cons first past =>
        cases split
        exact Or.inr ⟨past, other, later, rfl, disconnects⟩
  · rintro (disconnects | ⟨past, other, later, rfl, disconnects⟩)
    · exact ⟨[], act, acts, rfl, disconnects⟩
    · exact ⟨act :: past, other, later, rfl, disconnects⟩

/-- The inbox that is reached under an identity at an address. -/
def reached? (ex : Exchange) (address identity : String) : Option InboxId :=
  ex.network.peer? address (.ofText identity)

/-- An act that neither connects nor disconnects a dealer of an identity leaves it as
it is who is reached. -/
theorem Effect.reached? (effect : Effect ex act after) (new : act ≠ .connect address identity)
    (keeps : ¬ ex.Disconnects address identity act) :
    after.reached? address identity = ex.reached? address identity := by
  unfold Exchange.reached?
  cases effect with
  | connects other name =>
      rw [Network.peer?_connect, if_neg]
      rintro ⟨rfl, same⟩
      rw [Frame.ofText_injective same] at new
      exact new rfl
  | disconnects stands =>
      rw [Network.peer?_close, if_neg]
      exact fun here => keeps ⟨_, _, rfl, stands, here⟩
  | opens places => exact places.peer? ..
  | closes places closed =>
      rw [closed]
      exact places.peer? ..
  | keeps places => exact places.peer? ..

theorem reached?_connect (ex : Exchange) (address identity : String) :
    (ex.perform (.connect address identity)).reached? address identity =
      some ex.network.nextInbox := by
  change (Dealer.connect ex.network address identity).2.peer? address (.ofText identity) = _
  rw [Network.peer?_connect, if_pos ⟨rfl, rfl⟩]

/-- When a dealer of an identity disconnects, nobody is reached. -/
theorem reached?_of_disconnects (disconnects : ex.Disconnects address identity act) :
    (ex.perform act).reached? address identity = none := by
  rcases disconnects with ⟨position, dealer, rfl, stands, here⟩
  simp only [perform, stands, reached?]
  rw [Network.peer?_close]
  exact if_pos here

/-- Who is reached stays so as long as no dealer of the identity connects or
disconnects. -/
theorem reached?_run (sound : ex.Sound) (new : .connect address identity ∉ acts)
    (undisturbed : ¬ ex.EverDisconnects address identity acts) :
    (ex.run acts).reached? address identity = ex.reached? address identity := by
  induction acts generalizing ex with
  | nil => rfl
  | cons act acts inductionHypothesis =>
      rw [everDisconnects_cons, not_or] at undisturbed
      rw [List.mem_cons, not_or] at new
      exact (inductionHypothesis (sound.perform act) new.2 undisturbed.2).trans
        ((effect_perform sound.reachesPeers act).reached? (Ne.symm new.1) undisturbed.1)

/-- Where nobody is reached, nobody is until a dealer of the identity connects. -/
theorem reached?_run_of_none (sound : ex.Sound) (new : .connect address identity ∉ acts)
    (nobody : ex.reached? address identity = none) :
    (ex.run acts).reached? address identity = none := by
  induction acts generalizing ex with
  | nil => exact nobody
  | cons act acts inductionHypothesis =>
      rw [List.mem_cons, not_or] at new
      apply inductionHypothesis (sound.perform act) new.2
      by_cases disconnects : ex.Disconnects address identity act
      · exact reached?_of_disconnects disconnects
      · exact ((effect_perform sound.reachesPeers act).reached? (Ne.symm new.1)
          disconnects).trans nobody

theorem reached?_run_of_disturbed (sound : ex.Sound) (new : .connect address identity ∉ acts)
    (disturbed : ex.EverDisconnects address identity acts) :
    (ex.run acts).reached? address identity = none := by
  rcases disturbed with ⟨past, act, later, rfl, disconnects⟩
  rw [run_append, run_cons]
  refine reached?_run_of_none ((sound.run past).perform act) ?_ (reached?_of_disconnects disconnects)
  exact fun member => new (List.mem_append_right _ (List.mem_cons_of_mem _ member))

/-! ## Sending -/

/-- What it means that a message reaches a dealer: it goes into its inbox without the
identity, and into no other. -/
structure Delivers (net : Network) (router : Router) (dealer : Dealer) (message : Message) :
    Prop where
  accepted : (router.send net (message.pushFront dealer.identity)).1 = .ok ()
  received : (router.send net (message.pushFront dealer.identity)).2.waiting dealer.inbox =
    net.waiting dealer.inbox ++ [message]
  others : ∀ inbox, inbox ≠ dealer.inbox →
    (router.send net (message.pushFront dealer.identity)).2.waiting inbox = net.waiting inbox

/-- What it means that nobody is reached under an identity: there is a fault, and
nothing happens. -/
def Refuses (net : Network) (router : Router) (identity : Frame) (message : Message) : Prop :=
  router.send net (message.pushFront identity) =
    (.error (.peerUnreachable (Text.lossy identity)), net)

variable {net : Network} {router : Router} {dealer : Dealer} {message : Message}

theorem refuses_of_none {identity : Frame} (alone : router.addresses = [address])
    (nobody : net.peer? address identity = none) : Refuses net router identity message := by
  unfold Network.peer? at nobody
  simp only [Refuses, Router.send, Message.popFront?_pushFront, alone, Router.sendVia, nobody]

theorem delivers_of_peer (alone : router.addresses = [dealer.address])
    (reached : net.peer? dealer.address dealer.identity = some dealer.inbox)
    (opened : dealer.inbox ∈ net.inboxes) : Delivers net router dealer message := by
  rw [Std.ExtTreeMap.mem_iff_isSome_getElem?] at opened
  rcases Option.isSome_iff_exists.mp opened with ⟨box, found⟩
  unfold Network.peer? at reached
  have sent : router.send net (message.pushFront dealer.identity) =
      (.ok (), { net with
        inboxes := net.inboxes.insert dealer.inbox { box with queue := box.queue ++ [message] } }) := by
    simp only [Router.send, Message.popFront?_pushFront, alone, Router.sendVia, reached,
      Network.deliver?, found]
  constructor
  case accepted => rw [sent]
  case received => simp [sent, Network.waiting, found]
  case others =>
    intro inbox other
    simp [sent, Network.waiting, Std.ExtTreeMap.getElem?_insert, Ne.symm other]

/-- After any history, a router that is bound at one address only reaches the dealer
that connected there last under an identity exactly if no dealer of that identity
has disconnected from there since.  If no dealer of the identity is left, it
reaches nobody. -/
theorem send_outcome (history : List Act) (address identity : String) (router : Router)
    (message : Message) (alone : router.addresses = [address]) :
    let ex := run {} history
    (∀ past later, history = past ++ .connect address identity :: later →
      .connect address identity ∉ later →
      let before := run {} past
      let dealer := (Dealer.connect before.network address identity).1
      let connected := before.perform (.connect address identity)
      (¬ connected.EverDisconnects address identity later →
        dealer ∈ ex.dealers ∧ Delivers ex.network router dealer message) ∧
      (connected.EverDisconnects address identity later →
        Refuses ex.network router (.ofText identity) message)) ∧
    ((∀ dealer ∈ ex.dealers, ¬ dealer.IsAt address identity) →
      Refuses ex.network router (.ofText identity) message) := by
  intro ex
  have sound : ex.Sound := sound_empty.run history
  refine ⟨?_, ?_⟩
  · intro past later split new before dealer connected
    have soundConnected : connected.Sound :=
      (sound_empty.run past).perform (.connect address identity)
    have same : ex = connected.run later := by
      change run {} history = _
      rw [split, run_append, run_cons]
    refine ⟨?_, ?_⟩
    · intro undisturbed
      have reached : ex.reached? address identity = some dealer.inbox := by
        rw [same, reached?_run soundConnected new undisturbed]
        exact reached?_connect before address identity
      rcases sound.connected _ _ _ reached with ⟨other, member, here, named, inbox⟩
      have found : other = dealer := by
        cases other
        cases here
        cases named
        cases inbox
        rfl
      subst found
      exact ⟨member, delivers_of_peer alone reached (sound.reachesPeers _ _ _ reached)⟩
    · intro disturbed
      apply refuses_of_none alone
      rw [same]
      exact reached?_run_of_disturbed soundConnected new disturbed
  · intro gone
    apply refuses_of_none alone
    cases reached : ex.network.peer? address (.ofText identity) with
    | none => rfl
    | some inbox =>
        rcases sound.connected _ _ _ reached with ⟨dealer, member, here, named, _⟩
        exact absurd ⟨here, named⟩ (gone dealer member)

/-- A dealer connects, a router is bound, and a second dealer connects under the same
identity; then the first one disconnects. -/
theorem send_outcome_of_reconnection :
    let past : List Act := [.connect "a" "x", .bind "a"]
    let connected := run {} (past ++ [.connect "a" "x"])
    let disconnected := run {} (past ++ [.connect "a" "x", .disconnect 0])
    let deserted := run {} (past ++ [.connect "a" "x", .disconnect 0, .disconnect 0])
    let router : Router := ⟨1, ["a"]⟩
    let dealer := (Dealer.connect (run {} past).network "a" "x").1
    let message := Message.empty.pushText "hi"
    ¬ connected.EverDisconnects "a" "x" [] ∧ connected.EverDisconnects "a" "x" [.disconnect 0] ∧
      Delivers connected.network router dealer message ∧
      Refuses disconnected.network router (.ofText "x") message ∧
      Refuses deserted.network router (.ofText "x") message := by
  intro past connected disconnected deserted router dealer message
  have undisturbed : ¬ connected.EverDisconnects "a" "x" [] := by
    rintro ⟨before, act, later, split, _⟩
    cases before <;> contradiction
  have disturbed : connected.EverDisconnects "a" "x" [.disconnect 0] :=
    ⟨[], .disconnect 0, [], rfl, 0, ⟨.ofText "x", 0, "a"⟩, rfl, by decide +kernel, rfl, rfl⟩
  have nobody : deserted.dealers = [] := by decide +kernel
  refine ⟨undisturbed, disturbed, ?_, ?_, ?_⟩
  · exact (((send_outcome _ "a" "x" router message rfl).1 past [] rfl (by decide)).1
      undisturbed).2
  · exact ((send_outcome _ "a" "x" router message rfl).1 past [.disconnect 0] rfl (by decide)).2
      disturbed
  · apply (send_outcome _ "a" "x" router message rfl).2
    rw [nobody]
    nofun

/-- A dealer that has connected under the identity of another one is not reached once
the other one has disconnected, although it is there and so is the only router. -/
theorem not_delivers_of_reconnection :
    let ex := run {} [.bind "a", .connect "a" "x", .connect "a" "x", .disconnect 0]
    let router : Router := ⟨0, ["a"]⟩
    let dealer := (Dealer.connect (run {} [.bind "a", .connect "a" "x"]).network "a" "x").1
    ex.routers = [router] ∧ ex.dealers = [dealer] ∧
      (router.send ex.network ((Message.empty.pushText "hi").pushFront dealer.identity)).1 =
        .error (.peerUnreachable "x") := by
  decide +kernel

end Exchange

end ClusterHub

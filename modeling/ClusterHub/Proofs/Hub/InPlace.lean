import ClusterHub.Proofs.Hub.Handling

/-!
# Queries that are handled in place

A handler gives the hub that comes of a query, or a fault and no hub at all.
Here the same handlers are written as programs that change a hub in place, one
thing after the other, so that what was changed before a failure stays changed.
It comes to the same: whatever can fail is done before the first change.
-/

namespace ClusterHub

theorem Fault.ok_bind {α β : Type} (value : α) (next : α → Except Fault β) :
    Except.ok value >>= next = next value := rfl

theorem Fault.error_bind {α β : Type} (fault : Fault) (next : α → Except Fault β) :
    Except.error fault >>= next = Except.error fault := rfl

/-- A program that changes a hub in place and may fail on the way. -/
abbrev HubProgram (α : Type) := ExceptT Fault (StateM Hub) α

namespace HubProgram

variable {α β : Type} {hub : Hub}

/-- What a program comes to, and the hub that it leaves behind. -/
def exec (program : HubProgram α) (hub : Hub) : Except Fault α × Hub := program.run.run hub

/-- Go on with what was found, or fail. -/
def demand (found : Except Fault α) : HubProgram α := ExceptT.mk (pure found)

/-- Change the hub. -/
def change (act : Hub → Hub) : HubProgram Unit := modify act

/-- Change the registry. -/
def changeRegistry (act : Registry → Registry) : HubProgram Unit :=
  change fun hub => hub.setRegistry (act hub.registry)

/-- Change the ledger, and go on with what comes of it. -/
def changeLedger (act : Ledger → α × Ledger) : HubProgram α := do
  let (result, ledger) := act (← get).ledger
  change fun hub => hub.setLedger ledger
  return result

@[simp]
theorem exec_pure (a : α) : exec (pure a) hub = (.ok a, hub) := rfl

@[simp]
theorem exec_throw (fault : Fault) : exec (throw fault : HubProgram α) hub = (.error fault, hub) :=
  rfl

@[simp]
theorem exec_get : exec get hub = (.ok hub, hub) := rfl

@[simp]
theorem exec_change (act : Hub → Hub) : exec (change act) hub = (.ok (), act hub) := rfl

@[simp]
theorem exec_demand (found : Except Fault α) : exec (demand found) hub = (found, hub) := rfl

/-- What follows is done exactly if nothing failed before, to the hub as it was
left. -/
@[simp]
theorem exec_bind (program : HubProgram α) (next : α → HubProgram β) :
    exec (program >>= next) hub = match program.exec hub with
      | (.ok a, after) => (next a).exec after
      | (.error fault, after) => (.error fault, after) := by
  have step : exec (program >>= next) hub =
      ((ExceptT.bindCont next (program.exec hub).1).run (program.exec hub).2) := rfl
  rw [step]
  rcases program.exec hub with ⟨fault | a, after⟩ <;> rfl

@[simp]
theorem exec_changeRegistry (act : Registry → Registry) :
    exec (changeRegistry act) hub = (.ok (), hub.setRegistry (act hub.registry)) := rfl

@[simp]
theorem exec_changeLedger (act : Ledger → α × Ledger) :
    exec (changeLedger act) hub = (.ok (act hub.ledger).1, hub.setLedger (act hub.ledger).2) := rfl

variable (identity : Frame) (message : Message)

/-- Answer a query from what there is. -/
def tell {query : Type} [Payload query] (kind : QueryKind)
    (look : Hub → query → Except Fault (Answer × List Frame)) : HubProgram Unit := do
  let asked ← demand (message.payload query 2)
  let (answer, trailing) ← demand (look (← get) asked)
  change fun hub => hub.respond identity kind answer trailing

/-- Forget tasks one after the other, and add to a count those that were
known. -/
def evictEach (count : Nat) : List String → HubProgram Nat
  | [] => return count
  | id :: ids => do
      let known ← changeLedger fun ledger => ledger.evict id
      evictEach (if known then count + 1 else count) ids

/-- Forget the tasks that an order is about, and count them. -/
def forget (order : PurgeOrder) : HubProgram Nat :=
  if order.all then changeLedger Ledger.purgeAll
  else do
    let ledger := (← get).ledger
    match order.tasks.find? fun id => ledger.pending.contains id with
    | some id => throw (.taskPending id)
    | none =>
        let listed ← evictEach 0 order.tasks
        let ledger := (← get).ledger
        let ofEngines ← evictEach 0 (order.engines.flatMap fun engine =>
          (ledger.engineGroup engine ∩ ledger.completed).toList)
        return listed + ofEngines

/-- Forget completed tasks. -/
def purgeResults : HubProgram Unit := do
  let order ← demand (message.payload PurgeOrder 2)
  let purged ← forget order
  change Hub.gaugeTasks
  change fun hub => hub.respond identity .purge (.purged ⟨UInt64.ofNat purged⟩) []

/-- Send tasks again, one after the other. -/
def resubmitEach : List (String × Frame) → HubProgram Unit
  | [] => return ()
  | task :: tasks => do
      change fun hub => hub.send (.resubmission task.1 task.2)
      change fun hub => hub.setLedger (hub.ledger.markResubmitted task.1 hub.time)
      resubmitEach tasks

/-- Send completed tasks again. -/
def resubmit : HubProgram Unit := do
  let order ← demand (message.payload ResubmitOrder 2)
  let tasks ← demand ((← get).ledger.resubmittable order.tasks)
  resubmitEach tasks
  change fun hub => hub.respond identity .resubmit (.resubmitted ⟨tasks.map Prod.fst⟩) []

/-- Announce the end, and stop after some time. -/
def shutdown : HubProgram Unit := do
  let delay := (← get).config.shutdownDelay
  change fun hub =>
    hub.respond identity .shutdown (.stopping ⟨UInt64.ofNat (Duration.toMillis delay)⟩) []
  change fun hub => hub.notify .stopping
  change fun hub => (hub.assignDuty delay .stop).2

/-- Store a pending record under the next number. -/
def insertPending (registration : Registration) : HubProgram EngineId := do
  demand ((← get).registry.checkAvailable registration.heart registration.queue)
  let hub ← get
  let id := hub.registry.nextId
  changeRegistry fun r => { r with nextId := id + 1 }
  changeRegistry fun r => { r with byQueue := r.byQueue.insert registration.queue id }
  changeRegistry fun r => { r with byHeart := r.byHeart.insert registration.heart id }
  changeRegistry fun r => { r with dead := r.dead.erase registration.queue }
  changeRegistry fun r => { r with
    engines := r.engines.insert id (hub.registry.applicant registration (some identity) hub.time) }
  return id

/-- Take in an engine's request to join.  One that is refused is counted. -/
def registerEngine : HubProgram Unit := do
  let registration ← demand (message.payload Registration 2)
  match (← get).registry.checkAvailable registration.heart registration.queue with
  | .error fault =>
      change Hub.countRejection
      throw fault
  | .ok () =>
      let id ← insertPending identity registration
      if (← get).monitor.isAlive registration.heart then
        change fun hub => hub.finishRegistration registration.heart
      else
        let (handle, hub) := (← get).assignDuty (← get).config.registrationTimeout
          (.purgeStalled registration.heart)
        change fun _ => hub
        let (replaced, registry) := (← get).registry.armDeletion id handle
        changeRegistry fun _ => registry
        change fun hub => hub.disarm replaced

/-- Take in an engine's request to leave. -/
def unregisterEngine : HubProgram Unit := do
  let request ← demand (message.payload Unregistration 2)
  let record ← demand ((← get).registry.getByQueue request.queue)
  if record.isActive then
    match (← get).registry.remove record.id with
    | none => throw (.unknownEngine request.queue)
    | some (record, deletion, registry) =>
        changeRegistry fun _ => registry
        change fun hub => hub.disarm deletion
        change fun hub => hub.respond identity .unregistration (.engine ⟨record.id⟩) []
        change fun hub => hub.notify (.left record.notice)
        change Hub.gaugeEngines
  else throw (.unknownEngine request.queue)

/-- Answer a query of a given kind. -/
def answer : QueryKind → HubProgram Unit
  | .queueStatus => tell identity message .queueStatus fun hub (query : QueueQuery) => do
      let engines ← hub.resolveTargets query.targets
      return (.queues {
        engines := Json.mapOfPairs (engines.map fun engine =>
          (engine, (hub.ledger.queueState engine).toPayload query.verbose))
        unassigned := hub.ledger.unassigned.toList }, [])
  | .results => tell identity message .results fun hub (query : ResultQuery) => do
      let results ← hub.ledger.results query.tasks query.statusOnly
      return (.results results.toPayload, results.frames)
  | .history => change fun hub => hub.getHistory identity
  | .db => tell identity message .db fun hub (filter : TaskFilter) =>
      .ok (.tasks ⟨hub.ledger.query filter⟩, [])
  | .purge => purgeResults identity message
  | .load => tell identity message .load fun hub (query : LoadQuery) => do
      let engines ← hub.resolveTargets query.targets
      return (.load (Json.mapOfPairs (engines.map fun engine =>
        (engine, (hub.ledger.load engine).toPayload))), [])
  | .resubmit => resubmit identity message
  | .shutdown => shutdown identity
  | .registration => registerEngine identity message
  | .unregistration => unregisterEngine identity message
  | .connection => change fun hub => hub.connectionRequest identity

/-- Handle a message from the query socket: drop it if it cannot be read, and
tell the one who asked of a fault of their own. -/
def dispatch (hub : Hub) : Hub :=
  match message.frame 0, (message.text 1).bind QueryKind.ofTag with
  | .ok identity, .ok kind =>
      match (answer identity message kind).exec (hub.countQuery kind) with
      | (.ok (), hub) => hub
      | (.error fault, hub) =>
          if fault.isUnreadable then hub
          else if fault.isCallersOwn then hub.respondFault identity kind fault
          else hub
  | _, _ => hub

/-! ## It comes to the same -/

/-- The hub that is left behind: the one that the handler gives, or else the hub
as it was, with a refused registration counted. -/
def settle (kind : QueryKind) (hub : Hub) : Except Fault Hub → Except Fault Unit × Hub
  | .ok after => (.ok (), after)
  | .error fault =>
      (.error fault,
        if kind = .registration ∧ fault.isCallersOwn then hub.countRejection else hub)

variable {identity message}

theorem settle_error {kind : QueryKind} {fault : Fault} (other : kind ≠ .registration) :
    settle kind hub (.error fault) = (.error fault, hub) := by
  rw [settle, if_neg fun both => other both.1]

theorem exec_tell {query : Type} [Payload query] {kind : QueryKind}
    (other : kind ≠ .registration) (look : Hub → query → Except Fault (Answer × List Frame)) :
    (tell identity message kind look).exec hub = settle kind hub (do
      let asked ← message.payload query 2
      let (answer, trailing) ← look hub asked
      return hub.respond identity kind answer trailing) := by
  simp only [tell, exec_bind, exec_demand, exec_get]
  cases message.payload query 2 with
  | error fault => exact (settle_error other).symm
  | ok asked =>
      simp only [Fault.ok_bind]
      cases look hub asked with
      | error fault => exact (settle_error other).symm
      | ok told => rfl

theorem exec_evictEach (count : Nat) (ids : List String) :
    (evictEach count ids).exec hub =
      let (forgotten, ledger) := ids.foldl (fun (count, l) id =>
        let (known, l) := Ledger.evict l id
        (if known then count + 1 else count, l)) (count, hub.ledger)
      (.ok forgotten, hub.setLedger ledger) := by
  induction ids generalizing count hub with
  | nil => rfl
  | cons id ids inductionHypothesis =>
      simp only [evictEach, exec_bind, exec_changeLedger, inductionHypothesis, List.foldl_cons]
      rfl

theorem exec_purgeResults :
    (purgeResults identity message).exec hub =
      settle .purge hub (hub.purgeResults identity message) := by
  simp only [purgeResults, Hub.purgeResults, exec_bind, exec_demand]
  cases message.payload PurgeOrder 2 with
  | error fault => rfl
  | ok order =>
      rw [Fault.ok_bind]
      cases all : order.all with
      | true =>
          simp only [forget, all, ↓reduceIte]
          rfl
      | false =>
          simp only [forget, all, Bool.false_eq_true, ↓reduceIte, exec_bind, exec_get, Ledger.purge]
          cases order.tasks.find? fun id => hub.ledger.pending.contains id with
          | some id => rfl
          | none =>
              simp only [exec_bind, exec_evictEach]
              rfl

theorem exec_resubmitEach (tasks : List (String × Frame)) :
    (resubmitEach tasks).exec hub = (.ok (), tasks.foldl Hub.resubmitTask hub) := by
  induction tasks generalizing hub with
  | nil => rfl
  | cons task tasks inductionHypothesis =>
      simp only [resubmitEach, exec_bind, exec_change, inductionHypothesis]
      rfl

theorem exec_resubmit :
    (resubmit identity message).exec hub =
      settle .resubmit hub (hub.resubmit identity message) := by
  simp only [resubmit, Hub.resubmit, exec_bind, exec_demand, exec_get]
  cases message.payload ResubmitOrder 2 with
  | error fault => rfl
  | ok order =>
      rw [Fault.ok_bind]
      simp only
      cases hub.ledger.resubmittable order.tasks with
      | error fault => rfl
      | ok tasks =>
          simp only [exec_resubmitEach, exec_change]
          rfl

theorem exec_insertPending (registration : Registration) :
    (insertPending identity registration).exec hub =
      match hub.registry.insertPending registration (some identity) hub.time with
      | .ok (id, registry) => (.ok id, hub.setRegistry registry)
      | .error fault => (.error fault, hub) := by
  simp only [insertPending, Registry.insertPending, exec_bind, exec_get, exec_demand]
  cases hub.registry.checkAvailable registration.heart registration.queue <;> rfl

/-- A registration is refused for an identity that is taken only. -/
theorem isCallersOwn_of_checkAvailable {r : Registry} {heart queue : String} {fault : Fault}
    (refused : r.checkAvailable heart queue = .error fault) : fault.isCallersOwn := by
  unfold Registry.checkAvailable at refused
  split at refused
  · cases refused
    rfl
  · split at refused
    · cases refused
      rfl
    · contradiction

/-- A payload that is missing or cannot be read. -/
theorem isUnreadable_of_payload {α : Type} [Payload α] {index : Nat} {fault : Fault}
    (unread : message.payload α index = .error fault) : fault.isUnreadable := by
  unfold Message.payload Message.frame at unread
  cases stands : message.frames[index]? with
  | none =>
      simp only [stands, Fault.error_bind] at unread
      cases unread
      rfl
  | some frame =>
      simp only [stands, Fault.ok_bind] at unread
      split at unread
      · contradiction
      · cases unread
        rfl

/-- No fault is of both classes. -/
theorem not_isCallersOwn_of_isUnreadable {fault : Fault} (unreadable : fault.isUnreadable) :
    fault.isCallersOwn = false := by
  cases fault <;> first | rfl | contradiction

theorem exec_registerEngine :
    (registerEngine identity message).exec hub =
      settle .registration hub (hub.registerEngine identity message) := by
  simp only [registerEngine, Hub.registerEngine, exec_bind, exec_demand, exec_get]
  cases read : message.payload Registration 2 with
  | error fault =>
      have foreign := not_isCallersOwn_of_isUnreadable (isUnreadable_of_payload read)
      simp [settle, Fault.error_bind, foreign]
  | ok registration =>
      rw [Fault.ok_bind]
      simp only
      cases free : hub.registry.checkAvailable registration.heart registration.queue with
      | error fault =>
          rw [Registry.insertPending_of_refused free, Fault.error_bind]
          have own := isCallersOwn_of_checkAvailable free
          simp [settle, own]
      | ok =>
          obtain ⟨⟨id, registry⟩, inserted⟩ : ∃ inserted,
              hub.registry.insertPending registration (some identity) hub.time = .ok inserted := by
            rw [Registry.insertPending, free]
            exact ⟨_, rfl⟩
          simp only [exec_bind, exec_insertPending, exec_get, inserted, Fault.ok_bind]
          split <;> rfl

theorem exec_unregisterEngine :
    (unregisterEngine identity message).exec hub =
      settle .unregistration hub (hub.unregisterEngine identity message) := by
  simp only [unregisterEngine, Hub.unregisterEngine, exec_bind, exec_demand, exec_get]
  cases message.payload Unregistration 2 with
  | error fault => rfl
  | ok request =>
      rw [Fault.ok_bind]
      simp only
      cases hub.registry.getByQueue request.queue with
      | error fault => rfl
      | ok record =>
          simp only [Fault.ok_bind]
          split
          · simp only [exec_bind, exec_get]
            cases hub.registry.remove record.id <;> rfl
          · rfl

/-- A query that is handled in place leaves behind the hub that its handler gives,
and if it fails, the hub as it was. -/
theorem exec_answer (hub : Hub) (identity : Frame) (message : Message) (kind : QueryKind) :
    (answer identity message kind).exec hub =
      settle kind hub (hub.answerQuery identity message kind) := by
  cases kind with
  | queueStatus =>
      refine (exec_tell (by decide) _).trans (congrArg (settle .queueStatus hub) ?_)
      simp only [Hub.answerQuery, Hub.queueStatus]
      cases message.payload QueueQuery 2 with
      | error fault => rfl
      | ok query =>
          simp only [Fault.ok_bind]
          cases hub.resolveTargets query.targets <;> rfl
  | results =>
      refine (exec_tell (by decide) _).trans (congrArg (settle .results hub) ?_)
      simp only [Hub.answerQuery, Hub.getResults]
      cases message.payload ResultQuery 2 with
      | error fault => rfl
      | ok query =>
          simp only [Fault.ok_bind]
          cases hub.ledger.results query.tasks query.statusOnly <;> rfl
  | history => rfl
  | db =>
      refine (exec_tell (by decide) _).trans (congrArg (settle .db hub) ?_)
      simp only [Hub.answerQuery, Hub.listTasks]
      cases message.payload TaskFilter 2 <;> rfl
  | purge => exact exec_purgeResults
  | load =>
      refine (exec_tell (by decide) _).trans (congrArg (settle .load hub) ?_)
      simp only [Hub.answerQuery, Hub.checkLoad]
      cases message.payload LoadQuery 2 with
      | error fault => rfl
      | ok query =>
          simp only [Fault.ok_bind]
          cases hub.resolveTargets query.targets <;> rfl
  | resubmit => exact exec_resubmit
  | shutdown => rfl
  | registration => exact exec_registerEngine
  | unregistration => exact exec_unregisterEngine
  | connection => rfl

/-- It makes no difference whether queries are handled in place. -/
theorem dispatch_eq (hub : Hub) (message : Message) :
    dispatch message hub = hub.dispatchQuery message := by
  unfold dispatch Hub.dispatchQuery
  cases message.frame 0 with
  | error fault => rfl
  | ok identity =>
      cases (message.text 1).bind QueryKind.ofTag with
      | error fault => rfl
      | ok kind =>
          simp only [exec_answer]
          cases (hub.countQuery kind).answerQuery identity message kind with
          | ok after => rfl
          | error fault =>
              simp only [settle, Hub.refuse]
              cases unreadable : fault.isUnreadable with
              | true => simp [not_isCallersOwn_of_isUnreadable unreadable]
              | false => cases own : fault.isCallersOwn <;> simp

end HubProgram

end ClusterHub

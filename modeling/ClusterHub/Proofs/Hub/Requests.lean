import ClusterHub.Proofs.Hub.Answering
import ClusterHub.Proofs.Task.Purge
import ClusterHub.Proofs.Task.Retrieval
import ClusterHub.Proofs.Wire.RoundTrip

/-!
# Requests about tasks

Who asks a hub to forget tasks, or for the results of tasks, is told what the ledger makes
of the request, or which task stands in its way.
-/

namespace ClusterHub.Hub

variable {hub after : Hub} {message : Message} {identity : Frame} {kind : QueryKind}
  {fault : Fault} {ledger : Ledger} {α : Type} [Payload α] {asked : α}

/-- A message in which somebody asks for something of a kind. -/
structure IsRequest (message : Message) (identity : Frame) (kind : QueryKind) (asked : α) :
    Prop where
  sender : message.frame 0 = .ok identity
  tag : (message.text 1).bind QueryKind.ofTag = .ok kind
  payload : message.payload α 2 = .ok asked

/-- Queries are requests as they are built. -/
theorem isRequest_query [Payload.Faithful α] (identity : Frame) (kind : QueryKind) (asked : α) :
    IsRequest ((Message.query kind asked).pushFront identity) identity kind asked := by
  constructor
  case sender => rfl
  case tag =>
    have tagged : Message.text ((Message.query kind asked).pushFront identity) 1 = .ok kind.tag :=
      Message.text_eq_of_getElem? rfl
    rw [tagged]
    exact QueryKind.ofTag_tag kind
  case payload => exact Message.payload_of_getElem? rfl (Frame.payload?_ofPayload asked)

theorem dispatchQuery_of_ok (asks : IsRequest message identity kind asked)
    (done : (hub.countQuery kind).answerQuery identity message kind = .ok after) :
    hub.dispatchQuery message = after := by
  unfold dispatchQuery
  rw [asks.sender, asks.tag]
  simp only [done]

theorem dispatchQuery_of_error (asks : IsRequest message identity kind asked)
    (failed : (hub.countQuery kind).answerQuery identity message kind = .error fault) :
    hub.dispatchQuery message = (hub.countQuery kind).refuse identity kind fault := by
  unfold dispatchQuery
  rw [asks.sender, asks.tag]
  simp only [failed]

/-- A hub replies to a query.  Apart from that, its ledger and its metrics, it is as it was
before. -/
structure Replies (before after : Hub) (identity : Frame) (kind : QueryKind)
    (content : Reply Answer) (trailing : List Frame) (ledger : Ledger) : Prop where
  told : after.state.outbox = before.state.outbox ++ [.reply identity kind content trailing]
  core : after.core = { before.core with ledger }

theorem Replies.ledger_eq {content : Reply Answer} {trailing : List Frame}
    (replies : hub.Replies after identity kind content trailing ledger) :
    after.ledger = ledger :=
  congrArg Core.ledger replies.core

/-- One who asks for something impossible is told so, and nothing is changed. -/
theorem replies_of_error (asks : IsRequest message identity kind asked)
    (own : fault.isCallersOwn) (other : kind ≠ .registration)
    (failed : (hub.countQuery kind).answerQuery identity message kind = .error fault) :
    hub.Replies (hub.dispatchQuery message) identity kind (.ofFault fault) [] hub.ledger := by
  rw [dispatchQuery_of_error asks failed, refuse, if_pos own, if_neg other]
  constructor <;> rfl

variable {order : PurgeOrder} {count : Nat}

theorem purgeResults_eq (read : message.payload PurgeOrder 2 = .ok order) :
    hub.purgeResults identity message = hub.ledger.obey order >>= fun (purged, ledger) =>
      .ok ((hub.setLedger ledger).gaugeTasks.respond identity .purge
        (.purged ⟨.ofNat purged⟩) []) := by
  unfold purgeResults Ledger.obey
  rw [read]
  by_cases all : order.all = true
  · rw [if_pos all]
    exact if_pos all
  · rw [if_neg all]
    apply (if_neg all).trans
    cases hub.ledger.purge order.tasks <;> rfl

theorem replies_of_obey (asks : IsRequest message identity .purge order)
    (done : hub.ledger.obey order = .ok (count, ledger)) :
    hub.Replies (hub.dispatchQuery message) identity .purge (.ok (.purged ⟨.ofNat count⟩)) []
      ledger := by
  have answered : (hub.countQuery .purge).purgeResults identity message = .ok _ :=
    (purgeResults_eq asks.payload).trans (congrArg (· >>= _) done)
  rw [dispatchQuery_of_ok asks answered]
  constructor <;> rfl

/-- What becomes of an order to purge. -/
structure Purges (before after : Hub) (identity : Frame) (order : PurgeOrder) : Prop where
  all : order.all = true →
    before.Replies after identity .purge (.ok (.purged ⟨.ofNat before.ledger.size⟩)) [] {}
  /-- The first pending task on the list stands in the way. -/
  pending : order.all = false → ∀ id, IsFirst (· ∈ before.ledger.pending) order.tasks id →
    before.Replies after identity .purge (.ofFault (.taskPending id)) [] before.ledger
  settled : order.all = false → (∀ id ∈ order.tasks, id ∉ before.ledger.pending) →
    ∃ count, before.Replies after identity .purge (.ok (.purged ⟨.ofNat count⟩)) [] after.ledger ∧
      before.ledger.Forgets after.ledger (before.ledger.IsNamed order) count ∧
      count = {id | before.ledger.IsNamed order id}.ncard ∧
      after.ledger.pending = before.ledger.pending

/-- An order to purge forgets all tasks, exactly those that it names, or none because one
that it lists is pending; who gave it is told how many were forgotten. -/
theorem purges_of_isRequest (reached : hub.ledger.IsReached)
    (asks : IsRequest message identity .purge order) :
    hub.Purges (hub.dispatchQuery message) identity order := by
  have consistent := reached.consistent
  constructor
  case all => exact fun all => replies_of_obey asks (Ledger.obey_of_all all)
  case pending =>
    intro listed id first
    have refused : (hub.countQuery .purge).purgeResults identity message = .error _ :=
      (purgeResults_eq asks.payload).trans
        (congrArg (· >>= _) (Ledger.obey_of_pending listed first))
    exact replies_of_error asks rfl nofun refused
  case settled =>
    intro listed settled
    rcases consistent.obey_of_settled listed settled with ⟨count, ledger, done, forgets⟩
    have replies := replies_of_obey asks done
    rw [← replies.ledger_eq] at forgets
    refine ⟨count, ?_, forgets, forgets.count_eq, forgets.pending_eq consistent settled⟩
    rwa [replies.ledger_eq]

/-- A task that is listed twice, and completed tasks of an engine that is listed twice, one
of them listed as well, are forgotten and counted once. -/
theorem purges_of_overlapping_order :
    let request (id : String) : Ledger.Operation :=
      .request ⟨id, "client", some "queue", none⟩ .immediate (some 7) .empty default
    let result (id : String) : Ledger.Operation :=
      .result ⟨id, none, none, none⟩ none .empty default
    let hub := (attached {} default default 0).setLedger (Ledger.performAll {}
      [request "a", request "b", request "c", request "d", result "a", result "b", result "d"])
    let order : PurgeOrder := { tasks := ["a", "d", "nobody", "a"], engines := [7, 7, 8] }
    let message := (Message.query .purge order).pushFront (.ofText "client")
    hub.ledger.IsReached ∧ IsRequest message (.ofText "client") .purge order ∧
      (∀ id ∈ order.tasks, id ∉ hub.ledger.pending) ∧
      hub.Purges (hub.dispatchQuery message) (.ofText "client") order ∧
      (hub.dispatchQuery message).ledger.tasks.keys = ["c"] := by
  intro request result hub order message
  have reached : hub.ledger.IsReached := ⟨_, rfl⟩
  have asks := isRequest_query (.ofText "client") .purge order
  have settled : ∀ id ∈ order.tasks, id ∉ hub.ledger.pending := by decide +kernel
  exact ⟨reached, asks, settled, purges_of_isRequest reached asks, by decide +kernel⟩

/-! ## Results -/

variable {query : ResultQuery}

end ClusterHub.Hub

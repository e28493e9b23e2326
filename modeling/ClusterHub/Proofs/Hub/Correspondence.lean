import Mathlib.Data.List.Nodup
import ClusterHub.Proofs.Hub.Verdicts

/-!
# Queries and their replies

Whatever a hub says to one of those who ask it is for one of their queries.  What it
says as it handles a query is for that query; what it says to them otherwise is for a
registration whose engine has waited until then.  No query is replied to twice.
-/

namespace ClusterHub

/-- Whether a message is a reply to somebody. -/
def Outgoing.isTo (identity : Frame) : Outgoing → Bool
  | .reply recipient .. => recipient = identity
  | _ => false

namespace Outgoing

variable {identity : Frame} {item : Outgoing}

theorem isReply_of_isTo (told : item.isTo identity) : item.isReply := by
  cases item <;> first | rfl | contradiction

end Outgoing

namespace Hub

variable {hub : Hub} {event : Event} {id : EngineId} {record : EngineRecord} {identity : Frame}
  {message : Message} {item : Outgoing}

/-- Whether an event is a query of somebody. -/
def Event.isFrom (identity : Frame) : Event → Bool
  | .query message => message.frames[0]? = some identity
  | _ => false

theorem posts_of_not_isQuery (strange : ∀ identity kind, ¬ IsQuery message identity kind) :
    hub.posts (.query message) = [] := by
  have drops : Drops hub (hub.dispatchQuery message) := drops_of_not_isQuery strange
  rcases drops with ⟨metrics, same⟩
  exact posts_of_same (congrArg (fun after => after.state.outbox) same)

/-- At most one reply is put up as a query is handled, and it goes to the sender. -/
theorem replies_of_query (hub : Hub) (message : Message) :
    (hub.posts (.query message)).filter Outgoing.isReply = [] ∨
      ∃ identity kind content trailing, message.frames[0]? = some identity ∧
        (hub.posts (.query message)).filter Outgoing.isReply =
          [.reply identity kind content trailing] := by
  by_cases readable : ∃ identity kind, IsQuery message identity kind
  · rcases readable with ⟨identity, kind, query⟩
    have deals : Deals hub (hub.react (.query message)) identity kind := deals_of_isQuery query
    cases deals with
    | answered items answer trailing outbox told =>
        rw [posts_of_outbox outbox]
        exact Or.inr ⟨identity, kind, _, _, query.sender, told⟩
    | awaited outbox =>
        rw [posts_of_same outbox]
        exact Or.inl rfl
    | refused fault own outbox =>
        rw [posts_of_outbox outbox]
        exact Or.inr ⟨identity, kind, _, _, query.sender, rfl⟩
  · rw [posts_of_not_isQuery fun identity kind query => readable ⟨identity, kind, query⟩]
    exact Or.inl rfl

theorem isFrom_of_isTo (member : item ∈ hub.posts (.query message))
    (told : item.isTo identity) : (Event.query message).isFrom identity := by
  have replied := List.mem_filter.mpr ⟨member, Outgoing.isReply_of_isTo told⟩
  rcases replies_of_query hub message with none | ⟨sender, kind, content, trailing, same, only⟩
  · rw [none] at replied
    contradiction
  · rw [only, List.mem_singleton] at replied
    rw [replied] at told
    rw [of_decide_eq_true told] at same
    exact decide_eq_true same

theorem length_isTo_of_query (hub : Hub) (message : Message) (identity : Frame) :
    ((hub.posts (.query message)).filter (Outgoing.isTo identity)).length ≤ 1 := by
  have part : (hub.posts (.query message)).filter (Outgoing.isTo identity) =
      ((hub.posts (.query message)).filter Outgoing.isReply).filter (Outgoing.isTo identity) := by
    rw [List.filter_filter]
    apply List.filter_congr
    intro item _
    cases item <;> simp [Outgoing.isTo, Outgoing.isReply]
  rw [part]
  apply Nat.le_trans (List.length_filter_le ..)
  rcases replies_of_query hub message with none | ⟨_, _, _, _, _, only⟩
  · simp [none]
  · simp [only]

/-- No number is given out but to a registration. -/
theorem nextId_of_not_isRegistration (orderly : hub.Orderly)
    (other : ¬ ∃ identity registration, IsRegistration message identity registration) :
    (hub.dispatchQuery message).registry.nextId = hub.registry.nextId := by
  by_cases readable : ∃ identity kind, IsQuery message identity kind
  · rcases readable with ⟨identity, kind, query⟩
    obtain ⟨sender, tag, _⟩ := isQuery_iff.mp query
    have foreign : kind ≠ .registration := by
      rintro rfl
      rcases isRegistration_of_isQuery query with ⟨registration, asks⟩
      exact other ⟨identity, registration, asks⟩
    unfold dispatchQuery
    rw [sender, tag]
    simp only
    cases done : (hub.countQuery kind).answerQuery identity message kind with
    | ok after =>
        have same : after.registry.nextId = (hub.countQuery kind).registry.nextId :=
          nextId_answerQuery orderly.consistent foreign done
        exact same
    | error fault => exact congrArg (fun core => core.registry.nextId) (core_refuse ..)
  · have drops : Drops hub (hub.dispatchQuery message) :=
      drops_of_not_isQuery fun identity kind query => readable ⟨identity, kind, query⟩
    rcases drops with ⟨metrics, same⟩
    rw [same]
    rfl

/-- An engine that starts to wait was registered by a query that nothing is said to
at first. -/
theorem posts_of_waits (orderly : hub.Orderly) (room : hub.HasRoom (.query message))
    (waits : (hub.react (.query message)).waits hub.registry.nextId) :
    ∃ identity registration, IsRegistration message identity registration ∧
      hub.posts (.query message) = [] ∧
      (hub.react (.query message)).registry.engines[hub.registry.nextId]? =
        some (hub.awaiting registration identity) := by
  rcases waits with ⟨record, found, pending⟩
  have next := orderly_react orderly room
  have given : (hub.dispatchQuery message).registry.nextId ≠ hub.registry.nextId := by
    intro same
    have free := next.consistent.nextId_free
    rw [show (hub.react (.query message)).registry.nextId = hub.registry.nextId from same,
      found] at free
    contradiction
  have joining : ∃ identity registration, IsRegistration message identity registration :=
    Classical.byContradiction fun other => given (nextId_of_not_isRegistration orderly other)
  rcases joining with ⟨identity, registration, asks⟩
  by_cases available : hub.registry.Available registration.heart registration.queue
  · cases alive : hub.monitor.isAlive registration.heart with
    | true =>
        have core := core_dispatchQuery_of_alive orderly.consistent room asks available alive
        have active : (hub.react (.query message)).registry.engines[hub.registry.nextId]? =
            some _ := found_of_enroll (congrArg Core.registry core)
        rw [found] at active
        cases active
        contradiction
    | false =>
        have core := core_dispatchQuery_of_silent orderly.consistent asks available alive
        exact ⟨identity, registration, asks,
          posts_of_silent orderly.consistent asks available alive,
          found_of_enroll (congrArg Core.registry core)⟩
  · have same := (refuses_of_taken orderly.consistent asks available).registry
    exact absurd (congrArg Registry.nextId same) given

/-- What is said otherwise is about a registration. -/
theorem isVerdict_of_isReply (orderly : hub.Orderly) (other : ∀ message, event ≠ .query message)
    (member : item ∈ hub.posts event) (reply : item.isReply) : item.isVerdict := by
  have silent : hub.posts event = [] → item.isVerdict := by
    intro nothing
    rw [nothing] at member
    contradiction
  have beaten : hub.beats event → item.isVerdict := by
    intro beaten
    rcases posts_of_beats orderly.attentive orderly.consistent beaten with ⟨leaving, posted⟩
    rw [posted] at member
    rcases List.mem_append.mp member with greeted | left
    · rcases List.mem_flatMap.mp greeted with ⟨heart, _, greeted⟩
      unfold greetings at greeted
      cases waiting : hub.registry.waiting heart with
      | none =>
          rw [waiting] at greeted
          contradiction
      | some record =>
          rw [waiting] at greeted
          rcases List.mem_cons.mp greeted with rfl | greeted
          · contradiction
          · rcases List.mem_map.mp greeted with ⟨identity, _, rfl⟩
            rfl
    · rcases List.mem_map.mp left with ⟨record, _, rfl⟩
      contradiction
  cases event with
  | query message => exact absurd rfl (other message)
  | traffic message => exact silent (posts_traffic hub message)
  | pong message => exact silent (posts_of_same rfl)
  | elapse d => exact silent (posts_of_same rfl)
  | flush => exact silent (posts_flush hub)
  | beat => exact beaten (Or.inl rfl)
  | timer position =>
      by_cases beats : hub.beats (.timer position)
      · exact beaten beats
      · by_cases purging : ∃ entry heart, hub.timers.entries[position]? = some entry ∧
            entry.active ∧ entry.action = .own (.purgeStalled heart)
        · rcases purging with ⟨entry, heart, stands, active, due⟩
          have posted := posts_of_purge orderly.consistent stands active due
          rw [posted] at member
          cases waiting : hub.registry.waiting heart with
          | none =>
              rw [waiting] at member
              contradiction
          | some record =>
              rw [waiting] at member
              rcases List.mem_map.mp member with ⟨identity, _, rfl⟩
              rfl
        · have unpurging := fun entry heart stands active due =>
            purging ⟨entry, heart, stands, active, due⟩
          rcases posts_of_other beats unpurging with nothing | stop
          · exact silent nothing
          · rw [stop, List.mem_singleton] at member
            rw [member] at reply
            contradiction

/-- What is said about a registration that waits: nothing as long as it does, and
one reply at most. -/
theorem repliesTo_of_waits (orderly : hub.Orderly) (room : hub.HasRoom event)
    (waits : hub.waits id) :
    (hub.repliesTo id event).length ≤ 1 ∧
      ((hub.react event).waits id → hub.repliesTo id event = []) := by
  rcases waits with ⟨record, found, pending⟩
  rcases Option.isSome_iff_exists.mp (orderly.coherent.waiting found pending).1 with
    ⟨identity, asked⟩
  rcases orderly.coherent.armed found pending with ⟨entry, _, _, armed⟩
  have answers := answers_of_pending orderly room.single found pending asked armed
  have all : hub.allRepliesTo id [event] = hub.repliesTo id event := List.append_nil _
  rw [← all]
  refine ⟨?_, answers.waiting⟩
  by_cases waits : (hub.run [event]).waits id
  · rw [answers.waiting waits]
    exact Nat.zero_le 1
  · by_cases active : hub.everActive id [event]
    · rw [answers.active active]
      exact Nat.le_refl 1
    · rw [answers.gone waits active]
      exact Nat.le_refl 1

/-- An engine that waits after an event has waited before, with the same record, or
was registered in it. -/
theorem waited_of_waits (orderly : hub.Orderly) (room : hub.HasRoom event)
    (found : (hub.react event).registry.engines[id]? = some record)
    (pending : record.state = .pending) :
    hub.registry.engines[id]? = some record ∨
      ∃ message identity, event = .query message ∧ message.frames[0]? = some identity ∧
        id = hub.registry.nextId ∧ record.requester = some identity := by
  have next := orderly_react orderly room
  have waits : (hub.run [event]).waits id := ⟨record, found, pending⟩
  by_cases waited : hub.waits id
  · rcases waited with ⟨earlier, stood, waited⟩
    rcases orderly.coherent.armed stood waited with ⟨entry, _, _, armed⟩
    have same := found_run_of_waits orderly room.single stood waited armed waits
    exact Or.inl (stood.trans (same.symm.trans found))
  · have new : id = hub.registry.nextId := by
      have bound : ¬ id < hub.registry.nextId := by
        intro bound
        have settled := settled_run orderly room.single (settled_of_not_waits bound waited)
        exact not_waits_of_settled settled waits
      have given := next.consistent.fresh found
      rw [UInt32.lt_iff_toNat_lt, toNat_nextId_react orderly room] at given
      rw [UInt32.lt_iff_toNat_lt] at bound
      have one := Bool.toNat_le (hub.admits event)
      apply UInt32.toNat_inj.mp
      omega
    subst new
    by_cases asked : ∃ message, event = .query message
    · rcases asked with ⟨message, rfl⟩
      rcases posts_of_waits orderly room waits with ⟨identity, registration, asks, _, awaits⟩
      cases found.symm.trans awaits
      have readable : QueryKind.registration.canRead message := by
        simp only [QueryKind.canRead, asks.payload]
        rfl
      have query := isQuery_iff.mpr ⟨asks.sender, asks.tag, readable⟩
      exact Or.inr ⟨message, identity, rfl, query.sender, rfl, rfl⟩
    · have same := nextId_react_of_other orderly fun message same => asked ⟨message, same⟩
      have free := next.consistent.nextId_free
      rw [same, found] at free
      contradiction

/-! ## Correspondences -/

/-- What somebody has asked of a hub, and what it has said to them. -/
structure Correspondence where
  hub : Hub
  /-- How many queries there were. -/
  asked : Nat := 0
  /-- The registrations whose engines wait: the number of the engine, and which query
  it was. -/
  pending : List (EngineId × Nat) := []
  /-- What was said, oldest first, with the query that it is for. -/
  said : List (Option Nat × Outgoing) := []

namespace Correspondence

variable {c : Correspondence}

/-- Whether a message is about the registration that was given a number. -/
def concerns (hub : Hub) (event : Event) (item : Outgoing) (id : EngineId) : Bool :=
  item.acknowledges id || item.rejects && decide (hub.withdraws id event)

/-- The query that something is for that is said in an event. -/
def subject (c : Correspondence) (identity : Frame) (event : Event) (item : Outgoing) :
    Option Nat :=
  if event.isFrom identity then some c.asked
  else (c.pending.find? fun entry => concerns c.hub event item entry.1).map Prod.snd

/-- The correspondence with somebody after an event. -/
def enter (identity : Frame) (c : Correspondence) (event : Event) : Correspondence where
  hub := c.hub.react event
  asked := if event.isFrom identity then c.asked + 1 else c.asked
  pending := (if event.isFrom identity then (c.hub.registry.nextId, c.asked) :: c.pending
    else c.pending).filter fun entry => (c.hub.react event).waits entry.1
  said := c.said ++ ((c.hub.posts event).filter (Outgoing.isTo identity)).map fun item =>
    (c.subject identity event item, item)

/-- The correspondence with somebody over a history. -/
def through (identity : Frame) (hub : Hub) (history : List Event) : Correspondence :=
  history.foldl (enter identity) { hub }

/-- The queries that were replied to or are still to be replied to. -/
def subjects (c : Correspondence) : List (Option Nat) :=
  c.pending.map (fun entry => some entry.2) ++ c.said.map Prod.fst

/-- What holds of a correspondence at all times. -/
structure Sound (identity : Frame) (c : Correspondence) : Prop where
  orderly : c.hub.Orderly
  /-- The registrations of those who ask are known. -/
  known : ∀ {id : EngineId} {record : EngineRecord}, c.hub.registry.engines[id]? = some record →
    record.state = .pending → record.requester = some identity →
    ∃ number, (id, number) ∈ c.pending
  waits : ∀ entry ∈ c.pending, c.hub.waits entry.1
  /-- No query is replied to twice. -/
  once : c.subjects.Nodup
  /-- What is said is for one of the queries. -/
  asked : ∀ subject ∈ c.subjects, ∃ number < c.asked, subject = some number

/-- Nothing has been asked of a hub with which nobody has registered. -/
theorem sound_attached (identity : Frame) (attached : hub.IsAttached) : Sound identity { hub } := by
  constructor
  case orderly => exact attached.orderly
  case known =>
    intro id record found
    rcases attached with ⟨config, engineAddresses, clientAddresses, now, rfl⟩
    have absent : (∅ : Std.ExtTreeMap EngineId EngineRecord)[id]? = none :=
      Std.ExtTreeMap.getElem?_empty
    cases absent.symm.trans found
  case waits => nofun
  case once => exact List.nodup_nil
  case asked => nofun

variable {number : Nat}

/-- What is said in the course of a query is for that query. -/
theorem subject_of_isFrom (own : event.isFrom identity) (item : Outgoing) :
    c.subject identity event item = some c.asked := if_pos own

/-- What is said otherwise is for a registration whose engine waits. -/
theorem exists_subject (sound : Sound identity c) (room : c.hub.HasRoom event)
    (foreign : ¬ event.isFrom identity) (member : item ∈ c.hub.posts event)
    (told : item.isTo identity) :
    ∃ entry ∈ c.pending, concerns c.hub event item entry.1 ∧
      c.subject identity event item = some entry.2 := by
  have other : ∀ message, event ≠ .query message := by
    rintro message rfl
    exact foreign (isFrom_of_isTo member told)
  have verdict := isVerdict_of_isReply sound.orderly other member (Outgoing.isReply_of_isTo told)
  have known : ∃ entry ∈ c.pending, concerns c.hub event item entry.1 := by
    cases accounts_of_isVerdict sound.orderly room member verdict with
    | refused message _ _ _ query => exact absurd query (other message)
    | joined message _ _ query => exact absurd query (other message)
    | confirmed id record recipient found pending asked active same =>
        subst same
        cases of_decide_eq_true told
        rcases sound.known found pending asked with ⟨number, entry⟩
        exact ⟨_, entry, by simp [concerns, Outgoing.acknowledgement, Outgoing.acknowledges]⟩
    | withdrawn id record recipient found pending asked gone same =>
        subst same
        cases of_decide_eq_true told
        rcases sound.known found pending asked with ⟨number, entry⟩
        refine ⟨_, entry, ?_⟩
        simp only [concerns, gone, decide_true, Bool.and_true]
        exact Bool.or_true _
  rcases known with ⟨entry, pending, concerned⟩
  have any : (c.pending.find? fun entry => concerns c.hub event item entry.1).isSome :=
    List.find?_isSome.mpr ⟨entry, pending, concerned⟩
  rcases Option.isSome_iff_exists.mp any with ⟨entry, found⟩
  have concerned : concerns c.hub event item entry.1 := by simpa using List.find?_some found
  refine ⟨entry, List.mem_of_find?_eq_some found, concerned, ?_⟩
  rw [subject, if_neg foreign, found, Option.map_some]

theorem Sound.eq_of_number (sound : Sound identity c) {entry other : EngineId × Nat}
    (member : entry ∈ c.pending) (otherMember : other ∈ c.pending) (same : entry.2 = other.2) :
    entry = other := by
  have distinct := (List.nodup_append.mp sound.once).1
  exact List.inj_on_of_nodup_map distinct member otherMember (congrArg some same)

/-- In one event nothing is said twice for the same query. -/
theorem nodup_map_subject (sound : Sound identity c) (room : c.hub.HasRoom event)
    (foreign : ¬ event.isFrom identity) :
    (((c.hub.posts event).filter (Outgoing.isTo identity)).map
      (c.subject identity event)).Nodup := by
  have owners : ∀ item ∈ (c.hub.posts event).filter (Outgoing.isTo identity),
      ∃ entry ∈ c.pending, concerns c.hub event item entry.1 ∧
        c.subject identity event item = some entry.2 := by
    intro item member
    rcases List.mem_filter.mp member with ⟨member, told⟩
    exact exists_subject sound room foreign member told
  apply List.nodup_iff_count_le_one.mpr
  intro subject
  by_cases named : subject ∈ ((c.hub.posts event).filter (Outgoing.isTo identity)).map
      (c.subject identity event)
  · rcases List.mem_map.mp named with ⟨item, member, rfl⟩
    rcases owners item member with ⟨entry, pending, _, same⟩
    rw [same, List.count, List.countP_map]
    calc
      List.countP _ ((c.hub.posts event).filter (Outgoing.isTo identity))
        ≤ ((c.hub.posts event).filter (Outgoing.isTo identity)).countP
            fun other => concerns c.hub event other entry.1 := by
          apply List.countP_mono_left
          intro other otherMember names
          rcases owners other otherMember with ⟨otherEntry, otherPending, concerned, otherSame⟩
          have number : otherEntry.2 = entry.2 := by simpa [otherSame] using names
          rw [← sound.eq_of_number otherPending pending number]
          exact concerned
      _ ≤ (c.hub.posts event).countP fun other => concerns c.hub event other entry.1 :=
          List.Sublist.countP_le List.filter_sublist
      _ = (c.hub.repliesTo entry.1 event).length := List.countP_eq_length_filter
      _ ≤ 1 := (repliesTo_of_waits sound.orderly room (sound.waits entry pending)).1
  · rw [List.count_eq_zero_of_not_mem named]
    exact Nat.zero_le 1

/-- The subjects that are left when some engines wait no longer. -/
theorem sublist_subjects (c : Correspondence) (keep : EngineId × Nat → Bool) :
    ((c.pending.filter keep).map (fun entry => some entry.2) ++ c.said.map Prod.fst).Sublist
      c.subjects :=
  (List.filter_sublist.map _).append_right _

theorem subjects_enter (c : Correspondence) (identity : Frame) (event : Event) :
    (c.enter identity event).subjects =
      ((if event.isFrom identity then (c.hub.registry.nextId, c.asked) :: c.pending
        else c.pending).filter fun entry => (c.hub.react event).waits entry.1).map
          (fun entry => some entry.2) ++
        (c.said.map Prod.fst ++ ((c.hub.posts event).filter (Outgoing.isTo identity)).map
          (c.subject identity event)) := by
  simp only [subjects, enter, List.map_append, List.map_map]
  rfl

/-- The subjects after a query are those before and the query itself, at most once. -/
theorem once_of_isFrom (sound : Sound identity c) (room : c.hub.HasRoom event)
    (own : event.isFrom identity) : ∃ fewer : List (Option Nat),
      (c.enter identity event).subjects.Perm fewer ∧ fewer.Sublist (some c.asked :: c.subjects) := by
  cases event with
  | query message =>
      rw [subjects_enter, if_pos own]
      by_cases waits : (c.hub.react (.query message)).waits c.hub.registry.nextId
      · rcases posts_of_waits sound.orderly room waits with ⟨_, _, _, silent, _⟩
        rw [silent, List.filter_cons_of_pos (by simpa using waits)]
        exact ⟨_, .refl _, by simpa using sublist_subjects c _⟩
      · rw [List.filter_cons_of_neg (by simpa using waits)]
        have few := length_isTo_of_query c.hub message identity
        cases told : (c.hub.posts (.query message)).filter (Outgoing.isTo identity) with
        | nil => exact ⟨_, .refl _, by simpa using (sublist_subjects c _).cons _⟩
        | cons item rest =>
            rw [told] at few
            cases rest with
            | cons => simp at few
            | nil =>
                rw [List.map_cons, List.map_nil, subject_of_isFrom own, ← List.append_assoc]
                exact ⟨_, List.perm_append_singleton .., (sublist_subjects c _).cons_cons _⟩
  | _ => contradiction

/-- The subjects after another event: what is said is said of registrations that
were pending, and are no more. -/
theorem once_of_foreign (sound : Sound identity c) (room : c.hub.HasRoom event)
    (foreign : ¬ event.isFrom identity) : (c.enter identity event).subjects.Nodup := by
  rw [subjects_enter, if_neg foreign, ← List.append_assoc]
  have kept := sound.once.sublist
    (sublist_subjects c fun entry => (c.hub.react event).waits entry.1)
  refine List.nodup_append.mpr ⟨kept, nodup_map_subject sound room foreign, ?_⟩
  intro subject before other now same
  subst other
  rcases List.mem_map.mp now with ⟨item, member, rfl⟩
  rcases List.mem_filter.mp member with ⟨member, told⟩
  rcases exists_subject sound room foreign member told with ⟨entry, pending, concerned, names⟩
  rw [names] at before
  -- The registration that it is for has waited: it was not replied to before, and if it
  -- were still to wait nothing would be said to it now.
  rcases List.mem_append.mp before with left | said
  · rcases List.mem_map.mp left with ⟨other, left, number⟩
    rcases List.mem_filter.mp left with ⟨otherPending, waits⟩
    cases sound.eq_of_number otherPending pending (Option.some.inj number)
    have silent := (repliesTo_of_waits sound.orderly room (sound.waits _ pending)).2
      (of_decide_eq_true waits)
    have heard : item ∈ c.hub.repliesTo entry.1 event := List.mem_filter.mpr ⟨member, concerned⟩
    rw [silent] at heard
    contradiction
  · have apart := (List.nodup_append.mp sound.once).2.2
    exact apart _ (List.mem_map.mpr ⟨entry, pending, rfl⟩) _ said rfl

/-- What holds at all times holds after each event. -/
theorem Sound.enter (sound : Sound identity c) (room : c.hub.HasRoom event) :
    Sound identity (c.enter identity event) := by
  have early : ∀ subject ∈ c.subjects, ∃ number < c.asked + 1, subject = some number := by
    intro subject member
    rcases sound.asked subject member with ⟨number, bound, same⟩
    exact ⟨number, Nat.lt_succ_of_lt bound, same⟩
  have new : some c.asked ∉ c.subjects := by
    intro member
    rcases sound.asked _ member with ⟨number, bound, same⟩
    cases same
    exact Nat.lt_irrefl _ bound
  constructor
  case orderly => exact orderly_react sound.orderly room
  case waits =>
    intro entry member
    exact of_decide_eq_true (List.mem_filter.mp member).2
  case known =>
    intro id record found pending requested
    have waits : (c.hub.react event).waits id := ⟨record, found, pending⟩
    rcases waited_of_waits sound.orderly room found pending with
      before | ⟨message, sender, rfl, asked, rfl, asker⟩
    · rcases sound.known before pending requested with ⟨number, member⟩
      refine ⟨number, List.mem_filter.mpr ⟨?_, decide_eq_true waits⟩⟩
      split
      · exact List.mem_cons_of_mem _ member
      · exact member
    · cases requested.symm.trans asker
      have own : (Event.query message).isFrom identity := decide_eq_true asked
      refine ⟨c.asked, List.mem_filter.mpr ⟨?_, decide_eq_true waits⟩⟩
      rw [if_pos own]
      exact List.mem_cons_self
  case once =>
    by_cases own : event.isFrom identity
    · rcases once_of_isFrom sound room own with ⟨fewer, same, part⟩
      exact same.nodup_iff.mpr ((List.nodup_cons.mpr ⟨new, sound.once⟩).sublist part)
    · exact once_of_foreign sound room own
  case asked =>
    by_cases own : event.isFrom identity
    · rcases once_of_isFrom sound room own with ⟨fewer, same, part⟩
      have asked : (c.enter identity event).asked = c.asked + 1 := if_pos own
      intro subject member
      rw [asked]
      rcases List.mem_cons.mp (part.subset (same.subset member)) with rfl | member
      · exact ⟨c.asked, Nat.lt_succ_self _, rfl⟩
      · exact early subject member
    · have asked : (c.enter identity event).asked = c.asked := if_neg own
      rw [subjects_enter, if_neg own, asked]
      intro subject member
      rcases List.mem_append.mp member with left | member
      · exact sound.asked subject ((sublist_subjects c _).subset (List.mem_append_left _ left))
      · rcases List.mem_append.mp member with said | now
        · exact sound.asked subject (List.mem_append_right _ said)
        · rcases List.mem_map.mp now with ⟨item, posted, rfl⟩
          rcases List.mem_filter.mp posted with ⟨posted, told⟩
          rcases exists_subject sound room own posted told with ⟨entry, pending, _, names⟩
          rw [names]
          exact sound.asked _ (List.mem_append_left _ (List.mem_map.mpr ⟨entry, pending, rfl⟩))

/-! ## Histories -/

theorem through_append (identity : Frame) (hub : Hub) (past : List Event) (event : Event) :
    through identity hub (past ++ [event]) = (through identity hub past).enter identity event := by
  simp [through]

theorem hub_through (identity : Frame) (hub : Hub) (history : List Event) :
    (through identity hub history).hub = hub.run history := by
  suffices ∀ c : Correspondence, (history.foldl (enter identity) c).hub = c.hub.run history from
    this { hub }
  induction history with
  | nil => exact fun _ => rfl
  | cons event history inductionHypothesis => exact fun c => inductionHypothesis _

/-- What is asked and said in an event, after which what was put up is sent. -/
theorem through_append_flush (identity : Frame) (hub : Hub) (history : List Event) (event : Event) :
    let before := through identity hub history
    let after := through identity hub (history ++ [event, .flush])
    after.asked = before.asked + (event.isFrom identity).toNat ∧
      after.said = before.said ++
        (((hub.run history).posts event).filter (Outgoing.isTo identity)).map fun item =>
          (before.subject identity event item, item) := by
  intro before after
  have entered : after = (before.enter identity event).enter identity .flush := by
    change through identity hub (history ++ [event, .flush]) = _
    rw [List.append_cons, through_append, through_append]
  have silent : ((before.enter identity event).hub.posts .flush).filter
      (Outgoing.isTo identity) = [] := by
    rw [posts_flush, List.filter_nil]
  constructor
  · rw [entered]
    change (if event.isFrom identity then before.asked + 1 else before.asked) = _
    cases event.isFrom identity <;> rfl
  · rw [entered]
    change (before.enter identity event).said ++ List.map _ (List.filter _ _) = _
    rw [silent, List.map_nil, List.append_nil, ← hub_through identity]
    rfl

/-- A correspondence is sound after any history. -/
theorem sound_through (identity : Frame) (attached : hub.IsAttached) {history : List Event}
    (few : hub.admissions history < UInt32.size) :
    Sound identity (through identity hub history) := by
  suffices ∀ c : Correspondence, Sound identity c → c.hub.HasRoomFor history →
      Sound identity (history.foldl (enter identity) c) from
    this { hub } (sound_attached identity attached) (attached.hasRoomFor few)
  clear few
  induction history with
  | nil => exact fun _ sound _ => sound
  | cons event history inductionHypothesis =>
      intro c sound enough
      exact inductionHypothesis _ (sound.enter enough.head) (enough.tail sound.orderly)

end Correspondence

end Hub

end ClusterHub

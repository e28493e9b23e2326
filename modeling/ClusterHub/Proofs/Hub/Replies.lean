import ClusterHub.Proofs.Hub.Answering
import ClusterHub.Proofs.Hub.Registration

/-!
# Replies to registrations

A registration that is refused is replied to at once.  Any other is replied to
when its engine stops waiting: with its number if the engine becomes active,
and with the fault that its heart was not seen if it is withdrawn.  Nothing that
happens later makes the hub reply again, and there are no other replies to
registrations.
-/

namespace ClusterHub

namespace Outgoing

/-- Whether a message is the reply to a registration. -/
def isVerdict : Outgoing → Bool
  | .reply _ .registration _ _ => true
  | _ => false

/-- Whether a message acknowledges the registration that was given a number. -/
def acknowledges (id : EngineId) : Outgoing → Bool
  | .reply _ .registration (.ok (.engine ack)) _ => ack.id = id
  | _ => false

/-- Whether a message tells that a registration came to nothing. -/
def rejects : Outgoing → Bool
  | .reply _ .registration (.error _ _) _ => true
  | _ => false

variable {item : Outgoing} {id : EngineId}

theorem isVerdict_of_acknowledges (acknowledges : item.acknowledges id) : item.isVerdict := by
  cases item with
  | reply recipient kind content trailing =>
      cases kind <;> first | rfl | contradiction
  | _ => contradiction

theorem isReply_of_isVerdict (verdict : item.isVerdict) : item.isReply := by
  cases item <;> first | rfl | contradiction

end Outgoing

namespace EngineRecord

variable {record : EngineRecord} {item : Outgoing}

theorem eq_of_mem_greeting (member : item ∈ record.greeting) (verdict : item.isVerdict) :
    ∃ identity, record.requester = some identity ∧ item = .acknowledgement identity record.id := by
  rcases List.mem_cons.mp member with rfl | member
  · contradiction
  · rcases List.mem_map.mp member with ⟨identity, asked, rfl⟩
    exact ⟨identity, Option.mem_toList.mp asked, rfl⟩

theorem eq_of_mem_apology (member : item ∈ record.apology) :
    ∃ identity, record.requester = some identity ∧
      item = .rejection identity (Hub.stalledFault record.heart) ∧ record.apology = [item] := by
  rcases List.mem_map.mp member with ⟨identity, asked, rfl⟩
  have asked := Option.mem_toList.mp asked
  exact ⟨identity, asked, rfl, by rw [apology, Option.mem_def.mp asked]; rfl⟩

end EngineRecord

namespace Hub

variable {hub : Hub} {event : Event} {history : List Event} {id : EngineId}
  {record : EngineRecord} {identity : Frame} {message : Message} {registration : Registration}
  {item : Outgoing}

theorem posts_of_taken (consistent : hub.registry.Consistent)
    (asks : IsRegistration message identity registration)
    (taken : ¬ hub.registry.Available registration.heart registration.queue) :
    ∃ fault, (fault = .queueInUse registration.queue ∨ fault = .heartInUse registration.heart) ∧
      hub.posts (.query message) = [.rejection identity fault] := by
  rcases (refuses_of_taken consistent asks taken).told with ⟨fault, named, added⟩
  exact ⟨fault, named, posts_of_outbox added⟩

theorem posts_of_alive (consistent : hub.registry.Consistent)
    (room : hub.HasRoom (.query message)) (asks : IsRegistration message identity registration)
    (available : hub.registry.Available registration.heart registration.queue)
    (alive : hub.monitor.isAlive registration.heart = true) :
    hub.posts (.query message) =
      (hub.registry.applicant registration (some identity) hub.time).greeting := by
  have enough := room_of_available consistent room asks available
  have accepted : (hub.countQuery .registration).registerEngine identity message = .ok _ :=
    registerEngine_of_alive consistent enough asks.payload available alive
  apply posts_of_outbox
  change (hub.dispatchQuery message).state.outbox = _
  rw [dispatchQuery_of_registration asks, accepted]
  simp only [outbox_gaugeEngines, outbox_respond, outbox_notify, outbox_setRegistry,
    List.append_assoc]
  rfl

theorem posts_of_silent (consistent : hub.registry.Consistent)
    (asks : IsRegistration message identity registration)
    (available : hub.registry.Available registration.heart registration.queue)
    (silent : hub.monitor.isAlive registration.heart = false) :
    hub.posts (.query message) = [] := by
  have accepted : (hub.countQuery .registration).registerEngine identity message = .ok _ :=
    registerEngine_of_silent consistent asks.payload available silent
  apply posts_of_same
  change (hub.dispatchQuery message).state.outbox = _
  rw [dispatchQuery_of_registration asks, accepted]
  rfl

theorem isRegistration_of_isQuery (query : IsQuery message identity .registration) :
    ∃ registration, IsRegistration message identity registration := by
  obtain ⟨sender, tag, payload⟩ := isQuery_iff.mp query
  cases read : message.payload Registration 2 with
  | ok registration => exact ⟨registration, sender, tag, read⟩
  | error fault =>
      simp only [QueryKind.canRead, read] at payload
      contradiction

/-- Other queries are not replied to as registrations are. -/
theorem not_isVerdict_of_query
    (other : ¬ ∃ identity registration, IsRegistration message identity registration)
    (member : item ∈ hub.posts (.query message)) : ¬ item.isVerdict := by
  intro verdict
  by_cases readable : ∃ identity kind, IsQuery message identity kind
  · rcases readable with ⟨identity, kind, query⟩
    have foreign : kind ≠ .registration := by
      rintro rfl
      rcases isRegistration_of_isQuery query with ⟨registration, asks⟩
      exact other ⟨identity, registration, asks⟩
    have unlike : ∀ content trailing,
        ¬ (Outgoing.reply identity kind content trailing).isVerdict := by
      intro content trailing
      cases kind <;> first | contradiction | exact Bool.false_ne_true
    have deals : Deals hub _ identity kind := deals_of_isQuery query
    cases deals with
    | answered items answer trailing outbox told =>
        have posted : hub.posts (.query message) = items := posts_of_outbox outbox
        rw [posted] at member
        have replied := List.mem_filter.mpr ⟨member, Outgoing.isReply_of_isVerdict verdict⟩
        rw [told, List.mem_singleton] at replied
        exact unlike _ _ (replied ▸ verdict)
    | awaited outbox joining => exact foreign joining
    | refused fault own outbox =>
        have posted : hub.posts (.query message) = _ := posts_of_outbox outbox
        rw [posted, List.mem_singleton] at member
        exact unlike _ _ (member ▸ verdict)
  · have drops : Drops hub (hub.dispatchQuery message) :=
      drops_of_not_isQuery fun identity kind query => readable ⟨identity, kind, query⟩
    rcases drops with ⟨metrics, same⟩
    have nothing : hub.posts (.query message) = [] :=
      posts_of_same (congrArg (fun after => after.state.outbox) same)
    rw [nothing] at member
    contradiction

/-! ## All replies to registrations -/

/-- Whether an event withdraws an engine that waits. -/
def withdraws (hub : Hub) (id : EngineId) (event : Event) : Prop :=
  hub.waits id ∧ (hub.react event).registry.engines[id]? = none

instance (hub : Hub) (id : EngineId) (event : Event) : Decidable (hub.withdraws id event) :=
  inferInstanceAs (Decidable (_ ∧ _))

/-- What a reply to a registration is put up for. -/
inductive Accounts (hub : Hub) (event : Event) (item : Outgoing) : Prop
  /-- A registration is refused as it comes in. -/
  | refused (message : Message) (identity : Frame) (registration : Registration) (fault : Fault)
      (asked : event = .query message) (asks : IsRegistration message identity registration)
      (taken : ¬ hub.registry.Available registration.heart registration.queue)
      (told : item = .rejection identity fault) (only : hub.posts event = [item])
  /-- An engine becomes active as it registers. -/
  | joined (message : Message) (identity : Frame) (registration : Registration)
      (asked : event = .query message) (asks : IsRegistration message identity registration)
      (active : (hub.react event).hasActive hub.registry.nextId)
      (told : item = .acknowledgement identity hub.registry.nextId)
  /-- An engine that waits becomes active. -/
  | confirmed (id : EngineId) (record : EngineRecord) (identity : Frame)
      (found : hub.registry.engines[id]? = some record) (pending : record.state = .pending)
      (asked : record.requester = some identity) (active : (hub.react event).hasActive id)
      (told : item = .acknowledgement identity id)
  /-- An engine that waits is withdrawn. -/
  | withdrawn (id : EngineId) (record : EngineRecord) (identity : Frame)
      (found : hub.registry.engines[id]? = some record) (pending : record.state = .pending)
      (asked : record.requester = some identity) (gone : hub.withdraws id event)
      (told : item = .rejection identity (stalledFault record.heart))
      (only : hub.posts event = [item])

theorem accounts_of_query (orderly : hub.Orderly) (room : hub.HasRoom (.query message))
    (member : item ∈ hub.posts (.query message)) (verdict : item.isVerdict) :
    hub.Accounts (.query message) item := by
  by_cases joining : ∃ identity registration, IsRegistration message identity registration
  · rcases joining with ⟨identity, registration, asks⟩
    by_cases available : hub.registry.Available registration.heart registration.queue
    · cases alive : hub.monitor.isAlive registration.heart with
      | true =>
          rw [posts_of_alive orderly.consistent room asks available alive] at member
          rcases EngineRecord.eq_of_mem_greeting member verdict with ⟨sender, asked, told⟩
          cases asked
          have core := core_dispatchQuery_of_alive orderly.consistent room asks available alive
          have found : (hub.react (.query message)).registry.engines[hub.registry.nextId]? =
              some _ := found_of_enroll (congrArg Core.registry core)
          exact .joined message identity registration rfl asks ⟨_, found, rfl⟩ told
      | false =>
          rw [posts_of_silent orderly.consistent asks available alive] at member
          contradiction
    · rcases posts_of_taken orderly.consistent asks available with ⟨fault, named, told⟩
      rw [told, List.mem_singleton] at member
      exact .refused message identity registration fault rfl asks available member
        (member ▸ told)
  · exact absurd verdict (not_isVerdict_of_query joining member)

theorem accounts_of_beats (orderly : hub.Orderly) (beaten : hub.beats event)
    (member : item ∈ hub.posts event) (verdict : item.isVerdict) : hub.Accounts event item := by
  rcases posts_of_beats orderly.attentive orderly.consistent beaten with ⟨leaving, posted⟩
  rw [posted] at member
  rcases List.mem_append.mp member with greeted | left
  · rcases List.mem_flatMap.mp greeted with ⟨heart, new, greeted⟩
    unfold greetings at greeted
    cases waiting : hub.registry.waiting heart with
    | none =>
        rw [waiting] at greeted
        contradiction
    | some record =>
        rw [waiting] at greeted
        obtain ⟨found, pending, rfl⟩ :=
          (Registry.waiting_eq_some_iff orderly.consistent).mp waiting
        rcases EngineRecord.eq_of_mem_greeting greeted verdict with ⟨identity, asked, told⟩
        exact .confirmed record.id record identity found pending asked
          ⟨record.activated, found_react_of_reported orderly found pending ⟨beaten, new⟩, rfl⟩ told
  · rcases List.mem_map.mp left with ⟨record, _, rfl⟩
    contradiction

theorem accounts_of_purge (orderly : hub.Orderly) {position : Nat} {heart : String}
    {entry : TimerEntry (Reactor.Alarm Duty)}
    (stands : hub.timers.entries[position]? = some entry) (active : entry.active)
    (due : entry.action = .own (.purgeStalled heart))
    (member : item ∈ hub.posts (.timer position)) : hub.Accounts (.timer position) item := by
  have posted := posts_of_purge orderly.consistent stands active due
  rw [posted] at member
  cases waiting : hub.registry.waiting heart with
  | none =>
      rw [waiting] at member
      contradiction
  | some record =>
      rw [waiting] at member posted
      obtain ⟨found, pending, rfl⟩ := (Registry.waiting_eq_some_iff orderly.consistent).mp waiting
      rcases EngineRecord.eq_of_mem_apology member with ⟨identity, asked, told, only⟩
      have running := Timers.mem_running.mpr ⟨List.mem_of_getElem? stands, active⟩
      rcases orderly.coherent.purges running due with
        ⟨other, another, otherFound, _, named, armed⟩
      cases orderly.consistent.eq_of_heart otherFound found named
      cases otherFound.symm.trans found
      have withdrawn := registry_react_of_fired orderly found pending armed
        ⟨position, entry, rfl, stands, active, rfl⟩
      have gone := gone_of_withdraw orderly found withdrawn
      exact .withdrawn record.id record identity found pending asked
        ⟨⟨record, found, pending⟩, gone.1⟩ told (posted.trans only)

/-- There is no reply to a registration but for one that is refused, and for an
engine that becomes active or is withdrawn. -/
theorem accounts_of_isVerdict (orderly : hub.Orderly) (room : hub.HasRoom event)
    (member : item ∈ hub.posts event) (verdict : item.isVerdict) : hub.Accounts event item := by
  have silent : hub.posts event = [] → hub.Accounts event item := by
    intro nothing
    rw [nothing] at member
    contradiction
  cases event with
  | query message => exact accounts_of_query orderly room member verdict
  | traffic message => exact silent (posts_traffic hub message)
  | pong message => exact silent (posts_of_same rfl)
  | elapse d => exact silent (posts_of_same rfl)
  | flush => exact silent (posts_flush hub)
  | beat => exact accounts_of_beats orderly (Or.inl rfl) member verdict
  | timer position =>
      by_cases beaten : hub.beats (.timer position)
      · exact accounts_of_beats orderly beaten member verdict
      · by_cases purging : ∃ entry heart, hub.timers.entries[position]? = some entry ∧
            entry.active ∧ entry.action = .own (.purgeStalled heart)
        · rcases purging with ⟨entry, heart, stands, active, due⟩
          exact accounts_of_purge orderly stands active due member
        · have unpurging := fun entry heart stands active due =>
            purging ⟨entry, heart, stands, active, due⟩
          rcases posts_of_other beaten unpurging with nothing | stop
          · exact silent nothing
          · rw [stop, List.mem_singleton] at member
            rw [member] at verdict
            contradiction

/-- The replies of an event to the registration that was given a number: those that
acknowledge it, and when it is withdrawn, those that reject. -/
def repliesTo (hub : Hub) (id : EngineId) (event : Event) : List Outgoing :=
  (hub.posts event).filter fun item =>
    item.acknowledges id || item.rejects && decide (hub.withdraws id event)

/-- The replies of a history to the registration that was given a number. -/
def allRepliesTo (hub : Hub) (id : EngineId) : List Event → List Outgoing
  | [] => []
  | event :: history => hub.repliesTo id event ++ (hub.react event).allRepliesTo id history

/-- There is no reply while nothing happens to the engine. -/
theorem repliesTo_eq_nil (orderly : hub.Orderly) (room : hub.HasRoom event)
    (unconfirmed : (hub.react event).hasActive id → hub.hasActive id)
    (kept : ¬ hub.withdraws id event) : hub.repliesTo id event = [] := by
  apply List.filter_eq_nil_iff.mpr
  intro item member answers
  simp only [kept, decide_false, Bool.and_false, Bool.or_false] at answers
  cases accounts_of_isVerdict orderly room member
      (Outgoing.isVerdict_of_acknowledges answers) with
  | refused message identity registration fault asked asks taken told =>
      rw [told] at answers
      contradiction
  | joined message identity registration asked asks active told =>
      rw [told] at answers
      cases of_decide_eq_true answers
      rcases unconfirmed active with ⟨record, found, _⟩
      rw [orderly.consistent.nextId_free] at found
      contradiction
  | confirmed other record identity found pending asked active told =>
      rw [told] at answers
      cases of_decide_eq_true answers
      exact not_hasActive_of_pending found pending (unconfirmed active)
  | withdrawn other record identity found pending asked gone told =>
      rw [told] at answers
      contradiction

theorem filter_acknowledges_greeting (id : EngineId) (record : EngineRecord) :
    record.greeting.filter (Outgoing.acknowledges id) =
      if record.id = id then
        record.requester.toList.map fun identity => .acknowledgement identity id
      else [] := by
  unfold EngineRecord.greeting
  by_cases same : record.id = id
  · subst same
    rw [if_pos rfl]
    cases record.requester <;> simp [Outgoing.acknowledges, Outgoing.acknowledgement]
  · rw [if_neg same]
    cases record.requester <;> simp [Outgoing.acknowledges, Outgoing.acknowledgement, same]

theorem filter_acknowledges_greetings (consistent : hub.registry.Consistent)
    (found : hub.registry.engines[id]? = some record) (pending : record.state = .pending)
    {hearts : List String} (distinct : hearts.Nodup) :
    (hearts.flatMap hub.greetings).filter (Outgoing.acknowledges id) =
      if record.heart ∈ hearts then
        record.requester.toList.map fun identity => .acknowledgement identity id
      else [] := by
  have numbered := consistent.identified found
  induction hearts with
  | nil => rfl
  | cons heart rest inductionHypothesis =>
      rcases List.nodup_cons.mp distinct with ⟨absent, restDistinct⟩
      rw [List.flatMap_cons, List.filter_append, inductionHypothesis restDistinct]
      by_cases own : record.heart = heart
      · subst own
        rw [greetings_of_pending consistent found pending, filter_acknowledges_greeting,
          if_pos numbered, if_neg absent, if_pos List.mem_cons_self, List.append_nil]
      · have foreign : (hub.greetings heart).filter (Outgoing.acknowledges id) = [] := by
          unfold greetings
          cases waiting : hub.registry.waiting heart with
          | none => rfl
          | some other =>
              rcases (Registry.waiting_eq_some_iff consistent).mp waiting with
                ⟨otherFound, _, named⟩
              refine (filter_acknowledges_greeting id other).trans (if_neg ?_)
              rintro rfl
              cases found.symm.trans otherFound
              exact own named
        rw [foreign, List.nil_append]
        simp [own]

theorem repliesTo_of_reported (orderly : hub.Orderly)
    (found : hub.registry.engines[id]? = some record) (pending : record.state = .pending)
    (asked : record.requester = some identity) (reported : hub.reportsNew record.heart event) :
    hub.repliesTo id event = [.acknowledgement identity id] := by
  rcases posts_of_beats orderly.attentive orderly.consistent reported.1 with ⟨leaving, posted⟩
  have kept : ¬ hub.withdraws id event := by
    rintro ⟨_, gone⟩
    rw [found_react_of_reported orderly found pending reported] at gone
    contradiction
  have left : (leaving.map EngineRecord.farewell).filter (Outgoing.acknowledges id) = [] := by
    apply List.filter_eq_nil_iff.mpr
    intro item member
    rcases List.mem_map.mp member with ⟨other, _, rfl⟩
    exact Bool.false_ne_true
  unfold repliesTo
  simp only [kept, decide_false, Bool.and_false, Bool.or_false]
  change (hub.posts event).filter (Outgoing.acknowledges id) = _
  rw [posted, List.filter_append, left,
    filter_acknowledges_greetings orderly.consistent found pending hub.nodup_newHearts,
    if_pos reported.2, asked]
  rfl

/-- The registration of an engine that waits is rejected when its timer has its
turn. -/
theorem posts_of_fired {handle : TimerHandle} (orderly : hub.Orderly)
    (found : hub.registry.engines[id]? = some record) (pending : record.state = .pending)
    (asked : record.requester = some identity) (armed : record.deletion = some handle)
    (fired : hub.fires handle.ticket event) :
    hub.posts event = [.rejection identity (stalledFault record.heart)] := by
  rcases fired with ⟨position, entry, rfl, stands, active, same⟩
  rcases orderly.coherent.armed found pending with ⟨own, running, due, ownHandle⟩
  have ticket : own.ticket = handle.ticket := by
    rw [armed] at ownHandle
    exact (congrArg TimerHandle.ticket (Option.some.inj ownHandle)).symm
  have equal := orderly.coherent.ticketed.eq_of_mem (List.mem_of_getElem? stands)
    (Timers.mem_running.mp running).1 (same.trans ticket.symm)
  subst equal
  have numbered := orderly.consistent.identified found
  rw [← numbered] at found
  rw [posts_of_purge orderly.consistent stands active due,
    (Registry.waiting_eq_some_iff orderly.consistent).mpr ⟨found, pending, rfl⟩]
  change record.apology = _
  rw [EngineRecord.apology, asked]
  rfl

theorem repliesTo_of_withdraws (gone : hub.withdraws id event)
    (posted : hub.posts event = [.rejection identity (stalledFault record.heart)]) :
    hub.repliesTo id event = [.rejection identity (stalledFault record.heart)] := by
  rw [repliesTo, posted]
  simp only [gone, decide_true, Bool.and_true]
  rfl

end Hub

end ClusterHub

import ClusterHub.Engine.Registry

/-!
# Consistency of the registry

The indexes of a registry repeat what its records say: a queue and a heart
belong to at most one record.  Numbers are given out in ascending order, so a
number that was given out once is not given out again.
-/

namespace ClusterHub

/-- Numbers below the next one, before and after one was given out. -/
theorem EngineId.lt_succ_iff {id next : EngineId} (room : next.toNat + 1 < UInt32.size) :
    id < next + 1 ↔ id < next ∨ id = next := by
  rw [UInt32.lt_iff_toNat_lt, UInt32.lt_iff_toNat_lt, ← UInt32.toNat_inj, UInt32.toNat_add]
  have one : (1 : UInt32).toNat = 1 := rfl
  rw [one, Nat.mod_eq_of_lt room]
  omega

theorem EngineId.succ_ne_self (id : EngineId) : id + 1 ≠ id := by
  intro equal
  have same := congrArg UInt32.toNat equal
  rw [UInt32.toNat_add] at same
  have one : (1 : UInt32).toNat = 1 := rfl
  have bound := id.toNat_lt
  omega

/-- The record of an engine that was made active and whose requester was told. -/
def EngineRecord.activated (record : EngineRecord) : EngineRecord :=
  { record with state := .active, requester := none, deletion := none }

namespace Registry

variable {r : Registry} {id other : EngineId} {record another : EngineRecord}
  {heart queue : String}

/-- An index lists the engines under a name of theirs. -/
def Indexes (index : Std.ExtTreeMap String EngineId) (name : EngineRecord → String)
    (engines : Std.ExtTreeMap EngineId EngineRecord) : Prop :=
  ∀ text id, index[text]? = some id ↔ engines[id]?.map name = some text

namespace Indexes

variable {index : Std.ExtTreeMap String EngineId} {name : EngineRecord → String}
  {engines : Std.ExtTreeMap EngineId EngineRecord} {text : String}

theorem listed (indexes : Indexes index name engines) (found : engines[id]? = some record) :
    index[name record]? = some id := by
  rw [indexes, found]
  rfl

theorem eq_of_name (indexes : Indexes index name engines) (found : engines[id]? = some record)
    (otherFound : engines[other]? = some another) (same : name record = name another) :
    id = other := by
  have first := indexes.listed found
  rw [same, indexes.listed otherFound] at first
  exact (Option.some.inj first).symm

theorem eq_none (indexes : Indexes index name engines)
    (free : ∀ (id : EngineId) (record : EngineRecord), engines[id]? = some record →
      name record ≠ text) :
    index[text]? = none := by
  cases listed : index[text]? with
  | none => rfl
  | some id =>
      rcases Option.map_eq_some_iff.mp ((indexes text id).mp listed) with ⟨record, found, same⟩
      exact absurd same (free id record found)

/-- A record can be replaced by one with the same name. -/
theorem replace (indexes : Indexes index name engines) (found : engines[id]? = some record)
    (same : name another = name record) : Indexes index name (engines.insert id another) := by
  intro text other
  rw [indexes text other, Std.ExtTreeMap.getElem?_insert]
  by_cases equal : id = other
  · subst equal
    simp [found, same]
  · simp [equal]

/-- A record whose name is free can be listed. -/
theorem insert (indexes : Indexes index name engines) (absent : engines[id]? = none)
    (free : ∀ (other : EngineId) (another : EngineRecord), engines[other]? = some another →
      name another ≠ name record) :
    Indexes (index.insert (name record) id) name (engines.insert id record) := by
  intro text other
  have unlisted : engines[other]?.map name ≠ some (name record) := by
    intro listed
    rcases Option.map_eq_some_iff.mp listed with ⟨another, found, same⟩
    exact free other another found same
  rw [Std.ExtTreeMap.getElem?_insert, Std.ExtTreeMap.getElem?_insert]
  by_cases own : name record = text
  · subst own
    by_cases equal : id = other
    · simp [equal]
    · simp [equal, unlisted]
  · by_cases equal : id = other
    · subst equal
      simp [own, indexes text id, absent]
    · simp [own, equal, indexes text other]

/-- A record can be taken off the list. -/
theorem erase (indexes : Indexes index name engines) (found : engines[id]? = some record) :
    Indexes (index.erase (name record)) name (engines.erase id) := by
  intro text other
  rw [Std.ExtTreeMap.getElem?_erase, Std.ExtTreeMap.getElem?_erase]
  by_cases equal : id = other
  · subst equal
    have own : name record ≠ text → index[text]? ≠ some id := by
      intro different listed
      rw [indexes, found] at listed
      exact different (Option.some.inj listed)
    simpa using own
  · have only : name record = text → engines[other]?.map name ≠ some text := by
      rintro rfl listed
      rcases Option.map_eq_some_iff.mp listed with ⟨another, otherFound, same⟩
      exact equal (indexes.eq_of_name found otherFound same.symm)
    by_cases own : name record = text
    · simp [own, equal, only own]
    · simp [own, equal, indexes text other]

end Indexes

/-! ## The registry -/

/-- The records and the indexes agree. -/
structure Consistent (r : Registry) : Prop where
  /-- A record stands under its number. -/
  identified : ∀ {id : EngineId} {record : EngineRecord},
    r.engines[id]? = some record → record.id = id
  /-- The next number is above those of all records. -/
  fresh : ∀ {id : EngineId} {record : EngineRecord},
    r.engines[id]? = some record → id < r.nextId
  byQueue : ∀ queue id, r.byQueue[queue]? = some id ↔
    r.engines[id]?.map EngineRecord.queue = some queue
  byHeart : ∀ heart id, r.byHeart[heart]? = some id ↔
    r.engines[id]?.map EngineRecord.heart = some heart

theorem consistent_empty : Consistent {} := by
  constructor <;> simp

namespace Consistent

theorem queues (consistent : r.Consistent) : Indexes r.byQueue EngineRecord.queue r.engines :=
  consistent.byQueue

theorem hearts (consistent : r.Consistent) : Indexes r.byHeart EngineRecord.heart r.engines :=
  consistent.byHeart

theorem eq_of_queue (consistent : r.Consistent) (found : r.engines[id]? = some record)
    (otherFound : r.engines[other]? = some another) (same : record.queue = another.queue) :
    id = other :=
  consistent.queues.eq_of_name found otherFound same

theorem eq_of_heart (consistent : r.Consistent) (found : r.engines[id]? = some record)
    (otherFound : r.engines[other]? = some another) (same : record.heart = another.heart) :
    id = other :=
  consistent.hearts.eq_of_name found otherFound same

theorem nextId_free (consistent : r.Consistent) : r.engines[r.nextId]? = none := by
  cases found : r.engines[r.nextId]? with
  | none => rfl
  | some record => exact absurd (consistent.fresh found) (UInt32.lt_irrefl _)

end Consistent

theorem pendingForHeart_eq_some_iff (consistent : r.Consistent) :
    r.pendingForHeart heart = some id ↔
      ∃ record, r.engines[id]? = some record ∧ record.state = .pending ∧
        record.heart = heart := by
  constructor
  · intro waiting
    simp only [pendingForHeart, Option.bind_eq_bind, Option.bind_eq_some_iff] at waiting
    rcases waiting with ⟨number, indexed, record, found, waiting⟩
    split at waiting
    · next pending =>
        have numbered := Option.some.inj waiting
        rw [consistent.identified found] at numbered
        subst number
        have named := (consistent.byHeart heart id).mp indexed
        rw [found] at named
        exact ⟨record, found, pending, Option.some.inj named⟩
    · contradiction
  · rintro ⟨record, found, pending, rfl⟩
    have indexed := consistent.hearts.listed found
    simp [pendingForHeart, indexed, found, pending, consistent.identified found]

/-- The record that is looked up by its queue is the one that has the queue. -/
theorem getByQueue_eq_ok_iff (consistent : r.Consistent) :
    r.getByQueue queue = .ok record ↔
      r.engines[record.id]? = some record ∧ record.queue = queue := by
  unfold getByQueue idByQueue
  constructor
  · intro got
    split at got
    · next other indexed =>
        cases got
        rcases Option.bind_eq_some_iff.mp indexed with ⟨id, listed, found⟩
        have named := (consistent.byQueue queue id).mp listed
        rw [found] at named
        rw [consistent.identified found]
        exact ⟨found, Option.some.inj named⟩
    · contradiction
  · rintro ⟨found, rfl⟩
    rw [consistent.queues.listed found, Option.bind_some, found]

/-- Nobody has the heart or the queue. -/
def Available (r : Registry) (heart queue : String) : Prop :=
  ∀ (id : EngineId) (record : EngineRecord), r.engines[id]? = some record →
    record.queue ≠ queue ∧ record.heart ≠ heart

theorem Available.byQueue (available : r.Available heart queue) (consistent : r.Consistent) :
    r.byQueue[queue]? = none :=
  consistent.queues.eq_none fun id record found => (available id record found).1

theorem Available.byHeart (available : r.Available heart queue) (consistent : r.Consistent) :
    r.byHeart[heart]? = none :=
  consistent.hearts.eq_none fun id record found => (available id record found).2

theorem checkAvailable_of_available (consistent : r.Consistent)
    (available : r.Available heart queue) : r.checkAvailable heart queue = .ok () := by
  have queueFree := available.byQueue consistent
  have heartFree := available.byHeart consistent
  simp [checkAvailable, Std.ExtTreeMap.contains_eq_isSome_getElem?, queueFree, heartFree]

/-- Identities that are taken are refused. -/
theorem checkAvailable_of_not_available (consistent : r.Consistent)
    (taken : ¬ r.Available heart queue) : ∃ fault, r.checkAvailable heart queue = .error fault ∧
      (fault = .queueInUse queue ∨ fault = .heartInUse heart) := by
  unfold checkAvailable
  split
  · exact ⟨_, rfl, Or.inl rfl⟩
  · next queueFree =>
      split
      · exact ⟨_, rfl, Or.inr rfl⟩
      · next heartFree =>
          refine absurd ?_ taken
          rw [Std.ExtTreeMap.contains_eq_isSome_getElem?] at queueFree heartFree
          intro id record found
          constructor
          · rintro rfl
            apply queueFree
            rw [consistent.queues.listed found]
            rfl
          · rintro rfl
            apply heartFree
            rw [consistent.hearts.listed found]
            rfl

theorem available_of_checkAvailable (consistent : r.Consistent)
    (free : r.checkAvailable heart queue = .ok ()) : r.Available heart queue := by
  refine Classical.byContradiction fun taken => ?_
  obtain ⟨fault, refused, _⟩ := checkAvailable_of_not_available consistent taken
  rw [free] at refused
  contradiction

/-- The registry with another form of a record. -/
def replace (r : Registry) (record : EngineRecord) : Registry :=
  { r with engines := r.engines.insert record.id record }

theorem getElem?_replace (other : EngineId) :
    (r.replace record).engines[other]? =
      if record.id = other then some record else r.engines[other]? := by
  simp [replace, Std.ExtTreeMap.getElem?_insert]

/-- A record that stands after another was replaced is that one or stood before. -/
theorem eq_or_found_of_replace (found : (r.replace record).engines[id]? = some another) :
    (id = record.id ∧ another = record) ∨ (id ≠ record.id ∧ r.engines[id]? = some another) := by
  rw [getElem?_replace] at found
  by_cases same : record.id = id
  · rw [if_pos same] at found
    exact Or.inl ⟨same.symm, (Option.some.inj found).symm⟩
  · rw [if_neg same] at found
    exact Or.inr ⟨Ne.symm same, found⟩

/-- Records stand when another is replaced. -/
theorem found_replace (different : record.id ≠ id) (found : r.engines[id]? = some another) :
    (r.replace record).engines[id]? = some another := by
  rw [getElem?_replace, if_neg different]
  exact found

/-- A record can be replaced by one with the same identities. -/
theorem Consistent.replace (consistent : r.Consistent) (found : r.engines[id]? = some record)
    (sameId : another.id = record.id) (sameQueue : another.queue = record.queue)
    (sameHeart : another.heart = record.heart) : (r.replace another).Consistent := by
  have numbered : another.id = id := sameId.trans (consistent.identified found)
  constructor
  case identified =>
    intro other stands otherFound
    rcases eq_or_found_of_replace otherFound with ⟨own, rfl⟩ | ⟨_, before⟩
    · exact own.symm
    · exact consistent.identified before
  case fresh =>
    intro other stands otherFound
    rcases eq_or_found_of_replace otherFound with ⟨own, rfl⟩ | ⟨_, before⟩
    · rw [own, numbered]
      exact consistent.fresh found
    · exact consistent.fresh before
  case byQueue =>
    rw [Registry.replace, numbered]
    exact consistent.queues.replace found sameQueue
  case byHeart =>
    rw [Registry.replace, numbered]
    exact consistent.hearts.replace found sameHeart

/-! ## Admission -/

/-- The registry with a record under the next number. -/
def enroll (r : Registry) (record : EngineRecord) : Registry where
  engines := r.engines.insert r.nextId record
  byQueue := r.byQueue.insert record.queue r.nextId
  byHeart := r.byHeart.insert record.heart r.nextId
  dead := r.dead.erase record.queue
  nextId := r.nextId + 1

theorem getElem?_enroll (other : EngineId) :
    (r.enroll record).engines[other]? =
      if r.nextId = other then some record else r.engines[other]? := by
  simp [enroll, Std.ExtTreeMap.getElem?_insert]

/-- The pending record of a registration. -/
def applicant (r : Registry) (registration : Registration) (requester : Option Frame)
    (now : Timestamp) : EngineRecord where
  id := r.nextId
  queue := registration.queue
  heart := registration.heart
  name := registration.name
  services := registration.services
  state := .pending
  registeredAt := now
  requester := requester
  deletion := none

/-- A record that stands after another was enrolled is that one or stood before. -/
theorem eq_or_found_of_enroll (found : (r.enroll record).engines[id]? = some another) :
    (id = r.nextId ∧ another = record) ∨ (id ≠ r.nextId ∧ r.engines[id]? = some another) := by
  rw [getElem?_enroll] at found
  by_cases same : r.nextId = id
  · rw [if_pos same] at found
    exact Or.inl ⟨same.symm, (Option.some.inj found).symm⟩
  · rw [if_neg same] at found
    exact Or.inr ⟨Ne.symm same, found⟩

/-- Records stand when another is enrolled. -/
theorem Consistent.found_enroll (consistent : r.Consistent)
    (found : r.engines[id]? = some another) : (r.enroll record).engines[id]? = some another := by
  rw [getElem?_enroll, if_neg]
  · exact found
  · rintro rfl
    rw [consistent.nextId_free] at found
    contradiction

theorem mem_dead_enroll :
    queue ∈ (r.enroll record).dead ↔ record.queue ≠ queue ∧ queue ∈ r.dead := by
  simp [enroll]

theorem Consistent.enroll (consistent : r.Consistent) (numbered : record.id = r.nextId)
    (available : r.Available record.heart record.queue)
    (room : r.nextId.toNat + 1 < UInt32.size) : (r.enroll record).Consistent := by
  have free := consistent.nextId_free
  constructor
  case identified =>
    intro id stands found
    rcases eq_or_found_of_enroll found with ⟨own, rfl⟩ | ⟨_, before⟩
    · rw [own, numbered]
    · exact consistent.identified before
  case fresh =>
    intro id stands found
    apply (EngineId.lt_succ_iff room).mpr
    rcases eq_or_found_of_enroll found with ⟨own, _⟩ | ⟨_, before⟩
    · exact Or.inr own
    · exact Or.inl (consistent.fresh before)
  case byQueue =>
    exact consistent.queues.insert free fun other another found => (available other another found).1
  case byHeart =>
    exact consistent.hearts.insert free fun other another found => (available other another found).2

/-- The registry without a record. -/
def withdraw (r : Registry) (record : EngineRecord) : Registry :=
  { r with
    engines := r.engines.erase record.id
    byQueue := r.byQueue.erase record.queue
    byHeart := r.byHeart.erase record.heart
    dead := r.dead.erase record.queue }

theorem getElem?_withdraw (other : EngineId) :
    (r.withdraw record).engines[other]? =
      if record.id = other then none else r.engines[other]? := by
  simp [withdraw, Std.ExtTreeMap.getElem?_erase]

/-- A record that stands after another was withdrawn stood before. -/
theorem found_of_withdraw (found : (r.withdraw record).engines[id]? = some another) :
    record.id ≠ id ∧ r.engines[id]? = some another := by
  rw [getElem?_withdraw] at found
  by_cases same : record.id = id
  · rw [if_pos same] at found
    contradiction
  · rw [if_neg same] at found
    exact ⟨same, found⟩

/-- Records stand when another is withdrawn. -/
theorem found_withdraw (different : record.id ≠ id) (found : r.engines[id]? = some another) :
    (r.withdraw record).engines[id]? = some another := by
  rw [getElem?_withdraw, if_neg different]
  exact found

theorem mem_dead_withdraw :
    queue ∈ (r.withdraw record).dead ↔ record.queue ≠ queue ∧ queue ∈ r.dead := by
  simp [withdraw]

theorem Consistent.withdraw (consistent : r.Consistent) (found : r.engines[id]? = some record) :
    (r.withdraw record).Consistent := by
  have numbered := consistent.identified found
  constructor
  case identified => exact fun standing => consistent.identified (found_of_withdraw standing).2
  case fresh => exact fun standing => consistent.fresh (found_of_withdraw standing).2
  case byQueue =>
    rw [Registry.withdraw, numbered]
    exact consistent.queues.erase found
  case byHeart =>
    rw [Registry.withdraw, numbered]
    exact consistent.hearts.erase found

theorem mem_dead_markDead {name : String} :
    name ∈ (r.markDead queue).dead ↔ queue = name ∨ name ∈ r.dead := by
  simp [markDead]

end Registry

end ClusterHub

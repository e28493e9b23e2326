import ClusterHub.Proofs.Engine.Operation

/-!
# Where engines stand

A number belongs to nobody, to an engine that waits for its heart, to an active
engine, or to one that is active but was given up since its heart has failed.
Each change of a registry moves one number from one of these to another.
-/

namespace ClusterHub

/-- Where an engine stands. -/
inductive Standing
  /-- There is no such engine. -/
  | absent
  /-- It waits for its heart. -/
  | waiting
  /-- It is active. -/
  | member (engine : EngineNotice)
  /-- It is active, but was given up. -/
  | lost (engine : EngineNotice)
deriving DecidableEq

/-- Where the engine of a record stands. -/
def EngineRecord.standing (record : EngineRecord) (dead : Bool) : Standing :=
  match record.state with
  | .pending => .waiting
  | .active => if dead then .lost record.notice else .member record.notice

namespace Registry

variable {r after : Registry} {id other : EngineId} {record : EngineRecord}
  {place : Standing} {queue : String}

/-- Where the engine with a number stands. -/
def standing (r : Registry) (id : EngineId) : Standing :=
  (r.engines[id]?).elim .absent fun record => record.standing (r.isDead record.queue)

theorem standing_of_absent (absent : r.engines[id]? = none) : r.standing id = .absent := by
  rw [standing, absent]
  rfl

theorem standing_of_found (found : r.engines[id]? = some record) :
    r.standing id = record.standing (r.isDead record.queue) := by
  rw [standing, found]
  rfl

theorem isDead_iff : r.isDead queue = true ↔ queue ∈ r.dead := Std.ExtTreeSet.contains_iff_mem

/-- What is behind it that an engine stands where it does. -/
inductive Stands (r : Registry) (id : EngineId) : Standing → Prop
  | absent (absent : r.engines[id]? = none) : Stands r id .absent
  | waiting (record : EngineRecord) (found : r.engines[id]? = some record)
      (pending : record.state = .pending) : Stands r id .waiting
  | member (record : EngineRecord) (found : r.engines[id]? = some record)
      (active : record.state = .active) (spared : record.queue ∉ r.dead) :
      Stands r id (.member record.notice)
  | lost (record : EngineRecord) (found : r.engines[id]? = some record)
      (active : record.state = .active) (dead : record.queue ∈ r.dead) :
      Stands r id (.lost record.notice)

theorem Stands.standing_eq (stands : r.Stands id place) : r.standing id = place := by
  cases stands with
  | absent absent => exact standing_of_absent absent
  | waiting record found pending =>
      rw [standing_of_found found, EngineRecord.standing, pending]
  | member record found active spared =>
      rw [standing_of_found found, EngineRecord.standing, active]
      exact if_neg (mt isDead_iff.mp spared)
  | lost record found active dead =>
      rw [standing_of_found found, EngineRecord.standing, active]
      exact if_pos (isDead_iff.mpr dead)

theorem stands (r : Registry) (id : EngineId) : r.Stands id (r.standing id) := by
  have given : ∃ place, r.Stands id place := by
    cases found : r.engines[id]? with
    | none => exact ⟨_, .absent found⟩
    | some record =>
        cases state : record.state with
        | pending => exact ⟨_, .waiting record found state⟩
        | active =>
            by_cases dead : record.queue ∈ r.dead
            · exact ⟨_, .lost record found state dead⟩
            · exact ⟨_, .member record found state dead⟩
  rcases given with ⟨place, stands⟩
  rw [stands.standing_eq]
  exact stands

theorem standing_eq_iff : r.standing id = place ↔ r.Stands id place := by
  constructor
  · rintro rfl
    exact stands r id
  · exact Stands.standing_eq

theorem standing_of_active (found : r.engines[id]? = some record)
    (active : record.state = .active) :
    r.standing id = .member record.notice ∨ r.standing id = .lost record.notice := by
  by_cases dead : record.queue ∈ r.dead
  · exact Or.inr (Stands.lost record found active dead).standing_eq
  · exact Or.inl (Stands.member record found active dead).standing_eq

/-- An engine stands where it did if neither its record nor its being given up has
changed. -/
theorem standing_congr (same : after.engines[id]? = r.engines[id]?)
    (given : ∀ record, r.engines[id]? = some record →
      (record.queue ∈ after.dead ↔ record.queue ∈ r.dead)) :
    after.standing id = r.standing id := by
  cases found : r.engines[id]? with
  | none => rw [standing_of_absent found, standing_of_absent (same.trans found)]
  | some record =>
      rw [standing_of_found found, standing_of_found (same.trans found)]
      apply congrArg record.standing
      rw [Bool.eq_iff_iff, isDead_iff, isDead_iff]
      exact given record found

theorem standing_enroll (available : r.Available record.heart record.queue) :
    (r.enroll record).standing id =
      if r.nextId = id then record.standing false else r.standing id := by
  by_cases own : r.nextId = id
  · have found : (r.enroll record).engines[id]? = some record := by
      rw [getElem?_enroll, if_pos own]
    have spared : (r.enroll record).isDead record.queue = false := by
      rw [← Bool.not_eq_true, isDead_iff, mem_dead_enroll]
      exact fun dead => dead.1 rfl
    rw [if_pos own, standing_of_found found, spared]
  · rw [if_neg own]
    apply standing_congr
    · rw [getElem?_enroll, if_neg own]
    · intro another found
      rw [mem_dead_enroll]
      exact and_iff_right (available id another found).1.symm

theorem standing_withdraw (consistent : r.Consistent) (found : r.engines[other]? = some record) :
    (r.withdraw record).standing id = if other = id then .absent else r.standing id := by
  have numbered := consistent.identified found
  by_cases own : other = id
  · rw [if_pos own, standing_of_absent]
    rw [getElem?_withdraw, numbered, if_pos own]
  · rw [if_neg own]
    apply standing_congr
    · rw [getElem?_withdraw, numbered, if_neg own]
    · intro another anotherFound
      rw [mem_dead_withdraw]
      refine and_iff_right fun same => ?_
      exact own (consistent.eq_of_queue found anotherFound same)

theorem standing_replace (consistent : r.Consistent) (found : r.engines[other]? = some record)
    (spared : record.queue ∉ r.dead) :
    (r.replace record.activated).standing id =
      if other = id then .member record.notice else r.standing id := by
  have numbered := consistent.identified found
  by_cases own : other = id
  · have replaced : (r.replace record.activated).engines[id]? = some record.activated := by
      rw [getElem?_replace]
      exact if_pos (numbered.trans own)
    rw [if_pos own]
    exact (Stands.member record.activated replaced rfl spared).standing_eq
  · rw [if_neg own]
    apply standing_congr
    · rw [getElem?_replace]
      exact if_neg fun same => own (numbered.symm.trans same)
    · exact fun _ _ => Iff.rfl

theorem standing_markDead (consistent : r.Consistent) (found : r.engines[other]? = some record)
    (active : record.state = .active) :
    (r.markDead record.queue).standing id =
      if other = id then .lost record.notice else r.standing id := by
  by_cases own : other = id
  · subst own
    have stands : (r.markDead record.queue).Stands other (.lost record.notice) :=
      .lost record found active (mem_dead_markDead.mpr (Or.inl rfl))
    rw [if_pos rfl]
    exact stands.standing_eq
  · rw [if_neg own]
    have still : (r.markDead record.queue).engines[id]? = r.engines[id]? := rfl
    refine standing_congr still fun another anotherFound => ?_
    rw [mem_dead_markDead]
    refine or_iff_right fun same => ?_
    exact own (consistent.eq_of_queue found anotherFound same)

end Registry

end ClusterHub

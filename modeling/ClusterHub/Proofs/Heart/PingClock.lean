import ClusterHub.Proofs.Time.Stamp

/-!
# The clock of pings

The clock drops the fractions of a microsecond that go by between two beats,
and does not make up for them.  It still moves by a microsecond at least if one
has gone by, and its times then have different texts as long as they lie in the
calendar.
-/

namespace ClusterHub.PingClock

variable {c d : PingClock} {first second now : Instant} {text : String}

/-- Whether the time of the last ping lies in the calendar. -/
def IsDated (c : PingClock) : Prop := Instant.IsDated (c.current / c.resolution)

instance : Decidable c.IsDated :=
  inferInstanceAs (Decidable (Instant.IsDated _))

/-- Whether there is a microsecond at least from one instant to another one, as
the clock's steps go. -/
def Apart (c : PingClock) (earlier later : Instant) : Prop := earlier + c.resolution ≤ later

instance (c : PingClock) : DecidableRel c.Apart := fun earlier later =>
  inferInstanceAs (Decidable (earlier + (c.resolution : Int) ≤ later))

theorem apart_congr (same : c.resolution = d.resolution) : c.Apart = d.Apart := by
  unfold Apart
  rw [same]

theorem text_congr (same : c.resolution = d.resolution) : c.text = d.text := by
  unfold text
  rw [same]

theorem resolution_le_whole {time : Duration} (enough : c.resolution ≤ time) :
    c.resolution ≤ c.whole time :=
  Nat.le_mul_of_pos_right _ (Nat.div_pos enough c.resolution_pos)

/-- A beat moves the clock on by a microsecond at least if so much time has gone
by since the one before. -/
theorem apart_tick (passed : c.Apart c.moved now) : c.Apart c.current (c.tick now).current := by
  have enough : c.resolution ≤ c.moved.until now := by
    unfold Apart Instant.until Instant at *
    omega
  exact Int.add_le_add_left (Int.ofNat_le.mpr (resolution_le_whole enough)) c.current

theorem isFresh_iff :
    c.isFresh text = true ↔ text = c.text c.current ∨ text = c.text c.previous := by
  simp [isFresh]

/-- With a beat, the last ping becomes the one before the last. -/
theorem isFresh_tick :
    (c.tick now).isFresh text = true ↔
      text = c.text (c.tick now).current ∨ text = c.text c.current :=
  isFresh_iff

/-- Times of the calendar that are a microsecond apart have different texts. -/
theorem text_ne_of_apart (dated : Instant.IsDated (first / c.resolution))
    (otherDated : Instant.IsDated (second / c.resolution))
    (apart : c.Apart first second) : c.text first ≠ c.text second := by
  intro same
  have micros : first / (c.resolution : Int) = second / (c.resolution : Int) :=
    Monitor.eq_of_stamp dated otherDated same
  have positive : (0 : Int) < c.resolution := Int.ofNat_lt.mpr c.resolution_pos
  have later := Int.ediv_le_ediv positive apart
  rw [Int.add_ediv_of_dvd_right (Int.dvd_refl _), Int.ediv_self (Int.ne_of_gt positive),
    micros] at later
  exact Int.not_lt.mpr later (Int.lt_succ _)

end ClusterHub.PingClock

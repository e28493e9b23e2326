import ClusterHub.Heart.Monitor

/-!
# Echoes

A monitor takes in any message.  Those that echo one of the last two pings
count as answers of the heart they name, and all others change nothing.
-/

namespace ClusterHub

/-- Whether a message is the echo of a ping by a heart. -/
def Message.isEcho (message : Message) (heart ping : String) : Bool :=
  match message.text 0, message.text 1 with
  | .ok sender, .ok text => sender = heart && text = ping
  | _, _ => false

theorem Message.isEcho_iff {message : Message} {heart ping : String} :
    message.isEcho heart ping = true ↔ message.text 0 = .ok heart ∧ message.text 1 = .ok ping := by
  unfold isEcho
  split
  · next sender text first second => simp [first, second]
  · next unread =>
      apply iff_of_false Bool.false_ne_true
      rintro ⟨first, second⟩
      exact unread heart ping first second

namespace Monitor

variable {η : Type} (m : Monitor η) (message : Message) {heart : String}

theorem interval_handlePong : (m.handlePong message).interval = m.interval := by
  unfold handlePong
  split
  · split <;> rfl
  · rfl

theorem clock_handlePong : (m.handlePong message).clock = m.clock := by
  unfold handlePong
  split
  · split <;> rfl
  · rfl

variable {m message}

theorem responded_handlePong (responded : heart ∈ m.liveness.responded) :
    heart ∈ (m.handlePong message).liveness.responded := by
  unfold handlePong
  split
  · split
    · exact Std.ExtTreeSet.mem_insert.mpr (Or.inr responded)
    · exact responded
  · exact responded

/-- An echo of the last ping counts. -/
theorem responded_of_isEcho (echo : message.isEcho heart m.currentPing) :
    heart ∈ (m.handlePong message).liveness.responded := by
  unfold Message.isEcho at echo
  split at echo
  · next sender text first second =>
      rcases Bool.and_eq_true_iff.mp echo with ⟨named, same⟩
      cases of_decide_eq_true named
      cases of_decide_eq_true same
      have fresh : m.clock.isFresh m.currentPing = true := by
        simp [PingClock.isFresh, currentPing]
      simp only [handlePong, first, second, fresh]
      exact Std.ExtTreeSet.mem_insert_self
  · contradiction

/-- The echo of a fresh ping is counted as an answer of its heart. -/
theorem handlePong_of_fresh {ping : String} (echo : message.isEcho heart ping = true)
    (fresh : m.clock.isFresh ping = true) :
    m.handlePong message =
      { m with liveness := m.liveness.record heart, echoes := m.echoes + 1 } := by
  rcases Message.isEcho_iff.mp echo with ⟨first, second⟩
  simp only [handlePong, first, second, fresh, if_true]

/-- A message that is the echo of no fresh ping changes nothing. -/
theorem handlePong_of_stale
    (stale : ∀ heart ping, message.isEcho heart ping = true → m.clock.isFresh ping = false) :
    m.handlePong message = m := by
  unfold handlePong
  split
  · next sender text first second =>
      rw [stale sender text (Message.isEcho_iff.mpr ⟨first, second⟩)]
      rfl
  · rfl

end Monitor

end ClusterHub

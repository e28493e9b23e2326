import ClusterHub.Heart.Liveness
import ClusterHub.Time.Rfc3339
import ClusterHub.Wire.Message

/-!
# Heart monitors

A monitor publishes a ping with every beat and collects the echoes.  A ping
carries the time of the monitor's own clock; an echo counts if it is one of the
last two pings.
-/

namespace ClusterHub

/-- The clock that pings are timed by.  It moves on with beats only, by the
whole microseconds that have gone by since it moved last. -/
structure PingClock where
  /-- How many steps of the clock that it is read off make a microsecond. -/
  resolution : Nat := 1
  resolution_pos : 0 < resolution := by exact Nat.one_pos
  /-- The time that the last ping carries. -/
  current : Instant
  /-- The time that the ping before the last carries. -/
  previous : Instant
  /-- When the clock has moved last. -/
  moved : Instant

/-- The text of a ping that carries a time, given in microseconds. -/
def Monitor.stamp (at_ : Instant) : String :=
  (Timestamp.ofInstant at_).text .micros

namespace PingClock

variable (c : PingClock)

/-- A clock that is set at an instant.  Its time stands in for that of pings
that have not been sent yet. -/
def start (now : Instant) : PingClock where
  current := now
  previous := now
  moved := now

/-- What is left of a duration if fractions of a microsecond are dropped. -/
def whole (d : Duration) : Duration := c.resolution * (d / c.resolution)

/-- The clock after a beat. -/
def tick (now : Instant) : PingClock :=
  { c with
    current := c.current + c.whole (c.moved.until now)
    previous := c.current
    moved := now }

/-- The text of a ping that carries a time of the clock. -/
def text (time : Instant) : String := Monitor.stamp (time / c.resolution)

/-- Whether a text is that of one of the last two pings. -/
def isFresh (text : String) : Bool := text = c.text c.current || text = c.text c.previous

end PingClock

/-- A heart monitor, with the handlers that are told of new and failed
hearts. -/
structure Monitor (η : Type) where
  /-- The time between beats. -/
  interval : Duration
  clock : PingClock
  liveness : Liveness := {}
  /-- The handlers of new hearts, in the order of registration. -/
  onNew : List η := []
  /-- The handlers of failed hearts, in the order of registration. -/
  onFailure : List η := []
  /-- The number of beats. -/
  beats : Nat := 0
  /-- The number of echoes that counted. -/
  echoes : Nat := 0
  /-- The number of hearts that failed. -/
  failed : Nat := 0

namespace Monitor

variable {η : Type}

/-- A monitor that is set up at an instant. -/
def start (interval : Duration) (now : Instant) : Monitor η where
  interval := interval
  clock := .start now

/-- The text of the last ping. -/
def currentPing (m : Monitor η) : String := m.clock.text m.clock.current

/-- Take in an echo: a heart's identity, then the text of a ping. -/
def handlePong (m : Monitor η) (message : Message) : Monitor η :=
  match message.text 0, message.text 1 with
  | .ok heart, .ok text =>
      if m.clock.isFresh text then
        { m with liveness := m.liveness.record heart, echoes := m.echoes + 1 }
      else m
  | _, _ => m

/-- Close the round and let the clock of pings move on. -/
def roll (m : Monitor η) (now : Instant) : Transition × Monitor η :=
  let (transition, liveness) := m.liveness.closeRound
  (transition,
    { m with liveness, clock := m.clock.tick now, beats := m.beats + 1 })

/-- Whether a heart is alive. -/
def isAlive (m : Monitor η) (heart : String) : Bool := m.liveness.isAlive heart

/-- Add a handler of new hearts. -/
def addNewHandler (m : Monitor η) (handler : η) : Monitor η :=
  { m with onNew := m.onNew ++ [handler] }

/-- Add a handler of failed hearts. -/
def addFailureHandler (m : Monitor η) (handler : η) : Monitor η :=
  { m with onFailure := m.onFailure ++ [handler] }

/-- A monitor without its handlers. -/
def withoutHandlers (m : Monitor η) : Monitor η :=
  { m with onNew := [], onFailure := [] }

/-- A monitor with handlers put in front of those it has. -/
def withEarlierHandlers (m : Monitor η) (onNew onFailure : List η) : Monitor η :=
  { m with onNew := onNew ++ m.onNew, onFailure := onFailure ++ m.onFailure }

/-- Count a failed heart. -/
def countFailure (m : Monitor η) : Monitor η := { m with failed := m.failed + 1 }

end Monitor

end ClusterHub

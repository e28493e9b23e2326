import ClusterHub.Text.Digits
import ClusterHub.Time.Instant

/-!
# Configuration

Where the hub is bound and how long it waits.  Every setting has a default and
can be overridden from the environment; a value there that cannot be read
leaves the default in place.
-/

namespace ClusterHub

/-- The settings of a hub. -/
structure Config where
  /-- The interface that the hub binds to. -/
  ip : String := "127.0.0.1"
  /-- The scheme of its addresses. -/
  transport : String := "tcp"
  /-- The first port that is given out. -/
  startPort : UInt16 := 5000
  /-- The time between pings. -/
  heartbeat : Duration := .ofMillis 2000
  /-- How long a registration may wait for its heart, if that is fixed. -/
  registrationOverride : Option Duration := none
  /-- The time between the answer to a shutdown request and the end. -/
  shutdownDelay : Duration := .ofMillis 1000
deriving DecidableEq, Repr, Inhabited

namespace Config

/-- The least time that a registration waits for its heart when it is not
fixed. -/
def minRegistrationTimeout : Duration := .ofMillis 5000

/-- How long a registration waits for its heart: two beats or five seconds,
whichever is longer, unless another time is set. -/
def registrationTimeout (config : Config) : Duration :=
  config.registrationOverride.getD (max minRegistrationTimeout (config.heartbeat * 2))

/-- The address of a port. -/
def address (config : Config) (port : UInt16) : String :=
  config.transport ++ "://" ++ config.ip ++ ":" ++ Text.decimal port.toNat

/-- A number below a bound, from the text of an environment variable. -/
def numberBelow? (bound : Nat) (text : Option String) : Option Nat :=
  (text.bind Text.natOfText?).filter fun n => n < bound

/-- The settings that an environment asks for.  `lookup` gives the octets of a
variable; octets that are not text count as absent. -/
def ofEnvironment (lookup : String → Option ByteArray) : Config :=
  let text (name : String) : Option String := (lookup name).bind String.fromUTF8?
  let millis (name : String) : Option Duration :=
    (numberBelow? UInt64.size (text name)).map .ofMillis
  let defaults : Config := {}
  { ip := (text "PARHUB_IP").getD defaults.ip
    transport := (text "PARHUB_TRANSPORT").getD defaults.transport
    startPort := ((numberBelow? UInt16.size (text "PARHUB_PORT")).map UInt16.ofNat).getD
      defaults.startPort
    heartbeat := (millis "PARHUB_HEARTBEAT_MS").getD defaults.heartbeat
    registrationOverride := millis "PARHUB_REGISTRATION_TIMEOUT_MS"
    shutdownDelay := (millis "PARHUB_SHUTDOWN_DELAY_MS").getD defaults.shutdownDelay }

end Config

end ClusterHub

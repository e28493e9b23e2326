import ClusterHub.Timer.Queue
import ClusterHub.Wire.Codec
import Std.Data.ExtTreeSet

/-!
# The engine registry

Every engine that is joining or has joined, under the number it was given, with
indexes by its queue and its heart.  A record is pending until its heart is
seen and active from then on.  Operations that take a record's deletion timer
out of use hand the timer back, for their caller to cancel.
-/

namespace ClusterHub

/-- How far a registration has come. -/
inductive EngineState
  /-- Waiting for the heart to show. -/
  | pending
  /-- The heart was seen. -/
  | active
deriving DecidableEq, Repr, Inhabited

/-- What is known of an engine. -/
structure EngineRecord where
  id : EngineId
  queue : String
  heart : String
  name : String
  services : List String
  state : EngineState
  registeredAt : Timestamp
  /-- Who is to be told the outcome of the registration. -/
  requester : Option Frame
  /-- The timer that deletes the record unless its heart is seen. -/
  deletion : Option TimerHandle
deriving DecidableEq

namespace EngineRecord

/-- Whether the engine's heart was seen. -/
def isActive (record : EngineRecord) : Bool := record.state = .active

/-- What is broadcast of the engine. -/
def notice (record : EngineRecord) : EngineNotice where
  id := record.id
  queue := record.queue
  heart := record.heart
  name := record.name
  services := record.services

end EngineRecord

/-- The engines of a hub. -/
structure Registry where
  engines : Std.ExtTreeMap EngineId EngineRecord := ∅
  byQueue : Std.ExtTreeMap String EngineId := ∅
  byHeart : Std.ExtTreeMap String EngineId := ∅
  /-- The queues of engines whose heart has failed. -/
  dead : Std.ExtTreeSet String := ∅
  /-- The number of the next engine. -/
  nextId : EngineId := 0

namespace Registry

instance : Inhabited Registry := ⟨{}⟩

/-- Refuse identities that belong to a pending or active engine. -/
def checkAvailable (r : Registry) (heart queue : String) : Except Fault Unit :=
  if r.byQueue.contains queue then .error (.queueInUse queue)
  else if r.byHeart.contains heart then .error (.heartInUse heart)
  else .ok ()

/-- Whether the count of numbers would overflow if the next one were given
out.  It is a plain sum of 32 bits, other than that of ports, which goes
round. -/
def isSpent (r : Registry) : Bool := r.nextId + 1 = 0

/-- Store a pending record under the next number, unless the count is spent.
Its queue is no longer dead. -/
def insertPending (r : Registry) (registration : Registration) (requester : Option Frame)
    (now : Timestamp) : Except Fault (EngineId × Registry) := do
  r.checkAvailable registration.heart registration.queue
  let id := r.nextId
  let record : EngineRecord := {
    id
    queue := registration.queue
    heart := registration.heart
    name := registration.name
    services := registration.services
    state := .pending
    registeredAt := now
    requester
    deletion := none }
  return (id, {
    engines := r.engines.insert id record
    byQueue := r.byQueue.insert registration.queue id
    byHeart := r.byHeart.insert registration.heart id
    dead := r.dead.erase registration.queue
    nextId := id + 1 })

/-- Give a record the timer that deletes it.  Hands back the timer that it had
before. -/
def armDeletion (r : Registry) (id : EngineId) (handle : TimerHandle) :
    Option TimerHandle × Registry :=
  ((r.engines[id]?).bind EngineRecord.deletion,
    { r with engines := r.engines.modify id fun record =>
        { record with deletion := some handle } })

/-- The number of the pending record with a given heart. -/
def pendingForHeart (r : Registry) (heart : String) : Option EngineId := do
  let id ← r.byHeart[heart]?
  let record ← r.engines[id]?
  if record.state = .pending then return record.id else none

/-- Make the pending record of a heart active.  Hands back its deletion
timer. -/
def promote (r : Registry) (heart : String) :
    Option (EngineRecord × Option TimerHandle × Registry) := do
  let id ← r.pendingForHeart heart
  let record ← r.engines[id]?
  let promoted := { record with state := .active, deletion := none }
  return (promoted, record.deletion, { r with engines := r.engines.insert id promoted })

/-- Take the requester out of a record. -/
def takeRequester (r : Registry) (id : EngineId) : Option Frame × Registry :=
  ((r.engines[id]?).bind EngineRecord.requester,
    { r with engines := r.engines.modify id fun record => { record with requester := none } })

/-- Remove a record in any state.  Hands back its deletion timer. -/
def remove (r : Registry) (id : EngineId) :
    Option (EngineRecord × Option TimerHandle × Registry) := do
  let record ← r.engines[id]?
  return ({ record with deletion := none }, record.deletion, {
    r with
    engines := r.engines.erase id
    byQueue := r.byQueue.erase record.queue
    byHeart := r.byHeart.erase record.heart
    dead := r.dead.erase record.queue })

/-- Remove the record of a heart if it is still pending. -/
def purgePending (r : Registry) (heart : String) :
    Option (EngineRecord × Option TimerHandle × Registry) := do
  r.remove (← r.pendingForHeart heart)

/-- Mark a queue as that of an engine whose heart has failed. -/
def markDead (r : Registry) (queue : String) : Registry :=
  { r with dead := r.dead.insert queue }

/-- Whether a queue is marked dead. -/
def isDead (r : Registry) (queue : String) : Bool := r.dead.contains queue

/-- The record with a given number. -/
def get (r : Registry) (id : EngineId) : Except Fault EngineRecord :=
  match r.engines[id]? with
  | some record => .ok record
  | none => .error (.unknownEngine id.text)

/-- The number of the engine with a given queue. -/
def idByQueue (r : Registry) (queue : String) : Option EngineId := r.byQueue[queue]?

/-- The number of the engine with a given heart. -/
def idByHeart (r : Registry) (heart : String) : Option EngineId := r.byHeart[heart]?

/-- The record with a given queue. -/
def getByQueue (r : Registry) (queue : String) : Except Fault EngineRecord :=
  match (r.idByQueue queue).bind fun id => r.engines[id]? with
  | some record => .ok record
  | none => .error (.unknownEngine queue)

/-- The active record with a given number. -/
def requireActive (r : Registry) (id : EngineId) : Except Fault EngineRecord :=
  match (r.engines[id]?).filter EngineRecord.isActive with
  | some record => .ok record
  | none => .error (.unknownEngine id.text)

/-- All records, in ascending order of their numbers. -/
def records (r : Registry) : List EngineRecord := r.engines.toList.map Prod.snd

/-- The active records. -/
def active (r : Registry) : List EngineRecord := r.records.filter EngineRecord.isActive

/-- The active records whose hearts have not failed. -/
def live (r : Registry) : List EngineRecord :=
  r.active.filter fun record => !r.isDead record.queue

/-- The number of records. -/
def size (r : Registry) : Nat := r.engines.size

/-- Whether there are no records. -/
def isEmpty (r : Registry) : Bool := r.engines.isEmpty

/-- The number of active records. -/
def activeCount (r : Registry) : Nat := r.active.length

/-- The number of pending records. -/
def pendingCount (r : Registry) : Nat := r.size - r.activeCount

end Registry

end ClusterHub

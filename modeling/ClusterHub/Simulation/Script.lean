import ClusterHub.Reactor.Basic

/-!
# Scripts

Loops whose callbacks are given as data.  Timers have labels under which they
can be cancelled; whatever runs is logged, and then does what its part of the
script says.
-/

namespace ClusterHub.Simulation

/-- What a callback of a script can do. -/
inductive Action
  /-- Schedule a timer that then does something. -/
  | schedule (label : String) (delay : Duration) (next : List Action)
  /-- Cancel the last timer of a label. -/
  | cancel (label : String)
  /-- Let time go by. -/
  | elapse (d : Duration)
  /-- Ask the loop to stop. -/
  | stop
  /-- Send a message into a channel. -/
  | send (channel : String) (message : Message)
deriving Inhabited

/-- A callback of a script: its name and what it does. -/
structure Cue where
  name : String
  next : List Action

/-- What is logged. -/
inductive Event
  | timer (label : String) (now : Instant)
  | message (endpoint : String) (now : Instant) (message : Message)

/-- The label of the timer or the name of the endpoint. -/
def Event.name : Event → String
  | .timer label _ => label
  | .message endpoint _ _ => endpoint

/-- What a script keeps. -/
structure Script where
  /-- What has run, oldest first. -/
  seen : List Event := []
  /-- The handles of timers by label, the last one first. -/
  handles : List (String × TimerHandle) := []
  /-- The channels by name, the last one first. -/
  channels : List (String × InboxId) := []
  /-- The channels that nobody can send to any more. -/
  closed : List InboxId := []

/-- What a script's callbacks see and change. -/
abbrev Stage := Reactor.Scene Script Cue

/-- A loop that follows a script. -/
abbrev ScriptedLoop := Reactor Script Cue Cue

namespace Stage

/-- The handle of the last timer of a label. -/
def handle? (stage : Stage) (label : String) : Option TimerHandle :=
  stage.rest.state.handles.lookup label

/-- Keep the handle of a timer. -/
def keep (stage : Stage) (label : String) (handle : TimerHandle) : Stage :=
  stage.modifyState fun script => { script with handles := (label, handle) :: script.handles }

/-- The last channel of a name. -/
def channel? (stage : Stage) (name : String) : Option InboxId :=
  stage.rest.state.channels.lookup name

/-- The last channel of a name, if it can be sent to. -/
def openChannel? (stage : Stage) (name : String) : Option InboxId :=
  (stage.channel? name).filter fun inbox => !stage.rest.state.closed.contains inbox

/-- Close the last channel of a name for sending. -/
def closeChannel (stage : Stage) (name : String) : Stage :=
  match stage.openChannel? name with
  | none => stage
  | some inbox =>
      (stage.modifyNetwork fun net => net.abandonInbox inbox).modifyState fun script =>
        { script with closed := inbox :: script.closed }

/-- Open a channel, in the place of another one of that name. -/
def addChannel (stage : Stage) (name : String) : Stage :=
  let stage := closeChannel stage name
  let (inbox, network) := stage.rest.network.openInbox true
  (stage.modifyNetwork fun _ => network).modifyState fun script =>
    { script with channels := (name, inbox) :: script.channels }

/-- Do one thing. -/
def perform (stage : Stage) : Action → Stage
  | .schedule label delay next =>
      let (handle, stage) := stage.schedule delay (.own ⟨label, next⟩)
      keep stage label handle
  | .cancel label =>
      match stage.handle? label with
      | some handle => stage.cancel handle
      | none => stage
  | .elapse d => stage.elapse d
  | .stop => stage.requestStop
  | .send channel message =>
      match stage.openChannel? channel with
      | some inbox => stage.modifyNetwork fun net => (net.deliver? inbox message).getD net
      | none => stage

/-- Log an event. -/
def log (stage : Stage) (event : Event) : Stage :=
  stage.modifyState fun script => { script with seen := script.seen ++ [event] }

/-- Take what was logged. -/
def takeSeen (stage : Stage) : List Event × Stage :=
  (stage.rest.state.seen, stage.modifyState fun script => { script with seen := [] })

/-- The callbacks of a script. -/
def handlers : Reactor.Handlers Script Cue Cue where
  message cue message stage :=
    cue.next.foldl perform (log stage (.message cue.name stage.now message))
  timer cue stage := cue.next.foldl perform (log stage (.timer cue.name stage.now))

end Stage

end ClusterHub.Simulation

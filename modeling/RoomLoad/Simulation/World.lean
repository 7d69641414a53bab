import RoomLoad.Channel.Connector
import RoomLoad.Correlator
import RoomLoad.Fifo
import RoomLoad.Simulation.Timer

/-!
# Simulated surroundings

A system of tasks beside scripted channels and a clock that moves only when every
task waits.  Here the calls of the tasks are made and answered.
-/

namespace RoomLoad

structure Slot (τ : Type) where
  task : τ
  /-- Whether the call that it waits for has been made. -/
  called : Bool
  /-- Whether its turn is to come. -/
  queued : Bool

inductive Action where
  | connect (room : RoomId)
  | send (channel : ChannelId) (payload : String)
  | reconnect (channel : ChannelId)
  | close (channel : ChannelId)
deriving DecidableEq

/-- A line of the log of a simulated run. -/
structure LogLine where
  startedAt : Instant
  action : Action
  fault : Option Fault
deriving DecidableEq

/-- A system in its surroundings at one moment. -/
structure World (σ τ : Type) where
  now : Instant
  /-- The least time that a sleep takes. -/
  leastSleep : Nat
  connector : ConnectorScript
  /-- The connects so far, whatever came of them. -/
  connects : Nat
  /-- The connects that reached the service. -/
  accepted : Nat
  channels : Array Channel
  common : σ
  slots : Array (Slot τ)
  /-- The tasks, the one that has rested longest in front. -/
  order : List TaskId
  /-- The task that has its turn, which goes on until it has to wait. -/
  current : Option TaskId
  /-- What happens at this moment, one thing after another. -/
  ready : Fifo Happening
  timers : List Timer
  /-- The tasks that come first when something falls due for several. -/
  foreground : List TaskId
  /-- The log, the last line first. -/
  noted : List LogLine

namespace World

/-- Surroundings before anything has happened. -/
def start {σ τ : Type} (connector : ConnectorScript) (common : σ) (tasks : List τ) :
    World σ τ where
  now := 0
  leastSleep := 0
  connector := connector
  connects := 0
  accepted := 0
  channels := #[]
  common := common
  slots := (tasks.map fun task => ⟨task, false, true⟩).toArray
  order := List.range tasks.length
  current := none
  ready := .ofList ((List.range tasks.length).map .turns)
  timers := []
  foreground := []
  noted := []

variable {σ τ : Type}

def around (peer : Peer) (common : σ) : World σ τ :=
  { (start .plain common [] : World σ τ) with channels := #[⟨1, peer⟩] }

/-- How often the channels have been used together. -/
def usage (world : World σ τ) : Usage :=
  world.channels.foldl (fun total channel => total.add channel.peer.usage) .none

def openChannels (world : World σ τ) : Nat :=
  world.channels.toList.countP fun channel => channel.peer.state.isOpen

def civil (world : World σ τ) : Timestamp :=
  .ofInstant world.now

/-- What tasks see of the surroundings. -/
def view (world : World σ τ) : View where
  now := world.now
  isOpen id :=
    match world.channels[id]? with
    | some channel => channel.peer.state.isOpen
    | none => false

def task? (world : World σ τ) (id : TaskId) : Option τ :=
  world.slots[id]?.map Slot.task

def numbers (world : World σ τ) (tasks : List τ) : List TaskId :=
  (List.range tasks.length).map (world.slots.size + ·)

/-- Adds tasks that have not started, and whose turn is still to be given. -/
def addTasks (world : World σ τ) (tasks : List τ) : World σ τ :=
  { world with
    slots := world.slots ++ (tasks.map fun task => ⟨task, false, true⟩).toArray
    order := world.order ++ world.numbers tasks }

/-- The timer for so long from now, as far as anything can be put off. -/
def timerIn (world : World σ τ) (delay : Duration) (happening : Happening) : Timer :=
  ⟨Timer.roundUp (world.now + min delay.nanos Timer.longestSleep), happening⟩

/-- Sets a timer for so long from now. -/
def schedule (world : World σ τ) (delay : Duration) (happening : Happening) : World σ τ :=
  { world with timers := Timer.insert (world.timerIn delay happening) world.timers }

/-- A task no longer waits for a sleep to end. -/
def withoutWakes (world : World σ τ) (id : TaskId) : World σ τ :=
  { world with
    ready := world.ready.filter (· != .wakes id)
    timers := Timer.withoutWakes id world.timers }

/-- A delay that takes time; one of no length is none. -/
def lasting (delay : Option Duration) : Option Duration :=
  delay.filter fun duration => 0 < duration.nanos

/-- How long a reconnect of a channel takes, if it takes time. -/
def reconnectDelay (world : World σ τ) (channel : ChannelId) : Option Duration :=
  lasting (world.channels[channel]?.bind fun record => record.peer.reconnectDelay)

/-- How long a close of a channel takes, if it takes time. -/
def closeDelay (world : World σ τ) (channel : ChannelId) : Option Duration :=
  lasting (world.channels[channel]?.bind fun record => record.peer.closeDelay)

def changePeer (world : World σ τ) (id : ChannelId) (change : Peer → Peer) : World σ τ :=
  { world with
    channels := world.channels.modify id fun channel =>
      { channel with peer := change channel.peer } }

def note (world : World σ τ) (startedAt : Instant) (action : Action)
    (fault : Option Fault) : World σ τ :=
  { world with noted := ⟨startedAt, action, fault⟩ :: world.noted }

def log (world : World σ τ) : List LogLine := world.noted.reverse

def receive (system : System σ τ) (world : World σ τ) (text : String) : World σ τ :=
  { world with common := system.receive world.now text world.common }

def answer (system : System σ τ) (world : World σ τ) (id : TaskId) (answer : Answer) :
    World σ τ :=
  match world.slots[id]? with
  | none => world
  | some slot =>
      let (common, task) := system.resume world.view id world.common slot.task answer
      let slot := { slot with task := task, called := false }
      { world with common := common, slots := world.slots.setIfInBounds id slot }

/-- Whether a task can go on: it has a move, or a call to make. -/
def canAdvance (system : System σ τ) (world : World σ τ) (id : TaskId) : Bool :=
  match world.slots[id]? with
  | none => false
  | some slot =>
      !(system.moves world.view id world.common slot.task).isEmpty ||
        (!slot.called && (system.call? slot.task).isSome)

/-- Whether a task can go on while nobody has thought of its turn. -/
def isLeftOut (system : System σ τ) (world : World σ τ) (id : TaskId) : Bool :=
  (world.slots[id]?.map Slot.queued) == some false && world.current != some id &&
    world.canAdvance system id

/-- The tasks that are left out get a turn, those that have rested longest first. -/
def enlist (system : System σ τ) (world : World σ τ) : World σ τ :=
  let left := world.order.filter (world.isLeftOut system)
  { world with
    slots := left.foldl (fun slots id =>
      slots.modify id fun slot => { slot with queued := true }) world.slots
    ready := world.ready.append (left.map .turns) }

/-- Something is to happen at this moment, after what is to happen already and after
the turns of the tasks that are left out. -/
def follow (system : System σ τ) (world : World σ τ) (happening : Happening) : World σ τ :=
  let enlisted := world.enlist system
  { enlisted with ready := enlisted.ready.push happening }

def yieldChannel (world : World σ τ) (room : RoomId) : ChannelId × World σ τ :=
  let fresh (plan : StubPlan) : ChannelId × World σ τ :=
    (world.channels.size,
      { world with channels := world.channels.push ⟨room, .stub plan.make⟩ })
  match world.connector.shared with
  | some plan => if world.channels.isEmpty then fresh plan else (0, world)
  | none => fresh (world.connector.planFor world.channels.size room)

def endConnect (system : System σ τ) (world : World σ τ) (id : TaskId) (room : RoomId)
    (number : Nat) (startedAt : Instant) : World σ τ :=
  let refused (world : World σ τ) : World σ τ :=
    let fault := ConnectorScript.refusal room
    (world.note startedAt (.connect room) (some fault)).answer system id (.failed fault)
  if world.connector.turnsAway number room then
    refused world
  else
    let counted := { world with accepted := world.accepted + 1 }
    if world.connector.refuseAll then
      refused counted
    else
      let (channel, made) := counted.yieldChannel room
      (made.note startedAt (.connect room) none).answer system id (.connected channel)

def beginConnect (system : System σ τ) (world : World σ τ) (id : TaskId) (room : RoomId) :
    World σ τ :=
  let number := world.connects
  let counted := { world with connects := number + 1 }
  if world.connector.crashConnectRooms.contains room then
    counted.answer system id .crashed
  else
    match lasting world.connector.delay with
    | none => counted.endConnect system id room number world.now
    | some delay => counted.schedule delay (.connectEnds id room number world.now)

def crashesSend (world : World σ τ) (channel : Channel) (payload : String) : Bool :=
  world.connector.crashSendRooms.contains channel.room ||
    match Stub.payloadSeq? payload with
    | some seq => world.connector.crashSeqs.contains seq
    | none => false

/-- A frame leaves for the listener; without a delay it is there. -/
def dispatch (system : System σ τ) (world : World σ τ) (frame : Dispatch) : World σ τ :=
  match frame.delay with
  | none => world.receive system frame.text
  | some delay => world.follow system (.departs delay frame.text)

/-- A frame that has left on its own takes so long to reach the listener. -/
def depart (system : System σ τ) (world : World σ τ) (delay : Duration) (text : String) :
    World σ τ :=
  let nanos := max delay.nanos world.leastSleep
  if nanos = 0 then world.receive system text
  else world.schedule (.ofNanos nanos) (.arrives text)

/-- A task sends; the frames that arrive at once do so before it goes on. -/
def makeSend (system : System σ τ) (world : World σ τ) (id : TaskId) (channel : ChannelId)
    (payload : String) : World σ τ :=
  match world.channels[channel]? with
  | none => world.answer system id (.failed .notOpen)
  | some record =>
      if world.crashesSend record payload then
        world.answer system id .crashed
      else
        let (outcome, peer) := record.peer.send world.civil payload
        let sent := outcome.frames.foldl (dispatch system) (world.changePeer channel fun _ => peer)
        let line := Action.send channel payload
        match outcome.result with
        | .ok () => (sent.note world.now line none).answer system id .done
        | .error fault => (sent.note world.now line (some fault)).answer system id (.failed fault)

def endReconnect (system : System σ τ) (world : World σ τ) (id : TaskId) (channel : ChannelId) :
    World σ τ :=
  let counts := (world.channels[channel]?.map fun record => record.peer.countsReconnects).getD false
  let counted :=
    if counts then { world with common := system.countReconnect world.common } else world
  (counted.changePeer channel Peer.endReconnect).answer system id .done

def beginReconnect (system : System σ τ) (world : World σ τ) (id : TaskId)
    (channel : ChannelId) : World σ τ :=
  let noted := world.note world.now (.reconnect channel) none
  let begun := noted.changePeer channel Peer.beginReconnect
  match world.reconnectDelay channel with
  | none => begun.endReconnect system id channel
  | some delay => begun.schedule delay (.reconnectEnds id channel)

/-- A task starts to close a channel; a close that takes no time is over at once. -/
def beginClose (id : TaskId) (world : World σ τ) (channel : ChannelId) : World σ τ :=
  let noted := world.note world.now (.close channel) none
  match world.closeDelay channel with
  | none => noted.changePeer channel Peer.shut
  | some delay => noted.schedule delay (.closeEnds id channel)

/-- How long the slowest of some closes takes, in nanoseconds. -/
def slowestClose (world : World σ τ) (channels : List ChannelId) : Nat :=
  channels.foldl (fun slowest channel =>
    match world.closeDelay channel with
    | none => slowest
    | some delay => max slowest delay.nanos) 0

def sleep (system : System σ τ) (world : World σ τ) (id : TaskId) (duration : Duration) :
    World σ τ :=
  if duration.nanos = 0 then
    world.answer system id .done
  else
    world.schedule duration (.wakes id)

/-- Waits until a moment, which may be over already. -/
def waitUntil (system : System σ τ) (world : World σ τ) (id : TaskId) (deadline : Instant) :
    World σ τ :=
  if deadline ≤ world.now then
    world.answer system id .done
  else
    let timer : Timer := ⟨Timer.roundUp deadline, .wakes id⟩
    { world with timers := Timer.insert timer world.timers }

def makeCall (system : System σ τ) (world : World σ τ) (id : TaskId) (call : Call) :
    World σ τ :=
  match call with
  | .connect room => world.beginConnect system id room
  | .reconnect channel => world.beginReconnect system id channel
  | .close channels =>
      let slowest := world.slowestClose channels
      (channels.foldl (beginClose id) world).sleep system id (.ofNanos slowest)
  | .send channel payload => world.makeSend system id channel payload
  | .sleep duration =>
      world.sleep system id (.ofNanos (max duration.nanos world.leastSleep))
  | .wait deadline => world.waitUntil system id deadline

def happen (system : System σ τ) (world : World σ τ) : Happening → World σ τ
  | .turns id =>
      { world with slots := world.slots.modify id fun slot => { slot with queued := false } }
  | .connectEnds id room number startedAt => world.endConnect system id room number startedAt
  | .reconnectEnds id channel => world.endReconnect system id channel
  | .closeEnds _ channel => world.changePeer channel Peer.shut
  | .wakes id => world.answer system id .done
  | .departs delay text => world.depart system delay text
  | .arrives text => world.receive system text

end World

end RoomLoad

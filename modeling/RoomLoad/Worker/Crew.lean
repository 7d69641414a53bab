import RoomLoad.Simulation.Course
import RoomLoad.Worker.Basic

/-!
# A crew of workers

Workers alone, beside a queue that somebody else fills.
-/

namespace RoomLoad

def crew : System Desk Worker where
  call? := Worker.call?
  moves := Worker.moves
  resume _ := Worker.resume
  receive := Desk.receive
  countReconnect := Desk.countReconnect

namespace Crew

abbrev World := RoomLoad.World Desk Worker

/-- A crew of so many workers before a queue that holds some items, with one
sender left. -/
def start (connector : ConnectorScript) (policy : RetryPolicy) (workers capacity : Nat)
    (items : List Envelope) (shutdown : Bool) : World :=
  .start connector (.fresh ⟨capacity, .ofList items, 1, workers⟩ shutdown)
    (List.replicate workers (.start policy))

def isWorking (world : World) : Bool :=
  world.slots.any fun slot => !slot.task.hasEnded

/-- Puts an item into the queue, if it has room and anybody is left to take it. -/
def push (envelope : Envelope) (world : World) : World :=
  match world.common.queue.offer envelope with
  | .accepted queue => { world with common.queue := queue }
  | _ => world

def shutDown (world : World) : World :=
  { world with common.shutdown := true }

/-- Lets go of the sender, so that an empty queue ends. -/
def hangUp (world : World) : World :=
  { world with common.queue := world.common.queue.dropSender }

/-- Something that happens while a crew is at work. -/
inductive Event where
  | shutdown
  /-- Somebody offers an item to the queue. -/
  | push (envelope : Envelope)
  /-- A channel loses its connection. -/
  | loss (channel : ChannelId)
  | frame (text : String)

def change (event : Event) (world : World) : World :=
  match event with
  | .shutdown => shutDown world
  | .push envelope => push envelope world
  | .loss channel => world.changePeer channel Peer.shut
  | .frame text => world.receive crew text

/-- An event happens at a moment, before whatever is due then, and the workers do what
they can at once. -/
def happen (world : World) (moment : Instant) (event : Event) : World :=
  (change event (world.notBefore moment).fire).catchUp crew

/-- Goes on until every worker has ended; after the last event the sender is let go
of.  The second part are the events that had not happened by then. -/
def workOn (world : World) : List (Instant × Event) → World × List (Instant × Event)
  | [] => ((hangUp world).runWhile crew isWorking none World.patience, [])
  | (moment, event) :: later =>
      let reached := world.runWhile crew isWorking (some moment) World.patience
      if isWorking reached then
        workOn (happen reached moment event) later
      else
        (reached, (moment, event) :: later)

/-- Works from the start, when the workers do what they can before any event. -/
def work (world : World) (events : List (Instant × Event)) :
    World × List (Instant × Event) :=
  workOn (world.catchUp crew) events

/-- Goes on until the clock shows a moment, with the events that happen up to
then. -/
def idle (moment : Instant) (world : World) (events : List (Instant × Event)) : World :=
  let due := events.filter fun event => event.1 ≤ moment
  let after := due.foldl (fun world (time, event) =>
    happen (world.runWhile crew (fun _ => true) (some time) World.patience) time event) world
  after.runUntil crew moment

def report (world : World) : WorkerReport :=
  (world.slots.toList.filter fun slot => slot.task.phase == .finished).foldl
    (fun total slot => total.add slot.task.report) .fresh

end Crew

end RoomLoad

import RoomLoad.Config.Validity
import RoomLoad.Generator
import RoomLoad.Run.Summary
import RoomLoad.Simulation.Course
import RoomLoad.Worker.Basic

/-!
# The main phase

A conductor checks the settings, connects to every room, starts the generator and
the workers, waits for them, waits for outstanding acknowledgements, and closes
every channel.
-/

namespace RoomLoad

/-- What the tasks of a main phase share. -/
structure RunState where
  config : Config
  desk : Desk
  /-- Whether the generator and the workers may begin. -/
  launched : Bool
  /-- The report of the generator once it has ended. -/
  generated : Option GeneratorReport
  /-- How many workers have ended, with or without a report. -/
  ended : Nat
  /-- The reports of the workers that have ended, added up. -/
  tally : WorkerReport

inductive ConductorPhase where
  | starting
  /-- Looks up the channel of a room, which connects to it. -/
  | prewarming (room : Nat) (lookup : Lookup)
  | launching
  /-- Waits for the generator and the workers. -/
  | awaiting
  /-- Looks whether acknowledgements are outstanding. -/
  | draining (deadline : Instant)
  /-- Waits before it looks again. -/
  | pausing (deadline : Instant) (interval : Duration)
  /-- The drain is over; channels are to be closed. -/
  | clearing (drainTimedOut : Bool)
  | closing (channels : List ChannelId) (drainTimedOut : Bool)
  | finished (result : Except Fault RunSummary)
  /-- Went down in the middle of its work. -/
  | crashed

inductive RunTask where
  | conductor (phase : ConductorPhase)
  | generator (generator : Generator)
  | worker (worker : Worker)

def Config.generatorPlan (config : Config) : Except Fault GeneratorPlan :=
  GeneratorPlan.make config.totalMessages config.senderWorkers
    (standardTemplates config.messagePoolSize)
    config.users config.rooms

namespace RunState

def start (config : Config) (shutdown : Bool) : RunState where
  config := config
  desk := .fresh ⟨config.queueCapacity, .empty, 1, config.senderWorkers⟩ shutdown
  launched := false
  generated := none
  ended := 0
  tally := .fresh

def withPool (state : RunState) (pool : Pool) : RunState :=
  { state with desk := { state.desk with pool := pool } }

def changeMetrics (state : RunState) (change : Metrics → Metrics) : RunState :=
  { state with
    desk := { state.desk with
      ledger := { state.desk.ledger with metrics := change state.desk.ledger.metrics } } }

def inflight (state : RunState) : Nat :=
  state.desk.ledger.correlator.inflight.length

def summary (state : RunState) (generated : GeneratorReport) (drainTimedOut : Bool)
    (now : Instant) : RunSummary where
  total := state.config.totalMessages
  generated := generated.produced
  sent := state.tally.sent
  abandoned := state.tally.abandoned
  unacknowledged := state.inflight
  unparseable := state.desk.ledger.correlator.unparseable
  uncorrelated := state.desk.ledger.correlator.uncorrelated
  interrupted := generated.interrupted || state.tally.interrupted || state.desk.shutdown
  drainTimedOut := drainTimedOut
  metrics := state.desk.ledger.metrics.snapshot now

end RunState

namespace Conductor

def call? : ConductorPhase → Option Call
  | .prewarming room lookup => lookup.call? (UInt32.ofNat room)
  | .pausing _ interval => some (.sleep interval)
  | .closing channels _ => some (.close channels)
  | _ => none

/-- The room after one that is looked up, or the start of the run. -/
def nextRoom (config : Config) (room : Nat) : ConductorPhase :=
  if room < config.rooms.high.toNat then .prewarming (room + 1) .looking else .launching

def afterLookup (config : Config) (room : Nat) :
    Progress Lookup Lookup.Result → ConductorPhase
  | .going lookup => .prewarming room lookup
  | .ended _ => nextRoom config room

def moves (view : View) (task : TaskId) (state : RunState) :
    ConductorPhase → List (RunState × ConductorPhase)
  | .starting =>
      match state.config.validate with
      | .error fault => [(state, .finished (.error fault))]
      | .ok () => [(state, .prewarming state.config.rooms.low.toNat .looking)]
  | .prewarming room lookup =>
      match lookup.move? view task (UInt32.ofNat room) state.desk.pool with
      | some (pool, progress) =>
          [(state.withPool pool, afterLookup state.config room progress)]
      | none => []
  | .launching =>
      match state.config.generatorPlan with
      | .error fault => [(state, .finished (.error fault))]
      | .ok _ =>
          let started := state.changeMetrics fun metrics => metrics.start view.now
          [({ started with launched := true }, .awaiting)]
  | .awaiting =>
      if state.generated.isSome && state.config.senderWorkers ≤ state.ended then
        match deadline? view.now state.config.drainTimeout with
        | some deadline => [(state, .draining deadline)]
        | none => [(state, .crashed)]
      else []
  | .draining deadline =>
      if state.inflight = 0 || state.desk.shutdown then [(state, .clearing false)]
      else if deadline ≤ view.now then [(state, .clearing true)]
      else [(state, .pausing deadline state.config.drainPollInterval)]
  | .pausing _ _ => []
  | .clearing timedOut =>
      let channels := state.desk.pool.channels.map Prod.snd
      [(state.withPool state.desk.pool.clear, .closing channels timedOut)]
  | .closing _ _ => []
  | .finished _ => []
  | .crashed => []

def resume (view : View) (task : TaskId) (state : RunState) (phase : ConductorPhase)
    (answer : Answer) : RunState × ConductorPhase :=
  match phase, answer with
  | _, .crashed => (state.withPool (state.desk.pool.forget task), .crashed)
  | .prewarming room lookup, answer =>
      let (pool, progress) := lookup.resume (UInt32.ofNat room) state.desk.pool answer
      (state.withPool pool, afterLookup state.config room progress)
  | .pausing deadline _, .done => (state, .draining deadline)
  | .closing _ timedOut, .done =>
      let stopped := state.changeMetrics fun metrics => metrics.stop view.now
      let generated := state.generated.getD ⟨0, true⟩
      (stopped, .finished (.ok (stopped.summary generated timedOut view.now)))
  | phase, _ => (state, phase)

end Conductor

namespace RunTask

/-- The state after a step of a worker; one that has ended hands in its report. -/
def afterWorker (state : RunState) (after : Desk × Worker) : RunState × RunTask :=
  let (desk, next) := after
  let moved := { state with desk := desk }
  match next.phase with
  | .finished =>
      ({ moved with ended := state.ended + 1, tally := state.tally.add next.report }, worker next)
  | .crashed => ({ moved with ended := state.ended + 1 }, worker next)
  | _ => (moved, worker next)

def call? : RunTask → Option Call
  | conductor phase => Conductor.call? phase
  | generator _ => none
  | worker inner => inner.call?

/-- The moves that a task can make.  Nobody but the conductor moves before the
launch. -/
def moves (view : View) (task : TaskId) (state : RunState) :
    RunTask → List (RunState × RunTask)
  | conductor phase =>
      (Conductor.moves view task state phase).map fun (later, next) => (later, conductor next)
  | generator inner =>
      if state.launched then
        match inner.step? (.ofInstant view.now) state.desk.queue with
        | some (next, queue) =>
            [({ state with desk := { state.desk with queue := queue }, generated := next.report? },
              generator next)]
        | none => []
      else []
  | worker inner =>
      if state.launched then (inner.moves view task state.desk).map (afterWorker state) else []

def resume (view : View) (task : TaskId) (state : RunState) (running : RunTask)
    (answer : Answer) : RunState × RunTask :=
  match running with
  | conductor phase =>
      let (later, next) := Conductor.resume view task state phase answer
      (later, conductor next)
  | generator inner => (state, generator inner)
  | worker inner => afterWorker state (inner.resume task state.desk answer)

end RunTask

def mainPhase : System RunState RunTask where
  call? := RunTask.call?
  moves := RunTask.moves
  resume := RunTask.resume
  receive now text state := { state with desk := state.desk.receive now text }
  countReconnect state := { state with desk := state.desk.countReconnect }

namespace MainPhase

abbrev World := RoomLoad.World RunState RunTask

/-- The tasks that settings ask for: a conductor, and a generator and workers if the
settings are valid. -/
def tasks (config : Config) (source : RandomSource) : List RunTask :=
  match config.defect?, config.generatorPlan with
  | none, .ok plan =>
      .conductor .starting :: .generator (plan.start source) ::
        List.replicate config.senderWorkers (.worker (.start config.retry))
  | _, _ => [.conductor .starting]

def start (connector : ConnectorScript) (config : Config) (source : RandomSource)
    (shutdown : Bool) : World :=
  .start connector (.start config shutdown) (tasks config source)

def result? (world : World) : Option (Except Fault RunSummary) :=
  match world.task? 0 with
  | some (.conductor (.finished result)) => some result
  | _ => none

def isRunning (world : World) : Bool :=
  match world.task? 0 with
  | some (.conductor (.finished _)) => false
  | some (.conductor .crashed) => false
  | _ => true

def shutDown (world : World) : World :=
  { world with
    common := { world.common with desk := { world.common.desk with shutdown := true } } }

/-- Goes on until the conductor has ended, or up to `limit`. -/
def run (limit : Option Instant) (world : World) : World :=
  world.runWhile mainPhase isRunning limit World.patience

/-- Whether the conductor is still at work when the clock shows a moment. -/
def isRunningAt (moment : Instant) (world : World) : Bool :=
  isRunning (run (some moment) world)

/-- Goes on until the conductor has ended; a run that is still going on at a moment is
then asked to stop. -/
def runAskedToStop (moment : Instant) (world : World) : World :=
  let reached := run (some moment) world
  if isRunning reached then run none (shutDown (reached.notBefore moment)) else reached

def records (world : World) : List LatencyRecord :=
  world.common.desk.ledger.correlator.records

end MainPhase

end RoomLoad

import RoomLoad.Correlator
import RoomLoad.Pool.Lookup
import RoomLoad.Pool.Reopening
import RoomLoad.Retry
import RoomLoad.UnitQueue

/-!
# Sender workers

A worker takes units from the queue and delivers them one by one.  For each try it
looks up the channel of the room, reopens it if it is lost, enters the unit as in
flight and sends it.  A send that fails withdraws the entry; if the entry is gone
the unit was acknowledged nevertheless and counts as delivered.
-/

namespace RoomLoad

/-- What workers share. -/
structure Desk where
  ledger : Ledger
  pool : Pool
  queue : UnitQueue
  /-- Whether the run has been asked to stop. -/
  shutdown : Bool

structure WorkerReport where
  sent : Nat
  abandoned : Nat
  /-- Whether it stopped because the run was asked to stop. -/
  interrupted : Bool
deriving DecidableEq

namespace WorkerReport

def fresh : WorkerReport := ⟨0, 0, false⟩

def add (left right : WorkerReport) : WorkerReport :=
  ⟨left.sent + right.sent, left.abandoned + right.abandoned,
    left.interrupted || right.interrupted⟩

end WorkerReport

inductive WorkerPhase where
  /-- Before it asks for the next unit. -/
  | ready
  | receiving
  /-- Before a try to deliver a unit. -/
  | trying (unit : OutboundUnit)
  | resolving (unit : OutboundUnit) (lookup : Lookup)
  | checking (unit : OutboundUnit) (channel : ChannelId)
  | reopening (unit : OutboundUnit) (channel : ChannelId) (reopening : Reopening)
  | registering (unit : OutboundUnit) (channel : ChannelId)
  | sending (unit : OutboundUnit) (channel : ChannelId)
  /-- The send has failed, and the entry is to be withdrawn. -/
  | withdrawing (unit : OutboundUnit)
  /-- The try has failed. -/
  | failing (unit : OutboundUnit)
  /-- Waits before the next try. -/
  | resting (unit : OutboundUnit)
  | finished
  /-- Went down in the middle of its work; its totals are lost. -/
  | crashed
deriving DecidableEq

structure Worker where
  policy : RetryPolicy
  report : WorkerReport
  phase : WorkerPhase
deriving DecidableEq

namespace Worker

def start (policy : RetryPolicy) : Worker := ⟨policy, .fresh, .ready⟩

def hasEnded (worker : Worker) : Bool :=
  worker.phase == .finished || worker.phase == .crashed

def goTo (worker : Worker) (phase : WorkerPhase) : Worker :=
  { worker with phase := phase }

def deliver (worker : Worker) : Worker :=
  { worker with report.sent := worker.report.sent + 1, phase := .ready }

def abandon (desk : Desk) (worker : Worker) : Desk × Worker :=
  ({ desk with ledger := desk.ledger.countFailure },
    { worker with report.abandoned := worker.report.abandoned + 1, phase := .ready })

/-- The worker ends and lets go of the queue. -/
def finish (desk : Desk) (worker : Worker) : Desk × Worker :=
  ({ desk with queue := desk.queue.dropReceiver }, worker.goTo .finished)

/-- The worker ends because the run was asked to stop. -/
def stop (desk : Desk) (worker : Worker) : Desk × Worker :=
  finish desk { worker with report.interrupted := true }

/-- The worker gives up its unit because the run was asked to stop. -/
def interrupt (desk : Desk) (worker : Worker) : Desk × Worker :=
  let (counted, idle) := worker.abandon desk
  stop counted idle

def call? (worker : Worker) : Option Call :=
  match worker.phase with
  | .resolving unit lookup => lookup.call? unit.room
  | .reopening _ channel reopening => reopening.call? channel
  | .sending unit channel => some (.send channel unit.wireText)
  | .resting unit => some (.sleep (worker.policy.backoff unit.attempt))
  | _ => none

def afterLookup (worker : Worker) (unit : OutboundUnit) :
    Progress Lookup Lookup.Result → Worker
  | .going lookup => worker.goTo (.resolving unit lookup)
  | .ended (.ok channel) => worker.goTo (.checking unit channel)
  | .ended (.error _) => worker.goTo (.failing unit)

def afterReopening (worker : Worker) (unit : OutboundUnit) (channel : ChannelId) :
    Progress Reopening Reopening.Result → Worker
  | .going reopening => worker.goTo (.reopening unit channel reopening)
  | .ended (.ok ()) => worker.goTo (.registering unit channel)
  | .ended (.error _) => worker.goTo (.failing unit)

/-- What a worker can do that waits for the queue: take what there is, or stop if
the run was asked to. -/
def receive (desk : Desk) (worker : Worker) : List (Desk × Worker) :=
  let taken :=
    match desk.queue.take with
    | .item (.unit unit) queue => [({ desk with queue := queue }, worker.goTo (.trying unit))]
    | .item .stop queue => [finish { desk with queue := queue } worker]
    | .disconnected => [finish desk worker]
    | .empty => []
  if desk.shutdown then taken ++ [worker.stop desk] else taken

def moves (view : View) (task : TaskId) (desk : Desk) (worker : Worker) :
    List (Desk × Worker) :=
  match worker.phase with
  | .ready => if desk.shutdown then [worker.stop desk] else [(desk, worker.goTo .receiving)]
  | .receiving => worker.receive desk
  | .trying unit =>
      if unit.attempt < worker.policy.maxAttempts then
        [(desk, worker.goTo (.resolving unit .looking))]
      else
        [worker.abandon desk]
  | .resolving unit lookup =>
      match lookup.move? view task unit.room desk.pool with
      | some (pool, progress) =>
          [({ desk with pool := pool }, worker.afterLookup unit progress)]
      | none => []
  | .checking unit channel =>
      if view.isOpen channel then [(desk, worker.goTo (.registering unit channel))]
      else [(desk, worker.goTo (.reopening unit channel .asking))]
  | .reopening unit channel reopening =>
      match reopening.move? view task channel desk.pool with
      | some (pool, progress) =>
          [({ desk with pool := pool }, worker.afterReopening unit channel progress)]
      | none => []
  | .registering unit channel =>
      [({ desk with ledger := desk.ledger.onSend view.now unit },
        worker.goTo (.sending unit channel))]
  | .sending _ _ => []
  | .withdrawing unit =>
      let (existed, ledger) := desk.ledger.withdraw unit.seq
      [({ desk with ledger := ledger },
        if existed then worker.goTo (.failing unit) else worker.deliver)]
  | .failing unit =>
      let next := unit.nextAttempt
      if next.attempt < worker.policy.maxAttempts then
        [(desk, worker.goTo (.resting next))]
      else
        [worker.abandon desk]
  | .resting _ => if desk.shutdown then [worker.interrupt desk] else []
  | .finished => []
  | .crashed => []

/-- A worker goes down: it lets go of the queue and of the pool's lock. -/
def crash (task : TaskId) (desk : Desk) (worker : Worker) : Desk × Worker :=
  ({ desk with pool := desk.pool.forget task, queue := desk.queue.dropReceiver },
    worker.goTo .crashed)

/-- How a worker goes on when its call is answered. -/
def resume (task : TaskId) (desk : Desk) (worker : Worker) (answer : Answer) :
    Desk × Worker :=
  match worker.phase, answer with
  | _, .crashed => worker.crash task desk
  | .resolving unit lookup, answer =>
      let (pool, progress) := lookup.resume unit.room desk.pool answer
      ({ desk with pool := pool }, worker.afterLookup unit progress)
  | .reopening unit channel reopening, answer =>
      let (pool, progress) := reopening.resume desk.pool answer
      ({ desk with pool := pool }, worker.afterReopening unit channel progress)
  | .sending _ _, .done => (desk, worker.deliver)
  | .sending unit _, .failed _ => (desk, worker.goTo (.withdrawing unit))
  | .resting unit, .done => (desk, worker.goTo (.trying unit))
  | _, _ => (desk, worker)

end Worker

namespace Desk

def fresh (queue : UnitQueue) (shutdown : Bool) : Desk := ⟨.fresh, .empty, queue, shutdown⟩

def receive (now : Instant) (text : String) (desk : Desk) : Desk :=
  { desk with ledger := (desk.ledger.onAck now text).2 }

def countReconnect (desk : Desk) : Desk :=
  { desk with ledger := desk.ledger.countReconnection }

end Desk

end RoomLoad

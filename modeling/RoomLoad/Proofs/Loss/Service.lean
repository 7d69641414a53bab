import RoomLoad.Channel.Stub
import RoomLoad.Proofs.Delivery.Disposition
import RoomLoad.Proofs.Wire.RoundTrip

/-!
# Crews before a service that loses connections

The channels of a crew are stubs, and what has become of them is read off the steps of a
run.  Workers take turns: one that has its turn goes on until it has to wait, and only while
all of them wait may a connection be lost.
-/

namespace RoomLoad

/-- Whether every send on an open channel succeeds. -/
structure StubScript.Delivers (script : StubScript) : Prop where
  failingSeqs : script.failingSeqs = []
  failAll : script.failAll = false
  failAfterEcho : script.failAfterEcho = false

namespace Stub

theorem script_send (stub : Stub) (now : Timestamp) (payload : String) :
    (stub.send now payload).2.script = stub.script := by
  unfold send
  dsimp only
  split
  case isTrue => rfl
  case isFalse =>
    split
    case h_1 => rfl
    case h_2 =>
      split
      case h_1 => rfl
      case h_2 =>
        split
        case isTrue => rfl
        case isFalse => split <;> rfl

theorem script_beginReconnect (stub : Stub) : stub.beginReconnect.script = stub.script := by
  unfold beginReconnect
  dsimp only
  split <;> rfl

theorem exists_echo (script : StubScript) (now : Timestamp) (unit : OutboundUnit) :
    ∃ frames, echo script now unit.wireText = .ok frames := by
  unfold echo
  split
  case isTrue =>
    rw [ChatPayload.parse, OutboundUnit.wireText, ChatPayload.parse?_wireText]
    exact ⟨_, rfl⟩
  case isFalse => exact ⟨[], rfl⟩

theorem send_unit {stub : Stub} (delivers : stub.script.Delivers)
    (isOpen : stub.state.isOpen = true) (now : Timestamp) (unit : OutboundUnit) :
    (stub.send now unit.wireText).1.result = .ok () := by
  have unscripted : scriptedFault? stub.script unit.wireText = none := by
    unfold scriptedFault?
    rw [delivers.failAll, if_neg Bool.false_ne_true]
    split
    case h_1 => simp [delivers.failingSeqs]
    case h_2 => rfl
  obtain ⟨frames, echoed⟩ := exists_echo stub.script now unit
  simp only [send, isOpen, Bool.not_true, Bool.false_eq_true, if_false, unscripted, echoed,
    delivers.failAfterEcho]
  split <;> rfl

end Stub

abbrev Stubs := ChannelId → Stub

namespace Stubs

def change (stubs : Stubs) (channel : ChannelId) (effect : Stub → Stub) : Stubs := fun other =>
  if other = channel then effect (stubs other) else stubs other

def beginCall (stubs : Stubs) : Call → Stubs
  | .reconnect channel => stubs.change channel Stub.beginReconnect
  | _ => stubs

def endCall (stubs : Stubs) (now : Timestamp) : Call → Stubs
  | .reconnect channel => stubs.change channel Stub.endReconnect
  | .close channels => fun other =>
      if channels.contains other then (stubs other).shut else stubs other
  | .send channel payload => stubs.change channel fun stub => (stub.send now payload).2
  | _ => stubs

/-- The connections that are lost: those of open channels that are seen to be closed. -/
def lose (stubs : Stubs) (view : View) : Stubs := fun other =>
  if (stubs other).state.isOpen && !view.isOpen other then (stubs other).shut else stubs other

/-- Whether a call can return with an answer: no connect is refused, and a send succeeds if
its channel says so. -/
def replies (stubs : Stubs) (now : Timestamp) : Call → Answer → Bool
  | .connect _, .connected _ => true
  | .connect _, _ => false
  | .send channel payload, answer =>
      match ((stubs channel).send now payload).1.result, answer with
      | .ok (), .done => true
      | .error fault, .failed other => fault == other
      | _, _ => false
  | _, .done => true
  | _, _ => false

variable {stubs : Stubs} {now : Timestamp} {channel : ChannelId}

theorem script_change {effect : Stub → Stub} (keeps : ∀ stub, (effect stub).script = stub.script)
    (other : ChannelId) : (stubs.change channel effect other).script = (stubs other).script := by
  unfold change
  split
  case isTrue => exact keeps _
  case isFalse => rfl

theorem script_beginCall (call : Call) (other : ChannelId) :
    (stubs.beginCall call other).script = (stubs other).script := by
  cases call with
  | reconnect channel => exact script_change Stub.script_beginReconnect other
  | _ => rfl

theorem script_endCall (call : Call) (other : ChannelId) :
    (stubs.endCall now call other).script = (stubs other).script := by
  cases call with
  | reconnect channel => exact @script_change stubs channel Stub.endReconnect (fun _ => rfl) other
  | send channel payload => exact script_change (fun stub => stub.script_send now payload) other
  | close channels =>
      simp only [endCall]
      split <;> rfl
  | _ => rfl

theorem script_lose (view : View) (other : ChannelId) :
    (stubs.lose view other).script = (stubs other).script := by
  rw [lose]
  split <;> rfl

/-- Nothing is lost while everything is seen as it is. -/
theorem lose_of_seen {view : View}
    (seen : ∀ channel, view.isOpen channel = (stubs channel).state.isOpen) :
    stubs.lose view = stubs := by
  funext other
  simp [lose, seen]

theorem exists_reply (stubs : Stubs) (now : Timestamp) (call : Call) :
    ∃ answer, call.Returns answer ∧ stubs.replies now call answer = true := by
  cases call with
  | connect room => exact ⟨.connected 0, .connected room 0, rfl⟩
  | reconnect channel => exact ⟨.done, .reconnected channel, rfl⟩
  | close channels => exact ⟨.done, .closed channels, rfl⟩
  | send channel payload =>
      cases outcome : ((stubs channel).send now payload).1.result with
      | ok nothing =>
          refine ⟨.done, .sent channel payload, ?_⟩
          simp [replies, outcome]
      | error fault =>
          refine ⟨.failed fault, .unsent channel payload fault, ?_⟩
          simp [replies, outcome]
  | sleep duration => exact ⟨.done, .slept duration, rfl⟩
  | wait deadline => exact ⟨.done, .waited deadline, rfl⟩

theorem eq_done_of_replies {unit : OutboundUnit} {answer : Answer}
    (delivers : (stubs channel).script.Delivers) (isOpen : (stubs channel).state.isOpen = true)
    (replied : stubs.replies now (.send channel unit.wireText) answer = true) :
    answer = .done := by
  have succeeds := Stub.send_unit delivers isOpen now unit
  simp only [replies, succeeds] at replied
  cases answer <;> first | rfl | contradiction

end Stubs

namespace WorkerPhase

/-- Whether a worker lets others have their turns: it has not begun, or it has to wait. -/
def yields : WorkerPhase → Bool
  | ready => true
  | receiving => true
  | resolving _ .waiting => true
  | resolving _ .connecting => true
  | resolving _ (.closing _ _) => true
  | reopening _ _ .waiting => true
  | reopening _ _ .reconnecting => true
  | resting _ => true
  | finished => true
  | crashed => true
  | _ => false

def looksAt? (pool : Pool) : WorkerPhase → Option ChannelId
  | resolving unit .looking => pool.channel? unit.room
  | resolving unit .rechecking => pool.channel? unit.room
  | checking _ channel => some channel
  | reopening _ channel .checking => some channel
  | _ => none

end WorkerPhase

namespace Crew

/-- What a step of a worker does to the channels: a move may make a call, and an answer ends
one. -/
def afterWorker (stubs : Stubs) (now : Timestamp) (answer : Option Answer) (worker next : Worker) :
    Stubs :=
  match answer with
  | none => next.call?.elim stubs stubs.beginCall
  | some _ => worker.call?.elim stubs (stubs.endCall now)

/-- What a step does to the channels. -/
def afterStep (stubs : Stubs) (transition : Transition Desk Worker) : Stubs :=
  match transition.act with
  | .shift =>
      if transition.before.tasks.all fun worker => worker.phase.yields then
        stubs.lose transition.after.view
      else stubs
  | act =>
      match office.worked? transition with
      | some (_, worker, next) =>
          afterWorker stubs (.ofInstant transition.before.view.now) act.answer? worker next
      | none => stubs

/-- What has become of the channels. -/
def served (stubs : Stubs) (trace : List (Transition Desk Worker)) : Stubs :=
  trace.foldl afterStep stubs

/-- Whether it can be a worker's turn: all others wait. -/
def takesTurn (situation : Situation Desk Worker) (id : TaskId) : Bool :=
  (situation.tasks.eraseIdx id).all fun worker => worker.phase.yields

/-- Whether a worker sees the channel that it looks at as it is. -/
def sees (stubs : Stubs) (situation : Situation Desk Worker) (id : TaskId) : Bool :=
  (situation.tasks[id]?.bind fun worker =>
    worker.phase.looksAt? situation.common.pool).all fun channel =>
      situation.view.isOpen channel == (stubs channel).state.isOpen

/-- Whether the call of a worker can return with an answer. -/
def answers (stubs : Stubs) (situation : Situation Desk Worker) (id : TaskId) (answer : Answer) :
    Bool :=
  (situation.tasks[id]?.bind Worker.call?).all fun call =>
    stubs.replies (.ofInstant situation.view.now) call answer

/-- What else may happen: somebody puts an item into the queue whose unit was not tried yet,
or lets go of the queue. -/
inductive Brings (desk : Desk) : Desk → Prop where
  | push {envelope : Envelope} {queue : UnitQueue} :
      desk.queue.offer envelope = .accepted queue →
      (∀ unit, envelope = .unit unit → unit.attempt = 0) →
      Brings desk { desk with queue := queue }
  | hangUp : Brings desk { desk with queue := desk.queue.dropSender }

/-- A service that answers every call and loses connections as it likes, before workers that
take turns. -/
def service (stubs : Stubs) : Rules Desk Worker := fun trace transition =>
  match transition.act with
  | .move id =>
      takesTurn transition.before id = true ∧
        sees (served stubs trace) transition.before id = true
  | .answer id answer =>
      takesTurn transition.before id = true ∧
        answers (served stubs trace) transition.before id answer = true
  | .outside => Brings transition.before.common transition.after.common
  | .begin _ => False
  | _ => True

variable {stubs : Stubs} {trace : List (Transition Desk Worker)}
  {transition : Transition Desk Worker}

theorem served_append : served stubs (trace ++ [transition]) =
    afterStep (served stubs trace) transition := by
  simp [served]

theorem script_afterWorker {now : Timestamp} {answer : Option Answer} {worker next : Worker}
    (channel : ChannelId) :
    (afterWorker stubs now answer worker next channel).script = (stubs channel).script := by
  cases answer with
  | none =>
      rw [afterWorker]
      cases next.call? with
      | none => rfl
      | some call => exact Stubs.script_beginCall call channel
  | some answer =>
      rw [afterWorker]
      cases worker.call? with
      | none => rfl
      | some call => exact Stubs.script_endCall call channel

theorem script_afterStep (channel : ChannelId) :
    (afterStep stubs transition channel).script = (stubs channel).script := by
  cases acts : transition.act with
  | shift =>
      simp only [afterStep, acts]
      split
      case isTrue => exact Stubs.script_lose _ channel
      case isFalse => rfl
  | _ =>
      simp only [afterStep, acts]
      cases office.worked? transition with
      | none => rfl
      | some found => exact script_afterWorker channel

theorem script_served (channel : ChannelId) :
    (served stubs trace channel).script = (stubs channel).script := by
  induction trace generalizing stubs with
  | nil => rfl
  | cons first rest induction =>
      rw [served, List.foldl_cons]
      exact induction.trans (script_afterStep channel)

end Crew

end RoomLoad

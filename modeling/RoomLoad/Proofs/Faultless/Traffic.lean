import RoomLoad.Proofs.Handoff.Steps
import RoomLoad.Proofs.Loss.Service

/-!
# Main phases before a faultless service

Every connect yields a new open stub that echoes what it is sent, during the send or some
time behind it, and whatever is due happens when it is due.  Which channels there are and
which echoes are on their way is read off the steps of a run.
-/

namespace RoomLoad

/-- An open stub without faults that echoes every unit, and takes less time for it than
somebody waits. -/
structure Stub.Echoes (stub : Stub) (patience : Duration) : Prop where
  delivers : stub.script.Delivers
  listens : stub.script.listens = true
  lasts : stub.script.closeAfter = none
  isOpen : stub.state.isOpen = true
  inTime : ∀ delay, stub.script.echoDelay = some delay → delay.nanos < patience.nanos

namespace Stub

theorem echo_unit {script : StubScript} (listens : script.listens = true) (now : Timestamp)
    (unit : OutboundUnit) : echo script now unit.wireText =
      .ok [⟨script.echoDelay, (AckFrame.echo unit.payload now).wireText⟩] := by
  rw [echo, if_pos listens, ChatPayload.parse, OutboundUnit.wireText,
    ChatPayload.parse?_wireText]

/-- A stub that does not close by itself is as open behind a send as before it. -/
theorem state_send {stub : Stub} (lasts : stub.script.closeAfter = none) (now : Timestamp)
    (payload : String) : (stub.send now payload).2.state = stub.state := by
  unfold send
  dsimp only
  split
  case isTrue => rfl
  case isFalse =>
    split
    case h_1 => rfl
    case h_2 =>
      split
      case h_1 => rfl
      case h_2 =>
        split
        case isTrue => rfl
        case isFalse =>
          split
          case isTrue closes =>
            rw [lasts] at closes
            contradiction
          case isFalse => rfl

theorem payloadSeq?_wireText (unit : OutboundUnit) :
    payloadSeq? unit.wireText = some unit.seq := by
  rw [payloadSeq?, OutboundUnit.wireText, ChatPayload.parse?_wireText, Option.bind_eq_bind,
    Option.bind_some]
  exact Tag.find?_attach unit.seq unit.text

end Stub

/-- An echo that is to come. -/
structure Letter where
  sender : TaskId
  channel : ChannelId
  /-- What was sent. -/
  payload : String
  begun : Instant
  /-- When the send was over, if it is. -/
  doneAt : Option Instant

namespace Letter

/-- How long the echo takes, if it does not come during the send. -/
def delay? (stubs : Stubs) (letter : Letter) : Option Duration :=
  (stubs letter.channel).script.echoDelay

/-- How long the echo takes in nanoseconds. -/
def travel (stubs : Stubs) (letter : Letter) : Nat :=
  (letter.delay? stubs).elim 0 Duration.nanos

/-- The last moment at which the echo can come, if that is known. -/
def due? (stubs : Stubs) (letter : Letter) : Option Instant :=
  letter.doneAt.map (· + letter.travel stubs)

/-- Whether a frame can be the echo.  It set out while the send went on, and has taken its
time since. -/
def isIn (stubs : Stubs) (now : Instant) (text : String) (letter : Letter) : Bool :=
  letter.begun + letter.travel stubs ≤ now && (letter.due? stubs).all (now ≤ ·) &&
    match Stub.echo (stubs letter.channel).script (.ofInstant (now - letter.travel stubs))
      letter.payload with
    | .ok frames => frames.any fun frame => frame.text == text
    | .error _ => false

def endBy (task : TaskId) (now : Instant) (letter : Letter) : Letter :=
  if letter.sender = task && letter.doneAt.isNone then { letter with doneAt := some now }
  else letter

end Letter

namespace MainPhase

/-- The task that goes on in a step and the call that it makes. -/
def begins? (transition : Transition RunState RunTask) : Option (TaskId × Call) := do
  let id ← transition.act.task?
  let call ← transition.after.tasks[id]?.bind RunTask.call?
  return (id, call)

def ends? (transition : Transition RunState RunTask) : Option (TaskId × Call × Answer) := do
  let id ← transition.act.task?
  let answer ← transition.act.answer?
  let call ← transition.before.tasks[id]?.bind RunTask.call?
  return (id, call, answer)

def connects (trace : List (Transition RunState RunTask)) : List RoomId :=
  trace.filterMap fun transition =>
    match begins? transition with
    | some (_, .connect room) => some room
    | _ => none

/-- The channels that there are and the echoes that are to come. -/
structure Traffic where
  stubs : Stubs
  /-- The channels that connects have yielded. -/
  handed : List ChannelId
  letters : List Letter

namespace Traffic

def begin (traffic : Traffic) (now : Instant) (begun : TaskId × Call) : Traffic where
  stubs := traffic.stubs.beginCall begun.2
  handed := traffic.handed
  letters :=
    match begun with
    | (id, .send channel payload) => ⟨id, channel, payload, now, none⟩ :: traffic.letters
    | _ => traffic.letters

def finish (traffic : Traffic) (now : Instant) (ended : TaskId × Call × Answer) : Traffic where
  stubs := traffic.stubs.endCall (.ofInstant now) ended.2.1
  handed :=
    match ended with
    | (_, .connect _, .connected channel) => channel :: traffic.handed
    | _ => traffic.handed
  letters :=
    match ended with
    | (id, .send _ _, _) => traffic.letters.map (Letter.endBy id now)
    | _ => traffic.letters

def after (traffic : Traffic) (transition : Transition RunState RunTask) : Traffic :=
  let now := transition.before.view.now
  match transition.act with
  | .frame text =>
      { traffic with letters := traffic.letters.eraseP (Letter.isIn traffic.stubs now text) }
  | _ =>
      let ended := (ends? transition).elim traffic (traffic.finish now)
      (begins? transition).elim ended (ended.begin now)

def shows (traffic : Traffic) (view : View) : Bool :=
  traffic.handed.all fun channel => view.isOpen channel == (traffic.stubs channel).state.isOpen

end Traffic

/-- What has become of channels and echoes. -/
def traffic (stubs : Stubs) (trace : List (Transition RunState RunTask)) : Traffic :=
  trace.foldl Traffic.after ⟨stubs, [], []⟩

/-- When a task has gone on for the last time. -/
def lastStep (id : TaskId) (trace : List (Transition RunState RunTask)) : Instant :=
  ((trace.filter fun transition => transition.act.task? == some id).getLast?).elim 0
    fun transition => transition.before.view.now

def wakesAt? (trace : List (Transition RunState RunTask))
    (situation : Situation RunState RunTask) (id : TaskId) : Option Instant :=
  match situation.tasks[id]?.bind RunTask.call? with
  | some (.sleep duration) => some (lastStep id trace + duration.nanos)
  | _ => none

/-- The moments at which something is due. -/
def alarms (stubs : Stubs) (trace : List (Transition RunState RunTask))
    (situation : Situation RunState RunTask) : List Instant :=
  let traffic := traffic stubs trace
  traffic.letters.filterMap (Letter.due? traffic.stubs) ++
    (List.range situation.tasks.length).filterMap (wakesAt? trace situation)

/-- Whether the call of a task can return with an answer now, apart from what its channel
says: a connect yields a channel of its own, an echo that comes during a send has come, and a
sleep takes its time. -/
def mayEnd (traffic : Traffic) (trace : List (Transition RunState RunTask)) (now : Instant)
    (id : TaskId) : Call → Answer → Bool
  | .connect _, .connected channel => !traffic.handed.contains channel
  | .send _ _, _ =>
      traffic.letters.all fun letter =>
        letter.sender != id || letter.doneAt.isSome || (letter.delay? traffic.stubs).isSome
  | .sleep duration, _ => lastStep id trace + duration.nanos == now
  | _, _ => true

/-- Whether a step can be one before a service without faults. -/
def isPunctual (stubs : Stubs) (trace : List (Transition RunState RunTask))
    (transition : Transition RunState RunTask) : Bool :=
  let traffic := traffic stubs trace
  let before := transition.before
  let now := before.view.now
  match transition.act with
  | .move _ => traffic.shows before.view
  | .answer id answer =>
      (before.tasks[id]?.bind RunTask.call?).all fun call =>
        traffic.stubs.replies (.ofInstant now) call answer &&
          mayEnd traffic trace now id call answer
  | .frame text => traffic.letters.any (Letter.isIn traffic.stubs now text)
  | .shift =>
      now ≤ transition.after.view.now &&
        (alarms stubs trace before).all (transition.after.view.now ≤ ·)
  | .countReconnect => true
  | .outside => false
  | .begin _ => false

/-- A service without faults, before tasks that go on in any order; nobody asks them to
stop. -/
def punctual (stubs : Stubs) : Rules RunState RunTask := fun trace transition =>
  isPunctual stubs trace transition = true

variable {stubs : Stubs} {trace : List (Transition RunState RunTask)}
  {transition : Transition RunState RunTask} {before : Situation RunState RunTask}
  {act : Act RunTask} {id : TaskId} {task next : RunTask} {state : RunState}

theorem traffic_append :
    traffic stubs (trace ++ [transition]) = (traffic stubs trace).after transition := by
  simp [traffic]

theorem begins?_put (acts : act.task? = some id) (found : before.tasks[id]? = some task) :
    begins? ⟨before, act, before.put id (state, next)⟩ = next.call?.map (id, ·) := by
  have here : (before.put id (state, next)).tasks[id]? = some next :=
    Situation.tasks_put_self found _
  cases waits : next.call? <;> simp [begins?, acts, here, waits]

theorem ends?_put (acts : act.task? = some id) (found : before.tasks[id]? = some task) :
    ends? ⟨before, act, before.put id (state, next)⟩ =
      act.answer?.bind fun answer => task.call?.map (id, ·, answer) := by
  cases answered : act.answer? <;> cases waits : task.call? <;>
    simp [ends?, acts, answered, found, waits]

theorem calls_of_begins? {other : TaskId} {call : Call} (acts : act.task? = some id)
    (found : before.tasks[id]? = some task)
    (begun : begins? ⟨before, act, before.put id (state, next)⟩ = some (other, call)) :
    next.call? = some call := by
  rw [begins?_put acts found, Option.map_eq_some_iff] at begun
  obtain ⟨own, waits, same⟩ := begun
  cases same
  exact waits

theorem called_of_ends? {other : TaskId} {call : Call} {answer : Answer}
    (acts : act.task? = some id) (found : before.tasks[id]? = some task)
    (ended : ends? ⟨before, act, before.put id (state, next)⟩ = some (other, call, answer)) :
    act.answer? = some answer ∧ task.call? = some call := by
  rw [ends?_put acts found, Option.bind_eq_some_iff] at ended
  obtain ⟨given, answered, ended⟩ := ended
  obtain ⟨own, waits, same⟩ := Option.map_eq_some_iff.mp ended
  cases same
  exact ⟨answered, waits⟩

theorem connects_append_of_connect {room : RoomId}
    (begun : begins? transition = some (id, .connect room)) :
    connects (trace ++ [transition]) = connects trace ++ [room] := by
  simp [connects, begun]

theorem connects_append_of_others
    (others : ∀ id room, begins? transition ≠ some (id, .connect room)) :
    connects (trace ++ [transition]) = connects trace := by
  cases begun : begins? transition with
  | none => simp [connects, begun]
  | some found =>
      obtain ⟨id, call⟩ := found
      cases call with
      | connect room => exact absurd begun (others id room)
      | _ => simp [connects, begun]

theorem lastStep_append_of_acts (acts : transition.act.task? = some id) :
    lastStep id (trace ++ [transition]) = transition.before.view.now := by
  simp [lastStep, acts]

theorem lastStep_append_of_ne (others : transition.act.task? ≠ some id) :
    lastStep id (trace ++ [transition]) = lastStep id trace := by
  simp [lastStep, others]

namespace Traffic

variable {traffic : Traffic}

theorem after_of_acts (acts : transition.act.task? = some id) :
    traffic.after transition =
      (begins? transition).elim
        ((ends? transition).elim traffic (traffic.finish transition.before.view.now))
        (((ends? transition).elim traffic
          (traffic.finish transition.before.view.now)).begin transition.before.view.now) := by
  unfold after
  cases act : transition.act with
  | frame text =>
      rw [act] at acts
      contradiction
  | _ => rfl

/-- A task that goes on without a call changes nothing. -/
theorem after_of_moves (acts : act.task? = some id) (found : before.tasks[id]? = some task)
    (waited : task.call? = none) (waits : next.call? = none) :
    traffic.after ⟨before, act, before.put id (state, next)⟩ = traffic := by
  rw [after_of_acts acts, begins?_put acts found, ends?_put acts found, waits, waited]
  cases act.answer? <;> rfl

theorem after_of_begins {call : Call} (acts : act.task? = some id) (answered : act.answer? = none)
    (found : before.tasks[id]? = some task) (waits : next.call? = some call) :
    traffic.after ⟨before, act, before.put id (state, next)⟩ =
      traffic.begin before.view.now (id, call) := by
  rw [after_of_acts acts, begins?_put acts found, ends?_put acts found, waits, answered]
  rfl

theorem after_of_ends {call : Call} {answer : Answer} (acts : act.task? = some id)
    (answered : act.answer? = some answer) (found : before.tasks[id]? = some task)
    (waited : task.call? = some call) (waits : next.call? = none) :
    traffic.after ⟨before, act, before.put id (state, next)⟩ =
      traffic.finish before.view.now (id, call, answer) := by
  rw [after_of_acts acts, begins?_put acts found, ends?_put acts found, waits, waited, answered]
  rfl

/-- Nothing happens to a channel unless something is sent on it or it is closed. -/
theorem echoes_finish {patience : Duration} {now : Instant} {call : Call} {answer : Answer}
    (echoes : ∀ channel, (traffic.stubs channel).Echoes patience)
    (lasting : ∀ channels, call ≠ .close channels) (channel : ChannelId) :
    ((traffic.finish now (id, call, answer)).stubs channel).Echoes patience := by
  have before := echoes channel
  have script := @Stubs.script_endCall traffic.stubs (.ofInstant now) call channel
  have state : ((traffic.stubs.endCall (.ofInstant now) call) channel).state.isOpen = true := by
    cases call with
    | close channels => exact absurd rfl (lasting channels)
    | connect | sleep | wait => exact before.isOpen
    | reconnect other =>
        rw [Stubs.endCall, Stubs.change]
        split
        case isTrue => rfl
        case isFalse => exact before.isOpen
    | send other payload =>
        rw [Stubs.endCall, Stubs.change]
        split
        case isTrue =>
          rw [Stub.state_send before.lasts]
          exact before.isOpen
        case isFalse => exact before.isOpen
  have inTime := before.inTime
  rw [← script] at inTime
  exact ⟨script ▸ before.delivers, script ▸ before.listens, script ▸ before.lasts, state, inTime⟩

/-- Channels stay open as long as nobody reconnects or closes them. -/
theorem echoes_after {patience : Duration}
    (echoes : ∀ channel, (traffic.stubs channel).Echoes patience)
    (steady : ∀ id channel, begins? transition ≠ some (id, .reconnect channel))
    (lasting : ∀ id channels answer, ends? transition ≠ some (id, .close channels, answer))
    (channel : ChannelId) : ((traffic.after transition).stubs channel).Echoes patience := by
  have atEnd : (((ends? transition).elim traffic
      (traffic.finish transition.before.view.now)).stubs channel).Echoes patience := by
    cases ended : ends? transition with
    | none => exact echoes channel
    | some found =>
        obtain ⟨id, call, answer⟩ := found
        apply echoes_finish echoes
        rintro channels rfl
        exact lasting id channels answer ended
  unfold after
  split
  case h_1 => exact echoes channel
  case h_2 =>
    cases begun : begins? transition with
    | none => exact atEnd
    | some found =>
        obtain ⟨id, call⟩ := found
        cases call with
        | reconnect other => exact absurd begun (steady id other)
        | _ => exact atEnd

theorem mem_handed_after {channel : ChannelId} (member : channel ∈ traffic.handed) :
    channel ∈ (traffic.after transition).handed := by
  have atEnd : channel ∈ ((ends? transition).elim traffic
      (traffic.finish transition.before.view.now)).handed := by
    cases ends? transition with
    | none => exact member
    | some found =>
        obtain ⟨id, call, answer⟩ := found
        cases call with
        | connect room =>
            cases answer with
            | connected other => exact List.mem_cons_of_mem _ member
            | _ => exact member
        | _ => exact member
  unfold after
  split
  case h_1 => exact member
  case h_2 => cases begins? transition <;> exact atEnd

theorem mem_handed_of_connected {room : RoomId} {channel : ChannelId}
    (acts : transition.act.task? = some id)
    (ended : ends? transition = some (id, .connect room, .connected channel)) :
    channel ∈ (traffic.after transition).handed := by
  have yielded : channel ∈
      (traffic.finish transition.before.view.now (id, .connect room, .connected channel)).handed :=
    List.mem_cons_self
  rw [after_of_acts acts, ended]
  cases begins? transition <;> exact yielded

theorem letters_after (acts : transition.act.task? = some id)
    (silent : ∀ id channel payload, begins? transition ≠ some (id, .send channel payload))
    (quiet : ∀ id channel payload answer,
      ends? transition ≠ some (id, .send channel payload, answer)) :
    (traffic.after transition).letters = traffic.letters := by
  have atEnd : ((ends? transition).elim traffic
      (traffic.finish transition.before.view.now)).letters = traffic.letters := by
    cases ended : ends? transition with
    | none => rfl
    | some found =>
        obtain ⟨id, call, answer⟩ := found
        cases call with
        | send channel payload => exact absurd ended (quiet id channel payload answer)
        | _ => rfl
  rw [after_of_acts acts]
  cases begun : begins? transition with
  | none => exact atEnd
  | some found =>
      obtain ⟨id, call⟩ := found
      cases call with
      | send channel payload => exact absurd begun (silent id channel payload)
      | _ => exact atEnd

theorem after_of_idle (idle : transition.act.task? = none)
    (noFrame : ∀ text, transition.act ≠ .frame text) : traffic.after transition = traffic := by
  unfold after
  split
  case h_1 text acts => exact absurd acts (noFrame text)
  case h_2 =>
    have silent : begins? transition = none := by simp [begins?, idle]
    have quiet : ends? transition = none := by simp [ends?, idle]
    rw [silent, quiet]
    rfl

end Traffic

end MainPhase

end RoomLoad

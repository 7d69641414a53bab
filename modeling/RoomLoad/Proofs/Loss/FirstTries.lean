import RoomLoad.Proofs.Delivery.Waiting
import RoomLoad.Proofs.Loss.Faring

/-!
# Lost connections cost no tries

Between the last look at a channel and the send on it a worker does not have to wait.  The
channel is therefore still open when the unit is sent, and the first try succeeds.
-/

namespace RoomLoad

namespace Crew

variable {stubs : Stubs} {trace : List (Transition Desk Worker)}
  {before after situation : Situation Desk Worker} {act : Act Worker} {id : TaskId}

/-- What stays as it is while no worker goes on; what comes into the queue was not tried. -/
structure Idles (before after : Situation Desk Worker) : Prop where
  tasks : after.tasks = before.tasks
  shutdown : after.common.shutdown = before.common.shutdown
  lock : after.common.pool.lock = before.common.pool.lock
  failures : after.common.ledger.metrics.failure = before.common.ledger.metrics.failure
  brings : ∀ unit, .unit unit ∈ after.common.queue.items →
    .unit unit ∈ before.common.queue.items ∨ unit.attempt = 0

/-- One step of a crew by the worker that goes on, if any does. -/
inductive Goes (before : Situation Desk Worker) (act : Act Worker) :
    Situation Desk Worker → Prop where
  | idles {after : Situation Desk Worker} :
      act.task? = none →
      Idles before after →
      Goes before act after
  | works {id : TaskId} {worker next : Worker} {desk : Desk} :
      act.task? = some id →
      before.tasks[id]? = some worker →
      worker.Goes before.view id before.common act.answer? desk next →
      Goes before act (before.put id (desk, next))

private theorem idles_of_brings {desk : Desk} (brings : Brings before.common desk) :
    Idles before { before with common := desk } := by
  cases brings with
  | @push envelope queue accepted fresh =>
      refine ⟨rfl, rfl, rfl, rfl, ?_⟩
      intro unit member
      have items : queue.items = before.common.queue.items ++ [envelope] :=
        UnitQueue.items_of_offer accepted
      have inQueue : Envelope.unit unit ∈ queue.items := member
      rw [items, List.mem_append, List.mem_singleton] at inQueue
      exact inQueue.imp_right fun same => fresh unit same.symm
  | hangUp => exact ⟨rfl, rfl, rfl, rfl, fun _ => .inl⟩

theorem goes_of_step (step : crew.Step before act after)
    (allowed : service stubs trace ⟨before, act, after⟩) : Goes before act after := by
  cases step with
  | move found member => exact .works rfl found (Worker.goes_of_mem_moves member)
  | answer found waits returns => exact .works rfl found (Worker.goes_resume waits returns)
  | frame text =>
      have hears := Ledger.hears_onAck before.common.ledger before.view.now text
      exact .idles rfl ⟨rfl, rfl, rfl, hears.failure_eq, fun _ => .inl⟩
  | countReconnect => exact .idles rfl ⟨rfl, rfl, rfl, rfl, fun _ => .inl⟩
  | outside desk => exact .idles rfl (idles_of_brings allowed)
  | shift view => exact .idles rfl ⟨rfl, rfl, rfl, rfl, fun _ => .inl⟩
  | begin worker => exact allowed.elim

theorem yields_of_takesTurn {other : TaskId} {worker : Worker}
    (turn : takesTurn situation id = true) (found : situation.tasks[other]? = some worker)
    (different : other ≠ id) : worker.phase.yields = true :=
  List.all_eq_true.mp turn worker
    (List.mem_eraseIdx_iff_getElem?.mpr ⟨other, different, found⟩)

theorem takesTurn_of_yields
    (yields : ∀ other worker, situation.tasks[other]? = some worker → other ≠ id →
      worker.phase.yields = true) : takesTurn situation id = true := by
  rw [takesTurn, List.all_eq_true]
  intro worker member
  obtain ⟨other, different, found⟩ := List.mem_eraseIdx_iff_getElem?.mp member
  exact yields other worker found different

/-- Whoever goes on has its turn. -/
theorem takesTurn_of_allowed (allowed : service stubs trace ⟨before, act, after⟩)
    (acts : act.task? = some id) : takesTurn before id = true := by
  cases act with
  | move own =>
      cases acts
      exact allowed.1
  | answer own answer =>
      cases acts
      exact allowed.1
  | _ => contradiction

theorem sees_of_allowed {worker : Worker} {channel : ChannelId}
    (allowed : service stubs trace ⟨before, act, after⟩) (acts : act.task? = some id)
    (move : act.answer? = none) (found : before.tasks[id]? = some worker)
    (looks : worker.phase.looksAt? before.common.pool = some channel) :
    before.view.isOpen channel = (served stubs trace channel).state.isOpen := by
  cases act with
  | move own =>
      cases acts
      have seen : sees (served stubs trace) before id = true := allowed.2
      rw [sees, found, Option.bind_some, looks] at seen
      exact beq_iff_eq.mp seen
  | answer own answer => contradiction
  | _ => contradiction

theorem replies_of_allowed {worker : Worker} {given : Answer} {call : Call}
    (allowed : service stubs trace ⟨before, act, after⟩) (acts : act.task? = some id)
    (answered : act.answer? = some given) (found : before.tasks[id]? = some worker)
    (calls : worker.call? = some call) :
    (served stubs trace).replies (.ofInstant before.view.now) call given = true := by
  cases act with
  | answer own answer =>
      cases acts
      cases answered
      have replied : answers (served stubs trace) before id given = true := allowed.2
      rw [answers, found, Option.bind_some, calls] at replied
      exact replied
  | _ => contradiction

theorem served_append_of_works {worker next : Worker} {desk : Desk} (acts : act.task? = some id)
    (found : before.tasks[id]? = some worker) :
    served stubs (trace ++ [⟨before, act, before.put id (desk, next)⟩]) =
      afterWorker (served stubs trace) (.ofInstant before.view.now) act.answer? worker next := by
  have works : office.worked? ⟨before, act, before.put id (desk, next)⟩ =
      some (id, worker, next) := worked_of_put acts found
  rw [served_append, afterStep]
  cases act with
  | move own => simp only [works]
  | answer own answer => simp only [works]
  | _ => contradiction

/-- What a worker has done: every unit that it took it has sent on the first try, except for
the one in hand; and it has not taken many steps for it. -/
structure Carried (id : TaskId) (trace : List (Transition Desk Worker)) (worker : Worker) :
    Prop where
  taken : (office.own .taken id trace).filterMap Envelope.seq? =
    office.own .sent id trace ++ worker.phase.seq?.toList
  tried : office.own .tried id trace =
    office.own .sent id trace ++ worker.phase.tried?.toList
  transmitted : office.own .transmitted id trace =
    office.own .sent id trace ++ worker.phase.entered?.toList
  abandoned : worker.report.abandoned = 0
  policy : 1 ≤ worker.policy.maxAttempts
  steps : stepsOf id trace + worker.phase.load ≤ 18 * (office.own .sent id trace).length + 19

theorem Carried.of_others {transition : Transition Desk Worker} {worker : Worker}
    (carried : Carried id trace worker) (others : transition.act.task? ≠ some id) :
    Carried id (trace ++ [transition]) worker := by
  have same : ∀ {α : Type} (sight : Sight α),
      office.own sight id (trace ++ [transition]) = office.own sight id trace :=
    fun sight => Office.own_append_of_ne sight others
  constructor
  case taken => simpa only [same] using carried.taken
  case tried => simpa only [same] using carried.tried
  case transmitted => simpa only [same] using carried.transmitted
  case abandoned => exact carried.abandoned
  case policy => exact carried.policy
  case steps =>
    rw [same, stepsOf_append_of_ne others]
    exact carried.steps

theorem Carried.of_works {worker next : Worker} {desk : Desk} (carried : Carried id trace worker)
    (acts : act.task? = some id) (found : before.tasks[id]? = some worker)
    (policy : next.policy = worker.policy)
    (carries : worker.Carries before.common desk next)
    (nearer : next.phase.load <
      worker.phase.load + 18 * (Sight.sent before.common worker desk next).toList.length) :
    Carried id (trace ++ [⟨before, act, before.put id (desk, next)⟩]) next := by
  have grown : ∀ {α : Type} (sight : Sight α),
      office.own sight id (trace ++ [⟨before, act, before.put id (desk, next)⟩]) =
        office.own sight id trace ++ (sight before.common worker desk next).toList := by
    intro α sight
    rw [Office.own_append_of_works sight (worked_of_put acts found), if_pos rfl]
    rfl
  constructor
  case taken =>
    rw [grown, grown, List.filterMap_append, carried.taken, List.append_assoc, carries.taken,
      List.append_assoc]
  case tried =>
    rw [grown, grown, carried.tried, List.append_assoc, carries.tried, List.append_assoc]
  case transmitted =>
    rw [grown, grown, carried.transmitted, List.append_assoc, carries.transmitted,
      List.append_assoc]
  case abandoned => exact carries.abandoned.trans carried.abandoned
  case policy =>
    rw [policy]
    exact carried.policy
  case steps =>
    have steps := carried.steps
    rw [grown, List.length_append, stepsOf_append_of_acts acts]
    omega

/-- What is kept while connections are lost and nothing else goes wrong. -/
structure Unharmed (stubs : Stubs) (trace : List (Transition Desk Worker))
    (situation : Situation Desk Worker) : Prop where
  calm : situation.common.shutdown = false
  fresh : ∀ unit, .unit unit ∈ situation.common.queue.items → unit.attempt = 0
  failures : situation.common.ledger.metrics.failure = 0
  fares : ∀ (id : TaskId) worker, situation.tasks[id]? = some worker →
    worker.phase.Fares (served stubs trace)
  carried : ∀ (id : TaskId) worker, situation.tasks[id]? = some worker → Carried id trace worker
  turn : ∃ id, takesTurn situation id = true
  locked : situation.common.pool.lock.Serves (situation.uses Worker.use)

/-- While no worker goes on, connections are lost only if all of them wait. -/
private theorem fares_of_idles {worker : Worker}
    (unharmed : Unharmed stubs trace before) (acts : act.task? = none)
    (found : before.tasks[id]? = some worker) :
    worker.phase.Fares (served stubs (trace ++ [⟨before, act, after⟩])) := by
  have fares := unharmed.fares id worker found
  have idle : office.worked? ⟨before, act, after⟩ = none := by
    simp [Office.worked?, acts]
  rw [served_append, afterStep]
  cases act with
  | shift =>
      dsimp only
      split
      case isTrue waits =>
        exact fares.of_yields (List.all_eq_true.mp waits worker (List.mem_of_getElem? found))
      case isFalse => exact fares
  | _ =>
      rw [idle]
      exact fares

private theorem unharmed_of_idles (unharmed : Unharmed stubs trace before)
    (acts : act.task? = none) (idles : Idles before after) :
    Unharmed stubs (trace ++ [⟨before, act, after⟩]) after := by
  constructor
  case calm => exact idles.shutdown.trans unharmed.calm
  case fresh =>
    intro unit member
    rcases idles.brings unit member with already | fresh
    · exact unharmed.fresh unit already
    · exact fresh
  case failures => exact idles.failures.trans unharmed.failures
  case fares =>
    intro id worker found
    rw [idles.tasks] at found
    exact fares_of_idles unharmed acts found
  case carried =>
    intro id worker found
    rw [idles.tasks] at found
    exact (unharmed.carried id worker found).of_others (by simp [acts])
  case turn =>
    obtain ⟨id, turn⟩ := unharmed.turn
    refine ⟨id, ?_⟩
    rw [takesTurn, idles.tasks]
    exact turn
  case locked =>
    unfold Situation.uses
    rw [idles.lock, idles.tasks]
    exact unharmed.locked

private theorem unharmed_of_works {worker next : Worker} {desk : Desk}
    (delivers : ∀ channel, (stubs channel).script.Delivers)
    (unharmed : Unharmed stubs trace before) (acts : act.task? = some id)
    (found : before.tasks[id]? = some worker)
    (goes : worker.Goes before.view id before.common act.answer? desk next)
    (allowed : service stubs trace ⟨before, act, before.put id (desk, next)⟩) :
    Unharmed stubs (trace ++ [⟨before, act, before.put id (desk, next)⟩])
      (before.put id (desk, next)) := by
  have carried := unharmed.carried id worker found
  have fares := unharmed.fares id worker found
  have turn := takesTurn_of_allowed allowed acts
  have carries : worker.Carries before.common desk next := goes.carries fares carried.policy
  have own : next.phase.Fares
      (served stubs (trace ++ [⟨before, act, before.put id (desk, next)⟩])) := by
    rw [served_append_of_works acts found]
    apply goes.fares fares ?_ unharmed.fresh carried.policy
    · intro move channel looks
      exact sees_of_allowed allowed acts move found looks
    · intro given call answered calls
      exact replies_of_allowed allowed acts answered found calls
    · intro channel
      rw [script_served]
      exact delivers channel
  constructor
  case calm => exact goes.advances.shutdown_eq.trans unharmed.calm
  case fresh =>
    intro unit member
    apply unharmed.fresh
    rw [← goes.advances.items_balance]
    exact List.mem_append_right _ member
  case failures => exact carries.failures.trans unharmed.failures
  case fares =>
    intro other task foundOther
    rw [Situation.tasks_put found] at foundOther
    split at foundOther
    case isTrue same =>
      cases foundOther
      exact own
    case isFalse different =>
      have yields := yields_of_takesTurn turn foundOther (Ne.symm different)
      exact (unharmed.fares other task foundOther).of_yields yields
  case carried =>
    intro other task foundOther
    by_cases same : id = other
    · subst same
      rw [Situation.tasks_put_self found] at foundOther
      cases foundOther
      exact carried.of_works acts found goes.policy_eq carries
        (goes.load_lt fares unharmed.calm carried.policy)
    · rw [Situation.tasks_put_of_ne same] at foundOther
      apply (unharmed.carried other task foundOther).of_others
      rw [acts]
      exact fun contrary => same (Option.some.inj contrary)
  case turn =>
    refine ⟨id, takesTurn_of_yields ?_⟩
    intro other task foundOther different
    rw [Situation.tasks_put_of_ne (Ne.symm different)] at foundOther
    exact yields_of_takesTurn turn foundOther different
  case locked => exact CreationLock.Serves.put unharmed.locked found goes.moves

theorem Unharmed.step (delivers : ∀ channel, (stubs channel).script.Delivers)
    (unharmed : Unharmed stubs trace before) (step : crew.Step before act after)
    (allowed : service stubs trace ⟨before, act, after⟩) :
    Unharmed stubs (trace ++ [⟨before, act, after⟩]) after := by
  cases goes_of_step step allowed with
  | idles acts idles => exact unharmed_of_idles unharmed acts idles
  | works acts found goes => exact unharmed_of_works delivers unharmed acts found goes allowed

/-- While a worker has a unit in hand, somebody who has the turn can go on. -/
private theorem Unharmed.exists_turn (unharmed : Unharmed stubs trace situation)
    (inHand : ∃ worker ∈ situation.tasks, worker.phase.seq?.isSome = true) :
    ∃ id worker, situation.tasks[id]? = some worker ∧ takesTurn situation id = true ∧
      ∀ view, worker.moves view id situation.common ≠ [] ∨ worker.call?.isSome = true := by
  by_cases running : ∃ (id : TaskId) (worker : Worker), situation.tasks[id]? = some worker ∧
      worker.phase.yields = false
  · obtain ⟨id, worker, found, runs⟩ := running
    obtain ⟨own, turn⟩ := unharmed.turn
    have same : id = own := by
      apply Decidable.byContradiction
      intro different
      rw [yields_of_takesTurn turn found different] at runs
      contradiction
    refine ⟨id, worker, found, same ▸ turn, ?_⟩
    intro view
    apply Worker.goes_on
    · cases phase : worker.phase <;> first | rfl | (rw [phase] at runs; contradiction)
    · intro queued
      unfold Worker.use at queued
      split at queued
      case h_1 unit lookup resolving =>
        cases lookup <;> first | contradiction | (rw [resolving] at runs; contradiction)
      case h_2 unit channel reopening reopens =>
        cases reopening <;> first | contradiction | (rw [reopens] at runs; contradiction)
      case h_3 => contradiction
    · intro receiving
      rw [receiving] at runs
      contradiction
  · have yields : ∀ (id : TaskId) worker, situation.tasks[id]? = some worker →
        worker.phase.yields = true := by
      intro id worker found
      apply Decidable.byContradiction
      intro runs
      exact running ⟨id, worker, found, Bool.eq_false_iff.mpr runs⟩
    have anybody : ∀ id, takesTurn situation id = true :=
      fun id => takesTurn_of_yields fun other worker found _ => yields other worker found
    obtain ⟨worker, member, busy⟩ := inHand
    obtain ⟨id, found⟩ := List.getElem?_of_mem member
    by_cases queued : worker.use = .queued
    · obtain ⟨holder, holding, present, isHeld, asked⟩ :=
        unharmed.locked.exists_holding found queued
      exact ⟨holder, holding, present, anybody holder, fun _ =>
        Worker.goes_on_of_asked asked fun _ => isHeld⟩
    · exact ⟨id, worker, found, anybody id, fun _ =>
        Worker.goes_on_of_seq? busy fun isQueued => absurd isQueued queued⟩

variable {start last : Situation Desk Worker}

/-- A run in which a worker has a unit in hand goes on, once everybody has looked. -/
private theorem exists_further (unharmed : Unharmed stubs trace last)
    (run : crew.Run (service stubs) start trace last)
    (inHand : ∃ worker ∈ last.tasks, worker.phase.seq?.isSome = true) :
    ∃ view act after, act.task?.isSome = true ∧
      crew.Run (service stubs) start
        (trace ++ [⟨last, .shift, { last with view := view }⟩] ++
          [⟨{ last with view := view }, act, after⟩]) after := by
  let view : View := ⟨last.view.now, fun channel => (served stubs trace channel).state.isOpen⟩
  let looked : Situation Desk Worker := { last with view := view }
  obtain ⟨id, worker, found, turn, goesOn⟩ := unharmed.exists_turn inHand
  have shifted : crew.Run (service stubs) start (trace ++ [⟨last, .shift, looked⟩]) looked :=
    .step run (.shift view) True.intro
  have same : served stubs (trace ++ [⟨last, .shift, looked⟩]) = served stubs trace := by
    rw [served_append, afterStep]
    dsimp only
    split
    case isTrue => exact Stubs.lose_of_seen fun _ => rfl
    case isFalse => rfl
  rcases goesOn view with moves | waits
  · obtain ⟨next, others, isMoves⟩ := List.exists_cons_of_ne_nil moves
    refine ⟨view, .move id, looked.put id next, rfl, .step shifted (.move found ?_) ⟨turn, ?_⟩⟩
    · show next ∈ worker.moves view id last.common
      rw [isMoves]
      exact List.mem_cons_self
    · rw [same, sees, Option.all_eq_true]
      intro channel _
      exact beq_self_eq_true _
  · obtain ⟨call, calls⟩ := Option.isSome_iff_exists.mp waits
    obtain ⟨answer, returns, replied⟩ :=
      (served stubs trace).exists_reply (.ofInstant view.now) call
    refine ⟨view, .answer id answer, _, rfl, .step shifted (.answer found calls returns)
      ⟨turn, ?_⟩⟩
    rw [same]
    show (((last.tasks[id]?).bind Worker.call?).all _) = true
    rw [found, Option.bind_some, calls]
    exact replied

variable {policies : List RetryPolicy} {queue : UnitQueue} {view : View}

private theorem unharmed_beginning (tries : ∀ policy ∈ policies, 1 ≤ policy.maxAttempts)
    (fresh : ∀ unit, .unit unit ∈ queue.items → unit.attempt = 0) :
    Unharmed stubs [] (beginning policies queue false view) := by
  constructor
  case calm => rfl
  case fresh => exact fresh
  case failures => rfl
  case fares =>
    intro id worker found
    obtain ⟨policy, _, rfl⟩ := exists_of_mem_beginning (List.mem_of_getElem? found)
    exact True.intro
  case carried =>
    intro id worker found
    obtain ⟨policy, member, rfl⟩ := exists_of_mem_beginning (List.mem_of_getElem? found)
    exact ⟨rfl, rfl, rfl, rfl, tries policy member, Nat.le_of_eq (Nat.zero_add _)⟩
  case turn =>
    refine ⟨0, takesTurn_of_yields ?_⟩
    intro other worker found _
    obtain ⟨policy, _, rfl⟩ := exists_of_mem_beginning (List.mem_of_getElem? found)
    rfl
  case locked =>
    apply CreationLock.serves_of_away
    intro worker member
    obtain ⟨policy, _, rfl⟩ := exists_of_mem_beginning member
    rfl

theorem unharmed_of_run (delivers : ∀ channel, (stubs channel).script.Delivers)
    (tries : ∀ policy ∈ policies, 1 ≤ policy.maxAttempts)
    (fresh : ∀ unit, .unit unit ∈ queue.items → unit.attempt = 0)
    (run : crew.Run (service stubs) (beginning policies queue false view) trace last) :
    Unharmed stubs trace last := by
  induction run with
  | rest => exact unharmed_beginning tries fresh
  | step run step allowed unharmed => exact unharmed.step delivers step allowed

/-- Whichever connections are lost while workers wait, and in whatever states new channels
are: nothing is abandoned, every worker sends the units that it takes one after another, each
on the first try and with a bounded number of steps, every send is on an open channel and
succeeds, and somebody can go on as long as a unit is in hand. -/
theorem first_tries_of_run (delivers : ∀ channel, (stubs channel).script.Delivers)
    (tries : ∀ policy ∈ policies, 1 ≤ policy.maxAttempts)
    (fresh : ∀ unit, .unit unit ∈ queue.items → unit.attempt = 0)
    (run : crew.Run (service stubs) (beginning policies queue false view) trace last) :
    last.common.ledger.metrics.failure = 0 ∧
    (∀ (id : TaskId) worker, last.tasks[id]? = some worker →
      worker.report.abandoned = 0 ∧
      (office.own .taken id trace).filterMap Envelope.seq? =
        office.own .sent id trace ++ worker.phase.seq?.toList ∧
      office.own .tried id trace = office.own .sent id trace ++ worker.phase.tried?.toList ∧
      office.own .transmitted id trace =
        office.own .sent id trace ++ worker.phase.entered?.toList ∧
      stepsOf id trace ≤ 18 * (office.own .sent id trace).length + 19) ∧
    (∀ earlier transition later, trace = earlier ++ transition :: later →
      ∀ id answer worker unit channel, transition.act = .answer id answer →
        transition.before.tasks[id]? = some worker → worker.phase = .sending unit channel →
          unit.attempt = 0 ∧ (served stubs earlier channel).state.isOpen = true ∧
            answer = .done) ∧
    ((∃ worker ∈ last.tasks, worker.phase.seq?.isSome = true) →
      ∃ seen act after, act.task?.isSome = true ∧
        crew.Run (service stubs) (beginning policies queue false view)
          (trace ++ [⟨last, .shift, { last with view := seen }⟩] ++
            [⟨{ last with view := seen }, act, after⟩]) after) := by
  have unharmed := unharmed_of_run delivers tries fresh run
  refine ⟨unharmed.failures, ?_, ?_, exists_further unharmed run⟩
  · intro id worker found
    have carried := unharmed.carried id worker found
    have steps := carried.steps
    exact ⟨carried.abandoned, carried.taken, carried.tried, carried.transmitted, by omega⟩
  · intro earlier transition later parts id answer worker unit channel acts found sending
    obtain ⟨reached, _, allowed⟩ := run.split parts
    have before := unharmed_of_run delivers tries fresh reached
    have fares := before.fares id worker found
    rw [sending] at fares
    obtain ⟨first, isOpen⟩ := fares
    have calls : worker.call? = some (.send channel unit.wireText) := by
      rw [Worker.call?, sending]
    have answered : transition.act.answer? = some answer := by
      rw [acts]
      rfl
    have replied := replies_of_allowed allowed (by rw [acts]; rfl) answered found calls
    refine ⟨first, isOpen, Stubs.eq_done_of_replies ?_ isOpen replied⟩
    rw [script_served]
    exact delivers channel

/-- Channel 0 is closed when it is handed out, the others close behind their first send. -/
def fragile : Stubs := fun channel =>
  let script := { StubScript.plain with reconnectDelay := some (.ofMillis 5) }
  if channel = 0 then (Stub.opened script).shut
  else .opened { script with closeAfter := some 1 }

/-- Whether a step of a worker is one that the service has. -/
def obeys (stubs : Stubs) (trace : List (Transition Desk Worker))
    (transition : Transition Desk Worker) : Bool :=
  match transition.act with
  | .move id => takesTurn transition.before id && sees (served stubs trace) transition.before id
  | .answer id answer =>
      takesTurn transition.before id && answers (served stubs trace) transition.before id answer
  | act => act.isInner

theorem service_of_obeys (trace : List (Transition Desk Worker))
    (transition : Transition Desk Worker) (allowed : obeys stubs trace transition = true) :
    service stubs trace transition := by
  unfold obeys at allowed
  unfold service
  cases acts : transition.act with
  | move id | answer id answer =>
      rw [acts] at allowed
      exact Bool.and_eq_true_iff.mp allowed
  | outside | begin =>
      rw [acts] at allowed
      contradiction
  | _ => exact True.intro

/-- The first worker is handed a closed channel, and the second one replaces it while the first
one waits to reopen it.  The new channel closes behind its first send; the first channel is
reopened, lost again and handed out in place of the other. -/
def losses : List (Cue Desk Worker) :=
  let closed : View := ⟨0, fun _ => false⟩
  List.replicate 7 (Cue.move 0 0) ++ List.replicate 5 (Cue.move 1 0) ++
    [Cue.answer 0 (.connected 0)] ++ List.replicate 2 (Cue.move 0 0) ++
    List.replicate 2 (Cue.move 1 0) ++ [Cue.answer 1 (.connected 1), Cue.answer 1 .done] ++
    [Cue.shift ⟨0, fun channel => channel == 1⟩] ++ List.replicate 2 (Cue.move 1 0) ++
    [Cue.answer 1 .done, Cue.shift closed] ++ List.replicate 2 (Cue.move 0 0) ++
    [Cue.answer 0 .done] ++ [Cue.move 0 0, Cue.answer 0 .done, Cue.shift closed] ++
    List.replicate 7 (Cue.move 0 0) ++
    [Cue.answer 0 (.connected 0), Cue.answer 0 .done] ++ List.replicate 4 (Cue.move 0 0) ++
    [Cue.answer 0 .done, Cue.move 0 0, Cue.answer 0 .done]

theorem fragile_delivers (channel : ChannelId) : (fragile channel).script.Delivers := by
  unfold fragile
  dsimp only
  split <;> exact ⟨rfl, rfl, rfl⟩

theorem first_tries_of_run_of_losses :
    ∃ policies queue view trace last,
      crew.Run (service fragile) (beginning policies queue false view) trace last ∧
      (∀ channel, (fragile channel).script.Delivers) ∧
      (∀ policy ∈ policies, 1 ≤ policy.maxAttempts) ∧
      (∀ unit, .unit unit ∈ queue.items → unit.attempt = 0) ∧
      (served fragile trace 0).reconnects = 2 ∧
      office.own .transmitted 0 trace = [0, 2] ∧ office.own .transmitted 1 trace = [1] ∧
      last.common.ledger.metrics.failure = 0 := by
  let queue : UnitQueue := ⟨3, .ofList [.unit (note 0), .unit (note 1), .unit (note 2)], 1, 2⟩
  let policies : List RetryPolicy := List.replicate 2 ⟨1, .zero, .zero⟩
  let view : View := ⟨0, fun _ => false⟩
  have tries : ∀ policy ∈ policies, 1 ≤ policy.maxAttempts := by decide
  have fresh : ∀ unit, .unit unit ∈ queue.items → unit.attempt = 0 := by
    intro unit member
    have among : Envelope.unit unit ∈ [Envelope.unit (note 0), .unit (note 1), .unit (note 2)] :=
      member
    simp only [List.mem_cons, Envelope.unit.injEq, List.not_mem_nil, or_false] at among
    rcases among with rfl | rfl | rfl <;> rfl
  have replayed : (crew.replay (obeys fragile) [] (beginning policies queue false view)
      losses).any (fun ending => (served fragile ending.1 0).reconnects == 2 &&
        office.own .sent 0 ending.1 == [0, 2] && office.own .sent 1 ending.1 == [1] &&
        ending.2.tasks[0]?.map Worker.phase == some .ready &&
        ending.2.tasks[1]?.map Worker.phase == some .ready) = true := by
    decide +kernel
  obtain ⟨trace, last, run, shown⟩ := System.exists_run_of_replay service_of_obeys replayed
  simp only [Bool.and_eq_true, beq_iff_eq] at shown
  obtain ⟨⟨⟨⟨reconnects, first⟩, second⟩, ready⟩, otherReady⟩ := shown
  obtain ⟨failures, each, _⟩ := first_tries_of_run fragile_delivers tries fresh run
  obtain ⟨worker, found, phase⟩ := Option.map_eq_some_iff.mp ready
  obtain ⟨other, foundOther, otherPhase⟩ := Option.map_eq_some_iff.mp otherReady
  refine ⟨policies, queue, view, trace, last, run, fragile_delivers, tries, fresh, reconnects,
    ?_, ?_, failures⟩
  · obtain ⟨_, _, _, transmitted, _⟩ := each 0 worker found
    rw [transmitted, first, phase]
    rfl
  · obtain ⟨_, _, _, transmitted, _⟩ := each 1 other foundOther
    rw [transmitted, second, otherPhase]
    rfl

end Crew

end RoomLoad

import RoomLoad.Proofs.Delivery.Disposition
import RoomLoad.Proofs.Delivery.Schedule
import RoomLoad.Proofs.Delivery.Waiting

/-!
# Deliveries of a crew

A docket says what a worker has done about the unit that it took last.  While the run is not
asked to stop, every delivery keeps to its schedule, whatever becomes of its tries: it makes
the tries that the policy allows until one of them succeeds, rests in between for as long as
the policy says, and comes to its end.
-/

namespace RoomLoad

/-- What a worker has done about the unit that it took last. -/
structure Docket where
  unit : OutboundUnit
  deeds : List RetryDeed
  /-- How often the worker has counted a failure. -/
  failures : Nat
  steps : Nat
deriving DecidableEq

namespace Docket

/-- A step of the worker is noted: it takes another unit, or does something about the one in
hand. -/
def noted (docket : Option Docket) (desk later : Desk) (worker next : Worker) : Option Docket :=
  match worker.phase, next.phase with
  | .receiving, .trying unit => some ⟨unit, [], 0, 0⟩
  | phase, _ =>
      if phase.seq?.isSome then
        docket.map fun docket =>
          { docket with
            deeds := docket.deeds ++ (worker.retryDeed? next).toList
            failures := docket.failures + Worker.failuresIn desk later
            steps := docket.steps + 1 }
      else
        docket

/-- What a docket keeps to while its worker is not asked to stop. -/
structure Keeps (docket : Docket) (worker : Worker) : Prop where
  underway : docket.unit.attempt = 0 →
    Underway worker.policy docket.unit worker.phase docket.deeds docket.failures
  steps : docket.steps + worker.pace ≤ 18 * ((restsOf docket.deeds).length + 1)

section Steps

variable {view : View} {task : TaskId} {desk later : Desk} {worker next : Worker}
  {answer : Option Answer} {old : Option Docket}

private theorem noted_of_inHand (inHand : worker.phase.seq?.isSome = true) :
    noted old desk later worker next = old.map fun docket =>
      { docket with
        deeds := docket.deeds ++ (worker.retryDeed? next).toList
        failures := docket.failures + Worker.failuresIn desk later
        steps := docket.steps + 1 } := by
  unfold noted
  split
  case h_1 receiving _ =>
    rw [receiving] at inHand
    contradiction
  case h_2 => rw [if_pos inHand]

/-- A worker with nothing in hand takes a unit, or has nothing in hand afterwards. -/
private theorem noted_of_goes (old : Option Docket)
    (goes : worker.Goes view task desk answer later next) (idle : worker.phase.seq? = none) :
    (∃ unit, next.phase = .trying unit ∧ noted old desk later worker next = some ⟨unit, [], 0, 0⟩) ∨
      next.phase.seq? = none ∧ noted old desk later worker next = old := by
  cases goes with
  | @takes unit _ receiving _ => exact .inl ⟨unit, rfl, by simp [noted, receiving, Worker.goTo]⟩
  | asks phase | endsAtStop phase | endsAtHangUp phase =>
      exact .inr ⟨rfl, by simp [noted, phase, Worker.goTo]⟩
  | stops either =>
      rcases either with phase | phase <;> exact .inr ⟨rfl, by simp [noted, phase]⟩
  | tries phase | hasTried phase | looks phase | findsOpen phase | findsClosed phase
  | reopens phase | enters phase | withdraws phase | findsAcknowledged phase | rests phase
  | hasFailed phase | isInterrupted phase | looksOn phase | reopensOn phase | sends phase
  | fails phase | wakes phase =>
      rw [phase] at idle
      contradiction

theorem Keeps.step {docket : Docket} (keeps : ∀ docket, old = some docket → docket.Keeps worker)
    (goes : worker.Goes view task desk answer later next) (calm : desk.shutdown = false)
    (isNoted : noted old desk later worker next = some docket) : docket.Keeps next := by
  cases inHand : worker.phase.seq? with
  | some seq =>
      have has : worker.phase.seq?.isSome = true := by rw [inHand]; rfl
      rw [noted_of_inHand has, Option.map_eq_some_iff] at isNoted
      obtain ⟨before, isOld, rfl⟩ := isNoted
      obtain ⟨underway, steps⟩ := keeps before isOld
      constructor
      case underway =>
        intro untried
        rw [goes.policy_eq]
        exact goes.policy_eq ▸ goes.underway calm has (underway untried)
      case steps =>
        have pace := goes.pace_lt has
        simp only [restsOf, List.filterMap_append, List.length_append] at steps pace ⊢
        omega
  | none =>
      rcases noted_of_goes old goes inHand with ⟨unit, trying, isNew⟩ | ⟨idle, same⟩
      · rw [isNew, Option.some.injEq] at isNoted
        subst isNoted
        constructor
        case underway =>
          intro untried
          have same : unit.retried 0 = unit := by
            rw [OutboundUnit.retried, ← untried]
          have begins : Underway next.policy unit (.trying (unit.retried 0)) [] 0 :=
            .tries (.inl rfl)
          rw [same] at begins
          rw [trying]
          exact begins
        case steps => simp [Worker.pace, trying, WorkerPhase.stepsLeft, restsOf]
      · rw [same] at isNoted
        obtain ⟨underway, steps⟩ := keeps docket isNoted
        constructor
        case underway =>
          intro untried
          rw [goes.policy_eq]
          exact .concluded idle ((underway untried).of_idle inHand)
        case steps =>
          rw [Worker.pace, idle]
          exact Nat.le_trans (Nat.le_add_right _ _) steps

theorem isSome_noted (goes : worker.Goes view task desk answer later next)
    (had : worker.phase.seq?.isSome = true → old.isSome = true)
    (inHand : next.phase.seq?.isSome = true) :
    (noted old desk later worker next).isSome = true := by
  cases before : worker.phase.seq? with
  | some seq =>
      have has : worker.phase.seq?.isSome = true := by rw [before]; rfl
      rw [noted_of_inHand has, Option.isSome_map]
      exact had has
  | none =>
      rcases noted_of_goes old goes before with ⟨unit, _, isNew⟩ | ⟨idle, _⟩
      · rw [isNew]
        rfl
      · rw [idle] at inHand
        contradiction

end Steps

end Docket

namespace Crew

def docketAfter (id : TaskId) (docket : Option Docket) (transition : Transition Desk Worker) :
    Option Docket :=
  match office.worked? transition with
  | some (other, worker, next) =>
      if other = id then
        Docket.noted docket transition.before.common transition.after.common worker next
      else docket
  | none => docket

/-- The docket of a worker, once it has taken a unit. -/
def docket? (id : TaskId) (trace : List (Transition Desk Worker)) : Option Docket :=
  trace.foldl (docketAfter id) none

variable {trace : List (Transition Desk Worker)} {before after last : Situation Desk Worker}
  {act : Act Worker} {id : TaskId}

theorem docket?_append (transition : Transition Desk Worker) :
    docket? id (trace ++ [transition]) = docketAfter id (docket? id trace) transition := by
  simp [docket?]

theorem docket?_append_of_works {worker next : Worker} {desk : Desk} (acts : act.task? = some id)
    (found : before.tasks[id]? = some worker) :
    docket? id (trace ++ [⟨before, act, before.put id (desk, next)⟩]) =
      Docket.noted (docket? id trace) before.common desk worker next := by
  have works : office.worked? ⟨before, act, before.put id (desk, next)⟩ =
      some (id, worker, next) := worked_of_put acts found
  rw [docket?_append, docketAfter, works]
  simp only [if_true]
  rfl

theorem docket?_append_of_ne (others : act.task? ≠ some id) :
    docket? id (trace ++ [⟨before, act, after⟩]) = docket? id trace := by
  rw [docket?_append, docketAfter]
  cases works : office.worked? ⟨before, act, after⟩ with
  | none => rfl
  | some found =>
      obtain ⟨other, worker, next⟩ := found
      have different : other ≠ id := by
        rintro rfl
        exact others (Office.acts_of_works works)
      exact if_neg different

/-- Nobody asks a crew to stop, joins it or touches its pool.  Whatever else happens is left
open: what comes into the queue, and what becomes of the ledger. -/
def calm : Rules Desk Worker := fun _ transition =>
  match transition.act with
  | .outside => transition.after.common.shutdown = transition.before.common.shutdown ∧
      transition.after.common.pool = transition.before.common.pool
  | .begin _ => False
  | _ => True

/-- What a calm crew keeps to. -/
structure Booked (policies : List RetryPolicy) (trace : List (Transition Desk Worker))
    (situation : Situation Desk Worker) : Prop where
  hired : ∀ id : Nat, situation.tasks[id]?.map Worker.policy = policies[id]?
  unasked : situation.common.shutdown = false
  locked : situation.common.pool.lock.Serves (situation.uses Worker.use)
  opened : ∀ (id : Nat) (worker : Worker), situation.tasks[id]? = some worker →
    worker.phase.seq?.isSome = true → (docket? id trace).isSome = true
  keeps : ∀ (id : Nat) (worker : Worker), situation.tasks[id]? = some worker →
    ∀ docket, docket? id trace = some docket → docket.Keeps worker

variable {policies : List RetryPolicy} {queue : UnitQueue} {view : View}

private theorem Booked.works (booked : Booked policies trace before) {worker next : Worker}
    {desk : Desk} (acts : act.task? = some id) (found : before.tasks[id]? = some worker)
    (goes : worker.Goes before.view id before.common act.answer? desk next) :
    Booked policies (trace ++ [⟨before, act, before.put id (desk, next)⟩])
      (before.put id (desk, next)) := by
  have others : ∀ other : Nat, ¬ id = other → act.task? ≠ some other := by
    intro other different same
    rw [acts] at same
    exact different (Option.some.inj same)
  constructor
  case hired =>
    intro other
    rw [← booked.hired other, Situation.tasks_put found]
    split
    case isTrue same =>
      rw [← same, found]
      exact congrArg some goes.policy_eq
    case isFalse => rfl
  case unasked => exact goes.advances.shutdown_eq.trans booked.unasked
  case locked => exact CreationLock.Serves.put booked.locked found goes.moves
  case opened =>
    intro other task isTask inHand
    rw [Situation.tasks_put found] at isTask
    split at isTask
    case isTrue same =>
      cases same
      cases isTask
      rw [docket?_append_of_works acts found]
      exact Docket.isSome_noted goes (booked.opened id worker found) inHand
    case isFalse different =>
      rw [docket?_append_of_ne (others other different)]
      exact booked.opened other task isTask inHand
  case keeps =>
    intro other task isTask docket isDocket
    rw [Situation.tasks_put found] at isTask
    split at isTask
    case isTrue same =>
      cases same
      cases isTask
      rw [docket?_append_of_works acts found] at isDocket
      exact Docket.Keeps.step (booked.keeps id worker found) goes booked.unasked isDocket
    case isFalse different =>
      rw [docket?_append_of_ne (others other different)] at isDocket
      exact booked.keeps other task isTask docket isDocket

private theorem Booked.step (booked : Booked policies trace before)
    (step : crew.Step before act after) (allowed : calm trace ⟨before, act, after⟩) :
    Booked policies (trace ++ [⟨before, act, after⟩]) after := by
  have idles : act.task? = none → after.tasks = before.tasks →
      after.common.shutdown = before.common.shutdown →
      after.common.pool = before.common.pool →
      Booked policies (trace ++ [⟨before, act, after⟩]) after := by
    intro idle tasks shutdown pool
    have same : ∀ id, docket? id (trace ++ [⟨before, act, after⟩]) = docket? id trace :=
      fun id => docket?_append_of_ne (by simp [idle])
    constructor
    case hired => simpa only [tasks] using booked.hired
    case unasked => exact shutdown.trans booked.unasked
    case locked =>
      unfold Situation.uses
      rw [pool, tasks]
      exact booked.locked
    case opened => simpa only [same, tasks] using booked.opened
    case keeps => simpa only [same, tasks] using booked.keeps
  cases step with
  | move found member => exact booked.works rfl found (Worker.goes_of_mem_moves member)
  | answer found waits returns => exact booked.works rfl found (Worker.goes_resume waits returns)
  | frame | countReconnect | shift => exact idles rfl rfl rfl rfl
  | outside desk => exact idles rfl rfl allowed.1 allowed.2
  | begin worker => exact allowed.elim

theorem booked_of_run (run : crew.Run calm (beginning policies queue false view) trace last) :
    Booked policies trace last := by
  induction run with
  | rest =>
      constructor
      case hired =>
        intro id
        cases found : policies[id]? <;> simp [beginning, Worker.start, found]
      case unasked => rfl
      case locked =>
        apply CreationLock.serves_of_away
        intro worker member
        obtain ⟨policy, _, rfl⟩ := exists_of_mem_beginning member
        rfl
      case opened =>
        intro id worker found inHand
        obtain ⟨policy, _, rfl⟩ := exists_of_mem_beginning (List.mem_of_getElem? found)
        contradiction
      case keeps =>
        intro id worker found docket isDocket
        contradiction
  | step run step allowed booked => exact booked.step step allowed

/-- A worker with a unit in hand can go on, or waits for one that can. -/
private theorem Booked.exists_canGoOn (booked : Booked policies trace last) {worker : Worker}
    (found : last.tasks[id]? = some worker) (inHand : worker.phase.seq?.isSome = true) :
    ∃ other, crew.CanGoOn last other ∧
      (other = id ∨ worker.use = .queued ∧ last.common.pool.lock.isHeldBy other = true) := by
  by_cases queued : worker.use = .queued
  · obtain ⟨holder, holding, present, isHeld, asked⟩ :=
      booked.locked.exists_holding found queued
    exact ⟨holder, ⟨holding, present, Worker.goes_on_of_asked asked fun _ => isHeld⟩,
      .inr ⟨queued, isHeld⟩⟩
  · exact ⟨id, ⟨worker, found, Worker.goes_on_of_seq? inHand fun isQueued =>
      absurd isQueued queued⟩, .inl rfl⟩

private theorem absent_of_resting {worker : Worker} {unit : OutboundUnit}
    (run : crew.Run rules (beginning policies queue false view) trace last)
    (distinct : queue.seqs.Nodup) (found : last.tasks[id]? = some worker)
    (resting : worker.phase = .resting unit) :
    last.common.ledger.correlator.entry? unit.seq = none := by
  obtain ⟨custody, apart⟩ := custody_of_run run distinct
  have single := custody.single (List.nodup_append.mp apart).1 unit.seq
  have known := known_of_custody custody unit.seq
  have inHand : worker.pending unit.seq = 1 := by simp [Worker.pending, resting]
  have own : worker.pending unit.seq ≤ office.sum (Worker.pending unit.seq) last :=
    Office.le_sum (List.mem_of_getElem? found) rfl _
  rw [Correlator.entry?_eq_none_iff]
  omega

/-- As long as nobody asks a crew to stop, whatever becomes of its tries: a worker that takes
an untried unit tries it until the first success and rests in between for as long as the policy
says, or makes all tries that are allowed, with no rest behind the last one, and counts one
failure.  Every try sends the same text, no more tries are counted than allowed, and the unit
is not in flight while the worker rests.  A delivery takes a bounded number of steps, and it
can go on until it is over. -/
theorem retries_of_run (run : crew.Run calm (beginning policies queue false view) trace last)
    {worker : Worker} (found : last.tasks[id]? = some worker) :
    policies[id]? = some worker.policy ∧
    (worker.phase.seq?.isSome = true → (docket? id trace).isSome = true ∧
      ∃ other, crew.CanGoOn last other ∧
        (other = id ∨ worker.use = .queued ∧ last.common.pool.lock.isHeldBy other = true)) ∧
    (∀ docket, docket? id trace = some docket → docket.unit.attempt = 0 →
      (worker.phase.seq? = none → ∀ succeeds, Agrees succeeds docket.deeds →
        (∀ failed < worker.policy.maxAttempts, SucceedsFirst succeeds failed →
          docket.deeds = worker.policy.success docket.unit failed ∧
          triesOf docket.deeds = (List.range (failed + 1)).map docket.unit.retried ∧
          restsOf docket.deeds = worker.policy.waits failed ∧
          docket.failures = 0) ∧
        ((∀ earlier < worker.policy.maxAttempts, succeeds earlier = false) →
          docket.deeds = worker.policy.exhaustion docket.unit ∧
          triesOf docket.deeds =
            (List.range worker.policy.maxAttempts).map docket.unit.retried ∧
          restsOf docket.deeds = worker.policy.waits (worker.policy.maxAttempts - 1) ∧
          docket.failures = 1)) ∧
      (∀ held, worker.phase.unit? = some held → ∃ failed, held = docket.unit.retried failed ∧
        (failed = 0 ∨ failed < worker.policy.maxAttempts)) ∧
      (∀ tried, worker.phase = .failing tried →
        tried.nextAttempt.attempt ≤ worker.policy.maxAttempts) ∧
      (∀ tried ∈ triesOf docket.deeds, tried.seq = docket.unit.seq ∧
        tried.wireText = docket.unit.wireText ∧ tried.attempt < worker.policy.maxAttempts) ∧
      (∀ channel payload, worker.call? = some (.send channel payload) →
        payload = docket.unit.wireText) ∧
      docket.steps ≤ 18 * max 1 worker.policy.maxAttempts) ∧
    (crew.Run rules (beginning policies queue false view) trace last → queue.seqs.Nodup →
      ∀ unit, worker.phase = .resting unit →
        last.common.ledger.correlator.entry? unit.seq = none) := by
  have booked := booked_of_run run
  -- only the last part needs the whole crew; the others are about this worker and its docket
  refine ⟨?_, ?_, ?_, fun run distinct unit resting => absent_of_resting run distinct found resting⟩
  · rw [← booked.hired id, found]
    rfl
  · intro inHand
    exact ⟨booked.opened id worker found inHand, booked.exists_canGoOn found inHand⟩
  intro docket isDocket untried
  obtain ⟨keeps, steps⟩ := booked.keeps id worker found docket isDocket
  have underway := keeps untried
  refine ⟨?_, fun held => underway.of_unit?, ?_, ?_, ?_, ?_⟩
  · intro idle succeeds agrees
    have concluded := underway.of_idle idle
    constructor
    · intro failed allowed first
      obtain ⟨deeds, failures⟩ := concluded.eq_success agrees allowed first
      rw [deeds]
      exact ⟨rfl, RetryPolicy.triesOf_success failed, RetryPolicy.restsOf_success failed, failures⟩
    · intro hopeless
      obtain ⟨deeds, failures⟩ := concluded.eq_exhaustion agrees hopeless
      rw [deeds]
      exact ⟨rfl, RetryPolicy.triesOf_exhaustion, RetryPolicy.restsOf_exhaustion, failures⟩
  · intro tried failing
    rw [failing] at underway
    exact underway.of_failing
  · intro tried member
    obtain ⟨earlier, early, rfl⟩ := underway.mem_triesOf member
    exact ⟨rfl, rfl, early⟩
  · intro channel payload calls
    obtain ⟨unit, sending, rfl⟩ := Worker.sending_of_call? calls
    rw [sending] at underway
    obtain ⟨failed, rfl, _⟩ := underway.of_unit? rfl
    rfl
  · have rests := underway.length_restsOf_lt
    calc docket.steps
      _ ≤ 18 * ((restsOf docket.deeds).length + 1) := Nat.le_trans (Nat.le_add_right _ _) steps
      _ ≤ 18 * max 1 worker.policy.maxAttempts := Nat.mul_le_mul_left 18 rests

theorem calm_of_isInner (trace : List (Transition Desk Worker))
    (transition : Transition Desk Worker) (inner : transition.act.isInner = true) :
    calm trace transition := by
  obtain ⟨notOutside, notBegin⟩ := Act.ne_of_isInner inner
  unfold calm
  split
  case h_1 outside => exact absurd outside notOutside
  case h_2 task begins => exact absurd begins (notBegin task)
  case h_3 => trivial

/-- Three tries, and rests of which the second would be longer than the cap. -/
def thrifty : RetryPolicy := ⟨3, .ofMillis 10, .ofMillis 15⟩

/-- The first worker cannot connect, then its send fails, and its third try succeeds.  All
sends of the second worker fail. -/
def setbackCourse : List (Cue Desk Worker) :=
  let refused : Fault := .transport "refused"
  let fails : TaskId → List (Cue Desk Worker) := fun id =>
    [.answer id (.failed .notOpen), .move id 0, .move id 0]
  let enters : TaskId → List (Cue Desk Worker) := fun id => List.replicate 4 (.move id 0)
  List.replicate 7 (.move 0 0) ++ [.answer 0 (.failed refused), .move 0 0, .answer 0 .done] ++
    List.replicate 5 (.move 0 0) ++ [.answer 0 (.connected 0)] ++ List.replicate 2 (.move 0 0) ++
    fails 0 ++ [.answer 0 .done] ++ enters 0 ++ [.answer 0 .done] ++
    List.replicate 2 (.move 1 0) ++ enters 1 ++ fails 1 ++ [.answer 1 .done] ++
    enters 1 ++ fails 1 ++ [.answer 1 .done] ++ enters 1 ++ fails 1

def showsOutcomes (id : TaskId) (unit : OutboundUnit) (outcomes : List Bool)
    (ending : List (Transition Desk Worker) × Situation Desk Worker) : Bool :=
  (docket? id ending.1).any (fun docket =>
    docket.unit == unit && outcomesOf docket.deeds == outcomes) &&
  ending.2.tasks[id]?.any fun worker => worker.phase == .ready

theorem retries_of_run_of_setbacks :
    ∃ queue view trace last first second delivered abandoned,
      crew.Run calm (beginning [thrifty, thrifty] queue false view) trace last ∧
      crew.Run rules (beginning [thrifty, thrifty] queue false view) trace last ∧
      queue.seqs.Nodup ∧
      last.tasks[0]? = some first ∧ docket? 0 trace = some delivered ∧
      delivered.deeds = thrifty.success (note 0) 2 ∧
      restsOf delivered.deeds = [.ofMillis 10, .ofMillis 15] ∧ delivered.failures = 0 ∧
      last.tasks[1]? = some second ∧ docket? 1 trace = some abandoned ∧
      abandoned.deeds = thrifty.exhaustion (note 1) ∧
      restsOf abandoned.deeds = [.ofMillis 10, .ofMillis 15] ∧ abandoned.failures = 1 := by
  let queue : UnitQueue := ⟨2, .ofList [.unit (note 0), .unit (note 1)], 1, 2⟩
  let view : View := ⟨0, fun _ => true⟩
  have replayed : (crew.replay (fun _ transition => transition.act.isInner) []
      (beginning [thrifty, thrifty] queue false view) setbackCourse).any
      (fun ending => showsOutcomes 0 (note 0) [false, false, true] ending &&
        showsOutcomes 1 (note 1) [false, false, false] ending) = true := by
    decide +kernel
  obtain ⟨trace, last, run, shown⟩ :=
    System.exists_run_of_replay (fun _ _ inner => inner) replayed
  have calmly := run.imp calm_of_isInner
  have properly := run.imp rules_of_isInner
  have distinct : queue.seqs.Nodup := by decide
  have shows : ∀ id unit outcomes, showsOutcomes id unit outcomes (trace, last) = true →
      ∃ worker docket, last.tasks[id]? = some worker ∧ docket? id trace = some docket ∧
        docket.unit = unit ∧ outcomesOf docket.deeds = outcomes ∧
        worker.phase.seq? = none := by
    intro id unit outcomes shows
    simp only [showsOutcomes, Bool.and_eq_true, Option.any_eq_true, beq_iff_eq] at shows
    obtain ⟨⟨docket, isDocket, isUnit, isOutcome⟩, worker, found, ready⟩ := shows
    exact ⟨worker, docket, found, isDocket, isUnit, isOutcome, by rw [ready]; rfl⟩
  rw [Bool.and_eq_true] at shown
  obtain ⟨first, delivered, isFirst, isDelivered, unit, outcomes, idle⟩ := shows _ _ _ shown.1
  obtain ⟨second, abandoned, isSecond, isAbandoned, other, failures, rests⟩ := shows _ _ _ shown.2
  obtain ⟨hired, _, delivery, _⟩ := retries_of_run calmly isFirst
  obtain ⟨otherHired, _, failure, _⟩ := retries_of_run calmly isSecond
  have policy : first.policy = thrifty := (Option.some.inj hired).symm
  have otherPolicy : second.policy = thrifty := (Option.some.inj otherHired).symm
  rw [policy] at delivery
  rw [otherPolicy] at failure
  have succeeded : Agrees (fun earlier => earlier == 2) delivered.deeds := by
    intro earlier outcome isOutcome
    rw [outcomes] at isOutcome
    obtain _ | _ | _ | _ := earlier <;> cases isOutcome <;> rfl
  have failed : Agrees (fun _ => false) abandoned.deeds := by
    intro earlier outcome isOutcome
    rw [failures] at isOutcome
    obtain _ | _ | _ | _ := earlier <;> cases isOutcome <;> rfl
  obtain ⟨deeds, _, waits, counted⟩ := ((delivery delivered isDelivered (by rw [unit]; rfl)).1 idle
    _ succeeded).1 2 (by decide) ⟨rfl, by decide⟩
  obtain ⟨otherDeeds, _, otherWaits, otherCounted⟩ :=
    ((failure abandoned isAbandoned (by rw [other]; rfl)).1 rests _ failed).2 fun _ _ => rfl
  rw [unit] at deeds
  rw [other] at otherDeeds
  have rested : thrifty.waits 2 = [.ofMillis 10, .ofMillis 15] := by decide
  exact ⟨queue, view, trace, last, first, second, delivered, abandoned, calmly, properly, distinct,
    isFirst, isDelivered, deeds, waits.trans rested, counted, isSecond, isAbandoned, otherDeeds,
    otherWaits.trans rested, otherCounted⟩

end Crew

end RoomLoad

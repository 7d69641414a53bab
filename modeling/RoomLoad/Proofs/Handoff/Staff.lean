import RoomLoad.Proofs.Handoff.Accounting
import RoomLoad.Proofs.Handoff.Completion

/-!
# Nobody waits in vain

A main phase with one generator, any number of workers and perhaps a conductor can go on
until all of them have ended, as long as a worker that waits for an item can.  Before the
launch only the conductor is at work; behind it a conductor waits for the others, and the
others for the lock and for the queue.
-/

namespace RoomLoad

namespace RunTask

def isOver : RunTask → Bool
  | conductor (.finished _) => true
  | conductor .crashed => true
  | conductor _ => false
  | generator inner => inner.report?.isSome
  | worker inner => inner.phase.isOver

end RunTask

theorem UnitQueue.of_empty {queue : UnitQueue} (empty : queue.take = .empty) :
    queue.items = [] ∧ queue.senders ≠ 0 := by
  unfold take at empty
  split at empty
  case h_1 => contradiction
  case h_2 nothing =>
    split at empty
    case isTrue => contradiction
    case isFalse sender => exact ⟨Fifo.pop?_eq_none_iff.mp nothing, sender⟩

theorem UnitQueue.offer_ne_full {queue : UnitQueue}
    (room : queue.receivers = 0 ∨ queue.items.length < queue.capacity) (envelope : Envelope) :
    queue.offer envelope ≠ .full := by
  intro full
  have noRoom := length_of_full full
  rcases room with nobody | room
  · rw [offer, if_pos nobody] at full
    contradiction
  · omega

/-- A generator is held up only by a full queue that somebody may take from. -/
theorem Generator.goes_on {now : Timestamp} {queue : UnitQueue} {generator : Generator}
    (atWork : generator.report? = none)
    (room : queue.receivers = 0 ∨ queue.items.length < queue.capacity) :
    (generator.step? now queue).isSome = true := by
  unfold step?
  dsimp only
  split
  case h_1 => split <;> rfl
  case h_2 number unit holding =>
    cases offered : queue.offer (.unit unit) with
    | full => exact absurd offered (UnitQueue.offer_ne_full room _)
    | _ => rfl
  case h_3 => rfl
  case h_4 left stopping =>
    cases offered : queue.offer .stop with
    | full => exact absurd offered (UnitQueue.offer_ne_full room _)
    | _ => rfl
  case h_5 report ended =>
    rw [report?, ended] at atWork
    contradiction

namespace Conductor

variable {view : View} {task : TaskId} {state later : RunState} {phase next : ConductorPhase}
  {answer : Option Answer}

/-- The generator and the workers may begin as soon as the conductor no longer prepares. -/
theorem Goes.launched_eq (goes : Goes view task state phase answer later next)
    (valid : state.config.validate = .ok ()) (standing : state.launched = !isPreparing phase) :
    later.launched = !isPreparing next := by
  cases goes with
  | refuses starting invalid =>
      rw [valid] at invalid
      contradiction
  | hasNoPlan launching unplanned =>
      obtain ⟨_, _, _, plan, planned, _⟩ := Config.of_validate valid
      rw [planned] at unplanned
      contradiction
  | launches => rfl
  | looks prewarming | looksOn prewarming =>
      rw [isPreparing_afterLookup]
      rw [prewarming] at standing
      exact standing
  | finishes closing same =>
      rw [closing] at standing
      rw [same]
      exact standing
  | begins here | collects here | falls here | isDrained here | timesOut here | pauses here
  | clears here | wakes here =>
      rw [here] at standing
      exact standing

theorem goes_on (atWork : (RunTask.conductor phase).isOver = false)
    (turn : use phase = .queued → state.desk.pool.lock.isHeldBy task = true)
    (done : phase = .awaiting →
      state.generated.isSome = true ∧ state.config.senderWorkers ≤ state.ended) :
    moves view task state phase ≠ [] ∨ (call? phase).isSome = true := by
  cases phase with
  | starting =>
      left
      rw [moves]
      split <;> exact List.cons_ne_nil _ _
  | prewarming room lookup =>
      have either : (lookup.move? view task (UInt32.ofNat room) state.desk.pool).isSome = true ∨
        (lookup.call? (UInt32.ofNat room)).isSome = true := Lookup.goes_on turn
      rcases either with moved | waits
      · left
        obtain ⟨⟨pool, progress⟩, found⟩ := Option.isSome_iff_exists.mp moved
        rw [moves, found]
        exact List.cons_ne_nil _ _
      · exact .inr waits
  | launching =>
      left
      rw [moves]
      split <;> exact List.cons_ne_nil _ _
  | awaiting =>
      left
      obtain ⟨reported, ended⟩ := done rfl
      simp only [moves, reported, ended, decide_true, Bool.and_self, if_true]
      split <;> exact List.cons_ne_nil _ _
  | draining deadline =>
      left
      rw [moves]
      split
      case isTrue => exact List.cons_ne_nil _ _
      case isFalse => split <;> exact List.cons_ne_nil _ _
  | pausing deadline interval => exact .inr rfl
  | clearing timedOut => exact .inl (List.cons_ne_nil _ _)
  | closing channels timedOut => exact .inr rfl
  | finished result => contradiction
  | crashed => contradiction

end Conductor

namespace MainPhase

variable {trace : List (Transition RunState RunTask)}
  {before after situation : Situation RunState RunTask} {act : Act RunTask} {config : Config}
  {producer : TaskId}

/-- There is one generator, whose report is on file, and at most one conductor, who comes
first and lets the others begin. -/
structure Staffed (config : Config) (producer : TaskId)
    (situation : Situation RunState RunTask) : Prop where
  config_eq : situation.common.config = config
  generator : ∃ generator, situation.tasks[producer]? = some (.generator generator) ∧
    situation.common.generated = generator.report?
  only : ∀ (id : TaskId) generator,
    situation.tasks[id]? = some (.generator generator) → id = producer
  first : ∀ (id : TaskId) phase, situation.tasks[id]? = some (.conductor phase) → id = 0
  standing : ∀ (id : TaskId) phase, situation.tasks[id]? = some (.conductor phase) →
    config.validate = .ok () ∧ situation.common.launched = !Conductor.isPreparing phase
  conducted : situation.common.launched = false →
    ∃ phase, situation.tasks[0]? = some (RunTask.conductor phase)
  idle : situation.common.launched = false → ∀ (id : TaskId) worker,
    situation.tasks[id]? = some (.worker worker) → worker.phase = .ready
  enough : ∀ (id : TaskId) phase, situation.tasks[id]? = some (.conductor phase) →
    config.senderWorkers ≤ office.sum (fun _ => 1) situation

theorem Goes.config_eq (goes : Goes before act after) :
    after.common.config = before.common.config := by
  cases goes with
  | idles acts frames => exact frames.config
  | conducts acts found goes => exact goes.advances.desk_eq.2.2.2.2.2.1
  | generates => rfl
  | works => rfl

theorem Goes.launched_eq (goes : Goes before act after)
    (others : ∀ (id : TaskId) phase, act.task? = some id →
      before.tasks[id]? ≠ some (.conductor phase)) :
    after.common.launched = before.common.launched := by
  cases goes with
  | idles acts frames => exact frames.launched
  | conducts acts found => exact absurd found (others _ _ acts)
  | generates => rfl
  | works => rfl

theorem Goes.launched_stays (goes : Goes before act after)
    (launched : before.common.launched = true) : after.common.launched = true := by
  cases goes with
  | idles acts frames => exact frames.launched.trans launched
  | conducts acts found goes =>
      cases goes.advances with
      | launches => rfl
      | finishes closing same =>
          rw [same]
          exact launched
      | _ => exact launched
  | generates => exact launched
  | works => exact launched

theorem Goes.launched_before (goes : Goes before act after)
    (waits : after.common.launched = false) : before.common.launched = false := by
  cases launched : before.common.launched with
  | false => rfl
  | true =>
      rw [goes.launched_stays launched] at waits
      contradiction

private theorem generator_of_goes (staffed : Staffed config producer before)
    (goes : Goes before act after) :
    ∃ generator, after.tasks[producer]? = some (.generator generator) ∧
      after.common.generated = generator.report? := by
  obtain ⟨generator, found, reported⟩ := staffed.generator
  have stays : ∀ {id : TaskId} {task : RunTask} {next : RunState × RunTask},
      before.tasks[id]? = some task → task.generator? = none →
      (before.put id next).tasks[producer]? = some (.generator generator) := by
    intro id task next present other
    have apart : id ≠ producer := by
      rintro rfl
      rw [found] at present
      cases present
      contradiction
    rw [Situation.tasks_put_of_ne apart]
    exact found
  cases goes with
  | idles acts frames =>
      rw [frames.tasks, frames.generated]
      exact ⟨generator, found, reported⟩
  | conducts acts present goes =>
      exact ⟨generator, stays present rfl, goes.advances.desk_eq.2.2.1.trans reported⟩
  | generates acts present advances =>
      obtain rfl := staffed.only _ _ present
      exact ⟨_, Situation.tasks_put_self present _, rfl⟩
  | works acts present goes => exact ⟨generator, stays present rfl, reported⟩

private theorem idle_of_goes (staffed : Staffed config producer before)
    (goes : Goes before act after) (waits : after.common.launched = false) {id : TaskId}
    {worker : Worker} (found : after.tasks[id]? = some (.worker worker)) :
    worker.phase = .ready := by
  have unlaunched := goes.launched_before waits
  cases goes with
  | idles acts frames =>
      rw [frames.tasks] at found
      exact staffed.idle unlaunched id worker found
  | works acts present goes launched =>
      rw [launched (goes.answer_eq_none (staffed.idle unlaunched _ _ present))] at unlaunched
      contradiction
  | conducts acts present | generates acts present =>
      rw [Situation.tasks_put present] at found
      split at found
      case isTrue => cases Option.some.inj found
      case isFalse => exact staffed.idle unlaunched id worker found

theorem Goes.crew_eq (goes : Goes before act after) :
    office.sum (fun _ => 1) after = office.sum (fun _ => 1) before := by
  cases goes with
  | idles acts frames => rw [Office.sum, frames.tasks, Office.sum]
  | conducts acts found | generates acts found => exact office.sum_put found _ _
  | works acts found works => exact Nat.add_right_cancel (office.sum_put found _ _)

theorem Staffed.goes (staffed : Staffed config producer before) (goes : Goes before act after) :
    Staffed config producer after := by
  constructor
  case config_eq => exact goes.config_eq.trans staffed.config_eq
  case generator => exact generator_of_goes staffed goes
  case only =>
    intro id generator found
    rcases goes.generator found with ⟨_, same⟩ | ⟨own, _, _, present, _⟩
    · exact staffed.only id generator same
    · exact staffed.only id own present
  case first =>
    intro id phase found
    rcases goes.conductor found with ⟨_, same⟩ | ⟨own, _, _, present, _⟩
    · exact staffed.first id phase same
    · exact staffed.first id own present
  case standing =>
    intro id phase found
    rcases goes.conductor found with ⟨others, same⟩ | ⟨own, later, acts, present, conducts, rfl⟩
    · obtain ⟨valid, standing⟩ := staffed.standing id phase same
      refine ⟨valid, (goes.launched_eq ?_).trans standing⟩
      intro other own acts present
      have both := (staffed.first other own present).trans (staffed.first id phase same).symm
      exact others (both ▸ acts)
    · obtain ⟨valid, standing⟩ := staffed.standing id own present
      refine ⟨valid, conducts.launched_eq ?_ standing⟩
      rw [staffed.config_eq]
      exact valid
  case conducted =>
    intro waits
    obtain ⟨phase, found⟩ := staffed.conducted (goes.launched_before waits)
    cases goes with
    | idles acts frames => exact ⟨phase, by rw [frames.tasks]; exact found⟩
    | conducts acts present =>
        obtain rfl := staffed.first _ _ present
        exact ⟨_, Situation.tasks_put_self present _⟩
    | generates acts present | works acts present =>
        refine ⟨phase, ?_⟩
        rw [Situation.tasks_put present]
        split
        case isTrue same =>
          rw [same, found] at present
          cases present
        case isFalse => exact found
  case idle =>
    intro waits id worker found
    exact idle_of_goes staffed goes waits found
  case enough =>
    intro id phase found
    rw [goes.crew_eq]
    rcases goes.conductor found with ⟨_, same⟩ | ⟨own, _, _, present, _⟩
    · exact staffed.enough id phase same
    · exact staffed.enough id own present

theorem canGoOn_of_worker {id : TaskId} {worker : Worker}
    (launched : situation.common.launched = true)
    (found : situation.tasks[id]? = some (.worker worker))
    (goesOn : worker.moves situation.view id situation.common.desk ≠ [] ∨
      worker.call?.isSome = true) :
    mainPhase.CanGoOn situation id := by
  refine ⟨_, found, ?_⟩
  rcases goesOn with moves | waits
  · left
    show RunTask.moves situation.view id situation.common (.worker worker) ≠ []
    rw [RunTask.moves, launched, if_pos rfl]
    exact fun none => moves (List.map_eq_nil_iff.mp none)
  · exact .inr waits

theorem canGoOn_of_generator {id : TaskId} {generator : Generator}
    (launched : situation.common.launched = true)
    (found : situation.tasks[id]? = some (.generator generator))
    (atWork : generator.report? = none)
    (room : situation.common.desk.queue.receivers = 0 ∨
      situation.common.desk.queue.items.length < situation.common.desk.queue.capacity) :
    mainPhase.CanGoOn situation id := by
  refine ⟨_, found, .inl ?_⟩
  show RunTask.moves situation.view id situation.common (.generator generator) ≠ []
  have steps : (generator.step? (.ofInstant situation.view.now)
    situation.common.desk.queue).isSome = true := Generator.goes_on atWork room
  obtain ⟨⟨next, queue⟩, stepped⟩ := Option.isSome_iff_exists.mp steps
  rw [RunTask.moves, launched, if_pos rfl, stepped]
  exact List.cons_ne_nil _ _

theorem canGoOn_of_conductor {id : TaskId} {phase : ConductorPhase}
    (found : situation.tasks[id]? = some (.conductor phase))
    (goesOn : Conductor.moves situation.view id situation.common phase ≠ [] ∨
      (Conductor.call? phase).isSome = true) :
    mainPhase.CanGoOn situation id := by
  refine ⟨_, found, ?_⟩
  rcases goesOn with moves | waits
  · left
    exact fun none => moves (List.map_eq_nil_iff.mp none)
  · exact .inr waits

/-- Whoever has asked for the lock is at work, and waits for nothing but the lock. -/
private theorem canGoOn_of_asked (staffed : Staffed config producer situation) {id : TaskId}
    {task : RunTask} (found : situation.tasks[id]? = some task) (asked : task.use ≠ .away)
    (turn : task.use = .queued → situation.common.desk.pool.lock.isHeldBy id = true) :
    mainPhase.CanGoOn situation id := by
  cases task with
  | generator generator => exact absurd rfl asked
  | conductor phase =>
      have looksUp : ∃ room lookup, phase = .prewarming room lookup := by
        cases phase with
        | prewarming room lookup => exact ⟨room, lookup, rfl⟩
        | _ => exact absurd rfl asked
      obtain ⟨room, lookup, rfl⟩ := looksUp
      refine canGoOn_of_conductor found (Conductor.goes_on rfl turn ?_)
      intro contrary
      contradiction
  | worker worker =>
      have launched : situation.common.launched = true := by
        cases waits : situation.common.launched with
        | true => rfl
        | false =>
            have ready := staffed.idle waits id worker found
            exact absurd (show worker.use = .away by rw [Worker.use, ready]) asked
      exact canGoOn_of_worker launched found (Worker.goes_on_of_asked asked turn)

/-- While anybody waits for the lock, the one that has it can go on. -/
private theorem holder_goes_on (locked : Locked situation)
    (staffed : Staffed config producer situation) {id : TaskId} {task : RunTask}
    (found : situation.tasks[id]? = some task) (queued : task.use = .queued) :
    ∃ other, mainPhase.CanGoOn situation other := by
  obtain ⟨holder, holding, present, isHeld, asked⟩ := locked.exists_holding found queued
  exact ⟨holder, canGoOn_of_asked staffed present asked fun _ => isHeld⟩

/-- Nobody is left to take anything once all workers have come to their ends. -/
private theorem over_of_none_left
    (none : ¬ ∃ (id : TaskId) (worker : Worker),
      situation.tasks[id]? = some (.worker worker) ∧ worker.phase.isOver = false) :
    office.sum Worker.atWork situation = 0 := by
  apply Office.sum_eq_zero
  intro task member worker isWorker
  obtain ⟨id, found⟩ := List.getElem?_of_mem member
  cases task with
  | worker own =>
      cases isWorker
      cases finished : worker.phase.isOver with
      | false => exact absurd ⟨id, worker, found, finished⟩ none
      | true =>
          rw [Worker.atWork, finished]
          rfl
  | _ => contradiction

private theorem exists_canGoOn_of_none_left (locked : Locked situation)
    (staffed : Staffed config producer situation) (books : Books situation)
    (launched : situation.common.launched = true)
    (none : office.sum Worker.atWork situation = 0)
    {id : TaskId} {task : RunTask} (found : situation.tasks[id]? = some task)
    (atWork : task.isOver = false) (notWorker : task.worker? = Option.none) :
    ∃ other, mainPhase.CanGoOn situation other := by
  obtain ⟨generator, producing, reported⟩ := staffed.generator
  have receivers : situation.common.desk.queue.receivers = 0 := by
    rw [books.receivers, none]
  cases ended : generator.report? with
  | none => exact ⟨producer, canGoOn_of_generator launched producing ended (.inl receivers)⟩
  | some report =>
      cases task with
      | worker worker => contradiction
      | generator own =>
          have same := staffed.only id own found
          rw [same, producing] at found
          cases found
          rw [RunTask.isOver, ended] at atWork
          contradiction
      | conductor phase =>
          by_cases queued : Conductor.use phase = .queued
          · exact holder_goes_on locked staffed found queued
          · refine ⟨id, canGoOn_of_conductor found (Conductor.goes_on atWork ?_ ?_)⟩
            · exact fun contrary => absurd contrary queued
            · intro awaiting
              have enough := staffed.enough id phase found
              have together : office.sum (fun _ => 1) situation =
                  office.sum (Worker.settled fun _ => 1) situation +
                    office.sum Worker.atWork situation := by
                rw [← Office.sum_add]
                exact Office.sum_congr fun _ _ worker _ => worker.settled_add_atWork.symm
              rw [reported, ended, staffed.config_eq, books.ended]
              exact ⟨rfl, by omega⟩

/-- As long as a task has not come to its end, some task can go on, provided that this is so
while a worker waits for an item. -/
theorem exists_canGoOn_of_supply (locked : Locked situation)
    (staffed : Staffed config producer situation) (books : Books situation)
    (supply : ∀ (id : TaskId) worker, situation.common.launched = true →
      situation.tasks[id]? = some (.worker worker) → worker.phase = .receiving →
        worker.receive situation.common.desk ≠ [] ∨ ∃ other, mainPhase.CanGoOn situation other)
    {task : RunTask} (member : task ∈ situation.tasks) (atWork : task.isOver = false) :
    ∃ id, mainPhase.CanGoOn situation id := by
  cases launched : situation.common.launched with
  | false =>
      obtain ⟨phase, found⟩ := staffed.conducted launched
      obtain ⟨_, standing⟩ := staffed.standing 0 phase found
      by_cases queued : Conductor.use phase = .queued
      · exact holder_goes_on locked staffed found queued
      · refine ⟨0, canGoOn_of_conductor found (Conductor.goes_on ?_ ?_ ?_)⟩
        · rw [launched] at standing
          cases phase <;> first | rfl | contradiction
        · exact fun contrary => absurd contrary queued
        · intro awaiting
          rw [launched, awaiting] at standing
          contradiction
  | true =>
      by_cases left : ∃ (id : TaskId) (worker : Worker),
          situation.tasks[id]? = some (.worker worker) ∧ worker.phase.isOver = false
      · obtain ⟨id, worker, found, busy⟩ := left
        by_cases queued : worker.use = .queued
        · exact holder_goes_on locked staffed found queued
        · by_cases starved : worker.phase = .receiving ∧ worker.receive situation.common.desk = []
          · rcases supply id worker launched found starved.1 with supplied | others
            · exact absurd starved.2 supplied
            · exact others
          · refine ⟨id, canGoOn_of_worker launched found (Worker.goes_on busy ?_ ?_)⟩
            · exact fun contrary => absurd contrary queued
            · exact fun receiving empty => starved ⟨receiving, empty⟩
      · obtain ⟨id, found⟩ := List.getElem?_of_mem member
        have noWorker : task.worker? = none := by
          cases task with
          | worker worker => exact absurd ⟨id, worker, found, atWork⟩ left
          | _ => rfl
        exact exists_canGoOn_of_none_left locked staffed books launched (over_of_none_left left)
          found atWork noWorker

end MainPhase

end RoomLoad

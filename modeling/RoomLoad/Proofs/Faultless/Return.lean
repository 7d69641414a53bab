import RoomLoad.Proofs.Faultless.Echoes
import RoomLoad.Proofs.Handoff.Liveliness

/-!
# A run before a faultless service returns

Until the conductor has come to its end somebody can do something, at once or as soon as the
next echo comes or the conductor wakes up.  There is only so much to do.
-/

namespace RoomLoad

/-- Whether a step is taken by a task or brings a frame. -/
def Act.isWork {τ : Type} : Act τ → Bool
  | .move _ => true
  | .answer _ _ => true
  | .frame _ => true
  | _ => false

def Stubs.view (stubs : Stubs) (now : Instant) : View :=
  ⟨now, fun channel => (stubs channel).state.isOpen⟩

private theorem exists_fresh (handed : List ChannelId) : ∃ fresh, fresh ∉ handed := by
  cases greatest : handed.max? with
  | none =>
      rw [List.max?_eq_none_iff] at greatest
      exact ⟨0, by simp [greatest]⟩
  | some channel =>
      refine ⟨channel + 1, ?_⟩
      intro member
      exact absurd ((List.max?_eq_some_iff.mp greatest).2 _ member) (Nat.not_succ_le_self channel)

namespace MainPhase

variable {stubs : Stubs} {trace : List (Transition RunState RunTask)}
  {before after last : Situation RunState RunTask} {act : Act RunTask} {id : TaskId}
  {config : Config} {plan : GeneratorPlan} {phase next : ConductorPhase} {letter : Letter}
  {moment : Instant}

/-- Somebody can do something at once. -/
def Stirs (stubs : Stubs) (trace : List (Transition RunState RunTask))
    (last : Situation RunState RunTask) : Prop :=
  ∃ act after, act.isWork = true ∧ mainPhase.Step last act after ∧
    punctual stubs trace ⟨last, act, after⟩

/-- Nobody but the conductor sleeps, and only while it waits for echoes. -/
theorem of_wakesAt? (paved : Paved config stubs trace last phase)
    (regular : Regular config plan trace last) (wakes : wakesAt? trace last id = some moment) :
    id = 0 ∧ ∃ deadline interval, phase = .pausing deadline interval ∧
      moment = lastStep 0 trace + interval.nanos := by
  unfold wakesAt? at wakes
  split at wakes
  case h_2 => contradiction
  case h_1 duration sleeps =>
    cases wakes
    obtain ⟨task, found, waits⟩ := Option.bind_eq_some_iff.mp sleeps
    cases task with
    | generator generator => contradiction
    | worker worker =>
        have passes := (paved.workers id worker found).passes
        have calls : worker.call? = some (.sleep duration) := waits
        rcases Worker.call?_of_passes passes with none | ⟨unit, channel, _, sends⟩
        · cases none.symm.trans calls
        · cases sends.symm.trans calls
    | conductor own =>
        obtain rfl := regular.staffed.first id own found
        cases paved.found.symm.trans found
        obtain ⟨deadline, pauses⟩ := Conductor.eq_pausing_of_call? waits
        exact ⟨rfl, deadline, duration, pauses, rfl⟩

theorem mem_alarms : moment ∈ alarms stubs trace last ↔
    (∃ letter ∈ (traffic stubs trace).letters, letter.due? stubs = some moment) ∨
      ∃ id < last.tasks.length, wakesAt? trace last id = some moment := by
  simp only [alarms, List.mem_append, List.mem_filterMap, List.mem_range,
    (Letter.congr_scripts script_traffic).2.2.1]

theorem Untroubled.le_of_mem_alarms (untroubled : Untroubled config plan stubs trace last phase)
    (alarm : moment ∈ alarms stubs trace last) : last.view.now ≤ moment := by
  obtain ⟨regular, paved, echoed⟩ := untroubled
  rcases mem_alarms.mp alarm with ⟨letter, member, due⟩ | ⟨id, _, wakes⟩
  · obtain ⟨done, isDone, rfl⟩ := Option.map_eq_some_iff.mp due
    exact ((echoed.posted letter member).doneAt done isDone).2.2.1
  · obtain ⟨_, deadline, interval, rfl, rfl⟩ := of_wakesAt? paved regular wakes
    exact echoed.awaits.2.2

theorem stirs_of_letter (echoed : Echoed config stubs trace last phase)
    (listens : ∀ channel, (stubs channel).script.listens = true)
    (member : letter ∈ (traffic stubs trace).letters)
    (early : letter.begun + letter.travel stubs ≤ last.view.now)
    (due : (letter.due? stubs).all (last.view.now ≤ ·) = true) : Stirs stubs trace last := by
  obtain ⟨unit, _, sent⟩ := (echoed.posted letter member).known
  refine ⟨.frame (AckFrame.echo unit.payload
    (.ofInstant (last.view.now - letter.travel stubs))).wireText, _, rfl, .frame _, ?_⟩
  refine List.any_eq_true.mpr ⟨letter, member, ?_⟩
  rw [(Letter.congr_scripts script_traffic).2.2.2, Letter.isIn, sent,
    Stub.echo_unit (listens letter.channel), due, decide_eq_true early]
  simp

theorem stirs_of_move {task : RunTask} (shows : (traffic stubs trace).shows last.view = true)
    (found : last.tasks[id]? = some task)
    (moves : task.moves last.view id last.common ≠ []) : Stirs stubs trace last := by
  obtain ⟨after, member⟩ := List.exists_mem_of_ne_nil _ moves
  exact ⟨.move id, _, rfl, .move found member, shows⟩

theorem stirs_of_answer {task : RunTask} {call : Call} {answer : Answer}
    (found : last.tasks[id]? = some task) (waits : task.call? = some call)
    (returns : call.Returns answer)
    (replies : (traffic stubs trace).stubs.replies (.ofInstant last.view.now) call answer = true)
    (ends : mayEnd (traffic stubs trace) trace last.view.now id call answer = true) :
    Stirs stubs trace last := by
  refine ⟨.answer id answer, _, rfl, .answer found waits returns, ?_⟩
  show (Option.all _ _) = true
  rw [found, Option.bind_some, waits, Option.all_some, replies, ends]
  rfl

private theorem stirs_of_sending (echoed : Echoed config stubs trace last phase)
    (paved : Paved config stubs trace last phase)
    (inTime : ∀ channel, (stubs channel).Echoes config.drainTimeout)
    (unfinished : ∀ result, phase ≠ .finished result) {worker : Worker} {unit : OutboundUnit}
    {channel : ChannelId} (found : last.tasks[id]? = some (.worker worker))
    (waits : worker.call? = some (.send channel unit.wireText)) : Stirs stubs trace last := by
  by_cases inline : ∃ letter ∈ (traffic stubs trace).letters,
      letter.sender = id ∧ letter.doneAt = none ∧ letter.delay? stubs = none
  · obtain ⟨letter, member, _, done, noDelay⟩ := inline
    apply stirs_of_letter echoed (fun channel => (inTime channel).listens) member
    · rw [Letter.travel, noDelay]
      exact (echoed.posted letter member).begun
    · rw [Letter.due?, done]
      rfl
  · have echoes := paved.echoes unfinished channel
    refine stirs_of_answer found waits (.sent channel unit.wireText) ?_ ?_
    · simp [Stubs.replies, Stub.send_unit echoes.delivers echoes.isOpen]
    · rw [mayEnd, List.all_eq_true]
      intro letter member
      rw [(Letter.congr_scripts script_traffic).2.1]
      cases done : letter.doneAt with
      | some moment => simp
      | none =>
          cases delayed : letter.delay? stubs with
          | some delay => simp
          | none =>
              have other : letter.sender ≠ id := fun same =>
                inline ⟨letter, member, same, done, delayed⟩
              simp [other]

/-- A task that can go on does, unless it sleeps. -/
private theorem stirs_of_canGoOn (untroubled : Untroubled config plan stubs trace last phase)
    (inTime : ∀ channel, (stubs channel).Echoes config.drainTimeout)
    (unfinished : ∀ result, phase ≠ .finished result)
    (awake : ∀ deadline interval, phase ≠ .pausing deadline interval)
    (shows : (traffic stubs trace).shows last.view = true)
    (canGoOn : mainPhase.CanGoOn last id) : Stirs stubs trace last := by
  obtain ⟨regular, paved, echoed⟩ := untroubled
  obtain ⟨task, found, moves | waits⟩ := canGoOn
  · exact stirs_of_move shows found moves
  · obtain ⟨call, calls⟩ := Option.isSome_iff_exists.mp waits
    cases task with
    | generator generator => contradiction
    | worker worker =>
        have passes := (paved.workers id worker found).passes
        have waiting : worker.call? = some call := calls
        rcases Worker.call?_of_passes passes with none | ⟨unit, channel, _, sends⟩
        · cases none.symm.trans waiting
        · exact stirs_of_sending echoed paved inTime unfinished found sends
    | conductor own =>
        obtain rfl := regular.staffed.first id own found
        cases paved.found.symm.trans found
        rcases Conductor.call?_cases phase with none | ⟨room, connects⟩ | ⟨channels, closes⟩ |
          ⟨interval, sleeps⟩
        · cases none.symm.trans calls
        · obtain ⟨fresh, isFresh⟩ := exists_fresh (traffic stubs trace).handed
          refine stirs_of_answer found connects (.connected room fresh) rfl ?_
          simp [mayEnd, isFresh]
        · exact stirs_of_answer found closes (.closed channels) rfl rfl
        · obtain ⟨deadline, pauses⟩ := Conductor.eq_pausing_of_call? sleeps
          exact absurd pauses (awake deadline interval)

variable {source : RandomSource} {view : View} {start : Situation RunState RunTask}

/-- Somebody goes on, at once or when some time has passed. -/
def Resumes (stubs : Stubs) (start : Situation RunState RunTask)
    (trace : List (Transition RunState RunTask)) (last : Situation RunState RunTask) : Prop :=
  ∃ view act after, act.isWork = true ∧
    mainPhase.Run (punctual stubs) start
      (trace ++ [⟨last, .shift, { last with view := view }⟩] ++
        [⟨{ last with view := view }, act, after⟩]) after

theorem resumes_of_stirs {seen : View} (run : mainPhase.Run (punctual stubs) start
      (trace ++ [⟨last, .shift, { last with view := seen }⟩]) { last with view := seen })
    (stirs : Stirs stubs (trace ++ [⟨last, .shift, { last with view := seen }⟩])
      { last with view := seen }) : Resumes stubs start trace last := by
  obtain ⟨act, after, work, step, allowed⟩ := stirs
  exact ⟨seen, act, after, work, .step run step allowed⟩

/-- Time may pass up to the next moment at which something is due. -/
theorem run_shift {seen : View} (run : mainPhase.Run (punctual stubs) start trace last)
    (later : last.view.now ≤ seen.now)
    (early : ∀ moment ∈ alarms stubs trace last, seen.now ≤ moment) :
    mainPhase.Run (punctual stubs) start
      (trace ++ [⟨last, .shift, { last with view := seen }⟩]) { last with view := seen } := by
  refine .step run (.shift seen) ?_
  show (_ && _) = true
  rw [decide_eq_true later, Bool.true_and, List.all_eq_true]
  intro moment alarm
  exact decide_eq_true (early moment alarm)

private theorem traffic_shift {seen : View} :
    traffic stubs (trace ++ [⟨last, .shift, { last with view := seen }⟩]) =
      traffic stubs trace := by
  rw [traffic_append]
  exact Traffic.after_of_idle rfl fun _ => nofun

private theorem alarms_shift {seen : View} :
    alarms stubs (trace ++ [⟨last, .shift, { last with view := seen }⟩])
      { last with view := seen } = alarms stubs trace last := by
  have wakes : wakesAt? (trace ++ [⟨last, .shift, { last with view := seen }⟩])
      { last with view := seen } = wakesAt? trace last := by
    funext id
    rw [wakesAt?, lastStep_append_of_ne, wakesAt?]
    intro acts
    contradiction
  rw [alarms, traffic_shift, wakes, alarms]

/-- Somebody can go on when the channels are seen as they are, and nobody sleeps. -/
private theorem stirs_of_awake (untroubled : Untroubled config plan stubs trace last phase)
    (valid : config.validate = .ok ())
    (inTime : ∀ channel, (stubs channel).Echoes config.drainTimeout)
    (atWork : (RunTask.conductor phase).isOver = false)
    (awake : ∀ deadline interval, phase ≠ .pausing deadline interval)
    (shows : (traffic stubs trace).shows last.view = true) : Stirs stubs trace last := by
  have regular := untroubled.regular
  have supply : ∀ (id : TaskId) worker, last.common.launched = true →
      last.tasks[id]? = some (.worker worker) → worker.phase = .receiving →
        worker.receive last.common.desk ≠ [] ∨ ∃ other, mainPhase.CanGoOn last other := by
    intro id worker launched found receiving
    by_cases empty : last.common.desk.queue.take = .empty
    · obtain ⟨generator, stream⟩ := regular.kept.stream
      have roomy := (Config.of_validate valid).2.2.1
      rw [← untroubled.paved.capacity] at roomy
      exact .inr ⟨1, canGoOn_of_empty stream launched roomy empty⟩
    · exact .inl (Worker.receive_ne_nil empty)
  obtain ⟨id, canGoOn⟩ := exists_canGoOn_of_supply regular.locked regular.staffed
    regular.kept.books supply (List.mem_of_getElem? untroubled.paved.found) atWork
  refine stirs_of_canGoOn untroubled inTime ?_ awake shows canGoOn
  rintro result rfl
  contradiction

/-- Something is due next while the conductor sleeps. -/
private theorem exists_first_alarm {deadline : Instant} {interval : Duration}
    (paved : Paved config stubs trace last (.pausing deadline interval)) :
    ∃ moment ∈ alarms stubs trace last, ∀ other ∈ alarms stubs trace last, moment ≤ other := by
  obtain ⟨inside, _⟩ := List.getElem?_eq_some_iff.mp paved.found
  have waking : lastStep 0 trace + interval.nanos ∈ alarms stubs trace last := by
    refine mem_alarms.mpr (.inr ⟨0, inside, ?_⟩)
    rw [wakesAt?, paved.found]
    rfl
  cases first : (alarms stubs trace last).min? with
  | none =>
      rw [List.min?_eq_none_iff.mp first] at waking
      contradiction
  | some moment => exact ⟨moment, List.min?_eq_some_iff.mp first⟩

/-- What is due next happens while the conductor sleeps. -/
private theorem stirs_of_alarm {deadline moment : Instant} {interval : Duration}
    (untroubled : Untroubled config plan stubs trace last (.pausing deadline interval))
    (listens : ∀ channel, (stubs channel).script.listens = true)
    (alarm : moment ∈ alarms stubs trace last) (now : last.view.now = moment) :
    Stirs stubs trace last := by
  obtain ⟨regular, paved, echoed⟩ := untroubled
  rcases mem_alarms.mp alarm with ⟨letter, member, due⟩ | ⟨id, _, wakes⟩
  · have dueNow := due
    obtain ⟨done, isDone, isDue⟩ := Option.map_eq_some_iff.mp due
    apply stirs_of_letter echoed listens member
    · rw [now, ← isDue]
      exact Nat.add_le_add_right ((echoed.posted letter member).doneAt done isDone).1 _
    · rw [dueNow, now]
      exact decide_eq_true (Nat.le_refl _)
  · obtain ⟨rfl, _, _, same, isMoment⟩ := of_wakesAt? paved regular wakes
    cases same
    apply stirs_of_answer paved.found rfl (.slept interval) rfl
    exact beq_iff_eq.mpr (isMoment.symm.trans now.symm)

/-- Before a faultless service somebody always goes on until the conductor has come to its
end. -/
theorem resumes_of_run (valid : config.validate = .ok ())
    (planned : config.generatorPlan = .ok plan) (bounded : config.totalMessages < Text.word64)
    (inTime : ∀ channel, (stubs channel).Echoes config.drainTimeout)
    (run : mainPhase.Run (punctual stubs) ⟨.start config false, tasks config source, view⟩
      trace last)
    (found : last.tasks[0]? = some (.conductor phase))
    (atWork : (RunTask.conductor phase).isOver = false) :
    Resumes stubs ⟨.start config false, tasks config source, view⟩ trace last := by
  have known : ∀ {trace last}, mainPhase.Run (punctual stubs)
      ⟨.start config false, tasks config source, view⟩ trace last →
        last.tasks[0]? = some (.conductor phase) →
          Untroubled config plan stubs trace last phase := by
    intro trace last run found
    obtain ⟨own, untroubled⟩ := untroubled_of_run valid planned bounded inTime run
    cases untroubled.paved.found.symm.trans found
    exact untroubled
  have untroubled := known run found
  by_cases asleep : ∃ deadline interval, phase = .pausing deadline interval
  · obtain ⟨deadline, interval, rfl⟩ := asleep
    obtain ⟨moment, alarm, first⟩ := exists_first_alarm untroubled.paved
    have shifted := @run_shift _ _ _ _ ⟨moment, last.view.isOpen⟩ run
      (untroubled.le_of_mem_alarms alarm) first
    apply resumes_of_stirs shifted
    refine stirs_of_alarm (known shifted found) (fun channel => (inTime channel).listens) ?_ rfl
    rw [alarms_shift]
    exact alarm
  · have shifted := @run_shift _ _ _ _ ((traffic stubs trace).stubs.view last.view.now) run
      (Nat.le_refl _) fun moment => untroubled.le_of_mem_alarms
    apply resumes_of_stirs shifted
    refine stirs_of_awake (known shifted found) valid inTime atWork ?_ ?_
    · intro deadline interval same
      exact asleep ⟨deadline, interval, same⟩
    · rw [traffic_shift]
      simp [Traffic.shows, Stubs.view]

end MainPhase

end RoomLoad

import RoomLoad.Proofs.Handoff.Books

/-!
# How a main phase comes to its end

A worker that ends without having been asked to stop has taken a request to stop, behind
which there are no units, or has found the queue empty after the generator had ended.
With that, everything that is kept throughout a main phase is together.
-/

namespace RoomLoad

theorem UnitQueue.of_disconnected {queue : UnitQueue} (ended : queue.take = .disconnected) :
    queue.items = [] ∧ queue.senders = 0 := by
  unfold take at ended
  split at ended
  case h_1 => contradiction
  case h_2 nothing =>
    split at ended
    case isTrue noSender => exact ⟨Fifo.pop?_eq_none_iff.mp nothing, noSender⟩
    case isFalse => contradiction

namespace Worker

/-- One if the worker has come to its end without having been asked to. -/
def satisfied : Worker → Nat :=
  settled fun report => (!report.interrupted).toNat

variable {now : Instant} {desk later : Desk} {worker next : Worker}

theorem Advances.sees_end (advances : Advances now desk worker later next)
    (satisfied : next.satisfied ≠ 0) :
    Sight.taken desk worker later next = some .stop ∨ desk.queue.take = .disconnected := by
  cases advances with
  | goesOn _ atWork =>
      rw [Worker.satisfied, settled, goTo_phase, atWork] at satisfied
      contradiction
  | endsAtStop receiving taken =>
      have shorter := UnitQueue.items_of_take taken
      left
      simp [Sight.taken, shorter]
  | endsAtHangUp receiving ended => exact .inr ended
  | _ => contradiction

end Worker

namespace MainPhase

/-- No unit can come any more. -/
def Exhausted (trace : List (Transition RunState RunTask))
    (situation : Situation RunState RunTask) : Prop :=
  none ∈ (office.history .taken trace).map Envelope.seq? ∨
    (situation.common.generated.isSome = true ∧ situation.common.desk.queue.items = [])

variable {stoppable : Bool} {trace : List (Transition RunState RunTask)}
  {before after : Situation RunState RunTask} {act : Act RunTask}
  {plan : GeneratorPlan} {producer : TaskId} {generator : Generator}

private theorem exhausted_of_others (exhausted : Exhausted trace before)
    (idle : office.worked? ⟨before, act, after⟩ = none)
    (generated : before.common.generated.isSome = true →
      after.common.generated.isSome = true)
    (queue : before.common.generated.isSome = true →
      after.common.desk.queue.items = before.common.desk.queue.items) :
    Exhausted (trace ++ [⟨before, act, after⟩]) after := by
  rcases exhausted with stop | ⟨reported, nothing⟩
  · left
    rw [Office.history_append_of_others _ idle]
    exact stop
  · exact .inr ⟨generated reported, (queue reported).trans nothing⟩

private theorem exhausted_of_works {id : TaskId} {worker next : Worker}
    (exhausted : Exhausted trace before)
    (works : office.worked? ⟨before, act, after⟩ = some (id, worker, next))
    (advances : worker.Advances before.view.now before.common.desk after.common.desk next)
    (generated : after.common.generated = before.common.generated) :
    Exhausted (trace ++ [⟨before, act, after⟩]) after := by
  rcases exhausted with stop | ⟨reported, nothing⟩
  · left
    rw [Office.history_append_of_works _ works, List.map_append]
    exact List.mem_append_left _ stop
  · right
    have items := advances.items_balance
    rw [nothing] at items
    exact ⟨generated ▸ reported, (List.append_eq_nil_iff.mp items).2⟩

/-- Once no unit can come any more, it stays so. -/
theorem Exhausted.step (exhausted : Exhausted trace before)
    (stream : Stream plan producer trace before generator)
    (advances : Advances stoppable before act after) :
    Exhausted (trace ++ [⟨before, act, after⟩]) after := by
  cases advances with
  | conducts acts found conducts =>
      obtain ⟨queue, _, generated, _⟩ := conducts.desk_eq
      refine exhausted_of_others exhausted (worked_of_others acts found rfl) ?_ ?_
      · intro reported
        exact generated ▸ reported
      · intro _
        exact congrArg UnitQueue.items queue
  | generates acts found advances =>
      refine exhausted_of_others exhausted (worked_of_others acts found rfl) ?_ ?_
      · intro reported
        rw [stream.reported_of_found found, advances.report?_eq_none] at reported
        contradiction
      · intro reported
        rw [stream.reported_of_found found, advances.report?_eq_none] at reported
        contradiction
  | works acts found advances =>
      exact exhausted_of_works exhausted (worked_of_works acts found) advances rfl
  | hears acts => exact exhausted_of_others exhausted (worked_of_idle acts) id fun _ => rfl
  | stops acts => exact exhausted_of_others exhausted (worked_of_idle acts) id fun _ => rfl
  | shifts acts => exact exhausted_of_others exhausted (worked_of_idle acts) id fun _ => rfl

/-- A worker that has come to its end by itself has seen the end of the stream. -/
def Concluded (trace : List (Transition RunState RunTask))
    (situation : Situation RunState RunTask) : Prop :=
  office.sum Worker.satisfied situation ≠ 0 → Exhausted trace situation

theorem Concluded.step (concluded : Concluded trace before)
    (stream : Stream plan producer trace before generator)
    (advances : Advances stoppable before act after) :
    Concluded (trace ++ [⟨before, act, after⟩]) after := by
  intro satisfied
  by_cases already : office.sum Worker.satisfied before = 0
  · cases change_of_advances advances with
    | others idle hears sums =>
        rw [sums] at satisfied
        exact absurd already satisfied
    | @works id worker next works workerAdvances sums =>
        have own : next.satisfied ≠ 0 := by
          have change := sums Worker.satisfied
          dsimp only at change
          omega
        rcases workerAdvances.sees_end own with stop | ended
        · left
          rw [Office.history_append_of_works _ works, stop]
          simp
        · obtain ⟨nothing, noSender⟩ := UnitQueue.of_disconnected ended
          have exhausted : Exhausted trace before :=
            .inr ⟨stream.reported_of_senders noSender, nothing⟩
          exact exhausted.step stream advances
  · exact (concluded already).step stream advances

/-- What is kept throughout a main phase. -/
structure Kept (config : Config) (plan : GeneratorPlan) (producer : TaskId)
    (trace : List (Transition RunState RunTask)) (situation : Situation RunState RunTask) :
    Prop where
  custody : office.Custody trace situation
  stream : ∃ generator, Stream plan producer trace situation generator
  books : Books situation
  concluded : Concluded trace situation
  crew : office.sum (fun _ => 1) situation = config.senderWorkers
  config_eq : situation.common.config = config

variable {config : Config}

theorem Advances.config_eq (advances : Advances stoppable before act after) :
    after.common.config = before.common.config := by
  cases advances with
  | conducts acts found conducts =>
      obtain ⟨_, _, _, _, _, config, _⟩ := conducts.desk_eq
      exact config
  | _ => rfl

theorem Advances.crew_eq (advances : Advances stoppable before act after) :
    office.sum (fun _ => 1) after = office.sum (fun _ => 1) before := by
  cases change_of_advances advances with
  | others idle hears sums => exact sums _
  | works works workerAdvances sums => exact Nat.add_right_cancel (sums _)

theorem Kept.crew_balance {situation : Situation RunState RunTask}
    (kept : Kept config plan producer trace situation) :
    office.sum (Worker.settled fun _ => 1) situation + office.sum Worker.atWork situation =
      config.senderWorkers := by
  rw [← Office.sum_add, ← kept.crew]
  exact Office.sum_congr fun _ _ worker _ => worker.settled_add_atWork

theorem Kept.step (kept : Kept config plan producer trace before)
    (bounded : plan.total ≤ Text.word64) (advances : Advances stoppable before act after) :
    Kept config plan producer (trace ++ [⟨before, act, after⟩]) after := by
  obtain ⟨generator, stream⟩ := kept.stream
  constructor
  case custody => exact kept.custody.step (stream.nodup_seqs bounded) (change_of_advances advances)
  case stream => exact stream.step advances
  case books => exact kept.books.step advances
  case concluded => exact kept.concluded.step stream advances
  case crew => exact advances.crew_eq.trans kept.crew
  case config_eq => exact advances.config_eq.trans kept.config_eq

/-- A generator and workers that have not started, behind some other tasks. -/
def beginning (config : Config) (plan : GeneratorPlan) (source : RandomSource)
    (front : List RunTask) (shutdown launched : Bool) (view : View) :
    Situation RunState RunTask where
  common := { RunState.start config shutdown with launched := launched }
  tasks := front ++ .generator (plan.start source) ::
    List.replicate config.senderWorkers (.worker (.start config.retry))
  view := view

variable {source : RandomSource} {front : List RunTask} {shutdown launched : Bool} {view : View}

private theorem sum_beginning (others : ∀ task ∈ front, task.worker? = none)
    (measure : Worker → Nat) :
    office.sum measure (beginning config plan source front shutdown launched view) =
      config.senderWorkers * measure (.start config.retry) := by
  have nothing : total (fun task => (office.worker? task).elim 0 measure) front = 0 := by
    rw [total_eq_zero_iff]
    intro task member
    have idle : office.worker? task = none := others task member
    rw [idle]
    rfl
  rw [Office.sum, beginning, total_append, nothing, total, total_replicate]
  simp [office, RunTask.worker?]

private theorem stream_beginning
    (others : ∀ task ∈ front, task.generator? = none) :
    Stream plan front.length [] (beginning config plan source front shutdown launched view)
      (plan.start source) := by
  constructor
  case found => simp [beginning]
  case only =>
    intro id other found
    rcases Nat.lt_trichotomy id front.length with before | same | behind
    · rw [beginning, List.getElem?_append_left before] at found
      have contrary := others _ (List.mem_of_getElem? found)
      contradiction
    · exact same
    · obtain ⟨offset, rfl⟩ := Nat.exists_eq_add_of_lt behind
      rw [beginning, List.getElem?_append_right (by omega)] at found
      have place : front.length + offset + 1 - front.length = offset + 1 := by omega
      rw [place, List.getElem?_cons_succ] at found
      have member := List.mem_of_getElem? found
      have contrary := List.eq_of_mem_replicate member
      contradiction
  case plan_eq => rfl
  case fed => exact ⟨Nat.zero_le _, rfl⟩
  case reported => rfl
  case senders => rfl

theorem kept_beginning
    (workers : ∀ task ∈ front, task.worker? = none)
    (generators : ∀ task ∈ front, task.generator? = none) :
    Kept config plan front.length []
      (beginning config plan source front shutdown launched view) := by
  have sums : ∀ measure : Worker → Nat,
      office.sum measure (beginning config plan source front shutdown launched view) =
        config.senderWorkers * measure (.start config.retry) := sum_beginning workers
  constructor
  case custody =>
    apply Office.custody_nil
    · rfl
    · intro task member worker found
      rcases List.mem_append.mp member with inFront | behind
      · have none : office.worker? task = none := workers task inFront
        rw [none] at found
        contradiction
      · rcases List.mem_cons.mp behind with same | member
        · subst same
          contradiction
        · rw [List.eq_of_mem_replicate member] at found
          cases found
          exact ⟨rfl, rfl⟩
  case stream => exact ⟨_, stream_beginning generators⟩
  case books =>
    constructor
    case receivers =>
      rw [sums]
      exact (Nat.mul_one _).symm
    case ended =>
      rw [sums]
      exact (Nat.mul_zero _).symm
    case sent =>
      rw [sums]
      exact (Nat.mul_zero _).symm
    case abandoned =>
      rw [sums]
      exact (Nat.mul_zero _).symm
    case interrupted =>
      intro _
      rw [sums]
      exact Nat.mul_zero _
  case concluded =>
    intro satisfied
    rw [sums] at satisfied
    exact absurd (Nat.mul_zero _) satisfied
  case crew => rw [sums, Nat.mul_one]
  case config_eq => rfl

end MainPhase

end RoomLoad

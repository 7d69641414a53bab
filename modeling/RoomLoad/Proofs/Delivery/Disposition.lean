import RoomLoad.Proofs.Delivery.Custody
import RoomLoad.Proofs.Runs.Replay
import RoomLoad.Worker.Crew

/-!
# What becomes of a unit

A crew works on units with distinct sequence ids, while anything may happen to their
sends and frames may arrive at any time.  Every unit that a worker lets go of has then
come to exactly one of three ends, and none of these is ever left again: it is recorded,
it waits for its acknowledgement, or it is abandoned.
-/

namespace RoomLoad

variable {σ τ : Type}

inductive Disposition where
  | recorded
  | awaiting
  | abandoned

/-- Whether a unit has come to an end: how often it was reported as sent, reported as
abandoned and counted as a failure, and how many records and entries it has. -/
def Office.Disposed (office : Office σ τ) (trace : List (Transition σ τ))
    (situation : Situation σ τ) (seq : SeqId) : Disposition → Prop
  | .recorded =>
      (office.history .sent trace).count seq = 1 ∧
      (office.history .abandoned trace).count seq = 0 ∧
      (office.history .failed trace).count seq = 0 ∧
      (office.desk situation.common).ledger.correlator.recordsOf seq = 1 ∧
      (office.desk situation.common).ledger.correlator.entries seq = 0
  | .awaiting =>
      (office.history .sent trace).count seq = 1 ∧
      (office.history .abandoned trace).count seq = 0 ∧
      (office.history .failed trace).count seq = 0 ∧
      (office.desk situation.common).ledger.correlator.recordsOf seq = 0 ∧
      (office.desk situation.common).ledger.correlator.entries seq = 1
  | .abandoned =>
      (office.history .sent trace).count seq = 0 ∧
      (office.history .abandoned trace).count seq = 1 ∧
      (office.history .failed trace).count seq = 1 ∧
      (office.desk situation.common).ledger.correlator.recordsOf seq = 0 ∧
      (office.desk situation.common).ledger.correlator.entries seq = 0

namespace Office

variable {office : Office σ τ} {trace : List (Transition σ τ)} {situation : Situation σ τ}

/-- In custody every unit that was let go of has come to exactly one end. -/
theorem Custody.existsUnique_disposed (custody : office.Custody trace situation)
    (distinct : (office.takenSeqs trace).Nodup) {seq : SeqId}
    (released : seq ∈ office.history .released trace) :
    ∃ disposition, office.Disposed trace situation seq disposition ∧
      ∀ other, office.Disposed trace situation seq other → other = disposition := by
  have single := custody.single distinct seq
  have known := custody.known seq
  have balance := custody.released seq
  have failed := congrArg (List.count seq) custody.failed
  have positive := List.count_pos_iff.mpr released
  by_cases sent : (office.history .sent trace).count seq = 0
  · refine ⟨.abandoned, ⟨sent, by omega, by omega, by omega, by omega⟩, ?_⟩
    intro other disposed
    cases other with
    | recorded =>
        have contrary := disposed.1
        omega
    | awaiting =>
        have contrary := disposed.1
        omega
    | abandoned => rfl
  · by_cases recorded : (office.desk situation.common).ledger.correlator.recordsOf seq = 0
    · refine ⟨.awaiting, ⟨by omega, by omega, by omega, recorded, by omega⟩, ?_⟩
      intro other disposed
      cases other with
      | recorded =>
          have contrary := disposed.2.2.2.1
          omega
      | awaiting => rfl
      | abandoned => exact absurd disposed.1 sent
    · refine ⟨.recorded, ⟨by omega, by omega, by omega, by omega, by omega⟩, ?_⟩
      intro other disposed
      cases other with
      | recorded => rfl
      | awaiting => exact absurd disposed.2.2.2.1 recorded
      | abandoned => exact absurd disposed.1 sent

end Office

namespace Crew

/-- A crew is an office of nothing but workers. -/
def office : Office Desk Worker := ⟨id, some⟩

/-- What may happen to the desk of a crew: it is asked to stop, somebody puts an item
into the queue whose id is new, or the last sender is let go of. -/
inductive Happens (desk : Desk) (known : List SeqId) : Desk → Prop where
  | shutdown : Happens desk known { desk with shutdown := true }
  | push {envelope : Envelope} {queue : UnitQueue} :
      desk.queue.offer envelope = .accepted queue →
      (∀ seq, envelope.seq? = some seq → seq ∉ known) →
      Happens desk known { desk with queue := queue }
  | hangUp : Happens desk known { desk with queue := desk.queue.dropSender }

/-- Nobody joins a crew, and the units that come in are distinct. -/
def rules : Rules Desk Worker := fun trace transition =>
  match transition.act with
  | .outside =>
      Happens transition.before.common
        (office.takenSeqs trace ++ transition.before.common.queue.seqs) transition.after.common
  | .begin _ => False
  | _ => True

def beginning (policies : List RetryPolicy) (queue : UnitQueue) (shutdown : Bool) (view : View) :
    Situation Desk Worker :=
  ⟨.fresh queue shutdown, policies.map .start, view⟩

theorem exists_of_mem_beginning {policies : List RetryPolicy} {queue : UnitQueue}
    {shutdown : Bool} {view : View} {worker : Worker}
    (member : worker ∈ (beginning policies queue shutdown view).tasks) :
    ∃ policy ∈ policies, worker = .start policy := by
  obtain ⟨policy, isPolicy, rfl⟩ := List.mem_map.mp member
  exact ⟨policy, isPolicy, rfl⟩

variable {trace : List (Transition Desk Worker)} {before after last : Situation Desk Worker}
  {act : Act Worker}

theorem worked_of_put {id : TaskId} {worker : Worker} {next : Desk × Worker}
    (acts : act.task? = some id) (found : before.tasks[id]? = some worker) :
    office.worked? ⟨before, act, before.put id next⟩ = some (id, worker, next.2) := by
  obtain ⟨inside, isWorker⟩ := List.getElem?_eq_some_iff.mp found
  simp [Office.worked?, acts, office, Situation.put, inside, isWorker]

private theorem change_of_put {id : TaskId} {worker : Worker} {next : Desk × Worker}
    (acts : act.task? = some id)
    (found : before.tasks[id]? = some worker)
    (advances : worker.Advances before.view.now before.common next.1 next.2) :
    office.Change ⟨before, act, before.put id next⟩ :=
  .works (worked_of_put acts found) advances fun _ => total_set _ found next.2

theorem change_of_step (step : crew.Step before act after)
    (allowed : rules trace ⟨before, act, after⟩) : office.Change ⟨before, act, after⟩ := by
  cases step with
  | move found member =>
      exact change_of_put rfl found (Worker.advances_of_mem_moves member)
  | answer found waits returns =>
      exact change_of_put rfl found (Worker.advances_resume waits returns)
  | frame text => exact .others rfl (Ledger.hears_onAck _ _ _) fun _ => rfl
  | countReconnect => exact .others rfl (.drops rfl rfl rfl rfl) fun _ => rfl
  | outside common =>
      have happened : Happens before.common _ common := allowed
      have sameLedger : common.ledger = before.common.ledger := by
        cases happened <;> rfl
      have drops : before.common.ledger.Hears common.ledger := by
        rw [sameLedger]
        exact .drops rfl rfl rfl rfl
      exact .others rfl drops fun _ => rfl
  | shift view => exact .others rfl (.drops rfl rfl rfl rfl) fun _ => rfl
  | begin task => exact allowed.elim

/-- What is taken and what still waits are the units that came in, which are distinct. -/
theorem distinct_of_step (distinct : (office.takenSeqs trace ++ before.common.queue.seqs).Nodup)
    (step : crew.Step before act after) (allowed : rules trace ⟨before, act, after⟩) :
    (office.takenSeqs (trace ++ [⟨before, act, after⟩]) ++ after.common.queue.seqs).Nodup := by
  have ofWorks : ∀ id worker later,
      office.worked? ⟨before, act, after⟩ = some (id, worker, later) →
      worker.Advances before.view.now before.common after.common later →
      (office.takenSeqs (trace ++ [⟨before, act, after⟩]) ++ after.common.queue.seqs).Nodup := by
    intro id worker later works advances
    have stream : _ = office.takenSeqs trace ++ before.common.queue.seqs :=
      Office.seqs_of_works works advances
    exact stream ▸ distinct
  cases step with
  | move found member =>
      exact ofWorks _ _ _ (worked_of_put rfl found) (Worker.advances_of_mem_moves member)
  | answer found waits returns =>
      exact ofWorks _ _ _ (worked_of_put rfl found) (Worker.advances_resume waits returns)
  | frame text =>
      rw [Office.takenSeqs_append_of_others rfl]
      exact distinct
  | countReconnect =>
      rw [Office.takenSeqs_append_of_others rfl]
      exact distinct
  | outside common =>
      rw [Office.takenSeqs_append_of_others rfl]
      have happened : Happens before.common _ common := allowed
      cases happened with
      | shutdown => exact distinct
      | @push envelope queue accepted new =>
          have items := UnitQueue.items_of_offer accepted
          have seqs : queue.seqs = before.common.queue.seqs ++ envelope.seq?.toList := by
            rw [UnitQueue.seqs, items, List.filterMap_append]
            cases carried : envelope.seq? <;> simp [UnitQueue.seqs, carried]
          have grown : (office.takenSeqs trace ++ before.common.queue.seqs ++
              envelope.seq?.toList).Nodup := by
            rw [List.nodup_append]
            refine ⟨distinct, ?_, ?_⟩
            · cases envelope.seq? <;> simp
            · intro seq member other present same
              exact new seq (by rw [same]; exact Option.mem_toList.mp present) member
          rw [seqs, ← List.append_assoc]
          exact grown
      | hangUp => exact distinct
  | shift view =>
      rw [Office.takenSeqs_append_of_others rfl]
      exact distinct
  | begin task => exact allowed.elim

variable {policies : List RetryPolicy} {queue : UnitQueue} {shutdown : Bool} {view : View}

/-- The units of a crew are in custody, and distinct, throughout its runs. -/
theorem custody_of_run
    (run : crew.Run rules (beginning policies queue shutdown view) trace last)
    (distinct : queue.seqs.Nodup) :
    office.Custody trace last ∧
      (office.takenSeqs trace ++ last.common.queue.seqs).Nodup := by
  induction run with
  | rest =>
      constructor
      · apply Office.custody_nil
        · rfl
        · intro task member worker found
          obtain ⟨policy, _, rfl⟩ := exists_of_mem_beginning member
          cases found
          exact ⟨rfl, rfl⟩
      · exact distinct
  | step run step allowed induction =>
      obtain ⟨custody, apart⟩ := induction
      constructor
      · exact custody.step (List.nodup_append.mp apart).1 (change_of_step step allowed)
      · exact distinct_of_step apart step allowed

theorem known_of_custody (custody : office.Custody trace last) (seq : SeqId) :
    last.common.ledger.correlator.entries seq + last.common.ledger.correlator.recordsOf seq =
      office.sum (Worker.entered seq) last + (office.history .sent trace).count seq :=
  custody.known seq

/-- A unit is entered only while it is in hand and not entered, so that it has neither an
entry nor a record. -/
theorem absent_of_transmitted {transition : Transition Desk Worker} {id : TaskId}
    {seq : SeqId} (custody : office.Custody trace transition.before)
    (distinct : (office.takenSeqs trace).Nodup)
    (begins : office.deed? .transmitted transition = some (id, seq)) :
    transition.before.common.ledger.correlator.entries seq = 0 ∧
      transition.before.common.ledger.correlator.recordsOf seq = 0 := by
  simp only [Office.deed?, Option.bind_eq_bind, Option.bind_eq_some_iff, Option.pure_def,
    Option.some.injEq, Prod.mk.injEq] at begins
  obtain ⟨⟨own, worker, later⟩, works, other, sight, rfl, rfl⟩ := begins
  have inHand : worker.pending other = 1 := by
    unfold Sight.transmitted at sight
    split at sight
    case h_1 unit channel _ _ registering _ =>
      cases sight
      have phase : worker.phase = .registering unit channel := registering
      simp [Worker.pending, phase]
    case h_2 => contradiction
  have single := custody.single distinct other
  have known := known_of_custody custody other
  have own := Office.le_sum_of_works works (Worker.pending other)
  omega

theorem unrecorded_of_transmitted {transition : Transition Desk Worker} {id : TaskId}
    {seq : SeqId} (custody : office.Custody trace transition.before)
    (distinct : (office.takenSeqs trace).Nodup)
    (begins : office.deed? .transmitted transition = some (id, seq)) :
    transition.before.common.ledger.correlator.recordsOf seq = 0 :=
  (absent_of_transmitted custody distinct begins).2

/-- Whatever happens to the sends of a crew, and in whatever order frames arrive: records
are successes, no id has two records or a record beside an entry, and a unit that was let
go of has come to exactly one end, which the reports and the metrics count.  An abandoned
unit has no record, and a unit with a record is not transmitted. -/
theorem disposed_of_run
    (run : crew.Run rules (beginning policies queue shutdown view) trace last)
    (distinct : queue.seqs.Nodup) :
    last.common.ledger.metrics.success = last.common.ledger.correlator.records.length ∧
    (∀ seq, last.common.ledger.correlator.recordsOf seq ≤ 1) ∧
    (∀ seq, last.common.ledger.correlator.recordsOf seq = 0 ∨
      last.common.ledger.correlator.entries seq = 0) ∧
    (∀ seq ∈ office.history .released trace,
      ∃ disposition, office.Disposed trace last seq disposition ∧
        ∀ other, office.Disposed trace last seq other → other = disposition) ∧
    office.sum (fun worker => worker.report.sent) last = (office.history .sent trace).length ∧
    office.sum (fun worker => worker.report.abandoned) last =
      (office.history .abandoned trace).length ∧
    last.common.ledger.metrics.failure = (office.history .failed trace).length ∧
    (∀ seq ∈ office.history .abandoned trace,
      last.common.ledger.correlator.recordsOf seq = 0) ∧
    ∀ transition ∈ trace, ∀ id seq, office.deed? .transmitted transition = some (id, seq) →
      transition.before.common.ledger.correlator.recordsOf seq = 0 := by
  obtain ⟨custody, apart⟩ := custody_of_run run distinct
  have taken := (List.nodup_append.mp apart).1
  have bounds : ∀ seq, last.common.ledger.correlator.entries seq +
      last.common.ledger.correlator.recordsOf seq +
      (office.history .abandoned trace).count seq ≤ 1 := by
    intro seq
    have single := custody.single taken seq
    have known := known_of_custody custody seq
    omega
  refine ⟨?_, ?_, ?_, ?_, custody.sentTotal, custody.abandonedTotal, ?_, ?_, ?_⟩
  · rw [Correlator.records, List.length_reverse]
    exact custody.successes
  · intro seq
    have bound := bounds seq
    omega
  · intro seq
    have bound := bounds seq
    omega
  · intro seq released
    exact custody.existsUnique_disposed taken released
  · rw [custody.failed]
    exact custody.failures
  · intro seq abandoned
    have bound := bounds seq
    have positive := List.count_pos_iff.mpr abandoned
    omega
  · intro transition member id seq begins
    obtain ⟨earlier, reached, _, _, _⟩ := run.upTo member
    obtain ⟨custody, apart⟩ := custody_of_run reached distinct
    exact unrecorded_of_transmitted custody (List.nodup_append.mp apart).1 begins

def note (seq : SeqId) : OutboundUnit where
  seq := seq
  user := 1
  username := "user1"
  text := "hello"
  room := 0
  kind := .text
  createdAt := ⟨0, 0⟩
  attempt := 0

theorem rules_of_isInner (trace : List (Transition Desk Worker))
    (transition : Transition Desk Worker) (inner : transition.act.isInner = true) :
    rules trace transition := by
  obtain ⟨notOutside, notBegin⟩ := Act.ne_of_isInner inner
  unfold rules
  split
  case h_1 outside => exact absurd outside notOutside
  case h_2 task begins => exact absurd begins (notBegin task)
  case h_3 => trivial

/-- Two workers with one try each.  The first send fails, but the acknowledgement is
there before the entry is withdrawn; the second send fails for good. -/
def mishaps : List (Cue Desk Worker) :=
  List.replicate 7 (Cue.move 0 0) ++
    [Cue.answer 0 (.connected 0), Cue.move 0 0, Cue.move 0 0,
      Cue.frame "\x7b\"data\":\x7b\"message\":\"seq:0|\"\x7d\x7d",
      Cue.answer 0 (.failed .notOpen), Cue.move 0 0] ++
    List.replicate 6 (Cue.move 1 0) ++ [Cue.answer 1 (.failed .notOpen), Cue.move 1 0, Cue.move 1 0]

/-- What a run shows in which both units are let go of, one with a success. -/
def showsMishaps (trace : List (Transition Desk Worker)) (last : Situation Desk Worker) : Bool :=
  office.history .released trace == [0, 1] &&
    last.common.ledger.metrics.success == 1 && last.common.ledger.metrics.failure == 1

theorem disposed_of_run_of_mishaps :
    ∃ queue policies view trace last,
      crew.Run rules (beginning policies queue false view) trace last ∧
      queue.seqs.Nodup ∧
      office.history .released trace = [0, 1] ∧
      last.common.ledger.correlator.records.length = 1 ∧
      (office.history .failed trace).length = 1 ∧
      (∃ disposition, office.Disposed trace last 0 disposition) ∧
      ∃ disposition, office.Disposed trace last 1 disposition := by
  let queue : UnitQueue := ⟨2, .ofList [.unit (note 0), .unit (note 1)], 1, 2⟩
  let policies : List RetryPolicy := List.replicate 2 ⟨1, .zero, .zero⟩
  let view : View := ⟨0, fun _ => true⟩
  have distinct : queue.seqs.Nodup := by decide
  have replayed : (crew.replay (fun _ transition => transition.act.isInner) []
      (beginning policies queue false view) mishaps).any
      (fun ending => showsMishaps ending.1 ending.2) = true := by
    decide +kernel
  obtain ⟨trace, last, run, shown⟩ := System.exists_run_of_replay rules_of_isInner replayed
  simp only [showsMishaps, Bool.and_eq_true, beq_iff_eq] at shown
  obtain ⟨⟨released, success⟩, failure⟩ := shown
  obtain ⟨successes, _, _, disposed, _, _, failures, _⟩ := disposed_of_run run distinct
  refine ⟨queue, policies, view, trace, last, run, distinct, released, ?_, ?_, ?_, ?_⟩
  · rw [← successes, success]
  · rw [← failures, failure]
  · obtain ⟨disposition, found, _⟩ := disposed 0 (by simp [released])
    exact ⟨disposition, found⟩
  · obtain ⟨disposition, found, _⟩ := disposed 1 (by simp [released])
    exact ⟨disposition, found⟩

end Crew

end RoomLoad

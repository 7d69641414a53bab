import RoomLoad.Proofs.Delivery.Office

/-!
# Custody of units

A unit that was taken from the queue is, at any time, in exactly one of four places: in
the hand of a worker and not entered, in the hand of a worker and entered, among the
units reported as sent, or among those reported as abandoned.  The units with an entry
or a record are those entered and those sent, each with one of the two.
-/

namespace RoomLoad

variable {σ τ : Type}

@[simp]
theorem UnitQueue.items_dropReceiver (queue : UnitQueue) :
    queue.dropReceiver.items = queue.items :=
  rfl

namespace Worker

/-- One if the worker has the unit in hand and has not entered it. -/
def pending (seq : SeqId) (worker : Worker) : Nat :=
  if worker.phase.isEntered = false ∧ worker.phase.seq? = some seq then 1 else 0

/-- One if the worker has the unit in hand and has entered it. -/
def entered (seq : SeqId) (worker : Worker) : Nat :=
  if worker.phase.isEntered = true ∧ worker.phase.seq? = some seq then 1 else 0

namespace Advances

variable {now : Instant} {desk later : Desk} {worker next : Worker}

/-- No step loses a unit: what comes in is in hand, sent or abandoned. -/
theorem units_balance (advances : Advances now desk worker later next) (seq : SeqId) :
    next.pending seq + next.entered seq +
        (Sight.sent desk worker later next).toList.count seq +
        (Sight.abandoned desk worker later next).toList.count seq =
      worker.pending seq + worker.entered seq +
        ((Sight.taken desk worker later next).toList.filterMap Envelope.seq?).count seq := by
  cases advances with
  | goesOn _ _ sameUnit sameSide =>
      simp [pending, entered, Sight.sent, Sight.abandoned, Sight.taken, sameUnit, sameSide]
  | takes receiving taken =>
      have shorter := UnitQueue.items_of_take taken
      simp [pending, entered, Sight.sent, Sight.abandoned, Sight.taken, receiving, shorter,
        List.count_singleton]
  | endsAtStop receiving taken =>
      have shorter := UnitQueue.items_of_take taken
      simp [pending, entered, Sight.sent, Sight.abandoned, Sight.taken, receiving, shorter,
        List.filterMap_cons]
  | endsAtHangUp receiving =>
      simp [pending, entered, Sight.sent, Sight.abandoned, Sight.taken, receiving]
  | endsAtShutdown idle =>
      rcases idle with ready | receiving
      · simp [pending, entered, Sight.sent, Sight.abandoned, Sight.taken, ready]
      · simp [pending, entered, Sight.sent, Sight.abandoned, Sight.taken, receiving]
  | enters registering =>
      simp [pending, entered, Sight.sent, Sight.abandoned, Sight.taken, registering]
  | sends sending =>
      simp [pending, entered, Sight.sent, Sight.abandoned, Sight.taken, sending, deliver,
        List.count_singleton]
  | withdraws withdrawing =>
      simp [pending, entered, Sight.sent, Sight.abandoned, Sight.taken, withdrawing]
  | findsAcknowledged withdrawing =>
      simp [pending, entered, Sight.sent, Sight.abandoned, Sight.taken, withdrawing, deliver,
        List.count_singleton]
  | abandons inHand notEntered =>
      simp [pending, entered, Sight.sent, Sight.abandoned, Sight.taken, inHand, notEntered,
        List.count_singleton]
  | abandonsAtShutdown resting =>
      simp [pending, entered, Sight.sent, Sight.abandoned, Sight.taken, resting,
        List.count_singleton]

theorem items_balance (advances : Advances now desk worker later next) :
    (Sight.taken desk worker later next).toList ++ later.queue.items = desk.queue.items := by
  cases advances with
  | takes receiving taken =>
      have shorter := UnitQueue.items_of_take taken
      simp [Sight.taken, shorter]
  | endsAtStop receiving taken =>
      have shorter := UnitQueue.items_of_take taken
      simp [Sight.taken, shorter]
  | _ => simp [Sight.taken]

/-- A worker lets go of a unit exactly when it reports it. -/
theorem released_balance (advances : Advances now desk worker later next) (seq : SeqId) :
    (Sight.released desk worker later next).toList.count seq =
      (Sight.sent desk worker later next).toList.count seq +
        (Sight.abandoned desk worker later next).toList.count seq := by
  cases advances with
  | goesOn _ _ sameUnit =>
      cases inHand : worker.phase.seq? <;>
        simp [Sight.released, Sight.sent, Sight.abandoned, sameUnit, inHand]
  | takes receiving => simp [Sight.released, Sight.sent, Sight.abandoned]
  | endsAtStop receiving => simp [Sight.released, Sight.sent, Sight.abandoned, receiving]
  | endsAtHangUp receiving => simp [Sight.released, Sight.sent, Sight.abandoned, receiving]
  | endsAtShutdown idle =>
      rcases idle with ready | receiving
      · simp [Sight.released, Sight.sent, Sight.abandoned, ready]
      · simp [Sight.released, Sight.sent, Sight.abandoned, receiving]
  | enters registering => simp [Sight.released, Sight.sent, Sight.abandoned]
  | sends sending => simp [Sight.released, Sight.sent, Sight.abandoned, sending, deliver]
  | withdraws withdrawing => simp [Sight.released, Sight.sent, Sight.abandoned]
  | findsAcknowledged withdrawing =>
      simp [Sight.released, Sight.sent, Sight.abandoned, withdrawing, deliver]
  | abandons inHand => simp [Sight.released, Sight.sent, Sight.abandoned, inHand]
  | abandonsAtShutdown resting => simp [Sight.released, Sight.sent, Sight.abandoned, resting]

theorem report_sent (advances : Advances now desk worker later next) :
    next.report.sent = worker.report.sent + (Sight.sent desk worker later next).toList.length := by
  cases advances <;> simp_all [Sight.sent, deliver]

theorem report_abandoned (advances : Advances now desk worker later next) :
    next.report.abandoned = worker.report.abandoned +
      (Sight.abandoned desk worker later next).toList.length := by
  cases advances <;> simp_all [Sight.abandoned, deliver]

/-- The metrics count a failure exactly when the worker reports a unit as abandoned. -/
theorem failed_eq_abandoned (advances : Advances now desk worker later next) :
    Sight.failed desk worker later next = Sight.abandoned desk worker later next := by
  cases advances with
  | withdraws withdrawing found =>
      simp [Sight.failed, Sight.abandoned, Ledger.withdraw_of_found found]
  | _ =>
      simp [Sight.failed, Sight.abandoned, deliver, Ledger.onSend, Ledger.countFailure,
        Metrics.countFailure]

theorem metrics_failure (advances : Advances now desk worker later next) :
    later.ledger.metrics.failure = desk.ledger.metrics.failure +
      (Sight.abandoned desk worker later next).toList.length := by
  cases advances with
  | withdraws withdrawing found => simp [Sight.abandoned, Ledger.withdraw_of_found found]
  | abandons inHand =>
      simp [Sight.abandoned, Ledger.countFailure, Metrics.countFailure, inHand]
  | abandonsAtShutdown resting =>
      simp [Sight.abandoned, Ledger.countFailure, Metrics.countFailure, resting]
  | _ => simp [Sight.abandoned, deliver, Ledger.onSend]

theorem metrics_success (advances : Advances now desk worker later next) :
    later.ledger.metrics.success = desk.ledger.metrics.success := by
  cases advances with
  | withdraws withdrawing found => simp [Ledger.withdraw_of_found found]
  | _ => rfl

theorem recorded_eq (advances : Advances now desk worker later next) :
    later.ledger.correlator.recorded = desk.ledger.correlator.recorded := by
  cases advances with
  | withdraws withdrawing found =>
      simp [Ledger.withdraw_of_found found, Correlator.without]
  | _ => rfl

/-- An entry comes when a unit is entered and goes when it is withdrawn; the worker's
own unit must have none before, and no more than one after. -/
theorem entries_balance (advances : Advances now desk worker later next) (seq : SeqId)
    (fresh : worker.pending seq = 1 → desk.ledger.correlator.entries seq = 0)
    (single : desk.ledger.correlator.entries seq ≤ 1) :
    later.ledger.correlator.entries seq + worker.entered seq =
      desk.ledger.correlator.entries seq + next.entered seq +
        (Sight.sent desk worker later next).toList.count seq := by
  cases advances with
  | goesOn _ _ sameUnit sameSide => simp [entered, Sight.sent, sameUnit, sameSide]
  | takes receiving => simp [entered, Sight.sent, receiving]
  | endsAtStop receiving => simp [entered, Sight.sent, receiving]
  | endsAtHangUp receiving => simp [entered, Sight.sent, receiving]
  | endsAtShutdown idle =>
      rcases idle with ready | receiving
      · simp [entered, Sight.sent, ready]
      · simp [entered, Sight.sent, receiving]
  | @enters unit channel registering =>
      by_cases same : seq = unit.seq
      · have absent := fresh (by simp [pending, registering, same])
        simp [entered, Sight.sent, registering, Ledger.onSend, Correlator.entries_onSend, same,
          same ▸ absent]
      · simp [entered, Sight.sent, registering, Ledger.onSend, Correlator.entries_onSend, same,
          Ne.symm same]
  | sends sending =>
      simp [entered, Sight.sent, sending, deliver, List.count_singleton]
  | @withdraws unit entry withdrawing found =>
      by_cases same : seq = unit.seq
      · have present := Correlator.entries_pos_of_found found
        have one : desk.ledger.correlator.entries unit.seq = 1 := by
          rw [same] at single
          omega
        simp [entered, Sight.sent, withdrawing, Ledger.withdraw_of_found found,
          Correlator.entries_without, same, one]
      · simp [entered, Sight.sent, withdrawing, Ledger.withdraw_of_found found,
          Correlator.entries_without, same, Ne.symm same]
  | findsAcknowledged withdrawing =>
      simp [entered, Sight.sent, withdrawing, deliver, List.count_singleton]
  | abandons inHand notEntered =>
      simp [entered, Sight.sent, inHand, notEntered, Ledger.countFailure]
  | abandonsAtShutdown resting => simp [entered, Sight.sent, resting, Ledger.countFailure]

end Advances

end Worker

namespace Office

/-- Where the units are that the workers have taken. -/
structure Custody (office : Office σ τ) (trace : List (Transition σ τ))
    (situation : Situation σ τ) : Prop where
  whole : ∀ seq,
    office.sum (Worker.pending seq) situation + office.sum (Worker.entered seq) situation +
      (office.history .sent trace).count seq + (office.history .abandoned trace).count seq =
        (office.takenSeqs trace).count seq
  known : ∀ seq,
    (office.desk situation.common).ledger.correlator.entries seq +
      (office.desk situation.common).ledger.correlator.recordsOf seq =
        office.sum (Worker.entered seq) situation + (office.history .sent trace).count seq
  released : ∀ seq, (office.history .released trace).count seq =
    (office.history .sent trace).count seq + (office.history .abandoned trace).count seq
  failed : office.history .failed trace = office.history .abandoned trace
  successes : (office.desk situation.common).ledger.metrics.success =
    (office.desk situation.common).ledger.correlator.recorded.length
  failures : (office.desk situation.common).ledger.metrics.failure =
    (office.history .abandoned trace).length
  sentTotal : office.sum (fun worker => worker.report.sent) situation =
    (office.history .sent trace).length
  abandonedTotal : office.sum (fun worker => worker.report.abandoned) situation =
    (office.history .abandoned trace).length

variable {office : Office σ τ} {trace : List (Transition σ τ)} {transition : Transition σ τ}
  {situation : Situation σ τ}

theorem items_of_works {id : TaskId} {worker later : Worker}
    (works : office.worked? transition = some (id, worker, later))
    (advances : worker.Advances transition.before.view.now
      (office.desk transition.before.common) (office.desk transition.after.common) later) :
    office.history .taken (trace ++ [transition]) ++
        (office.desk transition.after.common).queue.items =
      office.history .taken trace ++ (office.desk transition.before.common).queue.items := by
  rw [history_append_of_works .taken works, List.append_assoc, advances.items_balance]

theorem fed_append_of_works {id : TaskId} {worker later : Worker}
    (works : office.worked? transition = some (id, worker, later))
    (advances : worker.Advances transition.before.view.now
      (office.desk transition.before.common) (office.desk transition.after.common) later) :
    office.fed (trace ++ [transition]) transition.after = office.fed trace transition.before := by
  rw [fed, ← List.map_append, items_of_works works advances, List.map_append, fed]

theorem seqs_of_works {id : TaskId} {worker later : Worker}
    (works : office.worked? transition = some (id, worker, later))
    (advances : worker.Advances transition.before.view.now
      (office.desk transition.before.common) (office.desk transition.after.common) later) :
    office.takenSeqs (trace ++ [transition]) ++
        (office.desk transition.after.common).queue.seqs =
      office.takenSeqs trace ++ (office.desk transition.before.common).queue.seqs := by
  rw [← units_of_fed transition.after, fed_append_of_works works advances, units_of_fed]

/-- Before anything is taken nothing is in custody. -/
theorem custody_nil (fresh : (office.desk situation.common).ledger = .fresh)
    (idle : ∀ task ∈ situation.tasks, ∀ worker, office.worker? task = some worker →
      worker.report = .fresh ∧ worker.phase = .ready) :
    office.Custody [] situation := by
  have noneHas : ∀ measure : Worker → Nat,
      (∀ worker, worker.report = .fresh → worker.phase = .ready → measure worker = 0) →
      office.sum measure situation = 0 := by
    intro measure zero
    apply sum_eq_zero
    intro task member worker found
    obtain ⟨report, phase⟩ := idle task member worker found
    exact zero worker report phase
  have noPending : ∀ seq, office.sum (Worker.pending seq) situation = 0 := fun seq =>
    noneHas _ fun worker _ phase => by simp [Worker.pending, phase]
  have noEntered : ∀ seq, office.sum (Worker.entered seq) situation = 0 := fun seq =>
    noneHas _ fun worker _ phase => by simp [Worker.entered, phase]
  constructor
  case whole =>
    intro seq
    simp [noPending, noEntered, history, deeds, takenSeqs]
  case known =>
    intro seq
    simp [noEntered, history, deeds, fresh, Ledger.fresh, Correlator.fresh, Correlator.entries,
      Correlator.recordsOf]
  case released =>
    intro seq
    simp [history, deeds]
  case failed => simp [history, deeds]
  case successes => simp [fresh, Ledger.fresh, Correlator.fresh, Metrics.fresh]
  case failures => simp [history, deeds, fresh, Ledger.fresh, Metrics.fresh]
  case sentTotal => exact noneHas _ fun worker report _ => by rw [report]; rfl
  case abandonedTotal => exact noneHas _ fun worker report _ => by rw [report]; rfl

/-- A worker has at most one unit in hand, which was taken. -/
theorem Custody.single (custody : office.Custody trace situation)
    (distinct : (office.takenSeqs trace).Nodup) (seq : SeqId) :
    office.sum (Worker.pending seq) situation + office.sum (Worker.entered seq) situation +
      (office.history .sent trace).count seq + (office.history .abandoned trace).count seq ≤ 1 := by
  rw [custody.whole seq]
  exact List.nodup_iff_count.mp distinct seq

private theorem custody_of_works {id : TaskId} {worker later : Worker}
    (custody : office.Custody trace transition.before)
    (distinct : (office.takenSeqs trace).Nodup)
    (works : office.worked? transition = some (id, worker, later))
    (advances : worker.Advances transition.before.view.now
      (office.desk transition.before.common) (office.desk transition.after.common) later)
    (sums : ∀ measure, office.sum measure transition.after + measure worker =
      office.sum measure transition.before + measure later) :
    office.Custody (trace ++ [transition]) transition.after := by
  have sentNow : office.history .sent (trace ++ [transition]) = _ :=
    history_append_of_works .sent works
  have abandonedNow : office.history .abandoned (trace ++ [transition]) = _ :=
    history_append_of_works .abandoned works
  have takenNow : office.history .taken (trace ++ [transition]) = _ :=
    history_append_of_works .taken works
  constructor
  case whole =>
    intro seq
    have before := custody.whole seq
    have units := advances.units_balance seq
    have pending := sums (Worker.pending seq)
    have entered := sums (Worker.entered seq)
    rw [takenSeqs] at before ⊢
    rw [sentNow, abandonedNow, takenNow]
    simp only [List.filterMap_append, List.count_append]
    omega
  case known =>
    intro seq
    have before := custody.known seq
    have single := custody.single distinct seq
    have entered := sums (Worker.entered seq)
    have records := advances.recorded_eq
    have own := le_sum_of_works works (Worker.pending seq)
    have entries := advances.entries_balance seq (by omega) (by omega)
    rw [sentNow]
    simp only [List.count_append, Correlator.recordsOf, records] at before ⊢
    omega
  case released =>
    intro seq
    have before := custody.released seq
    have now := advances.released_balance seq
    rw [sentNow, abandonedNow, history_append_of_works .released works]
    simp only [List.count_append]
    omega
  case failed =>
    rw [abandonedNow, history_append_of_works .failed works, custody.failed,
      advances.failed_eq_abandoned]
  case successes =>
    rw [advances.metrics_success, advances.recorded_eq]
    exact custody.successes
  case failures => rw [advances.metrics_failure, abandonedNow, List.length_append, custody.failures]
  case sentTotal =>
    have reports := sums fun worker => worker.report.sent
    have before := custody.sentTotal
    have now := advances.report_sent
    rw [sentNow, List.length_append]
    omega
  case abandonedTotal =>
    have reports := sums fun worker => worker.report.abandoned
    have before := custody.abandonedTotal
    have now := advances.report_abandoned
    rw [abandonedNow, List.length_append]
    omega

private theorem custody_of_others
    (custody : office.Custody trace transition.before)
    (distinct : (office.takenSeqs trace).Nodup)
    (idle : office.worked? transition = none)
    (hears : (office.desk transition.before.common).ledger.Hears
      (office.desk transition.after.common).ledger)
    (sums : ∀ measure, office.sum measure transition.after =
      office.sum measure transition.before) :
    office.Custody (trace ++ [transition]) transition.after := by
  obtain ⟨successes, failures, balance⟩ := hears.balance fun seq => by
    have known := custody.known seq
    have single := custody.single distinct seq
    omega
  constructor
  case whole =>
    intro seq
    rw [takenSeqs]
    simp only [history_append_of_others _ idle, sums]
    exact custody.whole seq
  case known =>
    intro seq
    have known := custody.known seq
    have same := balance seq
    rw [sums, history_append_of_others _ idle]
    omega
  case released =>
    intro seq
    simp only [history_append_of_others _ idle]
    exact custody.released seq
  case failed =>
    simp only [history_append_of_others _ idle]
    exact custody.failed
  case successes =>
    have before := custody.successes
    omega
  case failures =>
    rw [failures, history_append_of_others _ idle]
    exact custody.failures
  case sentTotal =>
    rw [sums, history_append_of_others _ idle]
    exact custody.sentTotal
  case abandonedTotal =>
    rw [sums, history_append_of_others _ idle]
    exact custody.abandonedTotal

/-- Custody is kept by every step, as long as no unit was taken twice. -/
theorem Custody.step (custody : office.Custody trace transition.before)
    (distinct : (office.takenSeqs trace).Nodup) (change : office.Change transition) :
    office.Custody (trace ++ [transition]) transition.after := by
  cases change with
  | works works advances sums => exact custody_of_works custody distinct works advances sums
  | others idle hears sums => exact custody_of_others custody distinct idle hears sums

end Office

end RoomLoad

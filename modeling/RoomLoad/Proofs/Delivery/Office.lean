import RoomLoad.Proofs.Delivery.Entries
import RoomLoad.Proofs.Delivery.Progress

/-!
# Offices

Workers at a desk are found in several systems.  An office says where: which part of
the common state is the desk, and which tasks are workers.  What the workers have done
is read off the steps of a run, each step by what it changes.
-/

namespace RoomLoad

variable {σ τ α : Type}

/-- Where in a system the desk and the workers are found. -/
structure Office (σ τ : Type) where
  desk : σ → Desk
  worker? : τ → Option Worker

/-- Reads a deed off a desk and a worker before and after a step of the worker. -/
abbrev Sight (α : Type) := Desk → Worker → Desk → Worker → Option α

namespace Sight

/-- The item that is gone from the queue. -/
def taken : Sight Envelope := fun desk _ later _ =>
  if later.queue.items.length < desk.queue.items.length then desk.queue.items.head? else none

/-- The unit that the worker's report now has as sent. -/
def sent : Sight SeqId := fun _ worker _ later =>
  if worker.report.sent < later.report.sent then worker.phase.seq? else none

/-- The unit that the worker's report now has as abandoned. -/
def abandoned : Sight SeqId := fun _ worker _ later =>
  if worker.report.abandoned < later.report.abandoned then worker.phase.seq? else none

/-- The unit that the metrics now count as a failure. -/
def failed : Sight SeqId := fun desk worker later _ =>
  if desk.ledger.metrics.failure < later.ledger.metrics.failure then worker.phase.seq? else none

/-- The unit that the worker no longer has in hand. -/
def released : Sight SeqId := fun _ worker _ later =>
  if later.phase.seq? = none then worker.phase.seq? else none

/-- The unit whose transmission begins. -/
def transmitted : Sight SeqId := fun _ worker _ later =>
  match worker.phase, later.phase with
  | .registering unit _, .sending _ _ => some unit.seq
  | _, _ => none

end Sight

namespace Envelope

def seq? : Envelope → Option SeqId
  | unit inner => some inner.seq
  | stop => none

@[simp] theorem seq?_unit (inner : OutboundUnit) : (unit inner).seq? = some inner.seq := rfl
@[simp] theorem seq?_stop : stop.seq? = none := rfl

end Envelope

def UnitQueue.seqs (queue : UnitQueue) : List SeqId :=
  queue.items.filterMap Envelope.seq?

namespace Office

variable (office : Office σ τ)

def sum (measure : Worker → Nat) (situation : Situation σ τ) : Nat :=
  total (fun task => (office.worker? task).elim 0 measure) situation.tasks

/-- The worker that goes on in a step, before and after it. -/
def worked? (transition : Transition σ τ) : Option (TaskId × Worker × Worker) := do
  let id ← transition.act.task?
  let worker ← transition.before.tasks[id]?.bind office.worker?
  let later ← transition.after.tasks[id]?.bind office.worker?
  return (id, worker, later)

/-- What a worker does in a step, if it does anything that is looked for. -/
def deed? (sight : Sight α) (transition : Transition σ τ) : Option (TaskId × α) := do
  let (id, worker, later) ← office.worked? transition
  let deed ← sight (office.desk transition.before.common) worker
    (office.desk transition.after.common) later
  return (id, deed)

/-- What the workers have done, and who did it, the first deed in front. -/
def deeds (sight : Sight α) (trace : List (Transition σ τ)) : List (TaskId × α) :=
  trace.filterMap (office.deed? sight)

/-- What the workers have done, the first deed in front. -/
def history (sight : Sight α) (trace : List (Transition σ τ)) : List α :=
  (office.deeds sight trace).map Prod.snd

def takenSeqs (trace : List (Transition σ τ)) : List SeqId :=
  (office.history .taken trace).filterMap Envelope.seq?

/-- What one worker has done, the first deed in front. -/
def own (sight : Sight α) (id : TaskId) (trace : List (Transition σ τ)) : List α :=
  ((office.deeds sight trace).filter fun deed => deed.1 == id).map Prod.snd

def takes (id : TaskId) (trace : List (Transition σ τ)) : List Envelope :=
  ((office.deeds .taken trace).filter fun deed => deed.1 == id).map Prod.snd

/-- What was taken from the queue and what still waits there, units by their ids. -/
def fed (trace : List (Transition σ τ)) (situation : Situation σ τ) : List (Option SeqId) :=
  (office.history .taken trace).map Envelope.seq? ++
    (office.desk situation.common).queue.items.map Envelope.seq?

/-- What a step of a system comes to in its office: a worker advances, or something
happens that concerns no worker. -/
inductive Change (transition : Transition σ τ) : Prop where
  | works {id : TaskId} {worker later : Worker} :
      office.worked? transition = some (id, worker, later) →
      worker.Advances transition.before.view.now (office.desk transition.before.common)
        (office.desk transition.after.common) later →
      (∀ measure, office.sum measure transition.after + measure worker =
        office.sum measure transition.before + measure later) →
      Change transition
  | others :
      office.worked? transition = none →
      (office.desk transition.before.common).ledger.Hears
        (office.desk transition.after.common).ledger →
      (∀ measure, office.sum measure transition.after =
        office.sum measure transition.before) →
      Change transition

variable {office} {trace : List (Transition σ τ)} {transition : Transition σ τ}

theorem deeds_append_of_works {id : TaskId} {worker later : Worker} (sight : Sight α)
    (works : office.worked? transition = some (id, worker, later)) :
    office.deeds sight (trace ++ [transition]) = office.deeds sight trace ++
      ((sight (office.desk transition.before.common) worker
        (office.desk transition.after.common) later).map (id, ·)).toList := by
  cases seen : sight (office.desk transition.before.common) worker
      (office.desk transition.after.common) later <;>
    simp [deeds, deed?, works, seen]

theorem history_append_of_works {id : TaskId} {worker later : Worker} (sight : Sight α)
    (works : office.worked? transition = some (id, worker, later)) :
    office.history sight (trace ++ [transition]) = office.history sight trace ++
      (sight (office.desk transition.before.common) worker
        (office.desk transition.after.common) later).toList := by
  cases seen : sight (office.desk transition.before.common) worker
      (office.desk transition.after.common) later <;>
    simp [history, deeds_append_of_works sight works, seen]

theorem deeds_append_of_others (sight : Sight α) (idle : office.worked? transition = none) :
    office.deeds sight (trace ++ [transition]) = office.deeds sight trace := by
  simp [deeds, deed?, idle]

theorem history_append_of_others (sight : Sight α) (idle : office.worked? transition = none) :
    office.history sight (trace ++ [transition]) = office.history sight trace := by
  simp [history, deeds_append_of_others sight idle]

theorem own_append_of_works {id other : TaskId} {worker later : Worker} (sight : Sight α)
    (works : office.worked? transition = some (id, worker, later)) :
    office.own sight other (trace ++ [transition]) = office.own sight other trace ++
      if id = other then
        (sight (office.desk transition.before.common) worker
          (office.desk transition.after.common) later).toList
      else [] := by
  rw [own, deeds_append_of_works sight works, List.filter_append, List.map_append, own]
  congr 1
  cases sight (office.desk transition.before.common) worker
      (office.desk transition.after.common) later with
  | none => simp
  | some deed => by_cases same : id = other <;> simp [same]

theorem own_append_of_others {other : TaskId} (sight : Sight α)
    (idle : office.worked? transition = none) :
    office.own sight other (trace ++ [transition]) = office.own sight other trace := by
  rw [own, deeds_append_of_others sight idle, own]

theorem acts_of_works {id : TaskId} {worker later : Worker}
    (works : office.worked? transition = some (id, worker, later)) :
    transition.act.task? = some id := by
  simp only [worked?, Option.bind_eq_bind, Option.bind_eq_some_iff, Option.pure_def,
    Option.some.injEq, Prod.mk.injEq] at works
  obtain ⟨own, acts, _, _, _, _, rfl, _⟩ := works
  exact acts

/-- A worker has done nothing new when others go on. -/
theorem own_append_of_ne {id : TaskId} (sight : Sight α)
    (others : transition.act.task? ≠ some id) :
    office.own sight id (trace ++ [transition]) = office.own sight id trace := by
  cases works : office.worked? transition with
  | none => exact own_append_of_others sight works
  | some found =>
      obtain ⟨other, worker, later⟩ := found
      have different : other ≠ id := by
        rintro rfl
        exact others (acts_of_works works)
      rw [own_append_of_works sight works, if_neg different, List.append_nil]

theorem takes_append_of_works {id other : TaskId} {worker later : Worker}
    (works : office.worked? transition = some (id, worker, later)) :
    office.takes other (trace ++ [transition]) = office.takes other trace ++
      if id = other then
        (Sight.taken (office.desk transition.before.common) worker
          (office.desk transition.after.common) later).toList
      else [] :=
  own_append_of_works .taken works

theorem takes_append_of_others {other : TaskId} (idle : office.worked? transition = none) :
    office.takes other (trace ++ [transition]) = office.takes other trace :=
  own_append_of_others .taken idle

theorem takenSeqs_append_of_others (idle : office.worked? transition = none) :
    office.takenSeqs (trace ++ [transition]) = office.takenSeqs trace := by
  rw [takenSeqs, history_append_of_others _ idle, takenSeqs]

theorem fed_append_of_others {situation later : Situation σ τ}
    (idle : office.worked? transition = none)
    (items : (office.desk later.common).queue.items = (office.desk situation.common).queue.items) :
    office.fed (trace ++ [transition]) later = office.fed trace situation := by
  rw [fed, history_append_of_others _ idle, items, fed]

theorem units_of_fed (situation : Situation σ τ) :
    (office.fed trace situation).filterMap id =
      office.takenSeqs trace ++ (office.desk situation.common).queue.seqs := by
  rw [fed, List.filterMap_append, List.filterMap_map, List.filterMap_map]
  rfl

/-- What the workers come to changes only by what the worker that goes on comes to. -/
theorem sum_put {before : Situation σ τ} {id : TaskId} {task : τ}
    (found : before.tasks[id]? = some task) (after : σ × τ) (measure : Worker → Nat) :
    office.sum measure (before.put id after) + (office.worker? task).elim 0 measure =
      office.sum measure before + (office.worker? after.2).elim 0 measure :=
  total_set _ found after.2

theorem le_sum {situation : Situation σ τ} {task : τ} {worker : Worker}
    (member : task ∈ situation.tasks) (found : office.worker? task = some worker)
    (measure : Worker → Nat) : measure worker ≤ office.sum measure situation := by
  have bound := le_total (fun task => (office.worker? task).elim 0 measure) member
  simpa only [sum, found, Option.elim_some] using bound

theorem le_sum_of_works {id : TaskId} {worker later : Worker}
    (works : office.worked? transition = some (id, worker, later)) (measure : Worker → Nat) :
    measure worker ≤ office.sum measure transition.before := by
  simp only [worked?, Option.bind_eq_bind, Option.bind_eq_some_iff, Option.pure_def,
    Option.some.injEq, Prod.mk.injEq] at works
  obtain ⟨id, acts, worker, ⟨task, found, isWorker⟩, later, after, rfl, rfl, rfl⟩ := works
  exact le_sum (List.mem_of_getElem? found) isWorker measure

theorem sum_congr {left right : Worker → Nat} {situation : Situation σ τ}
    (same : ∀ task ∈ situation.tasks, ∀ worker, office.worker? task = some worker →
      left worker = right worker) :
    office.sum left situation = office.sum right situation := by
  apply total_congr
  intro task member
  cases found : office.worker? task with
  | none => rfl
  | some worker => exact same task member worker found

theorem sum_add (left right : Worker → Nat) (situation : Situation σ τ) :
    office.sum (fun worker => left worker + right worker) situation =
      office.sum left situation + office.sum right situation := by
  rw [sum, sum, sum, ← total_add]
  apply total_congr
  intro task _
  cases office.worker? task <;> rfl

theorem eq_zero_of_sum {measure : Worker → Nat} {situation : Situation σ τ}
    (zero : office.sum measure situation = 0) {task : τ} {worker : Worker}
    (member : task ∈ situation.tasks) (found : office.worker? task = some worker) :
    measure worker = 0 := by
  have each := total_eq_zero_iff.mp zero task member
  rw [found] at each
  exact each

theorem sum_eq_zero {measure : Worker → Nat} {situation : Situation σ τ}
    (none : ∀ task ∈ situation.tasks, ∀ worker, office.worker? task = some worker →
      measure worker = 0) :
    office.sum measure situation = 0 := by
  rw [sum, total_eq_zero_iff]
  intro task member
  cases found : office.worker? task with
  | none => rfl
  | some worker => exact none task member worker found

end Office

end RoomLoad

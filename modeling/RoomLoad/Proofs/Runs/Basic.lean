import Mathlib.Algebra.Ring.Nat
import RoomLoad.Task.Basic

/-!
# Runs of a system

A run takes one step after another: a task makes one of its moves, a call returns, a
frame arrives, or the surroundings change.  Any of these may come next, so what holds of
every run holds of every interleaving.  Rules say what the surroundings keep to in the
light of all that has happened so far.
-/

namespace RoomLoad

/-- A system and its surroundings at one moment. -/
structure Situation (σ τ : Type) where
  common : σ
  tasks : List τ
  view : View

/-- How a call returns: with a result or a fault of its own kind.  A call that brings
its task down does not return. -/
inductive Call.Returns : Call → Answer → Prop where
  | connected (room : RoomId) (channel : ChannelId) :
      Returns (.connect room) (.connected channel)
  | refused (room : RoomId) (fault : Fault) : Returns (.connect room) (.failed fault)
  | reconnected (channel : ChannelId) : Returns (.reconnect channel) .done
  | unreachable (channel : ChannelId) (fault : Fault) :
      Returns (.reconnect channel) (.failed fault)
  | closed (channels : List ChannelId) : Returns (.close channels) .done
  | sent (channel : ChannelId) (payload : String) : Returns (.send channel payload) .done
  | unsent (channel : ChannelId) (payload : String) (fault : Fault) :
      Returns (.send channel payload) (.failed fault)
  | slept (duration : Duration) : Returns (.sleep duration) .done
  | waited (deadline : Instant) : Returns (.wait deadline) .done

/-- What can come next in a run. -/
inductive Act (τ : Type) where
  /-- A task makes a move of its own. -/
  | move (task : TaskId)
  /-- The call of a task returns. -/
  | answer (task : TaskId) (answer : Answer)
  | frame (text : String)
  | countReconnect
  /-- Somebody else changes what the tasks share. -/
  | outside
  /-- Time passes, or channels change their states. -/
  | shift
  /-- Somebody starts another task. -/
  | begin (task : τ)

def Act.task? {τ : Type} : Act τ → Option TaskId
  | move task => some task
  | answer task _ => some task
  | _ => none

variable {σ τ : Type}

def Situation.put (situation : Situation σ τ) (id : TaskId) (after : σ × τ) : Situation σ τ :=
  { situation with common := after.1, tasks := situation.tasks.set id after.2 }

theorem Situation.tasks_put_self {before : Situation σ τ} {id : TaskId} {task : τ}
    (found : before.tasks[id]? = some task) (after : σ × τ) :
    (before.put id after).tasks[id]? = some after.2 := by
  obtain ⟨inside, _⟩ := List.getElem?_eq_some_iff.mp found
  exact List.getElem?_set_self inside

theorem Situation.tasks_put_of_ne {before : Situation σ τ} {id other : TaskId}
    (different : id ≠ other) (after : σ × τ) :
    (before.put id after).tasks[other]? = before.tasks[other]? :=
  List.getElem?_set_ne different

theorem Situation.tasks_put {before : Situation σ τ} {id other : TaskId} {task : τ}
    (found : before.tasks[id]? = some task) (after : σ × τ) :
    (before.put id after).tasks[other]? =
      if id = other then some after.2 else before.tasks[other]? := by
  split
  case isTrue same =>
    subst same
    exact tasks_put_self found after
  case isFalse different => exact tasks_put_of_ne different after

theorem Situation.length_put (before : Situation σ τ) (id : TaskId) (after : σ × τ) :
    (before.put id after).tasks.length = before.tasks.length :=
  List.length_set

theorem Situation.mem_begin {before : Situation σ τ} {task other : τ} {id : Nat}
    (found : (before.tasks ++ [task])[id]? = some other) :
    before.tasks[id]? = some other ∨ id = before.tasks.length ∧ task = other := by
  by_cases inside : id < before.tasks.length
  · rw [List.getElem?_append_left inside] at found
    exact .inl found
  · rw [List.getElem?_append_right (Nat.le_of_not_lt inside), List.getElem?_singleton] at found
    split at found
    case isTrue atEnd => exact .inr ⟨by omega, Option.some.inj found⟩
    case isFalse => contradiction

/-- One step of a system in its surroundings. -/
inductive System.Step (system : System σ τ) (before : Situation σ τ) :
    Act τ → Situation σ τ → Prop where
  | move {id : TaskId} {task : τ} {after : σ × τ} :
      before.tasks[id]? = some task →
      after ∈ system.moves before.view id before.common task →
      Step system before (.move id) (before.put id after)
  | answer {id : TaskId} {task : τ} {call : Call} {answer : Answer} :
      before.tasks[id]? = some task →
      system.call? task = some call →
      call.Returns answer →
      Step system before (.answer id answer)
        (before.put id (system.resume before.view id before.common task answer))
  | frame (text : String) :
      Step system before (.frame text)
        { before with common := system.receive before.view.now text before.common }
  | countReconnect :
      Step system before .countReconnect
        { before with common := system.countReconnect before.common }
  | outside (common : σ) : Step system before .outside { before with common := common }
  | shift (view : View) : Step system before .shift { before with view := view }
  | begin (task : τ) :
      Step system before (.begin task) { before with tasks := before.tasks ++ [task] }

/-- A step of a run. -/
structure Transition (σ τ : Type) where
  before : Situation σ τ
  act : Act τ
  after : Situation σ τ

/-- What the surroundings keep to: whether a step may follow those taken so far. -/
abbrev Rules (σ τ : Type) := List (Transition σ τ) → Transition σ τ → Prop

/-- The runs of a system, each with all its steps, the first one in front. -/
inductive System.Run (system : System σ τ) (rules : Rules σ τ) (start : Situation σ τ) :
    List (Transition σ τ) → Situation σ τ → Prop where
  | rest : Run system rules start [] start
  | step {trace : List (Transition σ τ)} {before after : Situation σ τ} {act : Act τ} :
      Run system rules start trace before →
      system.Step before act after →
      rules trace ⟨before, act, after⟩ →
      Run system rules start (trace ++ [⟨before, act, after⟩]) after

/-- Whether a task can go on: it has a move, or a call of it is to return. -/
def System.CanGoOn (system : System σ τ) (situation : Situation σ τ)
    (id : TaskId) : Prop :=
  ∃ task, situation.tasks[id]? = some task ∧
    (system.moves situation.view id situation.common task ≠ [] ∨ (system.call? task).isSome = true)

namespace System

variable {system : System σ τ} {rules : Rules σ τ} {start last : Situation σ τ}
  {trace : List (Transition σ τ)}

theorem Step.tasks_of_ne {before after : Situation σ τ} {act : Act τ} {id : TaskId} {task : τ}
    (step : system.Step before act after) (found : before.tasks[id]? = some task)
    (others : act.task? ≠ some id) : after.tasks[id]? = some task := by
  cases step with
  | @move other moving next foundOther member =>
      have different : other ≠ id := fun same => others (congrArg some same)
      rw [Situation.tasks_put_of_ne different]
      exact found
  | @answer other waiting call answer foundOther waits returns =>
      have different : other ≠ id := fun same => others (congrArg some same)
      rw [Situation.tasks_put_of_ne different]
      exact found
  | begin task =>
      obtain ⟨inside, _⟩ := List.getElem?_eq_some_iff.mp found
      rw [List.getElem?_append_left inside]
      exact found
  | _ => exact found

/-- A task that has not gone on was there before, or has just been started. -/
theorem Step.tasks_before {before after : Situation σ τ} {act : Act τ} {id : TaskId} {task : τ}
    (step : system.Step before act after) (found : after.tasks[id]? = some task)
    (others : act.task? ≠ some id) : before.tasks[id]? = some task ∨ act = .begin task := by
  cases step with
  | @move other moving next foundOther member =>
      have different : other ≠ id := fun same => others (congrArg some same)
      rw [Situation.tasks_put_of_ne different] at found
      exact .inl found
  | @answer other waiting call answer foundOther waits returns =>
      have different : other ≠ id := fun same => others (congrArg some same)
      rw [Situation.tasks_put_of_ne different] at found
      exact .inl found
  | begin started =>
      rcases Situation.mem_begin found with old | ⟨_, rfl⟩
      · exact .inl old
      · exact .inr rfl
  | _ => exact .inl found

/-- A run that keeps to some rules keeps to all weaker ones. -/
theorem Run.imp {weaker : Rules σ τ}
    (implies : ∀ trace transition, rules trace transition → weaker trace transition)
    (run : system.Run rules start trace last) : system.Run weaker start trace last := by
  induction run with
  | rest => exact .rest
  | step run step allowed induction => exact .step induction step (implies _ _ allowed)

/-- What comes before a step of a run is a run of its own. -/
theorem Run.split (run : system.Run rules start trace last)
    {earlier later : List (Transition σ τ)} {transition : Transition σ τ}
    (parts : trace = earlier ++ transition :: later) :
    system.Run rules start earlier transition.before ∧
      system.Step transition.before transition.act transition.after ∧
      rules earlier transition := by
  induction run generalizing later with
  | rest => simp at parts
  | @step trace before after act run step allowed induction =>
      rcases List.eq_nil_or_concat later with rfl | ⟨between, final, rfl⟩
      · obtain ⟨rfl, same⟩ := List.append_inj' parts rfl
        cases same
        exact ⟨run, step, allowed⟩
      · rw [List.concat_eq_append, ← List.cons_append, ← List.append_assoc] at parts
        exact induction (List.append_inj' parts rfl).1

/-- What comes after a step of a run is a run of its own too, if the rules do not look
back. -/
theorem Run.after (free : ∀ earlier later transition, rules earlier transition →
      rules later transition)
    (run : system.Run rules start trace last)
    {earlier later : List (Transition σ τ)} {transition : Transition σ τ}
    (parts : trace = earlier ++ transition :: later) :
    system.Run rules transition.after later last := by
  induction run generalizing later with
  | rest => simp at parts
  | @step trace before after act run step allowed induction =>
      rcases List.eq_nil_or_concat later with rfl | ⟨between, final, rfl⟩
      · obtain ⟨rfl, same⟩ := List.append_inj' parts rfl
        cases same
        exact .rest
      · rw [List.concat_eq_append] at parts ⊢
        rw [← List.cons_append, ← List.append_assoc] at parts
        obtain ⟨same, isFinal⟩ := List.append_inj' parts rfl
        cases isFinal
        exact .step (induction same) step (free _ _ _ allowed)

def reached (start : Situation σ τ) (trace : List (Transition σ τ)) : Situation σ τ :=
  trace.getLast?.elim start Transition.after

theorem Run.reached_eq (run : system.Run rules start trace last) : reached start trace = last := by
  cases run with
  | rest => rfl
  | step => simp [reached]

/-- A run leads through every situation that its first steps have led to. -/
theorem Run.part (run : system.Run rules start trace last) {earlier later : List (Transition σ τ)}
    (parts : trace = earlier ++ later) :
    system.Run rules start earlier (reached start earlier) := by
  induction run generalizing later with
  | rest =>
      obtain ⟨rfl, rfl⟩ := List.append_eq_nil_iff.mp parts.symm
      exact .rest
  | step run taken allowed induction =>
      rcases List.eq_nil_or_concat later with rfl | ⟨between, final, rfl⟩
      · rw [List.append_nil] at parts
        subst parts
        rw [(Run.step run taken allowed).reached_eq]
        exact .step run taken allowed
      · rw [List.concat_eq_append, ← List.append_assoc] at parts
        exact induction (List.append_inj' parts rfl).1

/-- What holds at one moment of a run and is kept by every later step holds at its end. -/
theorem Run.since {kept : List (Transition σ τ) → Situation σ τ → Prop}
    (step : ∀ trace before act after, system.Run rules start trace before →
      system.Step before act after → rules trace ⟨before, act, after⟩ →
        kept trace before → kept (trace ++ [⟨before, act, after⟩]) after)
    (run : system.Run rules start trace last) {earlier later : List (Transition σ τ)}
    (parts : trace = earlier ++ later) (here : kept earlier (reached start earlier)) :
    kept trace last := by
  induction run generalizing later with
  | rest =>
      obtain ⟨rfl, rfl⟩ := List.append_eq_nil_iff.mp parts.symm
      exact here
  | @step trace before after act run taken allowed induction =>
      rcases List.eq_nil_or_concat later with rfl | ⟨between, final, rfl⟩
      · rw [List.append_nil] at parts
        subst parts
        rwa [(Run.step run taken allowed).reached_eq] at here
      · rw [List.concat_eq_append, ← List.append_assoc] at parts
        obtain ⟨same, _⟩ := List.append_inj' parts rfl
        exact step trace before act after run taken allowed (induction same)

theorem Run.upTo (run : system.Run rules start trace last) {transition : Transition σ τ}
    (member : transition ∈ trace) :
    ∃ earlier, system.Run rules start earlier transition.before ∧
      system.Step transition.before transition.act transition.after ∧
      rules earlier transition ∧ (earlier ++ [transition]) <+: trace := by
  obtain ⟨earlier, later, rfl⟩ := List.append_of_mem member
  obtain ⟨reached, step, allowed⟩ := run.split rfl
  exact ⟨earlier, reached, step, allowed, later, by simp⟩

end System

def stepsOf (id : TaskId) (trace : List (Transition σ τ)) : Nat :=
  trace.countP fun transition => transition.act.task? == some id

section Steps

variable {id : TaskId} {trace : List (Transition σ τ)} {transition : Transition σ τ}

theorem stepsOf_append_of_acts (acts : transition.act.task? = some id) :
    stepsOf id (trace ++ [transition]) = stepsOf id trace + 1 := by
  simp [stepsOf, acts, List.countP_append]

theorem stepsOf_append_of_ne (others : transition.act.task? ≠ some id) :
    stepsOf id (trace ++ [transition]) = stepsOf id trace := by
  simp [stepsOf, others, List.countP_append]

end Steps

/-- What is filed under another key stays when all under one key is taken out. -/
theorem lookup_filter_of_ne {κ α : Type} [BEq κ] [LawfulBEq κ] {key other : κ}
    (different : other ≠ key) (entries : List (κ × α)) :
    (entries.filter fun entry => entry.1 != key).lookup other = entries.lookup other := by
  induction entries with
  | nil => rfl
  | cons first rest induction =>
      by_cases isKey : first.1 = key
      · have notFirst : other ≠ first.1 := isKey ▸ different
        rw [List.filter_cons_of_neg (by simp [isKey]), induction, List.lookup_cons,
          beq_false_of_ne notFirst]
      · rw [List.filter_cons_of_pos (by simp [isKey]), List.lookup_cons, List.lookup_cons,
          induction]

def total (measure : τ → Nat) : List τ → Nat
  | [] => 0
  | task :: tasks => measure task + total measure tasks

theorem total_eq_sum (measure : τ → Nat) (tasks : List τ) :
    total measure tasks = (tasks.map measure).sum := by
  induction tasks with
  | nil => rfl
  | cons task tasks induction => rw [total, induction, List.map_cons, List.sum_cons]

@[simp]
theorem total_append (measure : τ → Nat) (left right : List τ) :
    total measure (left ++ right) = total measure left + total measure right := by
  rw [total_eq_sum, total_eq_sum, total_eq_sum, List.map_append, List.sum_append_nat]

theorem total_replicate (measure : τ → Nat) (count : Nat) (task : τ) :
    total measure (List.replicate count task) = count * measure task := by
  rw [total_eq_sum, List.map_replicate, List.sum_replicate_nat]

theorem total_const (count : Nat) (tasks : List τ) :
    total (fun _ => count) tasks = tasks.length * count := by
  rw [total_eq_sum, List.map_const', List.sum_replicate_nat]

theorem total_map {α : Type} (measure : τ → Nat) (convert : α → τ) (items : List α) :
    total measure (items.map convert) = total (fun item => measure (convert item)) items := by
  rw [total_eq_sum, total_eq_sum, List.map_map]
  rfl

theorem total_congr {left right : τ → Nat} {tasks : List τ}
    (same : ∀ task ∈ tasks, left task = right task) : total left tasks = total right tasks := by
  rw [total_eq_sum, total_eq_sum, List.map_congr_left same]

theorem total_set (measure : τ → Nat) {tasks : List τ} {id : Nat} {task : τ}
    (found : tasks[id]? = some task) (next : τ) :
    total measure (tasks.set id next) + measure task = total measure tasks + measure next := by
  induction tasks generalizing id with
  | nil => simp at found
  | cons first tasks induction =>
      cases id with
      | zero =>
          simp only [List.getElem?_cons_zero, Option.some.injEq] at found
          subst found
          simp only [List.set_cons_zero, total]
          omega
      | succ id =>
          have rest := induction (by simpa using found)
          simp only [List.set_cons_succ, total]
          omega

theorem total_eq_zero_iff {measure : τ → Nat} {tasks : List τ} :
    total measure tasks = 0 ↔ ∀ task ∈ tasks, measure task = 0 := by
  rw [total_eq_sum, List.sum_eq_zero_iff_forall_eq_nat]
  exact List.forall_mem_map

theorem le_total (measure : τ → Nat) {tasks : List τ} {task : τ} (member : task ∈ tasks) :
    measure task ≤ total measure tasks := by
  induction tasks with
  | nil => contradiction
  | cons first tasks induction =>
      simp only [total]
      rcases List.mem_cons.mp member with here | later
      · subst here
        omega
      · have rest := induction later
        omega

theorem total_add (left right : τ → Nat) (tasks : List τ) :
    total (fun task => left task + right task) tasks = total left tasks + total right tasks := by
  induction tasks with
  | nil => rfl
  | cons first tasks induction =>
      simp only [total, induction]
      omega

theorem total_toNat (holds : τ → Bool) (tasks : List τ) :
    total (fun task => (holds task).toNat) tasks = tasks.countP holds := by
  induction tasks with
  | nil => rfl
  | cons first rest induction =>
      rw [total, induction, List.countP_cons, Nat.add_comm]
      cases holds first <;> rfl

/-- What changes when the measure of one of several different tasks changes. -/
theorem total_of_key {keys : List τ} {key : τ} {left right : τ → Nat} (distinct : keys.Nodup)
    (member : key ∈ keys) (others : ∀ other ∈ keys, other ≠ key → left other = right other) :
    total left keys + right key = total right keys + left key := by
  induction keys with
  | nil => contradiction
  | cons first rest induction =>
      obtain ⟨absent, distinct⟩ := List.nodup_cons.mp distinct
      rcases List.mem_cons.mp member with rfl | member
      · have same : total left rest = total right rest :=
          total_congr fun other isOther =>
            others other (by simp [isOther]) fun equal => absent (equal ▸ isOther)
        simp only [total, same]
        omega
      · have head := others first (by simp) fun equal => absent (equal ▸ member)
        have tail := induction distinct member fun other isOther =>
          others other (by simp [isOther])
        simp only [total, head]
        omega

end RoomLoad

import RoomLoad.Proofs.Runs.Basic

/-!
# Replaying runs

A run can be prescribed cue by cue and carried out, with a check of every step against
the rules.  What is then seen in its last situation is seen in a run.
-/

namespace RoomLoad

/-- What is to come next in a run. -/
inductive Cue (σ τ : Type) where
  /-- A task makes one of its moves, counted from the preferred one. -/
  | move (task : TaskId) (choice : Nat)
  | answer (task : TaskId) (answer : Answer)
  | frame (text : String)
  | shift (view : View)
  | outside (change : σ → σ)
  | begin (task : τ)

variable {σ τ : Type}

/-- Whether a step is taken by a task, a frame or time, and not by somebody else. -/
def Act.isInner : Act τ → Bool
  | .outside => false
  | .begin _ => false
  | _ => true

theorem Act.ne_of_isInner {act : Act τ} (inner : act.isInner = true) :
    act ≠ .outside ∧ ∀ task, act ≠ .begin task := by
  constructor
  · rintro rfl
    contradiction
  · rintro task rfl
    contradiction

namespace Call

/-- Whether a call can return with an answer. -/
def admits : Call → Answer → Bool
  | connect _, .connected _ => true
  | connect _, .failed _ => true
  | reconnect _, .done => true
  | reconnect _, .failed _ => true
  | close _, .done => true
  | send _ _, .done => true
  | send _ _, .failed _ => true
  | sleep _, .done => true
  | wait _, .done => true
  | _, _ => false

theorem returns_of_admits {call : Call} {answer : Answer} (admitted : call.admits answer) :
    call.Returns answer := by
  cases call <;> cases answer <;> first | constructor | contradiction

end Call

namespace System

/-- Carries out a cue, if it can be. -/
def follow? (system : System σ τ) (before : Situation σ τ) :
    Cue σ τ → Option (Act τ × Situation σ τ)
  | .move id choice => do
      let task ← before.tasks[id]?
      let after ← (system.moves before.view id before.common task)[choice]?
      return (.move id, before.put id after)
  | .answer id answer => do
      let task ← before.tasks[id]?
      let call ← system.call? task
      if call.admits answer then
        return (.answer id answer,
          before.put id (system.resume before.view id before.common task answer))
      else
        none
  | .frame text =>
      some (.frame text,
        { before with common := system.receive before.view.now text before.common })
  | .shift view => some (.shift, { before with view := view })
  | .outside change => some (.outside, { before with common := change before.common })
  | .begin task => some (.begin task, { before with tasks := before.tasks ++ [task] })

/-- Carries out cues one after another behind the steps taken so far, if all of them
can be and are allowed. -/
def replay (system : System σ τ) (allows : List (Transition σ τ) → Transition σ τ → Bool) :
    List (Transition σ τ) → Situation σ τ → List (Cue σ τ) →
      Option (List (Transition σ τ) × Situation σ τ)
  | trace, situation, [] => some (trace, situation)
  | trace, before, cue :: cues => do
      let (act, after) ← system.follow? before cue
      if allows trace ⟨before, act, after⟩ then
        system.replay allows (trace ++ [⟨before, act, after⟩]) after cues
      else
        none

variable {system : System σ τ} {rules : Rules σ τ} {start before after last : Situation σ τ}

theorem step_of_follow? {cue : Cue σ τ} {act : Act τ}
    (followed : system.follow? before cue = some (act, after)) :
    system.Step before act after := by
  cases cue with
  | move id choice =>
      simp only [follow?, Option.bind_eq_bind, Option.bind_eq_some_iff, Option.pure_def,
        Option.some.injEq, Prod.mk.injEq] at followed
      obtain ⟨task, found, next, chosen, rfl, rfl⟩ := followed
      exact .move found (List.mem_of_getElem? chosen)
  | answer id answer =>
      simp only [follow?, Option.bind_eq_bind, Option.bind_eq_some_iff, Option.pure_def] at followed
      obtain ⟨task, found, call, waits, answered⟩ := followed
      split at answered
      case isTrue admitted =>
        simp only [Option.some.injEq, Prod.mk.injEq] at answered
        obtain ⟨rfl, rfl⟩ := answered
        exact .answer found waits (Call.returns_of_admits admitted)
      case isFalse => contradiction
  | frame text =>
      simp only [follow?, Option.some.injEq, Prod.mk.injEq] at followed
      obtain ⟨rfl, rfl⟩ := followed
      exact .frame text
  | shift view =>
      simp only [follow?, Option.some.injEq, Prod.mk.injEq] at followed
      obtain ⟨rfl, rfl⟩ := followed
      exact .shift view
  | outside change =>
      simp only [follow?, Option.some.injEq, Prod.mk.injEq] at followed
      obtain ⟨rfl, rfl⟩ := followed
      exact .outside _
  | begin task =>
      simp only [follow?, Option.some.injEq, Prod.mk.injEq] at followed
      obtain ⟨rfl, rfl⟩ := followed
      exact .begin task

theorem run_of_replay {allows : List (Transition σ τ) → Transition σ τ → Bool}
    (kept : ∀ trace transition, allows trace transition = true → rules trace transition)
    {cues : List (Cue σ τ)} {trace later : List (Transition σ τ)}
    (run : system.Run rules start trace before)
    (replayed : system.replay allows trace before cues = some (later, last)) :
    system.Run rules start later last := by
  induction cues generalizing trace before with
  | nil =>
      simp only [replay, Option.some.injEq, Prod.mk.injEq] at replayed
      obtain ⟨rfl, rfl⟩ := replayed
      exact run
  | cons cue cues induction =>
      simp only [replay, Option.bind_eq_bind, Option.bind_eq_some_iff] at replayed
      obtain ⟨⟨act, next⟩, followed, rest⟩ := replayed
      split at rest
      case isTrue allowed =>
        exact induction (.step run (step_of_follow? followed) (kept _ _ allowed)) rest
      case isFalse => contradiction

/-- What a replay is seen to end with is what a run ends with. -/
theorem exists_run_of_replay {allows : List (Transition σ τ) → Transition σ τ → Bool}
    (kept : ∀ trace transition, allows trace transition = true → rules trace transition)
    {cues : List (Cue σ τ)} {seen : List (Transition σ τ) × Situation σ τ → Bool}
    (replayed : (system.replay allows [] start cues).any seen = true) :
    ∃ trace last, system.Run rules start trace last ∧ seen (trace, last) = true := by
  cases found : system.replay allows [] start cues with
  | none =>
      rw [found] at replayed
      contradiction
  | some ending =>
      rw [found, Option.any_some] at replayed
      exact ⟨ending.1, ending.2, run_of_replay kept .rest found, replayed⟩

/-- The step in which somebody else changes what the tasks share. -/
def interference (change : σ → σ) (before : Situation σ τ) : Transition σ τ :=
  ⟨before, .outside, { before with common := change before.common }⟩

/-- Carries out some cues, then lets somebody else change what the tasks share, and carries
out some more. -/
def replayAround (system : System σ τ) (allows : List (Transition σ τ) → Transition σ τ → Bool)
    (start : Situation σ τ) (earlier : List (Cue σ τ)) (change : σ → σ)
    (later : List (Cue σ τ)) : Option (List (Transition σ τ) × Situation σ τ) := do
  let (trace, before) ← system.replay allows [] start earlier
  let changes := interference change before
  system.replay allows (trace ++ [changes]) changes.after later

/-- What such a replay is seen to end with is what a run ends with. -/
theorem exists_run_of_replayAround {allows : List (Transition σ τ) → Transition σ τ → Bool}
    (kept : ∀ trace transition, allows trace transition = true → rules trace transition)
    {change : σ → σ} (free : ∀ trace before, rules trace (interference change before))
    {earlier later : List (Cue σ τ)} {seen : List (Transition σ τ) × Situation σ τ → Bool}
    (replayed : (system.replayAround allows start earlier change later).any seen = true) :
    ∃ trace last, system.Run rules start trace last ∧ seen (trace, last) = true := by
  cases found : system.replayAround allows start earlier change later with
  | none =>
      rw [found] at replayed
      contradiction
  | some ending =>
      rw [found, Option.any_some] at replayed
      simp only [replayAround, Option.bind_eq_bind, Option.bind_eq_some_iff] at found
      obtain ⟨⟨trace, before⟩, replayedBefore, replayedAfter⟩ := found
      have run := run_of_replay kept .rest replayedBefore
      have changed := Run.step run (.outside (change before.common)) (free trace before)
      exact ⟨ending.1, ending.2, run_of_replay kept changed replayedAfter, replayed⟩

end System

end RoomLoad

import RoomLoad.Proofs.Runs.Basic

/-!
# The steps of one task

What a task has done in a run is told by the steps that it has taken itself, however
many steps of others come in between.
-/

namespace RoomLoad

variable {σ τ : Type} {id : TaskId} {trace : List (Transition σ τ)} {transition : Transition σ τ}

/-- The steps that a task has taken, the first one in front. -/
def taken (id : TaskId) (trace : List (Transition σ τ)) : List (Transition σ τ) :=
  trace.filter fun transition => transition.act.task? == some id

theorem taken_append_of_acts (acts : transition.act.task? = some id) :
    taken id (trace ++ [transition]) = taken id trace ++ [transition] := by
  simp [taken, acts, List.filter_append]

theorem taken_append_of_ne (others : transition.act.task? ≠ some id) :
    taken id (trace ++ [transition]) = taken id trace := by
  simp [taken, others, List.filter_append]

namespace System

variable {system : System σ τ} {rules : Rules σ τ} {start before after last : Situation σ τ}
  {act : Act τ}

theorem Step.inside_of_acts (step : system.Step before act after) (acts : act.task? = some id) :
    id < before.tasks.length := by
  cases step with
  | move found member =>
      cases acts
      exact (List.getElem?_eq_some_iff.mp found).1
  | answer found waits returns =>
      cases acts
      exact (List.getElem?_eq_some_iff.mp found).1
  | _ => contradiction

theorem Step.length_le (step : system.Step before act after) :
    before.tasks.length ≤ after.tasks.length := by
  cases step with
  | move found member => exact Nat.le_of_eq (Situation.length_put _ _ _).symm
  | answer found waits returns => exact Nat.le_of_eq (Situation.length_put _ _ _).symm
  | begin task => simp
  | _ => exact Nat.le_refl _

theorem Run.taken_eq_nil (run : system.Run rules start trace last)
    (absent : last.tasks.length ≤ id) : taken id trace = [] := by
  induction run with
  | rest => rfl
  | @step trace before after act run step allowed induction =>
      have longer := step.length_le
      have others : act.task? ≠ some id := by
        intro acts
        exact absurd (step.inside_of_acts acts) (Nat.not_lt.mpr (Nat.le_trans longer absent))
      rw [taken_append_of_ne others]
      exact induction (Nat.le_trans longer absent)

end System

end RoomLoad

import RoomLoad.Proofs.Shutdown.Winding

/-!
# What a generator has produced

Whatever becomes of the queue, a generator puts into it the units of its plan in their order
and then the requests to stop, as far as it comes.  Every unit is drawn from what the plan
has to choose from, and the report counts the units that the queue has accepted.
-/

namespace RoomLoad

/-- A position in a list of texts lies in the list, however long it is. -/
theorem RandomSource.within_lt {size : Nat} (positive : 0 < size) (source : RandomSource) :
    (source.within 64 0 (size - 1)).1 < size := by
  have least : size - 1 - 0 + 1 = size := by omega
  have power : 0 < Nat.pow 2 64 := by decide
  unfold within
  dsimp only
  rw [least]
  split
  case isTrue full =>
    have word := Nat.mod_lt source.next.1.toNat power
    have wraps := Nat.le_of_dvd positive (Nat.dvd_of_mod_eq_zero full)
    exact Nat.lt_of_lt_of_le word wraps
  case isFalse part =>
    have below := @drawBelow_lt 64 _ (source.patience + 1) source (Nat.pos_of_ne_zero part)
    have smaller := Nat.mod_le size (Nat.pow 2 64)
    dsimp only
    omega

namespace GeneratorPlan

/-- There is something to choose from. -/
structure Supplied (plan : GeneratorPlan) : Prop where
  text : 0 < plan.templates.size
  user : plan.users.isEmpty = false
  room : plan.rooms.isEmpty = false

/-- Whether a unit is one that a plan makes and nobody has tried to send yet. -/
def Makes (plan : GeneratorPlan) (unit : OutboundUnit) : Prop :=
  plan.admits unit = true ∧ unit.attempt = 0

variable {plan : GeneratorPlan}

theorem makes_drawUnit (supplied : plan.Supplied) (number : Nat) (now : Timestamp)
    (source : RandomSource) : plan.Makes (plan.drawUnit number now source).1 := by
  refine ⟨?_, rfl⟩
  have user := RandomSource.holds_ofRange supplied.user source
  have room := RandomSource.holds_ofRange supplied.room (source.ofRange plan.users).2
  have index := RandomSource.within_lt supplied.text
    ((source.ofRange plan.users).2.ofRange plan.rooms).2
  have text : plan.templates.contains (plan.drawUnit number now source).1.text = true := by
    rw [Array.contains_iff_mem, drawUnit]
    dsimp only
    rw [Array.getD_eq_getD_getElem?, Array.getElem?_eq_getElem index, Option.getD_some]
    exact Array.getElem_mem index
  rw [admits, Bool.and_eq_true, Bool.and_eq_true, Bool.and_eq_true, beq_iff_eq]
  exact ⟨⟨⟨user, room⟩, text⟩, rfl⟩

end GeneratorPlan

namespace Generator

/-- The unit that a generator has made and not handed over. -/
def held? (generator : Generator) : Option OutboundUnit :=
  match generator.stage with
  | .holding _ unit => some unit
  | _ => none

theorem Advances.makes {queue later : UnitQueue} {generator next : Generator}
    (advances : generator.Advances queue next later) (supplied : generator.plan.Supplied)
    (held : ∀ unit, generator.held? = some unit → generator.plan.Makes unit) :
    (∃ items, later.items = queue.items ++ items ∧
      ∀ unit, .unit unit ∈ items → generator.plan.Makes unit) ∧
      ∀ unit, next.held? = some unit → generator.plan.Makes unit := by
  cases advances with
  | @draws number unit source now making more numbered drawn =>
      refine ⟨⟨[], (List.append_nil _).symm, nofun⟩, ?_⟩
      intro other isHeld
      obtain rfl : unit = other := Option.some.inj isHeld
      rw [← drawn]
      exact GeneratorPlan.makes_drawUnit supplied number now generator.source
  | @hands number unit later holding accepted =>
      refine ⟨⟨[.unit unit], UnitQueue.items_of_offer accepted, ?_⟩, nofun⟩
      intro other member
      cases List.mem_singleton.mp member
      exact held unit (by rw [held?, holding])
  | requests stopping accepted =>
      refine ⟨⟨[.stop], UnitQueue.items_of_offer accepted, ?_⟩, nofun⟩
      intro other member
      cases List.mem_singleton.mp member
  | turns => exact ⟨⟨[], (List.append_nil _).symm, nofun⟩, nofun⟩
  | isLeft => exact ⟨⟨[], (List.append_nil _).symm, nofun⟩, nofun⟩
  | isLeftAtStops => exact ⟨⟨[], (List.append_nil _).symm, nofun⟩, nofun⟩
  | ends => exact ⟨⟨[], (List.append_nil _).symm, nofun⟩, nofun⟩

end Generator

namespace MainPhase

variable {trace : List (Transition RunState RunTask)} {transition : Transition RunState RunTask}
  {before after start last : Situation RunState RunTask} {act : Act RunTask}
  {plan : GeneratorPlan} {producer id : TaskId}

theorem generator_of_acts {generator : Generator} (step : mainPhase.Step before act after)
    (acts : act.task? = some id) (found : before.tasks[id]? = some (.generator generator)) :
    ∃ next, after.tasks[id]? = some (.generator next) ∧
      generator.Advances before.common.desk.queue next after.common.desk.queue := by
  have discreet : Discreet ⟨before, act, after⟩ := by
    cases act <;> trivial
  have same : ∀ {other : TaskId} {task : RunTask}, act.task? = some other →
      before.tasks[other]? = some task → task = .generator generator := by
    intro other task isOther foundOther
    rw [acts, Option.some.injEq] at isOther
    subst isOther
    rw [found] at foundOther
    exact (Option.some.inj foundOther).symm
  cases goes_of_step step discreet with
  | idles silent =>
      rw [silent] at acts
      contradiction
  | conducts isOther foundOther => cases same isOther foundOther
  | works isOther foundOther => cases same isOther foundOther
  | @generates other own next queue isOther foundOther advances =>
      cases same isOther foundOther
      rw [acts, Option.some.injEq] at isOther
      subst isOther
      exact ⟨next, Situation.tasks_put_self found _, advances⟩

/-- What a generator has made is what its plan makes. -/
structure Produces (plan : GeneratorPlan) (id : TaskId)
    (trace : List (Transition RunState RunTask)) (generator : Generator) : Prop where
  supplies : Supplies plan id trace generator
  accepted : ∀ unit, .unit unit ∈ fedBy id trace → plan.Makes unit
  held : ∀ unit, generator.held? = some unit → plan.Makes unit

theorem Produces.of_others {generator : Generator} (produces : Produces plan id trace generator)
    (others : transition.act.task? ≠ some id) :
    Produces plan id (trace ++ [transition]) generator where
  supplies := produces.supplies.of_others others
  accepted := by
    rw [fedBy_append_of_ne others]
    exact produces.accepted
  held := produces.held

theorem Produces.of_acts {generator next : Generator} (supplied : plan.Supplied)
    (produces : Produces plan id trace generator) (acts : transition.act.task? = some id)
    (advances : generator.Advances transition.before.common.desk.queue next
      transition.after.common.desk.queue) :
    Produces plan id (trace ++ [transition]) next := by
  have same := produces.supplies.plan_eq
  obtain ⟨⟨items, appended, made⟩, held⟩ :=
    advances.makes (same ▸ supplied) (same ▸ produces.held)
  rw [same] at made held
  constructor
  case supplies => exact produces.supplies.of_acts acts advances
  case accepted =>
    intro unit member
    rw [fedBy_append_of_acts acts appended] at member
    rcases List.mem_append.mp member with earlier | now
    · exact produces.accepted unit earlier
    · exact made unit now
  case held => exact held

theorem produces_of_run {rules : Rules RunState RunTask} {source : RandomSource}
    (supplied : plan.Supplied) (found : start.tasks[id]? = some (.generator (plan.start source)))
    (run : mainPhase.Run rules start trace last) :
    ∃ generator, last.tasks[id]? = some (.generator generator) ∧
      Produces plan id trace generator := by
  induction run with
  | rest => exact ⟨_, found, supplies_start, nofun, nofun⟩
  | @step trace before after act run step allowed induction =>
      obtain ⟨generator, foundBefore, produces⟩ := induction
      by_cases acts : act.task? = some id
      · obtain ⟨next, foundAfter, advances⟩ := generator_of_acts step acts foundBefore
        exact ⟨next, foundAfter, produces.of_acts supplied acts advances⟩
      · exact ⟨generator, step.tasks_of_ne foundBefore acts, produces.of_others acts⟩

/-- Where there is something to choose from there is a plan, and then, whatever others do with
the queue and its handles, the queue has accepted the first units of the plan, and behind the
last of them some of the requests to stop.  Every unit is drawn from what there is to choose
from and has not been tried.  The generator can go on unless the queue is full, it comes to its
end, and then its report counts the units that were accepted; it was interrupted exactly if
these are not all. -/
theorem production_of_run (total sentinels : Nat) {templates : List String} {users rooms : IdRange}
    (someText : templates ≠ []) (someUser : users.isEmpty = false)
    (someRoom : rooms.isEmpty = false) :
    ∃ plan, GeneratorPlan.make total sentinels templates users rooms = .ok plan ∧
      ∀ source producer start last trace,
        start.tasks[producer]? = some (.generator (plan.start source)) →
        mainPhase.Run (fun _ _ => True) start trace last →
        (fedBy producer trace).map Envelope.seq? <+:
            (List.range total).map (fun number => some (UInt64.ofNat number)) ++
              List.replicate sentinels none ∧
          (∀ unit, .unit unit ∈ fedBy producer trace →
            users.holds unit.user = true ∧ rooms.holds unit.room = true ∧
            unit.username = "user" ++ unit.user.toNat.repr ∧ unit.text ∈ templates ∧
            unit.attempt = 0) ∧
          stepsOf producer trace ≤ 2 * total + sentinels + 2 ∧
          ∃ generator, last.tasks[producer]? = some (.generator generator) ∧
            (generator.report? = none → last.common.launched = true →
              last.common.desk.queue.receivers = 0 ∨
                last.common.desk.queue.items.length < last.common.desk.queue.capacity →
              mainPhase.CanGoOn last producer) ∧
            ∀ report, generator.report? = some report →
              report.produced = ((fedBy producer trace).filterMap Envelope.seq?).length ∧
              (report.interrupted = true ↔ report.produced < total) := by
  have someTexts : templates.isEmpty = false := by
    rw [Bool.eq_false_iff]
    exact fun none => someText (List.isEmpty_iff.mp none)
  let plan : GeneratorPlan := ⟨total, sentinels, templates.toArray, users, rooms⟩
  have supplied : plan.Supplied := by
    refine ⟨?_, someUser, someRoom⟩
    rw [List.size_toArray]
    exact List.length_pos_iff.mpr someText
  refine ⟨plan, ?_, ?_⟩
  · rw [GeneratorPlan.make, someTexts, someUser, someRoom]
    rfl
  · intro source producer start last trace found run
    obtain ⟨generator, foundLast, ⟨supplies, accepted, _⟩⟩ := produces_of_run supplied found run
    have planned : plan.marks plan.total plan.sentinels =
        (List.range total).map (fun number => some (UInt64.ofNat number)) ++
          List.replicate sentinels none := by
      rw [GeneratorPlan.marks, List.take_of_length_le (Nat.le_of_eq GeneratorPlan.length_seqs),
        GeneratorPlan.seqs, List.map_map]
      rfl
    refine ⟨planned ▸ supplies.fed.isPrefix, ?_, ?_, generator, foundLast, ?_, ?_⟩
    · intro unit member
      obtain ⟨admitted, fresh⟩ := accepted unit member
      simp only [GeneratorPlan.admits, plan, Bool.and_eq_true, beq_iff_eq,
        List.contains_toArray, List.contains_iff_mem] at admitted
      obtain ⟨⟨⟨user, room⟩, text⟩, name⟩ := admitted
      exact ⟨user, room, name, text, fresh⟩
    · exact Nat.le_trans (Nat.le_add_right _ _) supplies.steps
    · intro atWork launched room
      exact canGoOn_of_generator launched foundLast atWork room
    · intro report reported
      obtain ⟨_, _, interrupted⟩ := supplies.reports reported
      exact ⟨supplies.length_of_report? reported, interrupted⟩

/-- A generator alone with a queue of one place, from which nobody takes anything. -/
def crammed (plan : GeneratorPlan) (source : RandomSource) : Situation RunState RunTask :=
  let state := RunState.start brief false
  ⟨{ state with launched := true, desk.queue := ⟨1, .empty, 1, 1⟩ },
    [.generator (plan.start source)], ⟨0, fun _ => false⟩⟩

/-- The queue is full when the last one who could take something goes away. -/
def deserted : List (Cue RunState RunTask) :=
  List.replicate 3 (Cue.move 0 0) ++
    [Cue.outside fun state => { state with desk.queue := state.desk.queue.dropReceiver },
      Cue.move 0 0]

theorem production_of_run_of_deserted :
    ∃ plan, GeneratorPlan.make 2 1 ["Hello"] ⟨0, 4294967295⟩ ⟨7, 7⟩ = .ok plan ∧
      ∃ source trace last generator report,
        mainPhase.Run (fun _ _ => True) (crammed plan source) trace last ∧
        last.tasks[0]? = some (.generator generator) ∧
        generator.report? = some report ∧ report.interrupted = true ∧
        report.produced = 1 ∧ ((fedBy 0 trace).filterMap Envelope.seq?).length = 1 ∧
        ∀ unit, .unit unit ∈ fedBy 0 trace →
          unit.text = "Hello" ∧ unit.room = 7 ∧ unit.attempt = 0 := by
  have someText : ["Hello"] ≠ [] := List.cons_ne_nil _ _
  have someUser : (⟨0, 4294967295⟩ : IdRange).isEmpty = false := rfl
  have someRoom : (⟨7, 7⟩ : IdRange).isEmpty = false := rfl
  obtain ⟨plan, planned, produces⟩ := production_of_run 2 1 someText someUser someRoom
  have isPlan : plan = ⟨2, 1, #["Hello"], ⟨0, 4294967295⟩, ⟨7, 7⟩⟩ := by
    cases planned
    rfl
  let source : RandomSource := .scripted [] 0
  have replayed : (mainPhase.replay (fun _ _ => true) [] (crammed plan source) deserted).any
      (fun ending => (ending.2.tasks[0]?.bind RunTask.generator?).bind Generator.report? ==
        some ⟨1, true⟩) = true := by
    rw [isPlan]
    decide +kernel
  obtain ⟨trace, last, run, shown⟩ :=
    System.exists_run_of_replay (fun _ _ _ => trivial) replayed
  obtain ⟨_, accepted, _, generator, found, _, reports⟩ :=
    produces source 0 (crammed plan source) last trace rfl run
  rw [found, beq_iff_eq] at shown
  obtain ⟨counted, _⟩ := reports ⟨1, true⟩ shown
  refine ⟨plan, planned, source, trace, last, generator, ⟨1, true⟩, run, found, shown, rfl, rfl,
    counted.symm, ?_⟩
  intro unit member
  obtain ⟨_, room, _, text, fresh⟩ := accepted unit member
  refine ⟨List.mem_singleton.mp text, ?_, fresh⟩
  rw [IdRange.holds, Bool.and_eq_true, decide_eq_true_iff, decide_eq_true_iff] at room
  exact UInt32.le_antisymm room.2 room.1

end MainPhase

end RoomLoad

import Mathlib.Data.Int.CardIntervalMod
import RoomLoad.Proofs.Runs.Replay
import RoomLoad.Proofs.Warmup.Accounts

/-!
# The tally of a warm-up

The tasks of a warm-up take turns with the rooms, and their accounts add up to the common
tally, in whatever order they go on and however their channels are shared.
-/

namespace RoomLoad

namespace WarmupTask

variable {rooms : IdRange}

/-- The room of a task lies in the range, however near its ends are to the largest number. -/
theorem toNat_roomFor (inhabited : rooms.isEmpty = false) (index : Nat) :
    (roomFor rooms index).toNat = rooms.low.toNat + index % roomCount rooms ∧
      (roomFor rooms index).toNat ≤ rooms.high.toNat := by
  have ordered : rooms.low.toNat ≤ rooms.high.toNat := by
    rw [IdRange.isEmpty, decide_eq_false_iff_not, UInt32.lt_iff_toNat_lt] at inhabited
    exact Nat.le_of_not_lt inhabited
  have inside : index % roomCount rooms < roomCount rooms :=
    Nat.mod_lt _ (Nat.succ_pos _)
  have bound : rooms.high.toNat < 2 ^ 32 := rooms.high.toNat_lt
  have isRoom : (roomFor rooms index).toNat = rooms.low.toNat + index % roomCount rooms := by
    rw [roomFor, UInt32.toNat_add, UInt32.toNat_ofNat']
    unfold roomCount at inside ⊢
    omega
  refine ⟨isRoom, ?_⟩
  unfold roomCount at inside isRoom
  omega

theorem countP_roomFor (inhabited : rooms.isEmpty = false) {room : RoomId}
    (holds : rooms.holds room = true) (tasks : Nat) :
    (List.range tasks).countP (fun index => roomFor rooms index == room) =
      tasks / roomCount rooms +
        if room.toNat - rooms.low.toNat < tasks % roomCount rooms then 1 else 0 := by
  rw [IdRange.holds, Bool.and_eq_true, decide_eq_true_iff, decide_eq_true_iff,
    UInt32.le_iff_toNat_le, UInt32.le_iff_toNat_le] at holds
  have small : (room.toNat - rooms.low.toNat) % roomCount rooms =
      room.toNat - rooms.low.toNat := by
    apply Nat.mod_eq_of_lt
    unfold roomCount
    omega
  have positive : 0 < roomCount rooms := Nat.succ_pos _
  have counted := Nat.count_modEq_card tasks positive (room.toNat - rooms.low.toNat)
  rw [small] at counted
  rw [← counted, Nat.count]
  congr 1
  funext index
  have isRoom := (toNat_roomFor inhabited index).1
  rw [Bool.eq_iff_iff, beq_iff_eq, decide_eq_true_iff, ← UInt32.toNat_inj,
    isRoom, Nat.ModEq, small]
  omega

theorem countP_roomFor_le (inhabited : rooms.isEmpty = false) {room other : RoomId}
    (holds : rooms.holds room = true) (holdsOther : rooms.holds other = true) (tasks : Nat) :
    (List.range tasks).countP (fun index => roomFor rooms index == room) ≤
      (List.range tasks).countP (fun index => roomFor rooms index == other) + 1 := by
  rw [countP_roomFor inhabited holds, countP_roomFor inhabited holdsOther]
  split <;> split <;> omega

end WarmupTask

/-- A count that changes as one number does goes on being what the numbers come to. -/
theorem eq_total_of_change {before after : Nat → Nat} {ids : List Nat} (nodup : ids.Nodup)
    {id : Nat} (member : id ∈ ids) (same : ∀ other, other ≠ id → after other = before other)
    {counted recounted : Nat} (balanced : counted = total before ids)
    (changes : recounted + before id = counted + after id) : recounted = total after ids := by
  have changed := total_of_key nodup member fun other _ => same other
  omega

theorem total_eq_countP {measure : Nat → Nat} {counts : Nat → Bool} {ids : List Nat}
    (same : ∀ id ∈ ids, measure id = if counts id = true then 1 else 0) :
    total measure ids = ids.countP counts := by
  calc total measure ids
    _ = total (fun id => (counts id).toNat) ids := total_congr fun id member => by
      rw [same id member]
      cases counts id <;> rfl
    _ = ids.countP counts := total_toNat counts ids

namespace Warmup

open WarmupAccount (tell)

def launched (tasks messages : Nat) (rooms : IdRange) (ledger : Ledger) (view : View) :
    Situation WarmupState WarmupTask :=
  ⟨⟨.fresh, ledger⟩, (List.range tasks).map fun index => .start rooms messages index, view⟩

/-- Nobody joins the tasks later, and nobody else counts. -/
def undisturbed : Rules WarmupState WarmupTask := fun _ transition =>
  match transition.act with
  | .begin _ => False
  | .outside => transition.after.common.tally = transition.before.common.tally
  | _ => True

def ended (situation : Situation WarmupState WarmupTask) (id : TaskId) : Bool :=
  situation.tasks[id]?.any fun task => task.phase == .finished

variable {tasks messages : Nat} {rooms : IdRange} {ledger : Ledger} {view : View}
  {trace : List (Transition WarmupState WarmupTask)}
  {before after last : Situation WarmupState WarmupTask} {act : Act WarmupTask} {id : TaskId}

def creditAt (trace : List (Transition WarmupState WarmupTask))
    (situation : Situation WarmupState WarmupTask) (id : TaskId) : WarmupTally :=
  situation.tasks[id]?.elim .fresh fun task => task.credit (tell id trace)

/-- The tasks are as many as were launched, each is what its account says, and together they
have added what the tally says. -/
structure Audited (tasks messages : Nat) (rooms : IdRange)
    (trace : List (Transition WarmupState WarmupTask))
    (situation : Situation WarmupState WarmupTask) : Prop where
  length : situation.tasks.length = tasks
  own : ∀ {id : TaskId} {task : WarmupTask}, situation.tasks[id]? = some task →
    task.room = WarmupTask.roomFor rooms id ∧ task.messages = messages ∧
      task.Fits (tell id trace) ∧ stepsOf id trace + task.stepsLeft ≤ 2 * messages + 3
  success : situation.common.tally.success =
    total (fun id => (creditAt trace situation id).success) (List.range tasks)
  failed : situation.common.tally.failed =
    total (fun id => (creditAt trace situation id).failed) (List.range tasks)
  connections : situation.common.tally.connections =
    total (fun id => (creditAt trace situation id).connections) (List.range tasks)

theorem of_launched {task : WarmupTask}
    (found : (launched tasks messages rooms ledger view).tasks[id]? = some task) :
    task = .start rooms messages id := by
  rw [launched, List.getElem?_map] at found
  obtain ⟨index, isIndex, rfl⟩ := Option.map_eq_some_iff.mp found
  obtain ⟨inside, rfl⟩ := List.getElem?_eq_some_iff.mp isIndex
  rw [List.getElem_range]

theorem audited_launched :
    Audited tasks messages rooms [] (launched tasks messages rooms ledger view) := by
  have nothing : ∀ id, creditAt [] (launched tasks messages rooms ledger view) id = .fresh := by
    intro id
    unfold creditAt
    cases found : (launched tasks messages rooms ledger view).tasks[id]? with
    | none => rfl
    | some task =>
        rw [of_launched found]
        rfl
  have zero : total (fun _ => 0) (List.range tasks) = 0 := by
    rw [total_const, Nat.mul_zero]
  constructor
  case length => rw [launched, List.length_map, List.length_range]
  case own =>
    intro id task found
    rw [of_launched found]
    exact ⟨rfl, rfl, rfl, Nat.le_of_eq (Nat.zero_add _)⟩
  case success =>
    simp only [nothing]
    exact zero.symm
  case failed =>
    simp only [nothing]
    exact zero.symm
  case connections =>
    simp only [nothing]
    exact zero.symm

namespace Audited

theorem creditAt_of_ne (step : warmup.Step before act after)
    (inside : ∀ task, act ≠ .begin task) (others : act.task? ≠ some id) :
    creditAt (trace ++ [⟨before, act, after⟩]) after id = creditAt trace before id := by
  have same : after.tasks[id]? = before.tasks[id]? := by
    cases found : before.tasks[id]? with
    | some task => exact step.tasks_of_ne found others
    | none =>
        cases foundAfter : after.tasks[id]? with
        | none => rfl
        | some task =>
            rcases step.tasks_before foundAfter others with old | isBegin
            · rw [found] at old
              contradiction
            · exact absurd isBegin (inside task)
  rw [creditAt, same, WarmupAccount.tell_append_of_ne others, creditAt]

/-- A step that no task takes changes neither tasks nor tally. -/
theorem idle (audited : Audited tasks messages rooms trace before)
    (step : warmup.Step before act after) (allowed : undisturbed trace ⟨before, act, after⟩)
    (silent : act.task? = none) :
    Audited tasks messages rooms (trace ++ [⟨before, act, after⟩]) after := by
  have inside : ∀ task, act ≠ .begin task := by
    rintro task rfl
    exact allowed
  have others : ∀ id, act.task? ≠ some id := by
    intro id
    rw [silent]
    exact nofun
  have quiet : after.tasks = before.tasks ∧ after.common.tally = before.common.tally := by
    cases step with
    | outside common => exact ⟨rfl, allowed⟩
    | begin task => exact allowed.elim
    | frame => exact ⟨rfl, rfl⟩
    | countReconnect => exact ⟨rfl, rfl⟩
    | shift => exact ⟨rfl, rfl⟩
    | _ => contradiction
  obtain ⟨sameTasks, sameTally⟩ := quiet
  have credits : ∀ id, creditAt (trace ++ [⟨before, act, after⟩]) after id =
      creditAt trace before id := fun id => creditAt_of_ne step inside (others id)
  constructor
  case length =>
    rw [sameTasks]
    exact audited.length
  case own =>
    intro id task found
    rw [sameTasks] at found
    rw [WarmupAccount.tell_append_of_ne (others id), stepsOf_append_of_ne (others id)]
    exact audited.own found
  case success =>
    simp only [credits, sameTally]
    exact audited.success
  case failed =>
    simp only [credits, sameTally]
    exact audited.failed
  case connections =>
    simp only [credits, sameTally]
    exact audited.connections

/-- A step that a task takes changes its own credit as it changes the tally. -/
theorem acts (audited : Audited tasks messages rooms trace before)
    (step : warmup.Step before act after) (isOwn : act.task? = some id) :
    Audited tasks messages rooms (trace ++ [⟨before, act, after⟩]) after := by
  have inside : ∀ task, act ≠ .begin task := by
    rintro task rfl
    contradiction
  have others : ∀ other, other ≠ id → act.task? ≠ some other := by
    intro other different
    rw [isOwn]
    exact fun same => different (Option.some.inj same).symm
  have kept : ∀ other, other ≠ id → creditAt (trace ++ [⟨before, act, after⟩]) after other =
      creditAt trace before other := fun other different =>
    creditAt_of_ne step inside (others other different)
  have inRange : id ∈ List.range tasks := by
    rw [List.mem_range, ← audited.length]
    exact step.inside_of_acts isOwn
  obtain ⟨task, next, tally, found, isNext, goes⟩ := WarmupTask.goes_of_step step isOwn
  obtain ⟨isRoom, isCount, fits, bounded⟩ := audited.own found
  have told : tell id (trace ++ [⟨before, act, after⟩]) =
      (Transition.dealing? ⟨before, act, after⟩).elim (tell id trace) (tell id trace).enter :=
    WarmupAccount.tell_append_of_acts isOwn
  have foundNext : after.tasks[id]? = some next := by
    rw [isNext, Situation.tasks_put_self found]
  have isTally : after.common.tally = tally := by
    rw [isNext]
    rfl
  have creditBefore : creditAt trace before id = task.credit (tell id trace) := by
    rw [creditAt, found]
    rfl
  have creditAfter : creditAt (trace ++ [⟨before, act, after⟩]) after id =
      next.credit ((Transition.dealing? ⟨before, act, after⟩).elim (tell id trace)
        (tell id trace).enter) := by
    rw [creditAt, foundNext, told]
    rfl
  obtain ⟨success, failed, connections⟩ := goes.credits fits
  rw [← creditBefore, ← creditAfter, ← isTally] at success failed connections
  have nodup : (List.range tasks).Nodup := List.nodup_range
  constructor
  case length =>
    rw [isNext, Situation.length_put]
    exact audited.length
  case own =>
    intro other otherTask foundOther
    by_cases same : other = id
    · subst same
      rw [foundNext, Option.some.injEq] at foundOther
      subst foundOther
      obtain ⟨_, sameRoom, sameCount⟩ := goes.same
      have shorter := goes.shortens fits
      rw [told, stepsOf_append_of_acts isOwn, sameRoom, sameCount]
      exact ⟨isRoom, isCount, goes.fits fits, by omega⟩
    · rw [isNext, Situation.tasks_put_of_ne (Ne.symm same)] at foundOther
      rw [WarmupAccount.tell_append_of_ne (others other same),
        stepsOf_append_of_ne (others other same)]
      exact audited.own foundOther
  case success =>
    exact eq_total_of_change nodup inRange
      (fun other different => congrArg WarmupTally.success (kept other different))
      audited.success success
  case failed =>
    exact eq_total_of_change nodup inRange
      (fun other different => congrArg WarmupTally.failed (kept other different))
      audited.failed failed
  case connections =>
    exact eq_total_of_change nodup inRange
      (fun other different => congrArg WarmupTally.connections (kept other different))
      audited.connections connections

end Audited

theorem audited_of_run
    (run : warmup.Run undisturbed (launched tasks messages rooms ledger view) trace last) :
    Audited tasks messages rooms trace last := by
  induction run with
  | rest => exact audited_launched
  | @step trace before after act run step allowed induction =>
      cases isOwn : act.task? with
      | none => exact induction.idle step allowed isOwn
      | some id => exact induction.acts step isOwn

namespace Audited

variable {task : WarmupTask}

theorem of_finished (audited : Audited tasks messages rooms trace last)
    (found : last.tasks[id]? = some task) (finished : task.phase = .finished) :
    (tell id trace).asked = [task.room] ∧ (tell id trace).closed = (tell id trace).opened ∧
      (tell id trace).opened.length ≤ 1 ∧ (tell id trace).errors ≤ 1 ∧
      ((tell id trace).errors = 0 → (tell id trace).delivered = messages) ∧
      ((tell id trace).errors ≠ 0 → (tell id trace).delivered < messages ∨
        messages = 0 ∧ (tell id trace).delivered = 0 ∧ (tell id trace).opened = []) := by
  obtain ⟨_, isCount, fits, _⟩ := audited.own found
  rw [WarmupTask.Fits, finished] at fits
  obtain refused | ⟨channel, sent, failed, stops, told⟩ := fits
  · rw [refused]
    refine ⟨rfl, rfl, Nat.zero_le 1, Nat.le_refl 1, fun none => absurd none Nat.one_ne_zero, ?_⟩
    intro _
    rcases Nat.eq_zero_or_pos messages with none | some
    · exact .inr ⟨none, rfl, rfl⟩
    · exact .inl some
  · rw [told]
    cases failed with
    | true =>
        refine ⟨rfl, rfl, Nat.le_refl 1, Nat.le_refl 1, ?_, fun _ => .inl (isCount ▸ stops)⟩
        exact fun none => absurd none Nat.one_ne_zero
    | false =>
        have all : sent = messages := Eq.trans stops isCount
        exact ⟨rfl, rfl, Nat.le_refl 1, Nat.zero_le 1, fun _ => all, fun contrary =>
          absurd rfl contrary⟩

theorem of_unfinished (audited : Audited tasks messages rooms trace last)
    (found : last.tasks[id]? = some task) (runs : task.phase ≠ .finished) :
    (tell id trace).asked = (if task.phase = .connecting then [] else [task.room]) ∧
      (tell id trace).closed = [] ∧ (tell id trace).opened.length ≤ 1 := by
  obtain ⟨_, _, fits, _⟩ := audited.own found
  unfold WarmupTask.Fits at fits
  cases stands : task.phase with
  | connecting =>
      rw [stands] at fits
      rw [fits]
      exact ⟨rfl, rfl, Nat.zero_le 1⟩
  | composing channel sent =>
      rw [stands] at fits
      rw [fits.2]
      exact ⟨rfl, rfl, Nat.le_refl 1⟩
  | sending channel sent payload =>
      rw [stands] at fits
      rw [fits.2]
      exact ⟨rfl, rfl, Nat.le_refl 1⟩
  | closing channel failed =>
      rw [stands] at fits
      obtain ⟨sent, _, told⟩ := fits
      rw [told]
      exact ⟨rfl, rfl, Nat.le_refl 1⟩
  | finished => exact absurd stands runs

theorem exists_task (audited : Audited tasks messages rooms trace last)
    (inRange : id ∈ List.range tasks) : ∃ task, last.tasks[id]? = some task := by
  rw [List.mem_range, ← audited.length] at inRange
  exact ⟨last.tasks[id], List.getElem?_eq_getElem inRange⟩

theorem success_eq (audited : Audited tasks messages rooms trace last) :
    last.common.tally.success = total (fun id => (tell id trace).delivered) (List.range tasks) := by
  rw [audited.success]
  apply total_congr
  intro id inRange
  obtain ⟨task, found⟩ := audited.exists_task inRange
  rw [creditAt, found]
  rfl

theorem connections_eq (audited : Audited tasks messages rooms trace last) :
    last.common.tally.connections =
      (List.range tasks).countP fun id => !(tell id trace).opened.isEmpty := by
  rw [audited.connections]
  apply total_eq_countP
  intro id inRange
  obtain ⟨task, found⟩ := audited.exists_task inRange
  have atMost : (tell id trace).opened.length ≤ 1 := by
    by_cases finished : task.phase = .finished
    · exact (audited.of_finished found finished).2.2.1
    · exact (audited.of_unfinished found finished).2.2
  have isCredit : (creditAt trace last id).connections = (tell id trace).opened.length := by
    rw [creditAt, found]
    rfl
  rw [isCredit]
  cases opened : (tell id trace).opened with
  | nil => rfl
  | cons channel rest =>
      rw [opened, List.length_cons] at atMost
      simp only [List.length_cons, List.isEmpty_cons, Bool.not_false, if_true]
      omega

theorem failed_eq (audited : Audited tasks messages rooms trace last) :
    last.common.tally.failed =
      (List.range tasks).countP fun id => ended last id && (tell id trace).errors != 0 := by
  rw [audited.failed]
  apply total_eq_countP
  intro id inRange
  obtain ⟨task, found⟩ := audited.exists_task inRange
  have isCredit : (creditAt trace last id).failed =
      if task.phase = .finished then (tell id trace).errors else 0 := by
    rw [creditAt, found]
    rfl
  have hasEnded : ended last id = (task.phase == .finished) := by
    rw [ended, found]
    rfl
  rw [isCredit, hasEnded]
  by_cases finished : task.phase = .finished
  · obtain ⟨_, _, _, atMost, _⟩ := audited.of_finished found finished
    rw [if_pos finished, beq_iff_eq.mpr finished, Bool.true_and]
    by_cases none : (tell id trace).errors = 0
    · simp [none]
    · rw [if_pos (bne_iff_ne.mpr none)]
      omega
  · simp [finished]

theorem rooms_eq (audited : Audited tasks messages rooms trace last) (room : RoomId) :
    last.tasks.countP (fun task => task.room == room) =
      (List.range tasks).countP fun index => WarmupTask.roomFor rooms index == room := by
  have same : last.tasks.map WarmupTask.room =
      (List.range tasks).map (WarmupTask.roomFor rooms) := by
    apply List.ext_getElem?
    intro id
    rw [List.getElem?_map, List.getElem?_map]
    cases found : last.tasks[id]? with
    | some task =>
        obtain ⟨inside, _⟩ := List.getElem?_eq_some_iff.mp found
        rw [audited.length] at inside
        rw [List.getElem?_range inside, Option.map_some, Option.map_some,
          (audited.own found).1]
    | none =>
        rw [List.getElem?_eq_none_iff, audited.length] at found
        rw [List.getElem?_eq_none (by rw [List.length_range]; exact found)]
        rfl
  have counted := congrArg (List.countP fun other => other == room) same
  rwa [List.countP_map, List.countP_map] at counted

end Audited

/-- Every task connects once, to the room whose turn it is, which lies in the range, and no
room has more than one task more than another.  The connections are the tasks that were given
a channel, the successes the sends that have returned without an error, and the failures the
tasks that have ended with an error.  A task that ends without an error has sent all its
messages, one that ends with an error has not, unless there was none to send and it could not
connect.  Whatever a task was given it has closed, once, when it ends; until then it can always
go on, and it ends after a bounded number of steps. -/
theorem tallies_of_run (inhabited : rooms.isEmpty = false)
    (run : warmup.Run undisturbed (launched tasks messages rooms ledger view) trace last) :
    last.tasks.length = tasks ∧
    (∀ id task, last.tasks[id]? = some task →
      task.room.toNat = rooms.low.toNat + id % WarmupTask.roomCount rooms ∧
      task.room.toNat ≤ rooms.high.toNat ∧
      (tell id trace).asked = (if task.phase = .connecting then [] else [task.room]) ∧
      (tell id trace).opened.length ≤ 1) ∧
    (∀ room other, rooms.holds room = true → rooms.holds other = true →
      last.tasks.countP (fun task => task.room == room) ≤
        last.tasks.countP (fun task => task.room == other) + 1) ∧
    (last.common.tally.connections =
        (List.range tasks).countP (fun id => !(tell id trace).opened.isEmpty) ∧
      last.common.tally.success =
        total (fun id => (tell id trace).delivered) (List.range tasks) ∧
      last.common.tally.failed =
        (List.range tasks).countP fun id => ended last id && (tell id trace).errors != 0) ∧
    (∀ id task, last.tasks[id]? = some task → task.phase = .finished →
      ((tell id trace).errors = 0 → (tell id trace).delivered = messages) ∧
      ((tell id trace).errors ≠ 0 → (tell id trace).delivered < messages ∨
        messages = 0 ∧ (tell id trace).delivered = 0 ∧ (tell id trace).opened = []) ∧
      (tell id trace).closed = (tell id trace).opened) ∧
    ∀ id task, last.tasks[id]? = some task →
      (task.phase ≠ .finished → (tell id trace).closed = [] ∧ warmup.CanGoOn last id) ∧
      stepsOf id trace ≤ 2 * messages + 3 := by
  have audited := audited_of_run run
  refine ⟨audited.length, ?_, ?_, ⟨audited.connections_eq, audited.success_eq,
    audited.failed_eq⟩, ?_, ?_⟩
  · intro id task found
    have inRange := WarmupTask.toNat_roomFor inhabited id
    rw [← (audited.own found).1] at inRange
    refine ⟨inRange.1, inRange.2, ?_⟩
    by_cases finished : task.phase = .finished
    · obtain ⟨asked, _, atMost, _⟩ := audited.of_finished found finished
      rw [finished]
      exact ⟨asked, atMost⟩
    · obtain ⟨asked, _, atMost⟩ := audited.of_unfinished found finished
      exact ⟨asked, atMost⟩
  · intro room other holds holdsOther
    rw [audited.rooms_eq, audited.rooms_eq]
    exact WarmupTask.countP_roomFor_le inhabited holds holdsOther tasks
  · intro id task found finished
    obtain ⟨_, closed, _, _, complete, incomplete⟩ := audited.of_finished found finished
    exact ⟨complete, incomplete, closed⟩
  · intro id task found
    obtain ⟨_, _, _, bounded⟩ := audited.own found
    refine ⟨?_, by omega⟩
    intro runs
    have goes : task.moves last.view last.common.tally ≠ [] ∨ task.call?.isSome = true :=
      task.goes_on runs
    refine ⟨(audited.of_unfinished found runs).2.1, task, found, goes.imp ?_ fun waits => waits⟩
    intro moves
    exact fun none => moves (List.map_eq_nil_iff.mp none)

/-- Three tasks in the last two rooms; two of them share a channel, which one of them has
closed when the other sends, and the third cannot connect. -/
def sharedCourse : List (Cue WarmupState WarmupTask) :=
  [.answer 0 (.connected 0), .answer 1 (.connected 0), .answer 2 (.failed .notOpen), .move 0 0,
    .answer 0 .done, .move 0 0, .answer 0 .done, .move 1 0, .answer 1 (.failed .notOpen),
    .answer 1 .done]

theorem undisturbed_of_isInner (trace : List (Transition WarmupState WarmupTask))
    (transition : Transition WarmupState WarmupTask) (inner : transition.act.isInner = true) :
    undisturbed trace transition := by
  obtain ⟨before, act, after⟩ := transition
  cases act <;> trivial

def showsEnded (tally : WarmupTally) (last : Situation WarmupState WarmupTask) : Bool :=
  last.common.tally == tally && last.tasks.all fun task => task.phase == .finished

theorem tallies_of_run_of_shared :
    ∃ view trace last,
      warmup.Run undisturbed (launched 3 1 ⟨4294967294, 4294967295⟩ .fresh view) trace last ∧
      (∀ task ∈ last.tasks, task.phase = .finished ∧ task.room.toNat ≤ 4294967295) ∧
      last.common.tally = ⟨1, 2, 2⟩ ∧
      ((List.range 3).countP fun id => !(tell id trace).opened.isEmpty) = 2 ∧
      total (fun id => (tell id trace).delivered) (List.range 3) = 1 ∧
      ((List.range 3).countP fun id => ended last id && (tell id trace).errors != 0) = 2 ∧
      ∀ id < 3, (tell id trace).closed = (tell id trace).opened := by
  let view : View := ⟨0, fun _ => true⟩
  have replayed : (warmup.replay (fun _ transition => transition.act.isInner) []
      (launched 3 1 ⟨4294967294, 4294967295⟩ .fresh view) sharedCourse).any
        (fun ending => showsEnded ⟨1, 2, 2⟩ ending.2) = true := by
    decide +kernel
  obtain ⟨trace, last, run, shown⟩ := System.exists_run_of_replay undisturbed_of_isInner replayed
  simp only [showsEnded, Bool.and_eq_true, beq_iff_eq, List.all_eq_true] at shown
  obtain ⟨isTally, finished⟩ := shown
  obtain ⟨length, places, _, ⟨connections, success, failed⟩, ends, _⟩ :=
    tallies_of_run (by decide) run
  rw [isTally] at connections success failed
  refine ⟨view, trace, last, run, ?_, isTally, connections.symm, success.symm, failed.symm, ?_⟩
  · intro task member
    obtain ⟨id, found⟩ := List.mem_iff_getElem?.mp member
    exact ⟨finished task member, (places id task found).2.1⟩
  · intro id inRange
    rw [← length] at inRange
    have found := List.getElem?_eq_getElem inRange
    exact (ends id _ found (finished _ (List.getElem_mem inRange))).2.2

/-- A task that has nothing to send and cannot connect has failed, and has sent no fewer
messages than it was to send. -/
theorem not_fewer_of_refused :
    ¬ ∀ (tasks messages : Nat) (rooms : IdRange) (ledger : Ledger) (view : View)
      (trace : List (Transition WarmupState WarmupTask))
      (last : Situation WarmupState WarmupTask), rooms.isEmpty = false →
      warmup.Run undisturbed (launched tasks messages rooms ledger view) trace last →
      ∀ id task, last.tasks[id]? = some task → task.phase = .finished →
        (tell id trace).errors ≠ 0 → (tell id trace).delivered < messages := by
  intro always
  let view : View := ⟨0, fun _ => true⟩
  have replayed : (warmup.replay (fun _ transition => transition.act.isInner) []
      (launched 1 0 ⟨1, 1⟩ .fresh view) [.answer 0 (.failed .notOpen)]).any (fun ending =>
        (ending.2.tasks[0]?.any fun task => task.phase == .finished) &&
          (tell 0 ending.1).errors != 0) = true := by
    decide +kernel
  obtain ⟨trace, last, run, shown⟩ := System.exists_run_of_replay undisturbed_of_isInner replayed
  simp only [Bool.and_eq_true, Option.any_eq_true, beq_iff_eq, bne_iff_ne] at shown
  obtain ⟨⟨task, found, finished⟩, errors⟩ := shown
  have fewer :=
    always 1 0 ⟨1, 1⟩ .fresh view trace last (by decide) run 0 task found finished errors
  exact Nat.not_lt_zero _ fewer

end Warmup

end RoomLoad

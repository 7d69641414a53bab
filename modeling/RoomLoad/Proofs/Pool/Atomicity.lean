import RoomLoad.Proofs.Pool.Errands
import RoomLoad.Proofs.Runs.Replay
import RoomLoad.Proofs.Runs.Taken

/-!
# What a lookup leaves behind

A lookup waits up to three times, and other calls go on in between.  Still nobody else
touches its room while it works under the lock, so what it has found there it replaces
and closes, and a lookup that fails leaves everything as it is.
-/

namespace RoomLoad

instance decidableEqExcept {ε α : Type} [DecidableEq ε] [DecidableEq α] :
    DecidableEq (Except ε α)
  | .ok one, .ok other => decidable_of_iff' (one = other) (Iff.of_eq (Except.ok.injEq one other))
  | .error one, .error other =>
      decidable_of_iff' (one = other) (Iff.of_eq (Except.error.injEq one other))
  | .ok _, .error _ => isFalse (by simp)
  | .error _, .ok _ => isFalse (by simp)

deriving instance DecidableEq for Call, PoolCall

namespace Transition

/-- The channel that a step takes out of its room's place. -/
def replaced? (room : RoomId) (transition : Transition Desk PoolCall) : Option ChannelId :=
  (transition.before.common.pool.channel? room).filter fun channel =>
    transition.after.common.pool.channel? room != some channel

def closed (transition : Transition Desk PoolCall) : List ChannelId :=
  match transition.act with
  | .answer id _ =>
      match transition.before.tasks[id]?.bind PoolCall.call? with
      | some (.close channels) => channels
      | _ => []
  | _ => []

/-- Whether a step leaves the entries of all rooms as they are and closes nothing. -/
def Spares (transition : Transition Desk PoolCall) : Prop :=
  transition.after.common.pool.channels = transition.before.common.pool.channels ∧
    transition.closed = []

/-- A step puts a new channel in its room's place, and closes nothing yet. -/
structure Installs (room : RoomId) (fresh : ChannelId) (transition : Transition Desk PoolCall) :
    Prop where
  channels : transition.after.common.pool.channels =
    (transition.before.common.pool.install room fresh).channels
  closed : transition.closed = []

/-- A step finds that a room has no open channel. -/
def Misses (room : RoomId) (transition : Transition Desk PoolCall) : Prop :=
  transition.before.common.pool.openChannel? transition.before.view room = none

end Transition

/-- The channels that some steps have taken out of a room's place. -/
def replaced (room : RoomId) (steps : List (Transition Desk PoolCall)) : List ChannelId :=
  steps.filterMap (Transition.replaced? room)

def closed (steps : List (Transition Desk PoolCall)) : List ChannelId :=
  steps.flatMap Transition.closed

namespace Transition

variable {room : RoomId} {fresh stale : ChannelId} {transition : Transition Desk PoolCall}

theorem replaced?_eq_none (same : transition.after.common.pool.channels =
    transition.before.common.pool.channels) (room : RoomId) : transition.replaced? room = none := by
  rw [replaced?, Pool.channel?_congr same, Option.filter_eq_none_iff]
  intro channel held
  simp [held]

namespace Installs

theorem channel? (installs : transition.Installs room fresh) (other : RoomId) :
    transition.after.common.pool.channel? other =
      if other = room then some fresh else transition.before.common.pool.channel? other := by
  rw [Pool.channel?_congr installs.channels, Pool.channel?_install]

theorem replaced?_eq (installs : transition.Installs room fresh) :
    transition.replaced? room =
      (transition.before.common.pool.channel? room).filter fun stale => stale != fresh := by
  rw [replaced?, installs.channel? room, if_pos rfl]
  congr 1
  funext stale
  simp [bne, Bool.beq_comm]

theorem of_replaced? (installs : transition.Installs room fresh)
    (replaces : transition.replaced? room = some stale) :
    transition.before.common.pool.channel? room = some stale ∧ stale ≠ fresh := by
  rw [installs.replaced?_eq, Option.filter_eq_some_iff] at replaces
  exact ⟨replaces.1, by simpa using replaces.2⟩

end Installs

end Transition

namespace PoolCall

/-- Lookups and reopenings may be made by anybody at any time, and channels may be lost or
come back at any time, but nobody closes everything. -/
def withoutClearing : Rules Desk PoolCall := fun _ transition =>
  match transition.act with
  | .outside => False
  | .begin task => task.isFresh = true ∧ task ≠ .clearing
  | _ => True

variable {trace earlier : List (Transition Desk PoolCall)} {final : Transition Desk PoolCall}
  {before after start last : Situation Desk PoolCall} {act : Act PoolCall} {desk : Desk}
  {view : View} {id : TaskId} {room : RoomId}

theorem anyCalls_of_withoutClearing (trace : List (Transition Desk PoolCall))
    (transition : Transition Desk PoolCall) (allowed : withoutClearing trace transition) :
    anyCalls trace transition := by
  obtain ⟨before, act, after⟩ := transition
  cases act with
  | begin task => exact allowed.1
  | outside => exact allowed
  | _ => trivial

/-- Some own steps of a lookup have left everything as it was. -/
def Untouched (own : List (Transition Desk PoolCall)) : Prop :=
  ∀ moment ∈ own, moment.Spares

/-- A lookup has found the room without an open channel when this was its entry. -/
def Missed (room : RoomId) (own : List (Transition Desk PoolCall)) (entry : Option ChannelId) :
    Prop :=
  ∃ look ∈ own, look.Misses room ∧ look.before.common.pool.channel? room = entry

/-- What a lookup has done in its own steps, and how it stands to the entry of its room. -/
def Recorded (room : RoomId) (own : List (Transition Desk PoolCall)) (pool : Pool) :
    Lookup → Prop
  | .connecting => Untouched own ∧ Missed room own (pool.channel? room)
  | .closing fresh stale =>
      ∃ front install, own = front ++ [install] ∧ Untouched front ∧
        Missed room front (some stale) ∧ install.Installs room fresh ∧
        install.replaced? room = some stale ∧ pool.channel? room = some fresh
  | _ => Untouched own

theorem untouched_append {own : List (Transition Desk PoolCall)} (untouched : Untouched own)
    (spares : final.Spares) : Untouched (own ++ [final]) := by
  intro moment member
  rcases List.mem_append.mp member with earlier | last
  · exact untouched moment earlier
  · rw [List.mem_singleton.mp last]
    exact spares

theorem Untouched.closed_eq_nil {own : List (Transition Desk PoolCall)}
    (untouched : Untouched own) : closed own = [] := by
  rw [closed, List.flatMap_eq_nil_iff]
  exact fun moment member => (untouched moment member).2

theorem Untouched.replaced_eq_nil {own : List (Transition Desk PoolCall)}
    (untouched : Untouched own) (room : RoomId) : replaced room own = [] := by
  rw [replaced, List.filterMap_eq_nil_iff]
  exact fun moment member => Transition.replaced?_eq_none (untouched moment member).1 room

theorem Recorded.congr {own : List (Transition Desk PoolCall)} {pool later : Pool}
    {phase : Lookup} (recorded : Recorded room own pool phase)
    (same : phase.use = .inside → later.channel? room = pool.channel? room) :
    Recorded room own later phase := by
  cases phase with
  | connecting =>
      obtain ⟨untouched, missed⟩ := recorded
      refine ⟨untouched, ?_⟩
      rw [same rfl]
      exact missed
  | closing fresh stale =>
      obtain ⟨front, install, parts, untouched, missed, installs, replaces, held⟩ := recorded
      refine ⟨front, install, parts, untouched, missed, installs, replaces, ?_⟩
      rw [same rfl]
      exact held
  | _ => exact recorded

/-- A lookup that makes a move has left everything as it was. -/
theorem Recorded.untouched {own : List (Transition Desk PoolCall)} {pool : Pool}
    {phase : Lookup} (recorded : Recorded room own pool phase) (idle : phase.call? room = none) :
    Untouched own := by
  cases phase <;> first | exact recorded | contradiction

/-- Whoever changes an entry without closing everything works under the lock. -/
theorem Advances.channels_eq {pool later : Pool} {task next : PoolCall}
    (advances : Advances view pool later id act task next) (keeps : task ≠ clearing)
    (outside : task.use ≠ .inside) : later.channels = pool.channels := by
  obtain ⟨_, channels, _⟩ | ⟨room, fresh, rfl, _⟩ | ⟨rfl, _⟩ | ⟨call, answer, rfl, _⟩ :=
    advances.sort
  · exact channels
  · exact absurd rfl outside
  · exact absurd rfl keeps
  · cases advances with
    | calls call answer next channels => exact channels

/-- What holds at every moment of a run without a call that closes everything. -/
structure Orderly (trace : List (Transition Desk PoolCall)) (situation : Situation Desk PoolCall) :
    Prop where
  locked : Locked situation
  keeps : ∀ {id : TaskId} {task : PoolCall}, situation.tasks[id]? = some task → task ≠ clearing
  recorded : ∀ {id : TaskId} {room : RoomId} {phase : Lookup},
    situation.tasks[id]? = some (lookup room phase) →
      Recorded room (taken id trace) situation.common.pool phase

theorem keeps_of_step (keeps : ∀ {id : TaskId} {task : PoolCall},
      before.tasks[id]? = some task → task ≠ clearing)
    (step : poolCalls.Step before act after)
    (allowed : withoutClearing trace ⟨before, act, after⟩) {task : PoolCall}
    (found : after.tasks[id]? = some task) : task ≠ clearing := by
  cases turns_of_step step with
  | @goesOn other moving next acts foundOther advances moves =>
      rw [Situation.tasks_put foundOther] at found
      split at found
      case isTrue =>
        rw [← Option.some.inj found]
        rintro isClearing
        rw [isClearing] at advances
        cases advances with
        | calls call answer next channels returns finished => contradiction
      case isFalse => exact keeps found
  | frees common isOutside =>
      subst isOutside
      exact allowed.elim
  | counts common idle pool => exact keeps found
  | shifts view isShift => exact keeps found
  | begins started isBegin =>
      subst isBegin
      rcases Situation.mem_begin found with old | ⟨_, rfl⟩
      · exact keeps old
      · exact allowed.2

/-- What is left to a lookup once a step has put the new channel in its place: the channel
that was found there is closed, and nothing else. -/
def Closes (room : RoomId) (front : List (Transition Desk PoolCall))
    (rest : List (Transition Desk PoolCall)) : Option ChannelId → Prop
  | none => rest = []
  | some stale =>
      Missed room front (some stale) ∧ ∃ final, rest = [final] ∧
        final.after.common.pool.channels = final.before.common.pool.channels ∧
        final.closed = [stale]

/-- What a lookup has done in all its own steps once it has ended. -/
def Ended (room : RoomId) (own : List (Transition Desk PoolCall)) (pool : Pool) :
    Lookup.Result → Prop
  | .error _ => Untouched own ∧ Missed room own (pool.channel? room)
  | .ok channel =>
      pool.channel? room = some channel ∧
        (Untouched own ∨
          ∃ front install rest, own = front ++ install :: rest ∧ Untouched front ∧
            install.Installs room channel ∧ Closes room front rest (install.replaced? room))

/-- What a lookup of a room has come to. -/
def Told (room : RoomId) (own : List (Transition Desk PoolCall)) (pool : Pool) :
    PoolCall → Prop
  | lookup other phase => other = room ∧ Recorded room own pool phase
  | looked result => Ended room own pool result
  | _ => False

theorem closed_of_answer {answer : Answer} {task : PoolCall} (found : before.tasks[id]? = some task)
    (waits : ∀ channels, task.call? ≠ some (.close channels)) :
    Transition.closed ⟨before, .answer id answer, after⟩ = [] := by
  unfold Transition.closed
  dsimp only
  rw [found, Option.bind_some]
  split
  case h_1 channels closes => exact absurd closes (waits channels)
  case h_2 => rfl

theorem Recorded.acts {phase : Lookup} {own : List (Transition Desk PoolCall)} {next : PoolCall}
    (recorded : Recorded room own before.common.pool phase)
    (found : before.tasks[id]? = some (lookup room phase))
    (idle : act = .move id → phase.call? room = none)
    (advances : Advances before.view before.common.pool after.common.pool id act
      (lookup room phase) next) :
    Told room (own ++ [⟨before, act, after⟩]) after.common.pool next := by
  cases advances with
  | looks _ _ next channels isNext =>
      have untouched : Untouched (own ++ [⟨before, .move id, after⟩]) :=
        untouched_append (recorded.untouched (idle rfl)) ⟨channels, rfl⟩
      refine ⟨rfl, ?_⟩
      obtain rfl | rfl | rfl := isNext <;> exact untouched
  | gives _ _ channel channels isOpen =>
      obtain ⟨held, _⟩ := Option.filter_eq_some_iff.mp isOpen
      refine ⟨?_, .inl (untouched_append (recorded.untouched (idle rfl)) ⟨channels, rfl⟩)⟩
      rw [Pool.channel?_congr channels]
      exact held
  | connects _ channels missing =>
      refine ⟨rfl, untouched_append (recorded.untouched (idle rfl)) ⟨channels, rfl⟩, ?_⟩
      exact ⟨_, List.mem_append_right _ (List.mem_singleton_self _), missing,
        (Pool.channel?_congr channels room).symm⟩
  | installs _ fresh channels same =>
      have installs :
          Transition.Installs room fresh ⟨before, .answer id (.connected fresh), after⟩ :=
        ⟨channels, closed_of_answer found fun _ => nofun⟩
      refine ⟨(installs.channel? room).trans (if_pos rfl), .inr ⟨own, _, [], rfl, recorded.1,
        installs, ?_⟩⟩
      have nothing : Transition.replaced? room ⟨before, .answer id (.connected fresh), after⟩ =
          none := by
        rw [installs.replaced?_eq, Option.filter_eq_none_iff]
        intro stale held
        simp [same stale held]
      rw [nothing]
      rfl
  | replaces _ fresh stale channels held different =>
      obtain ⟨untouched, missed⟩ := recorded
      rw [held] at missed
      have installs :
          Transition.Installs room fresh ⟨before, .answer id (.connected fresh), after⟩ :=
        ⟨channels, closed_of_answer found fun _ => nofun⟩
      refine ⟨rfl, own, _, rfl, untouched, missed, installs, ?_,
        (installs.channel? room).trans (if_pos rfl)⟩
      rw [installs.replaced?_eq]
      simp [held, different]
  | refused _ fault channels =>
      obtain ⟨untouched, look, isOwn, misses, entry⟩ := recorded
      refine ⟨untouched_append untouched ⟨channels, closed_of_answer found fun _ => nofun⟩,
        look, List.mem_append_left _ isOwn, misses, ?_⟩
      rw [Pool.channel?_congr channels]
      exact entry
  | replaced _ fresh stale channels =>
      obtain ⟨front, install, rfl, untouched, missed, installs, replaces, held⟩ := recorded
      refine ⟨?_, .inr ⟨front, install, [_], List.append_assoc _ _ _, untouched, installs, ?_⟩⟩
      · rw [Pool.channel?_congr channels]
        exact held
      · rw [replaces]
        refine ⟨missed, _, rfl, channels, ?_⟩
        simp [Transition.closed, found, call?, Lookup.call?]

theorem Advances.lookup_before {pool later : Pool} {task : PoolCall} {phase : Lookup}
    (advances : Advances view pool later id act task (lookup room phase)) :
    ∃ before, task = lookup room before := by
  cases advances with
  | looks _ phase => exact ⟨phase, rfl⟩
  | connects => exact ⟨.rechecking, rfl⟩
  | replaces => exact ⟨.connecting, rfl⟩
  | calls _ _ _ _ _ finished => contradiction

theorem advances_of_acts (step : poolCalls.Step before act after) (acts : act.task? = some id) :
    ∃ task next, before.tasks[id]? = some task ∧ after = before.put id next ∧
      Advances before.view before.common.pool after.common.pool id act task next.2 := by
  cases turns_of_step step with
  | @goesOn other task next isOther found advances moves =>
      rw [isOther, Option.some.injEq] at acts
      subst acts
      exact ⟨task, next, found, rfl, advances⟩
  | frees common isOutside =>
      subst isOutside
      contradiction
  | counts common idle pool =>
      rw [idle] at acts
      contradiction
  | shifts view isShift =>
      subst isShift
      contradiction
  | begins task isBegin =>
      subst isBegin
      contradiction

theorem idle_of_step {phase : Lookup} (step : poolCalls.Step before act after)
    (found : before.tasks[id]? = some (lookup room phase)) (isMove : act = .move id) :
    phase.call? room = none := by
  subst isMove
  cases step with
  | move foundTask member =>
      rw [found, Option.some.injEq] at foundTask
      subst foundTask
      have idle : (lookup room phase).call? = none := call?_of_mem_moves member
      exact idle

namespace Orderly

theorem of_idle (idle : ∀ task ∈ start.tasks, task.isFresh = true ∧ task ≠ clearing)
    (locked : Locked start) : Orderly [] start where
  locked := locked
  keeps found := (idle _ (List.mem_of_getElem? found)).2
  recorded {id room phase} found := by
    have fresh := (idle _ (List.mem_of_getElem? found)).1
    have untouched : Untouched (taken id []) := fun moment member => nomatch member
    cases phase <;> first | exact untouched | contradiction

/-- Nobody else changes the entry of a room while a lookup works on it. -/
theorem channel?_eq (orderly : Orderly trace before) (step : poolCalls.Step before act after)
    (allowed : withoutClearing trace ⟨before, act, after⟩) {phase : Lookup}
    (found : before.tasks[id]? = some (lookup room phase)) (inside : phase.use = .inside)
    (others : act.task? ≠ some id) :
    after.common.pool.channel? room = before.common.pool.channel? room := by
  cases turns_of_step step with
  | @goesOn other task next acts foundOther advances moves =>
      refine Pool.channel?_congr (advances.channels_eq (orderly.keeps foundOther) ?_) room
      intro alsoInside
      have same := orderly.locked.only found foundOther inside alsoInside
      exact others (acts.trans (congrArg some same))
  | frees common isOutside =>
      subst isOutside
      exact allowed.elim
  | counts common idle pool =>
      dsimp only
      rw [pool]
  | shifts view isShift => rfl
  | begins task isBegin => rfl

theorem step (orderly : Orderly trace before)
    (run : poolCalls.Run withoutClearing start trace before)
    (step : poolCalls.Step before act after)
    (allowed : withoutClearing trace ⟨before, act, after⟩) :
    Orderly (trace ++ [⟨before, act, after⟩]) after where
  locked := locked_of_step orderly.locked step (anyCalls_of_withoutClearing _ _ allowed)
  keeps found := keeps_of_step orderly.keeps step allowed found
  recorded {id room phase} found := by
    by_cases own : act.task? = some id
    · obtain ⟨task, next, foundTask, rfl, advances⟩ := advances_of_acts step own
      rw [Situation.tasks_put_self foundTask, Option.some.injEq] at found
      rw [found] at advances
      obtain ⟨earlier, rfl⟩ := advances.lookup_before
      rw [taken_append_of_acts own]
      have idle := idle_of_step step foundTask
      have told := (orderly.recorded foundTask).acts foundTask idle advances
      exact told.2
    · rw [taken_append_of_ne own]
      have keeps : before.tasks[id]? = some (lookup room phase) →
          Recorded room (taken id trace) after.common.pool phase := fun old =>
        (orderly.recorded old).congr fun inside => orderly.channel?_eq step allowed old inside own
      rcases step.tasks_before found own with old | isBegin
      · exact keeps old
      · subst isBegin
        cases step
        rcases Situation.mem_begin found with old | ⟨atEnd, _⟩
        · exact keeps old
        · rw [run.taken_eq_nil (Nat.le_of_eq atEnd.symm)]
          have untouched : Untouched [] := fun moment member => nomatch member
          have fresh : (lookup room phase).isFresh = true := allowed.1
          cases phase <;> first | exact untouched | contradiction

end Orderly

theorem orderly_of_run (orderly : Orderly [] start)
    (run : poolCalls.Run withoutClearing start trace last) : Orderly trace last := by
  induction run with
  | rest => exact orderly
  | step run step allowed induction => exact induction.step run step allowed

namespace Ended

variable {own : List (Transition Desk PoolCall)} {pool : Pool} {result : Lookup.Result}
  {channel : ChannelId}

theorem channel?_of_ne (ended : Ended room own pool result)
    {moment : Transition Desk PoolCall} (member : moment ∈ own) {other : RoomId}
    (elsewhere : other ≠ room) :
    moment.after.common.pool.channel? other = moment.before.common.pool.channel? other := by
  have spared : Untouched own →
      moment.after.common.pool.channel? other = moment.before.common.pool.channel? other :=
    fun untouched => Pool.channel?_congr (untouched moment member).1 other
  cases result with
  | error fault => exact spared ended.1
  | ok channel =>
      obtain ⟨_, untouched | ⟨front, install, rest, rfl, untouched, installs, closes⟩⟩ := ended
      · exact spared untouched
      · rcases List.mem_append.mp member with earlier | later
        · exact Pool.channel?_congr (untouched moment earlier).1 other
        · rcases List.mem_cons.mp later with rfl | atEnd
          · rw [installs.channel? other, if_neg elsewhere]
          · unfold Closes at closes
            split at closes
            case h_1 =>
              rw [closes] at atEnd
              contradiction
            case h_2 =>
              obtain ⟨_, final, rfl, same, _⟩ := closes
              rw [List.mem_singleton.mp atEnd]
              exact Pool.channel?_congr same other

/-- What a lookup has taken out of its room's place is what it has closed. -/
theorem closed_eq (ended : Ended room own pool (.ok channel)) :
    closed own = replaced room own := by
  obtain ⟨_, untouched | ⟨front, install, rest, rfl, untouched, installs, closes⟩⟩ := ended
  · rw [untouched.closed_eq_nil, untouched.replaced_eq_nil room]
  · have nothing := untouched.closed_eq_nil
    have held := untouched.replaced_eq_nil room
    rw [closed] at nothing
    rw [replaced] at held
    rw [closed, replaced, List.flatMap_append, List.filterMap_append, nothing, held,
      List.nil_append, List.nil_append, List.flatMap_cons, installs.closed, List.filterMap_cons]
    cases replaces : install.replaced? room with
    | none =>
        rw [replaces] at closes
        rw [show rest = [] from closes]
        rfl
    | some stale =>
        rw [replaces] at closes
        obtain ⟨_, final, rfl, same, closing⟩ := closes
        simp [closing, Transition.replaced?_eq_none same room]

theorem of_replaced (ended : Ended room own pool (.ok channel)) {stale : ChannelId}
    (member : stale ∈ replaced room own) :
    stale ≠ channel ∧ ∃ front look back, own = front ++ look :: back ∧
      look.before.common.pool.channel? room = some stale ∧
      look.before.view.isOpen stale = false ∧ stale ∈ replaced room back := by
  obtain ⟨_, untouched | ⟨front, install, rest, rfl, untouched, installs, closes⟩⟩ := ended
  · rw [untouched.replaced_eq_nil room] at member
    contradiction
  · have held := untouched.replaced_eq_nil room
    rw [replaced] at held
    rw [replaced, List.filterMap_append, held, List.nil_append, List.filterMap_cons] at member
    cases replaces : install.replaced? room with
    | none =>
        rw [replaces] at closes member
        rw [show rest = [] from closes] at member
        contradiction
    | some other =>
        rw [replaces] at closes member
        obtain ⟨⟨look, isFront, misses, entry⟩, final, rfl, same, _⟩ := closes
        obtain rfl : stale = other := by
          simpa [Transition.replaced?_eq_none same room] using member
        obtain ⟨first, between, rfl⟩ := List.append_of_mem isFront
        refine ⟨(installs.of_replaced? replaces).2, first, look, between ++ [install, final],
          by simp, entry, ?_, ?_⟩
        · rw [Transition.Misses, Pool.openChannel?, entry] at misses
          simpa using misses
        · rw [replaced, List.mem_filterMap]
          exact ⟨install, by simp, replaces⟩

end Ended

/-- What a lookup has done in all its own steps is known when it ends. -/
theorem ended_of_run {phase : Lookup} {result : Lookup.Result} (orderly : Orderly [] start)
    (run : poolCalls.Run withoutClearing start (earlier ++ [final]) last)
    (asks : final.before.tasks[id]? = some (lookup room phase))
    (ends : last.tasks[id]? = some (looked result)) :
    Ended room (taken id (earlier ++ [final])) last.common.pool result := by
  have parts : earlier ++ [final] = earlier ++ final :: [] := rfl
  obtain ⟨reached, step, allowed⟩ := run.split parts
  have isLast : final.after = last := by
    rw [← run.reached_eq]
    simp [System.reached]
  subst isLast
  have earlierOrderly := orderly_of_run orderly reached
  have acts : final.act.task? = some id := by
    apply Classical.byContradiction
    intro others
    rw [step.tasks_of_ne asks others] at ends
    cases Option.some.inj ends
  obtain ⟨task, next, found, isNext, advances⟩ := advances_of_acts step acts
  rw [asks, Option.some.injEq] at found
  subst found
  rw [isNext, Situation.tasks_put_self asks, Option.some.injEq] at ends
  rw [ends] at advances
  rw [taken_append_of_acts acts]
  exact (earlierOrderly.recorded asks).acts asks (idle_of_step step asks) advances

def seeks (room : RoomId) : PoolCall → Prop
  | lookup other _ => other = room
  | looked (.ok _) => True
  | _ => False

theorem Advances.seeks {pool later : Pool} {task next : PoolCall}
    (advances : Advances view pool later id act task next) (seeks : task.seeks room)
    (succeeds : ∀ fault, act ≠ .answer id (.failed fault)) : next.seeks room := by
  cases advances with
  | looks => exact seeks
  | gives => trivial
  | connects => exact seeks
  | installs => trivial
  | replaces => exact seeks
  | refused _ fault => exact absurd rfl (succeeds fault)
  | replaced => trivial
  | _ => contradiction

theorem exists_success (call : Call) :
    ∃ answer, call.Returns answer ∧ ∀ fault, answer ≠ .failed fault := by
  cases call with
  | connect room => exact ⟨_, .connected room 0, nofun⟩
  | reconnect channel => exact ⟨_, .reconnected channel, nofun⟩
  | close channels => exact ⟨_, .closed channels, nofun⟩
  | send channel payload => exact ⟨_, .sent channel payload, nofun⟩
  | sleep duration => exact ⟨_, .slept duration, nofun⟩
  | wait deadline => exact ⟨_, .waited deadline, nofun⟩

/-- A call that can go on can do so without a failure, and has fewer steps to take then. -/
theorem exists_step_of_canGoOn {other : TaskId} (canGoOn : poolCalls.CanGoOn before other) :
    ∃ act after, poolCalls.Step before act after ∧
      total stepsLeft after.tasks < total stepsLeft before.tasks ∧
      act.task? = some other ∧ ∀ fault, act ≠ .answer other (.failed fault) := by
  obtain ⟨task, found, goes⟩ := canGoOn
  rcases goes with moves | waits
  · obtain ⟨next, member⟩ := List.exists_mem_of_ne_nil _ moves
    exact ⟨.move other, _, .move found member,
      total_stepsLeft_put found (stepsLeft_of_mem_moves member), rfl, nofun⟩
  · obtain ⟨call, isCall⟩ := Option.isSome_iff_exists.mp waits
    obtain ⟨answer, returns, succeeds⟩ := exists_success call
    refine ⟨.answer other answer, _, .answer found isCall returns,
      total_stepsLeft_put found (stepsLeft_resume isCall returns), rfl, ?_⟩
    intro fault same
    exact succeeds fault (by cases same; rfl)

theorem withoutClearing_of_acts (acts : act.task? = some id) :
    withoutClearing trace ⟨before, act, after⟩ := by
  cases act <;> trivial

theorem exists_served {task : PoolCall} (run : poolCalls.Run withoutClearing start trace before)
    (locked : Locked before) (found : before.tasks[id]? = some task) (seeks : task.seeks room) :
    ∃ more later channel, poolCalls.Run withoutClearing start (trace ++ more) later ∧
      later.tasks[id]? = some (looked (.ok channel)) := by
  induction bound : total stepsLeft before.tasks using Nat.strongRecOn
    generalizing trace before task with
  | ind left induction =>
      cases finished : task.hasEnded with
      | true =>
          cases task with
          | looked result =>
              cases result with
              | error fault => contradiction
              | ok channel => exact ⟨[], before, channel, by simpa using run, found⟩
          | _ => contradiction
      | false =>
          obtain ⟨other, canGoOn⟩ := exists_canGoOn locked found finished
          obtain ⟨act, after, step, shorter, acts, succeeds⟩ := exists_step_of_canGoOn canGoOn
          have allowed : withoutClearing trace ⟨before, act, after⟩ := withoutClearing_of_acts acts
          have stillLocked :=
            locked_of_step locked step (anyCalls_of_withoutClearing _ _ allowed)
          have goesOn : ∃ next, after.tasks[id]? = some next ∧ next.seeks room := by
            by_cases own : other = id
            · subst own
              obtain ⟨moving, next, foundMoving, rfl, advances⟩ := advances_of_acts step acts
              rw [found, Option.some.injEq] at foundMoving
              subst foundMoving
              refine ⟨next.2, ?_, advances.seeks seeks succeeds⟩
              exact Situation.tasks_put_self found _
            · have others : act.task? ≠ some id := by
                rw [acts]
                exact fun same => own (Option.some.inj same)
              exact ⟨task, step.tasks_of_ne found others, seeks⟩
          obtain ⟨next, foundNext, stillSeeks⟩ := goesOn
          obtain ⟨more, later, channel, served, given⟩ := induction _ (bound ▸ shorter)
            (.step run step allowed) stillLocked foundNext stillSeeks rfl
          exact ⟨⟨before, act, after⟩ :: more, later, channel, by simpa using served, given⟩

/-- Whoever looks up a room from now on can be given a channel. -/
theorem exists_served_later (run : poolCalls.Run withoutClearing start trace last)
    (locked : Locked last) (room : RoomId) :
    ∃ more later channel, poolCalls.Run withoutClearing start (trace ++ more) later ∧
      more.head?.map Transition.act = some (.begin (lookup room .looking)) ∧
      later.tasks[last.tasks.length]? = some (looked (.ok channel)) := by
  let after := { last with tasks := last.tasks ++ [lookup room .looking] }
  have asked : poolCalls.Step last (.begin (lookup room .looking)) after := .begin _
  have allowed : withoutClearing trace ⟨last, .begin (lookup room .looking), after⟩ :=
    ⟨rfl, nofun⟩
  have stillLocked := locked_of_step locked asked (anyCalls_of_withoutClearing _ _ allowed)
  have found : after.tasks[last.tasks.length]? = some (lookup room .looking) :=
    List.getElem?_concat_length
  have fresh : (lookup room .looking).seeks room := rfl
  obtain ⟨more, later, channel, served, given⟩ :=
    exists_served (.step run asked allowed) stillLocked found fresh
  exact ⟨_ :: more, later, channel, by simpa using served, rfl, given⟩

/-- A lookup that has failed has changed no entry and closed nothing, and its room has the entry
that it had when the lookup found no open channel there.  One that has been given a channel has
changed no other room's entry; the channel is its room's own then, and what it has taken out
for it is another channel that it had found there and not open, and that it has closed, as the
only one.  Either way it has left the lock to others, and whoever looks up a room from then on
can be given a channel. -/
theorem atomic_of_run {phase : Lookup} {result : Lookup.Result} (free : desk.pool.lock = .free)
    (run : poolCalls.Run withoutClearing ⟨desk, [], view⟩ (earlier ++ [final]) last)
    (asks : final.before.tasks[id]? = some (lookup room phase))
    (ends : last.tasks[id]? = some (looked result)) :
    let own := taken id (earlier ++ [final])
    (∀ fault, result = .error fault →
      (∀ moment ∈ own,
        moment.after.common.pool.channels = moment.before.common.pool.channels) ∧
      closed own = [] ∧
      ∃ look ∈ own, look.before.common.pool.openChannel? look.before.view room = none ∧
        look.before.common.pool.channel? room = last.common.pool.channel? room) ∧
    (∀ moment ∈ own, ∀ other, other ≠ room →
      moment.after.common.pool.channel? other = moment.before.common.pool.channel? other) ∧
    (∀ channel, result = .ok channel →
      last.common.pool.channel? room = some channel ∧ closed own = replaced room own ∧
      ∀ stale ∈ replaced room own, stale ≠ channel ∧
        ∃ front look back, own = front ++ look :: back ∧
          look.before.common.pool.channel? room = some stale ∧
          look.before.view.isOpen stale = false ∧ stale ∈ replaced room back) ∧
    id ∉ last.common.pool.lock.line ∧
    ∀ other, ∃ more later channel,
      poolCalls.Run withoutClearing ⟨desk, [], view⟩ (earlier ++ [final] ++ more) later ∧
      more.head?.map Transition.act = some (.begin (lookup other .looking)) ∧
      later.tasks[last.tasks.length]? = some (looked (.ok channel)) := by
  intro own
  have unused : Locked (⟨desk, [], view⟩ : Situation Desk PoolCall) := by
    unfold Locked
    dsimp only
    rw [free]
    exact CreationLock.serves_free fun _ => rfl
  have orderly : Orderly [] (⟨desk, [], view⟩ : Situation Desk PoolCall) :=
    .of_idle (fun _ member => nomatch member) unused
  have locked := (orderly_of_run orderly run).locked
  have ended := ended_of_run orderly run asks ends
  refine ⟨?_, fun moment member other elsewhere => ended.channel?_of_ne member elsewhere, ?_, ?_,
    fun other => exists_served_later run locked other⟩
  · rintro fault rfl
    obtain ⟨untouched, missed⟩ := ended
    exact ⟨fun moment member => (untouched moment member).1, untouched.closed_eq_nil, missed⟩
  · rintro channel rfl
    exact ⟨ended.1, ended.closed_eq, fun stale member => ended.of_replaced member⟩
  · rw [locked.asked, Situation.uses, ends]
    exact fun contrary => contrary rfl

/-- The rules under which a lookup is replayed: calls go on, and others look up rooms. -/
def onlyLookups (_ : List (Transition Desk PoolCall)) (transition : Transition Desk PoolCall) :
    Bool :=
  match transition.act with
  | .begin (lookup _ .looking) => true
  | act => act.isInner

theorem withoutClearing_of_onlyLookups (trace : List (Transition Desk PoolCall))
    (transition : Transition Desk PoolCall) (allowed : onlyLookups trace transition = true) :
    withoutClearing trace transition := by
  obtain ⟨before, act, after⟩ := transition
  unfold onlyLookups at allowed
  split at allowed
  case h_1 room isBegin =>
    cases isBegin
    exact ⟨rfl, nofun⟩
  case h_2 =>
    cases act <;> trivial

/-- A lookup finds a channel in its room's place that is not open, and connects; another
lookup waits for the lock meanwhile. -/
def staleCourse : List (Cue Desk PoolCall) :=
  [Cue.begin (lookup 1 .looking), Cue.begin (lookup 2 .looking)] ++
    List.replicate 4 (Cue.move 0 0) ++ List.replicate 2 (Cue.move 1 0)

/-- What a run shows in whose last step the first call ends, after it has closed some
channels. -/
def showsEnd (phase : Lookup) (result : Lookup.Result) (channels : List ChannelId)
    (trace : List (Transition Desk PoolCall)) (last : Situation Desk PoolCall) : Bool :=
  (trace.getLast?.any fun final => final.before.tasks[0]? == some (lookup 1 phase)) &&
    last.tasks[0]? == some (looked result) && closed (taken 0 trace) == channels

def staleDesk : Desk := { Desk.fresh ⟨0, .empty, 0, 0⟩ false with pool := ⟨[(1, 0)], .free⟩ }

/-- A lookup whose connect returns can be seen to end. -/
theorem exists_end_of_stale {phase : Lookup} {result : Lookup.Result}
    {channels : List ChannelId} {answers : List (Cue Desk PoolCall)}
    (replayed : (poolCalls.replay onlyLookups [] ⟨staleDesk, [], showing []⟩
      (staleCourse ++ answers)).any
        (fun ending => showsEnd phase result channels ending.1 ending.2) = true) :
    ∃ earlier final last,
      poolCalls.Run withoutClearing ⟨staleDesk, [], showing []⟩ (earlier ++ [final]) last ∧
      final.before.tasks[0]? = some (lookup 1 phase) ∧ last.tasks[0]? = some (looked result) ∧
      closed (taken 0 (earlier ++ [final])) = channels := by
  obtain ⟨trace, last, run, shown⟩ :=
    System.exists_run_of_replay withoutClearing_of_onlyLookups replayed
  simp only [showsEnd, Bool.and_eq_true, Option.any_eq_true, beq_iff_eq] at shown
  obtain ⟨⟨⟨final, isFinal, asks⟩, ends⟩, same⟩ := shown
  obtain ⟨earlier, rfl⟩ := List.getLast?_eq_some_iff.mp isFinal
  exact ⟨earlier, final, last, run, asks, ends, same⟩

/-- A lookup finds a channel that is not open.  It fails and leaves it in its place; or it
replaces and closes it; or it is given the same one again, and does not close it. -/
theorem atomic_of_run_of_stale :
    (∃ earlier final last fault,
      poolCalls.Run withoutClearing ⟨staleDesk, [], showing []⟩ (earlier ++ [final]) last ∧
      last.tasks[0]? = some (looked (.error fault)) ∧
      (∀ moment ∈ taken 0 (earlier ++ [final]),
        moment.after.common.pool.channels = moment.before.common.pool.channels) ∧
      closed (taken 0 (earlier ++ [final])) = [] ∧ 0 ∉ last.common.pool.lock.line) ∧
    (∃ earlier final last,
      poolCalls.Run withoutClearing ⟨staleDesk, [], showing []⟩ (earlier ++ [final]) last ∧
      last.tasks[0]? = some (looked (.ok 1)) ∧ last.common.pool.channel? 1 = some 1 ∧
      closed (taken 0 (earlier ++ [final])) = [0] ∧
      replaced 1 (taken 0 (earlier ++ [final])) = [0]) ∧
    ∃ earlier final last,
      poolCalls.Run withoutClearing ⟨staleDesk, [], showing []⟩ (earlier ++ [final]) last ∧
      last.tasks[0]? = some (looked (.ok 0)) ∧ last.common.pool.channel? 1 = some 0 ∧
      closed (taken 0 (earlier ++ [final])) = [] := by
  refine ⟨?_, ?_, ?_⟩
  · have replayed : (poolCalls.replay onlyLookups [] ⟨staleDesk, [], showing []⟩
        (staleCourse ++ [Cue.answer 0 (.failed .notOpen)])).any (fun ending =>
          showsEnd .connecting (.error .notOpen) [] ending.1 ending.2) = true := by
      decide +kernel
    obtain ⟨earlier, final, last, run, asks, ends, _⟩ := exists_end_of_stale replayed
    obtain ⟨fails, _, _, away, _⟩ := atomic_of_run rfl run asks ends
    obtain ⟨untouched, nothing, _⟩ := fails .notOpen rfl
    exact ⟨earlier, final, last, .notOpen, run, ends, untouched, nothing, away⟩
  · have replayed : (poolCalls.replay onlyLookups [] ⟨staleDesk, [], showing []⟩
        (staleCourse ++ [Cue.answer 0 (.connected 1), Cue.answer 0 .done])).any (fun ending =>
          showsEnd (.closing 1 0) (.ok 1) [0] ending.1 ending.2) = true := by
      decide +kernel
    obtain ⟨earlier, final, last, run, asks, ends, same⟩ := exists_end_of_stale replayed
    obtain ⟨_, _, succeeds, _, _⟩ := atomic_of_run rfl run asks ends
    obtain ⟨held, isReplaced, _⟩ := succeeds 1 rfl
    exact ⟨earlier, final, last, run, ends, held, same, isReplaced ▸ same⟩
  · have replayed : (poolCalls.replay onlyLookups [] ⟨staleDesk, [], showing []⟩
        (staleCourse ++ [Cue.answer 0 (.connected 0)])).any (fun ending =>
          showsEnd .connecting (.ok 0) [] ending.1 ending.2) = true := by
      decide +kernel
    obtain ⟨earlier, final, last, run, asks, ends, same⟩ := exists_end_of_stale replayed
    obtain ⟨_, _, succeeds, _, _⟩ := atomic_of_run rfl run asks ends
    exact ⟨earlier, final, last, run, ends, (succeeds 0 rfl).1, same⟩

end PoolCall

end RoomLoad

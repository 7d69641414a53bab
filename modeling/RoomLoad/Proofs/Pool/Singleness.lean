import RoomLoad.Proofs.Pool.Clients
import RoomLoad.Proofs.Runs.Replay

/-!
# One open channel for each room

A room has one open channel at most, and closing everything leaves none open, as long
as no reopening reconnects a channel that the pool has replaced in the meantime.  A
reopening only asks whether its channel is open, not whether the pool still holds it;
a replaced channel that it reconnects stays open beside the room's own, and nobody
closes it any more.
-/

namespace RoomLoad

/-- A reopening opens a channel that the pool does not hold any more. -/
def Transition.Revives (transition : Transition Desk PoolCall) : Prop :=
  ∃ channel, PoolCall.reopening channel .reconnecting ∈ transition.before.tasks ∧
    transition.before.view.isOpen channel = false ∧
    transition.after.view.isOpen channel = true ∧
    ∀ room, transition.before.common.pool.channel? room ≠ some channel

/-- The call that closes everything returns. -/
def Transition.ClosesAll (transition : Transition Desk PoolCall) : Prop :=
  ∃ id channels, transition.act = .answer id .done ∧
    transition.before.tasks[id]? = some (.direct (.close channels))

namespace PoolCall

/-- Every open channel that was handed out for a room is the room's own, or it is being
closed with all the others. -/
def Single (trace : List (Transition Desk PoolCall)) (situation : Situation Desk PoolCall) :
    Prop :=
  ∀ entry ∈ handedOut trace, situation.view.isOpen entry.2 = true →
    situation.common.pool.channel? entry.1 = some entry.2 ∨
      ∃ task ∈ situation.tasks, entry.2 ∈ task.closing

/-- All open channels are accounted for. -/
structure Tidy (trace : List (Transition Desk PoolCall)) (situation : Situation Desk PoolCall) :
    Prop where
  kept : ∀ {room : RoomId} {channel : ChannelId}, (room, channel) ∈ connected trace →
    situation.view.isOpen channel = true →
    situation.common.pool.channel? room = some channel ∨
      ∃ task ∈ situation.tasks, channel ∈ task.closing
  one : ∀ {room : RoomId} {channel other : ChannelId}, (room, channel) ∈ connected trace →
    (room, other) ∈ connected trace → situation.view.isOpen channel = true →
    situation.view.isOpen other = true → channel = other

variable {trace : List (Transition Desk PoolCall)} {transition : Transition Desk PoolCall}
  {before after last : Situation Desk PoolCall} {act : Act PoolCall} {desk : Desk} {view : View}

theorem tidy_unused (desk : Desk) (view : View) : Tidy [] (unused desk view) := by
  constructor
  case kept =>
    intro room channel made
    contradiction
  case one =>
    intro room channel other made
    contradiction

theorem closing_put {id : TaskId} {task : PoolCall} {next : Desk × PoolCall}
    (found : before.tasks[id]? = some task) (idle : task.isClearing = false)
    {channel : ChannelId} (closes : ∃ other ∈ before.tasks, channel ∈ other.closing) :
    ∃ other ∈ (before.put id next).tasks, channel ∈ other.closing := by
  obtain ⟨other, member, inside⟩ := closes
  obtain ⟨place, foundOther⟩ := List.mem_iff_getElem?.mp member
  by_cases same : id = place
  · subst same
    rw [found, Option.some.injEq] at foundOther
    rw [← foundOther, closing_eq_nil idle] at inside
    contradiction
  · have stays : (before.put id next).tasks[place]? = some other := by
      rw [Situation.tasks_put_of_ne same]
      exact foundOther
    exact ⟨other, List.mem_of_getElem? stays, inside⟩

theorem connected?_eq_none {id : TaskId} (acts : act.task? = some id)
    (makes : ∀ channel, act ≠ .answer id (.connected channel)) :
    Transition.connected? ⟨before, act, after⟩ = none := by
  cases act with
  | answer other answer =>
      cases acts
      cases answer with
      | connected channel => exact absurd rfl (makes channel)
      | _ => rfl
  | _ => rfl

/-- Whatever is being closed is being closed by the call that is under way. -/
theorem closing_of_runs (sound : Sound trace before) {id : TaskId} {task : PoolCall}
    (found : before.tasks[id]? = some task) (runs : task.hasEnded = false) {channel : ChannelId}
    (closes : ∃ other ∈ before.tasks, channel ∈ other.closing) : channel ∈ task.closing := by
  obtain ⟨other, member, inside⟩ := closes
  obtain ⟨place, foundOther⟩ := List.mem_iff_getElem?.mp member
  by_cases same : place = id
  · rw [same, found, Option.some.injEq] at foundOther
    rw [foundOther]
    exact inside
  · rw [closing_eq_nil (sound.idle found runs foundOther same)] at inside
    contradiction

/-- Once all that was in the pool is closed, nothing that was ever made is open. -/
theorem shut_of_closed (sound : Sound trace before) (tidy : Tidy trace before) {id : TaskId}
    {channels : List ChannelId} (found : before.tasks[id]? = some (direct (.close channels)))
    (shut : ∀ channel ∈ channels, before.view.isOpen channel = false)
    {entry : RoomId × ChannelId} (made : entry ∈ connected trace) :
    before.view.isOpen entry.2 = false := by
  cases opens : before.view.isOpen entry.2 with
  | false => rfl
  | true =>
      obtain ⟨_, empty⟩ := sound.fits found
      rcases tidy.kept made opens with pooled | closes
      · rw [Pool.channel?, empty] at pooled
        contradiction
      · rw [← opens]
        exact shut _ (closing_of_runs sound found rfl closes)

theorem shut_of_allows {id : TaskId} {channels : List ChannelId}
    (allowed : allows trace ⟨before, .answer id .done, after⟩ = true)
    (found : before.tasks[id]? = some (direct (.close channels))) :
    ∀ channel ∈ channels, before.view.isOpen channel = false := by
  intro channel member
  have closed : ((before.tasks[id]?.elim [] closing).all fun channel =>
      !before.view.isOpen channel) = true := allowed
  rw [found] at closed
  have shut := List.all_eq_true.mp closed channel member
  simpa using shut

namespace Tidy

variable {id : TaskId} {task : PoolCall} {next : Desk × PoolCall}

theorem of_pooled (pooled : ∀ {room : RoomId} {channel : ChannelId},
      (room, channel) ∈ connected trace → after.view.isOpen channel = true →
      after.common.pool.channel? room = some channel) :
    Tidy trace after := by
  constructor
  case kept =>
    intro room channel made opens
    exact .inl (pooled made opens)
  case one =>
    intro room channel other madeChannel madeOther opens alsoOpens
    have first := pooled madeChannel opens
    have second := pooled madeOther alsoOpens
    rw [first] at second
    exact Option.some.inj second

/-- Nothing is being closed while a call is under way that closes nothing. -/
theorem pooled (tidy : Tidy trace before) (sound : Sound trace before)
    (found : before.tasks[id]? = some task) (runs : task.hasEnded = false)
    (nothing : task.closing = []) {room : RoomId} {channel : ChannelId}
    (made : (room, channel) ∈ connected trace) (opens : before.view.isOpen channel = true) :
    before.common.pool.channel? room = some channel := by
  rcases tidy.kept made opens with pooled | closes
  · exact pooled
  · have inside := closing_of_runs sound found runs closes
    rw [nothing] at inside
    contradiction

theorem quiet (tidy : Tidy trace before)
    (makes : Transition.connected? ⟨before, act, after⟩ = none)
    (view : after.view = before.view)
    (channels : after.common.pool.channels = before.common.pool.channels)
    (closing : ∀ channel, (∃ task ∈ before.tasks, channel ∈ task.closing) →
      ∃ task ∈ after.tasks, channel ∈ task.closing) :
    Tidy (trace ++ [⟨before, act, after⟩]) after := by
  have same : connected (trace ++ [⟨before, act, after⟩]) = connected trace :=
    connected_append_of_none makes
  constructor
  case kept =>
    intro room channel made opens
    rw [same] at made
    rw [view] at opens
    rw [Pool.channel?_congr channels]
    rcases tidy.kept made opens with pooled | closes
    · exact .inl pooled
    · exact .inr (closing channel closes)
  case one =>
    intro room channel other madeChannel madeOther opens alsoOpens
    rw [same] at madeChannel madeOther
    rw [view] at opens alsoOpens
    exact tidy.one madeChannel madeOther opens alsoOpens

/-- A new channel takes the place of one that is not open. -/
theorem installs (tidy : Tidy trace before) (sound : Sound trace before) {room : RoomId}
    {fresh : ChannelId} (found : before.tasks[id]? = some (lookup room .connecting))
    (channels : next.1.pool.channels = (before.common.pool.install room fresh).channels) :
    Tidy (trace ++ [⟨before, .answer id (.connected fresh), before.put id next⟩])
      (before.put id next) := by
  apply of_pooled
  intro other channel made opens
  rw [Situation.put, Pool.channel?_congr channels, Pool.channel?_install]
  rcases mem_connected_append.mp made with earlier | now
  · have holds := tidy.pooled sound found rfl rfl earlier opens
    by_cases same : other = room
    · have shut := sound.fits found channel (same ▸ holds)
      have alsoOpen : before.view.isOpen channel = true := opens
      rw [shut] at alsoOpen
      contradiction
    · rw [if_neg same]
      exact holds
  · simp only [Transition.connected?, found, Option.some.injEq, Prod.mk.injEq] at now
    rw [if_pos now.1.symm, now.2]

theorem clears (tidy : Tidy trace before) (sound : Sound trace before)
    (found : before.tasks[id]? = some clearing)
    (closes : next.2 = direct (.close (before.common.pool.channels.map Prod.snd))) :
    Tidy (trace ++ [⟨before, .move id, before.put id next⟩]) (before.put id next) := by
  have same : connected (trace ++ [⟨before, .move id, before.put id next⟩]) = connected trace :=
    connected_append_of_none rfl
  constructor
  case kept =>
    intro room channel made opens
    rw [same] at made
    have holds := tidy.pooled sound found rfl rfl made opens
    have own : (before.put id next).tasks[id]? = some next.2 :=
      Situation.tasks_put_self found _
    refine .inr ⟨next.2, List.mem_of_getElem? own, ?_⟩
    rw [closes]
    exact Pool.mem_of_channel? holds
  case one =>
    intro room channel other madeChannel madeOther opens alsoOpens
    rw [same] at madeChannel madeOther
    exact tidy.one madeChannel madeOther opens alsoOpens

/-- Channels are dropped, or the room's own is reconnected. -/
theorem shifts (tidy : Tidy trace before) (sound : Sound trace before) {view : View}
    (allowed : allows trace ⟨before, .shift, { before with view := view }⟩ = true)
    (whole : ¬ Transition.Revives ⟨before, .shift, { before with view := view }⟩) :
    Tidy (trace ++ [⟨before, .shift, { before with view := view }⟩])
      { before with view := view } := by
  have same : connected (trace ++ [⟨before, .shift, { before with view := view }⟩]) =
      connected trace := connected_append_of_none rfl
  by_cases reconnects : ∃ channel, reopening channel .reconnecting ∈ before.tasks
  · obtain ⟨own, member⟩ := reconnects
    obtain ⟨place, found⟩ := List.mem_iff_getElem?.mp member
    apply of_pooled
    intro room channel made opens
    rw [same] at made
    cases opened : before.view.isOpen channel with
    | true => exact tidy.pooled sound found rfl rfl made opened
    | false =>
        have isReopened := reconnecting_of_opened allowed made opened opens
        have held : ∃ other, before.common.pool.channel? other = some channel :=
          Classical.byContradiction fun nowhere =>
            whole ⟨channel, isReopened, opened, opens, fun other holds => nowhere ⟨other, holds⟩⟩
        obtain ⟨other, holds⟩ := held
        rw [sound.once made (sound.pooled holds)]
        exact holds
  · have stays : ∀ {entry : RoomId × ChannelId}, entry ∈ connected trace →
        view.isOpen entry.2 = true → before.view.isOpen entry.2 = true := by
      intro entry made opens
      cases opened : before.view.isOpen entry.2 with
      | true => rfl
      | false => exact absurd ⟨_, reconnecting_of_opened allowed made opened opens⟩ reconnects
    constructor
    case kept =>
      intro room channel made opens
      rw [same] at made
      exact tidy.kept made (stays made opens)
    case one =>
      intro room channel other madeChannel madeOther opens alsoOpens
      rw [same] at madeChannel madeOther
      exact tidy.one madeChannel madeOther (stays madeChannel opens) (stays madeOther alsoOpens)

theorem step (tidy : Tidy trace before) (sound : Sound trace before)
    (turns : Turns before act after) (allowed : allows trace ⟨before, act, after⟩ = true)
    (whole : ¬ Transition.Revives ⟨before, act, after⟩) :
    Tidy (trace ++ [⟨before, act, after⟩]) after := by
  cases turns with
  | frees common outside =>
      subst outside
      contradiction
  | counts common idle pool =>
      have makes :
          Transition.connected? ⟨before, act, { before with common := common }⟩ = none := by
        cases act <;> first | rfl | contradiction
      exact tidy.quiet makes rfl (congrArg Pool.channels pool) fun _ closes => closes
  | shifts view isShift =>
      subst isShift
      exact tidy.shifts sound allowed whole
  | begins task isBegin =>
      subst isBegin
      refine tidy.quiet rfl rfl rfl ?_
      intro channel closes
      obtain ⟨other, member, inside⟩ := closes
      exact ⟨other, List.mem_append_left _ member, inside⟩
  | @goesOn id task next acts found advances moves =>
      obtain ⟨idle, channels, makes⟩ | ⟨room, fresh, rfl, rfl, channels, _⟩ |
        ⟨rfl, rfl, closes⟩ | ⟨call, answer, rfl, rfl, returns⟩ := advances.sort
      · refine tidy.quiet (connected?_eq_none acts makes) rfl channels ?_
        intro channel closes
        exact closing_put found idle closes
      · exact tidy.installs sound found channels
      · exact tidy.clears sound found closes
      · obtain ⟨⟨closed, rfl⟩, _⟩ := sound.fits found
        cases returns
        have shut := shut_of_allows allowed found
        apply of_pooled
        intro room channel made opens
        rw [connected_append_of_none rfl] at made
        have closed := shut_of_closed sound tidy found shut made
        have alsoOpen : before.view.isOpen channel = true := opens
        rw [closed] at alsoOpen
        contradiction

end Tidy

theorem tidy_of_run (run : poolCalls.Run rules (unused desk view) trace last)
    (whole : ∀ transition ∈ trace, ¬ transition.Revives) : Tidy trace last := by
  induction run with
  | rest => exact tidy_unused desk view
  | step run step allowed induction =>
      have earlier := induction fun transition member =>
        whole transition (List.mem_append_left _ member)
      exact earlier.step (sound_of_run run) (turns_of_step step) allowed (whole _ (by simp))

theorem single_of_tidy (sound : Sound trace last) (tidy : Tidy trace last) :
    Single trace last := by
  intro entry given opens
  exact tidy.kept (sound.handed given) opens

/-- A channel that is reopened after the pool has replaced it is nobody's. -/
theorem not_single_of_revives (sound : Sound trace before) (turns : Turns before act after)
    (revives : Transition.Revives ⟨before, act, after⟩) :
    ¬ Single (trace ++ [⟨before, act, after⟩]) after := by
  intro single
  obtain ⟨channel, reconnects, shut, opens, nowhere⟩ := revives
  dsimp only at reconnects shut opens nowhere
  obtain ⟨id, found⟩ := List.mem_iff_getElem?.mp reconnects
  obtain ⟨room, given⟩ := sound.fits found
  have contrary : before.view.isOpen channel ≠ true := by
    rw [shut]
    exact Bool.false_ne_true
  cases turns with
  | goesOn => exact contrary opens
  | frees => exact contrary opens
  | counts => exact contrary opens
  | begins => exact contrary opens
  | shifts view =>
      rcases single (room, channel) (mem_handedOut_append.mpr (.inl given)) opens with
        pooled | closes
      · exact nowhere room pooled
      · have inside := closing_of_runs sound found rfl closes
        contradiction

theorem shut_of_closesAll (sound : Sound trace before) (tidy : Tidy trace before)
    (turns : Turns before act after) (allowed : allows trace ⟨before, act, after⟩ = true)
    (closes : Transition.ClosesAll ⟨before, act, after⟩) {entry : RoomId × ChannelId}
    (made : entry ∈ connected (trace ++ [⟨before, act, after⟩])) :
    after.view.isOpen entry.2 = false := by
  obtain ⟨id, channels, rfl, found⟩ := closes
  rw [connected_append_of_none rfl] at made
  have shut := shut_of_closed sound tidy found (shut_of_allows allowed found) made
  cases turns with
  | goesOn => exact shut
  | counts => exact shut
  | frees common isOutside => contradiction
  | shifts view isShift => contradiction
  | begins task isBegin => contradiction

/-- Every open channel that was handed out is its room's own, in every situation of a
run, exactly if no reopening in it opens a channel that the pool has replaced.  In such
a run no room has two open channels, and closing everything leaves none open. -/
theorem single_iff_of_run (run : poolCalls.Run rules (unused desk view) trace last) :
    ((∀ earlier situation, earlier <+: trace →
          poolCalls.Run rules (unused desk view) earlier situation → Single earlier situation) ↔
        ∀ transition ∈ trace, ¬ transition.Revives) ∧
      ((∀ transition ∈ trace, ¬ transition.Revives) →
        (∀ room channel other, (room, channel) ∈ handedOut trace →
          (room, other) ∈ handedOut trace → last.view.isOpen channel = true →
          last.view.isOpen other = true → channel = other) ∧
        ∀ earlier transition, trace = earlier ++ [transition] → transition.ClosesAll →
          ∀ entry ∈ handedOut trace, last.view.isOpen entry.2 = false) := by
  refine ⟨⟨?_, ?_⟩, ?_⟩
  · intro single transition member revives
    obtain ⟨earlier, reached, step, allowed, isPrefix⟩ := run.upTo member
    have after := single _ _ isPrefix (.step reached step allowed)
    exact not_single_of_revives (sound_of_run reached) (turns_of_step step) revives after
  · intro whole earlier situation isPrefix reached
    refine single_of_tidy (sound_of_run reached) (tidy_of_run reached ?_)
    intro transition member
    exact whole transition (isPrefix.subset member)
  · intro whole
    have sound := sound_of_run run
    have tidy := tidy_of_run run whole
    constructor
    · intro room channel other given alsoGiven
      exact tidy.one (sound.handed given) (sound.handed alsoGiven)
    · intro earlier transition ends closes entry given
      cases run with
      | rest =>
          have absent := congrArg List.length ends
          simp at absent
      | @step trace before last act run step allowed =>
          obtain ⟨rfl, same⟩ := List.append_inj' ends rfl
          cases same
          have before := tidy_of_run run fun transition member =>
            whole transition (List.mem_append_left _ member)
          exact shut_of_closesAll (sound_of_run run) before (turns_of_step step) allowed closes
            (sound.handed given)

/-- A lobby loses its channel and gets a new one; then whoever still has the old channel
reopens it, and everything is closed. -/
def replacedCourse : List (Cue Desk PoolCall) :=
  Cue.begin (lookup 1 .looking) :: List.replicate 4 (Cue.move 0 0) ++
    [Cue.shift (showing [0]), Cue.answer 0 (.connected 0), Cue.shift (showing []),
      Cue.begin (lookup 1 .looking)] ++ List.replicate 4 (Cue.move 1 0) ++
    [Cue.shift (showing [1]), Cue.answer 1 (.connected 1), Cue.answer 1 .done,
      Cue.begin (reopening 0 .asking)] ++ List.replicate 3 (Cue.move 2 0) ++
    [Cue.shift (showing [0, 1]), Cue.answer 2 .done, Cue.begin clearing, Cue.move 3 0,
      Cue.shift (showing [0]), Cue.answer 3 .done]

/-- What a run shows that ends with an open channel that nobody has any more. -/
def showsReplaced (trace : List (Transition Desk PoolCall)) (last : Situation Desk PoolCall) :
    Bool :=
  handedOut trace == [(1, 0), (1, 1)] && last.tasks.all hasEnded &&
    last.common.pool.channels == [] && last.view.isOpen 0

theorem single_iff_of_run_of_replaced :
    ∃ desk view trace last, poolCalls.Run rules (unused desk view) trace last ∧
      (∃ transition ∈ trace, transition.Revives) ∧
      handedOut trace = [(1, 0), (1, 1)] ∧
      (∀ task ∈ last.tasks, task.hasEnded = true) ∧ last.common.pool.channels = [] ∧
      last.view.isOpen 0 = true := by
  let desk : Desk := .fresh ⟨0, .empty, 0, 0⟩ false
  have replayed : (poolCalls.replay allows [] (unused desk (showing [])) replacedCourse).any
      (fun ending => showsReplaced ending.1 ending.2) = true := by
    decide +kernel
  obtain ⟨trace, last, run, shown⟩ := System.exists_run_of_replay (fun _ _ kept => kept) replayed
  simp only [showsReplaced, Bool.and_eq_true, beq_iff_eq, List.all_eq_true] at shown
  obtain ⟨⟨⟨handed, finished⟩, empty⟩, opens⟩ := shown
  refine ⟨desk, showing [], trace, last, run, ?_, handed, finished, empty, opens⟩
  apply Classical.byContradiction
  intro none
  have whole : ∀ transition ∈ trace, ¬ transition.Revives :=
    fun transition member revives => none ⟨transition, member, revives⟩
  have single := (single_iff_of_run run).1.mpr whole trace last List.prefix_rfl run
  rcases single (1, 0) (by simp [handed]) opens with pooled | ⟨task, member, inside⟩
  · rw [Pool.channel?, empty, List.lookup_nil] at pooled
    cases pooled
  · rw [closing_eq_nil (isClearing_of_hasEnded (finished task member))] at inside
    cases inside

end PoolCall

end RoomLoad

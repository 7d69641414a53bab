import RoomLoad.Pool.Calls
import RoomLoad.Proofs.Pool.Lock

/-!
# What single calls do

One relation lists all that a call on the pool can do to the channels of the rooms in
one step, with what it has seen before it does so.  Later proofs go by its cases.
-/

namespace RoomLoad

open CreationLock (Moves Serves)

theorem Pool.channel?_install (pool : Pool) (room other : RoomId) (channel : ChannelId) :
    (pool.install room channel).channel? other =
      if other = room then some channel else pool.channel? other := by
  by_cases same : other = room
  · subst same
    simp [channel?, install]
  · rw [if_neg same, channel?, channel?, install, List.lookup_cons, beq_false_of_ne same]
    exact lookup_filter_of_ne same pool.channels

theorem Pool.mem_of_channel? {pool : Pool} {room : RoomId} {channel : ChannelId}
    (found : pool.channel? room = some channel) : channel ∈ pool.channels.map Prod.snd := by
  obtain ⟨before, after, split, _⟩ := List.lookup_eq_some_iff.mp found
  rw [split]
  simp

theorem Pool.channel?_congr {pool later : Pool} (same : later.channels = pool.channels)
    (room : RoomId) : later.channel? room = pool.channel? room := by
  rw [channel?, channel?, same]

namespace PoolCall

def use : PoolCall → LockUse
  | lookup _ phase => phase.use
  | reopening _ phase => phase.use
  | _ => .away

theorem use_afterLookup (room : RoomId) (progress : Progress Lookup Lookup.Result) :
    (afterLookup room progress).use = Lookup.useAfter progress := by
  cases progress <;> rfl

theorem use_afterReopening (channel : ChannelId)
    (progress : Progress Reopening Reopening.Result) :
    (afterReopening channel progress).use = Reopening.useAfter progress := by
  cases progress <;> rfl

/-- What one step of a call comes to for the channels of the rooms. -/
inductive Advances (view : View) (pool later : Pool) (id : TaskId) :
    Act PoolCall → PoolCall → PoolCall → Prop where
  | looks (room : RoomId) (phase next : Lookup) :
      later.channels = pool.channels →
      next = .asking ∨ next = .waiting ∨ next = .rechecking →
      Advances view pool later id (.move id) (lookup room phase) (lookup room next)
  | gives (room : RoomId) (phase : Lookup) (channel : ChannelId) :
      later.channels = pool.channels →
      pool.openChannel? view room = some channel →
      Advances view pool later id (.move id) (lookup room phase) (looked (.ok channel))
  | connects (room : RoomId) :
      later.channels = pool.channels →
      pool.openChannel? view room = none →
      Advances view pool later id (.move id) (lookup room .rechecking) (lookup room .connecting)
  | installs (room : RoomId) (fresh : ChannelId) :
      later.channels = (pool.install room fresh).channels →
      (∀ stale, pool.channel? room = some stale → stale = fresh) →
      Advances view pool later id (.answer id (.connected fresh)) (lookup room .connecting)
        (looked (.ok fresh))
  | replaces (room : RoomId) (fresh stale : ChannelId) :
      later.channels = (pool.install room fresh).channels →
      pool.channel? room = some stale →
      stale ≠ fresh →
      Advances view pool later id (.answer id (.connected fresh)) (lookup room .connecting)
        (lookup room (.closing fresh stale))
  | refused (room : RoomId) (fault : Fault) :
      later.channels = pool.channels →
      Advances view pool later id (.answer id (.failed fault)) (lookup room .connecting)
        (looked (.error fault))
  | replaced (room : RoomId) (fresh stale : ChannelId) :
      later.channels = pool.channels →
      Advances view pool later id (.answer id .done) (lookup room (.closing fresh stale))
        (looked (.ok fresh))
  | queues (channel : ChannelId) (phase next : Reopening) :
      later.channels = pool.channels →
      next = .waiting ∨ next = .checking →
      Advances view pool later id (.move id) (reopening channel phase) (reopening channel next)
  | spares (channel : ChannelId) :
      later.channels = pool.channels →
      view.isOpen channel = true →
      Advances view pool later id (.move id) (reopening channel .checking) (ended (.ok ()))
  | reconnects (channel : ChannelId) :
      later.channels = pool.channels →
      view.isOpen channel = false →
      Advances view pool later id (.move id) (reopening channel .checking)
        (reopening channel .reconnecting)
  | reconnected (channel : ChannelId) (answer : Answer) (result : Reopening.Result) :
      later.channels = pool.channels →
      answer = .done ∨ (∃ fault, answer = .failed fault) →
      Advances view pool later id (.answer id answer) (reopening channel .reconnecting)
        (ended result)
  | clears :
      later.channels = [] →
      Advances view pool later id (.move id) clearing
        (direct (.close (pool.channels.map Prod.snd)))
  | calls (call : Call) (answer : Answer) (next : PoolCall) :
      later.channels = pool.channels →
      call.Returns answer →
      next.hasEnded = true →
      Advances view pool later id (.answer id answer) (direct call) next

variable {view : View} {id : TaskId} {desk : Desk} {task : PoolCall} {after : Desk × PoolCall}

theorem advances_of_lookup {room : RoomId} {phase : Lookup} {later : Pool}
    {progress : Progress Lookup Lookup.Result}
    (moved : phase.move? view id room desk.pool = some (later, progress)) :
    Advances view desk.pool later id (.move id) (lookup room phase)
      (afterLookup room progress) := by
  cases phase with
  | looking =>
      rw [Lookup.move?] at moved
      split at moved
      case h_1 channel found =>
        cases moved
        exact .gives room .looking channel rfl found
      case h_2 =>
        cases moved
        exact .looks room .looking .asking rfl (.inl rfl)
  | asking =>
      cases moved
      exact .looks room .asking .waiting rfl (.inr (.inl rfl))
  | waiting =>
      rw [Lookup.move?] at moved
      split at moved
      case isTrue =>
        cases moved
        exact .looks room .waiting .rechecking rfl (.inr (.inr rfl))
      case isFalse => contradiction
  | rechecking =>
      rw [Lookup.move?] at moved
      split at moved
      case h_1 channel found =>
        cases moved
        exact .gives room .rechecking channel rfl found
      case h_2 missing =>
        cases moved
        exact .connects room rfl missing
  | connecting => contradiction
  | closing fresh stale => contradiction

theorem advances_of_reopening {channel : ChannelId} {phase : Reopening} {later : Pool}
    {progress : Progress Reopening Reopening.Result}
    (moved : phase.move? view id channel desk.pool = some (later, progress)) :
    Advances view desk.pool later id (.move id) (reopening channel phase)
      (afterReopening channel progress) := by
  cases phase with
  | asking =>
      cases moved
      exact .queues channel .asking .waiting rfl (.inl rfl)
  | waiting =>
      rw [Reopening.move?] at moved
      split at moved
      case isTrue =>
        cases moved
        exact .queues channel .waiting .checking rfl (.inr rfl)
      case isFalse => contradiction
  | checking =>
      rw [Reopening.move?] at moved
      split at moved
      case isTrue isOpen =>
        cases moved
        exact .spares channel rfl isOpen
      case isFalse isClosed =>
        cases moved
        exact .reconnects channel rfl (Bool.not_eq_true _ ▸ isClosed)
  | reconnecting => contradiction

theorem advances_of_mem_moves (member : after ∈ task.moves view id desk) :
    Advances view desk.pool after.1.pool id (.move id) task after.2 := by
  cases task with
  | lookup room phase =>
      rw [moves] at member
      split at member
      case h_1 pool progress moved =>
        cases List.mem_singleton.mp member
        exact advances_of_lookup moved
      case h_2 => contradiction
  | reopening channel phase =>
      rw [moves] at member
      split at member
      case h_1 pool progress moved =>
        cases List.mem_singleton.mp member
        exact advances_of_reopening moved
      case h_2 => contradiction
  | clearing =>
      cases List.mem_singleton.mp member
      exact .clears rfl
  | _ => contradiction

theorem moves_of_mem_moves (member : after ∈ task.moves view id desk) :
    Moves id desk.pool.lock task.use after.2.use after.1.pool.lock := by
  cases task with
  | lookup room phase =>
      rw [moves] at member
      split at member
      case h_1 pool progress moved =>
        cases List.mem_singleton.mp member
        rw [use_afterLookup]
        exact Lookup.moves_of_move? moved
      case h_2 => contradiction
  | reopening channel phase =>
      rw [moves] at member
      split at member
      case h_1 pool progress moved =>
        cases List.mem_singleton.mp member
        rw [use_afterReopening]
        exact Reopening.moves_of_move? moved
      case h_2 => contradiction
  | clearing =>
      cases List.mem_singleton.mp member
      exact .keeps .away
  | _ => contradiction

variable {call : Call} {answer : Answer}

theorem advances_install (view : View) (room : RoomId) (pool : Pool) (fresh : ChannelId) :
    Advances view pool (Lookup.install room pool fresh).1 id (.answer id (.connected fresh))
      (lookup room .connecting) (afterLookup room (Lookup.install room pool fresh).2) := by
  rw [Lookup.install]
  split
  case h_1 stale found =>
    by_cases same : stale = fresh
    · rw [if_pos same]
      refine .installs room fresh rfl ?_
      intro other also
      rw [found] at also
      exact (Option.some.inj also).symm.trans same
    · rw [if_neg same]
      exact .replaces room fresh stale rfl found same
  case h_2 missing =>
    refine .installs room fresh rfl ?_
    intro other found
    rw [missing] at found
    contradiction

theorem advances_resume (waits : task.call? = some call) (returns : call.Returns answer) :
    Advances view desk.pool (task.resume id desk answer).1.pool id (.answer id answer) task
      (task.resume id desk answer).2 := by
  cases task with
  | lookup room phase =>
      cases phase with
      | connecting =>
          cases waits
          cases returns with
          | connected _ fresh => exact advances_install view room desk.pool fresh
          | refused _ fault => exact .refused room fault rfl
      | closing fresh stale =>
          cases waits
          cases returns
          exact .replaced room fresh stale rfl
      | _ => contradiction
  | reopening channel phase =>
      cases phase with
      | reconnecting =>
          cases waits
          cases returns with
          | reconnected => exact .reconnected channel .done (.ok ()) rfl (.inl rfl)
          | unreachable _ fault =>
              exact .reconnected channel (.failed fault) (.error fault) rfl (.inr ⟨fault, rfl⟩)
      | _ => contradiction
  | direct inner =>
      cases waits
      cases returns with
      | connected room channel => exact .calls _ _ _ rfl (.connected room channel) rfl
      | refused room fault => exact .calls _ _ _ rfl (.refused room fault) rfl
      | reconnected channel => exact .calls _ _ _ rfl (.reconnected channel) rfl
      | unreachable channel fault => exact .calls _ _ _ rfl (.unreachable channel fault) rfl
      | closed channels => exact .calls _ _ _ rfl (.closed channels) rfl
      | sent channel payload => exact .calls _ _ _ rfl (.sent channel payload) rfl
      | unsent channel payload fault =>
          exact .calls _ _ _ rfl (.unsent channel payload fault) rfl
      | slept duration => exact .calls _ _ _ rfl (.slept duration) rfl
      | waited deadline => exact .calls _ _ _ rfl (.waited deadline) rfl
  | _ => contradiction

theorem resume_lookup {room : RoomId} {phase : Lookup} (returns : call.Returns answer) :
    (lookup room phase).resume id desk answer =
      ({ desk with pool := (phase.resume room desk.pool answer).1 },
        afterLookup room (phase.resume room desk.pool answer).2) := by
  cases returns <;> rfl

theorem resume_reopening {channel : ChannelId} {phase : Reopening}
    (returns : call.Returns answer) :
    (reopening channel phase).resume id desk answer =
      ({ desk with pool := (phase.resume desk.pool answer).1 },
        afterReopening channel (phase.resume desk.pool answer).2) := by
  cases returns <;> rfl

theorem moves_resume (waits : task.call? = some call) (returns : call.Returns answer) :
    Moves id desk.pool.lock task.use (task.resume id desk answer).2.use
      (task.resume id desk answer).1.pool.lock := by
  cases task with
  | lookup room phase =>
      rw [resume_lookup returns, use_afterLookup]
      exact Lookup.moves_resume waits returns
  | reopening channel phase =>
      rw [resume_reopening returns, use_afterReopening]
      exact Reopening.moves_resume waits returns
  | direct inner =>
      cases waits
      cases returns <;> exact .keeps .away
  | _ => contradiction

def isClearing : PoolCall → Bool
  | clearing => true
  | direct _ => true
  | _ => false

/-- A step leaves the channels of the rooms as they are, or puts a new one in its place,
or takes all of them out. -/
theorem Advances.sort {pool later : Pool} {act : Act PoolCall} {next : PoolCall}
    (advances : Advances view pool later id act task next) :
    (task.isClearing = false ∧ later.channels = pool.channels ∧
        ∀ channel, act ≠ .answer id (.connected channel)) ∨
      (∃ room fresh, task = lookup room .connecting ∧ act = .answer id (.connected fresh) ∧
        later.channels = (pool.install room fresh).channels ∧ next.isClearing = false) ∨
      (task = clearing ∧ act = .move id ∧
        next = direct (.close (pool.channels.map Prod.snd))) ∨
      ∃ call answer, task = direct call ∧ act = .answer id answer ∧ call.Returns answer := by
  have moves : ∀ channel, Act.move id ≠ (Act.answer id (.connected channel) : Act PoolCall) := by
    intro channel
    exact nofun
  cases advances with
  | looks room phase next channels => exact .inl ⟨rfl, channels, moves⟩
  | gives room phase channel channels => exact .inl ⟨rfl, channels, moves⟩
  | connects room channels => exact .inl ⟨rfl, channels, moves⟩
  | installs room fresh channels => exact .inr (.inl ⟨room, fresh, rfl, rfl, channels, rfl⟩)
  | replaces room fresh stale channels => exact .inr (.inl ⟨room, fresh, rfl, rfl, channels, rfl⟩)
  | refused room fault channels => exact .inl ⟨rfl, channels, nofun⟩
  | replaced room fresh stale channels => exact .inl ⟨rfl, channels, nofun⟩
  | queues channel phase next channels => exact .inl ⟨rfl, channels, moves⟩
  | spares channel channels => exact .inl ⟨rfl, channels, moves⟩
  | reconnects channel channels => exact .inl ⟨rfl, channels, moves⟩
  | reconnected channel answer result channels answers =>
      refine .inl ⟨rfl, channels, ?_⟩
      obtain rfl | ⟨fault, rfl⟩ := answers <;> exact nofun
  | clears => exact .inr (.inr (.inl ⟨rfl, rfl, rfl⟩))
  | calls call answer next channels returns =>
      exact .inr (.inr (.inr ⟨call, answer, rfl, rfl, returns⟩))

/-- What one step of single calls beside each other comes to. -/
inductive Turns (before : Situation Desk PoolCall) (act : Act PoolCall) :
    Situation Desk PoolCall → Prop where
  | goesOn {id : TaskId} {task : PoolCall} {after : Desk × PoolCall} :
      act.task? = some id →
      before.tasks[id]? = some task →
      Advances before.view before.common.pool after.1.pool id act task after.2 →
      Moves id before.common.pool.lock task.use after.2.use after.1.pool.lock →
      Turns before act (before.put id after)
  | frees (common : Desk) :
      act = .outside →
      Turns before act { before with common := common }
  | counts (common : Desk) :
      act.task? = none →
      common.pool = before.common.pool →
      Turns before act { before with common := common }
  | shifts (view : View) :
      act = .shift →
      Turns before act { before with view := view }
  | begins (task : PoolCall) :
      act = .begin task →
      Turns before act { before with tasks := before.tasks ++ [task] }

theorem turns_of_step {before after : Situation Desk PoolCall} {act : Act PoolCall}
    (step : poolCalls.Step before act after) : Turns before act after := by
  cases step with
  | move found member =>
      exact .goesOn rfl found (advances_of_mem_moves member) (moves_of_mem_moves member)
  | answer found waits returns =>
      exact .goesOn rfl found (advances_resume waits returns) (moves_resume waits returns)
  | frame text => exact .counts _ rfl rfl
  | countReconnect => exact .counts _ rfl rfl
  | outside common => exact .frees common rfl
  | shift view => exact .shifts view rfl
  | begin task => exact .begins task rfl

end PoolCall

end RoomLoad

import RoomLoad.Proofs.Pool.Turns

/-!
# Clients of the pool

Clients look channels up, reopen channels that a lookup has given out before, and close
everything when nobody else is at work.  The connector makes a new channel each time,
and a channel that it has made opens again only while it is reconnected.  Whatever the
clients do, and in whatever order, the pool only holds channels that were made for the
room, and a new one is made only while the room's old one is not open.
-/

namespace RoomLoad

def Transition.connected? (transition : Transition Desk PoolCall) :
    Option (RoomId × ChannelId) :=
  match transition.act with
  | .answer id (.connected channel) =>
      match transition.before.tasks[id]? with
      | some (.lookup room _) => some (room, channel)
      | _ => none
  | _ => none

namespace Situation

variable {σ τ : Type} {before : Situation σ τ} {task : τ}

theorem uses_begin {use : τ → LockUse} (away : use task = .away) :
    Situation.uses use { before with tasks := before.tasks ++ [task] } = before.uses use := by
  funext id
  by_cases inside : id < before.tasks.length
  · rw [uses, uses, List.getElem?_append_left inside]
  · have outside := Nat.le_of_not_lt inside
    have absent : before.tasks[id]? = none := List.getElem?_eq_none outside
    rw [uses, uses, absent, List.getElem?_append_right outside, List.getElem?_singleton]
    split
    case isTrue => exact away
    case isFalse => rfl

end Situation

namespace PoolCall

def given? : PoolCall → PoolCall → Option (RoomId × ChannelId)
  | lookup room _, looked (.ok channel) => some (room, channel)
  | _, _ => none

end PoolCall

def Transition.handedOut? (transition : Transition Desk PoolCall) :
    Option (RoomId × ChannelId) := do
  let id ← transition.act.task?
  let task ← transition.before.tasks[id]?
  let next ← transition.after.tasks[id]?
  PoolCall.given? task next

namespace PoolCall

def connected (trace : List (Transition Desk PoolCall)) : List (RoomId × ChannelId) :=
  trace.filterMap Transition.connected?

def handedOut (trace : List (Transition Desk PoolCall)) : List (RoomId × ChannelId) :=
  trace.filterMap Transition.handedOut?

def closing : PoolCall → List ChannelId
  | direct (.close channels) => channels
  | _ => []

def isReconnecting (channel : ChannelId) : PoolCall → Bool
  | reopening other .reconnecting => other == channel
  | _ => false

/-- What clients, connector and channels keep to. -/
def allows (trace : List (Transition Desk PoolCall)) (transition : Transition Desk PoolCall) :
    Bool :=
  match transition.act with
  | .outside => false
  | .begin (.lookup _ .looking) => transition.before.tasks.all fun task => !task.isClearing
  | .begin (.reopening channel .asking) =>
      (transition.before.tasks.all fun task => !task.isClearing) &&
        (handedOut trace).any fun entry => entry.2 == channel
  | .begin .clearing => transition.before.tasks.all hasEnded
  | .begin _ => false
  | .answer _ (.connected channel) => (connected trace).all fun entry => entry.2 != channel
  -- Closing everything takes until nothing of it is open.
  | .answer id .done =>
      (transition.before.tasks[id]?.elim [] closing).all fun channel =>
        !transition.before.view.isOpen channel
  -- Any channel may be dropped.
  | .shift =>
      (connected trace).all fun entry =>
        transition.before.view.isOpen entry.2 || !transition.after.view.isOpen entry.2 ||
          transition.before.tasks.any (isReconnecting entry.2)
  | _ => true

def rules : Rules Desk PoolCall := fun trace transition => allows trace transition = true

def showing (channels : List ChannelId) : View := ⟨0, fun channel => channels.contains channel⟩

def unused (desk : Desk) (view : View) : Situation Desk PoolCall :=
  ⟨{ desk with pool := .empty }, [], view⟩

variable {trace : List (Transition Desk PoolCall)} {transition : Transition Desk PoolCall}
  {before after : Situation Desk PoolCall} {act : Act PoolCall} {entry : RoomId × ChannelId}

theorem mem_connected_append :
    entry ∈ connected (trace ++ [transition]) ↔
      entry ∈ connected trace ∨ transition.connected? = some entry := by
  simp [connected]

theorem connected_append_of_none (makes : transition.connected? = none) :
    connected (trace ++ [transition]) = connected trace := by
  simp [connected, makes]

theorem mem_handedOut_append :
    entry ∈ handedOut (trace ++ [transition]) ↔
      entry ∈ handedOut trace ∨ transition.handedOut? = some entry := by
  simp [handedOut]

theorem handedOut?_put {id : TaskId} {task : PoolCall} {next : Desk × PoolCall}
    (acts : act.task? = some id) (found : before.tasks[id]? = some task) :
    Transition.handedOut? ⟨before, act, before.put id next⟩ = given? task next.2 := by
  have later : (before.put id next).tasks[id]? = some next.2 :=
    Situation.tasks_put_self found _
  simp [Transition.handedOut?, acts, found, later]

theorem handedOut?_of_task? (idle : act.task? = none) :
    Transition.handedOut? ⟨before, act, after⟩ = none := by
  simp [Transition.handedOut?, idle]

theorem closing_eq_nil {task : PoolCall} (idle : task.isClearing = false) : task.closing = [] := by
  cases task <;> first | rfl | contradiction

theorem isClearing_of_hasEnded {task : PoolCall} (finished : task.hasEnded = true) :
    task.isClearing = false := by
  cases task <;> first | rfl | contradiction

theorem isReconnecting_iff {channel : ChannelId} {task : PoolCall} :
    task.isReconnecting channel = true ↔ task = reopening channel .reconnecting := by
  cases task with
  | reopening other phase => cases phase <;> simp [isReconnecting]
  | _ => simp [isReconnecting]

/-- A channel that was made opens again only while it is reconnected. -/
theorem reconnecting_of_opened (allowed : allows trace ⟨before, .shift, after⟩ = true)
    (made : entry ∈ connected trace) (shut : before.view.isOpen entry.2 = false)
    (isOpen : after.view.isOpen entry.2 = true) :
    reopening entry.2 .reconnecting ∈ before.tasks := by
  have opens := List.all_eq_true.mp allowed entry made
  simp only [shut, isOpen, Bool.not_true, Bool.or_false, Bool.false_or, List.any_eq_true] at opens
  obtain ⟨task, member, reconnects⟩ := opens
  rw [isReconnecting_iff] at reconnects
  exact reconnects ▸ member

theorem begun_of_allows {task : PoolCall}
    (allowed : allows trace ⟨before, .begin task, after⟩ = true) :
    (∃ room, task = lookup room .looking ∧ ∀ other ∈ before.tasks, other.isClearing = false) ∨
      (∃ room channel, task = reopening channel .asking ∧ (room, channel) ∈ handedOut trace ∧
        ∀ other ∈ before.tasks, other.isClearing = false) ∨
      (task = clearing ∧ ∀ other ∈ before.tasks, other.hasEnded = true) := by
  rw [allows] at allowed
  split at allowed
  case h_2 room begins =>
    cases begins
    simp only [List.all_eq_true, Bool.not_eq_true'] at allowed
    exact .inl ⟨room, rfl, allowed⟩
  case h_3 channel begins =>
    cases begins
    simp only [Bool.and_eq_true, List.all_eq_true, Bool.not_eq_true', List.any_eq_true,
      beq_iff_eq] at allowed
    obtain ⟨idle, ⟨room, other⟩, member, rfl⟩ := allowed
    exact .inr (.inl ⟨room, other, rfl, member, idle⟩)
  case h_4 begins =>
    cases begins
    exact .inr (.inr ⟨rfl, List.all_eq_true.mp allowed⟩)
  case h_9 notBegun _ _ _ => exact (notBegun task rfl).elim
  all_goals contradiction

/-- What a call relies on while it is under way. -/
def Fits (trace : List (Transition Desk PoolCall)) (situation : Situation Desk PoolCall) :
    PoolCall → Prop
  | lookup room .connecting =>
      ∀ channel, situation.common.pool.channel? room = some channel →
        situation.view.isOpen channel = false
  | lookup room (.closing fresh _) => (room, fresh) ∈ connected trace
  | reopening channel _ => ∃ room, (room, channel) ∈ handedOut trace
  | direct call => (∃ channels, call = .close channels) ∧ situation.common.pool.channels = []
  | _ => True

/-- The pool and its clients stay in step. -/
structure Sound (trace : List (Transition Desk PoolCall)) (situation : Situation Desk PoolCall) :
    Prop where
  locked : situation.common.pool.lock.Serves (situation.uses use)
  /-- Nobody else is at work while everything is closed. -/
  alone : ∀ {id other : TaskId} {task otherTask : PoolCall},
    situation.tasks[id]? = some task → situation.tasks[other]? = some otherTask →
    task.isClearing = true → other ≠ id → otherTask.hasEnded = true
  fits : ∀ {id : TaskId} {task : PoolCall}, situation.tasks[id]? = some task →
    task.Fits trace situation
  pooled : ∀ {room : RoomId} {channel : ChannelId},
    situation.common.pool.channel? room = some channel → (room, channel) ∈ connected trace
  once : ∀ {room other : RoomId} {channel : ChannelId},
    (room, channel) ∈ connected trace → (other, channel) ∈ connected trace → room = other
  handed : ∀ {entry : RoomId × ChannelId}, entry ∈ handedOut trace → entry ∈ connected trace

theorem sound_unused (desk : Desk) (view : View) : Sound [] (unused desk view) := by
  constructor
  case locked =>
    apply CreationLock.serves_of_away
    intro task member
    contradiction
  case alone =>
    intro id other task otherTask found
    contradiction
  case fits =>
    intro id task found
    contradiction
  case pooled =>
    intro room channel found
    contradiction
  case once =>
    intro room other channel made
    contradiction
  case handed =>
    intro entry given
    contradiction

theorem Fits.mono {task : PoolCall} (fits : task.Fits trace before)
    (channels : after.common.pool.channels = before.common.pool.channels)
    (view : after.view = before.view) :
    task.Fits (trace ++ [transition]) after := by
  cases task with
  | lookup room phase =>
      cases phase with
      | connecting =>
          intro channel found
          rw [Pool.channel?_congr channels] at found
          rw [view]
          exact fits channel found
      | closing fresh stale => exact mem_connected_append.mpr (.inl fits)
      | _ => trivial
  | reopening channel phase =>
      obtain ⟨room, given⟩ := fits
      exact ⟨room, mem_handedOut_append.mpr (.inl given)⟩
  | direct call =>
      obtain ⟨closes, empty⟩ := fits
      exact ⟨closes, channels.trans empty⟩
  | _ => trivial

theorem fits_of_hasEnded {task : PoolCall} (finished : task.hasEnded = true) :
    task.Fits trace before := by
  cases task <;> trivial

namespace Sound

variable {id : TaskId} {task : PoolCall} {next : Desk × PoolCall}

theorem only (sound : Sound trace before) (found : before.tasks[id]? = some task)
    (inside : task.use = .inside) {other : TaskId} {otherTask : PoolCall}
    (also : before.tasks[other]? = some otherTask) (alsoInside : otherTask.use = .inside) :
    other = id :=
  sound.locked.only found also inside alsoInside

/-- Nobody closes everything beside a call that is under way. -/
theorem idle (sound : Sound trace before) (found : before.tasks[id]? = some task)
    (runs : task.hasEnded = false) {other : TaskId} {otherTask : PoolCall}
    (also : before.tasks[other]? = some otherTask) (different : other ≠ id) :
    otherTask.isClearing = false := by
  cases clears : otherTask.isClearing with
  | false => rfl
  | true =>
      have finished := sound.alone also found clears (Ne.symm different)
      rw [runs] at finished
      contradiction

theorem alone_put (sound : Sound trace before) (found : before.tasks[id]? = some task)
    (runs : task.hasEnded = false)
    (clears : next.2.isClearing = true → task.isClearing = true) :
    ∀ {first second : TaskId} {firstTask secondTask : PoolCall},
      (before.put id next).tasks[first]? = some firstTask →
      (before.put id next).tasks[second]? = some secondTask →
      firstTask.isClearing = true → second ≠ first → secondTask.hasEnded = true := by
  intro first second firstTask secondTask foundFirst foundSecond clearsFirst different
  rw [Situation.tasks_put found] at foundFirst foundSecond
  by_cases isFirst : id = first
  · subst isFirst
    rw [if_pos rfl, Option.some.injEq] at foundFirst
    rw [if_neg (Ne.symm different)] at foundSecond
    subst foundFirst
    exact sound.alone found foundSecond (clears clearsFirst) different
  · rw [if_neg isFirst] at foundFirst
    rw [sound.idle found runs foundFirst (Ne.symm isFirst)] at clearsFirst
    contradiction

theorem fits_put (found : before.tasks[id]? = some task)
    (own : next.2.Fits trace after)
    (others : ∀ {other : TaskId} {otherTask : PoolCall}, other ≠ id →
      before.tasks[other]? = some otherTask → otherTask.Fits trace after) :
    ∀ {other : TaskId} {otherTask : PoolCall},
      (before.put id next).tasks[other]? = some otherTask → otherTask.Fits trace after := by
  intro other otherTask foundOther
  rw [Situation.tasks_put found] at foundOther
  by_cases same : id = other
  · rw [if_pos same, Option.some.injEq] at foundOther
    exact foundOther ▸ own
  · rw [if_neg same] at foundOther
    exact others (Ne.symm same) foundOther

theorem extend (sound : Sound trace before) (makes : transition.connected? = none)
    (gives : ∀ entry, transition.handedOut? = some entry → entry ∈ connected trace)
    (locked : after.common.pool.lock.Serves (after.uses use))
    (alone : ∀ {id other : TaskId} {task otherTask : PoolCall},
      after.tasks[id]? = some task → after.tasks[other]? = some otherTask →
      task.isClearing = true → other ≠ id → otherTask.hasEnded = true)
    (fits : ∀ {id : TaskId} {task : PoolCall}, after.tasks[id]? = some task →
      task.Fits (trace ++ [transition]) after)
    (pooled : ∀ {room : RoomId} {channel : ChannelId},
      after.common.pool.channel? room = some channel → (room, channel) ∈ connected trace) :
    Sound (trace ++ [transition]) after := by
  have same : connected (trace ++ [transition]) = connected trace :=
    connected_append_of_none makes
  constructor
  case locked => exact locked
  case alone => exact alone
  case fits => exact fits
  case pooled =>
    intro room channel holds
    rw [same]
    exact pooled holds
  case once =>
    intro room other channel first second
    rw [same] at first second
    exact sound.once first second
  case handed =>
    intro entry given
    rw [same]
    rcases mem_handedOut_append.mp given with earlier | now
    · exact sound.handed earlier
    · exact gives entry now

theorem quiet (sound : Sound trace before) (found : before.tasks[id]? = some task)
    (moves : CreationLock.Moves id before.common.pool.lock task.use next.2.use next.1.pool.lock)
    (acts : act.task? = some id) (runs : task.hasEnded = false)
    (idle : next.2.isClearing = false)
    (channels : next.1.pool.channels = before.common.pool.channels)
    (makes : Transition.connected? ⟨before, act, before.put id next⟩ = none)
    (gives : ∀ entry, given? task next.2 = some entry → entry ∈ connected trace)
    (own : next.2.Fits (trace ++ [⟨before, act, before.put id next⟩]) (before.put id next)) :
    Sound (trace ++ [⟨before, act, before.put id next⟩]) (before.put id next) := by
  refine sound.extend makes ?_ (sound.locked.put found moves)
    (sound.alone_put found runs ?_) (fits_put found own ?_) ?_
  · intro entry given
    rw [handedOut?_put acts found] at given
    exact gives entry given
  · intro contrary
    rw [idle] at contrary
    contradiction
  · intro other otherTask _ foundOther
    exact (sound.fits foundOther).mono channels rfl
  · intro room channel holds
    rw [Situation.put, Pool.channel?_congr channels] at holds
    exact sound.pooled holds

theorem installs (sound : Sound trace before) {room : RoomId} {fresh : ChannelId}
    (found : before.tasks[id]? = some (lookup room .connecting))
    (moves : CreationLock.Moves id before.common.pool.lock .inside next.2.use next.1.pool.lock)
    (allowed : allows trace ⟨before, .answer id (.connected fresh), before.put id next⟩ = true)
    (channels : next.1.pool.channels = (before.common.pool.install room fresh).channels)
    (clears : next.2.isClearing = false)
    (gives : ∀ entry, given? (lookup room .connecting) next.2 = some entry → entry = (room, fresh))
    (own : (room, fresh) ∈ connected
        (trace ++ [⟨before, .answer id (.connected fresh), before.put id next⟩]) →
      next.2.Fits (trace ++ [⟨before, .answer id (.connected fresh), before.put id next⟩])
        (before.put id next)) :
    Sound (trace ++ [⟨before, .answer id (.connected fresh), before.put id next⟩])
      (before.put id next) := by
  have makes : Transition.connected? ⟨before, .answer id (.connected fresh), before.put id next⟩ =
      some (room, fresh) := by
    simp only [Transition.connected?, found]
  have unmade : ∀ {other : RoomId}, (other, fresh) ∉ connected trace := by
    intro other member
    have different := List.all_eq_true.mp allowed (other, fresh) member
    simp at different
  have isMade : (room, fresh) ∈ connected
      (trace ++ [⟨before, .answer id (.connected fresh), before.put id next⟩]) :=
    mem_connected_append.mpr (.inr makes)
  constructor
  case locked => exact sound.locked.put found moves
  case alone =>
    refine sound.alone_put found rfl ?_
    intro contrary
    rw [clears] at contrary
    contradiction
  case fits =>
    refine fits_put found (own isMade) ?_
    intro other otherTask different foundOther
    have fits := sound.fits foundOther
    cases otherTask with
    | lookup otherRoom phase =>
        cases phase with
        | connecting =>
            exact absurd (sound.only found rfl foundOther rfl) different
        | closing _ _ => exact mem_connected_append.mpr (.inl fits)
        | _ => trivial
    | reopening channel phase =>
        obtain ⟨otherRoom, given⟩ := fits
        exact ⟨otherRoom, mem_handedOut_append.mpr (.inl given)⟩
    | direct call =>
        have idle := sound.idle found rfl foundOther different
        contradiction
    | _ => trivial
  case pooled =>
    intro other channel holds
    rw [Situation.put, Pool.channel?_congr channels, Pool.channel?_install] at holds
    by_cases same : other = room
    · rw [if_pos same, Option.some.injEq] at holds
      rw [same, ← holds]
      exact isMade
    · rw [if_neg same] at holds
      exact mem_connected_append.mpr (.inl (sound.pooled holds))
  case once =>
    intro first second channel madeFirst madeSecond
    rw [mem_connected_append, makes, Option.some.injEq, Prod.mk.injEq] at madeFirst madeSecond
    rcases madeFirst with earlierFirst | ⟨rfl, rfl⟩ <;>
      rcases madeSecond with earlierSecond | ⟨isRoom, isFresh⟩
    · exact sound.once earlierFirst earlierSecond
    · exact absurd (isFresh ▸ earlierFirst) unmade
    · exact absurd earlierSecond unmade
    · exact isRoom
  case handed =>
    intro entry given
    rw [mem_handedOut_append, handedOut?_put rfl found] at given
    rcases given with earlier | now
    · exact mem_connected_append.mpr (.inl (sound.handed earlier))
    · rw [gives entry now]
      exact isMade

theorem clears (sound : Sound trace before) (found : before.tasks[id]? = some clearing)
    (moves : CreationLock.Moves id before.common.pool.lock .away next.2.use next.1.pool.lock)
    (channels : next.1.pool.channels = [])
    (closes : next.2 = direct (.close (before.common.pool.channels.map Prod.snd))) :
    Sound (trace ++ [⟨before, .move id, before.put id next⟩]) (before.put id next) := by
  refine sound.extend rfl ?_ (sound.locked.put found moves)
    (sound.alone_put found rfl fun _ => rfl) (fits_put found ?_ ?_) ?_
  · intro entry given
    rw [handedOut?_put rfl found, closes] at given
    contradiction
  · rw [closes]
    exact ⟨⟨_, rfl⟩, channels⟩
  · intro other otherTask different foundOther
    exact fits_of_hasEnded (sound.alone found foundOther rfl different)
  · intro room channel holds
    rw [Situation.put, Pool.channel?, channels] at holds
    contradiction

theorem shifts (sound : Sound trace before) {view : View}
    (allowed : allows trace ⟨before, .shift, { before with view := view }⟩ = true) :
    Sound (trace ++ [⟨before, .shift, { before with view := view }⟩])
      { before with view := view } := by
  refine sound.extend rfl ?_ sound.locked sound.alone ?_ sound.pooled
  · intro entry given
    rw [handedOut?_of_task? rfl] at given
    contradiction
  · intro id task found
    have fits := sound.fits found
    cases task with
    | lookup room phase =>
        cases phase with
        | connecting =>
            intro channel holds
            cases opens : view.isOpen channel with
            | false => rfl
            | true =>
                -- Only a reopening opens it, and that works under the lock as well.
                have reconnects := reconnecting_of_opened allowed (sound.pooled holds)
                  (fits channel holds) opens
                obtain ⟨other, foundOther⟩ := List.mem_iff_getElem?.mp reconnects
                have same := sound.only found rfl foundOther rfl
                rw [same, found] at foundOther
                cases foundOther
        | closing fresh stale => exact mem_connected_append.mpr (.inl fits)
        | _ => trivial
    | reopening channel phase =>
        obtain ⟨room, given⟩ := fits
        exact ⟨room, mem_handedOut_append.mpr (.inl given)⟩
    | direct call => exact fits
    | _ => trivial

theorem begins (sound : Sound trace before)
    (allowed : allows trace
      ⟨before, .begin task, { before with tasks := before.tasks ++ [task] }⟩ = true) :
    Sound (trace ++ [⟨before, .begin task, { before with tasks := before.tasks ++ [task] }⟩])
      { before with tasks := before.tasks ++ [task] } := by
  have start := begun_of_allows allowed
  have away : task.use = .away := by
    obtain ⟨_, rfl, _⟩ | ⟨_, _, rfl, _⟩ | ⟨rfl, _⟩ := start <;> rfl
  refine sound.extend rfl ?_ ?_ ?_ ?_ sound.pooled
  · intro entry given
    rw [handedOut?_of_task? rfl] at given
    contradiction
  · rw [Situation.uses_begin away]
    exact sound.locked
  · intro first second firstTask secondTask foundFirst foundSecond clearsFirst different
    rcases Situation.mem_begin foundFirst with old | ⟨atEnd, rfl⟩
    · rcases Situation.mem_begin foundSecond with alsoOld | ⟨_, rfl⟩
      · exact sound.alone old alsoOld clearsFirst different
      · have member := List.mem_of_getElem? old
        obtain ⟨_, _, idle⟩ | ⟨_, _, _, _, idle⟩ | ⟨_, finished⟩ := start
        · rw [idle _ member] at clearsFirst
          contradiction
        · rw [idle _ member] at clearsFirst
          contradiction
        · rw [isClearing_of_hasEnded (finished _ member)] at clearsFirst
          contradiction
    · rcases Situation.mem_begin foundSecond with old | ⟨alsoAtEnd, _⟩
      · obtain ⟨_, rfl, _⟩ | ⟨_, _, rfl, _⟩ | ⟨_, finished⟩ := start
        · contradiction
        · contradiction
        · exact finished _ (List.mem_of_getElem? old)
      · exact absurd (alsoAtEnd.trans atEnd.symm) different
  · intro id other found
    rcases Situation.mem_begin found with old | ⟨_, rfl⟩
    · exact (sound.fits old).mono rfl rfl
    · obtain ⟨_, rfl, _⟩ | ⟨room, channel, rfl, given, _⟩ | ⟨rfl, _⟩ := start
      · trivial
      · exact ⟨room, mem_handedOut_append.mpr (.inl given)⟩
      · trivial

theorem counts (sound : Sound trace before) {common : Desk} (idle : act.task? = none)
    (pool : common.pool = before.common.pool) :
    Sound (trace ++ [⟨before, act, { before with common := common }⟩])
      { before with common := common } := by
  have makes : Transition.connected? ⟨before, act, { before with common := common }⟩ = none := by
    cases act <;> first | rfl | contradiction
  refine sound.extend makes ?_ ?_ sound.alone ?_ ?_
  · intro entry given
    rw [handedOut?_of_task? idle] at given
    contradiction
  · dsimp only
    rw [pool]
    exact sound.locked
  · intro id task found
    exact (sound.fits found).mono (congrArg Pool.channels pool) rfl
  · intro room channel holds
    dsimp only at holds
    rw [pool] at holds
    exact sound.pooled holds

theorem step (sound : Sound trace before) (turns : Turns before act after)
    (allowed : allows trace ⟨before, act, after⟩ = true) :
    Sound (trace ++ [⟨before, act, after⟩]) after := by
  cases turns with
  | frees common outside =>
      subst outside
      contradiction
  | counts common idle pool => exact sound.counts idle pool
  | shifts view isShift =>
      subst isShift
      exact sound.shifts allowed
  | begins task isBegin =>
      subst isBegin
      exact sound.begins allowed
  | @goesOn id task next acts found advances moves =>
      have fits := sound.fits found
      have none : ∀ entry : RoomId × ChannelId,
          (Option.none : Option (RoomId × ChannelId)) = some entry → entry ∈ connected trace := by
        intro entry contrary
        contradiction
      obtain ⟨later, nextTask⟩ := next
      -- a call changes the channels only where it installs one or takes all out
      cases advances with
      | looks room phase next channels isNext =>
          refine sound.quiet found moves acts rfl rfl channels rfl none ?_
          obtain rfl | rfl | rfl := isNext <;> trivial
      | gives room phase channel channels isOpen =>
          refine sound.quiet found moves acts rfl rfl channels rfl ?_ trivial
          intro entry given
          cases given
          exact sound.pooled (Option.filter_eq_some_iff.mp isOpen).1
      | connects room channels missing =>
          refine sound.quiet found moves acts rfl rfl channels rfl none ?_
          intro channel holds
          rw [Situation.put, Pool.channel?_congr channels] at holds
          rw [Pool.openChannel?, holds] at missing
          have isClosed : before.view.isOpen channel = false := by
            simpa using missing
          exact isClosed
      | installs room fresh channels same =>
          refine sound.installs found moves allowed channels rfl ?_ ?_
          · intro entry given
            cases given
            rfl
          · intro _
            trivial
      | replaces room fresh stale channels holds different =>
          refine sound.installs found moves allowed channels rfl ?_ ?_
          · intro entry given
            contradiction
          · intro made
            exact made
      | refused room fault channels =>
          exact sound.quiet found moves acts rfl rfl channels rfl none trivial
      | replaced room fresh stale channels =>
          refine sound.quiet found moves acts rfl rfl channels rfl ?_ trivial
          intro entry given
          cases given
          exact fits
      | queues channel phase next channels isNext =>
          refine sound.quiet found moves acts rfl rfl channels rfl none ?_
          obtain ⟨room, given⟩ := fits
          exact ⟨room, mem_handedOut_append.mpr (.inl given)⟩
      | spares channel channels isOpen =>
          exact sound.quiet found moves acts rfl rfl channels rfl none trivial
      | reconnects channel channels isClosed =>
          refine sound.quiet found moves acts rfl rfl channels rfl none ?_
          obtain ⟨room, given⟩ := fits
          exact ⟨room, mem_handedOut_append.mpr (.inl given)⟩
      | reconnected channel answer result channels answers =>
          refine sound.quiet found moves acts rfl rfl channels ?_ none trivial
          obtain rfl | ⟨fault, rfl⟩ := answers <;> rfl
      | clears channels => exact sound.clears found moves channels rfl
      | calls call answer next channels returns finished =>
          obtain ⟨⟨closed, rfl⟩, empty⟩ := fits
          cases returns
          exact sound.quiet found moves acts rfl (isClearing_of_hasEnded finished) channels rfl none
            (fits_of_hasEnded finished)

end Sound

theorem sound_of_run {desk : Desk} {view : View} {last : Situation Desk PoolCall}
    (run : poolCalls.Run rules (unused desk view) trace last) : Sound trace last := by
  induction run with
  | rest => exact sound_unused desk view
  | step run step allowed induction => exact induction.step (turns_of_step step) allowed

end PoolCall

end RoomLoad

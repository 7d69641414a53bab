import RoomLoad.Proofs.Simulation.Reached

/-!
# Calls in simulated surroundings

A call that is made is answered at once, or its answer is put on its way; and when that
arrives, the call still waits for it.  Both are steps of a run, for each kind of call.
-/

namespace RoomLoad

variable {σ τ : Type}

namespace World

variable {system : System σ τ} {world later : World σ τ} {happening : Happening}

theorem pending_insert (world : World σ τ) (timer : Timer) :
    ({ world with timers := Timer.insert timer world.timers } : World σ τ).pending.Perm
      (timer.happening :: world.pending) := by
  have inserted := (Timer.insert_perm timer world.timers).map Timer.happening
  exact (inserted.append_left _).trans List.perm_middle

theorem replies_insert (world : World σ τ) (timer : Timer) :
    ({ world with timers := Timer.insert timer world.timers } : World σ τ).replies.Perm
      ([timer.happening].filter (fun happening => happening.answered?.isSome) ++
        world.replies) := by
  rw [replies, replies, ← List.filter_append]
  exact (world.pending_insert timer).filter _

theorem pending_of_pop? {rest : Fifo Happening}
    (popped : world.ready.pop? = some (happening, rest)) :
    world.pending = happening :: ({ world with ready := rest } : World σ τ).pending := by
  rw [pending, Fifo.toList_of_pop? popped]
  rfl

theorem replies_push (world : World σ τ) (answers : happening.answered? = none) :
    ({ world with ready := world.ready.push happening } : World σ τ).replies = world.replies := by
  simp [replies, pending, answers]

/-- A turn that is to come answers nobody. -/
theorem replies_perm_of_turns {ids : List TaskId}
    (ready : later.ready.toList.Perm (ids.map Happening.turns ++ world.ready.toList))
    (timers : later.timers = world.timers) : later.replies.Perm world.replies := by
  have noAnswers :
      (ids.map Happening.turns).filter (fun happening => happening.answered?.isSome) = [] := by
    rw [List.filter_map]
    simp [Function.comp_def, Happening.answered?]
  have permuted := (ready.append_right (later.timers.map Timer.happening)).filter
    fun happening => happening.answered?.isSome
  rw [List.append_assoc, List.filter_append (ids.map _), noAnswers, timers] at permuted
  rw [replies, pending, timers]
  exact permuted

theorem standings_modify (slots : Array (Slot τ)) (id : TaskId) (queued : Bool) :
    (slots.modify id fun slot => { slot with queued := queued }).toList.map Slot.standing =
      slots.toList.map Slot.standing := by
  rw [Array.toList_modify, List.modify_eq_set_getElem?]
  cases found : slots.toList[id]? with
  | none => rfl
  | some slot =>
      have standing : Slot.standing { slot with queued := queued } = slot.standing := rfl
      simp only [Option.map_eq_map, Option.map_some, Option.getD_some, List.map_set, standing]
      exact set_of_getElem? (by rw [List.getElem?_map, found, Option.map_some])

theorem standings_foldl_modify (slots : Array (Slot τ)) (ids : List TaskId) (queued : Bool) :
    (ids.foldl (fun slots id => slots.modify id fun slot => { slot with queued := queued })
      slots).toList.map Slot.standing = slots.toList.map Slot.standing := by
  induction ids generalizing slots with
  | nil => rfl
  | cons id ids induction => rw [List.foldl_cons, induction, standings_modify]

namespace Resembles

theorem note (world : World σ τ) (startedAt : Instant) (action : Action)
    (fault : Option Fault) : Resembles (world.note startedAt action fault) world :=
  ⟨rfl, rfl, rfl, .refl _⟩

theorem changePeer (world : World σ τ) (channel : ChannelId) (change : Peer → Peer) :
    Resembles (world.changePeer channel change) world :=
  ⟨rfl, rfl, rfl, .refl _⟩

/-- What answers nobody may be put off. -/
theorem schedule (world : World σ τ) (delay : Duration) (answers : happening.answered? = none) :
    Resembles (world.schedule delay happening) world where
  common := rfl
  connector := rfl
  standings := rfl
  replies := by
    have inserted := world.replies_insert (world.timerIn delay happening)
    simp only [timerIn, List.filter_cons, answers] at inserted
    exact inserted.subperm

theorem enlist (system : System σ τ) (world : World σ τ) :
    Resembles (world.enlist system) world where
  common := rfl
  connector := rfl
  standings := standings_foldl_modify _ _ true
  replies := by
    have behind := Fifo.toList_append world.ready
      ((world.order.filter (world.isLeftOut system)).map .turns)
    have ready := (List.Perm.of_eq behind).trans List.perm_append_comm
    exact List.Perm.subperm (replies_perm_of_turns ready rfl)

theorem follow (system : System σ τ) (world : World σ τ) (answers : happening.answered? = none) :
    Resembles (world.follow system happening) world := by
  have pushed : Resembles (world.follow system happening) (world.enlist system) :=
    ⟨rfl, rfl, rfl, (replies_push (world.enlist system) answers).symm ▸ .refl _⟩
  exact pushed.trans (enlist system world)

theorem pop {rest : Fifo Happening} (popped : world.ready.pop? = some (happening, rest)) :
    Resembles { world with ready := rest } world := by
  refine of_pending rfl rfl rfl ?_
  rw [pending_of_pop? popped]
  exact (List.sublist_cons_self _ _).subperm

theorem yieldChannel (world : World σ τ) (room : RoomId) :
    Resembles (world.yieldChannel room).2 world := by
  unfold World.yieldChannel
  split
  case h_1 => split <;> exact ⟨rfl, rfl, rfl, .refl _⟩
  case h_2 => exact ⟨rfl, rfl, rfl, .refl _⟩

theorem beginClose (id : TaskId) (world : World σ τ) (channel : ChannelId) :
    Resembles (world.beginClose id channel) world := by
  unfold World.beginClose
  dsimp only
  split
  case h_1 => exact (changePeer _ _ _).trans (note _ _ _ _)
  case h_2 => exact (schedule _ _ rfl).trans (note _ _ _ _)

theorem foldl_beginClose (id : TaskId) (channels : List ChannelId) (world : World σ τ) :
    Resembles (channels.foldl (World.beginClose id) world) world := by
  induction channels generalizing world with
  | nil => exact refl world
  | cons channel channels induction => exact (induction _).trans (beginClose id world channel)

end Resembles

end World

open World

variable {system : System σ τ} {rules : Rules σ τ} {start : Situation σ τ}
  {world later : World σ τ} {id : TaskId} {call : Call}

namespace Owes

/-- The call returns later. -/
theorem insert (owes : Owes system rules start world id call) {timer : Timer}
    (answers : timer.happening.answered? = some id)
    (settles : timer.happening.settles call = true) :
    Reached system rules start { world with timers := Timer.insert timer world.timers } := by
  have inserted := world.replies_insert timer
  simp only [List.filter_cons, answers, Option.isSome_some, if_true, List.filter_nil,
    List.singleton_append] at inserted
  constructor
  case run => exact owes.run
  case spared => exact owes.spared
  case distinct =>
    have answered := inserted.filterMap Happening.answered?
    rw [List.filterMap_cons_some answers, ← awaited_eq, ← awaited_eq] at answered
    exact answered.nodup_iff.mpr (List.nodup_cons.mpr ⟨owes.alone, owes.distinct⟩)
  case settled =>
    intro happening member
    rcases List.mem_cons.mp (inserted.subset member) with rfl | old
    · exact ⟨id, call, answers, owes.waits, settles⟩
    · exact owes.settled happening old

theorem schedule (owes : Owes system rules start world id call) {happening : Happening}
    (answers : happening.answered? = some id) (settles : happening.settles call = true)
    (delay : Duration) : Reached system rules start (world.schedule delay happening) :=
  owes.insert answers settles

variable (free : ∀ trace transition, transition.act.isInner = true → rules trace transition)

include free

theorem of_resembles (owes : Owes system rules start world id call)
    (alike : Resembles later world) : Owes system rules start later id call where
  toReached := owes.toReached.of_resembles free alike
  waits := alike.calling?_eq ▸ owes.waits
  alone := fun member => owes.alone (alike.awaited_subperm.subset member)

theorem receive (owes : Owes system rules start world id call) (text : String) :
    Owes system rules start (world.receive system text) id call where
  toReached := owes.toReached.receive free text
  waits := owes.waits
  alone := owes.alone

theorem countReconnect (owes : Owes system rules start world id call) :
    Owes system rules start { world with common := system.countReconnect world.common } id
      call where
  toReached := owes.toReached.countReconnect free
  waits := owes.waits
  alone := owes.alone

/-- The call returns at once. -/
theorem answer (owes : Owes system rules start world id call) {given : Answer}
    (returns : call.Returns given) :
    Reached system rules start (world.answer system id given) := by
  obtain ⟨slot, found, called, waits⟩ := exists_slot_of_calling? owes.waits
  have step := System.Step.answer (situation_getElem? found) waits returns
  simp only [World.answer, found]
  exact owes.toReached.put free owes.alone step rfl (map_standing_setIfInBounds _ _ _)

theorem sleep (owes : Owes system rules start world id call) (returns : call.Returns .done)
    (settles : (Happening.wakes id).settles call = true) (duration : Duration) :
    Reached system rules start (world.sleep system id duration) := by
  unfold World.sleep
  split
  case isTrue => exact owes.answer free returns
  case isFalse => exact owes.schedule rfl settles duration

theorem waitUntil {deadline : Instant}
    (owes : Owes system rules start world id (.wait deadline)) (moment : Instant) :
    Reached system rules start (world.waitUntil system id moment) := by
  unfold World.waitUntil
  split
  case isTrue => exact owes.answer free (.waited deadline)
  case isFalse => exact owes.insert rfl rfl

theorem endConnect {room : RoomId} (owes : Owes system rules start world id (.connect room))
    (wanted : RoomId) (number : Nat) (startedAt : Instant) :
    Reached system rules start (world.endConnect system id wanted number startedAt) := by
  have counted : Resembles { world with accepted := world.accepted + 1 } world :=
    ⟨rfl, rfl, rfl, .refl _⟩
  unfold World.endConnect
  dsimp only
  split
  case isTrue =>
    exact (owes.of_resembles free (.note _ _ _ _)).answer free (.refused room _)
  case isFalse =>
    split
    case isTrue =>
      exact (owes.of_resembles free (.trans (.note _ _ _ _) counted)).answer free
        (.refused room _)
    case isFalse =>
      have made := (Resembles.yieldChannel _ wanted).trans counted
      exact (owes.of_resembles free (.trans (.note _ _ _ _) made)).answer free
        (.connected room _)

theorem beginConnect {room : RoomId} (owes : Owes system rules start world id (.connect room)) :
    Reached system rules start (world.beginConnect system id room) := by
  have counted : Resembles { world with connects := world.connects + 1 } world :=
    ⟨rfl, rfl, rfl, .refl _⟩
  unfold World.beginConnect
  simp only [owes.spared.connects, List.contains_nil, Bool.false_eq_true, if_false]
  split
  case h_1 => exact (owes.of_resembles free counted).endConnect free room _ _
  case h_2 => exact (owes.of_resembles free counted).schedule rfl rfl _

theorem dispatch (owes : Owes system rules start world id call) (frame : Dispatch) :
    Owes system rules start (world.dispatch system frame) id call := by
  unfold World.dispatch
  split
  case h_1 => exact owes.receive free frame.text
  case h_2 => exact owes.of_resembles free (.follow system world rfl)

theorem foldl_dispatch (owes : Owes system rules start world id call)
    (frames : List Dispatch) :
    Owes system rules start (frames.foldl (World.dispatch system) world) id call := by
  induction frames generalizing world with
  | nil => exact owes
  | cons frame frames induction => exact induction (owes.dispatch free frame)

theorem makeSend {channel : ChannelId} {payload : String}
    (owes : Owes system rules start world id (.send channel payload)) :
    Reached system rules start (world.makeSend system id channel payload) := by
  unfold World.makeSend
  split
  case h_1 => exact owes.answer free (.unsent channel payload _)
  case h_2 record present =>
    have survives : world.crashesSend record payload = false := by
      unfold World.crashesSend
      simp only [owes.spared.sends, owes.spared.units, List.contains_nil, Bool.false_or]
      split <;> rfl
    simp only [survives, Bool.false_eq_true, if_false]
    have used := owes.of_resembles free
      (.changePeer world channel fun _ => (record.peer.send world.civil payload).2)
    have sent := used.foldl_dispatch free (record.peer.send world.civil payload).1.frames
    split
    case h_1 =>
      exact (sent.of_resembles free (.note _ _ _ _)).answer free (.sent channel payload)
    case h_2 fault failed =>
      exact (sent.of_resembles free (.note _ _ _ _)).answer free (.unsent channel payload fault)

theorem endReconnect {channel : ChannelId}
    (owes : Owes system rules start world id (.reconnect channel)) (other : ChannelId) :
    Reached system rules start (world.endReconnect system id other) := by
  unfold World.endReconnect
  dsimp only
  split
  case isTrue =>
    exact ((owes.countReconnect free).of_resembles free (.changePeer _ _ _)).answer free
      (.reconnected channel)
  case isFalse =>
    exact (owes.of_resembles free (.changePeer _ _ _)).answer free (.reconnected channel)

theorem beginReconnect {channel : ChannelId}
    (owes : Owes system rules start world id (.reconnect channel)) :
    Reached system rules start (world.beginReconnect system id channel) := by
  have begun := owes.of_resembles free
    ((Resembles.changePeer _ channel Peer.beginReconnect).trans
      (.note world world.now (.reconnect channel) none))
  unfold World.beginReconnect
  dsimp only
  split
  case h_1 => exact begun.endReconnect free channel
  case h_2 => exact begun.schedule rfl rfl _

/-- A call that is made keeps to the steps of a run, whatever call it is. -/
theorem makeCall (owes : Owes system rules start world id call) :
    Reached system rules start (world.makeCall system id call) := by
  cases call with
  | connect room => exact owes.beginConnect free
  | reconnect channel => exact owes.beginReconnect free
  | close channels =>
      exact (owes.of_resembles free (.foldl_beginClose id channels world)).sleep free
        (.closed channels) rfl _
  | send channel payload => exact owes.makeSend free
  | sleep duration => exact owes.sleep free (.slept duration) rfl _
  | wait deadline => exact owes.waitUntil free deadline

end Owes

namespace Reached

/-- What is taken off the front, if it is an answer, is one to a call that waits for it and
for nothing else. -/
theorem owes_of_pop {happening : Happening} {rest : Fifo Happening}
    (free : ∀ trace transition, transition.act.isInner = true → rules trace transition)
    (reached : Reached system rules start world)
    (popped : world.ready.pop? = some (happening, rest))
    (answers : happening.answered? = some id) :
    ∃ call, happening.settles call = true ∧
      Owes system rules start { world with ready := rest } id call := by
  have pending := pending_of_pop? popped
  have isReply : happening ∈ world.replies := by
    rw [replies, pending]
    simp [answers]
  obtain ⟨other, call, same, waits, settles⟩ := reached.settled happening isReply
  cases answers.symm.trans same
  refine ⟨call, settles, reached.of_resembles free (.pop popped), waits, ?_⟩
  have distinct := reached.distinct
  rw [awaited, pending, List.filterMap_cons_some answers] at distinct
  exact (List.nodup_cons.mp distinct).1

theorem depart (free : ∀ trace transition, transition.act.isInner = true → rules trace transition)
    (reached : Reached system rules start world) (delay : Duration) (text : String) :
    Reached system rules start (world.depart system delay text) := by
  unfold World.depart
  dsimp only
  split
  case isTrue => exact reached.receive free text
  case isFalse => exact reached.of_resembles free (.schedule world _ rfl)

/-- Whatever happens next keeps to the steps of a run. -/
theorem happen {happening : Happening} {rest : Fifo Happening}
    (free : ∀ trace transition, transition.act.isInner = true → rules trace transition)
    (reached : Reached system rules start world)
    (popped : world.ready.pop? = some (happening, rest)) :
    Reached system rules start ({ world with ready := rest }.happen system happening) := by
  have others := reached.of_resembles free (.pop popped)
  cases happening with
  | turns id =>
      exact others.of_resembles free ⟨rfl, rfl, standings_modify _ _ false, .refl _⟩
  | connectEnds id room number startedAt =>
      obtain ⟨call, settles, owes⟩ := reached.owes_of_pop free popped rfl
      cases call with
      | connect wanted => exact owes.endConnect free room number startedAt
      | _ => contradiction
  | reconnectEnds id channel =>
      obtain ⟨call, settles, owes⟩ := reached.owes_of_pop free popped rfl
      cases call with
      | reconnect lost => exact owes.endReconnect free channel
      | _ => contradiction
  | closeEnds id channel => exact others.of_resembles free (.changePeer _ channel _)
  | wakes id =>
      obtain ⟨call, settles, owes⟩ := reached.owes_of_pop free popped rfl
      cases call with
      | close channels => exact owes.answer free (.closed channels)
      | sleep duration => exact owes.answer free (.slept duration)
      | wait deadline => exact owes.answer free (.waited deadline)
      | _ => contradiction
  | departs delay text => exact others.depart free delay text
  | arrives text => exact others.receive free text

end Reached

end RoomLoad

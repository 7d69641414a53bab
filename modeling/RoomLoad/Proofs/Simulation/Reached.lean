import Mathlib.Data.List.Perm.Subperm
import Mathlib.Data.List.TakeDrop
import RoomLoad.Proofs.Runs.Replay
import RoomLoad.Simulation.World

/-!
# Simulated surroundings keep to the steps of a run

A simulated run makes its own choice of what comes next, but nothing else: whatever it
does to a world is a step of the system, or a few.  What a call is answered with is fixed
when the call is made and may be on its way for some time, so the invariant has to say
that whatever is on its way answers the call that its task waits for.
-/

namespace RoomLoad

variable {σ τ : Type}

theorem set_of_getElem? {α : Type} {items : List α} {place : Nat} {item : α}
    (found : items[place]? = some item) : items.set place item = items := by
  obtain ⟨inside, rfl⟩ := List.getElem?_eq_some_iff.mp found
  exact List.set_getElem_self inside

def Happening.answered? : Happening → Option TaskId
  | connectEnds task _ _ _ => some task
  | reconnectEnds task _ => some task
  | wakes task => some task
  | _ => none

/-- Whether a call returns when something happens. -/
def Happening.settles : Happening → Call → Bool
  | connectEnds _ _ _ _, .connect _ => true
  | reconnectEnds _ _, .reconnect _ => true
  | wakes _, .close _ => true
  | wakes _, .sleep _ => true
  | wakes _, .wait _ => true
  | _, _ => false

/-- No call brings its task down. -/
structure ConnectorScript.SparesTasks (connector : ConnectorScript) : Prop where
  connects : connector.crashConnectRooms = []
  sends : connector.crashSendRooms = []
  units : connector.crashSeqs = []

/-- A task, and whether its call is out. -/
def Slot.standing (slot : Slot τ) : τ × Bool := (slot.task, slot.called)

namespace World

def standings (world : World σ τ) : List (τ × Bool) :=
  world.slots.toList.map Slot.standing

/-- What a run knows of a world. -/
def situation (world : World σ τ) : Situation σ τ :=
  ⟨world.common, world.standings.map Prod.fst, world.view⟩

/-- The call of a task that is out. -/
def calling? (system : System σ τ) (world : World σ τ) (id : TaskId) : Option Call :=
  match world.standings[id]? with
  | some (task, true) => system.call? task
  | _ => none

def pending (world : World σ τ) : List Happening :=
  world.ready.toList ++ world.timers.map Timer.happening

/-- The tasks that are to get their answers. -/
def awaited (world : World σ τ) : List TaskId :=
  world.pending.filterMap Happening.answered?

/-- The answers that are on their way. -/
def replies (world : World σ τ) : List Happening :=
  world.pending.filter fun happening => happening.answered?.isSome

/-- The tasks and what they share are as before, and no new answer is on its way. -/
structure Resembles (later world : World σ τ) : Prop where
  common : later.common = world.common
  connector : later.connector = world.connector
  standings : later.standings = world.standings
  replies : later.replies.Subperm world.replies

variable {system : System σ τ} {world later : World σ τ} {id : TaskId} {slot : Slot τ}
  {happening : Happening} {call : Call}

theorem awaited_eq (world : World σ τ) :
    world.awaited = world.replies.filterMap Happening.answered? := by
  rw [awaited, replies, List.filterMap_filter]
  congr 1
  funext happening
  cases happening.answered? <;> rfl

theorem mem_awaited_of_mem_replies (member : happening ∈ world.replies)
    (answers : happening.answered? = some id) : id ∈ world.awaited := by
  rw [awaited_eq]
  exact List.mem_filterMap.mpr ⟨happening, member, answers⟩

theorem map_standing_setIfInBounds (slots : Array (Slot τ)) (id : TaskId) (slot : Slot τ) :
    (slots.setIfInBounds id slot).toList.map Slot.standing =
      (slots.toList.map Slot.standing).set id slot.standing := by
  rw [Array.toList_setIfInBounds, List.map_set]

theorem standings_getElem? (found : world.slots[id]? = some slot) :
    world.standings[id]? = some slot.standing := by
  rw [standings, List.getElem?_map, Array.getElem?_toList, found, Option.map_some]

theorem situation_getElem? (found : world.slots[id]? = some slot) :
    world.situation.tasks[id]? = some slot.task := by
  rw [situation, List.getElem?_map, standings_getElem? found]
  rfl

theorem calling?_eq (found : world.slots[id]? = some slot) :
    world.calling? system id = if slot.called then system.call? slot.task else none := by
  rw [calling?, standings_getElem? found, Slot.standing]
  cases slot.called <;> rfl

theorem exists_slot_of_calling? (waits : world.calling? system id = some call) :
    ∃ slot, world.slots[id]? = some slot ∧ slot.called = true ∧
      system.call? slot.task = some call := by
  unfold calling? standings at waits
  rw [List.getElem?_map, Array.getElem?_toList] at waits
  cases found : world.slots[id]? with
  | none => simp [found] at waits
  | some slot =>
      cases called : slot.called with
      | false => simp [found, Slot.standing, called] at waits
      | true =>
          simp only [found, Option.map_some, Slot.standing, called] at waits
          exact ⟨slot, rfl, called, waits⟩

namespace Resembles

theorem refl (world : World σ τ) : Resembles world world :=
  ⟨rfl, rfl, rfl, List.Subperm.refl _⟩

theorem trans {last : World σ τ} (second : Resembles last later)
    (first : Resembles later world) : Resembles last world where
  common := second.common.trans first.common
  connector := second.connector.trans first.connector
  standings := second.standings.trans first.standings
  replies := second.replies.trans first.replies

/-- Only what is pending may tell two worlds with the same tasks apart. -/
theorem of_pending (common : later.common = world.common)
    (connector : later.connector = world.connector)
    (standings : later.standings = world.standings)
    (pending : later.pending.Subperm world.pending) : Resembles later world :=
  ⟨common, connector, standings, pending.filter _⟩

theorem calling?_eq (alike : Resembles later world) :
    later.calling? system id = world.calling? system id := by
  rw [calling?, calling?, alike.standings]

theorem awaited_subperm (alike : Resembles later world) : later.awaited.Subperm world.awaited := by
  rw [awaited_eq, awaited_eq]
  obtain ⟨middle, permuted, sublist⟩ := alike.replies
  exact ⟨_, permuted.filterMap _, sublist.filterMap _⟩

end Resembles

end World

open World

/-- A world that a run has led to.  No task gets two answers, and whatever answer is on its
way is one to the call that its task waits for. -/
structure Reached (system : System σ τ) (rules : Rules σ τ) (start : Situation σ τ)
    (world : World σ τ) : Prop where
  run : ∃ trace, system.Run rules start trace world.situation
  spared : world.connector.SparesTasks
  distinct : world.awaited.Nodup
  settled : ∀ happening ∈ world.replies, ∃ id call, happening.answered? = some id ∧
    world.calling? system id = some call ∧ happening.settles call = true

/-- A world that a run has led to, with a call whose answer is still open. -/
structure Owes (system : System σ τ) (rules : Rules σ τ) (start : Situation σ τ)
    (world : World σ τ) (id : TaskId) (call : Call) : Prop
    extends Reached system rules start world where
  waits : world.calling? system id = some call
  alone : id ∉ world.awaited

variable {system : System σ τ} {rules : Rules σ τ} {start : Situation σ τ}
  {world later : World σ τ} {id : TaskId} {slot : Slot τ} {call : Call}

namespace Reached

/-- A world without answers on their way is where a run begins. -/
theorem of_replies_eq_nil (spared : world.connector.SparesTasks) (quiet : world.replies = []) :
    Reached system rules world.situation world where
  run := ⟨[], .rest⟩
  spared := spared
  distinct := by rw [awaited_eq, quiet]; exact .nil
  settled := by simp [quiet]

/-- Only a task whose call is out gets an answer. -/
theorem notMem_awaited (reached : Reached system rules start world)
    (idle : world.calling? system id = none) : id ∉ world.awaited := by
  rw [awaited_eq]
  intro awaited
  obtain ⟨happening, member, answers⟩ := List.mem_filterMap.mp awaited
  obtain ⟨other, call, same, waits, _⟩ := reached.settled happening member
  cases answers.symm.trans same
  rw [idle] at waits
  contradiction

/-- What becomes of a task that nobody answers does not matter to the answers on their way. -/
theorem settled_of_set (reached : Reached system rules start world) (alone : id ∉ world.awaited)
    {entry : τ × Bool} (standings : later.standings = world.standings.set id entry) :
    ∀ happening ∈ world.replies, ∃ id call, happening.answered? = some id ∧
      later.calling? system id = some call ∧ happening.settles call = true := by
  intro happening member
  obtain ⟨other, call, answers, waits, settles⟩ := reached.settled happening member
  have different : id ≠ other := fun same =>
    alone (same ▸ mem_awaited_of_mem_replies member answers)
  refine ⟨other, call, answers, ?_, settles⟩
  rw [calling?] at waits ⊢
  rwa [standings, List.getElem?_set_ne different]

/-- What the tasks share changes in any way that the rules allow. -/
theorem share (reached : Reached system rules start world) {act : Act τ} {common : σ}
    (step : system.Step world.situation act { world.situation with common := common })
    (allowed : ∀ trace,
      rules trace ⟨world.situation, act, { world.situation with common := common }⟩) :
    Reached system rules start { world with common := common } where
  run :=
    have ⟨trace, run⟩ := reached.run
    ⟨_, run.step step (allowed trace)⟩
  spared := reached.spared
  distinct := reached.distinct
  settled := reached.settled

variable (free : ∀ trace transition, transition.act.isInner = true → rules trace transition)

include free

/-- What nobody but the surroundings knows of is a shift, whatever it is. -/
theorem of_resembles (reached : Reached system rules start world)
    (alike : Resembles later world) : Reached system rules start later := by
  constructor
  case run =>
    obtain ⟨trace, run⟩ := reached.run
    have shifted : later.situation = { world.situation with view := later.view } := by
      simp only [situation, alike.common, alike.standings]
    exact ⟨_, shifted ▸ run.step (.shift later.view) (free _ _ rfl)⟩
  case spared => exact alike.connector ▸ reached.spared
  case distinct =>
    obtain ⟨middle, permuted, sublist⟩ := alike.awaited_subperm
    exact permuted.nodup_iff.mp (reached.distinct.sublist sublist)
  case settled =>
    intro happening member
    rw [show later.calling? system = world.calling? system from funext fun _ => alike.calling?_eq]
    exact reached.settled happening (alike.replies.subset member)

/-- A task that nobody answers goes on. -/
theorem put (reached : Reached system rules start world) (alone : id ∉ world.awaited)
    {act : Act τ} {after : σ × τ} {slots : Array (Slot τ)}
    (step : system.Step world.situation act (world.situation.put id after))
    (inner : act.isInner = true)
    (standings : slots.toList.map Slot.standing = world.standings.set id (after.2, false)) :
    Reached system rules start { world with common := after.1, slots := slots } := by
  constructor
  case run =>
    obtain ⟨trace, run⟩ := reached.run
    have same : ({ world with common := after.1, slots := slots } : World σ τ).situation =
        world.situation.put id after := by
      simp only [situation, Situation.put, World.standings, standings, List.map_set]
      rfl
    exact ⟨_, same ▸ run.step step (free _ _ inner)⟩
  case spared => exact reached.spared
  case distinct => exact reached.distinct
  case settled => exact reached.settled_of_set alone standings

theorem receive (reached : Reached system rules start world) (text : String) :
    Reached system rules start (world.receive system text) :=
  reached.share (.frame text) fun _ => free _ _ rfl

theorem countReconnect (reached : Reached system rules start world) :
    Reached system rules start { world with common := system.countReconnect world.common } :=
  reached.share .countReconnect fun _ => free _ _ rfl

end Reached

end RoomLoad

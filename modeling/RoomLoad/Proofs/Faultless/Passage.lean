import RoomLoad.Proofs.Handoff.Staff
import RoomLoad.Proofs.Pool.Turns

/-!
# The straight way through

A conductor that connects to one room after another makes one channel for each.  A worker
that finds the channel of every room in the pool, open, and whose sends succeed goes straight
from the queue to the next unit.
-/

namespace RoomLoad

theorem Config.generatorPlan_ne_error {config : Config} {fault : Fault}
    (valid : config.validate = .ok ()) : config.generatorPlan ≠ .error fault := by
  obtain ⟨_, _, _, plan, planned, _⟩ := of_validate valid
  simp [planned]

def IdRange.upTo (range : IdRange) (bound : Nat) : List UInt32 :=
  (List.range' range.low.toNat (bound - range.low.toNat)).map UInt32.ofNat

theorem IdRange.upTo_succ {range : IdRange} {number : Nat}
    (inside : range.low.toNat ≤ number) :
    range.upTo (number + 1) = range.upTo number ++ [UInt32.ofNat number] := by
  have longer : number + 1 - range.low.toNat = number - range.low.toNat + 1 := by omega
  rw [upTo, longer, List.range'_1_concat, List.map_append, Nat.add_sub_cancel' inside]
  rfl

/-- The pool has a channel for every room of a range below a bound, and for no other. -/
def Pool.Covers (pool : Pool) (range : IdRange) (bound : Nat) : Prop :=
  ∀ room : RoomId, (pool.channel? room).isSome = true ↔
    range.low.toNat ≤ room.toNat ∧ room.toNat < bound

namespace Pool.Covers

variable {pool later : Pool} {range : IdRange} {number : Nat}

theorem congr (covers : pool.Covers range number) (same : later.channels = pool.channels) :
    later.Covers range number := by
  intro room
  rw [channel?_congr same]
  exact covers room

private theorem toNat_ofNat (reached : number ≤ range.high.toNat) :
    (UInt32.ofNat number).toNat = number := by
  have top := range.high.toNat_lt
  rw [UInt32.toNat_ofNat', Nat.mod_eq_of_lt (by omega)]

theorem channel?_eq_none (covers : pool.Covers range number)
    (reached : number ≤ range.high.toNat) : pool.channel? (UInt32.ofNat number) = none := by
  rw [← Option.not_isSome_iff_eq_none, covers, toNat_ofNat reached]
  omega

theorem install (covers : pool.Covers range number) (inside : range.low.toNat ≤ number)
    (reached : number ≤ range.high.toNat) (fresh : ChannelId) :
    (pool.install (UInt32.ofNat number) fresh).Covers range (number + 1) := by
  intro room
  rw [channel?_install]
  split
  case isTrue same =>
    rw [same, toNat_ofNat reached]
    simp [inside]
  case isFalse different =>
    have apart : room.toNat ≠ number := by
      intro same
      apply different
      rw [← same, UInt32.ofNat_toNat]
    rw [covers room]
    omega

end Pool.Covers

namespace WorkerPhase

/-- A worker with a unit in hand that is known is on the straight way. -/
def Passes (known : OutboundUnit → Prop) (pool : Pool) : WorkerPhase → Prop
  | ready => True
  | receiving => True
  | finished => True
  | trying unit => known unit
  | resolving unit lookup => known unit ∧ lookup = .looking
  | checking unit channel => known unit ∧ pool.channel? unit.room = some channel
  | registering unit channel => known unit ∧ pool.channel? unit.room = some channel
  | sending unit channel => known unit ∧ pool.channel? unit.room = some channel
  | _ => False

/-- How many steps a worker on the straight way has taken since it had nothing to do. -/
def pace : WorkerPhase → Nat
  | receiving => 1
  | trying _ => 2
  | resolving _ _ => 3
  | checking _ _ => 4
  | registering _ _ => 5
  | sending _ _ => 6
  | finished => 2
  | _ => 0

theorem pace_le (phase : WorkerPhase) : phase.pace ≤ 6 := by
  cases phase <;> simp [pace]

variable {known other : OutboundUnit → Prop} {pool later : Pool} {phase : WorkerPhase}

theorem Passes.mono (passes : phase.Passes known pool)
    (implies : ∀ unit, known unit → other unit) : phase.Passes other pool := by
  cases phase with
  | trying unit => exact implies unit passes
  | resolving | checking | registering | sending => exact ⟨implies _ passes.1, passes.2⟩
  | _ => exact passes

/-- A worker that has nothing in hand does not mind what becomes of the pool. -/
theorem Passes.of_idle (passes : phase.Passes known pool) (idle : phase.seq? = none) :
    phase.Passes known later := by
  cases phase <;> first | exact passes | contradiction

end WorkerPhase

namespace Worker

variable {view : View} {task : TaskId} {desk later : Desk} {worker next : Worker}
  {answer : Option Answer} {known : OutboundUnit → Prop}

/-- What a step on the straight way comes to: the worker comes one step further, enters its
unit and sends it, or has sent it. -/
inductive Strides (known : OutboundUnit → Prop) (now : Instant) (desk : Desk) (worker : Worker) :
    Option Answer → Desk → Worker → Prop where
  | comesOn {later : Desk} {phase : WorkerPhase} :
      later.pool = desk.pool →
      later.ledger = desk.ledger →
      phase.pace = worker.phase.pace + 1 →
      worker.call? = none →
      (worker.goTo phase).call? = none →
      Strides known now desk worker none later (worker.goTo phase)
  | enters {unit : OutboundUnit} {channel : ChannelId} :
      known unit →
      worker.phase = .registering unit channel →
      Strides known now desk worker none { desk with ledger := desk.ledger.onSend now unit }
        (worker.goTo (.sending unit channel))
  | sends {unit : OutboundUnit} {channel : ChannelId} :
      known unit →
      worker.phase = .sending unit channel →
      Strides known now desk worker (some .done) desk worker.deliver

theorem Strides.pool_eq {now : Instant}
    (strides : Strides known now desk worker answer later next) : later.pool = desk.pool := by
  cases strides with
  | comesOn pool => exact pool
  | enters => rfl
  | sends => rfl

theorem Strides.report_eq {now : Instant}
    (strides : Strides known now desk worker answer later next) :
    next.report.abandoned = worker.report.abandoned ∧
      next.report.interrupted = worker.report.interrupted := by
  cases strides <;> exact ⟨rfl, rfl⟩

theorem Strides.steps_eq {now : Instant}
    (strides : Strides known now desk worker answer later next) :
    7 * next.report.sent + next.phase.pace = 7 * worker.report.sent + worker.phase.pace + 1 := by
  cases strides with
  | comesOn _ _ pace =>
      rw [goTo_phase, goTo_report, pace]
      rfl
  | enters _ registering =>
      rw [registering]
      rfl
  | sends _ sending =>
      rw [sending]
      exact Nat.mul_succ 7 worker.report.sent

/-- On the straight way nothing is waited for but sends. -/
theorem Strides.calls {now : Instant} (strides : Strides known now desk worker answer later next) :
    (worker.call? = none ∨ ∃ channel payload, worker.call? = some (.send channel payload)) ∧
      (next.call? = none ∨ ∃ channel payload, next.call? = some (.send channel payload)) := by
  cases strides with
  | comesOn _ _ _ waited waits => exact ⟨.inl waited, .inl waits⟩
  | enters _ here =>
      refine ⟨.inl ?_, .inr ⟨_, _, rfl⟩⟩
      rw [call?, here]
  | @sends unit channel _ here =>
      refine ⟨.inr ⟨channel, unit.wireText, ?_⟩, .inl rfl⟩
      rw [call?, here]

/-- A worker on the straight way waits for nothing but sends. -/
theorem call?_of_passes {pool : Pool} (passes : worker.phase.Passes known pool) :
    worker.call? = none ∨ ∃ unit channel, worker.phase = .sending unit channel ∧
      worker.call? = some (.send channel unit.wireText) := by
  unfold call?
  cases phase : worker.phase with
  | sending unit channel => exact .inr ⟨unit, channel, rfl, rfl⟩
  | resolving unit lookup =>
      rw [phase] at passes
      rw [passes.2]
      exact .inl rfl
  | reopening | resting =>
      rw [phase] at passes
      exact passes.elim
  | _ => exact .inl rfl

/-- A worker that passes strides on, as long as it sees the channels open and its sends
succeed. -/
theorem Goes.strides (goes : Goes view task desk worker answer later next)
    (passes : worker.phase.Passes known desk.pool) (calm : desk.shutdown = false)
    (queued : ∀ unit, .unit unit ∈ desk.queue.items → known unit)
    (tries : ∀ unit, known unit → unit.attempt < worker.policy.maxAttempts)
    (pooled : answer = none → ∀ unit, known unit → (desk.pool.channel? unit.room).isSome = true)
    (shown : answer = none → ∀ room channel, desk.pool.channel? room = some channel →
      view.isOpen channel = true)
    (sent : ∀ given unit channel, answer = some given → worker.phase = .sending unit channel →
      given = .done) :
    next.phase.Passes known later.pool ∧
      Strides known view.now desk worker answer later next := by
  have noCall : ∀ {phase : WorkerPhase}, worker.phase = phase →
      (worker.goTo phase).call? = none → worker.call? = none := by
    rintro phase rfl none
    exact none
  -- off the straight way a step needs a closed channel, a send that fails or a request to stop
  cases goes with
  | asks here =>
      exact ⟨True.intro, .comesOn rfl rfl (by rw [here]; rfl) (noCall here rfl) rfl⟩
  | endsAtStop here | endsAtHangUp here =>
      exact ⟨True.intro, .comesOn rfl rfl (by rw [here]; rfl) (noCall here rfl) rfl⟩
  | stops _ shutdown =>
      rw [calm] at shutdown
      contradiction
  | takes here taken =>
      refine ⟨?_, .comesOn rfl rfl (by rw [here]; rfl) (noCall here rfl) rfl⟩
      apply queued
      rw [UnitQueue.items_of_take taken]
      exact List.mem_cons_self
  | tries here left =>
      rw [here] at passes
      exact ⟨⟨passes, rfl⟩, .comesOn rfl rfl (by rw [here]; rfl) (noCall here rfl) rfl⟩
  | hasTried here none =>
      rw [here] at passes
      exact absurd (tries _ passes) (Nat.not_lt.mpr none)
  | @looks unit lookup pool progress here moved =>
      rw [here] at passes
      obtain ⟨isKnown, rfl⟩ := passes
      obtain ⟨channel, found⟩ := Option.isSome_iff_exists.mp (pooled rfl unit isKnown)
      have isOpen : desk.pool.openChannel? view unit.room = some channel := by
        rw [Pool.openChannel?, found, Option.filter_some, shown rfl unit.room channel found,
          if_pos rfl]
      rw [Lookup.move?, isOpen] at moved
      cases moved
      exact ⟨⟨isKnown, found⟩, .comesOn rfl rfl (by rw [here]; rfl) (noCall here rfl) rfl⟩
  | findsOpen here isOpen =>
      rw [here] at passes
      exact ⟨passes, .comesOn rfl rfl (by rw [here]; rfl) (noCall here rfl) rfl⟩
  | @findsClosed unit channel here closed =>
      rw [here] at passes
      rw [shown rfl unit.room channel passes.2] at closed
      contradiction
  | enters here =>
      rw [here] at passes
      exact ⟨passes, .enters passes.1 here⟩
  | looksOn here waits =>
      rw [here] at passes
      rw [passes.2] at waits
      contradiction
  | sends here =>
      rw [here] at passes
      exact ⟨True.intro, .sends passes.1 here⟩
  | fails here =>
      have done := sent _ _ _ rfl here
      contradiction
  | reopens here | withdraws here | findsAcknowledged here | rests here | hasFailed here
  | isInterrupted here | reopensOn here | wakes here =>
      rw [here] at passes
      exact passes.elim

end Worker

namespace Conductor

/-- Whether a conductor no longer waits for the generator and the workers. -/
def hasCollected : ConductorPhase → Bool
  | .starting => false
  | .prewarming _ _ => false
  | .launching => false
  | .awaiting => false
  | _ => true

/-- How far a conductor has come with the rooms: those that it has connected to, and those
that have their channels. -/
def Paves (config : Config) (pool : Pool) (connected : List RoomId) : ConductorPhase → Prop
  | .starting => pool.channels = [] ∧ connected = []
  | .prewarming room lookup =>
      config.rooms.low.toNat ≤ room ∧ room ≤ config.rooms.high.toNat ∧
        pool.Covers config.rooms room ∧ (∀ fresh stale, lookup ≠ .closing fresh stale) ∧
        connected = config.rooms.upTo (if lookup = .connecting then room + 1 else room)
  | .closing _ _ => connected = config.rooms.upTo (config.rooms.high.toNat + 1)
  | .finished _ => connected = config.rooms.upTo (config.rooms.high.toNat + 1)
  | _ => connected = config.rooms.upTo (config.rooms.high.toNat + 1) ∧
      pool.Covers config.rooms (config.rooms.high.toNat + 1)

def connect? (phase : ConductorPhase) : Option RoomId :=
  match call? phase with
  | some (.connect room) => some room
  | _ => none

variable {view : View} {task : TaskId} {state later : RunState} {phase next : ConductorPhase}
  {answer : Option Answer} {connected : List RoomId}

private theorem paves_of_silent {config : Config} {pool : Pool}
    (paves : Paves config pool connected next) (silent : connect? next = none) :
    Paves config pool (connected ++ (connect? next).toList) next := by
  rw [silent, Option.toList_none, List.append_nil]
  exact paves

private theorem paves_of_looks {room : Nat} {lookup : Lookup} {pool : Pool}
    {progress : Progress Lookup Lookup.Result}
    (paves : Paves state.config state.desk.pool connected (.prewarming room lookup))
    (moved : lookup.move? view task (UInt32.ofNat room) state.desk.pool =
      some (pool, progress)) :
    Paves state.config pool
      (connected ++ (connect? (afterLookup state.config room progress)).toList)
      (afterLookup state.config room progress) := by
  obtain ⟨inside, reached, covers, _, upTo⟩ := paves
  have missing : state.desk.pool.openChannel? view (UInt32.ofNat room) = none := by
    rw [Pool.openChannel?, covers.channel?_eq_none reached]
    rfl
  cases lookup with
  | looking =>
      rw [Lookup.move?, missing] at moved
      cases moved
      rw [if_neg Lookup.noConfusion] at upTo
      exact ⟨inside, reached, covers, fun _ _ => Lookup.noConfusion,
        by simpa [connect?, call?, Lookup.call?, afterLookup] using upTo⟩
  | asking =>
      cases moved
      rw [if_neg Lookup.noConfusion] at upTo
      exact ⟨inside, reached, covers.congr rfl, fun _ _ => Lookup.noConfusion,
        by simpa [connect?, call?, Lookup.call?, afterLookup] using upTo⟩
  | waiting =>
      rw [Lookup.move?] at moved
      split at moved <;> cases moved
      rw [if_neg Lookup.noConfusion] at upTo
      exact ⟨inside, reached, covers, fun _ _ => Lookup.noConfusion,
        by simpa [connect?, call?, Lookup.call?, afterLookup] using upTo⟩
  | rechecking =>
      rw [Lookup.move?, missing] at moved
      cases moved
      rw [if_neg Lookup.noConfusion] at upTo
      refine ⟨inside, reached, covers, fun _ _ => Lookup.noConfusion, ?_⟩
      rw [if_pos rfl, IdRange.upTo_succ inside, upTo]
      rfl
  | connecting => contradiction
  | closing => contradiction

private theorem paves_of_connected {room : Nat} {lookup : Lookup} {call : Call} {given : Answer}
    (paves : Paves state.config state.desk.pool connected (.prewarming room lookup))
    (waits : lookup.call? (UInt32.ofNat room) = some call)
    (yields : ∀ room, call = .connect room → ∃ fresh, given = .connected fresh) :
    Paves state.config (lookup.resume (UInt32.ofNat room) state.desk.pool given).1
      (connected ++ (connect? (afterLookup state.config room
        (lookup.resume (UInt32.ofNat room) state.desk.pool given).2)).toList)
      (afterLookup state.config room
        (lookup.resume (UInt32.ofNat room) state.desk.pool given).2) := by
  obtain ⟨inside, reached, covers, standing, upTo⟩ := paves
  cases lookup with
  | connecting =>
      cases waits
      obtain ⟨fresh, rfl⟩ := yields _ rfl
      have missing := covers.channel?_eq_none reached
      have further := (covers.install inside reached fresh).congr
        (show (state.desk.pool.install (UInt32.ofNat room) fresh).release.channels = _ from rfl)
      rw [if_pos rfl] at upTo
      rw [Lookup.resume, Lookup.install, missing]
      dsimp only
      rw [afterLookup, nextRoom]
      split
      case isTrue more =>
        refine ⟨by omega, more, further, fun _ _ => Lookup.noConfusion, ?_⟩
        simpa [connect?, call?, Lookup.call?] using upTo
      case isFalse done =>
        have atEnd : room = state.config.rooms.high.toNat := by omega
        subst atEnd
        exact ⟨by simpa [connect?, call?, Lookup.call?] using upTo, further⟩
  | closing fresh stale => exact absurd rfl (standing fresh stale)
  | _ => contradiction

theorem Goes.paves (goes : Goes view task state phase answer later next)
    (paves : Paves state.config state.desk.pool connected phase)
    (valid : state.config.validate = .ok ())
    (yields : ∀ given room, answer = some given → call? phase = some (.connect room) →
      ∃ fresh, given = .connected fresh) :
    Paves state.config later.desk.pool (connected ++ (connect? next).toList) next := by
  cases goes with
  | refuses _ invalid => cases valid.symm.trans invalid
  | hasNoPlan _ unplanned => exact absurd unplanned (Config.generatorPlan_ne_error valid)
  | begins starting =>
      rw [starting] at paves
      obtain ⟨nothing, none⟩ := paves
      have inhabited := (Config.bounds_of_validate valid).2
      simp only [IdRange.isEmpty, decide_eq_false_iff_not, UInt32.lt_iff_toNat_lt] at inhabited
      refine ⟨Nat.le_refl _, by omega, ?_, fun _ _ => Lookup.noConfusion, ?_⟩
      · intro room
        simp only [Pool.channel?, nothing, List.lookup_nil, Option.isSome_none, Bool.false_eq_true,
          false_iff]
        omega
      · simp [none, connect?, call?, Lookup.call?, IdRange.upTo]
  | looks here moved =>
      rw [here] at paves
      exact paves_of_looks paves moved
  | looksOn here waits =>
      rw [here] at paves
      apply paves_of_connected paves waits
      rintro room rfl
      exact yields _ room rfl (by rw [here]; exact waits)
  | launches here | collects here | falls here | isDrained here | timesOut here | pauses here
  | wakes here =>
      rw [here] at paves
      exact paves_of_silent paves rfl
  | clears here =>
      rw [here] at paves
      exact paves_of_silent paves.1 rfl
  | finishes here same =>
      rw [here] at paves
      rw [same]
      exact paves_of_silent paves rfl

theorem connect?_eq_some_iff {room : RoomId} :
    connect? phase = some room ↔ call? phase = some (.connect room) := by
  unfold connect?
  split
  case h_1 other waits => simp [waits]
  case h_2 others =>
    simp only [reduceCtorEq, false_iff]
    exact others room

/-- A conductor neither sends nor reconnects. -/
theorem call?_cases (phase : ConductorPhase) :
    call? phase = none ∨ (∃ room, call? phase = some (.connect room)) ∨
      (∃ channels, call? phase = some (.close channels)) ∨
      ∃ interval, call? phase = some (.sleep interval) := by
  cases phase with
  | prewarming room lookup =>
      cases lookup with
      | connecting => exact .inr (.inl ⟨_, rfl⟩)
      | closing fresh stale => exact .inr (.inr (.inl ⟨_, rfl⟩))
      | _ => exact .inl rfl
  | pausing deadline interval => exact .inr (.inr (.inr ⟨_, rfl⟩))
  | closing channels timedOut => exact .inr (.inr (.inl ⟨_, rfl⟩))
  | _ => exact .inl rfl

theorem call?_ne_send {channel : ChannelId} {payload : String} :
    call? phase ≠ some (.send channel payload) := by
  intro calls
  have others := call?_cases phase
  simp [calls] at others

theorem call?_ne_reconnect {channel : ChannelId} : call? phase ≠ some (.reconnect channel) := by
  intro calls
  have others := call?_cases phase
  simp [calls] at others

theorem eq_pausing_of_call? {interval : Duration} (sleeps : call? phase = some (.sleep interval)) :
    ∃ deadline, phase = .pausing deadline interval := by
  cases phase with
  | pausing deadline own =>
      cases sleeps
      exact ⟨deadline, rfl⟩
  | prewarming room lookup => cases lookup <;> cases sleeps
  | _ => cases sleeps

theorem Goes.ne_finished (goes : Goes view task state phase answer later next)
    (result : Except Fault RunSummary) : phase ≠ .finished result := by
  rintro rfl
  cases goes <;> contradiction

theorem Goes.lasting (goes : Goes view task state phase answer later next)
    (paves : Paves state.config state.desk.pool connected phase) {given : Answer}
    {channels : List ChannelId} (answered : answer = some given)
    (closes : call? phase = some (.close channels)) : ∃ result, next = .finished result := by
  cases goes with
  | @looksOn room lookup call answer here waits =>
      rw [here] at paves closes
      cases lookup with
      | closing fresh stale => exact absurd rfl (paves.2.2.2.1 fresh stale)
      | _ => cases closes
  | wakes here =>
      rw [here] at closes
      cases closes
  | finishes => exact ⟨_, rfl⟩
  | _ => contradiction

theorem hasCollected_afterLookup {config : Config} {room : Nat}
    {progress : Progress Lookup Lookup.Result} :
    hasCollected (afterLookup config room progress) = false := by
  cases progress with
  | going lookup => rfl
  | ended result =>
      rw [afterLookup, nextRoom]
      split <;> rfl

/-- A conductor that no longer waits has seen the generator and all workers end. -/
theorem Goes.collected (goes : Goes view task state phase answer later next)
    (valid : state.config.validate = .ok ()) (collected : hasCollected next = true) :
    hasCollected phase = true ∨
      (state.generated.isSome = true ∧ state.config.senderWorkers ≤ state.ended) := by
  cases goes with
  | refuses _ invalid => cases valid.symm.trans invalid
  | hasNoPlan _ unplanned => exact absurd unplanned (Config.generatorPlan_ne_error valid)
  | looks | looksOn =>
      rw [hasCollected_afterLookup] at collected
      contradiction
  | begins | launches => contradiction
  | collects _ reported ended => exact .inr ⟨reported, ended⟩
  | falls _ reported ended => exact .inr ⟨reported, ended⟩
  | isDrained here | timesOut here | pauses here | clears here | wakes here | finishes here =>
      rw [here]
      exact .inl rfl

/-- A conductor that no longer waits has gone down, or the clock can name moments as far away
as it has patience for. -/
theorem Goes.named (goes : Goes view task state phase answer later next)
    (valid : state.config.validate = .ok ()) (collected : hasCollected next = true)
    (before : hasCollected phase = true → phase = .crashed ∨
      (deadline? 0 state.config.drainTimeout).isSome = true) :
    next = .crashed ∨ (deadline? 0 state.config.drainTimeout).isSome = true := by
  cases goes with
  | refuses _ invalid => cases valid.symm.trans invalid
  | hasNoPlan _ unplanned => exact absurd unplanned (Config.generatorPlan_ne_error valid)
  | looks | looksOn =>
      rw [hasCollected_afterLookup] at collected
      contradiction
  | begins | launches => contradiction
  | collects _ _ _ named =>
      right
      unfold deadline? at named ⊢
      split at named
      case isTrue inReach =>
        rw [if_pos (Nat.lt_of_le_of_lt (Nat.add_le_add_right (Nat.zero_le _) _) inReach)]
        rfl
      case isFalse => contradiction
  | falls => exact .inl rfl
  | isDrained here | timesOut here | pauses here | clears here | wakes here | finishes here =>
      subst here
      rcases before rfl with contrary | named
      · contradiction
      · exact .inr named

/-- A conductor changes the pool only before the others begin and after they have ended. -/
theorem Goes.pool_eq (goes : Goes view task state phase answer later next) :
    later.desk.pool = state.desk.pool ∨ isPreparing phase = true ∨ hasCollected phase = true := by
  cases goes with
  | looks here | looksOn here =>
      rw [here]
      exact .inr (.inl rfl)
  | clears here =>
      rw [here]
      exact .inr (.inr rfl)
  | finishes here same =>
      rw [same]
      exact .inl rfl
  | _ => exact .inl rfl

private theorem channels_of_move? {room : RoomId} {lookup : Lookup} {pool other : Pool}
    {progress : Progress Lookup Lookup.Result}
    (moved : lookup.move? view task room pool = some (other, progress)) :
    other.channels = pool.channels := by
  cases lookup with
  | looking | rechecking =>
      rw [Lookup.move?] at moved
      split at moved <;> cases moved <;> rfl
  | asking =>
      cases moved
      rfl
  | waiting =>
      rw [Lookup.move?] at moved
      split at moved <;> cases moved
      rfl
  | _ => contradiction

private theorem channel?_resume {room other : RoomId} {lookup : Lookup} {call : Call}
    {pool : Pool} {given : Answer} {channel : ChannelId}
    (waits : lookup.call? room = some call) (returns : call.Returns given)
    (found : (lookup.resume room pool given).1.channel? other = some channel) :
    pool.channel? other = some channel ∨
      (call = .connect room ∧ given = .connected channel) := by
  cases lookup with
  | connecting =>
      cases waits
      cases returns with
      | refused => exact .inl found
      | connected _ fresh =>
          have installed : (Lookup.install room pool fresh).1.channel? other =
              (pool.install room fresh).channel? other := by
            rw [Lookup.install]
            split
            case h_1 => split <;> rfl
            case h_2 => rfl
          rw [Lookup.resume, installed, Pool.channel?_install] at found
          split at found
          case isTrue =>
            cases found
            exact .inr ⟨rfl, rfl⟩
          case isFalse => exact .inl found
  | closing fresh stale =>
      cases returns <;> exact .inl found
  | _ => contradiction

theorem Goes.channels (goes : Goes view task state phase answer later next) {room : RoomId}
    {channel : ChannelId} (found : later.desk.pool.channel? room = some channel) :
    state.desk.pool.channel? room = some channel ∨ ∃ other,
      answer = some (.connected channel) ∧ call? phase = some (.connect other) := by
  cases goes with
  | looks here moved =>
      have same := Pool.channel?_congr (channels_of_move? moved) room
      exact .inl (same.symm.trans found)
  | @looksOn _ _ _ given here waits returns =>
      rcases channel?_resume waits returns found with before | ⟨rfl, rfl⟩
      · exact .inl before
      · exact .inr ⟨_, rfl, (congrArg call? here).trans waits⟩
  | clears here => contradiction
  | finishes here same =>
      rw [same] at found
      exact .inl found
  | _ => exact .inl found

end Conductor

end RoomLoad

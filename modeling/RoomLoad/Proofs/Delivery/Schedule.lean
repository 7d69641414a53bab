import RoomLoad.Proofs.Delivery.Effort

/-!
# How a unit is retried

A worker tries a unit until a try succeeds or the policy allows no more, and rests between
two tries.  What it does about a unit is therefore told by how many tries fail: the tries
and the rests between them come in a fixed order, and after the last try there is no rest.
-/

namespace RoomLoad

/-- What a worker does about the unit that it has in hand. -/
inductive RetryDeed where
  /-- It begins a try. -/
  | tries (unit : OutboundUnit)
  | fails
  /-- It begins to rest. -/
  | rests (duration : Duration)
  | sends
  | abandons
deriving DecidableEq

namespace RetryDeed

def unit? : RetryDeed → Option OutboundUnit
  | tries unit => some unit
  | _ => none

def duration? : RetryDeed → Option Duration
  | rests duration => some duration
  | _ => none

/-- Whether a try has succeeded, if one is over. -/
def outcome? : RetryDeed → Option Bool
  | fails => some false
  | sends => some true
  | _ => none

end RetryDeed

def triesOf (deeds : List RetryDeed) : List OutboundUnit :=
  deeds.filterMap RetryDeed.unit?

def restsOf (deeds : List RetryDeed) : List Duration :=
  deeds.filterMap RetryDeed.duration?

def outcomesOf (deeds : List RetryDeed) : List Bool :=
  deeds.filterMap RetryDeed.outcome?

/-- A unit after so many failed tries. -/
def OutboundUnit.retried (unit : OutboundUnit) (failed : Nat) : OutboundUnit :=
  { unit with attempt := failed }

namespace RetryPolicy

variable (policy : RetryPolicy) (unit : OutboundUnit)

/-- The rests between so many failed tries and the next one. -/
def waits (failed : Nat) : List Duration :=
  (List.range failed).map fun earlier => policy.backoff (earlier + 1)

/-- What is done until a unit is tried again after so many failed tries. -/
def setbacks (failed : Nat) : List RetryDeed :=
  (List.range failed).flatMap fun earlier =>
    [.tries (unit.retried earlier), .fails, .rests (policy.backoff (earlier + 1))]

/-- What is done about a unit when a try succeeds after so many failed ones. -/
def success (failed : Nat) : List RetryDeed :=
  policy.setbacks unit failed ++ [.tries (unit.retried failed), .sends]

/-- What is done about a unit when every try fails. -/
def exhaustion : List RetryDeed :=
  match policy.maxAttempts with
  | 0 => [.abandons]
  | last + 1 => policy.setbacks unit last ++ [.tries (unit.retried last), .fails, .abandons]

variable {policy unit} {failed : Nat}

theorem setbacks_succ (failed : Nat) :
    policy.setbacks unit (failed + 1) = policy.setbacks unit failed ++
      [.tries (unit.retried failed), .fails, .rests (policy.backoff (failed + 1))] := by
  simp [setbacks, List.range_succ]

theorem triesOf_setbacks (failed : Nat) :
    triesOf (policy.setbacks unit failed) = (List.range failed).map unit.retried := by
  induction failed with
  | zero => rfl
  | succ failed induction =>
      rw [setbacks_succ, List.range_succ, List.map_append, ← induction, triesOf,
        List.filterMap_append]
      rfl

theorem restsOf_setbacks (failed : Nat) :
    restsOf (policy.setbacks unit failed) = policy.waits failed := by
  induction failed with
  | zero => rfl
  | succ failed induction =>
      rw [setbacks_succ, waits, List.range_succ, List.map_append, ← waits, ← induction, restsOf,
        List.filterMap_append]
      rfl

theorem outcomesOf_setbacks (failed : Nat) :
    outcomesOf (policy.setbacks unit failed) = List.replicate failed false := by
  induction failed with
  | zero => rfl
  | succ failed induction =>
      rw [setbacks_succ, List.replicate_succ', ← induction, outcomesOf, List.filterMap_append]
      rfl

theorem triesOf_success (failed : Nat) :
    triesOf (policy.success unit failed) = (List.range (failed + 1)).map unit.retried := by
  rw [List.range_succ, List.map_append, ← triesOf_setbacks, success, triesOf,
    List.filterMap_append]
  rfl

theorem restsOf_success (failed : Nat) :
    restsOf (policy.success unit failed) = policy.waits failed := by
  rw [← restsOf_setbacks, success, restsOf, List.filterMap_append]
  exact List.append_nil _

theorem outcomesOf_success (failed : Nat) :
    outcomesOf (policy.success unit failed) = List.replicate failed false ++ [true] := by
  rw [← outcomesOf_setbacks, success, outcomesOf, List.filterMap_append]
  rfl

theorem triesOf_exhaustion :
    triesOf (policy.exhaustion unit) = (List.range policy.maxAttempts).map unit.retried := by
  unfold exhaustion
  split
  case h_1 none =>
    rw [none]
    rfl
  case h_2 last some =>
    rw [some, List.range_succ, List.map_append, ← triesOf_setbacks, triesOf,
      List.filterMap_append]
    rfl

theorem restsOf_exhaustion :
    restsOf (policy.exhaustion unit) = policy.waits (policy.maxAttempts - 1) := by
  unfold exhaustion
  split
  case h_1 none =>
    rw [none]
    rfl
  case h_2 last some =>
    rw [some, Nat.succ_sub_one, ← restsOf_setbacks, restsOf, List.filterMap_append]
    exact List.append_nil _

theorem outcomesOf_exhaustion :
    outcomesOf (policy.exhaustion unit) = List.replicate policy.maxAttempts false := by
  unfold exhaustion
  split
  case h_1 none =>
    rw [none]
    rfl
  case h_2 last some =>
    rw [some, List.replicate_succ', ← outcomesOf_setbacks, outcomesOf, List.filterMap_append]
    rfl

end RetryPolicy

/-- The tries that are over have come out as a sequence of outcomes says. -/
def Agrees (succeeds : Nat → Bool) (deeds : List RetryDeed) : Prop :=
  ∀ earlier outcome, (outcomesOf deeds)[earlier]? = some outcome → succeeds earlier = outcome

/-- The first try that succeeds comes after so many failed ones. -/
def SucceedsFirst (succeeds : Nat → Bool) (failed : Nat) : Prop :=
  succeeds failed = true ∧ ∀ earlier < failed, succeeds earlier = false

def WorkerPhase.attempted? : WorkerPhase → Option OutboundUnit
  | resolving unit _ => some unit
  | checking unit _ => some unit
  | reopening unit _ _ => some unit
  | registering unit _ => some unit
  | sending unit _ => some unit
  | withdrawing unit => some unit
  | _ => none

def WorkerPhase.unit? : WorkerPhase → Option OutboundUnit
  | trying unit => some unit
  | failing unit => some unit
  | resting unit => some unit
  | phase => phase.attempted?

/-- What has been done about a unit that is let go of, and how often it counts as a failure. -/
inductive Concluded (policy : RetryPolicy) (unit : OutboundUnit) : List RetryDeed → Nat → Prop where
  | sent {failed : Nat} :
      failed < policy.maxAttempts →
      Concluded policy unit (policy.success unit failed) 0
  | abandoned : Concluded policy unit (policy.exhaustion unit) 1

/-- What has been done so far about a unit that comes in untried, by where its worker
stands. -/
inductive Underway (policy : RetryPolicy) (unit : OutboundUnit) :
    WorkerPhase → List RetryDeed → Nat → Prop where
  | tries {failed : Nat} :
      failed = 0 ∨ failed < policy.maxAttempts →
      Underway policy unit (.trying (unit.retried failed)) (policy.setbacks unit failed) 0
  | attempts {phase : WorkerPhase} {failed : Nat} :
      phase.attempted? = some (unit.retried failed) →
      failed < policy.maxAttempts →
      Underway policy unit phase
        (policy.setbacks unit failed ++ [.tries (unit.retried failed)]) 0
  | fails {failed : Nat} :
      failed < policy.maxAttempts →
      Underway policy unit (.failing (unit.retried failed))
        (policy.setbacks unit failed ++ [.tries (unit.retried failed), .fails]) 0
  | rests {failed : Nat} :
      failed < policy.maxAttempts →
      Underway policy unit (.resting (unit.retried failed)) (policy.setbacks unit failed) 0
  | concluded {phase : WorkerPhase} {deeds : List RetryDeed} {failures : Nat} :
      phase.seq? = none →
      Concluded policy unit deeds failures →
      Underway policy unit phase deeds failures

theorem WorkerPhase.seq?_of_attempted? {phase : WorkerPhase} {tried : OutboundUnit}
    (isAt : phase.attempted? = some tried) : phase.seq? = some tried.seq := by
  cases phase <;> first | contradiction | (cases isAt; rfl)

theorem WorkerPhase.seq?_of_unit? {phase : WorkerPhase} {held : OutboundUnit}
    (inHand : phase.unit? = some held) : phase.seq? = some held.seq := by
  cases phase <;> first | contradiction | (cases inHand; rfl)

namespace Concluded

variable {policy : RetryPolicy} {unit : OutboundUnit} {deeds : List RetryDeed} {failures : Nat}
  {succeeds : Nat → Bool}

/-- If a try that is allowed succeeds, the first such try is the last one. -/
theorem eq_success (concluded : Concluded policy unit deeds failures)
    (agrees : Agrees succeeds deeds) {failed : Nat} (allowed : failed < policy.maxAttempts)
    (first : SucceedsFirst succeeds failed) :
    deeds = policy.success unit failed ∧ failures = 0 := by
  obtain ⟨succeeded, before⟩ := first
  cases concluded with
  | @sent last _ =>
      have outcomes : outcomesOf (policy.success unit last) = List.replicate last false ++ [true] :=
        RetryPolicy.outcomesOf_success last
      have lastSucceeds : succeeds last = true := agrees last true (by simp [outcomes])
      have same : last = failed := by
        rcases Nat.lt_trichotomy last failed with early | same | late
        · rw [before last early] at lastSucceeds
          contradiction
        · exact same
        · have fails : succeeds failed = false := agrees failed false (by
            rw [outcomes, List.getElem?_append_left (by simpa using late)]
            simp [late])
          rw [succeeded] at fails
          contradiction
      exact ⟨same ▸ rfl, rfl⟩
  | abandoned =>
      have fails : succeeds failed = false := agrees failed false (by
        rw [RetryPolicy.outcomesOf_exhaustion]
        simp [allowed])
      rw [succeeded] at fails
      contradiction

/-- If no try that is allowed succeeds, all of them are made and the unit is abandoned. -/
theorem eq_exhaustion (concluded : Concluded policy unit deeds failures)
    (agrees : Agrees succeeds deeds)
    (hopeless : ∀ earlier < policy.maxAttempts, succeeds earlier = false) :
    deeds = policy.exhaustion unit ∧ failures = 1 := by
  cases concluded with
  | @sent last allowed =>
      have lastSucceeds : succeeds last = true := agrees last true (by
        rw [RetryPolicy.outcomesOf_success]
        simp)
      rw [hopeless last allowed] at lastSucceeds
      contradiction
  | abandoned => exact ⟨rfl, rfl⟩

end Concluded

namespace Underway

variable {policy : RetryPolicy} {unit tried : OutboundUnit} {phase : WorkerPhase}
  {deeds : List RetryDeed} {failures : Nat}

theorem of_attempted? (underway : Underway policy unit phase deeds failures)
    (isAt : phase.attempted? = some tried) :
    ∃ failed, failed < policy.maxAttempts ∧ tried = unit.retried failed ∧
      deeds = policy.setbacks unit failed ++ [.tries (unit.retried failed)] ∧ failures = 0 := by
  cases underway with
  | @attempts _ failed same allowed =>
      rw [isAt, Option.some.injEq] at same
      exact ⟨failed, allowed, same, rfl, rfl⟩
  | concluded none =>
      rw [WorkerPhase.seq?_of_attempted? isAt] at none
      contradiction
  | tries | fails | rests => contradiction

theorem goes_on (underway : Underway policy unit phase deeds failures)
    (isAt : phase.attempted? = some tried) {after : WorkerPhase}
    (stays : after.attempted? = some tried) : Underway policy unit after deeds failures := by
  obtain ⟨failed, allowed, rfl, rfl, rfl⟩ := underway.of_attempted? isAt
  exact .attempts stays allowed

theorem fail (underway : Underway policy unit phase deeds failures)
    (isAt : phase.attempted? = some tried) :
    Underway policy unit (.failing tried) (deeds ++ [.fails]) failures := by
  obtain ⟨failed, allowed, rfl, rfl, rfl⟩ := underway.of_attempted? isAt
  rw [List.append_assoc]
  exact .fails allowed

theorem send (underway : Underway policy unit phase deeds failures)
    (isAt : phase.attempted? = some tried) :
    Underway policy unit .ready (deeds ++ [.sends]) failures := by
  obtain ⟨failed, allowed, rfl, rfl, rfl⟩ := underway.of_attempted? isAt
  rw [List.append_assoc]
  exact .concluded rfl (.sent allowed)

theorem of_idle (underway : Underway policy unit phase deeds failures) (idle : phase.seq? = none) :
    Concluded policy unit deeds failures := by
  cases underway with
  | attempts isAt =>
      rw [WorkerPhase.seq?_of_attempted? isAt] at idle
      contradiction
  | concluded _ concluded => exact concluded
  | tries | fails | rests => contradiction

/-- What a worker has in hand is the unit that came in, and another try of it is allowed unless
it is still untried. -/
theorem of_unit? {held : OutboundUnit} (underway : Underway policy unit phase deeds failures)
    (inHand : phase.unit? = some held) :
    ∃ failed, held = unit.retried failed ∧ (failed = 0 ∨ failed < policy.maxAttempts) := by
  cases underway with
  | @tries failed early =>
      cases inHand
      exact ⟨failed, rfl, early⟩
  | @attempts _ failed isAt allowed =>
      have same : some (unit.retried failed) = some held := by
        rw [← isAt, ← inHand]
        cases phase <;> first | contradiction | rfl
      cases same
      exact ⟨failed, rfl, .inr allowed⟩
  | @fails failed allowed | @rests failed allowed =>
      cases inHand
      exact ⟨failed, rfl, .inr allowed⟩
  | concluded none =>
      rw [WorkerPhase.seq?_of_unit? inHand] at none
      contradiction

theorem of_failing (underway : Underway policy unit (.failing tried) deeds failures) :
    tried.nextAttempt.attempt ≤ policy.maxAttempts := by
  cases underway with
  | fails allowed => exact allowed
  | attempts | concluded => contradiction

theorem mem_triesOf (underway : Underway policy unit phase deeds failures)
    (member : tried ∈ triesOf deeds) :
    ∃ earlier < policy.maxAttempts, tried = unit.retried earlier := by
  have among : ∀ count ≤ policy.maxAttempts, tried ∈ (List.range count).map unit.retried →
      ∃ earlier < policy.maxAttempts, tried = unit.retried earlier := by
    intro count atMost inRange
    obtain ⟨earlier, early, rfl⟩ := List.mem_map.mp inRange
    exact ⟨earlier, Nat.lt_of_lt_of_le (List.mem_range.mp early) atMost, rfl⟩
  have extended : ∀ failed < policy.maxAttempts, ∀ more,
      triesOf more = [unit.retried failed] →
      tried ∈ triesOf (policy.setbacks unit failed ++ more) →
      ∃ earlier < policy.maxAttempts, tried = unit.retried earlier := by
    intro failed allowed more last inDeeds
    refine among (failed + 1) allowed ?_
    rw [triesOf, List.filterMap_append, ← triesOf, ← triesOf, last,
      RetryPolicy.triesOf_setbacks] at inDeeds
    rw [List.range_succ, List.map_append]
    exact inDeeds
  cases underway with
  | @tries failed early =>
      rw [RetryPolicy.triesOf_setbacks] at member
      exact among failed (by omega) member
  | attempts _ allowed => exact extended _ allowed _ rfl member
  | fails allowed => exact extended _ allowed _ rfl member
  | rests allowed =>
      rw [RetryPolicy.triesOf_setbacks] at member
      exact among _ (Nat.le_of_lt allowed) member
  | concluded _ concluded =>
      cases concluded with
      | sent allowed => exact extended _ allowed _ rfl member
      | abandoned =>
          rw [RetryPolicy.triesOf_exhaustion] at member
          exact among _ (Nat.le_refl _) member

theorem length_restsOf_lt (underway : Underway policy unit phase deeds failures) :
    (restsOf deeds).length < max 1 policy.maxAttempts := by
  have waits : ∀ failed, (policy.waits failed).length = failed := by
    simp [RetryPolicy.waits]
  have extended : ∀ failed more, restsOf more = [] →
      (restsOf (policy.setbacks unit failed ++ more)).length = failed := by
    intro failed more none
    rw [restsOf, List.filterMap_append, ← restsOf, ← restsOf, none, List.append_nil,
      RetryPolicy.restsOf_setbacks, waits]
  cases underway with
  | @tries failed early =>
      rw [RetryPolicy.restsOf_setbacks, waits]
      omega
  | @attempts _ failed _ allowed =>
      rw [extended failed _ rfl]
      omega
  | @fails failed allowed =>
      rw [extended failed _ rfl]
      omega
  | @rests failed allowed =>
      rw [RetryPolicy.restsOf_setbacks, waits]
      omega
  | concluded _ concluded =>
      cases concluded with
      | @sent failed allowed =>
          rw [RetryPolicy.restsOf_success, waits]
          omega
      | abandoned =>
          rw [RetryPolicy.restsOf_exhaustion, waits]
          omega

end Underway

namespace Worker

/-- What a worker does about its unit in a step, if it does anything that counts. -/
def retryDeed? (worker later : Worker) : Option RetryDeed :=
  if worker.report.sent < later.report.sent then some .sends
  else if worker.report.abandoned < later.report.abandoned then some .abandons
  else
    match worker.phase, later.phase with
    | .trying unit, .resolving _ _ => some (.tries unit)
    | .failing _, _ =>
        match later.call? with
        | some (.sleep duration) => some (.rests duration)
        | _ => none
    | _, .failing _ => some .fails
    | _, _ => none

variable {view : View} {task : TaskId} {desk later : Desk} {worker next : Worker}
  {answer : Option Answer} {unit : OutboundUnit} {deeds : List RetryDeed} {failures : Nat}

theorem sending_of_call? {channel : ChannelId} {payload : String}
    (calls : worker.call? = some (.send channel payload)) :
    ∃ unit, worker.phase = .sending unit channel ∧ payload = unit.wireText := by
  unfold call? at calls
  split at calls
  case h_1 unit lookup _ => cases lookup <;> cases calls
  case h_2 unit channel reopening _ => cases reopening <;> cases calls
  case h_3 unit channel sending =>
    cases calls
    exact ⟨unit, sending, rfl⟩
  case h_4 | h_5 => cases calls

private theorem underway_afterLookup {tried : OutboundUnit} {lookup : Lookup}
    (progress : Progress Lookup Lookup.Result) (resolving : worker.phase = .resolving tried lookup)
    (underway : Underway worker.policy unit worker.phase deeds failures) :
    Underway worker.policy unit (worker.afterLookup tried progress).phase
      (deeds ++ (worker.retryDeed? (worker.afterLookup tried progress)).toList) failures := by
  have isAt : worker.phase.attempted? = some tried := by rw [resolving]; rfl
  rcases progress with going | (fault | channel)
  case ended.error => simpa [retryDeed?, afterLookup, resolving] using underway.fail isAt
  all_goals simpa [retryDeed?, afterLookup, resolving] using underway.goes_on isAt rfl

private theorem underway_afterReopening {tried : OutboundUnit} {channel : ChannelId}
    {reopening : Reopening} (progress : Progress Reopening Reopening.Result)
    (reopens : worker.phase = .reopening tried channel reopening)
    (underway : Underway worker.policy unit worker.phase deeds failures) :
    Underway worker.policy unit (worker.afterReopening tried channel progress).phase
      (deeds ++ (worker.retryDeed? (worker.afterReopening tried channel progress)).toList)
      failures := by
  have isAt : worker.phase.attempted? = some tried := by rw [reopens]; rfl
  rcases progress with going | (fault | ⟨⟩)
  case ended.error => simpa [retryDeed?, afterReopening, reopens] using underway.fail isAt
  all_goals simpa [retryDeed?, afterReopening, reopens] using underway.goes_on isAt rfl

/-- How often a step counts as a failure. -/
def failuresIn (desk later : Desk) : Nat :=
  later.ledger.metrics.failure - desk.ledger.metrics.failure

theorem Goes.underway (goes : Goes view task desk worker answer later next)
    (calm : desk.shutdown = false) (inHand : worker.phase.seq?.isSome = true)
    (underway : Underway worker.policy unit worker.phase deeds failures) :
    Underway worker.policy unit next.phase (deeds ++ (worker.retryDeed? next).toList)
      (failures + failuresIn desk later) := by
  cases goes with
  | asks phase | takes phase | endsAtStop phase | endsAtHangUp phase =>
      rw [phase] at inHand
      contradiction
  | stops idle =>
      rcases idle with phase | phase <;> (rw [phase] at inHand; contradiction)
  | isInterrupted _ shutdown =>
      rw [calm] at shutdown
      contradiction
  | looks resolving _ =>
      simpa [failuresIn] using underway_afterLookup _ resolving underway
  | looksOn resolving _ _ =>
      simpa [failuresIn] using underway_afterLookup _ resolving underway
  | reopens reopens _ =>
      simpa [failuresIn] using underway_afterReopening _ reopens underway
  | reopensOn reopens _ _ =>
      simpa [failuresIn] using underway_afterReopening _ reopens underway
  | @findsOpen tried _ phase _ | @findsClosed tried _ phase _ | @enters tried _ phase
  | @fails tried _ _ phase =>
      have isAt : worker.phase.attempted? = some tried := by rw [phase]; rfl
      simpa [retryDeed?, goTo, phase, failuresIn, Ledger.onSend] using underway.goes_on isAt rfl
  | @withdraws tried _ phase found =>
      have isAt : worker.phase.attempted? = some tried := by rw [phase]; rfl
      simpa [retryDeed?, goTo, phase, failuresIn, Ledger.withdraw_of_found found] using
        underway.fail isAt
  | @findsAcknowledged tried phase _ | @sends tried _ phase =>
      have isAt : worker.phase.attempted? = some tried := by rw [phase]; rfl
      simpa [retryDeed?, deliver, failuresIn] using underway.send isAt
  | tries phase allowed =>
      rw [phase] at underway
      cases underway with
      | @tries failed _ =>
          have begins : Underway worker.policy unit
              (.resolving (unit.retried failed) .looking) _ 0 := .attempts rfl allowed
          simpa [retryDeed?, goTo, phase, failuresIn] using begins
      | attempts | concluded => contradiction
  | hasTried phase noMore =>
      rw [phase] at underway
      cases underway with
      | @tries failed early =>
          -- only a policy without any tries comes here: a try that follows a rest is always allowed
          have atOnce : failed = 0 := early.resolve_right (Nat.not_lt.mpr noMore)
          subst atOnce
          have none : worker.policy.maxAttempts = 0 := Nat.le_zero.mp noMore
          have gone : Underway worker.policy unit .ready _ 1 := .concluded rfl .abandoned
          simpa [RetryPolicy.exhaustion, none, RetryPolicy.setbacks, retryDeed?, failuresIn,
            Ledger.countFailure, Metrics.countFailure] using gone
      | attempts | concluded => contradiction
  | rests phase allowed =>
      rw [phase] at underway
      cases underway with
      | @fails failed _ =>
          have later : Underway worker.policy unit (.resting (unit.retried (failed + 1))) _ 0 :=
            .rests allowed
          rw [RetryPolicy.setbacks_succ] at later
          simpa [retryDeed?, goTo, phase, failuresIn, call?, OutboundUnit.nextAttempt,
            OutboundUnit.retried] using later
      | attempts | concluded => contradiction
  | hasFailed phase noMore =>
      rw [phase] at underway
      cases underway with
      | @fails failed allowed =>
          have last : worker.policy.maxAttempts = failed + 1 := Nat.le_antisymm noMore allowed
          have gone : Underway worker.policy unit .ready _ 1 := .concluded rfl .abandoned
          simpa [RetryPolicy.exhaustion, last, retryDeed?, failuresIn, Ledger.countFailure,
            Metrics.countFailure] using gone
      | attempts | concluded => contradiction
  | wakes phase =>
      rw [phase] at underway
      cases underway with
      | rests allowed =>
          have again : Underway worker.policy unit _ _ 0 := .tries (.inr allowed)
          simpa [retryDeed?, goTo, phase, failuresIn] using again
      | attempts | concluded => contradiction

/-- How many steps a worker takes, at most, until it lies down to rest or lets go of its unit;
for a worker that rests, until it does so again. -/
def pace (worker : Worker) : Nat :=
  if worker.phase.seq?.isSome then worker.phase.stepsLeft false else 0

/-- A worker lies down to rest only when a try has failed. -/
theorem Goes.of_resting {resting : OutboundUnit}
    (goes : Goes view task desk worker answer later next) (rests : next.phase = .resting resting) :
    (∃ failed, worker.phase = .failing failed) ∧
      ∃ duration, worker.retryDeed? next = some (.rests duration) := by
  cases goes with
  | @looks _ _ _ progress =>
      rcases progress with going | (fault | channel) <;> contradiction
  | @looksOn tried lookup _ given =>
      generalize (lookup.resume tried.room desk.pool given).2 = progress at rests
      rcases progress with going | (fault | channel) <;> contradiction
  | @reopens _ _ _ _ progress =>
      rcases progress with going | (fault | ⟨⟩) <;> contradiction
  | @reopensOn _ _ reopening _ given =>
      generalize (reopening.resume desk.pool given).2 = progress at rests
      rcases progress with going | (fault | ⟨⟩) <;> contradiction
  | @rests failed failing _ =>
      refine ⟨⟨failed, failing⟩, worker.policy.backoff failed.nextAttempt.attempt, ?_⟩
      simp [retryDeed?, goTo, failing, call?]
  | _ => contradiction

/-- Between two rests a worker takes a bounded number of steps. -/
theorem Goes.pace_lt (goes : Goes view task desk worker answer later next)
    (inHand : worker.phase.seq?.isSome = true) :
    next.pace < worker.pace + 18 * (restsOf (worker.retryDeed? next).toList).length := by
  have atWork : worker.pace = worker.phase.stepsLeft false := if_pos inHand
  have dwindles : Dwindles false desk worker later next :=
    goes.dwindles (fun ready => by rw [ready] at inHand; contradiction) fun _ _ _ => rfl
  have fewer := dwindles.steps
  -- when the worker lies down to rest its pace starts afresh, which the new rest pays for
  by_cases resting : ∃ unit, next.phase = .resting unit
  · obtain ⟨unit, rests⟩ := resting
    obtain ⟨⟨failed, failing⟩, duration, deed⟩ := goes.of_resting rests
    have atMost : next.pace ≤ 18 := by
      unfold pace
      split
      case isTrue => exact WorkerPhase.stepsLeft_le false _
      case isFalse => omega
    have some : 0 < worker.pace := by
      rw [atWork]
      omega
    rw [deed]
    simp only [Option.toList_some, restsOf, List.filterMap_cons, RetryDeed.duration?,
      List.filterMap_nil, List.length_singleton]
    omega
  · have same : next.phase.stepsLeft false = next.phase.stepsLeft true := by
      cases phase : next.phase with
      | resting unit => exact absurd ⟨unit, phase⟩ resting
      | _ => rfl
    have atMost : next.pace ≤ next.phase.stepsLeft true := by
      unfold pace
      split
      case isTrue => exact Nat.le_of_eq same
      case isFalse => omega
    omega

end Worker

end RoomLoad

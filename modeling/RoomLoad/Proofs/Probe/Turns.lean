import RoomLoad.Probe.Measurement
import RoomLoad.Proofs.Delivery.Moves
import RoomLoad.Proofs.Probe.Echoes

/-!
# Calls that use a session in turn

A measurement starts its session over, marks its samples in order and waits until the
session counts no echo as missing.  When calls use a session one after another, the session
counts at any time the history since the last one began, and what a call returns is what
this history tells.
-/

namespace RoomLoad

namespace Measurement

/-- What one step of a measurement can be, by the answer that it brings. -/
inductive Goes (now : Instant) (session : ProbeSession) (measurement : Measurement) :
    Option Answer → ProbeSession → Measurement → Prop where
  | refuses :
      measurement.phase = .starting →
      measurement.samples = 0 →
      Goes now session measurement none session
        (measurement.goTo (.finished (.error (.config "probe needs at least one sample"))))
  | begins {deadline : Instant} :
      measurement.phase = .starting →
      measurement.samples ≠ 0 →
      deadline? now measurement.timeout = some deadline →
      Goes now session measurement none (session.begin measurement.samples)
        { measurement with deadline := deadline, phase := .marking 0 }
  | crashes :
      measurement.phase = .starting →
      measurement.samples ≠ 0 →
      deadline? now measurement.timeout = none →
      Goes now session measurement none (session.begin measurement.samples)
        (measurement.goTo .crashed)
  | marks {sent : Nat} :
      measurement.phase = .marking sent →
      sent < measurement.samples →
      Goes now session measurement none (session.mark (UInt64.ofNat sent) now)
        (measurement.goTo (.sending sent (sample sent (.ofInstant now)).wireText))
  | hasSent {sent : Nat} :
      measurement.phase = .marking sent →
      measurement.samples ≤ sent →
      Goes now session measurement none session (measurement.goTo .checking)
  | succeeds :
      measurement.phase = .checking →
      session.remaining = 0 →
      Goes now session measurement none session
        (measurement.goTo
          (.finished (.ok ⟨measurement.samples, session.meanRtt measurement.samples⟩)))
  | misses :
      measurement.phase = .checking →
      session.remaining ≠ 0 →
      Goes now session measurement none session (measurement.goTo .waiting)
  | wakes {answer : Option Answer} :
      measurement.phase = .waiting →
      session.permit = true →
      answer = none ∨ answer = some .done →
      Goes now session measurement answer session.takePermit (measurement.goTo .checking)
  | sends {sent : Nat} {payload : String} :
      measurement.phase = .sending sent payload →
      Goes now session measurement (some .done) session (measurement.goTo (.marking (sent + 1)))
  | fails {sent : Nat} {payload : String} {fault : Fault} :
      measurement.phase = .sending sent payload →
      Goes now session measurement (some (.failed fault)) session
        (measurement.goTo (.finished (.error fault)))
  | givesUp :
      measurement.phase = .waiting →
      session.permit = false →
      Goes now session measurement (some .done) session
        (measurement.goTo (.finished (.error session.timeout)))

variable {now : Instant} {session : ProbeSession} {measurement : Measurement} {view : View}

private theorem goes_begin (starting : measurement.phase = .starting) :
    Goes now session measurement none (measurement.begin now session).1
      (measurement.begin now session).2 := by
  unfold begin
  split
  case isTrue empty => exact .refuses starting empty
  case isFalse some =>
    dsimp only
    split
    case h_1 deadline named => exact .begins starting some named
    case h_2 unnamed => exact .crashes starting some unnamed

theorem goes_of_mem_moves {after : ProbeSession × Measurement}
    (member : after ∈ measurement.moves view session) :
    Goes view.now session measurement none after.1 after.2 := by
  unfold moves at member
  split at member
  case h_1 starting =>
    cases List.mem_singleton.mp member
    exact goes_begin starting
  case h_2 sent marking =>
    split at member
    case isTrue more =>
      cases List.mem_singleton.mp member
      exact .marks marking more
    case isFalse noMore =>
      cases List.mem_singleton.mp member
      exact .hasSent marking (Nat.le_of_not_lt noMore)
  case h_3 checking =>
    split at member
    case isTrue complete =>
      cases List.mem_singleton.mp member
      exact .succeeds checking complete
    case isFalse missing =>
      cases List.mem_singleton.mp member
      exact .misses checking missing
  case h_4 waiting =>
    split at member
    case isTrue permitted =>
      cases List.mem_singleton.mp member
      exact .wakes waiting permitted (.inl rfl)
    case isFalse => contradiction
  case h_5 => contradiction

theorem goes_resume {call : Call} {answer : Answer} (waits : measurement.call? = some call)
    (returns : call.Returns answer) :
    Goes now session measurement (some answer) (measurement.resume session answer).1
      (measurement.resume session answer).2 := by
  unfold call? at waits
  split at waits
  case h_1 sent payload sending =>
    cases waits
    cases returns with
    | sent =>
        simp only [resume, sending]
        exact .sends sending
    | unsent =>
        simp only [resume, sending]
        exact .fails sending
  case h_2 waiting =>
    cases waits
    cases returns
    simp only [resume, waiting]
    split
    case isTrue permitted => exact .wakes waiting permitted (.inr rfl)
    case isFalse missing => exact .givesUp waiting (Bool.eq_false_iff.mpr missing)
  case h_3 => contradiction

end Measurement

abbrev ProbeStep := Transition ProbeSession Measurement

abbrev ProbeSituation := Situation ProbeSession Measurement

namespace Measurement

variable {before after : ProbeSituation} {act : Act Measurement} {id : TaskId}

theorem goes_of_step (step : measurements.Step before act after) (acts : act.task? = some id) :
    ∃ measurement session next, before.tasks[id]? = some measurement ∧
      Goes before.view.now before.common measurement act.answer? session next ∧
      after = before.put id (session, next) := by
  cases step with
  | @move _ measurement next found member =>
      cases acts
      exact ⟨measurement, next.1, next.2, found, goes_of_mem_moves member, rfl⟩
  | @answer _ measurement call answer found waits returns =>
      cases acts
      exact ⟨measurement, _, _, found, goes_resume waits returns, rfl⟩
  | _ => contradiction

theorem Goes.hasEnded_eq_false {now : Instant} {session later : ProbeSession}
    {measurement next : Measurement} {answer : Option Answer}
    (goes : Goes now session measurement answer later next) : measurement.hasEnded = false := by
  cases goes <;> simp [hasEnded, *]

theorem Goes.samples_eq {now : Instant} {session later : ProbeSession}
    {measurement next : Measurement} {answer : Option Answer}
    (goes : Goes now session measurement answer later next) :
    next.samples = measurement.samples := by
  cases goes <;> rfl

end Measurement

/-- For how many samples the last call began, and what has happened since then. -/
structure ProbeAccount where
  samples : Nat
  history : List ProbeEvent
deriving DecidableEq

namespace ProbeAccount

def push (account : ProbeAccount) (event : ProbeEvent) : ProbeAccount :=
  { account with history := account.history ++ [event] }

/-- What a measurement that goes on adds to the account. -/
def noted (account : ProbeAccount) (now : Instant) (measurement : Measurement) : ProbeAccount :=
  match measurement.phase with
  | .starting => if measurement.samples = 0 then account else ⟨measurement.samples, []⟩
  | .marking sent =>
      if sent < measurement.samples then account.push (.mark (UInt64.ofNat sent) now) else account
  | _ => account

def after (account : ProbeAccount) (transition : ProbeStep) : ProbeAccount :=
  let now := transition.before.view.now
  match transition.act with
  | .frame text => account.push (.frame text now)
  | act =>
      match act.task?.bind fun id => transition.before.tasks[id]? with
      | some measurement => account.noted now measurement
      | none => account

end ProbeAccount

def account (trace : List ProbeStep) : ProbeAccount :=
  trace.foldl ProbeAccount.after ⟨0, []⟩

section Account

variable {trace : List ProbeStep} {before after : ProbeSituation} {act : Act Measurement}
  {id : TaskId} {measurement : Measurement} {text : String}

theorem account_append (transition : ProbeStep) :
    account (trace ++ [transition]) = (account trace).after transition := by
  simp [account]

theorem account_append_of_acts (acts : act.task? = some id)
    (found : before.tasks[id]? = some measurement) :
    account (trace ++ [⟨before, act, after⟩]) =
      (account trace).noted before.view.now measurement := by
  rw [account_append, ProbeAccount.after]
  cases act <;> cases acts <;> simp [Act.task?, found]

theorem account_append_frame :
    account (trace ++ [⟨before, .frame text, after⟩]) =
      (account trace).push (.frame text before.view.now) := by
  rw [account_append]
  rfl

theorem account_append_of_others (others : act.task? = none)
    (silent : ∀ text, act ≠ .frame text) :
    account (trace ++ [⟨before, act, after⟩]) = account trace := by
  rw [account_append, ProbeAccount.after]
  cases act with
  | frame text => exact absurd rfl (silent text)
  | move task => contradiction
  | answer task given => contradiction
  | _ => rfl

end Account

def ids (count : Nat) : List SeqId :=
  (List.range count).map UInt64.ofNat

theorem ids_succ (count : Nat) : ids (count + 1) = ids count ++ [UInt64.ofNat count] := by
  simp [ids, List.range_succ]

@[simp]
theorem length_ids (count : Nat) : (ids count).length = count := by
  simp [ids]

theorem mem_ids {count sent : Nat} (inside : sent < count) : UInt64.ofNat sent ∈ ids count :=
  List.mem_map_of_mem (List.mem_range.mpr inside)

theorem not_mem_ids {sent : Nat} (bounded : sent < Text.word64) :
    UInt64.ofNat sent ∉ ids sent := by
  intro member
  obtain ⟨earlier, inRange, same⟩ := List.mem_map.mp member
  rw [List.mem_range] at inRange
  have values := congrArg UInt64.toNat same
  rw [UInt64.toNat_ofNat', UInt64.toNat_ofNat'] at values
  rw [Text.word64] at bounded
  omega

theorem ProbeSession.permit_onFrame {session : ProbeSession} {now : Instant} {text : String}
    (permit : session.remaining = 0 → session.permit = true)
    (complete : (session.onFrame now text).remaining = 0) :
    (session.onFrame now text).permit = true := by
  unfold onFrame at complete ⊢
  split
  case h_1 noise =>
    simp only [noise] at complete
    exact permit complete
  case h_2 seq carries =>
    simp only [carries] at complete
    split at complete
    case h_1 stray => simpa only [stray] using permit complete
    case h_2 sent out =>
      simp only [Bool.or_eq_true, beq_iff_eq]
      by_cases last : session.remaining = 1
      · exact .inr last
      · exact .inl (permit (by simp only at complete; omega))

namespace Measurement

def isNew (measurement : Measurement) : Bool :=
  match measurement.phase with
  | .starting => measurement.samples < Text.word64
  | _ => false

/-- Whether a call starts only when all before it have ended, and nobody else changes the
session. -/
def isInTurn (transition : ProbeStep) : Bool :=
  match transition.act with
  | .outside => false
  | .begin next => transition.before.tasks.all hasEnded && next.isNew
  | _ => true

def inTurn : Rules ProbeSession Measurement := fun _ transition => isInTurn transition = true

/-- How many messages a call at work has marked as sent. -/
def marked? (measurement : Measurement) : Option Nat :=
  match measurement.phase with
  | .marking sent => some sent
  | .sending sent _ => some (sent + 1)
  | .checking => some measurement.samples
  | .waiting => some measurement.samples
  | _ => none

/-- An account is that of a call with so many samples, of which so many are marked. -/
structure Accounts (account : ProbeAccount) (samples count : Nat) : Prop where
  same : account.samples = samples
  positive : 0 < samples
  atMost : count ≤ samples
  marks : marked account.history = ids count

/-- Where a call stands, by the account of the last one. -/
structure Stands (measurement : Measurement) (account : ProbeAccount) (session : ProbeSession) :
    Prop where
  bounded : measurement.samples < Text.word64
  accounts : ∀ count, measurement.marked? = some count →
    Accounts account measurement.samples count
  permit : measurement.phase = .waiting → session.remaining = 0 → session.permit = true

section Stands

variable {now : Instant} {session later : ProbeSession} {measurement next : Measurement}
  {account : ProbeAccount} {answer : Option Answer} {text : String} {count : Nat}

theorem stands_of_idle (bounded : measurement.samples < Text.word64)
    (idle : measurement.marked? = none) : measurement.Stands account session where
  bounded := bounded
  accounts count marks := by
    rw [idle] at marks
    contradiction
  permit waiting := by
    simp [marked?, waiting] at idle

theorem stands_of_isNew (new : measurement.isNew = true) :
    measurement.Stands account session := by
  unfold isNew at new
  split at new
  case h_1 starting =>
    exact stands_of_idle (of_decide_eq_true new) (by simp [marked?, starting])
  case h_2 => contradiction

private theorem stands_of_marked (bounded : measurement.samples < Text.word64)
    (marks : measurement.marked? = some count)
    (accounts : Accounts account measurement.samples count)
    (permit : measurement.phase = .waiting → session.remaining = 0 → session.permit = true) :
    measurement.Stands account session where
  bounded := bounded
  accounts other isMarked := by
    rw [marks, Option.some.injEq] at isMarked
    exact isMarked ▸ accounts
  permit := permit

theorem Stands.onFrame (stands : measurement.Stands account session) :
    measurement.Stands (account.push (.frame text now)) (session.onFrame now text) where
  bounded := stands.bounded
  accounts count marks := by
    obtain ⟨samples, positive, atMost, marks⟩ := stands.accounts count marks
    exact ⟨samples, positive, atMost, marked_append_frame.trans marks⟩
  permit waiting := ProbeSession.permit_onFrame (stands.permit waiting)

theorem Goes.counts (goes : Goes now session measurement answer later next)
    (stands : measurement.Stands account session)
    (counts : session.Counts account.samples account.history) :
    later.Counts (account.noted now measurement).samples
      (account.noted now measurement).history := by
  cases goes with
  | refuses starting empty => simpa [ProbeAccount.noted, starting, empty] using counts
  | begins starting some _ | crashes starting some _ =>
      simpa [ProbeAccount.noted, starting, some] using ProbeSession.counts_begin session _
  | @marks sent marking more =>
      obtain ⟨same, _, _, marks⟩ := stands.accounts sent (by simp [marked?, marking])
      have new : UInt64.ofNat sent ∉ marked account.history :=
        marks ▸ not_mem_ids (Nat.lt_trans more stands.bounded)
      have room : (marked account.history).length < account.samples := by
        rw [marks, length_ids, same]
        exact more
      simpa [ProbeAccount.noted, ProbeAccount.push, marking, more] using counts.mark new room
  | hasSent marking noMore =>
      simpa [ProbeAccount.noted, marking, Nat.not_lt.mpr noMore] using counts
  | succeeds phase _ | misses phase _ | sends phase | fails phase | givesUp phase _ =>
      simpa [ProbeAccount.noted, phase] using counts
  | wakes phase _ _ => simpa [ProbeAccount.noted, phase] using counts.takePermit

theorem Goes.stands (goes : Goes now session measurement answer later next)
    (stands : measurement.Stands account session) :
    next.Stands (account.noted now measurement) later := by
  cases goes with
  | refuses | crashes | succeeds | fails | givesUp => exact stands_of_idle stands.bounded rfl
  | begins starting some _ =>
      have noted : account.noted now measurement = ⟨measurement.samples, []⟩ := by
        simp [ProbeAccount.noted, starting, some]
      have accounts : Accounts ⟨measurement.samples, []⟩ measurement.samples 0 :=
        ⟨rfl, Nat.pos_of_ne_zero some, Nat.zero_le _, rfl⟩
      rw [noted]
      exact stands_of_marked stands.bounded rfl accounts nofun
  | @marks sent marking more =>
      obtain ⟨same, positive, _, marks⟩ := stands.accounts sent (by simp [marked?, marking])
      have noted : account.noted now measurement =
          account.push (.mark (UInt64.ofNat sent) now) := by
        simp [ProbeAccount.noted, marking, more]
      have marksNow : marked (account.history ++ [.mark (UInt64.ofNat sent) now]) =
          ids (sent + 1) := by
        rw [marked_append_mark, marks, ids_succ]
      rw [noted]
      exact stands_of_marked stands.bounded rfl ⟨same, positive, more, marksNow⟩ nofun
  | @hasSent sent marking noMore =>
      have noted : account.noted now measurement = account := by
        simp [ProbeAccount.noted, marking, Nat.not_lt.mpr noMore]
      have accounts := stands.accounts sent (by simp [marked?, marking])
      have complete : sent = measurement.samples := Nat.le_antisymm accounts.atMost noMore
      rw [noted]
      exact stands_of_marked stands.bounded rfl (complete ▸ accounts) nofun
  | misses checking missing =>
      have noted : account.noted now measurement = account := by
        simp [ProbeAccount.noted, checking]
      have accounts := stands.accounts measurement.samples (by simp [marked?, checking])
      rw [noted]
      -- it waits only while echoes are missing, so no permit is due yet
      exact stands_of_marked stands.bounded rfl accounts fun _ zero =>
        absurd zero missing
  | wakes waiting _ _ =>
      have noted : account.noted now measurement = account := by
        simp [ProbeAccount.noted, waiting]
      have accounts := stands.accounts measurement.samples (by simp [marked?, waiting])
      rw [noted]
      exact stands_of_marked stands.bounded rfl accounts nofun
  | @sends sent payload sending =>
      have noted : account.noted now measurement = account := by
        simp [ProbeAccount.noted, sending]
      have accounts := stands.accounts (sent + 1) (by simp [marked?, sending])
      rw [noted]
      exact stands_of_marked stands.bounded rfl accounts nofun

theorem marked?_of_hasEnded (ended : measurement.hasEnded = true) :
    measurement.marked? = none := by
  unfold hasEnded at ended
  unfold marked?
  split at ended <;> simp_all

end Stands

/-- The session counts what the account says, and only the last call may be at work. -/
structure Settles (trace : List ProbeStep) (situation : ProbeSituation) : Prop where
  counts : situation.common.Counts (account trace).samples (account trace).history
  atEnd : ∀ (id : Nat) (measurement : Measurement), situation.tasks[id]? = some measurement →
    measurement.hasEnded = false → id + 1 = situation.tasks.length
  stands : ∀ (id : Nat) (measurement : Measurement),
    situation.tasks[id]? = some measurement →
      measurement.Stands (account trace) situation.common

variable {trace : List ProbeStep} {before after last : ProbeSituation} {act : Act Measurement}
  {id : TaskId} {view : View} {first : Measurement}

private theorem Settles.goes (settles : Settles trace before) {measurement next : Measurement}
    {session : ProbeSession} (acts : act.task? = some id)
    (found : before.tasks[id]? = some measurement)
    (goes : Goes before.view.now before.common measurement act.answer? session next) :
    Settles (trace ++ [⟨before, act, before.put id (session, next)⟩])
      (before.put id (session, next)) := by
  have stands := settles.stands id measurement found
  have atEnd := settles.atEnd id measurement found goes.hasEnded_eq_false
  constructor
  case counts =>
    rw [account_append_of_acts acts found]
    exact goes.counts stands settles.counts
  case atEnd =>
    intro other task isTask atWork
    rw [Situation.tasks_put found] at isTask
    rw [Situation.length_put]
    split at isTask
    case isTrue same => exact same ▸ atEnd
    case isFalse => exact settles.atEnd other task isTask atWork
  case stands =>
    intro other task isTask
    rw [Situation.tasks_put found] at isTask
    rw [account_append_of_acts acts found]
    split at isTask
    case isTrue =>
      cases isTask
      exact goes.stands stands
    case isFalse different =>
      -- only one call can be at work, and it is the one that goes on
      have bounded := (settles.stands other task isTask).bounded
      cases ended : task.hasEnded with
      | true => exact stands_of_idle bounded (marked?_of_hasEnded ended)
      | false =>
          have alsoAtEnd := settles.atEnd other task isTask ended
          exact absurd (Nat.succ.inj (atEnd.trans alsoAtEnd.symm)) different

private theorem Settles.step (settles : Settles trace before)
    (step : measurements.Step before act after)
    (allowed : isInTurn ⟨before, act, after⟩ = true) :
    Settles (trace ++ [⟨before, act, after⟩]) after := by
  cases acts : act.task? with
  | some id =>
      obtain ⟨measurement, session, next, found, goes, rfl⟩ := goes_of_step step acts
      exact settles.goes acts found goes
  | none =>
      have unchanged : (∀ text, act ≠ .frame text) →
          account (trace ++ [⟨before, act, after⟩]) = account trace :=
        account_append_of_others acts
      cases step with
      | move | answer => contradiction
      | frame text =>
          constructor
          case counts =>
            rw [account_append_frame]
            exact settles.counts.onFrame
          case atEnd => exact settles.atEnd
          case stands =>
            rw [account_append_frame]
            exact fun id measurement found => (settles.stands id measurement found).onFrame
      | countReconnect | shift =>
          specialize unchanged (by rintro text ⟨⟩)
          constructor
          case counts =>
            rw [unchanged]
            exact settles.counts
          case atEnd => exact settles.atEnd
          case stands =>
            rw [unchanged]
            exact settles.stands
      | outside => contradiction
      | begin next =>
          simp only [isInTurn, Bool.and_eq_true, List.all_eq_true] at allowed
          obtain ⟨allEnded, new⟩ := allowed
          specialize unchanged (by rintro text ⟨⟩)
          constructor
          case counts =>
            rw [unchanged]
            exact settles.counts
          case atEnd =>
            intro id measurement found atWork
            rw [List.length_append, List.length_singleton]
            -- the turn of a new call comes when all others have ended, so it alone is at work
            rcases Situation.mem_begin found with old | ⟨rfl, rfl⟩
            · rw [allEnded measurement (List.mem_of_getElem? old)] at atWork
              contradiction
            · rfl
          case stands =>
            intro id measurement found
            rw [unchanged]
            rcases Situation.mem_begin found with old | ⟨rfl, rfl⟩
            · exact settles.stands id measurement old
            · exact stands_of_isNew new

/-- Calls in turn settle with each other, from a session that nobody has used yet. -/
theorem settles_of_run (new : first.isNew = true)
    (run : measurements.Run inTurn ⟨.fresh, [first], view⟩ trace last) : Settles trace last := by
  induction run with
  | rest =>
      constructor
      case counts => exact ProbeSession.counts_fresh
      case atEnd =>
        intro id measurement found _
        obtain ⟨inside, _⟩ := List.getElem?_eq_some_iff.mp found
        rw [List.length_singleton] at inside ⊢
        omega
      case stands =>
        intro id measurement found
        cases List.mem_singleton.mp (List.mem_of_getElem? found)
        exact stands_of_isNew new
  | step run step allowed induction => exact induction.step step allowed

end Measurement

end RoomLoad

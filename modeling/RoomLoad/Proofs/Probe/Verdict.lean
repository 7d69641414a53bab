import RoomLoad.Proofs.Probe.Turns
import RoomLoad.Proofs.Runs.Replay

/-!
# What a probe measures

A call returns a mean if every one of its samples has been echoed by the time it stops
waiting, and the counts of its session otherwise.  It never misses the last echo: a call
that goes to wait when nothing is missing finds the permit that the last echo has left.
-/

namespace RoomLoad

def AllEchoed (samples : Nat) (history : List ProbeEvent) : Prop :=
  ∀ sent < samples, (trip? (UInt64.ofNat sent) history).isSome = true

def echoedOf (samples : Nat) (history : List ProbeEvent) : Nat :=
  (List.range samples).countP fun sent => (trip? (UInt64.ofNat sent) history).isSome

/-- The round trips of the samples added up, in nanoseconds. -/
def tripsOf (samples : Nat) (history : List ProbeEvent) : Nat :=
  total (fun sent => (trip? (UInt64.ofNat sent) history).getD 0) (List.range samples)

/-- What is returned for so many samples when a call stops waiting, by the history since
it began. -/
inductive Verdict (samples : Nat) (history : List ProbeEvent) :
    Except Fault ProbeReport → Prop where
  | complete {report : ProbeReport} :
      AllEchoed samples history →
      report.samples = samples →
      (tripsOf samples history < Text.word64 →
        report.meanRtt.nanos = tripsOf samples history / samples) →
      Verdict samples history (.ok report)
  | incomplete {remaining : Nat} :
      ¬ AllEchoed samples history →
      echoedOf samples history + remaining = samples →
      Verdict samples history
        (.error (.probeTimeout (echoedOf samples history) remaining
          (history.countP ProbeEvent.isNoise)))

/-- What becomes of a session when a frame comes in. -/
inductive ProbeSession.Hears (history : List ProbeEvent) (now : Instant) (text : String)
    (before after : ProbeSession) : Prop where
  | noise :
      carried? text = none →
      after = { before with unparseable := before.unparseable + 1 } →
      Hears history now text before after
  | stray {seq : SeqId} :
      carried? text = some seq →
      outSince? seq history = none →
      after = before →
      Hears history now text before after
  | echo {seq : SeqId} {sent : Instant} :
      carried? text = some seq →
      outSince? seq history = some sent →
      after.matched = before.matched + 1 →
      after.remaining + 1 = before.remaining →
      after.totalNanos = before.totalNanos + roundTrip sent now →
      after.unparseable = before.unparseable →
      Hears history now text before after

/-- What the counts of a session keep to. -/
structure ProbeSession.Balanced (samples : Nat) (history : List ProbeEvent)
    (session : ProbeSession) : Prop where
  samples : session.matched + session.remaining = samples
  matched : session.matched = (marked history).countP fun seq => (trip? seq history).isSome
  known : ∀ seq, session.sentAt.lookup seq = outSince? seq history
  out : session.sentAt.length ≤ session.remaining
  noise : session.unparseable = history.countP ProbeEvent.isNoise

namespace ProbeSession

variable {session : ProbeSession} {samples : Nat} {history : List ProbeEvent} {now : Instant}
  {text : String}

theorem Counts.balanced (counts : session.Counts samples history) :
    session.Balanced samples history where
  samples := counts.remaining
  matched := counts.matched.trans (total_toNat _ _)
  known _ := counts.lookup_eq
  out := counts.length_le
  noise := counts.unparseable

theorem Counts.hears (counts : session.Counts samples history) :
    Hears history now text session (session.onFrame now text) := by
  cases carries : carried? text with
  | none => exact .noise carries (onFrame_of_noise carries)
  | some seq =>
      have looked : session.sentAt.lookup seq = outSince? seq history := counts.lookup_eq
      cases out : outSince? seq history with
      | none => exact .stray carries out (onFrame_of_stray carries (looked.trans out))
      | some sent =>
          have missing := counts.remaining_pos out
          apply Hears.echo carries out
          all_goals rw [onFrame_of_echo carries (looked.trans out)]
          exact Nat.sub_add_cancel missing

section Complete

variable (counts : session.Counts samples history) (marks : marked history = ids samples)

include counts marks

theorem Counts.allEchoed (complete : session.remaining = 0) : AllEchoed samples history := by
  intro sent inside
  have nothingOut : session.sentAt = [] :=
    List.eq_nil_of_length_eq_zero (Nat.le_zero.mp (complete ▸ counts.length_le))
  have member : UInt64.ofNat sent ∈ marked history := marks ▸ mem_ids inside
  obtain ⟨mark, isMark, same⟩ := List.mem_map.mp member
  rw [counts.out, List.reverse_eq_nil_iff, List.filter_eq_nil_iff] at nothingOut
  have echoed := nothingOut mark isMark
  rw [same, Option.isNone_iff_eq_none] at echoed
  exact Option.isSome_iff_ne_none.mpr echoed

theorem Counts.exists_missing (missing : session.remaining ≠ 0) : ¬ AllEchoed samples history := by
  intro all
  have lengths := counts.length_eq
  have sum := counts.remaining
  rw [marks, length_ids] at lengths
  have nonempty : session.sentAt ≠ [] := fun empty => by
    rw [empty, List.length_nil] at lengths
    omega
  obtain ⟨mark, isOut⟩ := List.exists_mem_of_ne_nil _ nonempty
  rw [counts.out, List.mem_reverse, List.mem_filter, Option.isNone_iff_eq_none] at isOut
  have member : mark.1 ∈ ids samples := marks ▸ List.mem_map_of_mem isOut.1
  obtain ⟨sent, inRange, same⟩ := List.mem_map.mp member
  have echoed := all sent (List.mem_range.mp inRange)
  rw [same, isOut.2] at echoed
  contradiction

theorem Counts.matched_eq : session.matched = echoedOf samples history := by
  rw [counts.matched, marks, ids, total_map, echoedOf]
  exact total_toNat _ _

theorem Counts.meanRtt_eq (positive : 0 < samples)
    (fits : tripsOf samples history < Text.word64) :
    (session.meanRtt samples).nanos = tripsOf samples history / samples := by
  have whole : total (wordTrip history) (marked history) = tripsOf samples history := by
    rw [marks, ids, total_map]
    refine total_congr fun sent inRange => ?_
    have atMost : (trip? (UInt64.ofNat sent) history).getD 0 ≤ tripsOf samples history :=
      le_total (fun sent => (trip? (UInt64.ofNat sent) history).getD 0) inRange
    exact Nat.min_eq_left (by omega)
  have nanos : session.totalNanos.toNat = tripsOf samples history := by
    rw [counts.nanos, whole, UInt64.toNat_ofNat']
    exact Nat.mod_eq_of_lt fits
  have smaller : tripsOf samples history / samples ≤ tripsOf samples history := Nat.div_le_self _ _
  have inWord : Text.word64 ≤ Duration.longest.nanos := by decide
  rw [meanRtt, Duration.nanos_ofNanos, nanos, Nat.max_eq_left positive]
  exact Nat.min_eq_left (by omega)

end Complete

end ProbeSession

namespace Measurement

/-- How a call ends whose last step brings an answer, by the history since it began. -/
inductive Ending (measurement : Measurement) (answer : Option Answer)
    (history : List ProbeEvent) : Except Fault ProbeReport → Prop where
  | refused {fault : Fault} :
      measurement.samples = 0 →
      Ending measurement answer history (.error fault)
  | unsent {fault : Fault} :
      answer = some (.failed fault) →
      Ending measurement answer history (.error fault)
  | judged {result : Except Fault ProbeReport} :
      Verdict measurement.samples history result →
      Ending measurement answer history result

section Endings

variable {now : Instant} {session later : ProbeSession} {measurement next : Measurement}
  {account : ProbeAccount} {answer : Option Answer} {result : Except Fault ProbeReport}

theorem Goes.ending (goes : Goes now session measurement answer later next)
    (stands : measurement.Stands account session)
    (counts : session.Counts account.samples account.history)
    (ends : next.result? = some result) : Ending measurement answer account.history result := by
  cases goes with
  | refuses starting empty =>
      cases ends
      exact .refused empty
  | fails =>
      cases ends
      exact .unsent rfl
  | succeeds checking complete =>
      cases ends
      obtain ⟨same, positive, _, marks⟩ :=
        stands.accounts measurement.samples (by simp [marked?, checking])
      rw [same] at counts
      exact .judged (.complete (counts.allEchoed marks complete) rfl
        (counts.meanRtt_eq marks positive))
  | givesUp waiting unpermitted =>
      cases ends
      obtain ⟨same, positive, _, marks⟩ :=
        stands.accounts measurement.samples (by simp [marked?, waiting])
      have missing : session.remaining ≠ 0 := fun complete => by
        rw [stands.permit waiting complete] at unpermitted
        contradiction
      rw [same] at counts
      have sum := counts.remaining
      rw [ProbeSession.timeout, counts.unparseable]
      rw [counts.matched_eq marks] at sum ⊢
      exact .judged (.incomplete (counts.exists_missing marks missing) sum)
  | begins | crashes | marks | hasSent | misses | wakes | sends => contradiction

end Endings

/-- In a step a call ends with a result. -/
def Ends (transition : ProbeStep) (measurement : Measurement)
    (result : Except Fault ProbeReport) : Prop :=
  ∃ (id : TaskId) (next : Measurement), transition.before.tasks[id]? = some measurement ∧
    measurement.hasEnded = false ∧ transition.after.tasks[id]? = some next ∧
    next.result? = some result

theorem hasEnded_of_result? {measurement : Measurement} {result : Except Fault ProbeReport}
    (ends : measurement.result? = some result) : measurement.hasEnded = true := by
  unfold result? at ends
  unfold hasEnded
  split at ends <;> simp_all

section Runs

variable {trace earlier later : List ProbeStep} {transition : ProbeStep} {last : ProbeSituation}
  {view : View} {first measurement : Measurement} {result : Except Fault ProbeReport}
  {text : String}

/-- What a call returns is what the account tells. -/
theorem ending_of_run (new : first.isNew = true)
    (run : measurements.Run inTurn ⟨.fresh, [first], view⟩ trace last)
    (parts : trace = earlier ++ transition :: later) (ends : Ends transition measurement result) :
    Ending measurement transition.act.answer? (account earlier).history result := by
  obtain ⟨reached, step, _⟩ := run.split parts
  have settles := settles_of_run new reached
  obtain ⟨id, next, found, atWork, foundNext, isResult⟩ := ends
  have acts : transition.act.task? = some id := by
    by_cases same : transition.act.task? = some id
    · exact same
    · have stays := step.tasks_of_ne found same
      rw [foundNext, Option.some.injEq] at stays
      subst stays
      rw [hasEnded_of_result? isResult] at atWork
      contradiction
  obtain ⟨acting, session, gone, foundActing, goes, after⟩ := goes_of_step step acts
  rw [found, Option.some.injEq] at foundActing
  rw [after, Situation.tasks_put_self found, Option.some.injEq] at foundNext
  subst foundActing foundNext
  exact goes.ending (settles.stands id measurement found) settles.counts isResult

theorem hears_of_run (new : first.isNew = true)
    (run : measurements.Run inTurn ⟨.fresh, [first], view⟩ trace last)
    (parts : trace = earlier ++ transition :: later) (isFrame : transition.act = .frame text) :
    ProbeSession.Hears (account earlier).history transition.before.view.now text
      transition.before.common transition.after.common := by
  obtain ⟨reached, step, _⟩ := run.split parts
  obtain ⟨before, act, after⟩ := transition
  cases isFrame
  change measurements.Step before (.frame text) after at step
  cases step
  exact (settles_of_run new reached).counts.hears

end Runs

end Measurement

end RoomLoad

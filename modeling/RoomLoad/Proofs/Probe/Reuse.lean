import RoomLoad.Proofs.Probe.Accuracy

/-!
# Echoes of an earlier call

Calls that use a session in turn send the same sequence ids, and a frame does not tell which
call it answers.  A late echo, of a message that an earlier call has sent, is therefore taken
for the echo of a sample if that sample is out when it comes.  Every other late echo is passed
over, and what a call returns is then what its own echoes tell.
-/

namespace RoomLoad

/-- What remains of a history without some late frames, each of which carries an id that was
not out when it came. -/
inductive Sheds : List ProbeEvent → List ProbeEvent → Prop where
  | nothing : Sheds [] []
  | keeps {history own : List ProbeEvent} (event : ProbeEvent) :
      Sheds history own →
      Sheds (history ++ [event]) (own ++ [event])
  | passes {history own : List ProbeEvent} {text : String} {seq : SeqId} {moment : Instant} :
      Sheds history own →
      carried? text = some seq →
      outSince? seq history = none →
      Sheds (history ++ [.frame text moment]) own

namespace Sheds

variable {history own : List ProbeEvent} {samples : Nat}

theorem marks_eq (sheds : Sheds history own) : marks history = marks own := by
  induction sheds with
  | nothing => rfl
  | keeps event _ induction =>
      cases event with
      | mark seq moment => rw [marks_append_mark, marks_append_mark, induction]
      | frame text moment => rw [marks_append_frame, marks_append_frame, induction]
  | passes _ _ _ induction => rw [marks_append_frame, induction]

theorem trip?_eq (sheds : Sheds history own) (seq : SeqId) :
    trip? seq history = trip? seq own := by
  induction sheds with
  | nothing => rfl
  | keeps event before induction =>
      cases event with
      | mark other moment => rw [trip?_append_mark, trip?_append_mark, induction]
      | frame text moment =>
          rw [trip?_append_frame, trip?_append_frame, induction, before.marks_eq]
  | @passes history own text carried moment _ carries notOut induction =>
      have passed : ∀ other, carried? text = some other → outSince? other history = none := by
        intro other alsoCarries
        rw [carries, Option.some.injEq] at alsoCarries
        exact alsoCarries ▸ notOut
      rw [trip?_append_frame_of_not_out passed, induction]

theorem countP_isNoise_eq (sheds : Sheds history own) :
    history.countP ProbeEvent.isNoise = own.countP ProbeEvent.isNoise := by
  induction sheds with
  | nothing => rfl
  | keeps event _ induction => rw [List.countP_append, List.countP_append, induction]
  | passes _ carries _ induction =>
      rw [List.countP_append, induction, List.countP_singleton, ProbeEvent.isNoise, carries]
      rfl

/-- What a call returns does not depend on frames that it has passed over. -/
theorem verdict (sheds : Sheds history own) {result : Except Fault ProbeReport}
    (verdict : Verdict samples history result) : Verdict samples own result := by
  have allEchoed : AllEchoed samples history ↔ AllEchoed samples own := by
    simp only [AllEchoed, sheds.trip?_eq]
  have echoed : echoedOf samples history = echoedOf samples own := by
    simp only [echoedOf, sheds.trip?_eq]
  have trips : tripsOf samples history = tripsOf samples own := by
    simp only [tripsOf, sheds.trip?_eq]
  cases verdict with
  | complete all same mean => exact .complete (allEchoed.mp all) same (trips ▸ mean)
  | incomplete missing sum =>
      rw [echoed, sheds.countP_isNoise_eq]
      exact .incomplete (fun all => missing (allEchoed.mpr all)) (echoed ▸ sum)

end Sheds

namespace Measurement

variable {trace : List ProbeStep} {last : ProbeSituation} {view : View} {first : Measurement}

/-- The session of calls in turn takes a frame for the echo of a sample exactly if the last
call has sent that sample and has not seen its echo yet; any other frame with a tag changes
nothing.  If all late frames are of this other kind, a call that stops waiting returns a mean
if and only if all its samples have been echoed by the other frames since it began, and the
mean is that of their round trips. -/
theorem judges_own_echoes_of_run (new : first.isNew = true)
    (run : measurements.Run inTurn ⟨.fresh, [first], view⟩ trace last) :
    (∀ earlier transition later text, trace = earlier ++ transition :: later →
      transition.act = .frame text →
        ProbeSession.Hears (account earlier).history transition.before.view.now text
          transition.before.common transition.after.common) ∧
    (∀ earlier transition later measurement result own,
      trace = earlier ++ transition :: later → Ends transition measurement result →
        Sheds (account earlier).history own →
          Ending measurement transition.act.answer? own result) := by
  constructor
  · intro earlier transition later text parts isFrame
    exact hears_of_run new run parts isFrame
  · intro earlier transition later measurement result own parts ends sheds
    cases ending_of_run new run parts ends with
    | refused empty => exact .refused empty
    | unsent failed => exact .unsent failed
    | judged verdict => exact .judged (sheds.verdict verdict)

/-- A call for one sample times out, the echo of its message comes before the next call has
sent its own, and that one is echoed five milliseconds later. -/
def passedCourse : List (Cue ProbeSession Measurement) :=
  [.move 0 0, .move 0 0, .answer 0 .done, .move 0 0, .move 0 0,
    .shift ⟨50000000, fun _ => true⟩, .answer 0 .done,
    .begin (.start 0 1 (.ofMillis 50)), .move 1 0, .shift ⟨60000000, fun _ => true⟩,
    .frame (echoText "0"), .move 1 0, .answer 1 .done, .move 1 0, .move 1 0,
    .shift ⟨65000000, fun _ => true⟩, .frame (echoText "0"), .move 1 0, .move 1 0]

theorem judges_own_echoes_of_run_of_passed :
    ∃ trace last earlier transition later measurement own,
      (start 0 1 (.ofMillis 50)).isNew = true ∧
      measurements.Run inTurn ⟨.fresh, [.start 0 1 (.ofMillis 50)], ⟨0, fun _ => true⟩⟩
        trace last ∧
      trace = earlier ++ transition :: later ∧
      Ends transition measurement (.ok ⟨1, .ofMillis 5⟩) ∧
      Sheds (account earlier).history own ∧ own.length < (account earlier).history.length ∧
      Ending measurement transition.act.answer? own (.ok ⟨1, .ofMillis 5⟩) := by
  let history : List ProbeEvent :=
    [.frame (echoText "0") 60000000, .mark 0 60000000, .frame (echoText "0") 65000000]
  let own : List ProbeEvent := [.mark 0 60000000, .frame (echoText "0") 65000000]
  have new : (start 0 1 (.ofMillis 50)).isNew = true := by decide
  have replayed : (measurements.replay (fun _ transition => isInTurn transition) []
      ⟨.fresh, [.start 0 1 (.ofMillis 50)], ⟨0, fun _ => true⟩⟩ passedCourse).any
      (fun ending => decide ((account ending.1.dropLast).history = history ∧
        (ending.1.getLast?.bind (·.before.tasks[1]?)).map hasEnded = some false ∧
        (ending.1.getLast?.bind (·.after.tasks[1]?)).bind report? = some ⟨1, .ofMillis 5⟩)) =
      true := by
    decide +kernel
  obtain ⟨trace, last, run, shown⟩ :=
    System.exists_run_of_replay (fun _ _ allowed => allowed) replayed
  obtain ⟨told, atWork, reports⟩ := of_decide_eq_true shown
  simp only [Option.map_eq_some_iff, Option.bind_eq_some_iff] at atWork reports
  obtain ⟨measurement, ⟨transition, isFinal, found⟩, atWork⟩ := atWork
  obtain ⟨next, ⟨_, alsoFinal, foundNext⟩, reports⟩ := reports
  rw [isFinal, Option.some.injEq] at alsoFinal
  subst alsoFinal
  obtain ⟨earlier, parts⟩ := List.getLast?_eq_some_iff.mp isFinal
  rw [parts, List.dropLast_concat] at told
  have ends : Ends transition measurement (.ok ⟨1, .ofMillis 5⟩) :=
    ⟨1, next, found, atWork, foundNext, result?_of_report? reports⟩
  have carries : carried? (echoText "0") = some 0 := by decide +kernel
  have passed : Sheds [.frame (echoText "0") 60000000] [] := .passes .nothing carries rfl
  have sheds : Sheds (account earlier).history own := by
    rw [told]
    exact .keeps _ (.keeps _ passed)
  refine ⟨trace, last, earlier, transition, [], measurement, own, new, run, parts, ends,
    sheds, by rw [told]; decide, ?_⟩
  exact (judges_own_echoes_of_run new run).2 _ _ _ _ _ _ parts ends sheds

def fault? (measurement : Measurement) : Option Fault :=
  match measurement.phase with
  | .finished (.error fault) => some fault
  | _ => none

def sentBy (id : TaskId) (trace : List ProbeStep) : List String :=
  trace.filterMap fun transition =>
    match transition.act, transition.before.tasks[id]?.bind call? with
    | .answer other .done, some (.send _ payload) => if other = id then some payload else none
    | _, _ => none

/-- The echo of the first message of a call that sends it at a moment. -/
def echoOf (now : Instant) : String :=
  (AckFrame.echo (sample 0 (.ofInstant now)).payload (.ofInstant now)).wireText

/-- A call for one sample times out, and the next one has sent its own sample when the echo of
the first message comes. -/
def lateCourse : List (Cue ProbeSession Measurement) :=
  [.move 0 0, .move 0 0, .answer 0 .done, .move 0 0, .move 0 0,
    .shift ⟨50000000, fun _ => true⟩, .answer 0 .done,
    .begin (.start 0 1 (.ofMillis 50)), .move 1 0, .move 1 0, .answer 1 .done, .move 1 0,
    .move 1 0, .shift ⟨60000000, fun _ => true⟩, .frame (echoOf 0), .move 1 0, .move 1 0]

/-- The second of two calls reports a round trip although only the message of the first has
been echoed. -/
theorem exists_confused :
    ∃ trace last,
      measurements.Run inTurn ⟨.fresh, [.start 0 1 (.ofMillis 50)], ⟨0, fun _ => true⟩⟩
        trace last ∧
      last.tasks.map fault? = [some (.probeTimeout 0 1 0), none] ∧
      last.tasks.map report? = [none, some ⟨1, .ofMillis 10⟩] ∧
      sentBy 0 trace = [(sample 0 (.ofInstant 0)).wireText] ∧
      sentBy 1 trace = [(sample 0 (.ofInstant 50000000)).wireText] ∧
      account trace = ⟨1, [.mark 0 50000000, .frame (echoOf 0) 60000000]⟩ ∧
      ¬ AllEchoed 1 [.mark 0 50000000] := by
  have replayed : (measurements.replay (fun _ transition => isInTurn transition) []
      ⟨.fresh, [.start 0 1 (.ofMillis 50)], ⟨0, fun _ => true⟩⟩ lateCourse).any
      (fun ending => decide (ending.2.tasks.map fault? = [some (.probeTimeout 0 1 0), none] ∧
        ending.2.tasks.map report? = [none, some ⟨1, .ofMillis 10⟩] ∧
        sentBy 0 ending.1 = [(sample 0 (.ofInstant 0)).wireText] ∧
        sentBy 1 ending.1 = [(sample 0 (.ofInstant 50000000)).wireText] ∧
        account ending.1 = ⟨1, [.mark 0 50000000, .frame (echoOf 0) 60000000]⟩)) = true := by
    decide +kernel
  obtain ⟨trace, last, run, shown⟩ :=
    System.exists_run_of_replay (fun _ _ allowed => allowed) replayed
  obtain ⟨faults, reports, sentFirst, sentSecond, told⟩ := of_decide_eq_true shown
  have unechoed : ¬ AllEchoed 1 [.mark 0 50000000] := fun all =>
    absurd (all 0 Nat.one_pos) (by decide)
  exact ⟨trace, last, run, faults, reports, sentFirst, sentSecond, told, unechoed⟩

end Measurement

end RoomLoad

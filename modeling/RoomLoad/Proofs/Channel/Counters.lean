import RoomLoad.Proofs.Loss.Service

/-!
# What a stub counts

A stub counts the sends that it is asked for, and those that get as far as their echo.  A send
that is refused before that leaves no trace but its attempt.  One that gets that far is
counted before it is known how it ends: a payload that cannot be read, or a failure behind the
echo, still counts as a send.  The count is thus that of the successful sends and of those
that failed late, and it is this count that closes the channel.
-/

namespace RoomLoad

/-- Faults of a send that has not been counted. -/
inductive Fault.Refuses : Fault → Prop where
  | notOpen : Refuses .notOpen
  | scripted : Refuses (.transport "scripted failure")
  | scriptedFor (seq : SeqId) :
      Refuses (.transport ("scripted failure for seq " ++ seq.toNat.repr))

/-- Whether a fault is that of a send that has been counted: its payload cannot be read, or it
fails behind its echo. -/
def Fault.isLate : Fault → Bool
  | .serialize _ => true
  | .transport detail => detail == "scripted flush failure"
  | _ => false

theorem Fault.Refuses.isLate_eq_false {fault : Fault} (refuses : fault.Refuses) :
    fault.isLate = false := by
  cases refuses with
  | notOpen | scripted => rfl
  | scriptedFor seq =>
      -- the two texts part where one goes on with "failure" and the other with "flush"
      refine beq_eq_false_iff_ne.mpr fun same => ?_
      have texts := congrArg String.toList same
      rw [String.toList_append] at texts
      have letters := congrArg (fun text => text[(10 : Nat)]?) texts
      rw [List.getElem?_append_left (by decide)] at letters
      exact absurd letters (by decide)

namespace SendOutcome

def succeeded (outcome : SendOutcome) : Bool :=
  match outcome.result with
  | .ok () => true
  | .error _ => false

theorem succeeded_iff {outcome : SendOutcome} :
    outcome.succeeded = true ↔ outcome.result = .ok () := by
  unfold succeeded
  split
  case h_1 succeeds => exact iff_of_true rfl succeeds
  case h_2 fault fails =>
    rw [fails]
    exact iff_of_false nofun nofun

/-- Whether a send failed although it was counted. -/
def failedLate (outcome : SendOutcome) : Bool :=
  match outcome.result with
  | .ok () => false
  | .error fault => fault.isLate

end SendOutcome

namespace Stub

variable {stub later : Stub} {now : Timestamp} {payload : String} {outcome : SendOutcome}

def tried (stub : Stub) : Stub :=
  { stub with sendAttempts := stub.sendAttempts + 1 }

/-- The stub after a send that got as far as its echo. -/
def counted (stub : Stub) : Stub :=
  { stub.tried with sends := stub.sends + 1 }

/-- A send of the payload gets as far as its echo. -/
structure Reaches (stub : Stub) (payload : String) : Prop where
  isOpen : stub.state.isOpen = true
  unscripted : scriptedFault? stub.script payload = none

/-- Whether there is an echo for a payload; nobody but a listener wants one. -/
def isReadable (script : StubScript) (payload : String) : Bool :=
  !script.listens || (ChatPayload.parse? payload).isSome

/-- The frames of a send that gets to its echo: that of its payload, if anybody listens. -/
def Answers (script : StubScript) (now : Timestamp) (payload : String) (frames : List Dispatch) :
    Prop :=
  if script.listens then
    ∃ chat, ChatPayload.parse? payload = some chat ∧
      frames = [⟨script.echoDelay, (AckFrame.echo chat now).wireText⟩]
  else frames = []

/-- What a send can come to. -/
inductive Sends (stub : Stub) (now : Timestamp) (payload : String) : SendOutcome → Stub → Prop where
  | isShut :
      stub.state.isOpen = false →
      Sends stub now payload (.refused .notOpen) stub.tried
  | isScripted {fault : Fault} :
      fault.Refuses →
      scriptedFault? stub.script payload = some fault →
      Sends stub now payload (.refused fault) stub.tried
  | isUnread :
      stub.Reaches payload →
      isReadable stub.script payload = false →
      Sends stub now payload (.refused (.serialize "not a chat payload")) stub.counted
  | failsLate {frames : List Dispatch} :
      stub.Reaches payload →
      Answers stub.script now payload frames →
      stub.script.failAfterEcho = true →
      Sends stub now payload ⟨.error (.transport "scripted flush failure"), frames⟩ stub.counted
  | closes {frames : List Dispatch} :
      stub.Reaches payload →
      Answers stub.script now payload frames →
      stub.script.failAfterEcho = false →
      stub.script.closeAfter = some (stub.sends + 1) →
      Sends stub now payload ⟨.ok (), frames⟩ stub.counted.shut
  | succeeds {frames : List Dispatch} :
      stub.Reaches payload →
      Answers stub.script now payload frames →
      stub.script.failAfterEcho = false →
      stub.script.closeAfter ≠ some (stub.sends + 1) →
      Sends stub now payload ⟨.ok (), frames⟩ stub.counted

theorem refuses_of_scriptedFault? {script : StubScript} {fault : Fault}
    (scripted : scriptedFault? script payload = some fault) : fault.Refuses := by
  unfold scriptedFault? at scripted
  split at scripted
  case isTrue =>
    cases scripted
    exact .scripted
  case isFalse =>
    split at scripted
    case h_1 seq _ =>
      split at scripted
      case isTrue =>
        cases scripted
        exact .scriptedFor seq
      case isFalse => contradiction
    case h_2 => contradiction

theorem answers_of_echo_eq_ok {script : StubScript} {frames : List Dispatch}
    (echoes : echo script now payload = .ok frames) : Answers script now payload frames := by
  unfold echo ChatPayload.parse at echoes
  unfold Answers
  split at echoes
  case isTrue listens =>
    rw [if_pos listens]
    cases parsed : ChatPayload.parse? payload with
    | none => simp [parsed] at echoes
    | some chat =>
        simp only [parsed, Except.ok.injEq] at echoes
        exact ⟨chat, rfl, echoes.symm⟩
  case isFalse alone =>
    rw [if_neg alone]
    cases echoes
    rfl

theorem isReadable_of_answers {script : StubScript} {frames : List Dispatch}
    (answers : Answers script now payload frames) : isReadable script payload = true := by
  unfold Answers at answers
  unfold isReadable
  split at answers
  case isTrue =>
    obtain ⟨chat, parsed, _⟩ := answers
    rw [parsed, Option.isSome_some, Bool.or_true]
  case isFalse alone =>
    rw [Bool.not_eq_true] at alone
    rw [alone, Bool.not_false, Bool.true_or]

theorem unread_of_echo_eq_error {script : StubScript} {fault : Fault}
    (unread : echo script now payload = .error fault) :
    isReadable script payload = false ∧ fault = .serialize "not a chat payload" := by
  unfold echo ChatPayload.parse at unread
  unfold isReadable
  split at unread
  case isTrue listens =>
    cases parsed : ChatPayload.parse? payload with
    | none =>
        simp only [parsed, Except.error.injEq] at unread
        exact ⟨by simp [listens], unread.symm⟩
    | some chat => simp [parsed] at unread
  case isFalse => contradiction

theorem sends_send (stub : Stub) (now : Timestamp) (payload : String) :
    Sends stub now payload (stub.send now payload).1 (stub.send now payload).2 := by
  -- one split for each check, in the order in which a send makes them
  unfold send
  dsimp only
  split
  case isTrue isShut =>
    rw [Bool.not_eq_true'] at isShut
    exact .isShut isShut
  case isFalse isOpen =>
    rw [Bool.not_eq_true', Bool.not_eq_false] at isOpen
    split
    case h_1 fault scripted => exact .isScripted (refuses_of_scriptedFault? scripted) scripted
    case h_2 unscripted =>
      have reaches : stub.Reaches payload := ⟨isOpen, unscripted⟩
      split
      case h_1 fault unread =>
        obtain ⟨unreadable, rfl⟩ := unread_of_echo_eq_error unread
        exact .isUnread reaches unreadable
      case h_2 frames echoes =>
        have answers := answers_of_echo_eq_ok echoes
        split
        case isTrue fails => exact .failsLate reaches answers fails
        case isFalse lasts =>
          rw [Bool.not_eq_true] at lasts
          split
          case isTrue closes => exact .closes reaches answers lasts closes
          case isFalse stays => exact .succeeds reaches answers lasts stays

namespace Sends

theorem sendAttempts_eq (sends : Sends stub now payload outcome later) :
    later.sendAttempts = stub.sendAttempts + 1 := by
  cases sends <;> rfl

theorem sends_eq (sends : Sends stub now payload outcome later) :
    later.sends = stub.sends +
      ((if outcome.succeeded then 1 else 0) + if outcome.failedLate then 1 else 0) := by
  cases sends with
  | isShut => rfl
  | isScripted refuses =>
      have early := refuses.isLate_eq_false
      simp [tried, SendOutcome.refused, SendOutcome.succeeded, SendOutcome.failedLate, early]
  | isUnread | failsLate | closes | succeeds => rfl

theorem of_refuses {fault : Fault} (sends : Sends stub now payload outcome later)
    (failed : outcome.result = .error fault) (refuses : fault.Refuses) :
    outcome.frames = [] ∧ later = stub.tried := by
  have early := refuses.isLate_eq_false
  cases sends with
  | isShut | isScripted => exact ⟨rfl, rfl⟩
  | isUnread | failsLate =>
      cases failed
      contradiction
  | closes | succeeds => contradiction

theorem of_not_refuses {fault : Fault} (sends : Sends stub now payload outcome later)
    (failed : outcome.result = .error fault) (others : ¬ fault.Refuses) :
    outcome.failedLate = true ∧ later = stub.counted := by
  cases sends with
  | isShut =>
      cases failed
      exact absurd .notOpen others
  | isScripted refuses =>
      cases failed
      exact absurd refuses others
  | isUnread | failsLate => exact ⟨rfl, rfl⟩
  | closes | succeeds => contradiction

/-- A send fails late exactly if it gets as far as its echo, and either the payload cannot be
read or the script lets it fail. -/
theorem failedLate_iff (sends : Sends stub now payload outcome later) :
    outcome.failedLate = true ↔ stub.Reaches payload ∧
      (isReadable stub.script payload = false ∨ stub.script.failAfterEcho = true) := by
  cases sends with
  | isShut isShut =>
      refine iff_of_false nofun fun ⟨reaches, _⟩ => ?_
      rw [reaches.isOpen] at isShut
      contradiction
  | isScripted refuses scripted =>
      refine iff_of_false ?_ fun ⟨reaches, _⟩ => ?_
      · exact Bool.eq_false_iff.mp refuses.isLate_eq_false
      · rw [reaches.unscripted] at scripted
        contradiction
  | isUnread reaches unreadable => exact iff_of_true rfl ⟨reaches, .inl unreadable⟩
  | failsLate reaches _ fails => exact iff_of_true rfl ⟨reaches, .inr fails⟩
  | closes _ answers lasts | succeeds _ answers lasts =>
      rw [isReadable_of_answers answers, lasts]
      exact iff_of_false nofun fun ⟨_, either⟩ => either.elim nofun nofun

/-- The echo of a send does not depend on whether it fails behind it. -/
theorem answers_of_echoed (sends : Sends stub now payload outcome later)
    (echoed : outcome.result = .ok () ∨
      outcome.result = .error (.transport "scripted flush failure")) :
    Answers stub.script now payload outcome.frames := by
  cases sends with
  | failsLate _ answers | closes _ answers | succeeds _ answers => exact answers
  | isShut | isUnread => simp [SendOutcome.refused] at echoed
  | isScripted refuses =>
      rcases echoed with succeeds | fails
      · contradiction
      · cases fails
        exact absurd refuses.isLate_eq_false (by decide)

theorem closes_iff (sends : Sends stub now payload outcome later) :
    stub.state.isOpen = true ∧ later.state.isOpen = false ↔
      outcome.result = .ok () ∧ stub.script.closeAfter = some (stub.sends + 1) := by
  have stays : ¬ (stub.state.isOpen = true ∧ stub.state.isOpen = false) := by
    rintro ⟨isOpen, isShut⟩
    rw [isOpen] at isShut
    contradiction
  cases sends with
  | closes reaches _ _ closes => exact iff_of_true ⟨reaches.isOpen, rfl⟩ ⟨rfl, closes⟩
  | succeeds _ _ _ others => exact iff_of_false stays (others ∘ And.right)
  | _ => exact iff_of_false stays (nofun ∘ And.left)

end Sends

/-- What can be done with a stub.  A reconnect or a close may take time, so its beginning and
its end are told apart where both do something. -/
inductive Use where
  | send (now : Timestamp) (payload : String)
  | beginReconnect
  | endReconnect
  /-- A close comes to its end, or the connection is dropped. -/
  | shut

namespace Use

def isSend : Use → Bool
  | send _ _ => true
  | _ => false

/-- Whether a use sends nothing that the echo could not read. -/
def isReadable (script : StubScript) : Use → Bool
  | send _ payload => Stub.isReadable script payload
  | _ => true

end Use

def after (stub : Stub) : Use → Stub
  | .send now payload => (stub.send now payload).2
  | .beginReconnect => stub.beginReconnect
  | .endReconnect => stub.endReconnect
  | .shut => stub.shut

def outcome? (stub : Stub) : Use → Option SendOutcome
  | .send now payload => some (stub.send now payload).1
  | _ => none

def reached (stub : Stub) (uses : List Use) : Stub :=
  uses.foldl after stub

def outcomes (stub : Stub) : List Use → List SendOutcome
  | [] => []
  | use :: rest => (stub.outcome? use).toList ++ (stub.after use).outcomes rest

theorem script_after (stub : Stub) (use : Use) : (stub.after use).script = stub.script := by
  cases use with
  | send now payload => exact script_send stub now payload
  | beginReconnect => exact script_beginReconnect stub
  | endReconnect | shut => rfl

theorem script_reached (stub : Stub) (uses : List Use) :
    (stub.reached uses).script = stub.script := by
  induction uses generalizing stub with
  | nil => rfl
  | cons use rest induction => exact (induction (stub.after use)).trans (script_after stub use)

theorem counts_after (stub : Stub) (use : Use) :
    (stub.outcome? use).toList.length = [use].countP Use.isSend ∧
    (stub.after use).sendAttempts = stub.sendAttempts + [use].countP Use.isSend ∧
    (stub.after use).sends = stub.sends +
      ((stub.outcome? use).toList.countP SendOutcome.succeeded +
        (stub.outcome? use).toList.countP SendOutcome.failedLate) := by
  cases use with
  | send now payload =>
      have sends := sends_send stub now payload
      refine ⟨rfl, sends.sendAttempts_eq, ?_⟩
      rw [after, sends.sends_eq]
      simp [outcome?, List.countP_singleton]
  | beginReconnect =>
      refine ⟨rfl, ?_⟩
      rw [after, beginReconnect]
      split <;> exact ⟨rfl, rfl⟩
  | endReconnect | shut => exact ⟨rfl, rfl, rfl⟩

theorem counts_reached (stub : Stub) (uses : List Use) :
    (stub.outcomes uses).length = uses.countP Use.isSend ∧
    (stub.reached uses).sendAttempts = stub.sendAttempts + uses.countP Use.isSend ∧
    (stub.reached uses).sends = stub.sends +
      ((stub.outcomes uses).countP SendOutcome.succeeded +
        (stub.outcomes uses).countP SendOutcome.failedLate) := by
  induction uses generalizing stub with
  | nil => exact ⟨rfl, rfl, rfl⟩
  | cons use rest induction =>
      obtain ⟨lengthHere, attemptsHere, sendsHere⟩ := counts_after stub use
      obtain ⟨lengthLater, attemptsLater, sendsLater⟩ := induction (stub.after use)
      have first : (use :: rest).countP Use.isSend =
          [use].countP Use.isSend + rest.countP Use.isSend := by
        rw [← List.countP_append]
        rfl
      refine ⟨?_, ?_, ?_⟩
      · rw [outcomes, List.length_append, first, lengthHere, lengthLater]
      · change ((stub.after use).reached rest).sendAttempts = _
        rw [attemptsLater, attemptsHere, first, Nat.add_assoc]
      · change ((stub.after use).reached rest).sends = _
        rw [sendsLater, sendsHere, outcomes, List.countP_append, List.countP_append]
        omega

/-- Without a failure behind the echo, and with payloads that can be read, no send fails late. -/
theorem failedLate_of_mem_outcomes {uses : List Use} (lasts : stub.script.failAfterEcho = false)
    (readable : ∀ use ∈ uses, use.isReadable stub.script = true) :
    ∀ outcome ∈ stub.outcomes uses, outcome.failedLate = false := by
  induction uses generalizing stub with
  | nil => exact nofun
  | cons use rest induction =>
      intro outcome member
      have same := script_after stub use
      rcases List.mem_append.mp member with here | after
      · cases use with
        | send now payload =>
            cases List.mem_singleton.mp here
            have read : isReadable stub.script payload = true := readable _ List.mem_cons_self
            rw [Bool.eq_false_iff]
            intro late
            obtain ⟨_, either⟩ := (sends_send stub now payload).failedLate_iff.mp late
            rw [read, lasts] at either
            exact either.elim nofun nofun
        | beginReconnect | endReconnect | shut => contradiction
      · refine induction (same ▸ lasts) ?_ outcome after
        intro use later
        rw [same]
        exact readable use (List.mem_cons_of_mem _ later)

/-- A stub counts every send as an attempt, and as a send those that succeed and those that
fail late: because their payload cannot be read, or because the script lets them fail behind
their echo.  Where neither is the case the count is that of the sends that have succeeded.  A
send that is refused causes no frame and leaves no trace but its attempt, one that succeeds is
answered once if anybody listens, and a send closes the channel exactly if it succeeds and is
the one of the script by that count. -/
theorem counts_of_uses (script : StubScript) (uses : List Use) :
    let stub := (opened script).reached uses
    let outcomes := (opened script).outcomes uses
    outcomes.length = uses.countP Use.isSend ∧
    stub.sendAttempts = uses.countP Use.isSend ∧
    stub.sends = outcomes.countP SendOutcome.succeeded +
      outcomes.countP SendOutcome.failedLate ∧
    (script.failAfterEcho = false → (∀ use ∈ uses, use.isReadable script = true) →
      stub.sends = outcomes.countP SendOutcome.succeeded) ∧
    ∀ now payload,
      let outcome := (stub.send now payload).1
      let later := (stub.send now payload).2
      (∀ fault : Fault, outcome.result = .error fault →
        (fault.Refuses → outcome.frames = [] ∧ later = stub.tried) ∧
        (¬ fault.Refuses → outcome.failedLate = true ∧ later = stub.counted)) ∧
      (outcome.failedLate = true ↔ stub.Reaches payload ∧
        (isReadable script payload = false ∨ script.failAfterEcho = true)) ∧
      (outcome.result = .ok () ∨
          outcome.result = .error (.transport "scripted flush failure") →
        Answers script now payload outcome.frames) ∧
      (stub.state.isOpen = true ∧ later.state.isOpen = false ↔
        outcome.result = .ok () ∧ script.closeAfter = some (stub.sends + 1)) := by
  intro stub outcomes
  have same : stub.script = script := script_reached (opened script) uses
  obtain ⟨length, attempts, sends⟩ := counts_reached (opened script) uses
  replace sends := sends.trans (Nat.zero_add _)
  refine ⟨length, attempts.trans (Nat.zero_add _), sends, ?_, ?_⟩
  · intro lasts readable
    have early : ∀ outcome ∈ outcomes, outcome.failedLate = false :=
      failedLate_of_mem_outcomes lasts readable
    have none : outcomes.countP SendOutcome.failedLate = 0 :=
      List.countP_eq_zero.mpr fun outcome member => Bool.eq_false_iff.mp (early outcome member)
    exact sends.trans (none ▸ Nat.add_zero _)
  · intro now payload outcome later
    have sent : Sends stub now payload outcome later := sends_send stub now payload
    rw [← same]
    exact ⟨fun _ failed => ⟨sent.of_refuses failed, sent.of_not_refuses failed⟩,
      sent.failedLate_iff, sent.answers_of_echoed, sent.closes_iff⟩

/-- A script that echoes what it is sent and closes after the second success. -/
def twice : StubScript :=
  { StubScript.plain with listens := true, closeAfter := some 2 }

def greeting : String :=
  OutboundUnit.wireText ⟨1, 1, "user1", "hello", 1, .text, .ofInstant 0, 0⟩

/-- Behind a payload that cannot be read the first greeting closes the channel, although it is
the only send that succeeds. -/
theorem counts_of_uses_of_greetings :
    let afterGreeting := (opened twice).reached [.send (.ofInstant 0) greeting]
    let afterJunk := (opened twice).reached [.send (.ofInstant 0) "junk"]
    afterGreeting.sends = ((opened twice).outcomes [.send (.ofInstant 0) greeting]).countP
      SendOutcome.succeeded ∧
    afterJunk.sends = 1 ∧
    ((opened twice).outcomes [.send (.ofInstant 0) "junk"]).countP SendOutcome.succeeded = 0 ∧
    (afterJunk.state.isOpen = true ∧
      (afterJunk.send (.ofInstant 0) greeting).2.state.isOpen = false) ∧
    Answers twice (.ofInstant 0) greeting (afterJunk.send (.ofInstant 0) greeting).1.frames := by
  intro afterGreeting afterJunk
  have readable : ∀ use ∈ [Use.send (.ofInstant 0) greeting], use.isReadable twice = true := by
    decide +kernel
  obtain ⟨_, _, _, regular, _⟩ := counts_of_uses twice [.send (.ofInstant 0) greeting]
  obtain ⟨_, _, counted, _, next⟩ := counts_of_uses twice [.send (.ofInstant 0) "junk"]
  obtain ⟨_, _, answers, closes⟩ := next (.ofInstant 0) greeting
  have failed : ((opened twice).outcomes [.send (.ofInstant 0) "junk"]).countP
      SendOutcome.succeeded = 0 := by
    decide +kernel
  have late : ((opened twice).outcomes [.send (.ofInstant 0) "junk"]).countP
      SendOutcome.failedLate = 1 := by
    decide +kernel
  have once : afterJunk.sends = 1 := by
    rw [counted, failed, late]
  have succeeds : (afterJunk.send (.ofInstant 0) greeting).1.result = .ok () :=
    SendOutcome.succeeded_iff.mp (by decide +kernel)
  refine ⟨regular rfl readable, once, failed, closes.mpr ⟨succeeds, ?_⟩, answers (.inl succeeds)⟩
  rw [once]
  rfl

end Stub

end RoomLoad

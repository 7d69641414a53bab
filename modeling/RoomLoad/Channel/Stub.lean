import RoomLoad.Channel.State
import RoomLoad.Message.Ack

/-!
# Stub channels

A connection without a network.  It echoes messages the way the service does, and
fails, closes and takes time as its script says.
-/

namespace RoomLoad

/-- How a stub behaves for its whole life. -/
structure StubScript where
  /-- Whether anybody listens to its echoes. -/
  listens : Bool
  /-- How long an echo takes; without a delay it arrives during the send. -/
  echoDelay : Option Duration
  /-- The units whose sends fail. -/
  failingSeqs : List SeqId
  failAll : Bool
  /-- Whether a send fails after its echo, like a write whose frame already
  left. -/
  failAfterEcho : Bool
  /-- The successful send that closes the channel. -/
  closeAfter : Option Nat
  reconnectDelay : Option Duration
  closeDelay : Option Duration
  /-- Whether reconnects count for the run. -/
  countsReconnects : Bool
deriving DecidableEq

namespace StubScript

/-- Accepts every send and never answers. -/
def plain : StubScript where
  listens := false
  echoDelay := none
  failingSeqs := []
  failAll := false
  failAfterEcho := false
  closeAfter := none
  reconnectDelay := none
  closeDelay := none
  countsReconnects := false

end StubScript

structure Stub where
  script : StubScript
  state : ChannelState
  /-- The sends that got as far as their echo. -/
  sends : Nat
  sendAttempts : Nat
  reconnects : Nat
deriving DecidableEq

/-- A frame on its way to the listener: after a delay, or at once. -/
structure Dispatch where
  delay : Option Duration
  text : String
deriving DecidableEq

structure SendOutcome where
  result : Except Fault Unit
  frames : List Dispatch

namespace SendOutcome

/-- A send that failed and caused nothing. -/
def refused (fault : Fault) : SendOutcome := ⟨.error fault, []⟩

end SendOutcome

namespace Stub

def opened (script : StubScript) : Stub := ⟨script, .opened, 0, 0, 0⟩

/-- The sequence id of the message that a payload holds. -/
def payloadSeq? (payload : String) : Option SeqId := do
  let chat ← ChatPayload.parse? payload
  Tag.find? chat.message

/-- The fault that the script has for a payload before it is echoed. -/
def scriptedFault? (script : StubScript) (payload : String) : Option Fault :=
  if script.failAll then
    some (.transport "scripted failure")
  else
    match payloadSeq? payload with
    | some seq =>
        if script.failingSeqs.contains seq then
          some (.transport ("scripted failure for seq " ++ seq.toNat.repr))
        else none
    | none => none

/-- The frames that answer a payload, if it can be read. -/
def echo (script : StubScript) (now : Timestamp) (payload : String) :
    Except Fault (List Dispatch) :=
  if script.listens then
    match ChatPayload.parse payload with
    | .ok chat => .ok [⟨script.echoDelay, (AckFrame.echo chat now).wireText⟩]
    | .error fault => .error fault
  else
    .ok []

def send (stub : Stub) (now : Timestamp) (payload : String) : SendOutcome × Stub :=
  let tried := { stub with sendAttempts := stub.sendAttempts + 1 }
  if !stub.state.isOpen then
    (.refused .notOpen, tried)
  else
    match scriptedFault? stub.script payload with
    | some fault => (.refused fault, tried)
    | none =>
        let counted := { tried with sends := stub.sends + 1 }
        match echo stub.script now payload with
        | .error fault => (.refused fault, counted)
        | .ok frames =>
            if stub.script.failAfterEcho then
              (⟨.error (.transport "scripted flush failure"), frames⟩, counted)
            else if stub.script.closeAfter = some counted.sends then
              (⟨.ok (), frames⟩, { counted with state := .closed })
            else
              (⟨.ok (), frames⟩, counted)

/-- Starts a reconnect; one that takes time leaves the channel connecting. -/
def beginReconnect (stub : Stub) : Stub :=
  let counted := { stub with reconnects := stub.reconnects + 1 }
  match stub.script.reconnectDelay with
  | some _ => { counted with state := .connecting }
  | none => counted

def endReconnect (stub : Stub) : Stub :=
  { stub with state := .opened }

/-- Closes the channel, or ends a close that took time. -/
def shut (stub : Stub) : Stub :=
  { stub with state := .closed }

end Stub

end RoomLoad

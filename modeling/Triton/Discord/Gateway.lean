/-
# The Discord gateway

A persistent socket. The server greets with HELLO, the client introduces itself with
IDENTIFY or, when it still holds a session, with RESUME, and from then on every frame
is handled by the same rules: its sequence number is noted, a READY starts a session, a
message is handed to the dispatcher, and some frames end the connection.

Reading JSON and URLs rests on libraries and is a parameter.
-/

import Mathlib.Algebra.Group.Nat.Defs
import Triton.Lib.Record
import Triton.Lib.Text

namespace Triton.Discord

open Triton.Lib

/-- Pauses in milliseconds. -/
def backoffInitial : ℕ := 500

def backoffMax : ℕ := 30000

def intents : ℕ := 2 ^ 9 + 2 ^ 12 + 2 ^ 15

/-- The session to go on with, and where Discord wants it. -/
structure Session where
  id : String
  resumeUrl : String
  deriving DecidableEq, Repr

inductive ConnOutcome where
  | shutdown
  | reconnect
  | reIdentify
  deriving DecidableEq, Repr

/-- What the socket hands out. -/
inductive Message where
  | text (t : String)
  | close (code : Option UInt16)
  /-- Pings, pongs and binary frames. -/
  | other

def isNonResumableClose (code : UInt16) : Bool :=
  [4004, 4010, 4011, 4012, 4013, 4014].contains code

structure Gateway where
  botToken : String
  gatewayUrl : String
  parseJson : String → Option Value
  /-- The scheme of a URL, and its host if it has one. -/
  parseUrl : String → Option (String × Option String)

/-- What the worker keeps of a session. The sequence number stands twice: `lastSeq`
lives across connections, `seq` is the copy that the heartbeats of one connection read. -/
structure Link where
  session : Option Session
  lastSeq : Int
  seq : Int
  awaitingAck : Bool

/-- What a frame makes the read loop do. -/
inductive Effect where
  | proceed
  /-- Handle a message, and read on when that is done. -/
  | handle (d : Value)
  /-- Send a heartbeat, and read on. -/
  | beat
  | leave (outcome : ConnOutcome)

/-! ## Frames -/

/-- A member of a member. -/
def pointer (v : Value) (first second : String) : Option Value := (v.get first).bind (·.get second)

def opOf (v : Value) : Int := ((v.get "op").bind Value.asI64).getD (-1)

def typeOf (v : Value) : String := ((v.get "t").bind Value.asStr).getD ""

def seqOf (v : Value) : Option Int := (v.get "s").bind Value.asI64

def sessionIdOf (v : Value) : Option String := (pointer v "d" "session_id").bind Value.asStr

def isReady (v : Value) : Bool := opOf v == 0 && typeOf v == "READY"

def Link.noteSeq (link : Link) (v : Value) : Link :=
  match seqOf v with
  | some s => { link with seq := s, lastSeq := s }
  | none => link

namespace Gateway

variable (g : Gateway)

def wsHost (url : String) : Option String :=
  (g.parseUrl url).bind fun parsed =>
    if parsed.1 == "ws" || parsed.1 == "wss" then
      parsed.2.map fun host => Text.toAsciiLowercase (Text.trimEndMatches '.' host)
    else none

/-- The bot token goes to the resume URL, so only Discord's hosts and the configured one
will do. -/
def resumeUrlIsTrusted (resumeUrl : String) : Bool :=
  match g.wsHost resumeUrl with
  | none => false
  | some host =>
    host == "discord.gg" || host == "discord.com" || Text.endsWith host ".discord.gg" ||
      Text.endsWith host ".discord.com" || g.wsHost g.gatewayUrl == some host

/-- The session a READY frame names. -/
def sessionOf (v : Value) : Option Session :=
  (sessionIdOf v).map fun sid =>
    let url := ((pointer v "d" "resume_gateway_url").bind Value.asStr).filter g.resumeUrlIsTrusted
    ⟨sid, url.getD g.gatewayUrl⟩

/-- One frame of the read loop. -/
def onFrame (link : Link) (v : Value) : Link × Effect :=
  let link := link.noteSeq v
  if opOf v = 0 then
    if typeOf v = "READY" then
      ({ link with session := (g.sessionOf v).or link.session }, .proceed)
    else if typeOf v = "MESSAGE_CREATE" then (link, .handle ((v.get "d").getD .null))
    else (link, .proceed)
  else if opOf v = 1 then ({ link with awaitingAck := true }, .beat)
  else if opOf v = 11 then ({ link with awaitingAck := false }, .proceed)
  else if opOf v = 7 then (link, .leave .reconnect)
  else if opOf v = 9 then
    (link, .leave (if (v.get "d").bind Value.asBool = some true then .reconnect else .reIdentify))
  else (link, .proceed)

/-- One message of the read loop. What is not JSON is skipped. -/
def onMessage (link : Link) : Message → Link × Effect
  | .text t =>
    match g.parseJson t with
    | some v => g.onFrame link v
    | none => (link, .proceed)
  | .close code =>
    (link, .leave (if isNonResumableClose (code.getD 0) then .reIdentify else .reconnect))
  | .other => (link, .proceed)

/-! ## The introduction -/

def resume (sessionId : String) (seq : Int) : Value :=
  Record.object [("op", some (Value.ofInt 6)),
    ("d", some (Record.object [("token", Record.str g.botToken),
      ("session_id", Record.str sessionId), ("seq", some (Value.ofInt seq))]))]

def identify : Value :=
  Record.object [("op", some (Value.ofInt 2)),
    ("d", some (Record.object [("token", Record.str g.botToken),
      ("intents", some (Value.ofInt intents)),
      ("properties", some (Record.object [("os", Record.str "linux"),
        ("browser", Record.str "triton"), ("device", Record.str "triton")]))]))]

def introduction (link : Link) : Value :=
  match link.session with
  | some s => g.resume s.id link.seq
  | none => g.identify

end Gateway

end Triton.Discord

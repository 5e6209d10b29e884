import Aircd.Answers
import Aircd.Framing
import Aircd.Outcomes

/-!
# The daemon and the server

The daemon of one agent, its client and the server, with the bytes between them.
What the daemon writes waits on its connection until the server reads it, a line
that the server queues waits until the client reads it, and a message that the
client has read waits until the reader loop of the daemon takes it. The daemon may
lose its connection at any time and dial again, and all the others do what they like.
-/
namespace Aircd.Dialogue
open Aircd.Runs Aircd.Text Aircd.Utf8 Aircd.Protocol Aircd.Auth Aircd.Tasks Aircd.Store Aircd.Daemon
open Aircd.Server (Config Env SessionId ServerLine commands)
open Aircd.Concurrent (System Section Reply line_reply answered Held Spoken Unqueued)
open Aircd.Client (ReaderLoop message_reply)

/-- A command that the daemon has written, with the call that wrote it. -/
structure Written where
  command : Command
  call : Option Nat

/-- What the server has made of the command of a call: the operation of the session
    that read it, and whether it succeeded. -/
structure Execution where
  call : Nat
  session : SessionId
  op : TaskOp
  accepted : Bool
  deriving DecidableEq

/-- Where the daemon is with its current connection: it reads `read` lines of the
    session `link`, and `greeted` says that its registration is over. -/
structure State where
  server : System
  daemon : Loop
  reader : ReaderLoop
  link : Option SessionId
  greeted : Bool
  read : Nat
  upstream : SessionId → List Written
  dialled : List SessionId
  serving : SessionId → Option Nat
  executed : List Execution

inductive Event where
  /-- The tasks of the server, the clock, and all that the other clients do. -/
  | server (e : Concurrent.Event)
  | dial (sid : SessionId)
  /-- A line that no call of a task action writes. -/
  | write (line : Text)
  /-- The server reads the next command of a connection of the daemon. -/
  | arrive (sid : SessionId)
  /-- The client reads the next line of its connection. -/
  | read (sent reconnects : Bool)
  /-- The reader loop of the daemon takes the next message. -/
  | take (address : Nat) (restarted : Option Nat)
  | loop (e : Loop.Event)

namespace State

/-- The lines of a session as the client reads them. -/
def pieces (s : State) (sid : SessionId) : List (ServerLine × List UInt8) :=
  (s.server.world.connections sid).lines.flatMap (fun line =>
    (Lines.terminated 10 (ReaderLoop.written line)).map (fun bytes => (line, bytes)))

def unread (s : State) : List (ServerLine × List UInt8) :=
  match s.link with
  | none => []
  | some sid => (s.pieces sid).drop s.read

def write (s : State) (line : Text) (call : Option Nat) : State :=
  match s.link with
  | none => s
  | some sid =>
    let written := (commands (Client.written (.ofText line))).reduceOption.map (fun command => (⟨command, call⟩ : Written))
    { s with upstream := Function.update s.upstream sid (s.upstream sid ++ written) }

def succeeded : Except Text Task → Bool
  | .ok _ => true
  | .error _ => false

/-- The operation that the task of a session is about to run for a call. -/
def executions (cfg : Config) (s : State) (sid : SessionId) (env : Env) : List Execution :=
  match s.serving sid, s.server.threads sid with
  | some call, here :: _ =>
    ((here.operation env).map (fun acts => (⟨call, sid, acts.2,
      succeeded (Tasks.perform cfg.lease_seconds s.server.world.db.tasks acts.2).2⟩ : Execution))).toList
  | _, _ => []

end State

/-- What a line means while `_do_connect` waits for its registration. -/
inductive Greeting where
  | registered
  | failed
  | waiting
  deriving DecidableEq

def greeting (bytes : List UInt8) : Greeting :=
  match (Client.readline bytes).bind Client.parse_irc_line with
  | none => .failed
  | some parsed =>
    if parsed.command = "001".toList then .registered
    else if parsed.command ∈ ["432".toList, "433".toList, "461".toList, "462".toList, "464".toList] then .failed
    else .waiting

/-- The client reads a line: in `_do_connect`, which starts a new reader loop once it
    is registered, and in the reader loop that runs after that. -/
def read_line (s : State) (bytes : List UInt8) (sent reconnects : Bool) : State :=
  if s.greeted then { s with read := s.read + 1, reader := s.reader.step (.line bytes sent reconnects) }
  else
    match greeting bytes with
    | .registered =>
      { s with
        read := s.read + 1
        greeted := true
        reader := { ReaderLoop.start true with message_queue := s.reader.message_queue } }
    | .failed => { s with read := s.read + 1, greeted := true }
    | .waiting => { s with read := s.read + 1 }

def step (cfg : Config) (nick : Text) (s : State) : Event → State
  | .server e =>
    match e with
    | .receive sid _ => if sid ∈ s.dialled then s else { s with server := Concurrent.step cfg s.server e }
    | .run sid env =>
      { s with server := Concurrent.step cfg s.server e, executed := s.executed ++ s.executions cfg sid env }
    | e => { s with server := Concurrent.step cfg s.server e }
  | .dial sid =>
    if (s.server.world.connections sid).phase = .Unused then
      { s with
        server := Concurrent.step cfg s.server (.connect sid)
        link := some sid
        greeted := false
        read := 0
        dialled := sid :: s.dialled }
    else s
  | .write line => s.write line none
  | .arrive sid =>
    match s.upstream sid with
    | [] => s
    | next :: rest =>
      if s.server.idle sid then
        { s with
          server := Concurrent.step cfg s.server (.receive sid next.command)
          upstream := Function.update s.upstream sid rest
          serving := Function.update s.serving sid next.call }
      else s
  | .read sent reconnects =>
    match s.unread with
    | [] => s
    | (_, bytes) :: _ => if s.greeted ∧ s.reader.status ≠ .running then s else read_line s bytes sent reconnects
  | .take address restarted =>
    match s.reader.message_queue with
    | [] => s
    | msg :: rest =>
      if s.daemon.buffer.stage = .Waiting ∧ ∀ m ∈ s.daemon.buffer.live, m.address ≠ address then
        { s with
          daemon := Loop.step nick s.daemon (.message address msg restarted)
          reader := { s.reader with message_queue := rest } }
      else s
  | .loop e =>
    match e with
    | .message _ _ _ => s
    | .call id request connected =>
      let daemon := Loop.step nick s.daemon (.call id request (connected && s.link.isSome))
      (daemon.sent.drop s.daemon.sent.length).foldl (fun s line => s.write line (some id)) { s with daemon := daemon }
    | e => { s with daemon := Loop.step nick s.daemon e }

/-- The server has opened its database, and the daemon has not connected yet. -/
def start (db : Db) : State where
  server := Concurrent.start db
  daemon := Loop.opening ⟨fun _ => Table.empty, fun _ => ⟨[], false, false⟩, 0⟩ Daemon.start
  reader := { ReaderLoop.start true with status := .lost }
  link := none
  greeted := false
  read := 0
  upstream _ := []
  dialled := []
  serving _ := none
  executed := []

end Aircd.Dialogue

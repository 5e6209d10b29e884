import Aircd.Protocol
import Aircd.Runs
import Aircd.Store

/-!
# The server

The state of `server.rs` and its handlers, one command at a time: the database,
the in-memory routing `inner`, and for each connection its session, its outgoing
queue and its shutdown queue. Times and UUIDs are inputs.
-/
namespace Aircd.Server
open Aircd.Text Aircd.Protocol Aircd.Auth Aircd.History Aircd.Tasks Aircd.Store

/-- What the server reads from its surroundings. -/
structure Config where
  lease_seconds : Int
  verify : Verify

/-- The clock readings and the UUIDs that one command takes: `now` and
    `task_uuid` in its first section of the database, `created_at` and
    `message_uuid` when it appends a message. -/
structure Env where
  now : Int
  task_uuid : Text
  created_at : Int
  message_uuid : Text

/-- The lines that the server formats. -/
inductive ServerLine where
  | Welcome
  | Error (reason : Text)
  | Pong (token : Text)
  | UnknownCommand (name : Text)
  | Cap (nick status capabilities : Text)
  | InvalidCap (nick subcommand : Text)
  | PasswordIncorrect
  | NotRegistered
  | Registered (nick : Text) (team : Option Text)
  | Replaying (nick : Text) (channels : Nat)
  | Join (nick channel : Text)
  | Part (nick channel : Text)
  | NotOnChannel (nick channel : Text)
  | Message (message : StoredMessage) (sender : Text) (replay : Bool)
  | TaskEvent (message : StoredMessage) (task : Task) (action status actor : Text)
  | TaskFailed (action task_id actor body : Text)
  | TitleRequired (nick : Text)
  | TaskRow (nick : Text) (task : Task)
  | NoTasks (nick channel : Text)
  deriving DecidableEq, Repr

/-- The stored message that a line carries with its `seq` tag. -/
def ServerLine.stored : ServerLine → Option StoredMessage
  | .Message message _ _ => some message
  | .TaskEvent message _ _ _ _ => some message
  | _ => none

/-- A session id, and with it the `tx` and the `shutdown_tx` made for the same connection. -/
abbrev SessionId := Nat

structure ClientHandle where
  session_id : SessionId
  deriving DecidableEq, Repr

/-- `HashSet<String>`. -/
abbrev HashSet := {ids : List Text // ids.Nodup}

def HashSet.insert (set : HashSet) (id : Text) : HashSet := ⟨set.1.insert id, set.2.insert⟩
def HashSet.remove (set : HashSet) (id : Text) : HashSet := ⟨set.1.erase id, set.2.erase id⟩

structure ServerInner where
  clients : Text → Option ClientHandle
  channels : Text → Option HashSet

def ServerInner.default : ServerInner := ⟨fun _ => none, fun _ => none⟩

structure Session where
  principal : Option Principal
  nick : Option Text
  pass_token : Option Text
  registered : Bool

inductive Phase where
  | Unused
  | Running
  | Ended
  deriving DecidableEq, Repr

/-- A connection of `handle_stream`: its session, every line ever queued on its
    `tx`, whether its writer task still receives, and the pending shutdown reasons. -/
structure Connection where
  phase : Phase
  session : Session
  lines : List ServerLine
  writer : Bool
  shutdown : List Text

def Connection.unused : Connection := ⟨.Unused, ⟨none, none, none, false⟩, [], false, []⟩

structure World where
  db : Db
  inner : ServerInner
  connections : SessionId → Connection

namespace World

def modify (w : World) (sid : SessionId) (change : Connection → Connection) : World :=
  { w with connections := Function.update w.connections sid (change (w.connections sid)) }

def setSession (w : World) (sid : SessionId) (session : Session) : World :=
  w.modify sid (fun connection => { connection with session := session })

/-- `UnboundedSender::send`, which fails once the receiver is gone. -/
def tx_send (w : World) (sid : SessionId) (line : ServerLine) : World × Bool :=
  if (w.connections sid).writer then
    (w.modify sid (fun connection => { connection with lines := connection.lines ++ [line] }), true)
  else (w, false)

/-- `Session::send`, which ignores a failure. -/
def send (w : World) (sid : SessionId) (line : ServerLine) : World := (w.tx_send sid line).1

end World

def METADATA_CAPABILITIES : List Text := ["message-tags".toList]

def normalize_channel (channel : Text) : Text :=
  let channel := trim channel
  if channel.head? = some '#' then channel
  else if channel.isEmpty then "#demo".toList
  else '#' :: channel

/-! ## Routing -/

def members (inner : ServerInner) (channel : Text) : List Text := ((inner.channels channel).map (·.1)).getD []

def recipients_with_ids (inner : ServerInner) (channel : Text) : List (Text × ClientHandle) :=
  match inner.channels channel with
  | none => []
  | some members => members.1.filterMap (fun id => (inner.clients id).map (fun client => (id, client)))

/-- `entry(channel).or_default().insert(id)`. -/
def add_member (inner : ServerInner) (id channel : Text) : ServerInner :=
  let members := (inner.channels channel).getD ⟨[], List.nodup_nil⟩
  { inner with channels := Function.update inner.channels channel (some (members.insert id)) }

def remove_member (inner : ServerInner) (id channel : Text) : ServerInner :=
  match inner.channels channel with
  | none => inner
  | some members => { inner with channels := Function.update inner.channels channel (some (members.remove id)) }

/-- The section of `try_register` under the mutex of `inner`: the new handle
    takes the place of the old one, whose session is told to shut down, and the
    channels of the memberships list the principal. -/
def insert_client (w : World) (sid : SessionId) (id : Text) (channels : List Text) : World :=
  let old_client := w.inner.clients id
  let inner := { w.inner with clients := Function.update w.inner.clients id (some ⟨sid⟩) }
  let inner := channels.foldl (fun inner channel => add_member inner id channel) inner
  let w := { w with inner := inner }
  match old_client with
  | none => w
  | some old => w.modify old.session_id (fun connection =>
      { connection with shutdown := connection.shutdown ++ ["Replaced by a newer session for ".toList ++ id] })

/-- The section of `disconnect` under the mutex of `inner`, with whether it removed the handle. -/
def remove_client (w : World) (sid : SessionId) (id : Text) : World × Bool :=
  if (w.inner.clients id).any (fun client => decide (client.session_id = sid)) then
    ({ w with inner := { w.inner with clients := Function.update w.inner.clients id none } }, true)
  else (w, false)

def broadcast_raw (w : World) (channel : Text) (line : ServerLine) : World :=
  (recipients_with_ids w.inner channel).foldl (fun w recipient => w.send recipient.2.session_id line) w

/-- One turn of the loop of `broadcast_message`: the cursor of the recipient
    moves only when the line was queued. -/
def deliver (w : World) (channel : Text) (line : ServerLine) (seq : Int) (recipient : Text × ClientHandle) : World :=
  match w.tx_send recipient.2.session_id line with
  | (w, true) => { w with db := mark_seen w.db recipient.1 channel seq }
  | (w, false) => w

def broadcast_message (w : World) (channel : Text) (line : ServerLine) (seq : Int) : World :=
  (recipients_with_ids w.inner channel).foldl (fun w recipient => deliver w channel line seq recipient) w

/-- `HistoryStore::append` on the database of the server. -/
def append_message (w : World) (env : Env) (channel sender_id body : Text) : World × StoredMessage :=
  let msg_id := "msg_".toList ++ env.message_uuid
  ({ w with db := { w.db with messages := append w.db.messages channel sender_id body msg_id env.created_at } },
    next w.db.messages channel sender_id body msg_id env.created_at)

/-! ## Handlers -/

/-- The largest seq of a page, or the cursor it was read from. -/
def page_max (after_seq : Int) (messages : List StoredMessage) : Int :=
  messages.foldl (fun channel_max_seq message => max channel_max_seq message.seq) after_seq

/-- One turn of the channel loop of `replay_history`. -/
def replay_channel (w : World) (sid : SessionId) (principal : Principal) (after_seq limit : Int) (channel : Text) : World :=
  let messages := after w.db.messages channel after_seq limit
  let w := messages.foldl (fun w message => w.send sid (.Message message (display_name w.db message.sender_id) true)) w
  if after_seq < page_max after_seq messages then
    { w with db := mark_seen w.db principal.id channel (page_max after_seq messages) }
  else w

def replay_history (w : World) (sid : SessionId) (principal : Principal) (channels : List Text) (after_seq limit : Int) : World :=
  channels.foldl (fun w channel => replay_channel w sid principal after_seq limit channel) w

/-- `try_register` once the token is authenticated. -/
def register (w : World) (env : Env) (sid : SessionId) (principal : Principal) : World :=
  let session := (w.connections sid).session
  let w := w.setSession sid { session with nick := some principal.nick, principal := some principal, registered := true }
  let (db, memberships) := mark_connected_and_memberships w.db env.now principal.id
  let w := { w with db := db }
  let channels := memberships.map (·.channel)
  let w := insert_client w sid principal.id channels
  let w := w.send sid (.Registered principal.nick principal.team)
  let w := channels.foldl (fun w channel => w.send sid (.Join principal.nick channel)) w
  if memberships.isEmpty then w
  else
    let w := w.send sid (.Replaying principal.nick memberships.length)
    memberships.foldl (fun w membership =>
      replay_history w sid principal [membership.channel] membership.last_seen_seq 200) w

/-- The principal that a session authenticates as, once it has sent both its
    password and its nick and is not registered yet. -/
def authenticating (cfg : Config) (db : Db) (session : Session) : Option (Except Text Principal) :=
  if session.registered then none
  else
    match session.pass_token with
    | none => none
    | some token =>
      if session.nick.isNone then none else some (authenticate cfg.verify db.principals db.principal_tokens token)

def try_register (cfg : Config) (w : World) (env : Env) (sid : SessionId) : World :=
  match authenticating cfg w.db (w.connections sid).session with
  | none => w
  | some (.error _) => w.send sid .PasswordIncorrect
  | some (.ok principal) => register w env sid principal

def join (w : World) (env : Env) (principal : Principal) (channel : Text) : World :=
  let w := { w with db := add_membership w.db env.now principal.id channel }
  let w := { w with inner := add_member w.inner principal.id channel }
  broadcast_raw w channel (.Join principal.nick channel)

def part (w : World) (principal : Principal) (channel : Text) : World :=
  let w := { w with db := remove_membership w.db principal.id channel }
  let w := { w with inner := remove_member w.inner principal.id channel }
  broadcast_raw w channel (.Part principal.nick channel)

def privmsg (w : World) (env : Env) (sid : SessionId) (principal : Principal) (channel body : Text) : World :=
  if is_member w.db principal.id channel then
    let (w, message) := append_message w env channel principal.id body
    broadcast_message w channel (.Message message principal.nick false) message.seq
  else w.send sid (.NotOnChannel principal.nick channel)

def broadcast_task_event (w : World) (env : Env) (task : Task) (action status actor body : Text) : World :=
  let (w, message) := append_message w env task.channel SERVER_NAME body
  broadcast_message w task.channel (.TaskEvent message task action status actor) message.seq

/-- The texts of the four task operations that succeed on a task. -/
def task_body (task : Task) (what actor : Text) : Text :=
  "TASK ".toList ++ task.id ++ what ++ actor ++ ": ".toList ++ task.title

def task_create (w : World) (env : Env) (sid : SessionId) (principal : Principal) (channel title : Text) :
    World × Except Text Bool :=
  if (trim title).isEmpty then (w.send sid (.TitleRequired principal.nick), .ok false)
  else
    match create w.db.tasks ("task_".toList ++ env.task_uuid) channel (trim title) env.now with
    | (tasks, .error error) => ({ w with db := { w.db with tasks := tasks } }, .error error)
    | (tasks, .ok task) =>
      (broadcast_task_event { w with db := { w.db with tasks := tasks } } env task "create".toList "success".toList
        principal.nick (task_body task " created by ".toList principal.nick), .ok false)

/-- `task_claim`, `task_done` and `task_release` differ in the operation and in their words. -/
def task_action (w : World) (env : Env) (sid : SessionId) (principal : Principal) (result : TaskTable × Except Text Task)
    (task_id command action what : Text) : World :=
  match result with
  | (tasks, .error error) =>
    ({ w with db := { w.db with tasks := tasks } } : World).send sid (.TaskFailed action task_id principal.nick
      ("TASK ".toList ++ command ++ [' '] ++ task_id ++ " failed: ".toList ++ error))
  | (tasks, .ok task) =>
    broadcast_task_event { w with db := { w.db with tasks := tasks } } env task action "success".toList principal.nick
      (task_body task what principal.nick)

def task_claim (cfg : Config) (w : World) (env : Env) (sid : SessionId) (principal : Principal) (task_id : Text) : World :=
  task_action w env sid principal (claim cfg.lease_seconds w.db.tasks task_id principal.id env.now) task_id
    "CLAIM".toList "claim".toList " claimed by ".toList

def task_done (w : World) (env : Env) (sid : SessionId) (principal : Principal) (task_id : Text) : World :=
  task_action w env sid principal (done w.db.tasks task_id principal.id env.now) task_id
    "DONE".toList "done".toList " completed by ".toList

def task_release (w : World) (env : Env) (sid : SessionId) (principal : Principal) (task_id : Text) : World :=
  task_action w env sid principal (release w.db.tasks task_id principal.id env.now) task_id
    "RELEASE".toList "release".toList " released by ".toList

def task_list (w : World) (sid : SessionId) (principal : Principal) (channel : Text) : World :=
  let tasks := list w.db.tasks channel
  if tasks.isEmpty then w.send sid (.NoTasks principal.nick channel)
  else tasks.foldl (fun w task => w.send sid (.TaskRow principal.nick task)) w

def cap_reply (nick subcommand : Text) (requested_capabilities : List Text) : Option ServerLine :=
  let advertised := Text.join [' '] METADATA_CAPABILITIES
  if subcommand = "LS".toList then some (.Cap nick "LS".toList advertised)
  else if subcommand = "LIST".toList then some (.Cap nick "LIST".toList advertised)
  else if subcommand = "REQ".toList then
    let status := if requested_capabilities.all METADATA_CAPABILITIES.contains then "ACK".toList else "NAK".toList
    some (.Cap nick status (Text.join [' '] requested_capabilities))
  else if subcommand = "END".toList then none
  else some (.InvalidCap nick subcommand)

def cap (w : World) (sid : SessionId) (subcommand : Text) (requested_capabilities : List Text) : World :=
  match cap_reply ((w.connections sid).session.nick.getD ['*']) subcommand requested_capabilities with
  | none => w
  | some line => w.send sid line

/-- The session is registered and its handle is the current one of its principal. -/
def current (w : World) (sid : SessionId) : Option Principal :=
  let session := (w.connections sid).session
  if session.registered then
    session.principal.filter (fun principal =>
      (w.inner.clients principal.id).any (fun client => decide (client.session_id = sid)))
  else none

def ensure_registered (w : World) (sid : SessionId) : World × Except Text Bool :=
  if (w.connections sid).session.registered then
    match (w.connections sid).session.principal with
    | none => (w, .error "session has no principal".toList)
    | some principal =>
      if (w.inner.clients principal.id).any (fun client => decide (client.session_id = sid)) then (w, .ok true)
      else (w.send sid (.Error "Session replaced by a newer connection".toList), .error "session replaced".toList)
  else (w.send sid .NotRegistered, .ok false)

/-- A handler behind `ensure_registered`, with the principal of the session. -/
def with_registered (w : World) (sid : SessionId) (handler : World → Principal → World × Except Text Bool) :
    World × Except Text Bool :=
  match ensure_registered w sid with
  | (w, .error error) => (w, .error error)
  | (w, .ok false) => (w, .ok false)
  | (w, .ok true) =>
    match (w.connections sid).session.principal with
    | none => (w, .error "session has no principal".toList)
    | some principal => handler w principal

def handle_command (cfg : Config) (w : World) (env : Env) (sid : SessionId) : Command → World × Except Text Bool
  | .Pass token =>
    let session := (w.connections sid).session
    (try_register cfg (w.setSession sid { session with pass_token := some token }) env sid, .ok false)
  | .Nick nick =>
    let session := (w.connections sid).session
    (try_register cfg (w.setSession sid { session with nick := some nick }) env sid, .ok false)
  | .User _ => (try_register cfg w env sid, .ok false)
  | .Ping token => (w.send sid (.Pong token), .ok false)
  | .Pong => (w, .ok false)
  | .Cap subcommand capabilities => (cap w sid subcommand capabilities, .ok false)
  | .Join channel =>
    with_registered w sid (fun w principal => (join w env principal (normalize_channel channel), .ok false))
  | .Part channel => with_registered w sid (fun w principal => (part w principal (normalize_channel channel), .ok false))
  | .Privmsg target body =>
    with_registered w sid (fun w principal => (privmsg w env sid principal (normalize_channel target) body, .ok false))
  | .History channel after_seq limit =>
    with_registered w sid (fun w principal =>
      let channels := match channel with
        | some channel => [normalize_channel channel]
        | none => (memberships w.db principal.id).map (·.channel)
      (replay_history w sid principal channels after_seq limit, .ok false))
  | .TaskCreate channel title =>
    with_registered w sid (fun w principal => task_create w env sid principal (normalize_channel channel) title)
  | .TaskClaim task_id => with_registered w sid (fun w principal => (task_claim cfg w env sid principal task_id, .ok false))
  | .TaskDone task_id => with_registered w sid (fun w principal => (task_done w env sid principal task_id, .ok false))
  | .TaskRelease task_id => with_registered w sid (fun w principal => (task_release w env sid principal task_id, .ok false))
  | .TaskList channel =>
    with_registered w sid (fun w principal => (task_list w sid principal (normalize_channel channel), .ok false))
  | .Quit => (w, .ok true)
  | .Unknown name => (w.send sid (.UnknownCommand name), .ok false)

def disconnect (w : World) (env : Env) (sid : SessionId) : World :=
  match (w.connections sid).session.principal with
  | none => w
  | some principal =>
    match remove_client w sid principal.id with
    | (w, true) => { w with db := mark_disconnected w.db env.now principal.id }
    | (w, false) => w

/-! ## Connections -/

/-- What can happen to the server while commands are handled one at a time. -/
inductive Event where
  | connect (sid : SessionId)
  | command (sid : SessionId) (command : Command) (env : Env)
  | eof (sid : SessionId) (env : Env)
  | shutdown (sid : SessionId) (env : Env)
  | read_error (sid : SessionId)
  | writer_end (sid : SessionId)
  | restart

/-- `handle_stream` returns without an error: `disconnect`, then the writer task is aborted. -/
def finish (w : World) (env : Env) (sid : SessionId) : World :=
  (disconnect w env sid).modify sid (fun connection => { connection with phase := .Ended, writer := false })

/-- `handle_stream` returns an error, before `disconnect`; its writer task goes on. -/
def leave (w : World) (sid : SessionId) : World := w.modify sid (fun connection => { connection with phase := .Ended })

/-- `handle_stream` up to its loop. -/
def accept (w : World) (sid : SessionId) : World :=
  (w.modify sid (fun connection => { connection with phase := .Running, writer := true })).send sid .Welcome

def running (w : World) (sid : SessionId) : Prop := (w.connections sid).phase = .Running
instance (w : World) (sid : SessionId) : Decidable (running w sid) := inferInstanceAs (Decidable (_ = _))

def step (cfg : Config) (w : World) : Event → World
  | .connect sid => if (w.connections sid).phase = .Unused then accept w sid else w
  | .command sid command env =>
    if running w sid then
      match handle_command cfg w env sid command with
      | (w, .ok false) => w
      | (w, .ok true) => finish w env sid
      | (w, .error _) => leave w sid
    else w
  | .eof sid env => if running w sid then finish w env sid else w
  | .shutdown sid env =>
    if running w sid then
      match (w.connections sid).shutdown with
      | [] => w
      | reason :: _ => finish (w.send sid (.Error reason)) env sid
    else w
  | .read_error sid => if running w sid then leave w sid else w
  | .writer_end sid => w.modify sid (fun connection => { connection with writer := false })
  | .restart =>
    { w with
      inner := .default
      connections := fun sid =>
        let connection := w.connections sid
        if connection.phase = .Unused then connection else { connection with phase := .Ended, writer := false } }

/-- A server that has just opened its database. -/
def start (db : Db) : World := ⟨db, .default, fun _ => .unused⟩

/-! ## A small server -/

def plain : Config := ⟨300, fun _ _ => .ok false⟩
def person (name token : Text) : PrincipalRow := ⟨⟨name, name, none⟩, token, 0, none, none⟩
def alice_and_bob : PrincipalTable := ⟨[person "alice".toList "a".toList, person "bob".toList "b".toList], by decide⟩

/-- The clock stands still and the UUIDs are numerals. -/
def moment (n : Nat) : Env := ⟨0, Nat.toDigits 10 n, 0, Nat.toDigits 10 n⟩

end Aircd.Server

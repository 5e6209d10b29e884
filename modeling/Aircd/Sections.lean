import Aircd.Deliveries

/-!
# The server, section by section

The sessions of `server.rs` run as tasks of their own. A section is what a task
does under one acquisition of a mutex or with one send on a channel, and the
sections of different tasks run in any order. What a section leaves to do comes
before the rest of its task.
-/
namespace Aircd.Concurrent
open Aircd.Text Aircd.Protocol Aircd.Auth Aircd.History Aircd.Tasks Aircd.Store Aircd.Server

/-- The two kinds of lines that `broadcast_message` sends, before the message has its seq. -/
inductive Notice where
  | Privmsg (nick : Text)
  | Task (task : Task) (action status actor : Text)
  deriving DecidableEq

def Notice.line (message : StoredMessage) : Notice → ServerLine
  | .Privmsg nick => .Message message nick false
  | .Task task action status actor => .TaskEvent message task action status actor

inductive Section where
  | send (line : ServerLine)
  | try_register
  | mark_connected (principal : Principal)
  | insert_client (principal : Principal) (memberships : List Membership)
  | history (principal : Principal) (channel : Text) (after_seq limit : Int)
  | display_name (message : StoredMessage)
  | mark_seen (principal_id channel : Text) (seq : Int)
  | ensure_registered (command : Command)
  | memberships (principal : Principal) (after_seq limit : Int)
  | add_membership (principal : Principal) (channel : Text)
  | add_member (principal : Principal) (channel : Text)
  | remove_membership (principal : Principal) (channel : Text)
  | remove_member (principal : Principal) (channel : Text)
  | broadcast_raw (channel : Text) (line : ServerLine)
  | forward (client : ClientHandle) (line : ServerLine)
  | is_member (principal : Principal) (channel body : Text)
  | append (channel sender_id body : Text) (notice : Notice)
  | broadcast_message (channel : Text) (message : StoredMessage) (notice : Notice)
  | deliver (channel : Text) (message : StoredMessage) (notice : Notice) (recipient : Text × ClientHandle)
  | task_create (principal : Principal) (channel title : Text)
  | task_claim (principal : Principal) (task_id : Text)
  | task_done (principal : Principal) (task_id : Text)
  | task_release (principal : Principal) (task_id : Text)
  | task_list (principal : Principal) (channel : Text)
  | remove_client (principal : Principal)
  | mark_disconnected (principal_id : Text)
  | finish
  | leave
  deriving DecidableEq

/-- `disconnect` and what follows it at the end of `handle_stream`. -/
def disconnect (w : World) (sid : SessionId) : List Section :=
  match w.principal sid with
  | none => [.finish]
  | some principal => [.remove_client principal]

/-- `handle_command` up to its first section: what it does to the session alone. -/
def handle_command (w : World) (sid : SessionId) : Command → World × List Section
  | .Pass token => (w.setSession sid { (w.connections sid).session with pass_token := some token }, [.try_register])
  | .Nick nick => (w.setSession sid { (w.connections sid).session with nick := some nick }, [.try_register])
  | .User _ => (w, [.try_register])
  | .Ping token => (w, [.send (.Pong token)])
  | .Pong => (w, [])
  | .Cap subcommand capabilities =>
    (w, (cap_reply ((w.connections sid).session.nick.getD ['*']) subcommand capabilities).toList.map .send)
  | .Quit => (w, disconnect w sid)
  | .Unknown name => (w, [.send (.UnknownCommand name)])
  | command => (w, [.ensure_registered command])

/-- The handler of a command behind `ensure_registered`. -/
def handler (principal : Principal) : Command → List Section
  | .Join channel => [.add_membership principal (normalize_channel channel)]
  | .Part channel => [.remove_membership principal (normalize_channel channel)]
  | .Privmsg target body => [.is_member principal (normalize_channel target) body]
  | .History (some channel) after_seq limit => [.history principal (normalize_channel channel) after_seq limit]
  | .History none after_seq limit => [.memberships principal after_seq limit]
  | .TaskCreate channel title =>
    if (trim title).isEmpty then [.send (.TitleRequired principal.nick)]
    else [.task_create principal (normalize_channel channel) (trim title)]
  | .TaskClaim task_id => [.task_claim principal task_id]
  | .TaskDone task_id => [.task_done principal task_id]
  | .TaskRelease task_id => [.task_release principal task_id]
  | .TaskList channel => [.task_list principal (normalize_channel channel)]
  | _ => []

/-- The end of `task_claim`, `task_done` and `task_release`, after the operation on the table. -/
def task_result (w : World) (principal : Principal) (result : TaskTable × Except Text Task)
    (task_id command action what : Text) : World × List Section :=
  let w : World := { w with db := { w.db with tasks := result.1 } }
  match result.2 with
  | .error error =>
    (w, [.send (.TaskFailed action task_id principal.nick
      ("TASK ".toList ++ command ++ [' '] ++ task_id ++ " failed: ".toList ++ error))])
  | .ok task => (w, [.append task.channel SERVER_NAME (task_body task what principal.nick)
      (.Task task action "success".toList principal.nick)])

/-- What `try_register` does once its handle is inserted. -/
def welcome (principal : Principal) (memberships : List Membership) : List Section :=
  [.send (.Registered principal.nick principal.team)] ++
    (memberships.map (fun membership => .send (.Join principal.nick membership.channel))) ++
    if memberships.isEmpty then []
    else .send (.Replaying principal.nick memberships.length) ::
      memberships.map (fun membership => .history principal membership.channel membership.last_seen_seq 200)

/-- One section of the task of a session, with the sections that it puts before the rest of the task. -/
def perform (cfg : Config) (w : World) (env : Env) (sid : SessionId) : Section → World × List Section
  | .send line => (w.send sid line, [])
  | .try_register =>
    match authenticating cfg w.db (w.connections sid).session with
    | none => (w, [])
    | some (.error _) => (w, [.send .PasswordIncorrect])
    | some (.ok principal) =>
      (w.setSession sid { (w.connections sid).session with
          nick := some principal.nick, principal := some principal, registered := true },
        [.mark_connected principal])
  | .mark_connected principal =>
    let (db, memberships) := mark_connected_and_memberships w.db env.now principal.id
    ({ w with db := db }, [.insert_client principal memberships])
  | .insert_client principal memberships =>
    (Server.insert_client w sid principal.id (memberships.map (·.channel)), welcome principal memberships)
  | .history principal channel after_seq limit =>
    let messages := after w.db.messages channel after_seq limit
    (w, messages.map .display_name ++
      if after_seq < page_max after_seq messages then [.mark_seen principal.id channel (page_max after_seq messages)]
      else [])
  | .display_name message => (w, [.send (.Message message (Store.display_name w.db message.sender_id) true)])
  | .mark_seen principal_id channel seq => ({ w with db := Store.mark_seen w.db principal_id channel seq }, [])
  | .ensure_registered command =>
    if (w.connections sid).session.registered then
      match w.principal sid with
      | none => (w, [.leave])
      | some principal =>
        if (w.inner.clients principal.id).any (fun client => decide (client.session_id = sid)) then
          (w, handler principal command)
        else (w, [.send (.Error "Session replaced by a newer connection".toList), .leave])
    else (w, [.send .NotRegistered])
  | .memberships principal after_seq limit =>
    (w, (Store.memberships w.db principal.id).map (fun membership =>
      .history principal membership.channel after_seq limit))
  | .add_membership principal channel =>
    ({ w with db := Store.add_membership w.db env.now principal.id channel }, [.add_member principal channel])
  | .add_member principal channel =>
    ({ w with inner := Server.add_member w.inner principal.id channel },
      [.broadcast_raw channel (.Join principal.nick channel)])
  | .remove_membership principal channel =>
    ({ w with db := Store.remove_membership w.db principal.id channel }, [.remove_member principal channel])
  | .remove_member principal channel =>
    ({ w with inner := Server.remove_member w.inner principal.id channel },
      [.broadcast_raw channel (.Part principal.nick channel)])
  | .broadcast_raw channel line =>
    (w, (recipients_with_ids w.inner channel).map (fun recipient => .forward recipient.2 line))
  | .forward client line => (w.send client.session_id line, [])
  | .is_member principal channel body =>
    if Store.is_member w.db principal.id channel then (w, [.append channel principal.id body (.Privmsg principal.nick)])
    else (w, [.send (.NotOnChannel principal.nick channel)])
  | .append channel sender_id body notice =>
    let (w, message) := append_message w env channel sender_id body
    (w, [.broadcast_message channel message notice])
  | .broadcast_message channel message notice =>
    (w, (recipients_with_ids w.inner channel).map (.deliver channel message notice))
  | .deliver channel message notice recipient =>
    match w.tx_send recipient.2.session_id (notice.line message) with
    | (w, true) => (w, [.mark_seen recipient.1 channel message.seq])
    | (w, false) => (w, [])
  | .task_create principal channel title =>
    match create w.db.tasks ("task_".toList ++ env.task_uuid) channel title env.now with
    | (tasks, .error _) => ({ w with db := { w.db with tasks := tasks } }, [.leave])
    | (tasks, .ok task) =>
      ({ w with db := { w.db with tasks := tasks } },
        [.append task.channel SERVER_NAME (task_body task " created by ".toList principal.nick)
          (.Task task "create".toList "success".toList principal.nick)])
  | .task_claim principal task_id =>
    task_result w principal (claim cfg.lease_seconds w.db.tasks task_id principal.id env.now) task_id
      "CLAIM".toList "claim".toList " claimed by ".toList
  | .task_done principal task_id =>
    task_result w principal (done w.db.tasks task_id principal.id env.now) task_id
      "DONE".toList "done".toList " completed by ".toList
  | .task_release principal task_id =>
    task_result w principal (release w.db.tasks task_id principal.id env.now) task_id
      "RELEASE".toList "release".toList " released by ".toList
  | .task_list principal channel =>
    let tasks := list w.db.tasks channel
    (w, if tasks.isEmpty then [.send (.NoTasks principal.nick channel)]
      else tasks.map (fun task => .send (.TaskRow principal.nick task)))
  | .remove_client principal =>
    match Server.remove_client w sid principal.id with
    | (w, true) => (w, [.mark_disconnected principal.id, .finish])
    | (w, false) => (w, [.finish])
  | .mark_disconnected principal_id => ({ w with db := Store.mark_disconnected w.db env.now principal_id }, [])
  | .finish => (w.modify sid (fun connection => { connection with phase := .Ended, writer := false }), [])
  | .leave => (Server.leave w sid, [])

/-- The world, with what each session's task has left to do. -/
structure System where
  world : World
  threads : SessionId → List Section

inductive Event where
  | connect (sid : SessionId)
  | receive (sid : SessionId) (command : Command)
  | run (sid : SessionId) (env : Env)
  | eof (sid : SessionId)
  | shutdown (sid : SessionId)
  | read_error (sid : SessionId)
  | writer_end (sid : SessionId)
  | restart

namespace System

/-- The task waits in the loop of `handle_stream`. -/
def idle (s : System) (sid : SessionId) : Bool := decide (running s.world sid) && (s.threads sid).isEmpty

def resume (s : System) (sid : SessionId) (next : World × List Section) : System :=
  ⟨next.1, Function.update s.threads sid next.2⟩

end System

def step (cfg : Config) (s : System) : Event → System
  | .connect sid => if (s.world.connections sid).phase = .Unused then ⟨accept s.world sid, s.threads⟩ else s
  | .receive sid command => if s.idle sid then s.resume sid (handle_command s.world sid command) else s
  | .run sid env =>
    match s.threads sid with
    | [] => s
    | here :: rest =>
      let (w, more) := perform cfg s.world env sid here
      s.resume sid (w, more ++ rest)
  | .eof sid => if s.idle sid then s.resume sid (s.world, disconnect s.world sid) else s
  | .shutdown sid =>
    match (s.world.connections sid).shutdown with
    | [] => s
    | reason :: _ =>
      if s.idle sid then s.resume sid (s.world, .send (.Error reason) :: disconnect s.world sid) else s
  | .read_error sid => if s.idle sid then ⟨Server.leave s.world sid, s.threads⟩ else s
  | .writer_end sid => ⟨s.world.modify sid (fun connection => { connection with writer := false }), s.threads⟩
  | .restart => ⟨Server.step cfg s.world .restart, fun _ => []⟩

def start (db : Db) : System := ⟨Server.start db, fun _ => []⟩

/-- The session that an event is about. -/
def Event.session : Event → Option SessionId
  | .connect sid => some sid
  | .receive sid _ => some sid
  | .run sid _ => some sid
  | .eof sid => some sid
  | .shutdown sid => some sid
  | .read_error sid => some sid
  | .writer_end sid => some sid
  | .restart => none

/-! ### Pieces of small runs -/

/-- The next sections of one task, in one moment. -/
def sections (sid : SessionId) (n uuid : Nat) : List Event := List.replicate n (.run sid (moment uuid))

/-- A connection up to the point where it is authenticated. -/
def arrival (sid : SessionId) (name token : Text) : List Event :=
  [.connect sid, .receive sid (.Pass token)] ++ sections sid 1 0 ++ [.receive sid (.Nick name)] ++ sections sid 1 0

def hello (sid : SessionId) : Event := .receive sid (.Privmsg "#c".toList "hello".toList)

/-- Alice and Bob are members of one channel. -/
def both_in_c : Db :=
  ⟨alice_and_bob, Table.empty, ⟨[⟨"alice".toList, "#c".toList, 0, 0⟩, ⟨"bob".toList, "#c".toList, 0, 0⟩], by decide⟩,
    Messages.empty, Table.empty⟩

/-- The row of the first message that Alice sends to them. -/
def hello_there : StoredMessage := ⟨1, "msg_1".toList, "#c".toList, "alice".toList, "hello".toList, 0⟩

/-! ## What one section changes -/

variable {cfg : Config} {w : World} {env : Env} {sid sid' : SessionId} {p c : Text}

@[simp] theorem stored_line (message : StoredMessage) (notice : Notice) : (notice.line message).stored = some message := by
  cases notice with
  | Privmsg nick => rfl
  | Task task action status actor => rfl

/-- The sections that change no routing, no membership, no log, no queue and no session. -/
def Section.calm : Section → Bool
  | .mark_connected _ => true
  | .history _ _ _ _ => true
  | .display_name _ => true
  | .ensure_registered _ => true
  | .memberships _ _ _ => true
  | .broadcast_raw _ _ => true
  | .is_member _ _ _ => true
  | .broadcast_message _ _ _ => true
  | .task_create _ _ _ => true
  | .task_claim _ _ => true
  | .task_done _ _ => true
  | .task_release _ _ => true
  | .task_list _ _ => true
  | .mark_disconnected _ => true
  | .leave => true
  | _ => false

theorem world_task_result (principal : Principal) (result : TaskTable × Except Text Task) (task_id command action what : Text) :
    (task_result w principal result task_id command action what).1 = { w with db := { w.db with tasks := result.1 } } := by
  unfold task_result
  obtain ⟨tasks, outcome⟩ := result
  cases outcome with
  | error _ => rfl
  | ok _ => rfl

theorem world_ensure_registered (command : Command) : (perform cfg w env sid (.ensure_registered command)).1 = w := by
  simp only [perform]
  split
  · split
    · rfl
    · split
      · rfl
      · rfl
  · rfl

theorem world_is_member (principal : Principal) (channel body : Text) :
    (perform cfg w env sid (.is_member principal channel body)).1 = w := by
  simp only [perform]
  split
  · rfl
  · rfl

theorem calm_perform {x : Section} (quiet : x.calm = true) :
    Calm w (perform cfg w env sid x).1 ∧ ∀ sid', (perform cfg w env sid x).1.open sid' ↔ w.open sid' := by
  have same {w' : World} (inner : w'.inner = w.inner) (rows : w'.db.channel_memberships = w.db.channel_memberships)
      (log : w'.db.messages = w.db.messages) (connections : w'.connections = w.connections) :
      Calm w w' ∧ ∀ sid', w'.open sid' ↔ w.open sid' := by
    refine ⟨⟨inner, rows, log, ?_, ?_, ?_⟩, ?_⟩
    · intro sid'; rw [World.enqueued, World.enqueued, connections]
    · intro sid'; rw [World.principal, World.principal, connections]
    · intro sid'; rw [connections]
    · intro sid'; rw [World.open, World.open, connections]
  cases x with
  | mark_connected principal => exact same rfl rfl rfl rfl
  | history principal channel after_seq limit => exact same rfl rfl rfl rfl
  | display_name message => exact same rfl rfl rfl rfl
  | ensure_registered command => rw [world_ensure_registered]; exact same rfl rfl rfl rfl
  | memberships principal after_seq limit => exact same rfl rfl rfl rfl
  | broadcast_raw channel line => exact same rfl rfl rfl rfl
  | is_member principal channel body => rw [world_is_member]; exact same rfl rfl rfl rfl
  | broadcast_message channel message notice => exact same rfl rfl rfl rfl
  | task_create principal channel title =>
    simp only [perform]
    split
    · exact same rfl rfl rfl rfl
    · exact same rfl rfl rfl rfl
  | task_claim principal task_id => rw [perform, world_task_result]; exact same rfl rfl rfl rfl
  | task_done principal task_id => rw [perform, world_task_result]; exact same rfl rfl rfl rfl
  | task_release principal task_id => rw [perform, world_task_result]; exact same rfl rfl rfl rfl
  | task_list principal channel => exact same rfl rfl rfl rfl
  | mark_disconnected principal_id => exact same rfl rfl rfl rfl
  | leave =>
    have world : (perform cfg w env sid .leave).1 = Server.leave w sid := rfl
    rw [world]
    refine ⟨Calm.leave, ?_⟩
    intro sid'
    simp only [Server.leave, World.open, connections_modify]
    split
    · next here => rw [here]
    · rfl
  | _ => cases quiet

theorem perform_deliver (channel : Text) (message : StoredMessage) (notice : Notice) (recipient : Text × ClientHandle) :
    perform cfg w env sid (.deliver channel message notice recipient) =
      (w.send recipient.2.session_id (notice.line message),
        if w.open recipient.2.session_id then [.mark_seen recipient.1 channel message.seq] else []) := by
  simp only [perform, tx_send_eq]
  by_cases alive : w.open recipient.2.session_id
  · simp [alive]
  · simp [alive]

/-- What the registered session becomes when it authenticates. -/
theorem perform_try_register (cfg : Config) (w : World) (env : Env) (sid : SessionId) :
    (∃ more, perform cfg w env sid .try_register = (w, more) ∧ ∀ x ∈ more, x = .send .PasswordIncorrect) ∨
    ∃ principal, (w.connections sid).session.registered = false ∧
      authenticating cfg w.db (w.connections sid).session = some (.ok principal) ∧
      perform cfg w env sid .try_register =
        (w.setSession sid { (w.connections sid).session with
          nick := some principal.nick, principal := some principal, registered := true },
        [.mark_connected principal]) := by
  simp only [perform]
  cases result : authenticating cfg w.db (w.connections sid).session with
  | none => exact .inl ⟨[], rfl, by simp⟩
  | some outcome =>
    cases outcome with
    | error _ => exact .inl ⟨_, rfl, by simp⟩
    | ok principal =>
      right
      refine ⟨principal, ?_, rfl, rfl⟩
      unfold authenticating at result
      by_cases registered : (w.connections sid).session.registered = true
      · rw [if_pos registered] at result; cases result
      · simpa using registered

/-- A registration leaves the lines and the writer of its session. -/
theorem setSession_frame (session : Session) :
    (∀ sid', (w.setSession sid session).enqueued sid' = w.enqueued sid') ∧
      ∀ sid', (w.setSession sid session).open sid' ↔ w.open sid' := by
  refine ⟨?_, ?_⟩
  · intro sid'
    simp only [World.enqueued, World.setSession, connections_modify]
    split
    · next here => rw [here]
    · rfl
  · intro sid'
    simp only [World.open, World.setSession, connections_modify]
    split
    · next here => rw [here]
    · rfl

theorem insert_client_frame (channels : List Text) :
    (∀ sid', (Server.insert_client w sid p channels).enqueued sid' = w.enqueued sid') ∧
      ∀ sid', (Server.insert_client w sid p channels).open sid' ↔ w.open sid' := by
  refine ⟨?_, ?_⟩
  · intro sid'; rw [World.enqueued, World.enqueued, (connection_insert_client w channels).2.1]
  · intro sid'; rw [World.open, World.open, (connection_insert_client w channels).2.2]

theorem remove_client_frame (w : World) (sid : SessionId) (id : Text) :
    (Server.remove_client w sid id).1.db = w.db ∧ (Server.remove_client w sid id).1.connections = w.connections := by
  unfold Server.remove_client
  split
  · exact ⟨rfl, rfl⟩
  · exact ⟨rfl, rfl⟩

theorem perform_remove_client (principal : Principal) :
    (perform cfg w env sid (.remove_client principal)).1 = (Server.remove_client w sid principal.id).1 := by
  simp only [perform]
  split
  · next w' result => rw [result]
  · next w' result => rw [result]

/-- The line that a section sends, and to which session. -/
def Section.sends (sid : SessionId) : Section → Option (SessionId × ServerLine)
  | .send line => some (sid, line)
  | .forward client line => some (client.session_id, line)
  | .deliver _ message notice recipient => some (recipient.2.session_id, notice.line message)
  | _ => none

theorem lines_send (target : SessionId) (line : ServerLine) :
    ((w.send target line).connections sid').lines = (w.connections sid').lines ++
      if w.open sid' ∧ target = sid' then [line] else [] := by
  rw [connections_send]
  by_cases here : sid' = target
  · subst here
    by_cases alive : w.open sid'
    · simp [alive]
    · simp [alive]
  · simp [here, Ne.symm here]

theorem lines_perform (x : Section) :
    ((perform cfg w env sid x).1.connections sid').lines = (w.connections sid').lines ++
      ((x.sends sid).filter (fun sent => decide (w.open sid' ∧ sent.1 = sid'))).toList.map Prod.snd := by
  have sent (target : SessionId) (line : ServerLine) : ((w.send target line).connections sid').lines =
      (w.connections sid').lines ++
        ((some (target, line)).filter (fun sent => decide (w.open sid' ∧ sent.1 = sid'))).toList.map Prod.snd := by
    rw [lines_send]
    by_cases here : w.open sid' ∧ target = sid'
    · simp [here, Option.filter]
    · simp [here, Option.filter]
  have still (w' : World) (same : (w'.connections sid').lines = (w.connections sid').lines) :
      (w'.connections sid').lines = (w.connections sid').lines ++ ((none : Option (SessionId × ServerLine)).filter
        (fun sent => decide (w.open sid' ∧ sent.1 = sid'))).toList.map Prod.snd := by
    rw [same]; simp
  have changed (change : Connection → Connection) (keeps : ∀ connection, (change connection).lines = connection.lines) :
      ((w.modify sid change).connections sid').lines = (w.connections sid').lines := by
    rw [connections_modify]
    split
    · next here => rw [keeps, here]
    · rfl
  cases x with
  | send line => exact sent sid line
  | forward client line => exact sent client.session_id line
  | deliver channel message notice recipient => rw [perform_deliver]; exact sent recipient.2.session_id (notice.line message)
  | try_register =>
    rcases perform_try_register cfg w env sid with ⟨_, result, _⟩ | ⟨_, _, _, result⟩
    · rw [result]; exact still w rfl
    · rw [result]; exact still _ (changed (fun connection => { connection with session := _ }) (fun _ => rfl))
  | insert_client principal memberships =>
    rw [perform, (connection_insert_client w _).2.1]
    simp [Section.sends]
  | remove_client principal =>
    rw [perform_remove_client]
    exact still _ (by rw [(remove_client_frame _ _ _).2])
  | finish =>
    exact still _ (changed (fun connection => { connection with phase := .Ended, writer := false }) (fun _ => rfl))
  | leave => exact still _ (changed (fun connection => { connection with phase := .Ended }) (fun _ => rfl))
  | ensure_registered command => exact still _ (by rw [world_ensure_registered])
  | is_member principal channel body => exact still _ (by rw [world_is_member])
  | task_create principal channel title =>
    simp only [perform]
    split
    · exact still _ rfl
    · exact still _ rfl
  | task_claim principal task_id => rw [perform, world_task_result]; exact still _ rfl
  | task_done principal task_id => rw [perform, world_task_result]; exact still _ rfl
  | task_release principal task_id => rw [perform, world_task_result]; exact still _ rfl
  | _ => exact still _ rfl

/-- The stored message that a section queues, and to which session. -/
def Section.queues (sid : SessionId) : Section → Option (SessionId × StoredMessage)
  | .send line => line.stored.map (fun message => (sid, message))
  | .forward client line => line.stored.map (fun message => (client.session_id, message))
  | .deliver _ message _ recipient => some (recipient.2.session_id, message)
  | _ => none

theorem queues_eq (x : Section) :
    x.queues sid = (x.sends sid).bind (fun sent => sent.2.stored.map (fun message => (sent.1, message))) := by
  cases x with
  | deliver channel message notice recipient => simp [Section.queues, Section.sends]
  | _ => rfl

theorem enqueued_perform (x : Section) :
    (perform cfg w env sid x).1.enqueued sid' = w.enqueued sid' ++
      if w.open sid' then (((x.queues sid).filter (fun queued => decide (queued.1 = sid'))).map Prod.snd).toList else [] := by
  rw [World.enqueued, lines_perform, List.filterMap_append, ← World.enqueued, queues_eq]
  congr 1
  cases sends : x.sends sid with
  | none => simp
  | some sent =>
    obtain ⟨target, line⟩ := sent
    by_cases alive : w.open sid'
    · by_cases here : target = sid'
      · cases carried : line.stored with
        | none => simp [alive, here, carried, Option.filter]
        | some message => simp [alive, here, carried, Option.filter]
      · cases carried : line.stored with
        | none => simp [alive, here, carried, Option.filter]
        | some message => simp [alive, here, carried, Option.filter]
    · simp [alive, Option.filter]

/-- Only the end of a session closes its queue. -/
theorem open_perform {x : Section} (lasting : ¬ (x = .finish ∧ sid = sid')) :
    (perform cfg w env sid x).1.open sid' ↔ w.open sid' := by
  cases x with
  | send line => exact open_send w sid sid' line
  | forward client line => exact open_send w client.session_id sid' line
  | deliver channel message notice recipient => rw [perform_deliver]; exact open_send w _ sid' _
  | try_register =>
    rcases perform_try_register cfg w env sid with ⟨_, result, _⟩ | ⟨_, _, _, result⟩
    · rw [result]
    · rw [result]; exact (setSession_frame _).2 sid'
  | insert_client principal memberships => exact (insert_client_frame _).2 sid'
  | remove_client principal => rw [perform_remove_client, World.open, World.open, (remove_client_frame _ _ _).2]
  | finish =>
    have other : sid' ≠ sid := fun same => lasting ⟨rfl, same.symm⟩
    simp [perform, World.open, connections_modify, other]
  | mark_seen principal_id channel seq => rfl
  | add_membership principal channel => rfl
  | add_member principal channel => rfl
  | remove_membership principal channel => rfl
  | remove_member principal channel => rfl
  | append channel sender_id body notice => rfl
  | _ => exact (calm_perform rfl).2 sid'

/-- Only `append` changes the log. -/
theorem messages_perform {x : Section} (other : ∀ channel sender_id body notice, x ≠ .append channel sender_id body notice) :
    (perform cfg w env sid x).1.db.messages = w.db.messages := by
  cases x with
  | append channel sender_id body notice => exact absurd rfl (other channel sender_id body notice)
  | send line => simp [perform]
  | forward client line => simp [perform]
  | deliver channel message notice recipient => rw [perform_deliver]; simp
  | try_register =>
    rcases perform_try_register cfg w env sid with ⟨_, result, _⟩ | ⟨_, _, _, result⟩
    · rw [result]
    · rw [result]; rfl
  | insert_client principal memberships => simp [perform]
  | remove_client principal => rw [perform_remove_client, (remove_client_frame _ _ _).1]
  | finish => rfl
  | mark_seen principal_id channel seq => rfl
  | add_membership principal channel => rfl
  | add_member principal channel => rfl
  | remove_membership principal channel => rfl
  | remove_member principal channel => rfl
  | _ => exact (calm_perform rfl).1.messages

/-- Only the two sections of a registration and of a disconnection change the handles. -/
theorem clients_perform {x : Section} :
    (perform cfg w env sid x).1.inner.clients p =
      match x with
      | .insert_client principal _ => if p = principal.id then some ⟨sid⟩ else w.inner.clients p
      | .remove_client principal => if p = principal.id ∧ w.inner.clients p = some ⟨sid⟩ then none else w.inner.clients p
      | _ => w.inner.clients p := by
  cases x with
  | insert_client principal memberships => exact clients_insert_client sid _
  | remove_client principal =>
    rw [perform_remove_client]
    unfold Server.remove_client
    by_cases self : p = principal.id
    · subst self
      cases found : w.inner.clients principal.id with
      | none => simp [found]
      | some client =>
        cases client with
        | mk owner =>
          by_cases mine : owner = sid
          · simp [mine]
          · simp [mine, found]
    · split
      · simp [self]
      · simp [self]
  | send line => simp [perform]
  | forward client line => simp [perform]
  | deliver channel message notice recipient => rw [perform_deliver]; simp
  | try_register =>
    rcases perform_try_register cfg w env sid with ⟨_, result, _⟩ | ⟨_, _, _, result⟩
    · rw [result]
    · rw [result]; rfl
  | remove_member principal channel => simp [perform]
  | finish => rfl
  | mark_seen principal_id channel seq => rfl
  | add_membership principal channel => rfl
  | add_member principal channel => rfl
  | remove_membership principal channel => rfl
  | append channel sender_id body notice => rfl
  | _ => rw [(calm_perform rfl).1.inner]

/-- Only three sections change the memberships. -/
theorem cursor_perform {x : Section} :
    cursor (perform cfg w env sid x).1.db p c =
      match x with
      | .mark_seen id channel seq =>
        (cursor w.db p c).map (fun seen => if p = id ∧ c = channel then max seen seq else seen)
      | .add_membership principal channel =>
        if cursor w.db principal.id channel = none ∧ principal.id = p ∧ channel = c then some (max_seq w.db.messages channel)
        else cursor w.db p c
      | .remove_membership principal channel => if principal.id = p ∧ channel = c then none else cursor w.db p c
      | _ => cursor w.db p c := by
  have calm {w' : World} (rows : w'.db.channel_memberships = w.db.channel_memberships) :
      cursor w'.db p c = cursor w.db p c := by rw [cursor, cursor, rows]
  cases x with
  | mark_seen id channel seq => exact cursor_mark_seen seq
  | add_membership principal channel => exact cursor_add_membership env.now
  | remove_membership principal channel => exact cursor_remove_membership
  | send line => simp [perform]
  | forward client line => simp [perform]
  | deliver channel message notice recipient => rw [perform_deliver]; simp
  | try_register =>
    rcases perform_try_register cfg w env sid with ⟨_, result, _⟩ | ⟨_, _, _, result⟩
    · rw [result]
    · rw [result]; rfl
  | insert_client principal memberships => simp [perform]
  | remove_client principal => rw [perform_remove_client, (remove_client_frame _ _ _).1]
  | finish => rfl
  | add_member principal channel => rfl
  | remove_member principal channel => rfl
  | append channel sender_id body notice => rfl
  | _ => exact calm (calm_perform rfl).1.memberships

/-- Only `remove_member` takes a member out of a channel. -/
theorem members_perform {x : Section} (inside : p ∈ members w.inner c)
    (staying : ∀ principal, x = .remove_member principal c → principal.id ≠ p) :
    p ∈ members (perform cfg w env sid x).1.inner c := by
  cases x with
  | insert_client principal memberships => exact (mem_members_insert_client sid _).mpr (.inl inside)
  | remove_client principal =>
    rw [perform_remove_client]
    unfold Server.remove_client
    split
    · exact inside
    · exact inside
  | send line => simpa [perform] using inside
  | forward client line => simpa [perform] using inside
  | deliver channel message notice recipient => rw [perform_deliver]; simpa using inside
  | try_register =>
    rcases perform_try_register cfg w env sid with ⟨_, result, _⟩ | ⟨_, _, _, result⟩
    · rw [result]; exact inside
    · rw [result]; exact inside
  | remove_member principal channel =>
    refine mem_members_remove_member.mpr ⟨inside, ?_⟩
    rintro ⟨rfl, rfl⟩
    exact staying principal rfl rfl
  | add_member principal channel => exact mem_members_add_member.mpr (.inl inside)
  | finish => exact inside
  | mark_seen principal_id channel seq => exact inside
  | add_membership principal channel => exact inside
  | remove_membership principal channel => exact inside
  | append channel sender_id body notice => exact inside
  | _ => rw [(calm_perform rfl).1.inner]; exact inside

/-! ## What one event changes -/

@[simp] theorem world_resume (s : System) (next : World × List Section) : (s.resume sid next).world = next.1 := rfl

@[simp] theorem threads_resume (s : System) (next : World × List Section) :
    (s.resume sid next).threads sid' = if sid' = sid then next.2 else s.threads sid' := by
  simp [System.resume, Function.update_apply]

theorem step_run {s : System} {here : Section} {rest : List Section} (head : s.threads sid = here :: rest) :
    step cfg s (.run sid env) =
      s.resume sid ((perform cfg s.world env sid here).1, (perform cfg s.world env sid here).2 ++ rest) := by
  simp only [step, head]

theorem step_run_idle {s : System} (empty : s.threads sid = []) : step cfg s (.run sid env) = s := by
  simp only [step, empty]

/-- An event runs the next section of a task, or changes nothing, or is of another kind. -/
inductive Stepped (cfg : Config) (s : System) (e : Event) : Prop where
  | ran (sid : SessionId) (env : Env) (here : Section) (rest : List Section) (event : e = .run sid env)
      (head : s.threads sid = here :: rest)
  | idle (same : step cfg s e = s)
  | other (notRun : ∀ sid env, e ≠ .run sid env)

theorem stepped (cfg : Config) (s : System) (e : Event) : Stepped cfg s e := by
  by_cases runs : ∃ sid env, e = .run sid env
  · obtain ⟨sid, env, rfl⟩ := runs
    cases head : s.threads sid with
    | nil => exact .idle (step_run_idle head)
    | cons here rest => exact .ran sid env here rest rfl head
  · exact .other (fun sid env same => runs ⟨sid, env, same⟩)

theorem handle_command_calm (command : Command) :
    Calm w (handle_command w sid command).1 ∧ ∀ sid', (handle_command w sid command).1.open sid' ↔ w.open sid' := by
  have same : Calm w w ∧ ∀ sid', w.open sid' ↔ w.open sid' := ⟨Calm.refl w, fun _ => Iff.rfl⟩
  cases command with
  | Pass token => exact ⟨Calm.setSession rfl rfl, (setSession_frame _).2⟩
  | Nick nick => exact ⟨Calm.setSession rfl rfl, (setSession_frame _).2⟩
  | _ => exact same

/-- What every event but a section and a restart does: tasks with something left
    to do keep it, and the world changes in its connections alone. -/
theorem step_other (cfg : Config) (s : System) {e : Event} (notRun : ∀ sid env, e ≠ .run sid env) (lasting : e ≠ .restart) :
    Calm s.world (step cfg s e).world ∧
    (∀ sid', s.threads sid' ≠ [] → (step cfg s e).threads sid' = s.threads sid') ∧
    (∀ sid', e ≠ .writer_end sid' → s.world.open sid' → (step cfg s e).world.open sid') := by
  have same : Calm s.world s.world ∧ (∀ sid', s.threads sid' ≠ [] → s.threads sid' = s.threads sid') ∧
      ∀ sid', e ≠ .writer_end sid' → s.world.open sid' → s.world.open sid' :=
    ⟨Calm.refl _, fun _ _ => rfl, fun _ _ alive => alive⟩
  have resumed (sid : SessionId) (next : World × List Section) (idle : s.idle sid = true) (calm : Calm s.world next.1)
      (opens : ∀ sid', next.1.open sid' ↔ s.world.open sid') :
      Calm s.world (s.resume sid next).world ∧
      (∀ sid', s.threads sid' ≠ [] → (s.resume sid next).threads sid' = s.threads sid') ∧
      ∀ sid', e ≠ .writer_end sid' → s.world.open sid' → (s.resume sid next).world.open sid' := by
    refine ⟨calm, ?_, fun sid' _ alive => (opens sid').mpr alive⟩
    intro sid' busy
    rw [threads_resume, if_neg]
    rintro rfl
    simp [System.idle] at idle
    exact busy idle.2
  cases e with
  | run sid env => exact absurd rfl (notRun sid env)
  | restart => exact absurd rfl lasting
  | connect sid =>
    simp only [step]
    split
    · refine ⟨Calm.accept, fun _ _ => rfl, ?_⟩
      intro sid' _ alive
      rw [accept, open_send, World.open, connections_modify]
      split
      · rfl
      · exact alive
    · exact same
  | receive sid command =>
    simp only [step]
    split
    · next idle => exact resumed sid _ idle (handle_command_calm command).1 (handle_command_calm command).2
    · exact same
  | eof sid =>
    simp only [step]
    split
    · next idle => exact resumed sid _ idle (Calm.refl _) (fun _ => Iff.rfl)
    · exact same
  | shutdown sid =>
    simp only [step]
    split
    · exact same
    · split
      · next idle => exact resumed sid _ idle (Calm.refl _) (fun _ => Iff.rfl)
      · exact same
  | read_error sid =>
    simp only [step]
    split
    · refine ⟨Calm.leave, fun _ _ => rfl, ?_⟩
      intro sid' _ alive
      rw [Server.leave, World.open, connections_modify]
      split
      · next here => rw [← here]; exact alive
      · exact alive
    · exact same
  | writer_end sid =>
    refine ⟨Calm.writer_end, fun _ _ => rfl, ?_⟩
    intro sid' other alive
    have apart : sid' ≠ sid := by
      rintro rfl
      exact other rfl
    simpa [step, World.open, connections_modify, apart] using alive

/-- No event but its connection opens a queue. -/
theorem open_step_other {s : System} {e : Event} (notRun : ∀ sid env, e ≠ .run sid env) (old : e ≠ .connect sid')
    (alive : (step cfg s e).world.open sid') : s.world.open sid' := by
  cases e with
  | run sid env => exact absurd rfl (notRun sid env)
  | connect sid =>
    have apart : sid' ≠ sid := by
      rintro rfl
      exact old rfl
    simp only [step] at alive
    split at alive
    · simpa [accept, World.open, connections_modify, apart] using (open_send _ sid sid' _).mp alive
    · exact alive
  | receive sid command =>
    simp only [step] at alive
    split at alive
    · exact ((handle_command_calm command).2 sid').mp alive
    · exact alive
  | eof sid =>
    simp only [step] at alive
    split at alive
    · exact alive
    · exact alive
  | shutdown sid =>
    simp only [step] at alive
    split at alive
    · exact alive
    · split at alive
      · exact alive
      · exact alive
  | read_error sid =>
    simp only [step] at alive
    split at alive
    · simp only [Server.leave, World.open, connections_modify] at alive ⊢
      split at alive
      · next here => rw [here]; exact alive
      · exact alive
    · exact alive
  | writer_end sid =>
    simp only [step, World.open, connections_modify] at alive ⊢
    split at alive
    · cases alive
    · exact alive
  | restart =>
    simp only [step, Server.step, World.open] at alive ⊢
    split at alive
    · exact alive
    · cases alive

def Unused (sid : SessionId) (s : System) : Prop := s.threads sid = []

/-- A task without sections has none until an event of its session. -/
theorem unused_step {s : System} {e : Event} (empty : Unused sid s) (other : e.session ≠ some sid) :
    Unused sid (step cfg s e) := by
  have apart {sid' : SessionId} (same : e.session = some sid') : sid ≠ sid' := by
    rintro rfl
    exact other same
  cases e with
  | restart => rfl
  | writer_end sid' => exact empty
  | connect sid' =>
    simp only [Unused, step]
    split
    · exact empty
    · exact empty
  | read_error sid' =>
    simp only [Unused, step]
    split
    · exact empty
    · exact empty
  | receive sid' command =>
    simp only [Unused, step]
    split
    · rw [threads_resume, if_neg (apart rfl), empty]
    · exact empty
  | eof sid' =>
    simp only [Unused, step]
    split
    · rw [threads_resume, if_neg (apart rfl), empty]
    · exact empty
  | shutdown sid' =>
    simp only [Unused, step]
    split
    · exact empty
    · split
      · rw [threads_resume, if_neg (apart rfl), empty]
      · exact empty
  | run sid' env =>
    cases head : s.threads sid' with
    | nil => rw [step_run_idle head]; exact empty
    | cons here rest => rw [Unused, step_run head, threads_resume, if_neg (apart rfl), empty]

theorem unused_run {s : System} (events : List Event) (empty : Unused sid s) (others : ∀ e ∈ events, e.session ≠ some sid) :
    Unused sid (Runs.run (step cfg) s events) := by
  have allowed : Runs.AllSteps (step cfg) (fun _ e => e.session ≠ some sid) s events := Runs.allSteps_of_forall others
  exact Runs.run_invariant_of (fun _ _ empty other => unused_step empty other) events empty allowed

/-- In a run of two sessions the others never have anything to do. -/
theorem idle_of_two {db : Db} {events : List Event} (two : ∀ e ∈ events, e.session = some 0 ∨ e.session = some 1)
    (both : (Runs.run (step cfg) (start db) events).threads 0 = [] ∧ (Runs.run (step cfg) (start db) events).threads 1 = [])
    (sid : SessionId) : (Runs.run (step cfg) (start db) events).threads sid = [] := by
  by_cases first : sid = 0
  · rw [first]; exact both.1
  · by_cases second : sid = 1
    · rw [second]; exact both.2
    · apply unused_run events (show Unused sid (start db) from rfl)
      intro e inside same
      rcases two e inside with here | here
      · rw [same] at here; exact first (Option.some.inj here)
      · rw [same] at here; exact second (Option.some.inj here)

end Aircd.Concurrent

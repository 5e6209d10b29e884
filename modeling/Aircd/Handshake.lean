import Aircd.Attached
import Aircd.Replies

/-!
# A client introduces itself

The first commands that the client sends on a new connection, while the tasks of
all other sessions run as they like. The session is unreached until its handle is
inserted: up to then it is sent what its own task sends it and nothing else. From
the insertion on, lines of its channels may overtake its 001 line.
-/
namespace Aircd.Concurrent
open Aircd.Runs Aircd.Text Aircd.Protocol Aircd.Auth Aircd.History Aircd.Tasks Aircd.Store Aircd.Server

/-- The commands of `_do_connect`. -/
def introduction (token name : Text) : List Command :=
  [.Cap "LS".toList ["302".toList], .Cap "REQ".toList ["message-tags".toList], .Pass token, .Nick name, .User name,
    .Cap "END".toList []]

/-- The answers to the first two of them, behind the line that welcomes every connection. -/
def offer : ServerLine := .Cap ['*'] "LS".toList "message-tags".toList
def acknowledgement : ServerLine := .Cap ['*'] "ACK".toList "message-tags".toList
def preface : List ServerLine := [.Welcome, offer, acknowledgement]

/-- A server, with the commands that the client of one session has written and the server has not read. -/
structure Linked where
  system : System
  upstream : List Command

/-- The event is a command of the session. -/
def Event.asks (sid : SessionId) : Event → Bool
  | .receive target _ => decide (target = sid)
  | _ => false

namespace Linked

inductive Event where
  | system (e : Concurrent.Event)
  /-- The task of the session reads the next command. -/
  | arrive

/-- The commands of the session come from its client alone. -/
def step (cfg : Config) (sid : SessionId) (l : Linked) : Event → Linked
  | .system e => if e.asks sid then l else { l with system := Concurrent.step cfg l.system e }
  | .arrive =>
    match l.upstream with
    | [] => l
    | command :: rest => if l.system.idle sid then ⟨Concurrent.step cfg l.system (.receive sid command), rest⟩ else l

end Linked

variable {cfg : Config} {s : System} {w : World} {env : Env} {sid task : SessionId} {x here : Section} {e : Event}
  {token name : Text} {later : List Command} {outcome : Except Text Principal}

/-! ## Credentials -/

/-- What authentication reads of a database. -/
def credentials (db : Db) : List (Principal × Text) × TokenTable :=
  (db.principals.rows.map (fun row => (row.toPrincipal, row.token)), db.principal_tokens)

theorem authenticate_of_credentials {db db' : Db} (same : credentials db' = credentials db) (verify : Verify) (token : Text) :
    authenticate verify db'.principals db'.principal_tokens token = authenticate verify db.principals db.principal_tokens token := by
  obtain ⟨rows, tokens⟩ := Prod.mk.inj same
  have seen (q : Principal × Text → Bool) (db : Db) : (db.principals.rows.find? (fun row => q (row.toPrincipal, row.token))).map
      (fun row => (row.toPrincipal, row.token)) = (credentials db).1.find? q := by
    rw [credentials, List.find?_map]
    rfl
  have legacy : authenticate_legacy db'.principals token = authenticate_legacy db.principals token := by
    have first := seen (fun known => decide (known.2 = token)) db'
    have second := seen (fun known => decide (known.2 = token)) db
    rw [same, ← second] at first
    unfold authenticate_legacy
    cases found : db.principals.rows.find? (fun row => decide (row.token = token)) with
    | none =>
      rw [found, Option.map_none, Option.map_eq_none_iff] at first
      rw [first]
    | some row =>
      rw [found, Option.map_some, Option.map_eq_some_iff] at first
      obtain ⟨row', found', equal⟩ := first
      rw [found']
      exact congrArg Except.ok (Prod.mk.inj equal).1
  have issued (token_id secret : Text) : authenticate_new verify db'.principals db'.principal_tokens token_id secret =
      authenticate_new verify db.principals db.principal_tokens token_id secret := by
    unfold authenticate_new
    rw [show db'.principal_tokens = db.principal_tokens from tokens]
    cases db.principal_tokens.find token_id with
    | none => rfl
    | some row =>
      have first := seen (fun known => decide (known.1.id = row.principal_id)) db'
      have second := seen (fun known => decide (known.1.id = row.principal_id)) db
      rw [same, ← second] at first
      dsimp only
      cases found : db.principals.find row.principal_id with
      | none =>
        rw [Table.find] at found
        rw [found, Option.map_none, Option.map_eq_none_iff] at first
        rw [Table.find, first]
      | some owner =>
        rw [Table.find] at found
        rw [found, Option.map_some, Option.map_eq_some_iff] at first
        obtain ⟨owner', found', equal⟩ := first
        rw [Table.find, found']
        dsimp only
        rw [(Prod.mk.inj equal).1]
  unfold authenticate
  cases Auth.parse token with
  | none => exact legacy
  | some parts =>
    dsimp only
    rw [issued, legacy]

/-- An update of the bookkeeping of principals keeps their credentials. -/
theorem credentials_update {db db' : Db} {cond : PrincipalRow → Bool} {set : PrincipalRow → PrincipalRow}
    (updated : db'.principals.rows = db.principals.rows.map (fun row => if cond row then set row else row))
    (tokens : db'.principal_tokens = db.principal_tokens)
    (same : ∀ row, (set row).toPrincipal = row.toPrincipal ∧ (set row).token = row.token) : credentials db' = credentials db := by
  rw [credentials, credentials, updated, tokens, List.map_map]
  congr 1
  apply List.map_congr_left
  intro row _
  rw [Function.comp_apply]
  split
  · rw [(same row).1, (same row).2]
  · rfl

theorem credentials_perform (x : Section) : credentials (perform cfg w env sid x).1.db = credentials w.db := by
  cases x with
  | send line => simp [perform]
  | forward client line => simp [perform]
  | deliver channel message notice recipient => rw [perform_deliver]; simp
  | try_register =>
    rcases perform_try_register cfg w env sid with ⟨_, result, _⟩ | ⟨_, _, _, result⟩
    · rw [result]
    · rw [result]; rfl
  | mark_connected principal => exact credentials_update rfl rfl (fun _ => ⟨rfl, rfl⟩)
  | mark_seen principal_id channel seq => exact credentials_update rfl rfl (fun _ => ⟨rfl, rfl⟩)
  | mark_disconnected principal_id => exact credentials_update rfl rfl (fun _ => ⟨rfl, rfl⟩)
  | insert_client principal memberships => simp [perform]
  | remove_client principal => rw [perform_remove_client, (remove_client_frame _ _ _).1]
  | ensure_registered command => rw [world_ensure_registered]
  | is_member principal channel body => rw [world_is_member]
  | task_create principal channel title =>
    simp only [perform]
    split
    · rfl
    · rfl
  | task_claim principal task_id => rw [perform, world_task_result]; rfl
  | task_done principal task_id => rw [perform, world_task_result]; rfl
  | task_release principal task_id => rw [perform, world_task_result]; rfl
  | _ => rfl

theorem credentials_step (cfg : Config) (s : System) (e : Event) : credentials (step cfg s e).world.db = credentials s.world.db := by
  rcases stepped cfg s e with ⟨task, env, here, rest, rfl, head⟩ | idle | notRun
  · rw [step_run head, world_resume, credentials_perform]
  · rw [idle]
  · rw [db_step_other cfg s notRun]

/-! ## What the other tasks do to a session -/

/-- A task that neither reaches a session nor finds its handle leaves its connection alone. -/
theorem untouched_perform (apart : task ≠ sid) (unreached : x.reaches ≠ some sid) (nobody : Gone w sid) :
    (perform cfg w env task x).1.connections sid = w.connections sid := by
  have modified (w : World) (change : Connection → Connection) : (w.modify task change).connections sid = w.connections sid := by
    rw [connections_modify, if_neg (Ne.symm apart)]
  have sent (target : SessionId) (other : target ≠ sid) (line : ServerLine) :
      (w.send target line).connections sid = w.connections sid := by
    rw [connections_send, if_neg (fun both => other both.1.symm)]
  cases x with
  | send line => exact sent task apart line
  | forward client line => exact sent client.session_id (fun same => unreached (congrArg some same)) line
  | deliver channel message notice recipient =>
    rw [perform_deliver]
    exact sent recipient.2.session_id (fun same => unreached (congrArg some same)) _
  | try_register =>
    rcases perform_try_register cfg w env task with ⟨_, result, _⟩ | ⟨_, _, _, result⟩
    · rw [result]
    · rw [result]
      exact modified w (fun connection => { connection with session := _ })
  | insert_client principal memberships =>
    simp only [perform, Server.insert_client]
    cases handle : w.inner.clients principal.id with
    | none => rfl
    | some old =>
      have other : sid ≠ old.session_id := by
        rintro rfl
        exact nobody principal.id handle
      rw [connections_modify, if_neg other]
  | remove_client principal => rw [perform_remove_client, (remove_client_frame _ _ _).2]
  | finish => exact modified w (fun connection => { connection with phase := .Ended, writer := false })
  | leave => exact modified w (fun connection => { connection with phase := .Ended })
  | ensure_registered command => rw [world_ensure_registered]
  | is_member principal channel body => rw [world_is_member]
  | task_create principal channel title =>
    simp only [perform]
    split
    · rfl
    · rfl
  | task_claim principal task_id => rw [perform, world_task_result]
  | task_done principal task_id => rw [perform, world_task_result]
  | task_release principal task_id => rw [perform, world_task_result]
  | _ => rfl

/-- What an event of another session leaves of a task. -/
theorem threads_other (cfg : Config) (s : System) (other : e.session ≠ some sid) (lasting : e ≠ .restart) :
    (step cfg s e).threads sid = s.threads sid := by
  have resumed (task : SessionId) (next : World × List Section) (apart : task ≠ sid) :
      (s.resume task next).threads sid = s.threads sid := by
    rw [threads_resume, if_neg (Ne.symm apart)]
  have apart {task : SessionId} (session : e.session = some task) : task ≠ sid := by
    rintro rfl
    exact other session
  cases e with
  | connect task =>
    simp only [step]
    split
    · rfl
    · rfl
  | receive task command =>
    simp only [step]
    split
    · exact resumed task _ (apart rfl)
    · rfl
  | run task env =>
    cases head : s.threads task with
    | nil => rw [step_run_idle head]
    | cons here rest => rw [step_run head]; exact resumed task _ (apart rfl)
  | eof task =>
    simp only [step]
    split
    · exact resumed task _ (apart rfl)
    · rfl
  | shutdown task =>
    simp only [step]
    split
    · rfl
    split
    · exact resumed task _ (apart rfl)
    · rfl
  | read_error task =>
    simp only [step]
    split
    · rfl
    · rfl
  | writer_end task => rfl
  | restart => exact absurd rfl lasting

/-- Until its handle is inserted, only a session's own task and its client touch its connection. -/
theorem untouched_step (inv : Reached s) (apart : ¬ Attached s sid) (other : e.session ≠ some sid) (lasting : e ≠ .restart) :
    (step cfg s e).world.connections sid = s.world.connections sid := by
  have modified (task : SessionId) (change : Connection → Connection) (away : task ≠ sid) :
      (s.world.modify task change).connections sid = s.world.connections sid := by
    rw [connections_modify, if_neg (Ne.symm away)]
  have away {task : SessionId} (session : e.session = some task) : task ≠ sid := by
    rintro rfl
    exact other session
  cases e with
  | connect task =>
    simp only [step]
    split
    · rw [accept, connections_send, if_neg (fun both => away rfl both.1.symm)]
      exact modified task (fun connection => { connection with phase := .Running, writer := true }) (away rfl)
    · rfl
  | receive task command =>
    simp only [step]
    split
    · rw [world_resume]
      cases command with
      | Pass token => exact modified task (fun connection => { connection with session := _ }) (away rfl)
      | Nick nick => exact modified task (fun connection => { connection with session := _ }) (away rfl)
      | _ => rfl
    · rfl
  | run task env =>
    cases head : s.threads task with
    | nil => rw [step_run_idle head]
    | cons here rest =>
      rw [step_run head, world_resume]
      refine untouched_perform (away rfl) ?_ ?_
      · intro reaches
        exact apart (inv.reaches task here (by rw [head]; exact List.mem_cons_self) sid reaches)
      · intro p handle
        exact apart (inv.clients p _ handle)
  | eof task =>
    simp only [step]
    split
    · rfl
    · rfl
  | shutdown task =>
    simp only [step]
    split
    · rfl
    split
    · rfl
    · rfl
  | read_error task =>
    simp only [step]
    split
    · exact modified task (fun connection => { connection with phase := .Ended }) (away rfl)
    · rfl
  | writer_end task => exact modified task (fun connection => { connection with writer := false }) (away rfl)
  | restart => exact absurd rfl lasting

/-! ### Lines of a channel -/

/-- What a section forwards to others is a line of a channel. -/
def Section.aloud : Section → Bool
  | .forward _ line => on_channel line
  | .broadcast_raw _ line => on_channel line
  | _ => true

/-- Every task forwards lines of a channel alone. -/
def Aloud (s : System) : Prop := ∀ task, ∀ x ∈ s.threads task, x.aloud = true

theorem Aloud.step (inv : Aloud s) : Aloud (step cfg s e) := by
  intro task x inside
  rcases mem_threads_step inside with old | ⟨env, here, rest, rfl, head, new⟩ | begins
  · exact inv task x old
  · have source := leads_perform new
    cases x with
    | forward client line =>
      obtain ⟨channel, _, rfl, _⟩ := source
      exact inv task (.broadcast_raw channel line) (by rw [head]; exact List.mem_cons_self)
    | broadcast_raw channel line =>
      obtain ⟨principal, ⟨_, rfl⟩ | ⟨_, rfl⟩⟩ := source
      · rfl
      · rfl
    | _ => rfl
  · cases x with
    | forward _ _ => exact begins.elim
    | broadcast_raw _ _ => exact begins.elim
    | _ => rfl

/-- The tasks of others queue a session lines of a channel alone, and do not close its queue. -/
theorem heard_from_others (inv : Aloud s) (used : (s.world.connections sid).phase ≠ .Unused) (other : e.session ≠ some sid)
    (lasting : e ≠ .restart) :
    (∃ more, ((step cfg s e).world.connections sid).lines = (s.world.connections sid).lines ++ more ∧
      ∀ line ∈ more, on_channel line = true) ∧
    ((step cfg s e).world.open sid ↔ s.world.open sid) := by
  have away {task : SessionId} (session : e.session = some task) : task ≠ sid := by
    rintro rfl
    exact other session
  rcases stepped cfg s e with ⟨task, env, here, rest, rfl, head⟩ | idle | notRun
  · rw [step_run head, world_resume]
    refine ⟨⟨_, lines_perform here, ?_⟩, open_perform (fun finishes => away rfl finishes.2)⟩
    intro line inside
    obtain ⟨⟨target, sent⟩, found, rfl⟩ := List.mem_map.mp inside
    obtain ⟨sends, reaches⟩ := Option.filter_eq_some_iff.mp (Option.mem_toList.mp found)
    have mine : target = sid := (of_decide_eq_true reaches).2
    have aloud := inv task here (by rw [head]; exact List.mem_cons_self)
    cases here with
    | send line =>
      cases sends
      exact absurd mine (away rfl)
    | forward client line => cases sends; exact aloud
    | deliver channel message notice recipient =>
      cases sends
      cases notice with
      | Privmsg _ => rfl
      | Task _ _ _ _ => rfl
    | _ => cases sends
  · rw [idle]
    exact ⟨⟨[], (List.append_nil _).symm, fun _ inside => by cases inside⟩, Iff.rfl⟩
  · have old : e ≠ .connect sid := by
      rintro rfl
      exact other rfl
    refine ⟨⟨[], by rw [lines_step_same cfg s sid notRun old, List.append_nil], fun _ inside => by cases inside⟩, ?_, ?_⟩
    · exact fun alive => open_step_other notRun old alive
    · intro alive
      refine (step_other cfg s notRun lasting).2.2 sid ?_ alive
      rintro rfl
      exact other rfl

/-! ### Queues -/

theorem lines_grow (cfg : Config) (s : System) (e : Event) (sid : SessionId) :
    ∃ more, ((step cfg s e).world.connections sid).lines = (s.world.connections sid).lines ++ more := by
  obtain ⟨more, queued, _⟩ := reply_lines_step cfg s e sid
  exact ⟨more, queued⟩

/-- A closed queue of a connection in use stays as it is. -/
theorem shut_step (used : (s.world.connections sid).phase ≠ .Unused) (shut : ¬ s.world.open sid) :
    ¬ (step cfg s e).world.open sid ∧ ((step cfg s e).world.connections sid).lines = (s.world.connections sid).lines := by
  refine ⟨fun alive => shut (open_of_step used alive), ?_⟩
  rcases stepped cfg s e with ⟨task, env, here, rest, rfl, head⟩ | idle | notRun
  · rw [step_run head, world_resume, lines_perform]
    simp [shut]
  · rw [idle]
  · by_cases connects : e = .connect sid
    · subst connects
      rw [step, if_neg used]
    · exact lines_step_same cfg s sid notRun connects

/-! ## The session of the client -/

/-- A connection whose task has only answered its client. -/
def visitor (lines : List ServerLine) (nick pass_token : Option Text) : Connection :=
  ⟨.Running, ⟨none, nick, pass_token, false⟩, lines, true, []⟩

/-- How far the session has come before it is authenticated: the commands that wait to be read, the
    connection, and what its task has left to do. -/
inductive Stage (outcome : Except Text Principal) (token name : Text) (later : List Command) :
    List Command → Connection → List Section → Prop where
  | welcomed : Stage outcome token name later (introduction token name ++ later) (visitor [.Welcome] none none) []
  | offering :
    Stage outcome token name later ((introduction token name).drop 1 ++ later) (visitor [.Welcome] none none) [.send offer]
  | offered : Stage outcome token name later ((introduction token name).drop 1 ++ later) (visitor [.Welcome, offer] none none) []
  | acknowledging : Stage outcome token name later ((introduction token name).drop 2 ++ later)
      (visitor [.Welcome, offer] none none) [.send acknowledgement]
  | acknowledged : Stage outcome token name later ((introduction token name).drop 2 ++ later) (visitor preface none none) []
  | trying_password : Stage outcome token name later ((introduction token name).drop 3 ++ later)
      (visitor preface none (some token)) [.try_register]
  | password : Stage outcome token name later ((introduction token name).drop 3 ++ later) (visitor preface none (some token)) []
  | trying_nick : Stage outcome token name later ((introduction token name).drop 4 ++ later)
      (visitor preface (some name) (some token)) [.try_register]
  | refusing {error : Text} (denied : outcome = .error error) :
    Stage outcome token name later ((introduction token name).drop 4 ++ later)
      (visitor preface (some name) (some token)) [.send .PasswordIncorrect]

/-- How far the session has come in all. -/
inductive Meeting (outcome : Except Text Principal) (token name : Text) (later : List Command) (sid : SessionId)
    (l : Linked) : Prop where
  | speaking (stage : Stage outcome token name later l.upstream (l.system.world.connections sid) (l.system.threads sid))
  | leaving (used : (l.system.world.connections sid).phase ≠ .Unused)
      (unregistered : (l.system.world.connections sid).session.registered = false)
      (left : l.system.threads sid = [.finish] ∨ ((l.system.world.connections sid).phase = .Ended ∧ l.system.threads sid = []))
      (quiet : ∀ line ∈ (l.system.world.connections sid).lines, line ∈ preface)
  | arriving {principal : Principal} (accepted : outcome = .ok principal)
      (used : (l.system.world.connections sid).phase ≠ .Unused)
      (speaks : l.system.world.principal sid = some principal)
      (left : l.system.threads sid = [.mark_connected principal] ∨ ∃ rows, l.system.threads sid = [.insert_client principal rows])
      (lines : (l.system.world.connections sid).lines = preface) (alive : l.system.world.open sid)
  | greeting {principal : Principal} {rest : List Section} {front : List ServerLine} (accepted : outcome = .ok principal)
      (used : (l.system.world.connections sid).phase ≠ .Unused)
      (speaks : l.system.world.principal sid = some principal)
      (left : l.system.threads sid = .send (.Registered principal.nick principal.team) :: rest)
      (lines : (l.system.world.connections sid).lines = preface ++ front) (aloud : ∀ line ∈ front, on_channel line = true)
      (alive : l.system.world.open sid) (attached : Attached l.system sid)
  | greeted {principal : Principal} {front more : List ServerLine} (accepted : outcome = .ok principal)
      (speaks : l.system.world.principal sid = some principal)
      (lines : (l.system.world.connections sid).lines = preface ++ front ++ .Registered principal.nick principal.team :: more)
      (aloud : ∀ line ∈ front, on_channel line = true) (attached : Attached l.system sid)
  | refused {error : Text} {more : List ServerLine} (denied : outcome = .error error)
      (lines : (l.system.world.connections sid).lines = preface ++ .PasswordIncorrect :: more)
  | cut (used : (l.system.world.connections sid).phase ≠ .Unused) (shut : ¬ l.system.world.open sid)
      (quiet : ∀ line ∈ (l.system.world.connections sid).lines, line ∈ preface ∨ on_channel line = true)

/-- What holds of the server around the session. -/
structure Around (cfg : Config) (outcome : Except Text Principal) (token : Text) (s : System) : Prop where
  reached : Reached s
  held : Held s
  aloud : Aloud s
  authenticates : authenticate cfg.verify s.world.db.principals s.world.db.principal_tokens token = outcome

theorem Around.step (around : Around cfg outcome token s) : Around cfg outcome token (step cfg s e) where
  reached := around.reached.step
  held := around.held.step
  aloud := around.aloud.step
  authenticates := (authenticate_of_credentials (credentials_step cfg s e) cfg.verify token).trans around.authenticates

theorem stage_visitor {upstream : List Command} {connection : Connection} {sections : List Section}
    (stage : Stage outcome token name later upstream connection sections) :
    ∃ lines nick pass_token, connection = visitor lines nick pass_token ∧ ∀ line ∈ lines, line ∈ preface := by
  cases stage with
  | welcomed => exact ⟨_, _, _, rfl, by decide⟩
  | offering => exact ⟨_, _, _, rfl, by decide⟩
  | offered => exact ⟨_, _, _, rfl, by decide⟩
  | acknowledging => exact ⟨_, _, _, rfl, by decide⟩
  | _ => exact ⟨_, _, _, rfl, fun _ inside => inside⟩

/-- The task reads the next command of the client. -/
theorem Stage.arrive {upstream rest : List Command} {connection : Connection} {sections : List Section} {command : Command}
    (stage : Stage outcome token name later upstream connection sections) (reads : upstream = command :: rest)
    (idle : sections = []) (here : w.connections sid = connection) :
    Stage outcome token name later rest ((handle_command w sid command).1.connections sid) (handle_command w sid command).2 := by
  have changed (session : Session) : (w.setSession sid session).connections sid = { connection with session := session } := by
    rw [World.setSession, connections_modify, if_pos rfl, here]
  cases stage with
  | welcomed =>
    obtain ⟨rfl, rfl⟩ := List.cons.inj reads
    simp only [handle_command, here]
    exact .offering
  | offered =>
    obtain ⟨rfl, rfl⟩ := List.cons.inj reads
    simp only [handle_command, here]
    exact .acknowledging
  | acknowledged =>
    obtain ⟨rfl, rfl⟩ := List.cons.inj reads
    simp only [handle_command, changed, here]
    exact .trying_password
  | password =>
    obtain ⟨rfl, rfl⟩ := List.cons.inj reads
    simp only [handle_command, changed, here]
    exact .trying_nick
  | _ => cases idle

/-- The task of the session runs on. -/
theorem Meeting.of_stage {upstream : List Command} {x : Section} {rest : List Section} {connection : Connection}
    {sections : List Section} (around : Around cfg outcome token s)
    (stage : Stage outcome token name later upstream connection sections) (here : s.world.connections sid = connection)
    (head : s.threads sid = x :: rest) (left : sections = x :: rest) (env : Env) :
    Meeting outcome token name later sid ⟨Concurrent.step cfg s (.run sid env), upstream⟩ := by
  have threads : (Concurrent.step cfg s (.run sid env)).threads sid = (perform cfg s.world env sid x).2 ++ rest := by
    rw [step_run head, threads_resume, if_pos rfl]
  have world : (Concurrent.step cfg s (.run sid env)).world = (perform cfg s.world env sid x).1 := by
    rw [step_run head, world_resume]
  have sent {lines : List ServerLine} {nick pass_token : Option Text} (line : ServerLine)
      (same : s.world.connections sid = visitor lines nick pass_token) :
      (perform cfg s.world env sid (.send line)).1.connections sid = visitor (lines ++ [line]) nick pass_token := by
    have alive : s.world.open sid := by rw [World.open, same]; rfl
    rw [perform, connections_send, if_pos ⟨rfl, alive⟩, same]
    rfl
  cases stage with
  | offering =>
    obtain ⟨rfl, rfl⟩ := List.cons.inj left
    refine .speaking ?_
    rw [threads, world, sent _ here]
    exact .offered
  | acknowledging =>
    obtain ⟨rfl, rfl⟩ := List.cons.inj left
    refine .speaking ?_
    rw [threads, world, sent _ here]
    exact .acknowledged
  | trying_password =>
    obtain ⟨rfl, rfl⟩ := List.cons.inj left
    have waits : authenticating cfg s.world.db (s.world.connections sid).session = none := by rw [here]; rfl
    have result : perform cfg s.world env sid .try_register = (s.world, []) := by simp only [perform, waits]
    refine .speaking ?_
    rw [threads, world, result, here]
    exact .password
  | trying_nick =>
    obtain ⟨rfl, rfl⟩ := List.cons.inj left
    have tries : authenticating cfg s.world.db (s.world.connections sid).session = some outcome := by
      rw [here]
      exact congrArg some around.authenticates
    cases outcome with
    | error error =>
      have result : perform cfg s.world env sid .try_register = (s.world, [.send .PasswordIncorrect]) := by
        simp only [perform, tries]
      refine .speaking ?_
      rw [threads, world, result, here]
      exact .refusing rfl
    | ok principal =>
      have result : perform cfg s.world env sid .try_register = (s.world.setSession sid
          { (s.world.connections sid).session with nick := some principal.nick, principal := some principal, registered := true },
          [.mark_connected principal]) := by
        simp only [perform, tries]
      rw [result] at threads world
      have connection : (Concurrent.step cfg s (.run sid env)).world.connections sid =
          { visitor preface (some name) (some token) with
            session := ⟨some principal, some principal.nick, some token, true⟩ } := by
        rw [world, World.setSession, connections_modify, if_pos rfl, here]
        rfl
      refine .arriving rfl ?_ ?_ (.inl threads) ?_ ?_
      · rw [connection]; simp [visitor]
      · rw [World.principal, connection]
      · rw [connection]; rfl
      · rw [World.open, connection]; rfl
  | refusing denied =>
    obtain ⟨rfl, rfl⟩ := List.cons.inj left
    have told : ((Concurrent.step cfg s (.run sid env)).world.connections sid).lines = preface ++ .PasswordIncorrect :: [] := by
      rw [world, sent _ here]
      rfl
    exact .refused denied told
  | _ => cases left


/-! ### One event -/

/-- A task that is under way ignores what would begin another. -/
theorem step_busy (busy : s.idle sid = false) (used : (s.world.connections sid).phase ≠ .Unused) (own : e.session = some sid)
    (notRun : ∀ task env, e ≠ .run task env) (writes : e ≠ .writer_end sid) : step cfg s e = s := by
  cases e with
  | connect task => cases own; rw [step, if_neg used]
  | receive task command => cases own; rw [step, busy, if_neg (by simp)]
  | run task env => exact absurd rfl (notRun task env)
  | eof task => cases own; rw [step, busy, if_neg (by simp)]
  | shutdown task =>
    cases own
    rw [step]
    split
    · rfl
    · rw [busy, if_neg (by simp)]
  | read_error task => cases own; rw [step, busy, if_neg (by simp)]
  | writer_end task => cases own; exact absurd rfl writes
  | restart => cases own

/-- The queue of the session is closed by the end of its writer or of the server. -/
theorem shut_of_ended (used : (s.world.connections sid).phase ≠ .Unused) (ends : e = .writer_end sid ∨ e = .restart) :
    ((step cfg s e).world.connections sid).phase ≠ .Unused ∧ ¬ (step cfg s e).world.open sid ∧
      ((step cfg s e).world.connections sid).lines = (s.world.connections sid).lines := by
  refine ⟨(onward_step cfg s e sid).used used, ?_, ?_⟩
  · rcases ends with rfl | rfl
    · simp [step, World.open, connections_modify]
    · simp [step, Server.step, World.open, used]
  · rcases ends with rfl | rfl
    · exact lines_step_same cfg s sid (by simp) (by simp)
    · exact lines_step_same cfg s sid (by simp) (by simp)

variable {l : Linked} {upstream : List Command} {principal : Principal} {front more : List ServerLine}

theorem Meeting.greeted_step (around : Around cfg outcome token s) (accepted : outcome = .ok principal)
    (speaks : s.world.principal sid = some principal)
    (lines : (s.world.connections sid).lines = preface ++ front ++ .Registered principal.nick principal.team :: more)
    (aloud : ∀ line ∈ front, on_channel line = true) (attached : Attached s sid) (e : Event) :
    Meeting outcome token name later sid ⟨Concurrent.step cfg s e, upstream⟩ := by
  obtain ⟨new, queued⟩ := lines_grow cfg s e sid
  have goes_on : ((Concurrent.step cfg s e).world.connections sid).lines =
      preface ++ front ++ .Registered principal.nick principal.team :: (more ++ new) := by
    rw [queued, lines, List.append_assoc, List.cons_append]
  exact .greeted accepted (around.held.speaks speaks e) goes_on aloud attached.step

theorem Meeting.refused_step {error : Text} (denied : outcome = .error error)
    (lines : (s.world.connections sid).lines = preface ++ .PasswordIncorrect :: more) (e : Event) :
    Meeting outcome token name later sid ⟨Concurrent.step cfg s e, upstream⟩ := by
  obtain ⟨new, queued⟩ := lines_grow cfg s e sid
  have goes_on : ((Concurrent.step cfg s e).world.connections sid).lines = preface ++ .PasswordIncorrect :: (more ++ new) := by
    rw [queued, lines, List.append_assoc, List.cons_append]
  exact .refused denied goes_on

/-- The events of other sessions. -/
theorem Meeting.others (around : Around cfg outcome token l.system) (meeting : Meeting outcome token name later sid l)
    (other : e.session ≠ some sid) (lasting : e ≠ .restart) :
    Meeting outcome token name later sid ⟨Concurrent.step cfg l.system e, l.upstream⟩ := by
  have threads := threads_other cfg l.system other lasting
  have untouched := fun apart => @untouched_step cfg l.system sid e around.reached apart other lasting
  cases meeting with
  | speaking stage =>
    obtain ⟨lines, nick, pass_token, here, _⟩ := stage_visitor stage
    have apart : ¬ Attached l.system sid := by
      intro attached
      have registered := attached.registered
      rw [here] at registered
      cases registered
    refine .speaking ?_
    rw [untouched apart, threads]
    exact stage
  | leaving used unregistered left quiet =>
    have apart : ¬ Attached l.system sid := by
      intro attached
      have registered := attached.registered
      rw [unregistered] at registered
      cases registered
    refine .leaving ?_ ?_ ?_ ?_
    · rw [untouched apart]; exact used
    · rw [untouched apart]; exact unregistered
    · rw [untouched apart, threads]; exact left
    · rw [untouched apart]; exact quiet
  | arriving accepted used speaks left lines alive =>
    have apart : ¬ Attached l.system sid := by
      intro attached
      rcases left with marks | ⟨rows, inserts⟩
      · exact absurd (attached.settled _ (by rw [marks]; exact List.mem_cons_self)) (by simp [Section.registers])
      · exact absurd (attached.settled _ (by rw [inserts]; exact List.mem_cons_self)) (by simp [Section.registers])
    refine .arriving accepted ?_ ?_ ?_ ?_ ?_
    · rw [untouched apart]; exact used
    · rw [World.principal, untouched apart]; exact speaks
    · rw [threads]; exact left
    · rw [untouched apart]; exact lines
    · rw [World.open, untouched apart]; exact alive
  | @greeting principal rest front accepted used speaks left lines aloud alive attached =>
    obtain ⟨⟨more, queued, heard⟩, stays⟩ := @heard_from_others cfg l.system sid e around.aloud used other lasting
    have goes_on : ((Concurrent.step cfg l.system e).world.connections sid).lines = preface ++ (front ++ more) := by
      rw [queued, lines, List.append_assoc]
    refine .greeting accepted ((onward_step cfg l.system e sid).used used) (around.held.speaks speaks e) (threads.trans left)
      goes_on ?_ (stays.mpr alive) attached.step
    intro line inside
    rcases List.mem_append.mp inside with old | new
    · exact aloud line old
    · exact heard line new
  | greeted accepted speaks lines aloud attached => exact .greeted_step around accepted speaks lines aloud attached e
  | refused denied lines => exact .refused_step denied lines e
  | cut used shut quiet =>
    obtain ⟨stays, same⟩ := @shut_step cfg l.system sid e used shut
    refine .cut ((onward_step cfg l.system e sid).used used) stays ?_
    rw [same]
    exact quiet

/-- The end of the writer task, or of the server. -/
theorem Meeting.ended (around : Around cfg outcome token l.system) (meeting : Meeting outcome token name later sid l)
    (ends : e = .writer_end sid ∨ e = .restart) :
    Meeting outcome token name later sid ⟨Concurrent.step cfg l.system e, l.upstream⟩ := by
  have closes (used : (l.system.world.connections sid).phase ≠ .Unused)
      (quiet : ∀ line ∈ (l.system.world.connections sid).lines, line ∈ preface ∨ on_channel line = true) :
      Meeting outcome token name later sid ⟨Concurrent.step cfg l.system e, l.upstream⟩ := by
    obtain ⟨used', shut, same⟩ := @shut_of_ended cfg l.system sid e used ends
    refine .cut used' shut ?_
    rw [same]
    exact quiet
  cases meeting with
  | speaking stage =>
    obtain ⟨lines, nick, pass_token, here, quiet⟩ := stage_visitor stage
    refine closes ?_ ?_
    · rw [here]; simp [visitor]
    · rw [here]; exact fun line inside => .inl (quiet line inside)
  | leaving used _ _ quiet => exact closes used (fun line inside => .inl (quiet line inside))
  | arriving _ used _ _ lines _ =>
    refine closes used ?_
    rw [lines]
    exact fun line inside => .inl inside
  | greeting _ used _ _ lines aloud _ _ =>
    refine closes used ?_
    rw [lines]
    intro line inside
    rcases List.mem_append.mp inside with first | later
    · exact .inl first
    · exact .inr (aloud line later)
  | greeted accepted speaks lines aloud attached => exact .greeted_step around accepted speaks lines aloud attached e
  | refused denied lines => exact .refused_step denied lines e
  | cut used _ quiet => exact closes used quiet

/-- The task of the session runs its next section. -/
theorem Meeting.runs (around : Around cfg outcome token l.system) (meeting : Meeting outcome token name later sid l) (env : Env) :
    Meeting outcome token name later sid ⟨Concurrent.step cfg l.system (.run sid env), l.upstream⟩ := by
  have onward := onward_step cfg l.system (.run sid env) sid
  -- a section of a registration queues nothing to the session, and closes nothing
  have silent {x : Section} {rest : List Section} (head : l.system.threads sid = x :: rest) (sends : x.sends sid = none)
      (lasting : x ≠ .finish) : ((Concurrent.step cfg l.system (.run sid env)).world.connections sid).lines =
        (l.system.world.connections sid).lines ∧ ((Concurrent.step cfg l.system (.run sid env)).world.open sid ↔
          l.system.world.open sid) := by
    rw [step_run head, world_resume]
    refine ⟨?_, open_perform (fun finishes => lasting finishes.1)⟩
    rw [lines_perform, sends]
    exact List.append_nil _
  have threads {x : Section} {rest : List Section} (head : l.system.threads sid = x :: rest) :
      (Concurrent.step cfg l.system (.run sid env)).threads sid = (perform cfg l.system.world env sid x).2 ++ rest := by
    rw [step_run head, threads_resume, if_pos rfl]
  cases meeting with
  | speaking stage =>
    cases head : l.system.threads sid with
    | nil => rw [step_run_idle head]; exact .speaking stage
    | cons x rest => exact .of_stage around stage rfl head head env
  | leaving used unregistered left quiet =>
    rcases left with finishes | ⟨ended, idle⟩
    · have connection : (Concurrent.step cfg l.system (.run sid env)).world.connections sid =
          { l.system.world.connections sid with phase := .Ended, writer := false } := by
        rw [step_run finishes, world_resume, perform, connections_modify, if_pos rfl]
      refine .leaving (onward.used used) ?_ (.inr ⟨?_, ?_⟩) ?_
      · rw [connection]; exact unregistered
      · rw [connection]
      · rw [threads finishes]; rfl
      · rw [connection]; exact quiet
    · rw [step_run_idle idle]
      exact .leaving used unregistered (.inr ⟨ended, idle⟩) quiet
  | arriving accepted used speaks left lines alive =>
    rcases left with marks | ⟨rows, inserts⟩
    · obtain ⟨same, stays⟩ := silent marks rfl (by simp)
      exact .arriving accepted (onward.used used) (around.held.speaks speaks _) (.inr ⟨_, threads marks⟩) (same.trans lines)
        (stays.mpr alive)
    · obtain ⟨same, stays⟩ := silent inserts rfl (by simp)
      exact .greeting accepted (onward.used used) (around.held.speaks speaks _) (threads inserts)
        ((same.trans lines).trans (List.append_nil _).symm) (fun line inside => by cases inside) (stays.mpr alive)
        (attached_insert_client around.reached inserts)
  | @greeting principal rest front accepted used speaks left lines aloud alive attached =>
    have told : ((Concurrent.step cfg l.system (.run sid env)).world.connections sid).lines =
        preface ++ front ++ .Registered principal.nick principal.team :: [] := by
      rw [step_run left, world_resume, perform, lines_send, if_pos ⟨alive, rfl⟩, lines]
    have attached' : Attached (Concurrent.step cfg l.system (.run sid env)) sid := attached.step
    exact .greeted accepted (around.held.speaks speaks _) told aloud attached'
  | greeted accepted speaks lines aloud attached => exact .greeted_step around accepted speaks lines aloud attached _
  | refused denied lines => exact .refused_step denied lines _
  | cut used shut quiet =>
    obtain ⟨stays, same⟩ := @shut_step cfg l.system sid (.run sid env) used shut
    refine .cut (onward.used used) stays ?_
    rw [same]
    exact quiet


theorem waiting_of_idle (idle : s.idle sid = true) : (s.world.connections sid).phase = .Running ∧ s.threads sid = [] := by
  rw [System.idle, Bool.and_eq_true, decide_eq_true_eq, List.isEmpty_iff] at idle
  exact idle

/-- An event that finds the task of the session idle. -/
theorem Meeting.own (around : Around cfg outcome token l.system) (meeting : Meeting outcome token name later sid l)
    (own : e.session = some sid) (notRun : ∀ task env, e ≠ .run task env) (writes : e ≠ .writer_end sid)
    (quiet : e.asks sid = false) : Meeting outcome token name later sid ⟨Concurrent.step cfg l.system e, l.upstream⟩ := by
  have busy (unused : (l.system.world.connections sid).phase ≠ .Unused) (idle : l.system.idle sid = false) :
      Concurrent.step cfg l.system e = l.system := step_busy idle unused own notRun writes
  cases meeting with
  | speaking stage =>
    obtain ⟨lines, nick, pass_token, here, heard⟩ := stage_visitor stage
    have used : (l.system.world.connections sid).phase ≠ .Unused := by rw [here]; simp [visitor]
    cases idle : l.system.idle sid with
    | false => rw [busy used idle]; exact .speaking stage
    | true =>
      have empty : l.system.threads sid = [] := (waiting_of_idle idle).2
      cases e with
      | connect task => cases own; rw [Concurrent.step, if_neg used]; exact .speaking stage
      | receive task command => cases own; simp [Event.asks] at quiet
      | run task env => exact absurd rfl (notRun task env)
      | eof task =>
        cases own
        have nobody : disconnect l.system.world sid = [.finish] := by
          rw [disconnect, World.principal, here]
          rfl
        rw [Concurrent.step, if_pos idle, nobody]
        refine .leaving used ?_ (.inl ?_) ?_
        · rw [world_resume, here]; rfl
        · rw [threads_resume, if_pos rfl]
        · rw [world_resume, here]; exact heard
      | shutdown task =>
        cases own
        rw [Concurrent.step, here]
        exact .speaking stage
      | read_error task =>
        cases own
        have connection : (Server.leave l.system.world sid).connections sid = { visitor lines nick pass_token with phase := .Ended } := by
          rw [Server.leave, connections_modify, if_pos rfl, here]
        rw [Concurrent.step, if_pos idle]
        refine .leaving ?_ ?_ (.inr ⟨?_, empty⟩) ?_
        · rw [connection]; simp
        · rw [connection]; rfl
        · rw [connection]
        · rw [connection]; exact heard
      | writer_end task => cases own; exact absurd rfl writes
      | restart => cases own
  | leaving used unregistered left heard =>
    have idle : l.system.idle sid = false := by
      rcases left with finishes | ⟨ended, _⟩
      · simp [System.idle, finishes]
      · simp [System.idle, running, ended]
    rw [busy used idle]
    exact .leaving used unregistered left heard
  | arriving accepted used speaks left lines alive =>
    have idle : l.system.idle sid = false := by
      rcases left with marks | ⟨rows, inserts⟩
      · simp [System.idle, marks]
      · simp [System.idle, inserts]
    rw [busy used idle]
    exact .arriving accepted used speaks left lines alive
  | greeting accepted used speaks left lines aloud alive attached =>
    have idle : l.system.idle sid = false := by simp [System.idle, left]
    rw [busy used idle]
    exact .greeting accepted used speaks left lines aloud alive attached
  | greeted accepted speaks lines aloud attached => exact .greeted_step around accepted speaks lines aloud attached _
  | refused denied lines => exact .refused_step denied lines _
  | cut used shut heard =>
    obtain ⟨stays, same⟩ := @shut_step cfg l.system sid e used shut
    refine .cut ((onward_step cfg l.system e sid).used used) stays ?_
    rw [same]
    exact heard

/-- The task of the session reads a command of the client. -/
theorem Meeting.arrives {command : Command} {rest : List Command} (around : Around cfg outcome token l.system)
    (meeting : Meeting outcome token name later sid l) (reads : l.upstream = command :: rest) (idle : l.system.idle sid = true) :
    Meeting outcome token name later sid ⟨Concurrent.step cfg l.system (.receive sid command), rest⟩ := by
  obtain ⟨runs, empty⟩ := waiting_of_idle idle
  cases meeting with
  | speaking stage =>
    have next := stage.arrive reads empty rfl
    refine .speaking ?_
    rw [Concurrent.step, if_pos idle, world_resume, threads_resume, if_pos rfl]
    exact next
  | leaving used unregistered left heard =>
    rcases left with finishes | ⟨ended, _⟩
    · rw [empty] at finishes; cases finishes
    · rw [runs] at ended; cases ended
  | arriving accepted used speaks left lines alive =>
    rcases left with marks | ⟨rows, inserts⟩
    · rw [empty] at marks; cases marks
    · rw [empty] at inserts; cases inserts
  | greeting accepted used speaks left lines aloud alive attached => rw [empty] at left; cases left
  | greeted accepted speaks lines aloud attached => exact .greeted_step around accepted speaks lines aloud attached _
  | refused denied lines => exact .refused_step denied lines _
  | cut used shut heard =>
    obtain ⟨stays, same⟩ := @shut_step cfg l.system sid (.receive sid command) used shut
    refine .cut ((onward_step cfg l.system _ sid).used used) stays ?_
    rw [same]
    exact heard

/-! ### Whole runs -/

/-- A session in the middle of its introduction. -/
structure Introducing (cfg : Config) (outcome : Except Text Principal) (token name : Text) (later : List Command)
    (sid : SessionId) (l : Linked) : Prop where
  around : Around cfg outcome token l.system
  meeting : Meeting outcome token name later sid l

theorem Introducing.step (inv : Introducing cfg outcome token name later sid l) (e : Linked.Event) :
    Introducing cfg outcome token name later sid (l.step cfg sid e) := by
  cases e with
  | arrive =>
    rw [Linked.step]
    cases reads : l.upstream with
    | nil => exact inv
    | cons command rest =>
      dsimp only
      split
      · next idle =>
        have around : Around cfg outcome token (Concurrent.step cfg l.system (.receive sid command)) := inv.around.step
        exact ⟨around, inv.meeting.arrives inv.around reads idle⟩
      · exact inv
  | system e =>
    rw [Linked.step]
    split
    · exact inv
    · next silent =>
      have around : Around cfg outcome token (Concurrent.step cfg l.system e) := inv.around.step
      refine ⟨around, ?_⟩
      by_cases ends : e = .writer_end sid ∨ e = .restart
      · exact inv.meeting.ended inv.around ends
      · rw [not_or] at ends
        by_cases own : e.session = some sid
        · rcases stepped cfg l.system e with ⟨task, env, here, rest, rfl, head⟩ | idle | notRun
          · cases own
            exact inv.meeting.runs inv.around env
          · rw [idle]; exact inv.meeting
          · exact inv.meeting.own inv.around own notRun ends.1 (Bool.eq_false_iff.mpr silent)
        · exact inv.meeting.others inv.around own ends.2

theorem Stage.unread {upstream : List Command} {connection : Connection} {sections : List Section}
    (stage : Stage outcome token name later upstream connection sections) : later.length < upstream.length := by
  cases stage with
  | _ =>
    simp only [introduction, List.drop_succ_cons, List.drop_zero, List.length_append, List.length_cons, List.length_nil]
    omega

/-- When the task is idle, its queue open and the introduction read, the session has been welcomed or refused. -/
theorem Meeting.settled (meeting : Meeting outcome token name later sid l) (idle : l.system.idle sid = true)
    (alive : l.system.world.open sid) (read : l.upstream.length ≤ later.length) :
    (∃ principal front more, outcome = .ok principal ∧
      (l.system.world.connections sid).lines = preface ++ front ++ .Registered principal.nick principal.team :: more) ∨
    ∃ error more, outcome = .error error ∧ (l.system.world.connections sid).lines = preface ++ .PasswordIncorrect :: more := by
  obtain ⟨runs, empty⟩ := waiting_of_idle idle
  cases meeting with
  | speaking stage =>
    have unread := stage.unread
    omega
  | leaving used unregistered left heard =>
    rcases left with finishes | ⟨ended, _⟩
    · rw [empty] at finishes; cases finishes
    · rw [runs] at ended; cases ended
  | arriving accepted used speaks left lines alive =>
    rcases left with marks | ⟨rows, inserts⟩
    · rw [empty] at marks; cases marks
    · rw [empty] at inserts; cases inserts
  | greeting accepted used speaks left lines aloud alive attached => rw [empty] at left; cases left
  | greeted accepted speaks lines aloud attached => exact .inl ⟨_, _, _, accepted, lines⟩
  | refused denied lines => exact .inr ⟨_, _, denied, lines⟩
  | cut used shut heard => exact absurd alive shut

theorem Stage.unauthenticated {upstream : List Command} {connection : Connection} {sections : List Section}
    (stage : Stage outcome token name later upstream connection sections) : .mark_connected principal ∉ sections := by
  cases stage with
  | _ => simp

/-- A session that is about to read its memberships has been sent the answers to its first commands. -/
theorem Meeting.authenticated {known : Principal} (meeting : Meeting (.ok known) token name later sid l)
    (registering : l.system.threads sid = [.mark_connected principal]) (alive : l.system.world.open sid) :
    (l.system.world.connections sid).lines = preface := by
  have pending : .mark_connected principal ∈ l.system.threads sid := by rw [registering]; exact List.mem_cons_self
  cases meeting with
  | speaking stage => exact absurd pending stage.unauthenticated
  | leaving used unregistered left heard =>
    rcases left with finishes | ⟨_, idle⟩
    · rw [registering] at finishes; cases finishes
    · rw [registering] at idle; cases idle
  | arriving accepted used speaks left lines alive => exact lines
  | greeting accepted used speaks left lines aloud alive attached => rw [registering] at left; cases left
  | greeted accepted speaks lines aloud attached =>
    have settled := attached.settled _ pending
    cases settled
  | refused denied lines => cases denied
  | cut used shut heard => exact absurd alive shut

/-- A connection that is not in use is as it was. -/
def Fresh (s : System) : Prop := ∀ sid, (s.world.connections sid).phase = .Unused → s.world.connections sid = .unused

theorem Fresh.step (inv : Fresh s) (reached : Reached s) : Fresh (step cfg s e) := by
  intro sid unused
  have before : (s.world.connections sid).phase = .Unused := by
    by_contra used
    exact (onward_step cfg s e sid).used used unused
  have empty : s.threads sid = [] := by
    by_contra busy
    exact reached.used sid busy before
  have apart : ¬ Attached s sid := fun attached => attached.used before
  have waits : s.idle sid = false := by simp [System.idle, running, before]
  by_cases restarts : e = .restart
  · subst restarts
    simp only [Concurrent.step, Server.step, before, if_true]
    exact inv sid before
  by_cases own : e.session = some sid
  · cases e with
    | connect task =>
      cases own
      simp [Concurrent.step, before, accept, connections_send, connections_modify, World.open] at unused
    | receive task command => cases own; rw [Concurrent.step, waits, if_neg (by simp)]; exact inv sid before
    | run task env => cases own; rw [step_run_idle empty]; exact inv sid before
    | eof task => cases own; rw [Concurrent.step, waits, if_neg (by simp)]; exact inv sid before
    | shutdown task =>
      cases own
      rw [Concurrent.step, inv sid before]
      exact inv sid before
    | read_error task => cases own; rw [Concurrent.step, waits, if_neg (by simp)]; exact inv sid before
    | writer_end task =>
      cases own
      simp only [Concurrent.step, connections_modify, if_true]
      rw [inv sid before]
      rfl
    | restart => cases own
  · rw [untouched_step reached apart own restarts]
    exact inv sid before

/-- The server as the client finds it. -/
structure Before (cfg : Config) (outcome : Except Text Principal) (token : Text) (s : System) : Prop where
  around : Around cfg outcome token s
  fresh : Fresh s

theorem before_run (cfg : Config) (db : Db) (token : Text) (events : List Event) :
    Before cfg (authenticate cfg.verify db.principals db.principal_tokens token) token (run (step cfg) (start db) events) := by
  apply run_invariant (fun s e (inv : Before cfg _ token s) => ⟨inv.around.step, inv.fresh.step inv.around.reached⟩) events
  refine ⟨⟨reached_run cfg db [], held_start db, ?_, rfl⟩, fun sid _ => rfl⟩
  intro task x inside
  cases inside

/-- The connection of a client that has written its introduction and more. -/
def meet (cfg : Config) (s : System) (sid : SessionId) (upstream : List Command) : Linked := ⟨step cfg s (.connect sid), upstream⟩

theorem introducing_meet (before : Before cfg outcome token s) (unused : (s.world.connections sid).phase = .Unused)
    (name : Text) (later : List Command) :
    Introducing cfg outcome token name later sid (meet cfg s sid (introduction token name ++ later)) := by
  have empty : s.threads sid = [] := by
    by_contra busy
    exact before.around.reached.used sid busy unused
  have accepted : step cfg s (.connect sid) = ⟨accept s.world sid, s.threads⟩ := by rw [step, if_pos unused]
  have around : Around cfg outcome token (step cfg s (.connect sid)) := before.around.step
  refine ⟨around, .speaking ?_⟩
  have connection : (accept s.world sid).connections sid = visitor [.Welcome] none none := by
    simp [accept, connections_send, connections_modify, World.open, before.fresh sid unused, Connection.unused, visitor]
  show Stage outcome token name later (introduction token name ++ later) ((step cfg s (.connect sid)).world.connections sid)
    ((step cfg s (.connect sid)).threads sid)
  rw [accepted]
  dsimp only
  rw [connection, empty]
  exact .welcomed

/-- Whatever the other sessions do, the introduction takes its course. -/
theorem introducing_run (before : Before cfg outcome token s) (unused : (s.world.connections sid).phase = .Unused)
    (name : Text) (later : List Command) (events : List Linked.Event) :
    Introducing cfg outcome token name later sid
      (run (Linked.step cfg sid) (meet cfg s sid (introduction token name ++ later)) events) :=
  run_invariant (fun _ e inv => inv.step e) events (introducing_meet before unused name later)

end Aircd.Concurrent

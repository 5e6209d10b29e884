import Aircd.Sections

/-!
# What the tasks have left to do

Where the sections of a task come from, and the log behind them: every message
that a task is about to send, and every seq that it is about to mark as seen, is
stored.
-/
namespace Aircd.Concurrent
open Aircd.Runs Aircd.Text Aircd.Protocol Aircd.Auth Aircd.History Aircd.Tasks Aircd.Store Aircd.Server

variable {cfg : Config} {s : System} {w : World} {env : Env} {sid sid' : SessionId} {x here : Section}

/-- The lines of a channel: its messages, its task events, and who comes and goes. -/
def on_channel : ServerLine → Bool
  | .Join _ _ => true
  | .Part _ _ => true
  | .Message _ _ _ => true
  | .TaskEvent _ _ _ _ _ => true
  | _ => false

/-- The 001 line. -/
def greeting : ServerLine → Bool
  | .Registered _ _ => true
  | _ => false

theorem stored_of_off_channel {line : ServerLine} (off : on_channel line = false) : line.stored = none := by
  cases line with
  | Message _ _ _ => cases off
  | TaskEvent _ _ _ _ _ => cases off
  | _ => rfl

/-- The sections with which a task begins, apart from a handler. -/
def Section.fresh : Section → Prop
  | .try_register => True
  | .ensure_registered _ => True
  | .send line => on_channel line = false ∧ greeting line = false
  | .remove_client _ => True
  | .finish => True
  | _ => False

theorem fresh_disconnect (inside : x ∈ disconnect w sid) : x.fresh := by
  unfold disconnect at inside
  split at inside
  · rw [List.mem_singleton.mp inside]; trivial
  · rw [List.mem_singleton.mp inside]; trivial

theorem cap_reply_off {nick subcommand : Text} {capabilities : List Text} {line : ServerLine}
    (reply : cap_reply nick subcommand capabilities = some line) : on_channel line = false ∧ greeting line = false := by
  unfold cap_reply at reply
  dsimp only at reply
  split at reply
  · cases reply; exact ⟨rfl, rfl⟩
  · split at reply
    · cases reply; exact ⟨rfl, rfl⟩
    · split at reply
      · cases reply; exact ⟨rfl, rfl⟩
      · split at reply
        · cases reply
        · cases reply; exact ⟨rfl, rfl⟩

theorem fresh_handle_command {command : Command} (inside : x ∈ (handle_command w sid command).2) : x.fresh := by
  cases command with
  | Cap subcommand capabilities =>
    simp only [handle_command, List.mem_map, Option.mem_toList] at inside
    obtain ⟨line, reply, rfl⟩ := inside
    exact cap_reply_off reply
  | Quit => exact fresh_disconnect inside
  | Pong => cases inside
  | Ping token => rw [List.mem_singleton.mp inside]; exact ⟨rfl, rfl⟩
  | Unknown name => rw [List.mem_singleton.mp inside]; exact ⟨rfl, rfl⟩
  | _ => rw [List.mem_singleton.mp inside]; trivial

/-- The sections with which an event begins a task. -/
def Begins (w : World) (sid : SessionId) (e : Event) (sections : List Section) : Prop :=
  (∃ command, e = .receive sid command ∧ sections = (handle_command w sid command).2) ∨ sections = disconnect w sid ∨
    ∃ reason, sections = .send (.Error reason) :: disconnect w sid

theorem Begins.fresh {e : Event} {sections : List Section} (begins : Begins w sid e sections) (inside : x ∈ sections) :
    x.fresh := by
  rcases begins with ⟨command, _, rfl⟩ | rfl | ⟨reason, rfl⟩
  · exact fresh_handle_command inside
  · exact fresh_disconnect inside
  · rcases List.mem_cons.mp inside with rfl | later
    · exact ⟨rfl, rfl⟩
    · exact fresh_disconnect later

/-- What an event makes of one task. -/
theorem threads_step (cfg : Config) (s : System) (e : Event) (sid : SessionId) :
    (step cfg s e).threads sid = s.threads sid ∨
    (∃ env here rest, e = .run sid env ∧ s.threads sid = here :: rest ∧
      (step cfg s e).threads sid = (perform cfg s.world env sid here).2 ++ rest) ∨
    (s.threads sid = [] ∧ running s.world sid ∧ Begins s.world sid e ((step cfg s e).threads sid)) ∨
    (e = .restart ∧ (step cfg s e).threads sid = []) := by
  have resumed (sid' : SessionId) (next : World × List Section) (idle : s.idle sid' = true)
      (begins : Begins s.world sid' e next.2) : (s.resume sid' next).threads sid = s.threads sid ∨
      (s.threads sid = [] ∧ running s.world sid ∧ Begins s.world sid e ((s.resume sid' next).threads sid)) := by
    simp only [System.idle, Bool.and_eq_true, decide_eq_true_eq, List.isEmpty_iff] at idle
    rw [threads_resume]
    split
    · next here => subst here; exact .inr ⟨idle.2, idle.1, begins⟩
    · exact .inl rfl
  cases e with
  | connect sid' =>
    left
    simp only [step]
    split
    · rfl
    · rfl
  | receive sid' command =>
    simp only [step]
    split
    · next idle =>
      rcases resumed sid' _ idle (.inl ⟨command, rfl, rfl⟩) with same | begins
      · exact .inl same
      · exact .inr (.inr (.inl begins))
    · exact .inl rfl
  | run sid' env =>
    cases head : s.threads sid' with
    | nil => rw [step_run_idle head]; exact .inl rfl
    | cons here rest =>
      rw [step_run head, threads_resume]
      split
      · next same =>
        subst same
        exact .inr (.inl ⟨env, here, rest, rfl, head, rfl⟩)
      · exact .inl rfl
  | eof sid' =>
    simp only [step]
    split
    · next idle =>
      rcases resumed sid' (s.world, disconnect s.world sid') idle (.inr (.inl rfl)) with same | begins
      · exact .inl same
      · exact .inr (.inr (.inl begins))
    · exact .inl rfl
  | shutdown sid' =>
    simp only [step]
    split
    · exact .inl rfl
    · next reason _ _ =>
      split
      · next idle =>
        rcases resumed sid' (s.world, .send (.Error reason) :: disconnect s.world sid') idle
          (.inr (.inr ⟨reason, rfl⟩)) with same | begins
        · exact .inl same
        · exact .inr (.inr (.inl begins))
      · exact .inl rfl
  | read_error sid' =>
    left
    simp only [step]
    split
    · rfl
    · rfl
  | writer_end sid' => exact .inl rfl
  | restart => exact .inr (.inr (.inr ⟨rfl, rfl⟩))

/-- Without a section, only its connection queues a line to a session. -/
theorem lines_step_same (cfg : Config) (s : System) (sid : SessionId) {e : Event} (notRun : ∀ sid env, e ≠ .run sid env)
    (old : e ≠ .connect sid) : ((step cfg s e).world.connections sid).lines = (s.world.connections sid).lines := by
  have changed (sid' : SessionId) (change : Connection → Connection)
      (keeps : ∀ connection, (change connection).lines = connection.lines) :
      ((s.world.modify sid' change).connections sid).lines = (s.world.connections sid).lines := by
    rw [connections_modify]
    split
    · next here => rw [keeps, here]
    · rfl
  cases e with
  | run sid env => exact absurd rfl (notRun sid env)
  | connect sid' =>
    have apart : ¬ sid' = sid := by
      rintro rfl
      exact old rfl
    simp only [step]
    split
    · rw [accept, lines_send,
        changed sid' (fun connection => { connection with phase := .Running, writer := true }) (fun _ => rfl)]
      simp [apart]
    · rfl
  | receive sid' command =>
    simp only [step]
    split
    · cases command with
      | Pass token => exact changed sid' (fun connection => { connection with session := _ }) (fun _ => rfl)
      | Nick nick => exact changed sid' (fun connection => { connection with session := _ }) (fun _ => rfl)
      | _ => rfl
    · rfl
  | eof sid' =>
    simp only [step]
    split
    · rfl
    · rfl
  | shutdown sid' =>
    simp only [step]
    split
    · rfl
    · split
      · rfl
      · rfl
  | read_error sid' =>
    simp only [step]
    split
    · exact changed sid' (fun connection => { connection with phase := .Ended }) (fun _ => rfl)
    · rfl
  | writer_end sid' => exact changed sid' (fun connection => { connection with writer := false }) (fun _ => rfl)
  | restart => exact (@connections_restart cfg _ sid).2

/-- The other events queue nothing but the line that welcomes a connection. -/
theorem lines_step_other (cfg : Config) (s : System) (sid : SessionId) {e : Event} (notRun : ∀ sid env, e ≠ .run sid env) :
    ∃ more, ((step cfg s e).world.connections sid).lines = (s.world.connections sid).lines ++ more ∧
      ∀ line ∈ more, line = .Welcome := by
  by_cases connects : e = .connect sid
  · subst connects
    simp only [step]
    split
    · refine ⟨[.Welcome], ?_, fun line inside => List.mem_singleton.mp inside⟩
      rw [accept, lines_send]
      simp [World.open, connections_modify]
    · exact ⟨[], (List.append_nil _).symm, fun _ inside => by cases inside⟩
  · exact ⟨[], by rw [lines_step_same cfg s sid notRun connects, List.append_nil], fun _ inside => by cases inside⟩

/-- A section that a task has left after an event was left before, was put there
    by the section that ran, or begins the task. -/
theorem mem_threads_step {e : Event} (inside : x ∈ (step cfg s e).threads sid) :
    x ∈ s.threads sid ∨
    (∃ env here rest, e = .run sid env ∧ s.threads sid = here :: rest ∧ x ∈ (perform cfg s.world env sid here).2) ∨
    x.fresh := by
  rcases threads_step cfg s e sid with same | ⟨env, here, rest, rfl, head, next⟩ | ⟨_, _, begins⟩ | ⟨_, empty⟩
  · rw [same] at inside; exact .inl inside
  · rw [next] at inside
    rcases List.mem_append.mp inside with new | old
    · exact .inr (.inl ⟨env, here, rest, rfl, head, new⟩)
    · exact .inl (by rw [head]; exact List.mem_cons_of_mem _ old)
  · exact .inr (.inr (begins.fresh inside))
  · rw [empty] at inside; cases inside

/-! ## The log behind the sections -/

def Section.Logged (log : Messages) : Section → Prop
  | .broadcast_message channel message _ => message ∈ log.rows ∧ message.channel = channel
  | .deliver channel message _ _ => message ∈ log.rows ∧ message.channel = channel
  | .mark_seen _ channel seq => ∃ message ∈ log.rows, message.channel = channel ∧ message.seq = seq
  | .display_name message => message ∈ log.rows
  | .send line => ∀ message, line.stored = some message → message ∈ log.rows
  | .forward _ line => line.stored = none
  | .broadcast_raw _ line => line.stored = none
  | _ => True

theorem Section.Logged.mono {log log' : Messages} (grows : ∀ m ∈ log.rows, m ∈ log'.rows) (logged : x.Logged log) :
    x.Logged log' := by
  cases x with
  | broadcast_message channel message notice => exact ⟨grows _ logged.1, logged.2⟩
  | deliver channel message notice recipient => exact ⟨grows _ logged.1, logged.2⟩
  | mark_seen principal_id channel seq =>
    obtain ⟨message, stored, here⟩ := logged
    exact ⟨message, grows _ stored, here⟩
  | display_name message => exact grows _ logged
  | send line => exact fun message carried => grows _ (logged message carried)
  | forward client line => exact logged
  | broadcast_raw channel line => exact logged
  | _ => trivial

theorem logged_plain {log : Messages} {line : ServerLine} (plain : line.stored = none) : (Section.send line).Logged log := by
  intro message carried
  rw [plain] at carried; cases carried

theorem Section.fresh.logged {log : Messages} (begins : x.fresh) : x.Logged log := by
  cases x with
  | send line => exact logged_plain (stored_of_off_channel begins.1)
  | try_register => trivial
  | ensure_registered command => trivial
  | remove_client principal => trivial
  | finish => trivial
  | _ => exact begins.elim

/-- The log never loses a row. -/
theorem rows_perform {m : StoredMessage} (stored : m ∈ w.db.messages.rows) :
    m ∈ (perform cfg w env sid x).1.db.messages.rows := by
  by_cases appends : ∃ channel sender_id body notice, x = .append channel sender_id body notice
  · obtain ⟨channel, sender_id, body, notice, rfl⟩ := appends
    exact mem_append.mpr (.inl stored)
  · rw [messages_perform (fun channel sender_id body notice same => appends ⟨channel, sender_id, body, notice, same⟩)]
    exact stored

/-! ## Where a section comes from -/

/-- What each kind of section comes from, when the section `here` puts it before the rest of its task. -/
def Section.Leads (w : World) (env : Env) (here : Section) : Section → Prop
  | .send line => (on_channel line = false ∧ greeting line = false) ∨
      (∃ message, here = .display_name message ∧
        line = .Message message (Store.display_name w.db message.sender_id) true) ∨
      ∃ principal rows, here = .insert_client principal rows ∧
        (line = .Registered principal.nick principal.team ∨ ∃ channel, line = .Join principal.nick channel)
  | .mark_connected _ => here = .try_register
  | .insert_client principal rows => here = .mark_connected principal ∧ rows = Store.memberships w.db principal.id
  | .history principal channel after_seq limit =>
      (∃ rows, here = .insert_client principal rows ∧ ⟨channel, after_seq⟩ ∈ rows ∧ limit = 200) ∨
      (∃ asked, here = .ensure_registered (.History (some asked) after_seq limit)) ∨
      here = .memberships principal after_seq limit
  | .memberships _ after_seq limit => here = .ensure_registered (.History none after_seq limit)
  | .display_name message => ∃ principal channel after_seq limit, here = .history principal channel after_seq limit ∧
      message ∈ after w.db.messages channel after_seq limit
  | .mark_seen principal_id channel seq =>
      (∃ message notice recipient, here = .deliver channel message notice recipient ∧ principal_id = recipient.1 ∧
        seq = message.seq ∧ w.open recipient.2.session_id) ∨
      ∃ principal after_seq limit, here = .history principal channel after_seq limit ∧ principal_id = principal.id ∧
        ∃ message ∈ after w.db.messages channel after_seq limit, message.seq = seq
  | .broadcast_raw channel line => ∃ principal, (here = .add_member principal channel ∧ line = .Join principal.nick channel) ∨
      (here = .remove_member principal channel ∧ line = .Part principal.nick channel)
  | .forward client line => ∃ channel p, here = .broadcast_raw channel line ∧ (p, client) ∈ recipients_with_ids w.inner channel
  | .broadcast_message channel message notice => ∃ sender_id body, here = .append channel sender_id body notice ∧
      message = next w.db.messages channel sender_id body ("msg_".toList ++ env.message_uuid) env.created_at
  | .deliver channel message notice recipient => here = .broadcast_message channel message notice ∧
      recipient ∈ recipients_with_ids w.inner channel
  | .add_member principal channel => here = .add_membership principal channel
  | .remove_member principal channel => here = .remove_membership principal channel
  | .try_register => False
  | .ensure_registered _ => False
  | _ => True

theorem leads_handler {principal : Principal} {command : Command} (inside : x ∈ handler principal command) :
    (Section.ensure_registered command).Leads w env x := by
  cases command with
  | TaskCreate channel title =>
    simp only [handler] at inside
    split at inside
    · rw [List.mem_singleton.mp inside]; exact .inl ⟨rfl, rfl⟩
    · rw [List.mem_singleton.mp inside]; trivial
  | History channel after_seq limit =>
    cases channel with
    | none => rw [List.mem_singleton.mp inside]; rfl
    | some channel => rw [List.mem_singleton.mp inside]; exact .inr (.inl ⟨channel, rfl⟩)
  | Join channel => rw [List.mem_singleton.mp inside]; trivial
  | Part channel => rw [List.mem_singleton.mp inside]; trivial
  | Privmsg target body => rw [List.mem_singleton.mp inside]; trivial
  | TaskClaim task_id => rw [List.mem_singleton.mp inside]; trivial
  | TaskDone task_id => rw [List.mem_singleton.mp inside]; trivial
  | TaskRelease task_id => rw [List.mem_singleton.mp inside]; trivial
  | TaskList channel => rw [List.mem_singleton.mp inside]; trivial
  | _ => cases inside

theorem leads_task_result {principal : Principal} {result : TaskTable × Except Text Task}
    {task_id command action what : Text} (inside : x ∈ (task_result w principal result task_id command action what).2) :
    here.Leads w env x := by
  obtain ⟨tasks, outcome⟩ := result
  cases outcome with
  | error reason => rw [List.mem_singleton.mp inside]; exact .inl ⟨rfl, rfl⟩
  | ok task => rw [List.mem_singleton.mp inside]; trivial

/-- Everything that a section can put before the rest of its task. -/
theorem leads_perform (inside : x ∈ (perform cfg w env sid here).2) : here.Leads w env x := by
  cases here with
  | send line => cases inside
  | try_register =>
    rcases perform_try_register cfg w env sid with ⟨more, result, plain⟩ | ⟨_, _, _, result⟩
    · rw [result] at inside
      rw [plain x inside]; exact .inl ⟨rfl, rfl⟩
    · rw [result] at inside
      rw [List.mem_singleton.mp inside]; rfl
  | mark_connected principal => rw [List.mem_singleton.mp inside]; exact ⟨rfl, rfl⟩
  | insert_client principal memberships =>
    simp only [perform, welcome, List.mem_append, List.mem_singleton, List.mem_map] at inside
    rcases inside with (rfl | ⟨membership, _, rfl⟩) | replays
    · exact .inr (.inr ⟨principal, memberships, rfl, .inl rfl⟩)
    · exact .inr (.inr ⟨principal, memberships, rfl, .inr ⟨membership.channel, rfl⟩⟩)
    · split at replays
      · cases replays
      · rcases List.mem_cons.mp replays with rfl | later
        · exact .inl ⟨rfl, rfl⟩
        · obtain ⟨membership, listed, rfl⟩ := List.mem_map.mp later
          exact .inl ⟨memberships, rfl, listed, rfl⟩
  | history principal channel after_seq limit =>
    simp only [perform, List.mem_append, List.mem_map] at inside
    rcases inside with ⟨message, page, rfl⟩ | seen
    · exact ⟨principal, channel, after_seq, limit, rfl, page⟩
    · split at seen
      · next moves =>
        rw [List.mem_singleton.mp seen]
        rcases page_max_attained after_seq
          (after w.db.messages channel after_seq limit) with same | ⟨message, page, same⟩
        · omega
        · exact .inr ⟨principal, after_seq, limit, rfl, rfl, message, page, same⟩
      · cases seen
  | display_name message =>
    rw [List.mem_singleton.mp inside]
    exact .inr (.inl ⟨message, rfl, rfl⟩)
  | mark_seen principal_id channel seq => cases inside
  | ensure_registered command =>
    simp only [perform] at inside
    split at inside
    · split at inside
      · rw [List.mem_singleton.mp inside]; trivial
      · split at inside
        · exact leads_handler inside
        · rcases List.mem_cons.mp inside with rfl | later
          · exact .inl ⟨rfl, rfl⟩
          · rw [List.mem_singleton.mp later]; trivial
    · rw [List.mem_singleton.mp inside]; exact .inl ⟨rfl, rfl⟩
  | memberships principal after_seq limit =>
    obtain ⟨membership, _, rfl⟩ := List.mem_map.mp inside
    exact .inr (.inr rfl)
  | add_membership principal channel => rw [List.mem_singleton.mp inside]; rfl
  | add_member principal channel => rw [List.mem_singleton.mp inside]; exact ⟨principal, .inl ⟨rfl, rfl⟩⟩
  | remove_membership principal channel => rw [List.mem_singleton.mp inside]; rfl
  | remove_member principal channel => rw [List.mem_singleton.mp inside]; exact ⟨principal, .inr ⟨rfl, rfl⟩⟩
  | broadcast_raw channel line =>
    obtain ⟨recipient, listed, rfl⟩ := List.mem_map.mp inside
    exact ⟨channel, recipient.1, rfl, listed⟩
  | forward client line => cases inside
  | is_member principal channel body =>
    simp only [perform] at inside
    split at inside
    · rw [List.mem_singleton.mp inside]; trivial
    · rw [List.mem_singleton.mp inside]; exact .inl ⟨rfl, rfl⟩
  | append channel sender_id body notice =>
    rw [List.mem_singleton.mp inside]
    exact ⟨sender_id, body, rfl, rfl⟩
  | broadcast_message channel message notice =>
    obtain ⟨recipient, listed, rfl⟩ := List.mem_map.mp inside
    exact ⟨rfl, listed⟩
  | deliver channel message notice recipient =>
    rw [perform_deliver] at inside
    dsimp only at inside
    split at inside
    · next alive =>
      rw [List.mem_singleton.mp inside]
      exact .inl ⟨message, notice, recipient, rfl, rfl, rfl, alive⟩
    · cases inside
  | task_create principal channel title =>
    simp only [perform] at inside
    split at inside
    · rw [List.mem_singleton.mp inside]; trivial
    · rw [List.mem_singleton.mp inside]; trivial
  | task_claim principal task_id => exact leads_task_result inside
  | task_done principal task_id => exact leads_task_result inside
  | task_release principal task_id => exact leads_task_result inside
  | task_list principal channel =>
    simp only [perform] at inside
    split at inside
    · rw [List.mem_singleton.mp inside]; exact .inl ⟨rfl, rfl⟩
    · obtain ⟨task, _, rfl⟩ := List.mem_map.mp inside; exact .inl ⟨rfl, rfl⟩
  | remove_client principal =>
    simp only [perform] at inside
    split at inside
    · rcases List.mem_cons.mp inside with rfl | later
      · trivial
      · rw [List.mem_singleton.mp later]; trivial
    · rw [List.mem_singleton.mp inside]; trivial
  | mark_disconnected principal_id => cases inside
  | finish => cases inside
  | leave => cases inside

theorem logged_perform (logged : here.Logged w.db.messages) (inside : x ∈ (perform cfg w env sid here).2) :
    x.Logged (perform cfg w env sid here).1.db.messages := by
  have source := leads_perform inside
  cases x with
  | send line =>
    rcases source with ⟨off, _⟩ | ⟨message, rfl, rfl⟩ | ⟨_, _, rfl, rfl | ⟨_, rfl⟩⟩
    · exact logged_plain (stored_of_off_channel off)
    · intro message' carried
      cases carried
      exact logged
    · exact logged_plain rfl
    · exact logged_plain rfl
  | display_name message =>
    obtain ⟨_, _, _, _, rfl, page⟩ := source
    exact rows_perform (mem_of_mem_after page).1
  | mark_seen principal_id channel seq =>
    rcases source with ⟨message, notice, recipient, rfl, _, rfl, _⟩ | ⟨_, _, _, rfl, _, message, page, rfl⟩
    · exact ⟨message, rows_perform logged.1, logged.2, rfl⟩
    · exact ⟨message, rows_perform (mem_of_mem_after page).1, (mem_of_mem_after page).2.1, rfl⟩
  | broadcast_raw channel line =>
    obtain ⟨_, ⟨_, rfl⟩ | ⟨_, rfl⟩⟩ := source
    · rfl
    · rfl
  | forward client line =>
    obtain ⟨_, _, rfl, _⟩ := source
    exact logged
  | broadcast_message channel message notice =>
    obtain ⟨sender_id, body, rfl, rfl⟩ := source
    exact ⟨mem_append.mpr (.inr rfl), rfl⟩
  | deliver channel message notice recipient =>
    obtain ⟨rfl, _⟩ := source
    exact ⟨rows_perform logged.1, logged.2⟩
  | _ => trivial

/-- The messages in the queues and in the tasks are stored. -/
structure Logged (s : System) : Prop where
  queues : ∀ sid, ∀ m ∈ s.world.enqueued sid, m ∈ s.world.db.messages.rows
  tasks : ∀ sid, ∀ x ∈ s.threads sid, x.Logged s.world.db.messages

/-- What a section queues was in the section. -/
theorem logged_queues {m : StoredMessage} (logged : here.Logged w.db.messages) (queues : here.queues sid = some (sid', m)) :
    m ∈ w.db.messages.rows := by
  cases here with
  | send line =>
    obtain ⟨message, carried, same⟩ := Option.map_eq_some_iff.mp queues
    cases same
    exact logged _ carried
  | forward client line =>
    obtain ⟨message, carried, same⟩ := Option.map_eq_some_iff.mp queues
    have plain : line.stored = none := logged
    rw [plain] at carried; cases carried
  | deliver channel message notice recipient => cases queues; exact logged.1
  | _ => cases queues

theorem rows_step {e : Event} {m : StoredMessage} (stored : m ∈ s.world.db.messages.rows) :
    m ∈ (step cfg s e).world.db.messages.rows := by
  rcases stepped cfg s e with ⟨sid, env, here, rest, rfl, head⟩ | idle | notRun
  · rw [step_run head]; exact rows_perform stored
  · rw [idle]; exact stored
  · by_cases restarts : e = .restart
    · rw [restarts]; exact stored
    · rw [(step_other cfg s notRun restarts).1.messages]; exact stored

theorem Logged.step {e : Event} (inv : Logged s) : Logged (step cfg s e) := by
  refine ⟨?_, ?_⟩
  · intro sid m inside
    rcases stepped cfg s e with ⟨sid', env, here, rest, rfl, head⟩ | idle | notRun
    · rw [step_run head] at inside ⊢
      rw [world_resume, enqueued_perform] at inside
      rcases List.mem_append.mp inside with old | new
      · exact rows_perform (inv.queues sid m old)
      · split at new
        · simp only [Option.mem_toList, Option.map_eq_some_iff, Option.filter_eq_some_iff] at new
          obtain ⟨⟨target, message⟩, ⟨queues, _⟩, rfl⟩ := new
          exact rows_perform (logged_queues (inv.tasks sid' here (by rw [head]; exact List.mem_cons_self)) queues)
        · cases new
    · rw [idle] at inside ⊢; exact inv.queues sid m inside
    · by_cases restarts : e = .restart
      · subst restarts
        rw [Concurrent.step, World.enqueued, (connections_restart sid).2] at inside
        exact inv.queues sid m inside
      · have calm := (step_other cfg s notRun restarts).1
        rw [calm.enqueued] at inside
        rw [calm.messages]
        exact inv.queues sid m inside
  · intro sid x inside
    rcases mem_threads_step inside with old | ⟨env, here, rest, rfl, head, new⟩ | begins
    · exact (inv.tasks sid x old).mono (fun m stored => rows_step stored)
    · rw [step_run head]
      exact logged_perform (inv.tasks sid here (by rw [head]; exact List.mem_cons_self)) new
    · exact begins.logged

theorem logged_run (cfg : Config) (db : Db) (events : List Event) : Logged (run (step cfg) (start db) events) := by
  apply run_invariant (fun _ _ inv => inv.step) events
  exact ⟨by simp [start, Server.start, World.enqueued, Connection.unused], by simp [start]⟩

end Aircd.Concurrent

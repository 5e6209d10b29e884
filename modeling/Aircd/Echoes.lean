import Aircd.Agreement
import Aircd.AtLeastOnce
import Aircd.Copies

/-!
# What the daemon hears of itself

The server sends a message back to its sender as well, signed with the nick that
it has for the principal, and names the principal by this nick in the events of
its tasks. The reader loop of the daemon compares both with the nick that it was
configured with.
-/
namespace Aircd.Client
open Aircd.Text Aircd.Utf8 Aircd.Daemon Aircd.History Aircd.Store
open Aircd.Server (ServerLine format_message_tags format_line metadata task_tags title_tag replay_tag text_message text_task_event)
open Aircd.Concurrent (line_reply)

/-- A nick that is read back from the prefix of a line. -/
def Nickname (nick : Text) : Prop := ' ' ∉ nick ∧ '!' ∉ nick ∧ '\n' ∉ nick
instance (nick : Text) : Decidable (Nickname nick) := inferInstanceAs (Decidable (_ ∧ _ ∧ _))

variable {nick : Text} {msg : Message}

theorem extract_nickname (name : Nickname nick) : extract_nick nick = nick := by
  have unmarked : splitOnce ['!'] nick = none := by
    rw [splitOnce_none_iff (by simp)]
    rintro ⟨before, after, rfl⟩
    exact name.2.1 (by simp)
  rw [extract_nick, unmarked]
  rfl

theorem sender_of_message_of {t : Text} {parsed : IrcLine} (made : message_of t parsed = some msg) :
    msg.sender = extract_nick parsed.source := by
  unfold message_of at made
  split at made
  · split at made
    · cases made; rfl
    · cases made
  · cases made

/-- The sender of a tagged line is the nick in its prefix. -/
theorem sender_of_tagged {tags : List (Text × Text)} (plain : PlainKeys (tags.map Prod.fst)) (name : Nickname nick)
    {words trailing : Text}
    (read : message (first_line (format_message_tags tags ++ [' '] ++ format_line nick words trailing)) = some msg) :
    msg.sender = nick := by
  have source_clean : '\n' ∉ ':' :: nick := by
    rw [List.mem_cons, not_or]
    exact ⟨by decide, name.2.2⟩
  have split : format_line nick words trailing = (':' :: nick) ++ ' ' :: (words ++ [' ', ':'] ++ trailing) := by
    simp [format_line]
  rw [first_line_tagged plain, split, first_line_append source_clean, message_tagged plain, split_source_line name.1,
    Option.bind_some] at read
  rw [sender_of_message_of read, extract_nickname name]

theorem sender_of_chat {stored : StoredMessage} {replay : Bool} (name : Nickname nick)
    (read : received (.Message stored nick replay) = some msg) : msg.sender = nick := by
  have first := message_of_received read
  rw [text_message] at first
  exact sender_of_tagged (plain_metadata stored replay) name first

theorem sender_of_task_event {stored : StoredMessage} {task : Tasks.Task} {action status actor : Text}
    (read : received (.TaskEvent stored task action status actor) = some msg) : msg.sender = SERVER_NAME := by
  have first := message_of_received read
  rw [text_task_event] at first
  exact sender_of_tagged (plain_task stored task.id action status actor task.title) (by decide) first

theorem tags_of_task_event {stored : StoredMessage} {task : Tasks.Task} {action status actor : Text}
    (read : received (.TaskEvent stored task action status actor) = some msg) :
    msg.tag "task-id".toList = task.id ∧ msg.tag "task-action".toList = action ∧ msg.tag "task-status".toList = status ∧
      msg.tag "task-actor".toList = actor := by
  have first := message_of_received read
  rw [text_task_event] at first
  exact reply_of_dict (tags_of_tagged (plain_task stored task.id action status actor task.title) first)

end Aircd.Client

namespace Aircd.Concurrent
open Aircd.Runs Aircd.Text Aircd.Auth Aircd.History Aircd.Tasks Aircd.Store Aircd.Server

variable {cfg : Config} {s : System} {e : Event} {r : Reply}

/-- A line that carries a message of a known principal is a chat line signed with the nick of the principal. -/
theorem line_of_own {db : Db} {own : Principal} {line : ServerLine} {stored : StoredMessage} (listed : own ∈ people db)
    (unreserved : own.id ≠ SERVER_NAME) (signed : LineSigned (people db) line) (carried : line.stored = some stored)
    (sent : stored.sender_id = own.id) : ∃ replay, line = .Message stored own.nick replay := by
  have nick := name_of_known listed unreserved
  cases line with
  | Message message sender replay =>
    cases carried
    refine ⟨replay, ?_⟩
    cases replay with
    | true =>
      have sender' : sender = name_of (people db) stored.sender_id := signed
      rw [sender', sent, nick]
    | false =>
      obtain ⟨principal, known, id, rfl⟩ := signed
      rw [sent] at id
      rw [← name_of_known known (id ▸ unreserved), id, nick]
  | TaskEvent message task action status actor =>
    cases carried
    obtain ⟨server, _⟩ := signed
    exact absurd (sent.symm.trans server) unreserved
  | _ => cases carried

/-! ## The ids of tasks -/

/-- No task, and no event of a success, has an empty id. -/
structure Identified (s : System) : Prop where
  tasks : ∀ row ∈ s.world.db.tasks.rows, row.id ≠ []
  sections : ∀ sid, ∀ x ∈ s.threads sid, ∀ r ∈ x.reply, r.status = "success".toList → r.task_id ≠ []
  lines : ∀ sid, ∀ line ∈ (s.world.connections sid).lines, ∀ r ∈ line_reply line, r.status = "success".toList → r.task_id ≠ []

/-- An operation keeps the ids of the tasks nonempty, its own included when it succeeds. -/
theorem identified_operation {w : World} {env : Env} {here : Section} {principal : Principal} {op : TaskOp}
    (tasks : ∀ row ∈ w.db.tasks.rows, row.id ≠ []) (operates : here.operation env = some (principal, op)) :
    ∀ row ∈ (Tasks.perform cfg.lease_seconds w.db.tasks op).1.rows, row.id ≠ [] := by
  intro row inside
  rcases perform_row inside with ⟨old, listed, same, _⟩ | ⟨now, rfl⟩
  · rw [same]
    exact tasks old listed
  · cases here with
    | task_create speaker channel title =>
      have id := (TaskOp.create.inj (Prod.mk.inj (Option.some.inj operates)).2).1
      rw [← id]
      simp
    | _ => cases operates

theorem identified_answer {w : World} {env : Env} {here : Section} (tasks : ∀ row ∈ w.db.tasks.rows, row.id ≠ [])
    (answers : answered cfg w env here = some r) (success : r.status = "success".toList) : r.task_id ≠ [] := by
  obtain ⟨⟨principal, op⟩, operates, rfl⟩ := Option.map_eq_some_iff.mp answers
  cases result : (Tasks.perform cfg.lease_seconds w.db.tasks op).2 with
  | error error =>
    rw [result] at success
    have failed : "failed".toList = "success".toList := success
    exact absurd failed (by decide)
  | ok task =>
    obtain ⟨row, inside, id, _⟩ := perform_returned result
    show op.id ≠ []
    rw [← id]
    exact identified_operation tasks operates row inside

theorem Identified.step (inv : Identified s) : Identified (step cfg s e) where
  tasks := by
    rcases stepped cfg s e with ⟨sid, env, here, rest, rfl, head⟩ | idle | notRun
    · rw [step_run head, world_resume]
      cases operates : here.operation env with
      | none => rw [tasks_perform operates]; exact inv.tasks
      | some acts => rw [(perform_operation operates).1]; exact identified_operation inv.tasks operates
    · rw [idle]; exact inv.tasks
    · rw [db_step_other cfg s notRun]; exact inv.tasks
  sections := by
    intro sid x inside r carries success
    rcases reply_threads_step inside carries with ⟨y, before, carried, _⟩ | ⟨env, here, rest, rfl, _, answers, _⟩
    · exact inv.sections sid y before r carried success
    · exact identified_answer inv.tasks answers success
  lines := by
    intro sid line inside r carries success
    obtain ⟨more, queued, replies⟩ := reply_lines_step cfg s e sid
    rw [queued] at inside
    rcases List.mem_append.mp inside with old | new
    · exact inv.lines sid line old r carries success
    · obtain ⟨task, x, before, carried, _⟩ := replies line new r carries
      exact inv.sections task x before r carried success

end Aircd.Concurrent

namespace Aircd.Daemon.Loop
open Aircd.Runs Aircd.Text

variable {nick : Text} {s : Loop} {e : Event}

/-- The buffer has accepted no message that is signed with the nick. -/
def Filtered (nick : Text) (buffer : Buffer) : Prop :=
  ∃ ledger : Ledger, ledger.buffer = buffer ∧ Daemon.Inv ledger ∧ ∀ m ∈ ledger.accepted, m.message.sender ≠ nick

theorem Filtered.live {buffer : Buffer} (filtered : Filtered nick buffer) : ∀ m ∈ buffer.live, m.message.sender ≠ nick := by
  obtain ⟨ledger, rfl, inv, others⟩ := filtered
  intro m inside
  exact others m (inv.known m (List.mem_append_left _ (List.mem_append_left _ inside)))

theorem Filtered.event {buffer : Buffer} {e : Daemon.Event} (filtered : Filtered nick buffer)
    (other : ∀ m ∈ newly_accepted buffer e, m.message.sender ≠ nick) : Filtered nick (Daemon.step buffer e) := by
  obtain ⟨ledger, rfl, inv, others⟩ := filtered
  refine ⟨observe ledger e, rfl, inv.observe e, ?_⟩
  intro m inside
  rcases List.mem_append.mp inside with old | new
  · exact others m old
  · exact other m new

theorem Filtered.step (filtered : Filtered nick s.buffer) : Filtered nick (step nick s e).buffer := by
  cases e with
  | message address msg restarted =>
    simp only [Loop.step]
    split
    · split
      · exact filtered
      · next heard =>
        show Filtered nick (Daemon.step s.buffer (.receive address msg restarted))
        refine filtered.event ?_
        intro m new
        simp only [newly_accepted] at new
        split at new
        · cases new
        · rw [List.mem_singleton.mp new]
          intro own
          exact heard (Bool.or_eq_true_iff.mpr (.inr (decide_eq_true own)))
    · exact filtered
  | buffer e =>
    have quiet : (Loop.step nick s (.buffer e)).buffer = s.buffer ∨
        (Loop.step nick s (.buffer e)).buffer = Daemon.step s.buffer e ∧ newly_accepted s.buffer e = [] := by
      cases e with
      | receive address msg restarted => exact .inl rfl
      | _ => exact .inr ⟨rfl, rfl⟩
    rcases quiet with same | ⟨moved, none⟩
    · rw [same]
      exact filtered
    · rw [moved]
      exact filtered.event (fun _ new => by rw [none] at new; cases new)
  | call id request connected =>
    simp only [Loop.step]
    split
    · split
      · exact filtered
      · split
        · exact filtered
        · exact filtered
    · exact filtered
  | drained id succeeds =>
    simp only [Loop.step]
    split
    · split
      · exact filtered
      · exact filtered
    · exact filtered
  | resume id timed_out =>
    simp only [Loop.step]
    split
    · split
      · exact filtered
      · exact filtered
    · exact filtered
  | finalize object =>
    simp only [Loop.step]
    split
    · exact filtered
    · exact filtered

end Aircd.Daemon.Loop

namespace Aircd.Dialogue
open Aircd.Runs Aircd.Text Aircd.Auth Aircd.History Aircd.Store Aircd.Daemon
open Aircd.Server (Config SessionId ServerLine plain)
open Aircd.Concurrent (System line_reply both_in_c people AllSigned LineSigned Identified)
open Aircd.Client (Nickname received)

variable {cfg : Config} {nick : Text} {s : State} {own : Principal}

/-- A session of the daemon is registered as the principal. -/
def Speaks (s : State) (own : Principal) : Prop := ∃ sid ∈ s.dialled, s.server.world.principal sid = some own

/-- No message of the principal, live or replayed, is among those that the daemon has for Claude. -/
def Unheard (s : State) (own : Principal) : Prop :=
  ∀ sid, ∀ line ∈ (s.server.world.connections sid).lines, ∀ stored msg, line.stored = some stored →
    stored.sender_id = own.id → received line = some msg → ∀ m ∈ s.daemon.buffer.live, m.message ≠ msg

/-- The event of a claim or a done of the principal is matched with the call that waits for it. -/
def Recognised (nick : Text) (s : State) (own : Principal) : Prop :=
  ∀ sid, ∀ line ∈ (s.server.world.connections sid).lines, ∀ (action : Action) task_id,
    line_reply line = some ⟨task_id, action.text, "success".toList, own.nick⟩ → ∀ msg, received line = some msg →
      ∀ object, s.daemon.requests.get .task_action (action_key action.text task_id) = some object →
        action_outcome nick s.daemon.requests msg = some (object, .outcome (success_of action) msg.content)

/-- The daemon leaves out what it says itself, and knows what it has done itself. -/
def KnowsItself (nick : Text) (s : State) : Prop := ∀ own, Speaks s own → Unheard s own ∧ Recognised nick s own

/-- The nick that the daemon is configured with is the one that the server gives it. -/
def Named (nick : Text) (s : State) : Prop :=
  Nickname nick ∧ ∀ sid ∈ s.dialled, ∀ own ∈ s.server.world.principal sid, own.nick = nick ∧ own.id ≠ SERVER_NAME

instance (nick : Text) (s : State) : Decidable (Named nick s) := inferInstanceAs (Decidable (_ ∧ ∀ _ ∈ _, ∀ _ ∈ _, _))

/-! ## Invariants of the parties -/

theorem server_step (cfg : Config) (nick : Text) (s : State) (e : Event) :
    (step cfg nick s e).server = s.server ∨ ∃ e', (step cfg nick s e).server = Concurrent.step cfg s.server e' := by
  cases e with
  | server e =>
    cases e with
    | receive sid command =>
      simp only [step]
      split
      · exact .inl rfl
      · exact .inr ⟨.receive sid command, rfl⟩
    | connect sid => exact .inr ⟨.connect sid, rfl⟩
    | run sid env => exact .inr ⟨.run sid env, rfl⟩
    | eof sid => exact .inr ⟨.eof sid, rfl⟩
    | shutdown sid => exact .inr ⟨.shutdown sid, rfl⟩
    | read_error sid => exact .inr ⟨.read_error sid, rfl⟩
    | writer_end sid => exact .inr ⟨.writer_end sid, rfl⟩
    | restart => exact .inr ⟨.restart, rfl⟩
  | dial sid =>
    simp only [step]
    split
    · exact .inr ⟨.connect sid, rfl⟩
    · exact .inl rfl
  | write line => exact .inl (posted_write s line none).server
  | arrive sid =>
    simp only [step]
    split
    · exact .inl rfl
    · next written _ _ =>
      split
      · exact .inr ⟨.receive sid written.command, rfl⟩
      · exact .inl rfl
  | read sent reconnects =>
    left
    simp only [step]
    split
    · rfl
    · split
      · rfl
      · obtain ⟨_, _, same⟩ := read_line_frame s _ sent reconnects
        rw [same]
  | take address restarted =>
    left
    simp only [step]
    split
    · rfl
    · split
      · rfl
      · rfl
  | loop e =>
    left
    cases e with
    | call id request connected => exact (posted_call cfg nick s id request connected).server
    | _ => rfl

/-- What the server keeps by itself it keeps in every dialogue. -/
theorem server_run {P : System → Prop} (keeps : ∀ system e, P system → P (Concurrent.step cfg system e)) {db : Db}
    (opens : P (Concurrent.start db)) (events : List Event) : P (run (step cfg nick) (start db) events).server := by
  refine @run_invariant _ _ (step cfg nick) (fun s => P s.server) ?_ events (start db) opens
  intro s e inv
  rcases server_step cfg nick s e with same | ⟨e', moved⟩
  · rw [same]
    exact inv
  · rw [moved]
    exact keeps s.server e' inv

theorem filtered_run (cfg : Config) (nick : Text) (db : Db) (events : List Event) :
    Loop.Filtered nick (run (step cfg nick) (start db) events).daemon.buffer := by
  refine @run_invariant _ _ (step cfg nick) (fun s => Loop.Filtered nick s.daemon.buffer) ?_ events (start db)
    ⟨opening, rfl, inv_opening, fun _ inside => by cases inside⟩
  intro s e filtered
  rcases daemon_step cfg nick s e with same | ⟨e', moved, _⟩
  · rw [same]
    exact filtered
  · rw [moved]
    exact filtered.step

/-! ## Whole runs -/

theorem unheard (filtered : Loop.Filtered nick s.daemon.buffer) {db : Db} (signed : AllSigned (people db) s.server)
    (speaks : Speaks s own) (named : Named nick s) : Unheard s own := by
  intro sid line queued stored msg carried sent read m inside same
  obtain ⟨session, dialled, known⟩ := speaks
  obtain ⟨name, unreserved⟩ := named.2 session dialled own known
  have listed : own ∈ people db := signed.introduced.sessions session own known
  obtain ⟨replay, rfl⟩ := Concurrent.line_of_own listed unreserved (signed.lines sid line queued) carried sent
  rw [name] at read
  exact filtered.live m inside (same ▸ Client.sender_of_chat named.1 read)

theorem recognised (identified : Identified s.server) (speaks : Speaks s own) (named : Named nick s) :
    Recognised nick s own := by
  intro sid line queued action task_id carries msg read object registered
  obtain ⟨session, dialled, known⟩ := speaks
  obtain ⟨name, _⟩ := named.2 session dialled own known
  have some_id : task_id ≠ [] := identified.lines sid line queued _ carries rfl
  cases line with
  | TaskEvent stored task action' status actor =>
    obtain ⟨rfl, rfl, rfl, rfl⟩ := Concurrent.Reply.mk.inj (Option.some.inj carries)
    obtain ⟨id, act, state, who⟩ := Client.tags_of_task_event read
    have server : from_server msg = true := by rw [from_server, Client.sender_of_task_event read]; rfl
    have words : action.text ≠ [] := by cases action <;> decide
    have full : tagged msg = true := by
      rw [tagged, id, act, state]
      simp [some_id, words]
    have outcome : tag_outcome nick msg = some (action_key action.text task.id, .outcome (success_of action) msg.content) := by
      simp only [tag_outcome, id, act, state, who, name]
      cases action with
      | claim => rfl
      | done => rfl
    rw [action_outcome, if_pos server, if_pos full, outcome]
    dsimp only
    rw [Option.bind_some, registered]
    rfl
  | TaskFailed action' task_id' actor body =>
    obtain ⟨_, _, failed, _⟩ := Concurrent.Reply.mk.inj (Option.some.inj carries)
    exact absurd failed (by decide)
  | _ => cases carries

theorem identified_start {db : Db} (tasks : ∀ row ∈ db.tasks.rows, row.id ≠ []) : Identified (Concurrent.start db) where
  tasks := tasks
  sections := fun _ _ inside => by cases inside
  lines := fun _ _ inside => by cases inside

/-- In every run, a daemon that is configured with the nick of its principal hears
    nothing of what it says itself, and recognises what it does itself. -/
theorem knows_itself (cfg : Config) (nick : Text) (db : Db) (tasks : ∀ row ∈ db.tasks.rows, row.id ≠ []) (events : List Event)
    (named : Named nick (run (step cfg nick) (start db) events)) : KnowsItself nick (run (step cfg nick) (start db) events) := by
  have signed : AllSigned (people db) (run (step cfg nick) (start db) events).server :=
    server_run (fun _ _ inv => inv.step) (Concurrent.signed_run cfg db []) events
  have identified : Identified (run (step cfg nick) (start db) events).server :=
    server_run (fun _ _ inv => inv.step) (identified_start tasks) events
  intro own speaks
  exact ⟨unheard (filtered_run cfg nick db events) signed speaks named, recognised identified speaks named⟩

/-! ### Alice under another nick -/

def alice : Principal := ⟨"alice".toList, "alice".toList, none⟩

/-- The daemon dials with the token of Alice and a nick, says something and claims a
    task, and takes two of the messages that come back. -/
def introduces (nick : Text) : List Event :=
  [.dial 0, .write "PASS a".toList, .write ("NICK ".toList ++ nick), .write "PRIVMSG #c :hello".toList,
    .loop (.call 0 Loop.claiming true), .loop (.drained 0 true)] ++ serves 1 1 0 ++ serves 2 10 0 ++ serves 3 10 0 ++
    serves 4 10 200 ++ reads 6 ++ takes 0 ++ takes 1

def introduced (nick : Text) : State := run (step plain nick) (start held_by_bob) (introduces nick)

theorem knows_itself_alice : KnowsItself "alice".toList (introduced "alice".toList) := by
  unfold introduced
  exact knows_itself plain "alice".toList held_by_bob (by decide) (introduces "alice".toList) (by decide +kernel)

/-- The server gives the daemon the nick of Alice. What it says is put in its own
    inbox, and its claim is not matched with the call that waits for it. -/
theorem hears_itself :
    Speaks (introduced "alice-bot".toList) alice ∧ ¬ Unheard (introduced "alice-bot".toList) alice ∧
      ¬ Recognised "alice-bot".toList (introduced "alice-bot".toList) alice := by
  have speaks : ∃ sid ∈ (introduced "alice-bot".toList).dialled,
      (introduced "alice-bot".toList).server.world.principal sid = some alice := by decide +kernel
  have heard : ∃ line ∈ ((introduced "alice-bot".toList).server.world.connections 0).lines,
      line.stored.map (·.sender_id) = some alice.id ∧
        ∃ m ∈ (introduced "alice-bot".toList).daemon.buffer.live, received line = some m.message := by decide +kernel
  have missed : ∃ line ∈ ((introduced "alice-bot".toList).server.world.connections 0).lines,
      line_reply line = some ⟨"t1".toList, Action.claim.text, "success".toList, alice.nick⟩ ∧
        ∃ msg ∈ received line, action_outcome "alice-bot".toList (introduced "alice-bot".toList).daemon.requests msg = none := by
    decide +kernel
  have waits : (introduced "alice-bot".toList).daemon.requests.get .task_action (action_key Action.claim.text "t1".toList) =
      some 0 := by decide +kernel
  refine ⟨speaks, ?_, ?_⟩
  · intro unheard
    obtain ⟨line, queued, sent, m, inside, read⟩ := heard
    obtain ⟨stored, carried, sender⟩ := Option.map_eq_some_iff.mp sent
    exact unheard 0 line queued stored m.message carried sender read m inside rfl
  · intro recognised
    obtain ⟨line, queued, carries, msg, read, none⟩ := missed
    have outcome := recognised 0 line queued .claim "t1".toList carries msg read 0 waits
    rw [none] at outcome
    cases outcome

end Aircd.Dialogue

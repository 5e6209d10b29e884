import Aircd.Server

/-!
# The lines of the server

The texts that `server.rs` formats. Only the values of tags are escaped.
-/
namespace Aircd.Server
open Aircd.Text Aircd.History Aircd.Tasks Aircd.Store

def escape_char (character : Char) : Text :=
  if character = ';' then ['\\', ':']
  else if character = ' ' then ['\\', 's']
  else if character = '\\' then ['\\', '\\']
  else if character = '\r' then ['\\', 'r']
  else if character = '\n' then ['\\', 'n']
  else [character]

def escape_tag_value (value : Text) : Text := value.flatMap escape_char

def format_tag (tag : Text × Text) : Text := tag.1 ++ ['='] ++ escape_tag_value tag.2

def format_message_tags (tags : List (Text × Text)) : Text := '@' :: Text.join [';'] (tags.map format_tag)

def metadata (message : StoredMessage) : List (Text × Text) :=
  [("seq".toList, decimal message.seq), ("msg-id".toList, message.msg_id), ("time".toList, decimal message.created_at)]

def replay_tag (replay : Bool) : List (Text × Text) := if replay then [("replay".toList, "1".toList)] else []

def task_tags (task_id action status actor : Text) : List (Text × Text) :=
  [("task-id".toList, task_id), ("task-action".toList, action), ("task-status".toList, status), ("task-actor".toList, actor)]

def title_tag (title : Text) : List (Text × Text) := if title.isEmpty then [] else [("task-title".toList, title)]

/-- `metadata_tags`, `task_failure_tags`, and the tags that `broadcast_task_event` builds. -/
def ServerLine.tags : ServerLine → List (Text × Text)
  | .Message message _ replay => metadata message ++ replay_tag replay
  | .TaskEvent message task action status actor => metadata message ++ task_tags task.id action status actor ++ title_tag task.title
  | .TaskFailed action task_id actor _ => task_tags task_id action "failed".toList actor
  | _ => []

def status_text : TaskStatus → Text
  | .Open => "open".toList
  | .Claimed => "claimed".toList
  | .Done => "done".toList

/-- A line that a name sends, with its words and its trailing parameter. -/
def format_line (sender words trailing : Text) : Text := [':'] ++ sender ++ [' '] ++ words ++ [' ', ':'] ++ trailing

/-- A line without its tags. -/
def ServerLine.rest : ServerLine → Text
  | .Welcome => format_line SERVER_NAME "NOTICE *".toList "Welcome to aircd prototype".toList
  | .Error reason => format_line SERVER_NAME "ERROR".toList reason
  | .Pong token => format_line SERVER_NAME ("PONG ".toList ++ SERVER_NAME) token
  | .UnknownCommand name => format_line SERVER_NAME ("421 * ".toList ++ name) "Unknown command".toList
  | .Cap nick status capabilities => format_line SERVER_NAME ("CAP ".toList ++ nick ++ [' '] ++ status) capabilities
  | .InvalidCap nick subcommand =>
    format_line SERVER_NAME ("410 ".toList ++ nick ++ [' '] ++ subcommand) "Invalid CAP command".toList
  | .PasswordIncorrect => format_line SERVER_NAME "464 *".toList "Password incorrect".toList
  | .NotRegistered => format_line SERVER_NAME "451 *".toList "You have not registered".toList
  | .Registered nick team =>
    format_line SERVER_NAME ("001 ".toList ++ nick) ("Welcome to aircd, ".toList ++ nick ++
      (team.map (fun team => " (".toList ++ team ++ [')'])).getD [])
  | .Replaying nick channels =>
    format_line SERVER_NAME ("NOTICE ".toList ++ nick) ("Replaying missed messages for ".toList ++ decimal channels ++ " channel(s)".toList)
  | .Join nick channel => [':'] ++ nick ++ " JOIN ".toList ++ channel
  | .Part nick channel => [':'] ++ nick ++ " PART ".toList ++ channel
  | .NotOnChannel nick channel =>
    format_line SERVER_NAME ("442 ".toList ++ nick ++ [' '] ++ channel) "You're not on that channel".toList
  | .Message message sender _ => format_line sender ("PRIVMSG ".toList ++ message.channel) message.body
  | .TaskEvent message task _ _ _ => format_line SERVER_NAME ("NOTICE ".toList ++ task.channel) message.body
  | .TaskFailed _ _ actor body => format_line SERVER_NAME ("NOTICE ".toList ++ actor) body
  | .TitleRequired nick => format_line SERVER_NAME ("NOTICE ".toList ++ nick) "TASK CREATE failed: title is required".toList
  | .TaskRow nick task =>
    format_line SERVER_NAME ("NOTICE ".toList ++ nick) ("TASK ".toList ++ task.id ++ " channel=".toList ++ task.channel ++
      " status=".toList ++ status_text task.status ++ " claimed_by=".toList ++ task.claimed_by.getD ['-'] ++
      " lease_expires_at=".toList ++ (task.lease_expires_at.map decimal).getD ['-'] ++ " title=:".toList ++ task.title)
  | .NoTasks nick channel => format_line SERVER_NAME ("NOTICE ".toList ++ nick) ("No open tasks in ".toList ++ channel)

def ServerLine.text (line : ServerLine) : Text :=
  if line.tags.isEmpty then line.rest else format_message_tags line.tags ++ [' '] ++ line.rest

example : escape_tag_value "hello world;ok\\done\r\n".toList = "hello\\sworld\\:ok\\\\done\\r\\n".toList := by decide

theorem text_message (message : StoredMessage) (sender : Text) (replay : Bool) :
    (ServerLine.Message message sender replay).text = format_message_tags (metadata message ++ replay_tag replay) ++ [' '] ++
      format_line sender ("PRIVMSG ".toList ++ message.channel) message.body := by
  simp [ServerLine.text, ServerLine.tags, ServerLine.rest, metadata]

theorem text_task_event (message : StoredMessage) (task : Task) (action status actor : Text) :
    (ServerLine.TaskEvent message task action status actor).text =
      format_message_tags (metadata message ++ task_tags task.id action status actor ++ title_tag task.title) ++ [' '] ++
        format_line SERVER_NAME ("NOTICE ".toList ++ task.channel) message.body := by
  simp [ServerLine.text, ServerLine.tags, ServerLine.rest, metadata]

theorem text_task_failed (action task_id actor body : Text) : (ServerLine.TaskFailed action task_id actor body).text =
    format_message_tags ([] ++ task_tags task_id action "failed".toList actor ++ []) ++ [' '] ++
      format_line SERVER_NAME ("NOTICE ".toList ++ actor) body := by
  rw [List.append_nil]
  rfl

theorem rest_starts (line : ServerLine) : ∃ more, line.rest = ':' :: more := by
  cases line with
  | _ => exact ⟨_, rfl⟩

/-! ## Escaped values -/

theorem mem_escape_char {c character : Char} (inside : c ∈ escape_char character) :
    c ≠ ';' ∧ c ≠ ' ' ∧ c ≠ '\r' ∧ c ≠ '\n' := by
  unfold escape_char at inside
  split at inside
  · rcases List.mem_pair.mp inside with rfl | rfl <;> decide
  split at inside
  · rcases List.mem_pair.mp inside with rfl | rfl <;> decide
  split at inside
  · rcases List.mem_pair.mp inside with rfl | rfl <;> decide
  split at inside
  · rcases List.mem_pair.mp inside with rfl | rfl <;> decide
  split at inside
  · rcases List.mem_pair.mp inside with rfl | rfl <;> decide
  · next semicolon space _ cr lf =>
    rw [List.mem_singleton.mp inside]
    exact ⟨semicolon, space, cr, lf⟩

theorem mem_escape_tag_value {c : Char} {value : Text} (inside : c ∈ escape_tag_value value) :
    c ≠ ';' ∧ c ≠ ' ' ∧ c ≠ '\r' ∧ c ≠ '\n' := by
  obtain ⟨character, _, here⟩ := List.mem_flatMap.mp inside
  exact mem_escape_char here

end Aircd.Server

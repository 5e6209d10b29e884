import Aircd.Framing
import Aircd.Parsing
import Aircd.TaskEvents
import Aircd.Wire

/-!
# Line breaks

The writer of a connection ends each line with CR LF. A line of the server has no
other CR or LF as long as the texts outside its tags have none: the values of the
tags are escaped. The words of a command have none, and a trailing parameter has
no LF but may have a CR.
-/
namespace Aircd.Text

/-- No character of the text ends a line. -/
def Unbroken (t : Text) : Prop := '\r' ∉ t ∧ '\n' ∉ t

instance (t : Text) : Decidable (Unbroken t) := inferInstanceAs (Decidable (_ ∧ _))

variable {t t' : Text}

theorem Unbroken.subset (clean : Unbroken t) (within : t' ⊆ t) : Unbroken t' :=
  ⟨fun inside => clean.1 (within inside), fun inside => clean.2 (within inside)⟩

@[simp] theorem unbroken_append : Unbroken (t ++ t') ↔ Unbroken t ∧ Unbroken t' := by
  simp only [Unbroken, List.mem_append]
  tauto

theorem unbroken_of_unspaced (unspaced : ∀ c ∈ t, rustSpace c = false) : Unbroken t := by
  constructor
  · intro inside
    exact absurd (unspaced '\r' inside) (by decide)
  · intro inside
    exact absurd (unspaced '\n' inside) (by decide)

theorem unbroken_join {separator : Text} {parts : List Text} (between : Unbroken separator)
    (clean : ∀ part ∈ parts, Unbroken part) : Unbroken (join separator parts) := by
  constructor
  · intro inside
    rcases mem_join inside with here | ⟨part, listed, here⟩
    · exact between.1 here
    · exact (clean part listed).1 here
  · intro inside
    rcases mem_join inside with here | ⟨part, listed, here⟩
    · exact between.2 here
    · exact (clean part listed).2 here

theorem unbroken_decimal (n : Int) : Unbroken (decimal n) := by
  constructor
  · intro inside
    exact (printable_of_mem_decimal inside).2.2.2.1 rfl
  · intro inside
    exact (printable_of_mem_decimal inside).2.2.2.2 rfl

/-- Upper case makes letters of letters. -/
theorem asciiUpper_eq {c other : Char} (upper : asciiUpper c = other) (control : other.toNat < 32) : c = other := by
  unfold asciiUpper at upper
  split at upper
  · next range =>
    exfalso
    have least : 97 ≤ c.toNat := range.1
    have most : c.toNat ≤ 122 := range.2
    have letter : ∀ n < 123, 97 ≤ n → 32 ≤ (Char.ofNat (n - 32)).toNat := by decide
    have printable := letter c.toNat (by omega) least
    rw [upper] at printable
    omega
  · exact upper

theorem unbroken_toAsciiUppercase (clean : Unbroken t) : Unbroken (toAsciiUppercase t) := by
  constructor
  · intro inside
    obtain ⟨c, here, upper⟩ := List.mem_map.mp inside
    exact clean.1 (asciiUpper_eq upper (by decide) ▸ here)
  · intro inside
    obtain ⟨c, here, upper⟩ := List.mem_map.mp inside
    exact clean.2 (asciiUpper_eq upper (by decide) ▸ here)

theorem trim_subset (t : Text) : trim t ⊆ t := by
  intro c inside
  have kept : c ∈ t.dropWhile rustSpace := (List.rdropWhile_prefix rustSpace _).subset inside
  exact (List.dropWhile_suffix rustSpace).subset kept

end Aircd.Text

namespace Aircd.Protocol
open Aircd.Text

variable {line : Text}

theorem unbroken_word {word : Text} (listed : Word line word) : Unbroken word :=
  unbroken_of_unspaced (fun _ inside => unspaced_of_word listed inside)

theorem linefeed_of_rest {rest : Text} (made : Rest line rest) (clean : '\n' ∉ line) : '\n' ∉ rest := by
  intro inside
  exact clean (trim_subset line (break_of_rest made inside (by decide) (by decide)))

/-- What the texts of a command that end up in a line have in common when the
    command is read from a line: words have no line break, and the trailing
    parameter no line feed. -/
def Command.Framed : Command → Prop
  | .Nick nick => Unbroken nick
  | .Join channel => Unbroken channel
  | .Part channel => Unbroken channel
  | .Privmsg target body => Unbroken target ∧ '\n' ∉ body
  | .Ping token => '\n' ∉ token
  | .Cap subcommand capabilities => Unbroken subcommand ∧ ∀ capability ∈ capabilities, Unbroken capability
  | .TaskCreate channel title => Unbroken channel ∧ '\n' ∉ title
  | .TaskClaim task_id => Unbroken task_id
  | .TaskDone task_id => Unbroken task_id
  | .TaskRelease task_id => Unbroken task_id
  | .TaskList channel => Unbroken channel
  | .Unknown name => Unbroken name
  | _ => True

theorem framed_of_parsed {command : Command} (parsed : Parsed line command) (clean : '\n' ∉ line) : command.Framed := by
  cases command with
  | Nick nick => exact unbroken_word parsed
  | Join channel => exact unbroken_word parsed
  | Part channel => exact unbroken_word parsed
  | Privmsg target body => exact ⟨unbroken_word parsed.1, linefeed_of_rest parsed.2 clean⟩
  | Ping token => exact linefeed_of_rest parsed clean
  | Cap subcommand capabilities =>
    obtain ⟨⟨word, listed, rfl⟩, rest, rfl⟩ := parsed
    refine ⟨unbroken_toAsciiUppercase (unbroken_word listed), ?_⟩
    intro capability inside
    exact unbroken_of_unspaced (fun c here => ((mem_words inside).2 c here).1)
  | TaskCreate channel title => exact ⟨unbroken_word parsed.1, linefeed_of_rest parsed.2 clean⟩
  | TaskClaim task_id => exact unbroken_word parsed
  | TaskDone task_id => exact unbroken_word parsed
  | TaskRelease task_id => exact unbroken_word parsed
  | TaskList channel => exact unbroken_word parsed
  | Unknown name =>
    rcases parsed with ⟨word, listed, rfl⟩ | rfl | ⟨word, listed, rfl⟩
    · exact unbroken_toAsciiUppercase (unbroken_word listed)
    · show Unbroken "TASK".toList
      decide
    · exact unbroken_append.mpr ⟨by decide, unbroken_toAsciiUppercase (unbroken_word listed)⟩
  | _ => trivial

end Aircd.Protocol

namespace Aircd.Server
open Aircd.Text Aircd.Utf8 Aircd.Protocol Aircd.History Aircd.Tasks Aircd.Store

/-- Every command that is read from a stream is framed by its line feeds. -/
theorem framed_of_mem_commands {t : Text} {command : Command} (inside : some command ∈ commands (encode t)) :
    command.Framed := by
  rw [commands, lines_encode, List.map_map] at inside
  obtain ⟨line, listed, read⟩ := List.mem_map.mp inside
  rw [← Option.some.inj read]
  exact framed_of_parsed (parsed_command line) (Lines.not_mem_of_mem_frames listed)

theorem unbroken_normalize_channel {channel : Text} (clean : Unbroken channel) : Unbroken (normalize_channel channel) := by
  have trimmed := clean.subset (trim_subset channel)
  unfold normalize_channel
  dsimp only
  split
  · exact trimmed
  split
  · decide
  · exact unbroken_append.mpr ⟨show Unbroken ['#'] by decide, trimmed⟩

/-! ## Lines -/

theorem unbroken_escape_tag_value (value : Text) : Unbroken (escape_tag_value value) :=
  ⟨fun inside => (mem_escape_tag_value inside).2.2.1 rfl, fun inside => (mem_escape_tag_value inside).2.2.2 rfl⟩

theorem unbroken_tag_keys (line : ServerLine) : ∀ tag ∈ line.tags, Unbroken tag.1 := by
  have replays (replay : Bool) : ∀ tag ∈ replay_tag replay, Unbroken tag.1 := by
    cases replay with
    | false => simp [replay_tag]
    | true => simp only [replay_tag, if_true, List.forall_mem_singleton]; decide
  have titles (title : Text) : ∀ tag ∈ title_tag title, Unbroken tag.1 := by
    unfold title_tag
    split
    · simp
    · simp only [List.forall_mem_singleton]; decide
  have keys (tags : List (Text × Text)) (clean : ∀ key ∈ tags.map Prod.fst, Unbroken key) : ∀ tag ∈ tags, Unbroken tag.1 :=
    fun tag inside => clean tag.1 (List.mem_map_of_mem inside)
  have stamped (message : StoredMessage) : ∀ tag ∈ metadata message, Unbroken tag.1 := by
    apply keys
    show ∀ key ∈ ["seq".toList, "msg-id".toList, "time".toList], Unbroken key
    decide
  have tasked (task_id action status actor : Text) : ∀ tag ∈ task_tags task_id action status actor, Unbroken tag.1 := by
    apply keys
    show ∀ key ∈ ["task-id".toList, "task-action".toList, "task-status".toList, "task-actor".toList], Unbroken key
    decide
  cases line with
  | Message message sender replay => exact List.forall_mem_append.mpr ⟨stamped message, replays replay⟩
  | TaskEvent message task action status actor =>
    exact List.forall_mem_append.mpr ⟨List.forall_mem_append.mpr ⟨stamped message, tasked _ _ _ _⟩, titles task.title⟩
  | TaskFailed action task_id actor body => exact tasked _ _ _ _
  | _ => simp [ServerLine.tags]

/-- The tags of a line never break it. -/
theorem unbroken_text {line : ServerLine} (clean : Unbroken line.rest) : Unbroken line.text := by
  unfold ServerLine.text
  split
  · exact clean
  · refine unbroken_append.mpr ⟨unbroken_append.mpr ⟨?_, by decide⟩, clean⟩
    have formatted : Unbroken (Text.join [';'] (line.tags.map format_tag)) := by
      apply unbroken_join (by decide)
      intro part inside
      obtain ⟨tag, listed, rfl⟩ := List.mem_map.mp inside
      exact unbroken_append.mpr ⟨unbroken_append.mpr ⟨unbroken_tag_keys line tag listed, by decide⟩,
        unbroken_escape_tag_value tag.2⟩
    exact unbroken_append.mpr ⟨show Unbroken ['@'] by decide, formatted⟩

theorem unbroken_format_line {sender words trailing : Text} :
    Unbroken (format_line sender words trailing) ↔ Unbroken sender ∧ Unbroken words ∧ Unbroken trailing := by
  have literal : Unbroken [':'] ∧ Unbroken [' '] ∧ Unbroken [' ', ':'] := by decide
  simp only [format_line, unbroken_append]
  tauto

theorem unbroken_notice {target trailing : Text} (named : Unbroken target) (clean : Unbroken trailing) :
    Unbroken (format_line SERVER_NAME ("NOTICE ".toList ++ target) trailing) :=
  unbroken_format_line.mpr ⟨by decide, unbroken_append.mpr ⟨by decide, named⟩, clean⟩

end Aircd.Server

namespace Aircd.Concurrent
open Aircd.Runs Aircd.Text Aircd.Utf8 Aircd.Protocol Aircd.Auth Aircd.History Aircd.Tasks Aircd.Store Aircd.Server

/-- The nick and the team of a principal fit in a line. -/
def Presentable (principal : Principal) : Prop := Unbroken principal.nick ∧ ∀ team ∈ principal.team, Unbroken team

/-- The texts of a database that lines are made of, with the names of the senders. -/
structure Stored (names : Text → Text) (db : Db) : Prop where
  messages : ∀ message ∈ db.messages.rows,
    Unbroken message.channel ∧ Unbroken message.body ∧ Unbroken (names message.sender_id)
  memberships : ∀ row ∈ db.channel_memberships.rows, Unbroken row.channel
  tasks : ∀ row ∈ db.tasks.rows, Unbroken row.id ∧ Unbroken row.channel ∧ Unbroken row.title

/-! ## Sections -/

/-- A PRIVMSG may still have a CR in its body, the event of a task has no line break. -/
def Notice.Framed (body : Text) : Notice → Prop
  | .Privmsg nick => Unbroken nick ∧ '\n' ∉ body
  | .Task task _ _ _ => Unbroken task.channel ∧ Unbroken body

/-- The lines of a section have no line break, and what it takes from a command is framed. -/
def Section.Framed (names : Text → Text) : Section → Prop
  | .send line => Unbroken line.rest
  | .forward _ line => Unbroken line.rest
  | .broadcast_raw _ line => Unbroken line.rest
  | .insert_client _ rows => ∀ row ∈ rows, Unbroken row.channel
  | .display_name message => Unbroken message.channel ∧ Unbroken message.body ∧ Unbroken (names message.sender_id)
  | .ensure_registered command => command.Framed
  | .add_membership _ channel => Unbroken channel
  | .add_member _ channel => Unbroken channel
  | .remove_membership _ channel => Unbroken channel
  | .remove_member _ channel => Unbroken channel
  | .is_member _ channel body => Unbroken channel ∧ '\n' ∉ body
  | .append channel sender_id body notice => Unbroken channel ∧ Unbroken (names sender_id) ∧ notice.Framed body
  | .broadcast_message _ message notice => Unbroken (notice.line message).rest
  | .deliver _ message notice _ => Unbroken (notice.line message).rest
  | .task_create _ channel title => Unbroken channel ∧ '\n' ∉ title
  | .task_claim _ task_id => Unbroken task_id
  | .task_done _ task_id => Unbroken task_id
  | .task_release _ task_id => Unbroken task_id
  | .task_list _ channel => Unbroken channel
  | _ => True

/-- The trailing parameter that a section stores for the lines to come. -/
def Section.trailing : Section → Option Text
  | .append _ _ body (.Privmsg _) => some body
  | .task_create _ _ title => some title
  | _ => none

/-- The ids of the holders that a section lists. -/
def Section.holders (w : World) : Section → List Text
  | .task_list _ channel => (list w.db.tasks channel).filterMap (·.claimed_by)
  | _ => []

/-- Nothing that a section takes over as it is breaks a line. -/
def Section.Whole (w : World) (x : Section) : Prop :=
  (∀ text ∈ x.trailing, '\r' ∉ text) ∧ ∀ holder ∈ x.holders w, Unbroken holder

instance (w : World) (x : Section) : Decidable (x.Whole w) := inferInstanceAs (Decidable (_ ∧ _))

variable {cfg : Config} {s : System} {w : World} {env : Env} {sid sid' : SessionId} {x here : Section}
  {names : Text → Text} {principal : Principal}

theorem unbroken_display_name {db : Db} (presentable : ∀ principal ∈ people db, Presentable principal)
    (listed : principal ∈ people db) : Unbroken (Store.display_name db principal.id) := by
  unfold Store.display_name
  split
  · decide
  · obtain ⟨row, inside, rfl⟩ := List.mem_map.mp listed
    have found : (db.principals.find row.id).isSome := Table.find_isSome_iff.mpr ⟨row, inside, rfl⟩
    obtain ⟨other, same⟩ := Option.isSome_iff_exists.mp found
    rw [same]
    exact (presentable other.toPrincipal (List.mem_map_of_mem (Table.find_iff.mp same).1)).1

theorem framed_handler {command : Command} (framed : command.Framed) (presentable : Presentable principal)
    (inside : x ∈ handler principal command) : x.Framed names := by
  have untrimmed {title : Text} (clean : '\n' ∉ title) : '\n' ∉ trim title := fun here => clean (trim_subset title here)
  cases command with
  | TaskCreate channel title =>
    simp only [handler] at inside
    split at inside
    · rw [List.mem_singleton.mp inside]
      exact unbroken_notice presentable.1 (by decide)
    · rw [List.mem_singleton.mp inside]
      exact ⟨unbroken_normalize_channel framed.1, untrimmed framed.2⟩
  | History channel after_seq limit =>
    cases channel with
    | none => rw [List.mem_singleton.mp inside]; trivial
    | some channel => rw [List.mem_singleton.mp inside]; trivial
  | Join channel => rw [List.mem_singleton.mp inside]; exact unbroken_normalize_channel framed
  | Part channel => rw [List.mem_singleton.mp inside]; exact unbroken_normalize_channel framed
  | Privmsg target body => rw [List.mem_singleton.mp inside]; exact ⟨unbroken_normalize_channel framed.1, framed.2⟩
  | TaskClaim task_id => rw [List.mem_singleton.mp inside]; exact framed
  | TaskDone task_id => rw [List.mem_singleton.mp inside]; exact framed
  | TaskRelease task_id => rw [List.mem_singleton.mp inside]; exact framed
  | TaskList channel => rw [List.mem_singleton.mp inside]; exact unbroken_normalize_channel framed
  | _ => cases inside

theorem Notice.Framed.unbroken {notice : Notice} {channel sender_id body : Text} (framed : notice.Framed body)
    (whole : Section.Whole w (.append channel sender_id body notice)) : Unbroken body := by
  cases notice with
  | Privmsg nick => exact ⟨whole.1 body rfl, framed.2⟩
  | Task task action status actor => exact framed.2

theorem Notice.Framed.line {notice : Notice} {message : StoredMessage} {body : Text} (framed : notice.Framed body)
    (channel : Unbroken message.channel) (clean : Unbroken message.body) : Unbroken (notice.line message).rest := by
  cases notice with
  | Privmsg nick => exact unbroken_format_line.mpr ⟨framed.1, unbroken_append.mpr ⟨by decide, channel⟩, clean⟩
  | Task task action status actor => exact unbroken_notice framed.1 clean

/-- The event of an operation on a task that is stored. -/
theorem framed_announcement {op : TaskOp} {task : Task} (presentable : Presentable principal)
    (server : names SERVER_NAME = SERVER_NAME) (stored : Unbroken task.id ∧ Unbroken task.channel ∧ Unbroken task.title) :
    (announcement principal op task).Framed names := by
  have literals : Unbroken "TASK ".toList ∧ Unbroken ": ".toList ∧ Unbroken SERVER_NAME := by decide
  have words : ∀ kind, Unbroken (what_of kind) := by
    intro kind
    cases kind with
    | create => decide
    | claim => decide
    | done => decide
    | release => decide
  have task_clean : Unbroken ("TASK ".toList ++ task.id) := unbroken_append.mpr ⟨literals.1, stored.1⟩
  have operated : Unbroken ("TASK ".toList ++ task.id ++ what_of op.kind) := unbroken_append.mpr ⟨task_clean, words op.kind⟩
  have acted : Unbroken ("TASK ".toList ++ task.id ++ what_of op.kind ++ principal.nick ++ ": ".toList) :=
    unbroken_append.mpr ⟨unbroken_append.mpr ⟨operated, presentable.1⟩, literals.2.1⟩
  exact ⟨stored.2.1, by rw [server]; exact literals.2.2, stored.2.1, unbroken_append.mpr ⟨acted, stored.2.2⟩⟩

/-- An operation on framed texts leaves the tasks of the database unbroken. -/
theorem stored_operation {op : TaskOp} (framed : x.Framed names) (whole : x.Whole w) (uuid : Unbroken env.task_uuid)
    (stored : Stored names w.db) (operates : x.operation env = some (principal, op)) :
    ∀ row ∈ (Tasks.perform cfg.lease_seconds w.db.tasks op).1.rows,
      Unbroken row.id ∧ Unbroken row.channel ∧ Unbroken row.title := by
  intro row inside
  rcases perform_row inside with ⟨old, known, id, channel, title⟩ | ⟨now, created⟩
  · rw [id, channel, title]
    exact stored.tasks old known
  · cases x with
    | task_create speaker channel title =>
      simp only [Section.operation, created, Option.some.injEq, Prod.mk.injEq, TaskOp.create.injEq] at operates
      obtain ⟨_, id, channel', title', _⟩ := operates
      rw [← id, ← channel', ← title']
      exact ⟨unbroken_append.mpr ⟨by decide, uuid⟩, framed.1, whole.1 title rfl, framed.2⟩
    | task_claim speaker task_id => rw [created] at operates; cases operates
    | task_done speaker task_id => rw [created] at operates; cases operates
    | task_release speaker task_id => rw [created] at operates; cases operates
    | _ => cases operates

/-- The refusal of an operation on a framed id. -/
theorem framed_refusal {op : TaskOp} {error : Text} (listed : error ∈ refusals) (clean : Unbroken op.id)
    (presentable : Presentable principal) : (refusal principal op error).Framed names := by
  have literals : Unbroken "TASK ".toList ∧ Unbroken " failed: ".toList ∧ Unbroken [' '] := by decide
  have reasons : ∀ error ∈ refusals, Unbroken error := by decide
  have commands : ∀ kind, Unbroken (command_of kind) := by
    intro kind
    cases kind with
    | create => decide
    | claim => decide
    | done => decide
    | release => decide
  have asked : Unbroken ("TASK ".toList ++ command_of op.kind ++ [' '] ++ op.id) :=
    unbroken_append.mpr ⟨unbroken_append.mpr ⟨unbroken_append.mpr ⟨literals.1, commands op.kind⟩, literals.2.2⟩, clean⟩
  exact unbroken_notice presentable.1
    (unbroken_append.mpr ⟨unbroken_append.mpr ⟨asked, literals.2.1⟩, reasons error listed⟩)

theorem framed_operation {op : TaskOp} (framed : here.Framed names) (whole : here.Whole w) (uuid : Unbroken env.task_uuid)
    (stored : Stored names w.db) (server : names SERVER_NAME = SERVER_NAME) (presentable : Presentable principal)
    (operates : here.operation env = some (principal, op)) (inside : x ∈ (perform cfg w env sid here).2) : x.Framed names := by
  have clean : Unbroken op.id := by
    cases here with
    | task_create speaker channel title => cases operates; exact unbroken_append.mpr ⟨by decide, uuid⟩
    | task_claim speaker task_id => cases operates; exact framed
    | task_done speaker task_id => cases operates; exact framed
    | task_release speaker task_id => cases operates; exact framed
    | _ => cases operates
  have result := (@perform_operation cfg w env sid here principal op operates).2
  cases outcome : (Tasks.perform cfg.lease_seconds w.db.tasks op).2 with
  | ok task =>
    rw [outcome] at result
    dsimp only at result
    rw [result] at inside
    rw [List.mem_singleton.mp inside]
    obtain ⟨row, listed, _, rfl⟩ := perform_returned outcome
    exact framed_announcement presentable server (stored_operation framed whole uuid stored operates row listed)
  | error error =>
    rw [outcome] at result
    rcases result with leaves | refuses
    · rw [leaves] at inside; rw [List.mem_singleton.mp inside]; trivial
    · rw [refuses] at inside
      rw [List.mem_singleton.mp inside]
      exact framed_refusal (perform_refused outcome) clean presentable

/-- The rows that a registration greets, and what each greeting says. -/
theorem framed_welcome {rows : List Membership} (presentable : Presentable principal)
    (clean : ∀ row ∈ rows, Unbroken row.channel) (inside : x ∈ welcome principal rows) : x.Framed names := by
  have literals : Unbroken "001 ".toList ∧ Unbroken "Welcome to aircd, ".toList ∧ Unbroken " JOIN ".toList ∧ Unbroken [':'] ∧
      Unbroken "Replaying missed messages for ".toList ∧ Unbroken " channel(s)".toList := by decide
  obtain ⟨number, hello, joins, colon, replaying, counted⟩ := literals
  simp only [welcome, List.mem_append, List.mem_singleton] at inside
  rcases inside with (rfl | joined) | replays
  · have suffix : Unbroken ((principal.team.map (fun team => " (".toList ++ team ++ [')'])).getD []) := by
      cases team : principal.team with
      | none => decide
      | some text =>
        have brackets : Unbroken " (".toList ∧ Unbroken [')'] := by decide
        have clean := presentable.2 text team
        exact unbroken_append.mpr ⟨unbroken_append.mpr ⟨brackets.1, clean⟩, brackets.2⟩
    have greeting : Unbroken ("Welcome to aircd, ".toList ++ principal.nick) := unbroken_append.mpr ⟨hello, presentable.1⟩
    exact unbroken_format_line.mpr ⟨by decide, unbroken_append.mpr ⟨number, presentable.1⟩,
      unbroken_append.mpr ⟨greeting, suffix⟩⟩
  · obtain ⟨row, listed, rfl⟩ := List.mem_map.mp joined
    have speaker : Unbroken ([':'] ++ principal.nick) := unbroken_append.mpr ⟨colon, presentable.1⟩
    exact unbroken_append.mpr ⟨unbroken_append.mpr ⟨speaker, joins⟩, clean row listed⟩
  · split at replays
    · cases replays
    · rcases List.mem_cons.mp replays with rfl | pages
      · have many : Unbroken ("Replaying missed messages for ".toList ++ decimal rows.length) :=
          unbroken_append.mpr ⟨replaying, unbroken_decimal _⟩
        exact unbroken_notice presentable.1 (unbroken_append.mpr ⟨many, counted⟩)
      · obtain ⟨row, _, rfl⟩ := List.mem_map.mp pages
        trivial

theorem unbroken_row {task : Task} (presentable : Presentable principal)
    (stored : Unbroken task.id ∧ Unbroken task.channel ∧ Unbroken task.title)
    (holder : ∀ holder ∈ task.claimed_by, Unbroken holder) : Unbroken (ServerLine.TaskRow principal.nick task).rest := by
  have literals : Unbroken "TASK ".toList ∧ Unbroken " channel=".toList ∧ Unbroken " status=".toList ∧
      Unbroken " claimed_by=".toList ∧ Unbroken " lease_expires_at=".toList ∧ Unbroken " title=:".toList := by decide
  obtain ⟨named, channel, status, claimed, lease, titled⟩ := literals
  have state : Unbroken (status_text task.status) := by
    cases task.status with
    | Open => decide
    | Claimed => decide
    | Done => decide
  have held : Unbroken (task.claimed_by.getD ['-']) := by
    cases claimed : task.claimed_by with
    | none => decide
    | some text => exact holder text claimed
  have expires : Unbroken ((task.lease_expires_at.map decimal).getD ['-']) := by
    cases task.lease_expires_at with
    | none => decide
    | some moment => exact unbroken_decimal moment
  apply unbroken_notice presentable.1
  simp only [unbroken_append]
  exact ⟨⟨⟨⟨⟨⟨⟨⟨⟨⟨⟨named, stored.1⟩, channel⟩, stored.2.1⟩, status⟩, state⟩, claimed⟩, held⟩, lease⟩, expires⟩, titled⟩, stored.2.2⟩

theorem framed_try_register (inside : x ∈ (perform cfg w env sid .try_register).2) : x.Framed names := by
  rcases perform_try_register cfg w env sid with ⟨_, result, plain⟩ | ⟨newcomer, _, _, result⟩
  · rw [result] at inside
    rw [plain x inside]
    show Unbroken ServerLine.PasswordIncorrect.rest
    decide
  · rw [result] at inside
    rw [List.mem_singleton.mp inside]
    trivial

theorem framed_ensure_registered {command : Command} (framed : (Section.ensure_registered command).Framed names)
    (presentable : ∀ principal ∈ w.principal sid, Presentable principal)
    (inside : x ∈ (perform cfg w env sid (.ensure_registered command)).2) : x.Framed names := by
  rcases mem_ensure_registered inside with ⟨speaker, known, _, handled⟩ | rfl | rfl | rfl
  · exact framed_handler framed (presentable speaker known) handled
  · trivial
  · show Unbroken ServerLine.NotRegistered.rest
    decide
  · show Unbroken (ServerLine.Error "Session replaced by a newer connection".toList).rest
    decide

theorem framed_history {reader : Principal} {channel : Text} {after_seq limit : Int} (stored : Stored names w.db)
    (inside : x ∈ (perform cfg w env sid (.history reader channel after_seq limit)).2) : x.Framed names := by
  simp only [perform, List.mem_append] at inside
  rcases inside with named | seen
  · obtain ⟨message, page, rfl⟩ := List.mem_map.mp named
    exact stored.messages message (mem_of_mem_after page).1
  · split at seen
    · rw [List.mem_singleton.mp seen]; trivial
    · cases seen

/-- The line of a JOIN or a PART. -/
theorem unbroken_moves {channel verb : Text} (presentable : Presentable principal) (clean : Unbroken verb) (named : Unbroken channel) :
    Unbroken ([':'] ++ principal.nick ++ verb ++ channel) := by
  have speaker : Unbroken ([':'] ++ principal.nick) := unbroken_append.mpr ⟨by decide, presentable.1⟩
  exact unbroken_append.mpr ⟨unbroken_append.mpr ⟨speaker, clean⟩, named⟩

theorem framed_is_member {speaker : Principal} {channel body : Text}
    (framed : (Section.is_member speaker channel body).Framed (Store.display_name w.db))
    (presentable : ∀ principal ∈ people w.db, Presentable principal) (speaks : speaker ∈ people w.db)
    (inside : x ∈ (perform cfg w env sid (.is_member speaker channel body)).2) : x.Framed (Store.display_name w.db) := by
  have nick := (presentable speaker speaks).1
  simp only [perform] at inside
  split at inside
  · rw [List.mem_singleton.mp inside]
    exact ⟨framed.1, unbroken_display_name presentable speaks, nick, framed.2⟩
  · rw [List.mem_singleton.mp inside]
    have target : Unbroken ("442 ".toList ++ speaker.nick ++ [' ']) :=
      unbroken_append.mpr ⟨unbroken_append.mpr ⟨by decide, nick⟩, by decide⟩
    exact unbroken_format_line.mpr ⟨by decide, unbroken_append.mpr ⟨target, framed.1⟩, by decide⟩

theorem framed_task_list {speaker : Principal} {channel : Text} (framed : (Section.task_list speaker channel).Framed names)
    (whole : (Section.task_list speaker channel).Whole w) (stored : Stored names w.db) (listener : Presentable speaker)
    (inside : x ∈ (perform cfg w env sid (.task_list speaker channel)).2) : x.Framed names := by
  simp only [perform] at inside
  split at inside
  · rw [List.mem_singleton.mp inside]
    exact unbroken_notice listener.1 (unbroken_append.mpr ⟨by decide, framed⟩)
  · obtain ⟨task, listed, rfl⟩ := List.mem_map.mp inside
    obtain ⟨row, kept, rfl⟩ := List.mem_map.mp listed
    rw [List.mem_insertionSort, List.mem_filter] at kept
    apply unbroken_row listener (stored.tasks row kept.1)
    intro holder held
    exact whole.2 holder (List.mem_filterMap.mpr ⟨row.toTask, listed, held⟩)

/-- What a framed section puts before the rest of its task is framed. -/
theorem framed_perform (framed : here.Framed (Store.display_name w.db)) (whole : here.Whole w) (uuid : Unbroken env.task_uuid)
    (stored : Stored (Store.display_name w.db) w.db) (presentable : ∀ principal ∈ people w.db, Presentable principal)
    (acts : ∀ principal ∈ here.principal, principal ∈ people w.db)
    (speaks : ∀ principal ∈ w.principal sid, principal ∈ people w.db)
    (inside : x ∈ (perform cfg w env sid here).2) : x.Framed (Store.display_name w.db) := by
  have server : Store.display_name w.db SERVER_NAME = SERVER_NAME := if_pos rfl
  have operated {principal : Principal} {op : TaskOp} (operates : here.operation env = some (principal, op))
      (actor : here.principal = some principal) : x.Framed (Store.display_name w.db) :=
    framed_operation framed whole uuid stored server (presentable principal (acts principal actor)) operates inside
  cases here with
  | try_register => exact framed_try_register inside
  | ensure_registered command =>
    exact framed_ensure_registered framed (fun speaker known => presentable speaker (speaks speaker known)) inside
  | mark_connected newcomer =>
    rw [List.mem_singleton.mp inside]
    intro membership listed
    obtain ⟨row, kept, rfl⟩ := List.mem_map.mp listed
    rw [List.mem_insertionSort, List.mem_filter] at kept
    exact stored.memberships row kept.1
  | insert_client newcomer rows => exact framed_welcome (presentable newcomer (acts newcomer rfl)) framed inside
  | history reader channel after_seq limit => exact framed_history stored inside
  | display_name message =>
    rw [List.mem_singleton.mp inside]
    exact unbroken_format_line.mpr ⟨framed.2.2, unbroken_append.mpr ⟨by decide, framed.1⟩, framed.2.1⟩
  | memberships reader after_seq limit =>
    obtain ⟨row, _, rfl⟩ := List.mem_map.mp inside
    trivial
  | add_membership newcomer channel => rw [List.mem_singleton.mp inside]; exact framed
  | remove_membership leaver channel => rw [List.mem_singleton.mp inside]; exact framed
  | add_member newcomer channel =>
    rw [List.mem_singleton.mp inside]
    exact unbroken_moves (presentable newcomer (acts newcomer rfl)) (by decide) framed
  | remove_member leaver channel =>
    rw [List.mem_singleton.mp inside]
    exact unbroken_moves (presentable leaver (acts leaver rfl)) (by decide) framed
  | broadcast_raw channel line =>
    obtain ⟨recipient, _, rfl⟩ := List.mem_map.mp inside
    exact framed
  | is_member speaker channel body => exact framed_is_member framed presentable (acts speaker rfl) inside
  | append channel sender_id body notice =>
    rw [List.mem_singleton.mp inside]
    exact framed.2.2.line framed.1 (framed.2.2.unbroken whole)
  | broadcast_message channel message notice =>
    obtain ⟨recipient, _, rfl⟩ := List.mem_map.mp inside
    exact framed
  | deliver channel message notice recipient =>
    rw [perform_deliver] at inside
    dsimp only at inside
    split at inside
    · rw [List.mem_singleton.mp inside]; trivial
    · cases inside
  | task_create speaker channel title => exact operated rfl rfl
  | task_claim speaker task_id => exact operated rfl rfl
  | task_done speaker task_id => exact operated rfl rfl
  | task_release speaker task_id => exact operated rfl rfl
  | task_list speaker channel => exact framed_task_list framed whole stored (presentable speaker (acts speaker rfl)) inside
  | remove_client leaver =>
    simp only [perform] at inside
    split at inside
    · rcases List.mem_cons.mp inside with rfl | last
      · trivial
      · rw [List.mem_singleton.mp last]; trivial
    · rw [List.mem_singleton.mp inside]; trivial
  | _ => cases inside

/-! ## The database -/

/-- The names of the senders are those of the principals. -/
theorem display_name_people {db db' : Db} (same : people db' = people db) : Store.display_name db' = Store.display_name db := by
  have nick (db : Db) (id : Text) : (db.principals.find id).map (·.nick) =
      ((people db).find? (fun principal => decide (principal.id = id))).map (·.nick) := by
    rw [people, List.find?_map, Option.map_map]
    rfl
  funext id
  unfold Store.display_name
  rw [nick, nick, same]

theorem memberships_perform (framed : here.Framed names) (stored : Stored names w.db) :
    ∀ row ∈ (perform cfg w env sid here).1.db.channel_memberships.rows, Unbroken row.channel := by
  intro row inside
  have joined : (cursor (perform cfg w env sid here).1.db row.principal_id row.channel).isSome :=
    cursor_isSome_iff.mpr ⟨row, inside, rfl, rfl⟩
  have old (known : (cursor w.db row.principal_id row.channel).isSome) : Unbroken row.channel := by
    obtain ⟨before, listed, _, same⟩ := cursor_isSome_iff.mp known
    exact same ▸ stored.memberships before listed
  rw [cursor_perform] at joined
  cases here with
  | mark_seen principal_id channel seq => exact old (by simpa using joined)
  | add_membership newcomer channel =>
    dsimp only at joined
    split at joined
    · next fresh => exact fresh.2.2 ▸ framed
    · exact old joined
  | remove_membership leaver channel =>
    dsimp only at joined
    split at joined
    · cases joined
    · exact old joined
  | _ => exact old joined

theorem Stored.perform (framed : here.Framed names) (whole : here.Whole w) (uuid : Unbroken env.task_uuid)
    (stored : Stored names w.db) : Stored names (perform cfg w env sid here).1.db := by
  refine ⟨?_, memberships_perform framed stored, ?_⟩
  · by_cases appends : ∃ channel sender_id body notice, here = .append channel sender_id body notice
    · obtain ⟨channel, sender_id, body, notice, rfl⟩ := appends
      intro message inside
      rcases mem_append.mp inside with before | rfl
      · exact stored.messages message before
      · exact ⟨framed.1, framed.2.2.unbroken whole, framed.2.1⟩
    · rw [messages_perform (fun channel sender_id body notice same => appends ⟨channel, sender_id, body, notice, same⟩)]
      exact stored.messages
  · cases operates : here.operation env with
    | none => rw [tasks_perform operates]; exact stored.tasks
    | some operation =>
      rw [(@perform_operation cfg w env sid here operation.1 operation.2 operates).1]
      exact stored_operation framed whole uuid stored operates

/-! ## What an event begins -/

theorem framed_disconnect (inside : x ∈ disconnect w sid) : x.Framed names := by
  unfold disconnect at inside
  split at inside
  · rw [List.mem_singleton.mp inside]; trivial
  · rw [List.mem_singleton.mp inside]; trivial

theorem unbroken_cap_reply {nick subcommand : Text} {capabilities : List Text} {line : ServerLine} (named : Unbroken nick)
    (clean : Unbroken subcommand ∧ ∀ capability ∈ capabilities, Unbroken capability)
    (reply : cap_reply nick subcommand capabilities = some line) : Unbroken line.rest := by
  have answer {status list : Text} (state : Unbroken status) (listed : Unbroken list) :
      Unbroken (ServerLine.Cap nick status list).rest := by
    have target : Unbroken ("CAP ".toList ++ nick ++ [' ']) :=
      unbroken_append.mpr ⟨unbroken_append.mpr ⟨by decide, named⟩, by decide⟩
    exact unbroken_format_line.mpr ⟨by decide, unbroken_append.mpr ⟨target, state⟩, listed⟩
  unfold cap_reply at reply
  dsimp only at reply
  split at reply
  · cases reply; exact answer (by decide) (by decide)
  split at reply
  · cases reply; exact answer (by decide) (by decide)
  split at reply
  · cases reply
    apply answer
    · split
      · decide
      · decide
    · exact unbroken_join (by decide) clean.2
  split at reply
  · cases reply
  · cases reply
    have target : Unbroken ("410 ".toList ++ nick ++ [' ']) :=
      unbroken_append.mpr ⟨unbroken_append.mpr ⟨by decide, named⟩, by decide⟩
    exact unbroken_format_line.mpr ⟨by decide, unbroken_append.mpr ⟨target, clean.1⟩, by decide⟩

/-- The sections with which a framed command begins. -/
theorem framed_handle_command {command : Command} (framed : command.Framed) (ping : ∀ token, command = .Ping token → '\r' ∉ token)
    (named : ∀ nick ∈ (w.connections sid).session.nick, Unbroken nick) (inside : x ∈ (handle_command w sid command).2) :
    x.Framed names := by
  cases command with
  | Ping token =>
    rw [List.mem_singleton.mp inside]
    exact unbroken_format_line.mpr ⟨by decide, by decide, ping token rfl, framed⟩
  | Unknown name =>
    rw [List.mem_singleton.mp inside]
    exact unbroken_format_line.mpr ⟨by decide, unbroken_append.mpr ⟨by decide, framed⟩, by decide⟩
  | Cap subcommand capabilities =>
    simp only [handle_command, List.mem_map, Option.mem_toList] at inside
    obtain ⟨line, reply, rfl⟩ := inside
    refine unbroken_cap_reply ?_ framed reply
    cases nick : (w.connections sid).session.nick with
    | none => decide
    | some nick' => exact named nick' nick
  | Quit => exact framed_disconnect inside
  | Pong => cases inside
  | Pass token => rw [List.mem_singleton.mp inside]; trivial
  | Nick nick => rw [List.mem_singleton.mp inside]; trivial
  | User user => rw [List.mem_singleton.mp inside]; trivial
  | Join channel => rw [List.mem_singleton.mp inside]; exact framed
  | Part channel => rw [List.mem_singleton.mp inside]; exact framed
  | Privmsg target body => rw [List.mem_singleton.mp inside]; exact framed
  | History channel after_seq limit => rw [List.mem_singleton.mp inside]; trivial
  | TaskCreate channel title => rw [List.mem_singleton.mp inside]; exact framed
  | TaskClaim task_id => rw [List.mem_singleton.mp inside]; exact framed
  | TaskDone task_id => rw [List.mem_singleton.mp inside]; exact framed
  | TaskRelease task_id => rw [List.mem_singleton.mp inside]; exact framed
  | TaskList channel => rw [List.mem_singleton.mp inside]; exact framed

end Aircd.Concurrent

import Aircd.Outcomes
import Aircd.Patterns
import Aircd.Spelling

/-!
# What the daemon reads in the notices of the server

A notice is parsed by `_parse_irc_line`, and its body by the patterns of the
reader loop. Both split at blanks, so words have to be words for Python too.
-/
namespace Aircd.Client
open Aircd.Text Aircd.Regex Aircd.Daemon Aircd.History Aircd.Store Aircd.Tasks
open Aircd.Protocol (alone_join IsWord)
open Aircd.Server (ServerLine format_message_tags format_line status_text)

variable {target body : Text} {msg : Message}

/-! ## A notice -/

/-- A target that is a parameter for the parser. -/
def Target (target : Text) : Prop := Solid target ∧ target.head? ≠ some ':'
instance (target : Text) : Decidable (Target target) := inferInstanceAs (Decidable (_ ∧ _))

theorem no_rustSpace {word : Text} (solid : Solid word) : ∀ c ∈ word, rustSpace c = false := by
  intro c inside
  have clean := solid.2 c inside
  rw [pythonSpace, Bool.or_eq_false_iff] at clean
  exact clean.1

theorem no_line_feed {word : Text} (clean : ∀ c ∈ word, pythonSpace c = false) : '\n' ∉ word := by
  intro inside
  have blank : pythonSpace '\n' = false := clean '\n' inside
  cases blank

theorem split_params_notice (named : Target target) (nonempty : body ≠ []) :
    split_params ("NOTICE ".toList ++ target ++ ' ' :: ':' :: body) = ("NOTICE".toList, [target, body]) := by
  have words : ∀ word ∈ ["NOTICE".toList, target], IsWord word := by
    intro word inside
    rcases List.mem_pair.mp inside with rfl | rfl
    · decide
    · exact ⟨named.1.1, no_rustSpace named.1, named.2⟩
  have alone : ¬ [' ', ':'] <:+: "NOTICE ".toList ++ target := (splitOnce_none_iff (by simp)).mp (alone_join words)
  have read : Text.words pythonSpace ("NOTICE ".toList ++ target) = ["NOTICE".toList, target] := by
    have first := @words_append pythonSpace "NOTICE".toList target ' ' (by decide) (clean_of_any (by decide)) (by decide)
    rw [words_single named.1.1 named.1.2] at first
    exact first
  rw [split_params, splitOnce_colon alone]
  simp only [Option.getD_some, read]
  simp [nonempty]
  rfl

theorem first_line_self (clean : '\n' ∉ body) (ends : ∀ c, body.getLast? = some c → line_end c = false) : first_line body = body := by
  have whole : ∀ c ∈ body ++ ['\r'], (c != '\n') = true := by
    intro c inside
    simp only [bne_iff_ne, ne_eq]
    rintro rfl
    simp [clean] at inside
  rw [first_line, List.takeWhile_eq_self_iff.mpr whole, List.rdropWhile_concat_pos _ _ _ (by rfl), List.rdropWhile_eq_self_iff]
  intro some
  rw [ends _ (List.getLast?_eq_some_getLast some)]
  decide

/-- The first line of a notice is one of the first line of its body. -/
theorem first_line_notice (named : Target target) (body : Text) :
    first_line (format_line SERVER_NAME ("NOTICE ".toList ++ target) body) =
      format_line SERVER_NAME ("NOTICE ".toList ++ target) (first_line body) := by
  have clean : '\n' ∉ [':'] ++ SERVER_NAME ++ [' '] ++ ("NOTICE ".toList ++ target) ++ [' ', ':'] := by
    have own := no_line_feed named.1.2
    simp [own]
    decide
  have ends : ([':'] ++ SERVER_NAME ++ [' '] ++ ("NOTICE ".toList ++ target) ++ [' ', ':']).getLast? = some ':' := by
    rw [List.getLast?_append_of_ne_nil _ (by simp)]
    rfl
  exact first_line_behind clean ends (by decide)

theorem split_source_notice (target body : Text) : split_source (format_line SERVER_NAME ("NOTICE ".toList ++ target) body) =
    some (SERVER_NAME, "NOTICE ".toList ++ target ++ ' ' :: ':' :: body) := by
  have parts : format_line SERVER_NAME ("NOTICE ".toList ++ target) body =
      ':' :: SERVER_NAME ++ ' ' :: ("NOTICE ".toList ++ target ++ ' ' :: ':' :: body) := by
    simp [format_line]
  rw [parts, split_source_line (by decide)]

theorem message_of_notice (line : Text) (tags : Dict Text Text) :
    message_of line ⟨SERVER_NAME, "NOTICE".toList, [target, body], tags⟩ =
      some ⟨(tags.get "seq".toList).bind pythonInt, target, SERVER_NAME, body, line, tags, is_replay tags⟩ := by
  have sender : extract_nick SERVER_NAME = SERVER_NAME := by decide
  rw [message_of]
  dsimp only
  rw [if_pos (.inr rfl), sender]

/-- What the client makes of a notice, without tags and with them. -/
theorem message_notice (named : Target target) (nonempty : body ≠ []) :
    message (format_line SERVER_NAME ("NOTICE ".toList ++ target) body) =
      some ⟨none, target, SERVER_NAME, body, format_line SERVER_NAME ("NOTICE ".toList ++ target) body, Table.empty, false⟩ := by
  have untagged : (format_line SERVER_NAME ("NOTICE ".toList ++ target) body).head? ≠ some '@' := by simp [format_line]
  rw [message, parse_irc_line_untagged untagged, split_source_notice, Option.map_some, Option.bind_some]
  dsimp only
  rw [split_params_notice named nonempty, message_of_notice]
  rfl

theorem message_tagged_notice {tags : List (Text × Text)} (plain : PlainKeys (tags.map Prod.fst)) (named : Target target)
    (nonempty : body ≠ []) {line : Text}
    (whole : line = format_message_tags tags ++ ' ' :: format_line SERVER_NAME ("NOTICE ".toList ++ target) body) :
    message line = some ⟨((dict tags plain).get "seq".toList).bind pythonInt, target, SERVER_NAME, body, line, dict tags plain,
      is_replay (dict tags plain)⟩ := by
  rw [whole, message_tagged plain, split_source_notice, Option.bind_some]
  dsimp only
  rw [split_params_notice named nonempty, message_of_notice]

/-! ## The row of a task -/

/-- A title that the server keeps: it has been trimmed, and a line has no other. -/
def Titled (title : Text) : Prop := title ≠ [] ∧ trim title = title ∧ '\n' ∉ title
instance (title : Text) : Decidable (Titled title) := inferInstanceAs (Decidable (_ ∧ _ ∧ _))

/-- The body of a row. -/
def row_body (task : Task) : Text :=
  "TASK ".toList ++ task.id ++ " channel=".toList ++ task.channel ++ " status=".toList ++ status_text task.status ++
    " claimed_by=".toList ++ task.claimed_by.getD ['-'] ++ " lease_expires_at=".toList ++
    (task.lease_expires_at.map decimal).getD ['-'] ++ " title=:".toList ++ task.title

theorem solid_decimal (n : Int) : Solid (decimal n) := by
  refine ⟨?_, fun c inside => (printable_of_mem_decimal inside).1⟩
  rcases decimal_cases n with ⟨_, printed⟩ | ⟨_, printed⟩
  · rw [printed]
    exact Nat.toDigits_ne_nil
  · rw [printed]
    simp

theorem solid_status (status : TaskStatus) : Solid (status_text status) := by
  cases status <;> decide

/-- A value or the hyphen for a missing one. -/
theorem solid_getD {value : Option Text} (solid : ∀ text ∈ value, Solid text) : Solid (value.getD ['-']) := by
  cases here : value with
  | none => decide
  | some text => exact solid text here

theorem solid_lease (task : Task) : Solid ((task.lease_expires_at.map decimal).getD ['-']) := by
  refine solid_getD ?_
  intro text here
  obtain ⟨lease, _, rfl⟩ := Option.map_eq_some_iff.mp here
  exact solid_decimal lease

/-- The words of a row, the blanks between them, and its title. -/
theorem row_body_eq (task : Task) : row_body task = "TASK".toList ++ ' ' :: (task.id ++ ' ' :: ("channel=".toList ++
    (task.channel ++ ' ' :: ("status=".toList ++ (status_text task.status ++ ' ' :: ("claimed_by=".toList ++
      (task.claimed_by.getD ['-'] ++ ' ' :: ("lease_expires_at=".toList ++ ((task.lease_expires_at.map decimal).getD ['-'] ++
        ' ' :: ("title=:".toList ++ task.title)))))))))) := by
  unfold row_body
  simp only [List.append_assoc]
  rfl

theorem task_row_body {task : Task} (id : Solid task.id) (channel : Solid task.channel)
    (holder : ∀ principal_id ∈ task.claimed_by, Solid principal_id) (title : '\n' ∉ task.title) :
    task_row (row_body task) = some (task.channel, .task task.id task.channel (status_text task.status)
      (task.claimed_by.getD ['-']) task.title) := by
  have whole : task.title.takeWhile (fun c => c != '\n') = task.title := by
    rw [List.takeWhile_eq_self_iff]
    intro c inside
    simp only [bne_iff_ne, ne_eq]
    rintro rfl
    exact title inside
  have flush (word : Text) (solid : Solid word) (t : Text) : Flush (word ++ t) := flush_of_solid solid t
  have groups : matchHere row_pattern (row_body task) = some [task.id, task.channel, status_text task.status,
      task.claimed_by.getD ['-'], (task.lease_expires_at.map decimal).getD ['-'], task.title] := by
    rw [row_body_eq, row_pattern, letters, matchHere_word, matchHere_space (flush _ id _),
      matchHere_one_word id (flush _ (by decide) _), letters, matchHere_word,
      matchHere_one_word channel (flush _ (by decide) _), letters, matchHere_word,
      matchHere_one_word (solid_status task.status) (flush _ (by decide) _), letters, matchHere_word,
      matchHere_one_word (solid_getD holder) (flush _ (by decide) _), letters, matchHere_word,
      matchHere_one_word (solid_lease task) (flush _ (by decide) _), letters, matchHere_word, matchHere_rest, whole]
    rfl
  rw [task_row, groups]

theorem visible_at_end {title : Text} (trimmed : trim title = title) {c : Char} (last : title.getLast? = some c) :
    rustSpace c = false := by
  have kept := rdropWhile_trim title
  rw [trimmed, List.rdropWhile_eq_self_iff] at kept
  have some : title ≠ [] := by
    rintro rfl
    cases last
  rw [List.getLast?_eq_some_getLast some, Option.some.injEq] at last
  exact Bool.eq_false_iff.mpr (last ▸ kept some)

/-- What is read of a row: the words and the title of its task, whatever the title looks like. -/
theorem task_row_read {nick : Text} {task : Task} (named : Target nick) (id : Solid task.id) (channel : Solid task.channel)
    (holder : ∀ principal_id ∈ task.claimed_by, Solid principal_id) (title : Titled task.title) :
    ∃ msg, message (first_line (ServerLine.TaskRow nick task).text) = some msg ∧ from_server msg = true ∧
      "TASK ".toList <:+: msg.content ∧ task_row msg.content = some (task.channel,
        .task task.id task.channel (status_text task.status) (task.claimed_by.getD ['-']) task.title) := by
  have text : (ServerLine.TaskRow nick task).text = format_line SERVER_NAME ("NOTICE ".toList ++ nick) (row_body task) := rfl
  have clean : '\n' ∉ row_body task := by
    rw [row_body_eq]
    simp only [List.mem_append, List.mem_cons, not_or]
    exact ⟨by decide, by decide, no_line_feed id.2, by decide, by decide, no_line_feed channel.2, by decide, by decide,
      no_line_feed (solid_status task.status).2, by decide, by decide, no_line_feed (solid_getD holder).2, by decide, by decide,
      no_line_feed (solid_lease task).2, by decide, by decide, title.2.2⟩
  have ends : ∀ c, (row_body task).getLast? = some c → line_end c = false := by
    intro c last
    unfold row_body at last
    rw [List.getLast?_append_of_ne_nil _ title.1] at last
    exact line_end_of_visible (visible_at_end title.2.1 last)
  have begins : "TASK ".toList <+: row_body task := by
    rw [row_body_eq]
    exact ⟨_, rfl⟩
  have nonempty : row_body task ≠ [] := by
    intro none
    rw [none] at begins
    exact absurd begins (by decide)
  rw [text, first_line_notice named, first_line_self clean ends, message_notice named nonempty]
  exact ⟨_, rfl, rfl, begins.isInfix, task_row_body id channel holder title.2.2⟩

/-- A title that looks like a row. -/
def row_in_row : Task where
  id := "task_1".toList
  channel := "#c".toList
  title := "x :y status=done claimed_by=eve title=: z".toList
  status := .Claimed
  claimed_by := some "bob".toList
  lease_expires_at := some 300

theorem task_row_read_in_row : ∃ msg, message (first_line (ServerLine.TaskRow "bob".toList row_in_row).text) = some msg ∧
    task_row msg.content = some ("#c".toList, .task "task_1".toList "#c".toList "claimed".toList "bob".toList
      "x :y status=done claimed_by=eve title=: z".toList) := by
  obtain ⟨msg, read, _, _, row⟩ := @task_row_read "bob".toList row_in_row (by decide) (by decide) (by decide) (by decide) (by decide)
  exact ⟨msg, read, row⟩

/-- A nick that begins with a colon, an empty one, and an empty id of a task or a principal hide the row. -/
theorem row_unread :
    let row (nick : Text) (task : Task) := (message (first_line (ServerLine.TaskRow nick task).text)).bind (fun msg =>
      task_row msg.content)
    row ":bob".toList row_in_row = none ∧ row [] row_in_row = none ∧ row "bob".toList { row_in_row with id := [] } = none ∧
      row "bob".toList { row_in_row with channel := [] } = none ∧
      row "bob".toList { row_in_row with claimed_by := some [] } = none := by
  decide +kernel

end Aircd.Client

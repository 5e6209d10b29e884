import Aircd.Copies
import Aircd.Notices

/-!
# Delivery keys

The daemon searches the whole line of a message for its `msg-id` tag. In the line
of a stored message the tag is the first thing that the search can find; in the
other lines there is no tag, and what the search finds is the text of a user.
-/
namespace Aircd.Daemon
open Aircd.Regex Aircd.Text

variable {name value t : Text} {msg : Message}

/-- `[^\s;]`. -/
def in_value (c : Char) : Bool := !pythonSpace c && c != ';'

/-- Somewhere in the text stands what looks like a tag with a value. -/
def Mentions (name t : Text) : Prop := ∃ before c after, t = before ++ (name ++ '=' :: c :: after) ∧ in_value c = true

theorem matches_tag {groups : List Text} {left : Text} (matched : Matches (tag_pattern name) t groups left) :
    ∃ c value, t = name ++ '=' :: c :: value ++ left ∧ groups = [c :: value] ∧ ∀ c' ∈ c :: value, in_value c' = true := by
  cases matched with
  | cons accepts later =>
    cases later with
    | cons class_accepts rest =>
      cases rest
      obtain ⟨long, all⟩ := class_accepts
      obtain ⟨c, value, rfl⟩ := List.exists_cons_of_length_pos long
      have word : _ = name ++ ['='] := accepts
      refine ⟨c, value, ?_, rfl, all⟩
      rw [word]
      simp

/-- The tag is found where it stands. -/
theorem search_tag {c : Char} {after : Text} (nonempty : value ≠ []) (whole : ∀ c ∈ value, in_value c = true)
    (ends : in_value c = false) : search (tag_pattern name) (name ++ '=' :: value ++ c :: after) = some [value] := by
  have longest : (value ++ c :: after).takeWhile in_value = value := by
    rw [List.takeWhile_append_of_pos whole, List.takeWhile_cons_of_neg (by simp [ends]), List.append_nil]
  have text : name ++ '=' :: value ++ c :: after = (name ++ ['=']) ++ (value ++ c :: after) := by simp
  have found : matchHere [group (.repeated 1 true in_value)] (value ++ c :: after) = some [value] := by
    rw [matchHere_most (by rw [longest]; exact List.length_pos_iff.mpr nonempty), longest]
  refine search_here ?_
  rw [text, tag_pattern, matchHere_word]
  exact found

theorem search_tag_none_iff : search (tag_pattern name) t = none ↔ ¬ Mentions name t := by
  rw [search_none_iff]
  constructor
  · rintro never ⟨before, c, after, rfl, visible⟩
    have matched : Matches (tag_pattern name) (name ++ '=' :: c :: after) [[c]] after := by
      have one : Matches [group (.repeated 1 true in_value)] (c :: after) [[c]] after :=
        @Matches.cons _ (group (.repeated 1 true in_value)) [] [c] after after [] ⟨le_rfl, by simpa using visible⟩ (.nil _)
      have both := @Matches.cons _ (plain (.word (name ++ ['=']))) _ (name ++ ['=']) _ _ _ rfl one
      rw [List.append_assoc] at both
      exact both
    exact matchHere_none_iff.mp (never before _ rfl) _ _ matched
  · rintro unmentioned before here rfl
    refine matchHere_none_iff.mpr ?_
    intro groups left matched
    obtain ⟨c, value, rfl, _, all⟩ := matches_tag matched
    exact unmentioned ⟨before, c, value ++ left, by simp, all c List.mem_cons_self⟩

instance (name t : Text) : Decidable (Mentions name t) := decidable_of_iff (search (tag_pattern name) t ≠ none) (by
  rw [Ne, search_tag_none_iff, not_not])

theorem raw_tag_eq (msg : Message) (name : Text) :
    raw_tag msg name = ((search (tag_pattern name) msg.raw).bind List.head?).getD [] := by
  rw [raw_tag]
  split
  · next empty =>
    have nothing : search (tag_pattern name) msg.raw = none := by
      rw [search_tag_none_iff, List.isEmpty_iff.mp empty]
      rintro ⟨before, c, after, split, _⟩
      simp at split
    rw [nothing]
    rfl
  · rfl

theorem raw_tag_eq_nil_iff : raw_tag msg name = [] ↔ ¬ Mentions name msg.raw := by
  rw [← search_tag_none_iff, raw_tag_eq]
  cases found : search (tag_pattern name) msg.raw with
  | none => simp
  | some groups =>
    obtain ⟨_, here, left, _, matched, _⟩ := search_sound found
    obtain ⟨c, value, _, rfl, _⟩ := matches_tag matched
    simp

/-- The key for the deduplication and the delivery is the `msg-id` tag that the client has parsed. -/
def KeyedByTag (msg : Message) : Prop :=
  msg_id msg = msg.tag "msg-id".toList ∧ (message_to_dict msg).msg_id = msg.tag "msg-id".toList

instance (msg : Message) : Decidable (KeyedByTag msg) := inferInstanceAs (Decidable (_ ∧ _))

theorem keyed_iff : KeyedByTag msg ↔ msg_id msg = msg.tag "msg-id".toList := and_self_iff

end Aircd.Daemon

namespace Aircd.Server
open Aircd.Text

/-- What `Uuid::simple` prints is made of hexadecimal digits. -/
def Simple (uuid : Text) : Prop := ∀ c ∈ uuid, c ∈ "0123456789abcdef".toList
instance (uuid : Text) : Decidable (Simple uuid) := List.decidableBAll _ uuid

/-- A `msg_id` as the server makes them. -/
def Coined (msg_id : Text) : Prop := ∃ uuid, Simple uuid ∧ msg_id = "msg_".toList ++ uuid

end Aircd.Server

namespace Aircd.Client
open Aircd.Text Aircd.Regex Aircd.Daemon Aircd.History
open Aircd.Server (ServerLine Coined escape_char escape_tag_value format_tag format_message_tags metadata text_message
  text_task_event text_task_failed)

variable {line : ServerLine} {stored : StoredMessage} {msg : Message} {t value : Text}

theorem visible_of_coined (coined : Coined value) : ∀ c ∈ value, in_value c = true ∧ escape_char c = [c] := by
  have listed : "msg_0123456789abcdef".toList.all (fun c => in_value c && escape_char c == [c]) = true := by decide
  obtain ⟨uuid, simple, rfl⟩ := coined
  intro c inside
  have plain : c ∈ "msg_0123456789abcdef".toList := by
    rcases List.mem_append.mp inside with first | digit
    · exact List.mem_append_left "0123456789abcdef".toList first
    · exact List.mem_append_right "msg_".toList (simple c digit)
  simpa using List.all_eq_true.mp listed c plain

theorem nonempty_of_coined (coined : Coined value) : value ≠ [] := by
  obtain ⟨uuid, _, rfl⟩ := coined
  simp

theorem escape_plain (plain : ∀ c ∈ value, escape_char c = [c]) : escape_tag_value value = value := by
  rw [escape_tag_value, List.flatMap_congr plain, List.flatMap_singleton']

/-- The line of a stored message begins with its number and its id. -/
theorem text_stored (carried : line.stored = some stored) : ∃ more, line.text =
    ("@seq=".toList ++ escape_tag_value (decimal stored.seq) ++ [';']) ++
      ("msg-id".toList ++ '=' :: escape_tag_value stored.msg_id ++ ';' :: more) := by
  cases line with
  | Message message sender replay =>
    cases carried
    rw [text_message]
    simp [format_message_tags, metadata, Text.join, format_tag]
  | TaskEvent message task action status actor =>
    cases carried
    rw [text_task_event]
    simp [format_message_tags, metadata, Text.join, format_tag]
  | _ => cases carried

theorem raw_of_message (read : message t = some msg) : msg.raw = t := by
  obtain ⟨parsed, _, made⟩ := Option.bind_eq_some_iff.mp read
  unfold message_of at made
  split at made
  · split at made
    · cases made; rfl
    · cases made
  · cases made

/-- The tag that the client has parsed is the id of the stored message. -/
theorem tag_of_stored (carried : line.stored = some stored) (read : message (first_line line.text) = some msg) :
    msg.tag "msg-id".toList = stored.msg_id := by
  cases line with
  | Message message sender replay =>
    cases carried
    rw [text_message] at read
    exact tag_of_dict (tags_of_tagged (plain_metadata stored replay) read) (by simp [metadata])
  | TaskEvent message task action status actor =>
    cases carried
    rw [text_task_event] at read
    exact tag_of_dict (tags_of_tagged (plain_task stored task.id action status actor task.title) read) (by simp [metadata])
  | _ => cases carried

/-- Other lines have no such tag. -/
theorem tag_of_unstored (plain : line.stored = none) (read : message (first_line line.text) = some msg) :
    msg.tag "msg-id".toList = [] := by
  have untagged (bare : line.tags = []) : msg.tag "msg-id".toList = [] := by
    rw [Message.tag, tags_of_bare bare read]
    rfl
  cases line with
  | Message message sender replay => cases plain
  | TaskEvent message task action status actor => cases plain
  | TaskFailed action task_id actor body =>
    rw [text_task_failed] at read
    refine tag_of_absent (tags_of_tagged (plain_failure task_id action _ actor) read) ?_
    show "msg-id".toList ∉ ["task-id".toList, "task-action".toList, "task-status".toList, "task-actor".toList]
    decide
  | _ => exact untagged rfl

theorem no_m_in_decimal (n : Int) : 'm' ∉ decimal n := by
  intro inside
  rcases mem_decimal inside with minus | digit
  · exact absurd minus (by decide)
  · exact absurd digit (by decide)

theorem escape_decimal (n : Int) : escape_tag_value (decimal n) = decimal n := by
  refine escape_plain ?_
  intro c inside
  obtain ⟨visible, semicolon, backslash, cr, lf⟩ := printable_of_mem_decimal inside
  have space : c ≠ ' ' := by
    rintro rfl
    cases visible
  simp [escape_char, semicolon, backslash, cr, lf, space]

/-- In the line of a stored message the tag is found first. -/
theorem keyed_stored (carried : line.stored = some stored) (coined : Coined stored.msg_id)
    (read : message (first_line line.text) = some msg) : KeyedByTag msg := by
  have visible := visible_of_coined coined
  obtain ⟨more, text⟩ := text_stored carried
  rw [escape_plain (fun c inside => (visible c inside).2), escape_decimal] at text
  have parts : line.text =
      ("@seq=".toList ++ decimal stored.seq ++ [';'] ++ "msg-id".toList ++ '=' :: stored.msg_id ++ [';']) ++ more := by
    rw [text]
    simp
  have clean : '\n' ∉ "@seq=".toList ++ decimal stored.seq ++ [';'] ++ "msg-id".toList ++ '=' :: stored.msg_id ++ [';'] := by
    have number : '\n' ∉ decimal stored.seq := fun inside => (printable_of_mem_decimal inside).2.2.2.2 rfl
    have id : '\n' ∉ stored.msg_id := fun inside => absurd (visible _ inside).1 (by decide)
    simp only [List.mem_append, List.mem_cons, not_or]
    exact ⟨⟨⟨⟨⟨by decide, number⟩, by decide⟩, by decide⟩, by decide, id⟩, by decide⟩
  have raw : msg.raw = ("@seq=".toList ++ decimal stored.seq ++ [';']) ++
      ("msg-id".toList ++ '=' :: stored.msg_id ++ ';' :: first_line more) := by
    rw [raw_of_message read, parts, first_line_behind clean (List.getLast?_concat) (by decide)]
    simp
  have earlier (start rest : Text) (split : "@seq=".toList ++ decimal stored.seq ++ [';'] = start ++ rest) (some : rest ≠ []) :
      matchHere (tag_pattern "msg-id".toList)
        (rest ++ ("msg-id".toList ++ '=' :: stored.msg_id ++ ';' :: first_line more)) = none := by
    obtain ⟨c, rest, rfl⟩ := List.exists_cons_of_ne_nil some
    refine matchHere_word_none ?_
    rintro ⟨left, begins⟩
    have first : 'm' = c := (List.cons.inj begins).1
    have inside : 'm' ∈ "@seq=".toList ++ decimal stored.seq ++ [';'] := by
      rw [split, first]
      simp
    simp only [List.mem_append, no_m_in_decimal, or_false] at inside
    exact absurd inside (by decide)
  have found : search (tag_pattern "msg-id".toList) msg.raw = some [stored.msg_id] := by
    rw [raw, search_behind earlier, search_tag (nonempty_of_coined coined) (fun c inside => (visible c inside).1) (by decide)]
  rw [keyed_iff, tag_of_stored carried read, msg_id, raw_tag_eq, found]
  rfl

theorem keyed_unstored_iff (plain : line.stored = none) (read : message (first_line line.text) = some msg) :
    KeyedByTag msg ↔ ¬ Mentions "msg-id".toList (first_line line.text) := by
  rw [keyed_iff, tag_of_unstored plain read, msg_id, raw_tag_eq_nil_iff, raw_of_message read]

end Aircd.Client

namespace Aircd.Concurrent
open Aircd.Runs Aircd.Text Aircd.Auth Aircd.Daemon Aircd.History Aircd.Store
open Aircd.Server (Config SessionId ServerLine Coined Simple moment plain)
open Aircd.Client (message first_line keyed_stored keyed_unstored_iff)

variable {cfg : Config} {s : System}

theorem coined_step {e : Event} (coined : ∀ row ∈ s.world.db.messages.rows, Coined row.msg_id)
    (simple : ∀ sid env, e = .run sid env → Simple env.message_uuid) :
    ∀ row ∈ (step cfg s e).world.db.messages.rows, Coined row.msg_id := by
  intro row inside
  rcases stepped cfg s e with ⟨sid, env, here, rest, rfl, head⟩ | idle | notRun
  · rw [step_run head, world_resume] at inside
    by_cases appends : ∃ channel sender_id body notice, here = .append channel sender_id body notice
    · obtain ⟨channel, sender_id, body, notice, rfl⟩ := appends
      rcases mem_append.mp inside with before | rfl
      · exact coined row before
      · exact ⟨env.message_uuid, simple sid env rfl, rfl⟩
    · have other (channel sender_id body : Text) (notice : Notice) : here ≠ .append channel sender_id body notice :=
        fun same => appends ⟨channel, sender_id, body, notice, same⟩
      rw [messages_perform other] at inside
      exact coined row inside
  · rw [idle] at inside
    exact coined row inside
  · rw [db_step_other cfg s notRun] at inside
    exact coined row inside

theorem coined_run (cfg : Config) (db : Db) (events : List Event) (stored : ∀ row ∈ db.messages.rows, Coined row.msg_id)
    (uuids : ∀ sid env, .run sid env ∈ events → Simple env.message_uuid) :
    ∀ row ∈ (run (step cfg) (start db) events).world.db.messages.rows, Coined row.msg_id := by
  have simple : ∀ e ∈ events, ∀ sid env, e = .run sid env → Simple env.message_uuid := by
    rintro e inside sid env rfl
    exact uuids sid env inside
  have kept (s : System) (e : Event) (coined : ∀ row ∈ s.world.db.messages.rows, Coined row.msg_id)
      (simple : ∀ sid env, e = .run sid env → Simple env.message_uuid) :
      ∀ row ∈ (step cfg s e).world.db.messages.rows, Coined row.msg_id := coined_step coined simple
  exact run_invariant_of kept events stored (allSteps_of_forall simple)

/-- In every run, the key of a message is its tag if and only if its line carries a stored message, or has no text in it
that looks like the tag. -/
theorem keyed_in_run_iff (cfg : Config) (db : Db) (events : List Event) (stored : ∀ row ∈ db.messages.rows, Coined row.msg_id)
    (uuids : ∀ sid env, .run sid env ∈ events → Simple env.message_uuid) (sid : SessionId) {line : ServerLine}
    (inside : line ∈ ((run (step cfg) (start db) events).world.connections sid).lines) {msg : Message}
    (read : message (first_line line.text) = some msg) :
    KeyedByTag msg ↔ line.stored.isSome ∨ ¬ Mentions "msg-id".toList (first_line line.text) := by
  cases carried : line.stored with
  | some message =>
    have row : message ∈ (run (step cfg) (start db) events).world.db.messages.rows :=
      (logged_run cfg db events).queues sid message (List.mem_filterMap.mpr ⟨line, inside, carried⟩)
    exact iff_of_true (keyed_stored carried (coined_run cfg db events stored uuids message row) read) (.inl rfl)
  | none =>
    rw [keyed_unstored_iff carried read]
    simp

/-! ### A claim of a task with the name of a tag -/

/-- Bob sends a message that looks like a tag, and Alice claims a task with such an id. -/
def looks_tagged : List Event :=
  arrival 0 "alice".toList "a".toList ++ sections 0 10 0 ++ arrival 1 "bob".toList "b".toList ++ sections 1 10 0 ++
    [.receive 1 (.Privmsg "#c".toList "msg-id=msg_7".toList)] ++ sections 1 8 1 ++
    [.receive 0 (.TaskClaim "msg-id=msg_1".toList)] ++ sections 0 4 2

/-- The messages that Alice's client reads. -/
def read_by_alice : List Message :=
  ((run (step plain) (start both_in_c) looks_tagged).world.connections 0).lines.filterMap (fun line =>
    message (first_line line.text))

/-- What Bob sends. -/
def chat : ServerLine :=
  .Message ⟨1, "msg_1".toList, "#c".toList, "bob".toList, "msg-id=msg_7".toList, 0⟩ "bob".toList false

theorem keyed_in_run_chat : ∃ msg ∈ read_by_alice, msg.content = "msg-id=msg_7".toList ∧ KeyedByTag msg := by
  have queued : chat ∈ ((run (step plain) (start both_in_c) looks_tagged).world.connections 0).lines := by decide +kernel
  have content : (message (first_line chat.text)).map (·.content) = some "msg-id=msg_7".toList := by decide +kernel
  obtain ⟨msg, read, body⟩ := Option.map_eq_some_iff.mp content
  have uuids (sid : SessionId) (env : Server.Env) (inside : .run sid env ∈ looks_tagged) : Simple env.message_uuid := by
    simp only [looks_tagged, arrival, sections, List.mem_append, List.mem_cons, List.mem_replicate, List.not_mem_nil,
      reduceCtorEq, Event.run.injEq, or_false, false_or] at inside
    have digits : Simple (moment 0).message_uuid ∧ Simple (moment 1).message_uuid ∧ Simple (moment 2).message_uuid := by decide
    rcases inside with (((((⟨_, _, rfl⟩ | ⟨_, _, rfl⟩) | ⟨_, _, rfl⟩) | ⟨_, _, rfl⟩ | ⟨_, _, rfl⟩) | ⟨_, _, rfl⟩) | ⟨_, _, rfl⟩) |
      ⟨_, _, rfl⟩
    · exact digits.1
    · exact digits.1
    · exact digits.1
    · exact digits.1
    · exact digits.1
    · exact digits.1
    · exact digits.2.1
    · exact digits.2.2
  refine ⟨msg, List.mem_filterMap.mpr ⟨chat, queued, read⟩, body, ?_⟩
  exact (keyed_in_run_iff plain both_in_c looks_tagged (fun _ inside => by cases inside) uuids 0 queued read).mpr (.inl rfl)

/-- The id of the task makes the notice of its refusal a duplicate of Bob's message. -/
theorem key_of_text :
    ¬ (∀ msg ∈ read_by_alice, KeyedByTag msg) ∧
    read_by_alice.map (fun msg => (msg_id msg, msg.tag "msg-id".toList)) =
      [([], []), ([], []), ("msg_1".toList, "msg_1".toList), ("msg_1".toList, [])] ∧
    read_by_alice.getLast?.map (is_duplicate (read_by_alice.dropLast.foldl remember .default)) = some true := by
  decide +kernel

end Aircd.Concurrent

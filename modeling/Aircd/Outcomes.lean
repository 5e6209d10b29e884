import Aircd.Received
import Aircd.Replies
import Aircd.Requests

/-!
# The tags that a message has

A message with the tags of a task event is read from a line with these tags: the
other lines of the server have no such tags, as long as no text brings a line feed
and with it a line of its own.
-/
namespace Aircd.Client
open Aircd.Runs Aircd.Text Aircd.Utf8 Aircd.Daemon Aircd.History Aircd.Store Aircd.Protocol
open Aircd.Server (ServerLine format_message_tags metadata replay_tag task_tags title_tag format_line text_message
  text_task_event text_task_failed rest_starts)
open Aircd.Concurrent (Reply line_reply)

/-- The tags of a message as those of a task event. -/
def message_reply (msg : Message) : Option Reply :=
  if tagged msg then
    some ⟨msg.tag "task-id".toList, msg.tag "task-action".toList, msg.tag "task-status".toList, msg.tag "task-actor".toList⟩
  else none

variable {line : ServerLine} {msg : Message} {t : Text}

theorem tags_of_message_of {parsed : IrcLine} (made : message_of t parsed = some msg) : msg.tags = parsed.tags := by
  unfold message_of at made
  split at made
  · split at made
    · cases made; rfl
    · cases made
  · cases made

theorem tags_of_tagged {tags : List (Text × Text)} (plain : PlainKeys (tags.map Prod.fst)) {rest : Text}
    (read : message (first_line (format_message_tags tags ++ [' '] ++ rest)) = some msg) : msg.tags = dict tags plain := by
  rw [first_line_tagged plain, message_tagged plain] at read
  obtain ⟨⟨source, rest'⟩, _, made⟩ := Option.bind_eq_some_iff.mp read
  exact tags_of_message_of made

theorem tags_of_untagged {more : Text} (read : message (first_line (':' :: more)) = some msg) : msg.tags = Table.empty := by
  have starts : first_line (':' :: more) = ':' :: ((more ++ ['\r']).takeWhile (fun c => c != '\n')).rdropWhile line_end := by
    rw [first_line, List.cons_append, List.takeWhile_cons_of_pos (by decide)]
    exact @rdropWhile_append line_end [':'] _ ':' rfl (by decide)
  rw [starts, message] at read
  obtain ⟨parsed, parse, made⟩ := Option.bind_eq_some_iff.mp read
  rw [tags_of_message_of made]
  rw [parse_irc_line_untagged (by simp)] at parse
  obtain ⟨⟨source, rest⟩, _, same⟩ := Option.map_eq_some_iff.mp parse
  rw [← same]

/-- A line without tags is read without tags. -/
theorem tags_of_bare (bare : line.tags = []) (read : message (first_line line.text) = some msg) : msg.tags = Table.empty := by
  obtain ⟨more, starts⟩ := rest_starts line
  rw [ServerLine.text, bare, List.isEmpty_nil, if_pos rfl, starts] at read
  exact tags_of_untagged read

theorem tag_of_dict {tags : List (Text × Text)} {plain : PlainKeys (tags.map Prod.fst)} (same : msg.tags = dict tags plain)
    {key value : Text} (listed : (key, value) ∈ tags) : msg.tag key = value := by
  have found : (dict tags plain).get key = some value := Dict.get_iff.mpr listed
  rw [Message.tag, same, found]
  rfl

theorem tag_of_absent {tags : List (Text × Text)} {plain : PlainKeys (tags.map Prod.fst)} (same : msg.tags = dict tags plain)
    {key : Text} (absent : key ∉ tags.map Prod.fst) : msg.tag key = [] := by
  have missing : (dict tags plain).get key = none := by
    rw [Dict.get, Option.map_eq_none_iff, Table.find_none_iff]
    intro tag inside here
    exact absent (here ▸ List.mem_map_of_mem inside)
  rw [Message.tag, same, missing]
  rfl

/-- The tags of a task event, in the order in which the server writes them. -/
theorem reply_of_dict {tags more : List (Text × Text)} {task_id action status actor : Text}
    {plain : PlainKeys ((tags ++ task_tags task_id action status actor ++ more).map Prod.fst)}
    (same : msg.tags = dict (tags ++ task_tags task_id action status actor ++ more) plain) :
    msg.tag "task-id".toList = task_id ∧ msg.tag "task-action".toList = action ∧ msg.tag "task-status".toList = status ∧
      msg.tag "task-actor".toList = actor := by
  have listed {key value : Text} (inside : (key, value) ∈ task_tags task_id action status actor) : msg.tag key = value :=
    tag_of_dict same (List.mem_append_left more (List.mem_append_right tags inside))
  exact ⟨listed (by simp [task_tags]), listed (by simp [task_tags]), listed (by simp [task_tags]), listed (by simp [task_tags])⟩

theorem plain_failure (task_id action status actor : Text) :
    PlainKeys (([] ++ task_tags task_id action status actor ++ []).map Prod.fst) := by
  show PlainKeys ["task-id".toList, "task-action".toList, "task-status".toList, "task-actor".toList]
  decide

/-- The tags of a reply come from a line that has them. -/
theorem line_reply_of_message {r : Reply} (read : message (first_line line.text) = some msg)
    (tags : message_reply msg = some r) : line_reply line = some r := by
  unfold message_reply at tags
  split at tags
  · next full =>
    rw [← Option.some.inj tags]
    have named : msg.tag "task-id".toList ≠ [] := by
      intro none
      rw [tagged, none] at full
      cases full
    have untagged (bare : line.tags = []) : line_reply line = some
        ⟨msg.tag "task-id".toList, msg.tag "task-action".toList, msg.tag "task-status".toList, msg.tag "task-actor".toList⟩ :=
      absurd (by rw [Message.tag, tags_of_bare bare read]; rfl) named
    cases line with
    | Message message sender replay =>
      rw [text_message] at read
      refine absurd (tag_of_absent (tags_of_tagged (plain_metadata message replay) read) ?_) named
      cases replay with
      | false =>
        show "task-id".toList ∉ ["seq".toList, "msg-id".toList, "time".toList]
        decide
      | true =>
        show "task-id".toList ∉ ["seq".toList, "msg-id".toList, "time".toList, "replay".toList]
        decide
    | TaskEvent message task action status actor =>
      rw [text_task_event] at read
      obtain ⟨id, act, state, who⟩ := reply_of_dict (tags_of_tagged (plain_task message task.id action status actor task.title) read)
      rw [id, act, state, who]
      rfl
    | TaskFailed action task_id actor body =>
      rw [text_task_failed] at read
      obtain ⟨id, act, state, who⟩ := reply_of_dict (tags_of_tagged (plain_failure task_id action _ actor) read)
      rw [id, act, state, who]
      rfl
    | _ => exact untagged rfl
  · cases tags

/-- A reply that the reader loop reads from a line without a line feed inside is that of the line. -/
theorem reply_of_piece {r : Reply} {bytes : List UInt8} (clean : '\n' ∉ line.text)
    (piece : bytes ∈ Lines.terminated 10 (ReaderLoop.written line)) (text : readline bytes = some t)
    (read : message t = some msg) (tags : message_reply msg = some r) : line_reply line = some r := by
  rw [(ReaderLoop.pieces_written clean).1] at piece
  rw [List.mem_singleton.mp piece] at text
  have whole : t = first_line line.text := by
    unfold readline at text
    split at text
    · cases text
    · have kept : ∀ c ∈ line.text ++ ['\r'], (c != '\n') = true := by
        intro c inside
        simp only [bne_iff_ne, ne_eq]
        rintro rfl
        simp [clean] at inside
      rw [← Option.some.inj text, decoded, decodeReplace_encode, first_line, List.takeWhile_eq_self_iff.mpr kept]
  rw [whole] at read
  exact line_reply_of_message read tags

end Aircd.Client

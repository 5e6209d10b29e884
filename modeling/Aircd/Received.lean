import Aircd.Framing
import Aircd.ReaderLoop

/-!
# What the client makes of the lines of the server

The parser of `client.py` on the lines that `server.rs` formats: the tags come
back as they were, and the rest of the line does when its words are words for
both languages.
-/
namespace Aircd.Client
open Aircd.Runs Aircd.Text Aircd.Utf8 Aircd.Daemon Aircd.History Aircd.Store Aircd.Protocol
open Aircd.Server (ServerLine escape_char escape_tag_value mem_escape_tag_value format_tag format_message_tags metadata
  replay_tag task_tags title_tag format_line text_message text_task_event)

/-! ## Tags -/

theorem unescape_escape_char (character : Char) (rest : Text) :
    unescape_tag_value (escape_char character ++ rest) = character :: unescape_tag_value rest := by
  by_cases backslash : character = '\\'
  · subst backslash; simp [escape_char, unescape_tag_value, unescaped]
  by_cases semicolon : character = ';'
  · subst semicolon; simp [escape_char, unescape_tag_value, unescaped]
  by_cases space : character = ' '
  · subst space; simp [escape_char, unescape_tag_value, unescaped]
  by_cases cr : character = '\r'
  · subst cr; simp [escape_char, unescape_tag_value, unescaped]
  by_cases lf : character = '\n'
  · subst lf; simp [escape_char, unescape_tag_value, unescaped]
  have plain : escape_char character = [character] := by simp [escape_char, backslash, semicolon, space, cr, lf]
  rw [plain]
  cases rest with
  | nil => rfl
  | cons next rest => simp [unescape_tag_value, backslash]

theorem unescape_escape (value : Text) : unescape_tag_value (escape_tag_value value) = value := by
  induction value with
  | nil => rfl
  | cons character rest ih => rw [escape_tag_value, List.flatMap_cons, unescape_escape_char, ← escape_tag_value, ih]

theorem parse_tag_format {tags : Dict Text Text} {key value : Text} (plain : '=' ∉ key) :
    parse_tag tags (format_tag (key, value)) = tags.put key value := by
  have split : splitOnce ['='] (format_tag (key, value)) = some (key, escape_tag_value value) := by
    rw [format_tag, List.append_assoc, List.singleton_append, splitOnce_char plain]
  simp only [parse_tag, split, unescape_escape]

/-- Keys that stand for themselves in a line. -/
def PlainKeys (keys : List Text) : Prop :=
  keys ≠ [] ∧ keys.Nodup ∧ ∀ key ∈ keys, ';' ∉ key ∧ '=' ∉ key ∧ ' ' ∉ key ∧ '\n' ∉ key
instance (keys : List Text) : Decidable (PlainKeys keys) := inferInstanceAs (Decidable (_ ∧ _ ∧ _))

theorem foldl_parse_tag : ∀ (tags : List (Text × Text)) {known : Dict Text Text}, ((known.rows ++ tags).map Prod.fst).Nodup →
    (∀ tag ∈ tags, '=' ∉ tag.1) → ((tags.map format_tag).foldl parse_tag known).rows = known.rows ++ tags
  | [], known, _, _ => by simp
  | (key, value) :: rest, known, distinct, plain => by
    have fresh : key ∉ known.rows.map Prod.fst := by
      intro inside
      simp only [List.map_append, List.map_cons, List.nodup_append, List.mem_cons] at distinct
      exact distinct.2.2 key inside key (.inl rfl) rfl
    have put : (known.put key value).rows = known.rows ++ [(key, value)] := by
      simp only [Dict.put, Table.set, Table.insert]
      simp [fresh]
    have first : parse_tag known (format_tag (key, value)) = known.put key value :=
      parse_tag_format (plain (key, value) (by simp))
    rw [List.map_cons, List.foldl_cons, first, foldl_parse_tag rest, put, List.append_assoc, List.singleton_append]
    · rw [put, List.append_assoc, List.singleton_append]
      exact distinct
    · intro tag inside
      exact plain tag (by simp [inside])

/-- Keys that the parser can tell apart in a line. -/
def Separable (keys : List Text) : Prop :=
  keys ≠ [] ∧ keys.Nodup ∧ ∀ key ∈ keys, ';' ∉ key ∧ '=' ∉ key ∧ ' ' ∉ key
instance (keys : List Text) : Decidable (Separable keys) := inferInstanceAs (Decidable (_ ∧ _ ∧ _))

theorem PlainKeys.separable {keys : List Text} (plain : PlainKeys keys) : Separable keys := by
  obtain ⟨some, distinct, clean⟩ := plain
  refine ⟨some, distinct, ?_⟩
  intro key inside
  obtain ⟨semicolon, equal, space, _⟩ := clean key inside
  exact ⟨semicolon, equal, space⟩

theorem parse_tags_join {tags : List (Text × Text)} (separable : Separable (tags.map Prod.fst)) :
    parse_tags (Text.join [';'] (tags.map format_tag)) = ⟨tags, separable.2.1⟩ := by
  obtain ⟨some, distinct, clean⟩ := separable
  have parts : (Text.join [';'] (tags.map format_tag)).splitOn ';' = tags.map format_tag := by
    apply splitOn_join (by simpa using some)
    intro part inside
    obtain ⟨tag, listed, rfl⟩ := List.mem_map.mp inside
    have key := (clean tag.1 (List.mem_map_of_mem listed)).1
    rw [format_tag, List.mem_append, List.mem_append, List.mem_singleton]
    rintro ((here | here) | here)
    · exact key here
    · cases here
    · exact (mem_escape_tag_value here).1 rfl
  apply Table.ext
  rw [parse_tags, parts, foldl_parse_tag]
  · rfl
  · simpa using distinct
  · intro tag listed
    exact (clean tag.1 (List.mem_map_of_mem listed)).2.1

/-- Tags as the parser keeps them. -/
def dict (tags : List (Text × Text)) (plain : PlainKeys (tags.map Prod.fst)) : Dict Text Text := ⟨tags, plain.2.1⟩

/-- What joined tags are made of: their keys, the separators, and escaped values. -/
theorem mem_join_tags {tags : List (Text × Text)} {c : Char} (inside : c ∈ Text.join [';'] (tags.map format_tag)) :
    c = ';' ∨ c = '=' ∨ (∃ tag ∈ tags, c ∈ tag.1) ∨ ∃ tag ∈ tags, c ∈ escape_tag_value tag.2 := by
  rcases mem_join inside with separator | ⟨part, listed, here⟩
  · exact .inl (List.mem_singleton.mp separator)
  · obtain ⟨tag, known, rfl⟩ := List.mem_map.mp listed
    rw [format_tag, List.mem_append, List.mem_append, List.mem_singleton] at here
    rcases here with (key | equal) | value
    · exact .inr (.inr (.inl ⟨tag, known, key⟩))
    · exact .inr (.inl equal)
    · exact .inr (.inr (.inr ⟨tag, known, value⟩))

theorem no_space_in_tags {tags : List (Text × Text)} (separable : Separable (tags.map Prod.fst)) :
    ' ' ∉ Text.join [';'] (tags.map format_tag) := by
  intro inside
  rcases mem_join_tags inside with here | here | ⟨tag, listed, here⟩ | ⟨tag, listed, here⟩
  · cases here
  · cases here
  · exact (separable.2.2 tag.1 (List.mem_map_of_mem listed)).2.2 here
  · exact (mem_escape_tag_value here).2.1 rfl

theorem no_line_feed_in_tags {tags : List (Text × Text)} (plain : PlainKeys (tags.map Prod.fst)) : '\n' ∉ format_message_tags tags := by
  rw [format_message_tags, List.mem_cons, not_or]
  refine ⟨by decide, ?_⟩
  intro inside
  rcases mem_join_tags inside with here | here | ⟨tag, listed, here⟩ | ⟨tag, listed, here⟩
  · cases here
  · cases here
  · exact (plain.2.2 tag.1 (List.mem_map_of_mem listed)).2.2.2 here
  · exact (mem_escape_tag_value here).2.2.2 rfl

/-! ## A tagged line -/

theorem split_tags_tagged {tags : List (Text × Text)} (separable : Separable (tags.map Prod.fst)) (rest : Text) :
    split_tags (format_message_tags tags ++ ' ' :: rest) = some (⟨tags, separable.2.1⟩, rest) := by
  rw [split_tags, format_message_tags, if_pos (by rfl)]
  show (splitOnce [' '] (Text.join [';'] (tags.map format_tag) ++ ' ' :: rest)).map _ = _
  rw [splitOnce_char (no_space_in_tags separable), Option.map_some]
  dsimp only
  rw [parse_tags_join separable]

theorem parse_irc_line_tagged {tags : List (Text × Text)} (separable : Separable (tags.map Prod.fst)) (rest : Text) :
    parse_irc_line (format_message_tags tags ++ ' ' :: rest) = (split_source rest).map (fun (source, line) =>
      ⟨source, (split_params line).1, (split_params line).2, ⟨tags, separable.2.1⟩⟩) := by
  rw [parse_irc_line_eq, split_tags_tagged separable, Option.bind_some]

/-- The tags of a message, and of its replay. -/
theorem plain_metadata (message : StoredMessage) (replay : Bool) :
    PlainKeys ((metadata message ++ replay_tag replay).map Prod.fst) := by
  cases replay with
  | false =>
    show PlainKeys ["seq".toList, "msg-id".toList, "time".toList]
    decide
  | true =>
    show PlainKeys ["seq".toList, "msg-id".toList, "time".toList, "replay".toList]
    decide

/-- The keys of a task event. -/
theorem keys_task (message : StoredMessage) (task_id action status actor title : Text) :
    (metadata message ++ task_tags task_id action status actor ++ title_tag title).map Prod.fst =
      ["seq".toList, "msg-id".toList, "time".toList, "task-id".toList, "task-action".toList, "task-status".toList,
        "task-actor".toList] ++ if title.isEmpty then [] else ["task-title".toList] := by
  unfold title_tag
  split
  · rfl
  · rfl

theorem plain_task (message : StoredMessage) (task_id action status actor title : Text) :
    PlainKeys ((metadata message ++ task_tags task_id action status actor ++ title_tag title).map Prod.fst) := by
  rw [keys_task]
  split
  · decide
  · decide

/-! ## The first line of what is written -/

/-- A text up to its first line feed, as the client reads it when `"\r\n"` follows it. -/
def first_line (t : Text) : Text := ((t ++ ['\r']).takeWhile (fun c => c != '\n')).rdropWhile line_end

/-- A line is within what `readline` returns. -/
def Fits (line : ServerLine) : Prop := (encode (line.text ++ ['\r'])).length ≤ LIMIT
instance (line : ServerLine) : Decidable (Fits line) := inferInstanceAs (Decidable (_ ≤ _))

/-- The `Message` of what the client reads first of a line of the server. -/
def received (line : ServerLine) : Option Message :=
  (Lines.terminated 10 (ReaderLoop.written line)).head?.bind (fun bytes => (readline bytes).bind message)

theorem received_first (line : ServerLine) :
    received line = (readline (encode ((line.text ++ ['\r']).takeWhile (fun c => c != '\n')))).bind message := by
  have ends : encode ['\n'] = [10] := encode_singleton (by decide)
  have bytes : ReaderLoop.written line = encode (line.text ++ ['\r']) ++ 10 :: [] := by
    rw [ReaderLoop.written, ← ends, ← encode_append, List.append_assoc, List.cons_append, List.nil_append]
  have first : (encode (line.text ++ ['\r'])).takeWhile (fun b => b != 10) =
      encode ((line.text ++ ['\r']).takeWhile (fun c => c != '\n')) :=
    @takeWhile_encode '\n' (by decide) _
  rw [received, bytes, Lines.head_terminated, Option.bind_some, first]

theorem received_eq {line : ServerLine} (fits : Fits line) :
    received line = message (first_line line.text) := by
  have first : (encode (line.text ++ ['\r'])).takeWhile (fun b => b != 10) =
      encode ((line.text ++ ['\r']).takeWhile (fun c => c != '\n')) :=
    @takeWhile_encode '\n' (by decide) _
  have short : ¬ LIMIT < (encode ((line.text ++ ['\r']).takeWhile (fun c => c != '\n'))).length := by
    have whole : (encode (line.text ++ ['\r'])).length ≤ LIMIT := fits
    have initial := List.IsPrefix.length_le ( List.takeWhile_prefix (fun b => b != 10) (l := encode (line.text ++ ['\r'])))
    rw [first] at initial
    omega
  rw [received_first, readline, if_neg short, Option.bind_some, decoded, decodeReplace_encode, first_line]

/-- A message that is received is that of the first line. -/
theorem message_of_received {line : ServerLine} {msg : Message} (read : received line = some msg) :
    message (first_line line.text) = some msg := by
  rw [received_first, readline] at read
  split at read
  · cases read
  · rw [Option.bind_some, decoded, decodeReplace_encode] at read
    exact read

/-- The first line of a text goes on behind a character that does not end a line. -/
theorem first_line_behind {before after : Text} {last : Char} (clean : '\n' ∉ before) (ends : before.getLast? = some last)
    (kept : line_end last = false) : first_line (before ++ after) = before ++ first_line after := by
  have whole : ∀ c ∈ before, (c != '\n') = true := by
    intro c inside
    simp only [bne_iff_ne, ne_eq]
    rintro rfl
    exact clean inside
  rw [first_line, List.append_assoc, List.takeWhile_append_of_pos whole, rdropWhile_append ends kept, ← first_line]

theorem first_line_append {before after : Text} (clean : '\n' ∉ before) :
    first_line (before ++ ' ' :: after) = before ++ ' ' :: first_line after := by
  have parts : before ++ ' ' :: after = (before ++ [' ']) ++ after := by simp
  have clean' : '\n' ∉ before ++ [' '] := by simp [clean]
  rw [parts, first_line_behind clean' List.getLast?_concat (by decide)]
  simp

theorem first_line_tagged {tags : List (Text × Text)} (plain : PlainKeys (tags.map Prod.fst)) (rest : Text) :
    first_line (format_message_tags tags ++ [' '] ++ rest) = format_message_tags tags ++ ' ' :: first_line rest := by
  rw [List.append_assoc, List.singleton_append, first_line_append (no_line_feed_in_tags plain)]

/-- What is no blank does not end a line. -/
theorem line_end_of_visible {c : Char} (visible : rustSpace c = false) : line_end c = false := by
  simp only [line_end, Bool.or_eq_false_iff, beq_eq_false_iff_ne, ne_eq]
  refine ⟨?_, ?_⟩
  · rintro rfl
    cases visible
  · rintro rfl
    cases visible

/-! ## The words of a line -/

/-- What `message_of` makes a `Message` of. -/
def Conversation (command : Text) : Prop := command = "PRIVMSG".toList ∨ command = "NOTICE".toList
instance (command : Text) : Decidable (Conversation command) := inferInstanceAs (Decidable (_ ∨ _))

/-- The parameters of a line do not depend on its command. -/
theorem split_params_word (rest : Text) : ∃ params, ∀ word : Text, word ≠ [] → (∀ c ∈ word, pythonSpace c = false) →
    split_params (word ++ ' ' :: rest) = (upper word, params) := by
  have unspaced {word : Text} (clean : ∀ c ∈ word, pythonSpace c = false) : ' ' ∉ word := by
    intro inside
    have space := clean ' ' inside
    revert space
    decide
  cases split : splitOnce [' ', ':'] (' ' :: rest) with
  | none =>
    refine ⟨words pythonSpace rest, ?_⟩
    intro word nonempty clean
    rw [split_params, splitOnce_skip (unspaced clean), split]
    simp [words_append nonempty clean (by decide : pythonSpace ' ' = true)]
  | some parts =>
    obtain ⟨before, trailing⟩ := parts
    have begins : before = [] ∨ ∃ more, before = ' ' :: more := by
      rw [splitOnce] at split
      split at split
      · cases split; exact .inl rfl
      · obtain ⟨⟨more, _⟩, _, same⟩ := Option.map_eq_some_iff.mp split
        cases same
        exact .inr ⟨more, rfl⟩
    refine ⟨words pythonSpace before ++ if trailing.isEmpty then [] else [trailing], ?_⟩
    intro word nonempty clean
    rw [split_params, splitOnce_skip (unspaced clean), split]
    rcases begins with rfl | ⟨more, rfl⟩
    · simp [words_single nonempty clean]
    · simp [words_append nonempty clean (by decide : pythonSpace ' ' = true),
        words_cons (by decide : pythonSpace ' ' = true)]

/-! ## Two copies of a message -/

structure Agree (live replayed : Message) : Prop where
  seq : live.seq = replayed.seq
  channel : live.channel = replayed.channel
  sender : live.sender = replayed.sender
  content : live.content = replayed.content
  msg_id : live.tags.get "msg-id".toList = replayed.tags.get "msg-id".toList
  time : live.tags.get "time".toList = replayed.tags.get "time".toList
  live : live.is_replay = false
  replayed : replayed.is_replay = true

/-- Both exist and agree, or neither exists. -/
inductive CopiesAgree : Option Message → Option Message → Prop where
  | both {live replayed : Message} (agree : Agree live replayed) : CopiesAgree (some live) (some replayed)
  | neither : CopiesAgree none none

/-- Tags that carry a stored message. -/
structure Carries (tags : Dict Text Text) (message : StoredMessage) : Prop where
  seq : tags.get "seq".toList = some (decimal message.seq)
  msg_id : tags.get "msg-id".toList = some message.msg_id
  time : tags.get "time".toList = some (decimal message.created_at)

theorem carries_metadata {message : StoredMessage} {more : List (Text × Text)}
    (plain : PlainKeys ((metadata message ++ more).map Prod.fst)) : Carries (dict (metadata message ++ more) plain) message := by
  refine ⟨?_, ?_, ?_⟩
  · exact Dict.get_iff.mpr (by simp [dict, metadata])
  · exact Dict.get_iff.mpr (by simp [dict, metadata])
  · exact Dict.get_iff.mpr (by simp [dict, metadata])

theorem not_replay {tags : List (Text × Text)} (plain : PlainKeys (tags.map Prod.fst))
    (absent : "replay".toList ∉ tags.map Prod.fst ∧ "batch".toList ∉ tags.map Prod.fst) : is_replay (dict tags plain) = false := by
  have unknown {key : Text} (absent : key ∉ tags.map Prod.fst) : (dict tags plain).get key = none := by
    rw [Dict.get, Option.map_eq_none_iff, Table.find_none_iff]
    intro tag inside same
    exact absent (same ▸ List.mem_map_of_mem inside)
  rw [is_replay, unknown absent.1, unknown absent.2]
  rfl

theorem copies_agree_of_parsed {line line' : Text} {live replayed : IrcLine} {message : StoredMessage}
    (source : live.source = replayed.source) (params : live.params = replayed.params)
    (command : Conversation live.command ↔ Conversation replayed.command) (carries : Carries live.tags message)
    (carries' : Carries replayed.tags message) (first : is_replay live.tags = false) (again : is_replay replayed.tags = true) :
    CopiesAgree (message_of line live) (message_of line' replayed) := by
  rw [message_of, message_of, ← params]
  cases live.params with
  | nil => exact .neither
  | cons channel rest =>
    cases rest with
    | nil => exact .neither
    | cons content rest =>
      by_cases conversation : Conversation live.command
      · have conversation' := command.mp conversation
        simp only [Conversation] at conversation conversation'
        simp only [if_pos conversation, if_pos conversation']
        exact .both ⟨by rw [carries.seq, carries'.seq], rfl, by rw [source], rfl, by rw [carries.msg_id, carries'.msg_id],
          by rw [carries.time, carries'.time], first, again⟩
      · have conversation' : ¬ Conversation replayed.command := fun later => conversation (command.mpr later)
        simp only [Conversation] at conversation conversation'
        simp only [if_neg conversation, if_neg conversation']
        exact .neither

theorem message_tagged {tags : List (Text × Text)} (plain : PlainKeys (tags.map Prod.fst)) (rest : Text) :
    message (format_message_tags tags ++ ' ' :: rest) = (split_source rest).bind (fun (source, line) =>
      message_of (format_message_tags tags ++ ' ' :: rest)
        ⟨source, (split_params line).1, (split_params line).2, dict tags plain⟩) := by
  rw [message, parse_irc_line_tagged plain.separable]
  cases split_source rest with
  | none => rfl
  | some parts => rfl

theorem received_tagged {line : ServerLine} {tags : List (Text × Text)} {rest : Text}
    (text : line.text = format_message_tags tags ++ [' '] ++ rest) (plain : PlainKeys (tags.map Prod.fst))
    (fits : Fits line) :
    received line = message (format_message_tags tags ++ ' ' :: first_line rest) := by
  rw [received_eq fits, text, first_line_tagged plain]

/-- The prefix of a line, and what follows it. -/
theorem split_source_line {sender : Text} (unspaced : ' ' ∉ sender) (rest : Text) :
    split_source (':' :: sender ++ ' ' :: rest) = some (sender, rest) := by
  rw [split_source, List.cons_append, if_pos (by rfl), List.tail_cons, splitOnce_char unspaced]

/-- The message of a chat line and of its replay under the same name. -/
theorem chat_copies_agree {stored : StoredMessage} {sender : Text}
    (fits : Fits (ServerLine.Message stored sender false))
    (fits' : Fits (ServerLine.Message stored sender true)) :
    CopiesAgree (received (.Message stored sender false)) (received (.Message stored sender true)) := by
  have plain := plain_metadata stored false
  have plain' := plain_metadata stored true
  rw [received_tagged (text_message _ _ _) plain fits, received_tagged (text_message _ _ _) plain' fits', message_tagged plain,
    message_tagged plain']
  cases split_source (first_line (format_line sender ("PRIVMSG ".toList ++ stored.channel) stored.body)) with
  | none => exact .neither
  | some parts => exact copies_agree_of_parsed rfl rfl Iff.rfl (carries_metadata plain) (carries_metadata plain') rfl rfl

/-- The message of a task event and of its replay by the server. -/
theorem task_copies_agree {stored : StoredMessage} {task : Tasks.Task} {action status actor : Text} (same : stored.channel = task.channel)
    (fits : Fits (ServerLine.TaskEvent stored task action status actor))
    (fits' : Fits (ServerLine.Message stored SERVER_NAME true)) :
    CopiesAgree (received (.TaskEvent stored task action status actor)) (received (.Message stored SERVER_NAME true)) := by
  have plain := plain_task stored task.id action status actor task.title
  have plain' := plain_metadata stored true
  have line (word : Text) (clean : '\n' ∉ word) : first_line (format_line SERVER_NAME (word ++ ' ' :: stored.channel) stored.body) =
      ':' :: SERVER_NAME ++ ' ' :: (word ++ ' ' :: first_line (stored.channel ++ ' ' :: ':' :: stored.body)) := by
    have split : format_line SERVER_NAME (word ++ ' ' :: stored.channel) stored.body =
        (':' :: SERVER_NAME) ++ ' ' :: (word ++ ' ' :: (stored.channel ++ ' ' :: ':' :: stored.body)) := by
      simp [format_line]
    rw [split, first_line_append (by decide), first_line_append clean]
  have live := line "NOTICE".toList (by decide)
  have replayed := line "PRIVMSG".toList (by decide)
  obtain ⟨params, read⟩ := split_params_word (first_line (stored.channel ++ ' ' :: ':' :: stored.body))
  rw [received_tagged (text_task_event _ _ _ _ _) plain fits, received_tagged (text_message _ _ _) plain' fits', ← same]
  show CopiesAgree (message (_ ++ ' ' :: first_line (format_line SERVER_NAME ("NOTICE".toList ++ ' ' :: stored.channel) stored.body)))
    (message (_ ++ ' ' :: first_line (format_line SERVER_NAME ("PRIVMSG".toList ++ ' ' :: stored.channel) stored.body)))
  rw [live, replayed, message_tagged plain, message_tagged plain', split_source_line (by decide), split_source_line (by decide)]
  simp only [Option.bind_some, read "NOTICE".toList (by decide) (clean_of_any (by decide)),
    read "PRIVMSG".toList (by decide) (clean_of_any (by decide))]
  have both : Conversation (upper "NOTICE".toList) ↔ Conversation (upper "PRIVMSG".toList) := by decide
  have live_tags : Carries (dict _ plain) stored := by
    refine ⟨?_, ?_, ?_⟩
    · exact Dict.get_iff.mpr (by simp [dict, metadata])
    · exact Dict.get_iff.mpr (by simp [dict, metadata])
    · exact Dict.get_iff.mpr (by simp [dict, metadata])
  refine copies_agree_of_parsed rfl rfl both live_tags (carries_metadata plain') (not_replay plain ?_) rfl
  rw [keys_task]
  split
  · decide
  · decide

end Aircd.Client

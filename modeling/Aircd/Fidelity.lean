import Aircd.Parsing
import Aircd.Received
import Aircd.Sections

/-!
# A message on its way from one client to another

The line that `privmsg` broadcasts for a PRIVMSG, read by the reader loop of a
client. Four things stand between the stored message and the one that arrives:
an empty body, which the parser leaves out of the parameters; whitespace of Python
that is none of Rust, in the channel; a `!` in the nick; and the limit of `readline`.
-/
namespace Aircd.Client
open Aircd.Runs Aircd.Text Aircd.Utf8 Aircd.Daemon Aircd.Auth Aircd.History Aircd.Store Aircd.Protocol
open Aircd.Server (World Env SessionId ServerLine normalize_channel append_message broadcast_message metadata format_message_tags
  format_line text_message plain alice_and_bob person moment)

/-- Exactly one message has arrived, the stored one, with its tags and no others. -/
def Faithful (stored : StoredMessage) (nick : Text) (queue : List Message) : Prop :=
  ∃ message : Message, queue = [message] ∧ message.channel = stored.channel ∧ message.sender = nick ∧
    message.content = stored.body ∧ message.seq = some stored.seq ∧
    message.tags.rows = [("seq".toList, decimal stored.seq), ("msg-id".toList, stored.msg_id),
      ("time".toList, decimal stored.created_at)]

/-- The bytes of the line of a message before its line feed. -/
def size (stored : StoredMessage) (nick : Text) : Nat :=
  (encode (format_message_tags (metadata stored))).length + (encode nick).length + (encode stored.channel).length +
    (encode stored.body).length + 14

/-- What Rust and Python make of the message is the same, and it fits into a line. -/
def Transparent (stored : StoredMessage) (nick : Text) : Prop :=
  stored.body ≠ [] ∧ (∀ c ∈ stored.channel, pythonSpace c = false) ∧ '!' ∉ nick ∧ size stored nick ≤ LIMIT

/-! ## Reading one line -/

theorem received_clean {line : ServerLine} (clean : '\n' ∉ line.text) :
    received line = (readline (encode (line.text ++ ['\r']))).bind message := by
  have first : (Lines.terminated 10 (ReaderLoop.written line)).head? = some (encode (line.text ++ ['\r'])) := by
    rw [(ReaderLoop.pieces_written clean).1]
    rfl
  rw [received, first, Option.bind_some]

/-- What the loop puts into its queue for one line. -/
theorem message_queue_reads {line : ServerLine} (clean : '\n' ∉ line.text) (auto_reconnect : Bool) :
    (run ReaderLoop.step (ReaderLoop.start auto_reconnect) (ReaderLoop.reads (ReaderLoop.written line))).message_queue =
      (received line).toList := by
  rw [ReaderLoop.reads_written clean, received_clean clean, run_cons, run_nil]
  have turned (bytes : List UInt8) : ((ReaderLoop.start auto_reconnect).step (.line bytes true true)).message_queue =
      ((readline bytes).bind message).toList := by
    show ((ReaderLoop.start auto_reconnect).turn bytes true true).message_queue = _
    unfold ReaderLoop.turn
    cases readline bytes with
    | none => rfl
    | some line =>
      dsimp only
      rw [Option.bind_some, message]
      cases parse_irc_line line with
      | none => rfl
      | some parsed =>
        dsimp only
        rw [Option.bind_some]
        by_cases ping : parsed.command = "PING".toList
        · have ignored : message_of line parsed = none := by
            unfold message_of
            split
            · rw [if_neg (by rw [ping]; decide)]
            · rfl
          rw [if_pos ping, if_pos rfl, ignored]
          rfl
        · rw [if_neg ping]
          rfl
  exact turned _

/-- A text without line breaks at its end is read as it is. -/
theorem decoded_clean {t : Text} (ends : ∀ c, t.getLast? = some c → line_end c = false) :
    decoded (encode (t ++ ['\r'])) = t := by
  rw [decoded, decodeReplace_encode, List.rdropWhile_concat_pos _ _ _ (by rfl), List.rdropWhile_eq_self_iff]
  intro some
  rw [ends _ (List.getLast?_eq_some_getLast some)]
  decide

/-! ## A chat line -/

variable {stored : StoredMessage} {nick : Text}

/-- The parameters of a chat line. -/
theorem split_params_chat {channel body : Text} (starts : channel.head? = some '#') (unspaced : ' ' ∉ channel) :
    split_params ("PRIVMSG ".toList ++ channel ++ ' ' :: ':' :: body) =
      ("PRIVMSG".toList, words pythonSpace channel ++ if body.isEmpty then [] else [body]) := by
  have alone : ¬ [' ', ':'] <:+: "PRIVMSG ".toList ++ channel := Server.alone_privmsg starts unspaced
  have read : words pythonSpace ("PRIVMSG ".toList ++ channel) = "PRIVMSG".toList :: words pythonSpace channel :=
    @words_append pythonSpace "PRIVMSG".toList channel ' ' (by decide) (clean_of_any (by decide)) (by decide)
  rw [split_params, splitOnce_colon alone]
  simp only [Option.getD_some, read]
  rfl

theorem message_chat (starts : stored.channel.head? = some '#') (unspaced : ' ' ∉ stored.channel) (unspaced' : ' ' ∉ nick) :
    message (ServerLine.Message stored nick false).text =
      message_of (ServerLine.Message stored nick false).text ⟨nick, "PRIVMSG".toList,
        words pythonSpace stored.channel ++ if stored.body.isEmpty then [] else [stored.body],
        dict (metadata stored ++ Server.replay_tag false) (plain_metadata stored false)⟩ := by
  have text : (ServerLine.Message stored nick false).text = format_message_tags (metadata stored ++ Server.replay_tag false) ++
      ' ' :: (':' :: nick ++ ' ' :: ("PRIVMSG ".toList ++ stored.channel ++ ' ' :: ':' :: stored.body)) := by
    rw [text_message]
    simp [format_line]
  rw [text, message_tagged (plain_metadata stored false), split_source_line unspaced', Option.bind_some]
  dsimp only
  rw [split_params_chat starts unspaced]

theorem extract_nick_iff (nick : Text) : extract_nick nick = nick ↔ '!' ∉ nick := by
  constructor
  · intro same inside
    obtain ⟨before, after, rfl, clean⟩ := List.eq_append_cons_of_mem inside
    rw [extract_nick, splitOnce_char clean] at same
    simp at same
  · intro clean
    have whole : splitOnce ['!'] nick = none := by
      rw [splitOnce_none_iff (by decide)]
      intro inside
      exact clean (inside.subset List.mem_cons_self)
    rw [extract_nick, whole]
    rfl

theorem message_of_some {line : Text} {parsed : IrcLine} {message : Message} (made : message_of line parsed = some message) :
    message.sender = extract_nick parsed.source ∧ ∃ rest, parsed.params = message.channel :: message.content :: rest := by
  unfold message_of at made
  split at made
  · next channel content rest params =>
    split at made
    · cases made
      exact ⟨rfl, rest, params⟩
    · cases made
  · cases made

/-- What the chat line is a message of. -/
theorem faithful_message_iff (starts : stored.channel.head? = some '#') (unspaced : ' ' ∉ stored.channel) (unspaced' : ' ' ∉ nick) :
    Faithful stored nick (message (ServerLine.Message stored nick false).text).toList ↔
      stored.body ≠ [] ∧ (∀ c ∈ stored.channel, pythonSpace c = false) ∧ '!' ∉ nick := by
  rw [message_chat starts unspaced unspaced']
  constructor
  · rintro ⟨arrived, queue, channel, sender, content, _⟩
    rw [Option.toList_eq_singleton_iff] at queue
    obtain ⟨sent, rest, params⟩ := message_of_some queue
    rw [channel, content] at params
    have clean : ∀ c ∈ stored.channel, pythonSpace c = false := by
      cases read : words pythonSpace stored.channel with
      | nil =>
        rw [read] at params
        by_cases empty : stored.body.isEmpty = true
        · simp [empty] at params
        · simp [empty] at params
      | cons word more =>
        rw [read, List.cons_append, List.cons.injEq] at params
        have listed : word ∈ words pythonSpace stored.channel := read ▸ List.mem_cons_self
        intro c inside
        exact ((mem_words listed).2 c (params.1 ▸ inside)).1
    refine ⟨?_, clean, (extract_nick_iff nick).mp (sent.symm.trans sender)⟩
    intro empty
    have channel : stored.channel ≠ [] := by
      intro none
      rw [none] at starts
      cases starts
    rw [words_single channel clean, empty] at params
    simp at params
  · rintro ⟨nonempty, clean, bang⟩
    have channel : stored.channel ≠ [] := by
      rintro empty
      rw [empty] at starts
      cases starts
    have body : stored.body.isEmpty = false := by simpa using nonempty
    rw [words_single channel clean, body]
    refine ⟨_, rfl, rfl, (extract_nick_iff nick).mpr bang, rfl, ?_, rfl⟩
    rw [(carries_metadata (plain_metadata stored false)).seq]
    exact pythonInt_decimal stored.seq

/-! ## A PRIVMSG -/

theorem normalize_channel_spec {target : Text} (unspaced : ∀ c ∈ target, rustSpace c = false) :
    (normalize_channel target).head? = some '#' ∧ ∀ c ∈ normalize_channel target, rustSpace c = false := by
  have kept : ∀ c ∈ trim target, rustSpace c = false := by
    intro c inside
    have shorter := List.rdropWhile_prefix (l := target.dropWhile rustSpace) rustSpace
    exact unspaced c (List.dropWhile_subset rustSpace (shorter.subset inside))
  unfold normalize_channel
  dsimp only
  split
  · next starts => exact ⟨starts, kept⟩
  split
  · exact ⟨rfl, clean_of_any (by decide)⟩
  · refine ⟨rfl, ?_⟩
    intro c inside
    rcases List.mem_cons.mp inside with rfl | inside
    · decide
    · exact kept c inside

/-- The text of a chat line before its body. -/
theorem text_chat (stored : StoredMessage) (nick : Text) : (ServerLine.Message stored nick false).text =
    format_message_tags (metadata stored) ++ " :".toList ++ nick ++ " PRIVMSG ".toList ++ stored.channel ++ " :".toList ++ stored.body := by
  rw [text_message]
  simp [format_line, Server.replay_tag]

theorem length_chat (stored : StoredMessage) (nick : Text) :
    (encode ((ServerLine.Message stored nick false).text ++ ['\r'])).length = size stored nick := by
  have first : (encode " :".toList).length = 2 := by decide
  have second : (encode " PRIVMSG ".toList).length = 9 := by decide
  have last : (encode ['\r']).length = 1 := by decide
  rw [text_chat]
  simp only [encode_append, List.length_append, first, second, last, size]
  omega

/-- A stored message whose channel, nick and body come from lines of words. -/
theorem faithful_iff (starts : stored.channel.head? = some '#') (channel : ∀ c ∈ stored.channel, rustSpace c = false)
    (unspaced : ∀ c ∈ nick, rustSpace c = false) (whole : '\n' ∉ stored.body)
    (ends : ∀ c, stored.body.getLast? = some c → rustSpace c = false) (auto_reconnect : Bool) :
    Faithful stored nick (run ReaderLoop.step (ReaderLoop.start auto_reconnect)
        (ReaderLoop.reads (ReaderLoop.written (.Message stored nick false)))).message_queue ↔ Transparent stored nick := by
  have visible {t : Text} {c : Char} (clean : ∀ c ∈ t, rustSpace c = false) (space : rustSpace c = true) : c ∉ t := by
    intro inside
    rw [clean c inside] at space
    cases space
  have clean : '\n' ∉ (ServerLine.Message stored nick false).text := by
    have tags : '\n' ∉ format_message_tags (metadata stored) := by
      have plain := plain_metadata stored false
      rw [Server.replay_tag, if_neg (by decide), List.append_nil] at plain
      exact no_line_feed_in_tags plain
    rw [text_chat]
    simp [tags, visible unspaced (by decide : rustSpace '\n' = true), visible channel (by decide : rustSpace '\n' = true), whole]
  have last : ∀ c, (ServerLine.Message stored nick false).text.getLast? = some c → line_end c = false := by
    intro c here
    rw [text_chat] at here
    by_cases empty : stored.body = []
    · rw [empty, List.append_nil, List.getLast?_append_of_ne_nil _ (by decide)] at here
      cases here
      decide
    · rw [List.getLast?_append_of_ne_nil _ empty] at here
      exact line_end_of_visible (ends c here)
  rw [message_queue_reads clean, received_clean clean, readline, length_chat, decoded_clean last]
  by_cases fits : size stored nick ≤ LIMIT
  · rw [if_neg (by omega), Option.bind_some, faithful_message_iff starts
      (visible channel (by decide)) (visible unspaced (by decide))]
    simp [Transparent, fits]
  · rw [if_pos (by omega), Option.bind_none]
    constructor
    · rintro ⟨_, none, _⟩
      cases none
    · rintro ⟨_, _, _, short⟩
      exact absurd short fits

/-- A line without a line feed, parsed as a PRIVMSG of a member, reaches the queue of
    a client as the stored message exactly when the message is transparent. -/
theorem message_fidelity_iff (w : World) (env : Env) (sid : SessionId) (principal : Principal) (line target body : Text)
    (auto_reconnect : Bool) (framed : '\n' ∉ line) (command : parse_command line = .Privmsg target body)
    (member : is_member w.db principal.id (normalize_channel target) = true)
    (unspaced : ∀ c ∈ principal.nick, rustSpace c = false) :
    let appended := append_message w env (normalize_channel target) principal.id body
    let stored := appended.2
    let sent : ServerLine := .Message stored principal.nick false
    Server.privmsg w env sid principal (normalize_channel target) body =
      broadcast_message appended.1 stored.channel sent stored.seq ∧
    (Faithful stored principal.nick (run ReaderLoop.step (ReaderLoop.start auto_reconnect)
        (ReaderLoop.reads (ReaderLoop.written sent))).message_queue ↔
      Transparent stored principal.nick) := by
  intro appended stored sent
  have parsed := parsed_command line
  rw [command] at parsed
  obtain ⟨word, rest⟩ := parsed
  obtain ⟨starts, channel⟩ := normalize_channel_spec (fun c inside => unspaced_of_word word inside)
  refine ⟨?_, faithful_iff starts channel unspaced ?_ (fun c last => last_of_rest rest last) auto_reconnect⟩
  · simp only [Server.privmsg, if_pos member]
    rfl
  · intro inside
    have trimmed := break_of_rest rest inside (by decide) (by decide)
    have shorter := List.rdropWhile_prefix rustSpace (l := line.dropWhile rustSpace)
    exact framed (List.dropWhile_subset rustSpace (shorter.subset trimmed))

theorem transparent_hello :
    let w := Server.start Concurrent.both_in_c
    let appended := append_message w (moment 7) (normalize_channel "c".toList) "alice".toList "hello: a=b;c".toList
    Faithful appended.2 "alice".toList (run ReaderLoop.step (ReaderLoop.start true)
        (ReaderLoop.reads (ReaderLoop.written (.Message appended.2 "alice".toList false)))).message_queue ↔
      Transparent appended.2 "alice".toList :=
  (message_fidelity_iff (Server.start Concurrent.both_in_c) (moment 7) 0 ⟨"alice".toList, "alice".toList, none⟩
    "PRIVMSG c :hello: a=b;c".toList "c".toList "hello: a=b;c".toList true (by decide) (by decide) (by decide)
    (clean_of_any (by decide))).2

/-- An empty message is stored and broadcast, and never arrives. -/
theorem empty_message_dropped :
    let w := Server.start Concurrent.both_in_c
    let appended := append_message w (moment 7) (normalize_channel "c".toList) "alice".toList []
    parse_command "PRIVMSG c :".toList = .Privmsg "c".toList [] ∧
    is_member w.db "alice".toList (normalize_channel "c".toList) = true ∧
    ¬ Faithful appended.2 "alice".toList (run ReaderLoop.step (ReaderLoop.start true)
      (ReaderLoop.reads (ReaderLoop.written (.Message appended.2 "alice".toList false)))).message_queue := by
  intro w appended
  have nothing : (run ReaderLoop.step (ReaderLoop.start true)
      (ReaderLoop.reads (ReaderLoop.written (.Message appended.2 "alice".toList false)))).message_queue = [] := by
    decide +kernel
  refine ⟨by decide, by decide, ?_⟩
  rintro ⟨_, one, _⟩
  rw [nothing] at one
  cases one

end Aircd.Client

import Aircd.Client
import Aircd.Parsing

/-!
# The lines of a client, as the server reads them

What `lines.next_line()` returns for the bytes of a connection, and the commands
that `parse_command` makes of them. One call of the client is one command of the
server as long as its text has no line feed, which `_send` neither refuses nor
escapes, and no surrogate, which it refuses.
-/
namespace Aircd.Server
open Aircd.Text Aircd.Utf8 Aircd.Protocol

/-- The lines of a stream that ends; `none` is the error for a line that is not UTF-8. -/
def lines (stream : List UInt8) : List (Option Text) := (Lines.frames 10 13 stream).map decode

def commands (stream : List UInt8) : List (Option Command) := (lines stream).map (Option.map parse_command)

/-! ## One line -/

theorem lines_encode (t : Text) : lines (encode t) = (Lines.frames '\n' '\r' t).map some := by
  have framed : Lines.frames 10 13 (encode t) = (Lines.frames '\n' '\r' t).map encode :=
    @frames_encode '\n' '\r' (by decide) (by decide) t
  rw [lines, framed, List.map_map]
  apply List.map_congr_left
  intro line _
  exact decode_encode line

theorem commands_line {line : Text} (clean : '\n' ∉ line) :
    commands (encode (line ++ ['\r', '\n'])) = [some (parse_command line)] := by
  rw [commands, lines_encode, Lines.frames_line (by decide) clean]
  rfl

theorem commands_line_broken {line : Text} (broken : '\n' ∈ line) : 1 < (commands (encode (line ++ ['\r', '\n']))).length := by
  rw [commands, lines_encode, List.length_map, List.length_map]
  exact Lines.one_lt_length_frames broken

/-- What is written of a line is one command when the line is encoded and not broken. -/
theorem one_command_iff {line : PyString} {command : Command} :
    commands (Client.written line) = [some command] ↔
      line.Encodable ∧ '\n' ∉ line.text ∧ parse_command line.text = command := by
  by_cases encodable : line.Encodable
  · rw [Client.written, Client.send_encodable encodable, Option.getD_some]
    by_cases broken : '\n' ∈ line.text
    · refine iff_of_false ?_ (fun whole => whole.2.1 broken)
      intro single
      have several := commands_line_broken broken
      rw [single] at several
      simp at several
    · rw [commands_line broken]
      simp [broken, encodable]
  · rw [Client.written, Client.send_unencodable encodable, Option.getD_none]
    refine iff_of_false ?_ (fun whole => encodable whole.1)
    intro single
    cases single

/-! ## One command -/

section
variable {t text : Text}

theorem alone_privmsg (channel : t.head? = some '#') (unspaced : ' ' ∉ t) : ¬ [' ', ':'] <:+: "PRIVMSG ".toList ++ t := by
  obtain ⟨rest, rfl⟩ := List.head?_eq_some_iff.mp channel
  have later := no_colon_of_no_space unspaced
  simp [List.infix_cons_iff] at later ⊢
  exact later

theorem parse_privmsg (channel : t.head? = some '#') (unspaced : ∀ c ∈ t, rustSpace c = false) :
    parse_command ("PRIVMSG ".toList ++ t ++ [' ', ':'] ++ text) = .Privmsg t (text.rdropWhile rustSpace) := by
  obtain ⟨rest, rfl⟩ := List.head?_eq_some_iff.mp channel
  have alone := alone_privmsg channel (space_of_rustSpace unspaced)
  have read : splitWhitespace ("PRIVMSG ".toList ++ '#' :: rest) = ["PRIVMSG".toList, '#' :: rest] := by
    have first := @words_append rustSpace "PRIVMSG".toList ('#' :: rest) ' ' (by decide) (clean_of_any (by decide)) (by decide)
    rw [words_single (by simp) unspaced] at first
    exact first
  have split := @split_trailing_of_words _ text 'P' rfl (by decide) alone
  have whole : "PRIVMSG ".toList ++ '#' :: rest ++ [' ', ':'] ++ text = "PRIVMSG ".toList ++ '#' :: rest ++ ' ' :: ':' :: text := by
    simp
  rw [whole, parse_command]
  simp only [split, read, List.head?_cons, List.tail_cons, Option.getD_some]
  rw [if_neg (by decide), if_neg (by decide), if_neg (by decide), if_neg (by decide), if_neg (by decide), if_pos (by decide)]

theorem parse_task_create (channel : t.head? = some '#') (unspaced : ∀ c ∈ t, rustSpace c = false) :
    parse_command ("TASK CREATE ".toList ++ t ++ [' ', ':'] ++ text) = .TaskCreate t (text.rdropWhile rustSpace) := by
  obtain ⟨rest, rfl⟩ := List.head?_eq_some_iff.mp channel
  have alone : ¬ [' ', ':'] <:+: "TASK CREATE ".toList ++ '#' :: rest := by
    have later := no_colon_of_no_space (space_of_rustSpace unspaced)
    simp [List.infix_cons_iff] at later ⊢
    exact later
  have read : splitWhitespace ("TASK CREATE ".toList ++ '#' :: rest) = ["TASK".toList, "CREATE".toList, '#' :: rest] := by
    have first := @words_append rustSpace "TASK".toList ("CREATE ".toList ++ '#' :: rest) ' ' (by decide)
      (clean_of_any (by decide)) (by decide)
    have second := @words_append rustSpace "CREATE".toList ('#' :: rest) ' ' (by decide) (clean_of_any (by decide)) (by decide)
    rw [words_single (by simp) unspaced] at second
    exact first.trans (congrArg _ second)
  have split := @split_trailing_of_words _ text 'T' rfl (by decide) alone
  have whole : "TASK CREATE ".toList ++ '#' :: rest ++ [' ', ':'] ++ text =
      "TASK CREATE ".toList ++ '#' :: rest ++ ' ' :: ':' :: text := by
    simp
  rw [whole, parse_command]
  simp only [split, read, List.head?_cons, List.tail_cons, Option.getD_some]
  rw [if_neg (by decide), if_neg (by decide), if_neg (by decide), if_neg (by decide), if_neg (by decide), if_neg (by decide),
    if_neg (by decide), if_neg (by decide), if_neg (by decide), if_neg (by decide), if_neg (by decide), if_neg (by decide),
    if_pos (by decide), parse_task]
  simp only [List.getElem?_cons_succ, List.getElem?_cons_zero, Option.getD_some]
  rw [if_pos (by decide)]

end

/-! ## One call -/

/-- The body is the text without some of the whitespace at its end. -/
def UpToTrailing (body : Text) (text : PyString) : Prop :=
  ∃ spaces, text = PyString.ofText (body ++ spaces) ∧ ∀ c ∈ spaces, rustSpace c = true

/-- The bytes are written, and read as exactly one command, which carries the text. -/
def OneCommand (sent : Option (List UInt8)) (command : Text → Command) (text : PyString) : Prop :=
  ∃ bytes body, sent = some bytes ∧ commands bytes = [some (command body)] ∧ UpToTrailing body text

theorem upToTrailing_rdropWhile {text : PyString} (encodable : text.Encodable) : UpToTrailing (text.text.rdropWhile rustSpace) text := by
  refine ⟨text.text.rtakeWhile rustSpace, ?_, ?_⟩
  · rw [List.rdropWhile_append_rtakeWhile, PyString.ofText_text encodable]
  · intro c inside
    exact List.mem_rtakeWhile_imp inside

/-- A line that ends with the text of a call is one command unless the text has a line feed, or the line a surrogate. -/
theorem oneCommand_iff {head text : PyString} {command : Text → Command} (clean : '\n' ∉ head.text)
    (parse : parse_command (head.text ++ text.text) = command (text.text.rdropWhile rustSpace)) :
    OneCommand (Client.send (head ++ text)) command text ↔ '\n' ∉ text.text ∧ head.Encodable ∧ text.Encodable := by
  have one := @one_command_iff (head ++ text)
  rw [PyString.encodable_append, PyString.text_append] at one
  constructor
  · rintro ⟨bytes, body, sent, single, _⟩
    rw [Client.written, sent, Option.getD_some] at one
    obtain ⟨encodable, unbroken, _⟩ := one.mp single
    exact ⟨fun inside => unbroken (List.mem_append_right _ inside), encodable⟩
  · rintro ⟨whole, encodable⟩
    have sent := Client.send_encodable (PyString.encodable_append.mpr encodable)
    refine ⟨_, text.text.rdropWhile rustSpace, sent, ?_, upToTrailing_rdropWhile encodable.2⟩
    rw [Client.written, sent, Option.getD_some] at one
    exact one.mpr ⟨encodable, by simp [clean, whole], parse⟩

/-- One call of `privmsg`, and of `task_create`, is one command of the server exactly
    when its text has no line feed and neither argument has a surrogate. -/
theorem one_call_one_command_iff (t text : PyString) (channel : t.head? = some (.scalar '#'))
    (unspaced : ∀ c, .scalar c ∈ t → rustSpace c = false) :
    (OneCommand (Client.privmsg t text) (.Privmsg t.text) text ↔ .scalar '\n' ∉ text ∧ t.Encodable ∧ text.Encodable) ∧
    (OneCommand (Client.task_create t text) (.TaskCreate t.text) text ↔ .scalar '\n' ∉ text ∧ t.Encodable ∧ text.Encodable) := by
  have named : t.text.head? = some '#' := by
    obtain ⟨rest, rfl⟩ := List.head?_eq_some_iff.mp channel
    rfl
  have visible : ∀ c ∈ t.text, rustSpace c = false := fun c inside => unspaced c (PyString.mem_text.mp inside)
  have target : '\n' ∉ t.text := by
    intro inside
    have space := visible '\n' inside
    revert space
    decide
  rw [← PyString.mem_text]
  constructor
  · have one := @oneCommand_iff (PyString.lit "PRIVMSG " ++ t ++ PyString.lit " :") text (.Privmsg t.text) (by simp [target])
      (by simpa using parse_privmsg named visible)
    simpa [Client.privmsg] using one
  · have one := @oneCommand_iff (PyString.lit "TASK CREATE " ++ t ++ PyString.lit " :") text (.TaskCreate t.text) (by simp [target])
      (by simpa using parse_task_create named visible)
    simpa [Client.task_create] using one

theorem one_call_one_command_hello :
    (OneCommand (Client.privmsg (.lit "#demo") (.lit "hello: all ")) (.Privmsg (PyString.lit "#demo").text) (.lit "hello: all ") ↔
      .scalar '\n' ∉ PyString.lit "hello: all " ∧ (PyString.lit "#demo").Encodable ∧ (PyString.lit "hello: all ").Encodable) ∧
    (OneCommand (Client.task_create (.lit "#demo") (.lit "hello: all ")) (.TaskCreate (PyString.lit "#demo").text) (.lit "hello: all ") ↔
      .scalar '\n' ∉ PyString.lit "hello: all " ∧ (PyString.lit "#demo").Encodable ∧ (PyString.lit "hello: all ").Encodable) :=
  one_call_one_command_iff (.lit "#demo") (.lit "hello: all ") rfl (by
    intro c inside
    have unspaced : ∀ c ∈ (PyString.lit "#demo").text, rustSpace c = false := clean_of_any (by decide)
    exact unspaced c (PyString.mem_text.mpr inside))

/-- A message with a second line makes the server claim a task, and one with a surrogate is not written. -/
theorem message_claims_task :
    (Client.privmsg (.lit "#demo") (.lit "hi\nTASK CLAIM t1")).map commands =
      some [some (.Privmsg "#demo".toList "hi".toList), some (.TaskClaim "t1".toList)] ∧
    ¬ OneCommand (Client.privmsg (.lit "#demo") (.lit "hi\nTASK CLAIM t1")) (.Privmsg "#demo".toList) (.lit "hi\nTASK CLAIM t1") ∧
    Client.privmsg (.lit "#demo") [.surrogate 0] = none ∧
    ¬ OneCommand (Client.privmsg (.lit "#demo") [.surrogate 0]) (.Privmsg "#demo".toList) [.surrogate 0] := by
  have two : (Client.privmsg (.lit "#demo") (.lit "hi\nTASK CLAIM t1")).map commands =
      some [some (.Privmsg "#demo".toList "hi".toList), some (.TaskClaim "t1".toList)] := by
    decide +kernel
  have raised : Client.privmsg (.lit "#demo") [.surrogate 0] = none := by decide
  refine ⟨two, ?_, raised, ?_⟩
  · rintro ⟨bytes, body, sent, single, _⟩
    rw [sent, Option.map_some, single] at two
    simp at two
  · rintro ⟨bytes, body, sent, _, _⟩
    rw [raised] at sent
    cases sent

end Aircd.Server

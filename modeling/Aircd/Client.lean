import Aircd.Message
import Aircd.Strings

/-!
# The client

What `client.py` writes and how it reads a line: the parser of IRC lines with its
tags, and the `Message` that it makes of a PRIVMSG or a NOTICE. An index that is
not found raises ValueError, which is `none` here.
-/
namespace Aircd.Client
open Aircd.Text Aircd.Utf8 Aircd.Daemon
open Aircd.PyString (lit)

/-! ## Writing -/

/-- The bytes that `_send` writes, unless its encoder raises. -/
def send (line : PyString) : Option (List UInt8) := (line ++ PyString.ofText ['\r', '\n']).encode

/-- What `_send` adds to the stream: nothing when it raises. -/
def written (line : PyString) : List UInt8 := (send line).getD []

def privmsg (target text : PyString) : Option (List UInt8) := send (lit "PRIVMSG " ++ target ++ lit " :" ++ text)

def task_create (channel title : PyString) : Option (List UInt8) := send (lit "TASK CREATE " ++ channel ++ lit " :" ++ title)

variable {line : PyString}

theorem send_encodable (encodable : line.Encodable) : send line = some (encode (line.text ++ ['\r', '\n'])) := by
  rw [send, PyString.encode, if_pos]
  · simp
  · simp [encodable]

theorem send_unencodable (unencodable : ¬ line.Encodable) : send line = none := by
  rw [send, PyString.encode, if_neg]
  simp [unencodable]

/-! ## Reading -/

/-- A character after a backslash. -/
def unescaped (escaped : Char) : Char :=
  if escaped = ':' then ';'
  else if escaped = 's' then ' '
  else if escaped = '\\' then '\\'
  else if escaped = 'r' then '\r'
  else if escaped = 'n' then '\n'
  else escaped

def unescape_tag_value : Text → Text
  | [] => []
  | [character] => [character]
  | character :: escaped :: rest =>
    if character = '\\' then unescaped escaped :: unescape_tag_value rest
    else character :: unescape_tag_value (escaped :: rest)

/-- One part of the tags, put under its key. -/
def parse_tag (tags : Dict Text Text) (part : Text) : Dict Text Text :=
  match splitOnce ['='] part with
  | some (key, value) => tags.put key (unescape_tag_value value)
  | none => tags.put part []

def parse_tags (tag_str : Text) : Dict Text Text := (tag_str.splitOn ';').foldl parse_tag Table.empty

/-- What `upper` makes of a character. Of the others, no uppercase is ASCII, and no
    comparison with a command sees them. -/
def upper_char (c : Char) : Text :=
  if c = 'ß' then "SS".toList
  else if c = 'ı' then "I".toList
  else if c = 'ſ' then "S".toList
  else if c = 'ﬀ' then "FF".toList
  else if c = 'ﬁ' then "FI".toList
  else if c = 'ﬂ' then "FL".toList
  else if c = 'ﬃ' then "FFI".toList
  else if c = 'ﬄ' then "FFL".toList
  else if c = 'ﬅ' ∨ c = 'ﬆ' then "ST".toList
  else [asciiUpper c]

def upper (t : Text) : Text := t.flatMap upper_char

structure IrcLine where
  source : Text
  command : Text
  params : List Text
  tags : Dict Text Text

/-- The tags of a line, and the line without them. -/
def split_tags (line : Text) : Option (Dict Text Text × Text) :=
  if line.head? = some '@' then (splitOnce [' '] line.tail).map (fun (tag_str, rest) => (parse_tags tag_str, rest))
  else some (Table.empty, line)

/-- The prefix of a line, and the line without it. -/
def split_source (line : Text) : Option (Text × Text) :=
  if line.head? = some ':' then splitOnce [' '] line.tail else some ([], line)

/-- The command and the parameters; an empty trailing one is left out. -/
def split_params (line : Text) : Text × List Text :=
  let (line, trailing) := (splitOnce [' ', ':'] line).getD (line, [])
  let parts := words pythonSpace line
  (upper (parts.head?.getD []), parts.tail ++ if trailing.isEmpty then [] else [trailing])

def parse_irc_line (line : Text) : Option IrcLine := do
  let (tags, line) ← split_tags line
  let (source, line) ← split_source line
  let (command, params) := split_params line
  return ⟨source, command, params, tags⟩

theorem parse_irc_line_eq (line : Text) : parse_irc_line line = (split_tags line).bind (fun (tags, line) =>
    (split_source line).map (fun (source, line) => ⟨source, (split_params line).1, (split_params line).2, tags⟩)) := by
  have parse : parse_irc_line line = (split_tags line).bind (fun (tags, line) => (split_source line).bind (fun (source, line) =>
      some ⟨source, (split_params line).1, (split_params line).2, tags⟩)) := rfl
  rw [parse]
  cases split_tags line with
  | none => rfl
  | some tagged =>
    obtain ⟨tags, rest⟩ := tagged
    rw [Option.bind_some, Option.bind_some]
    dsimp only
    cases split_source rest <;> rfl

theorem parse_irc_line_untagged {line : Text} (untagged : line.head? ≠ some '@') :
    parse_irc_line line = (split_source line).map (fun (source, line) =>
      ⟨source, (split_params line).1, (split_params line).2, Table.empty⟩) := by
  rw [parse_irc_line_eq, split_tags, if_neg untagged, Option.bind_some]

def extract_nick (source : Text) : Text := ((splitOnce ['!'] source).map Prod.fst).getD source

def is_replay (tags : Dict Text Text) : Bool := tags.get "replay".toList == some "1".toList || (tags.get "batch".toList).isSome

/-- The `Message` of a parsed line. -/
def message_of (line : Text) (parsed : IrcLine) : Option Message :=
  match parsed.params with
  | channel :: content :: _ =>
    if parsed.command = "PRIVMSG".toList ∨ parsed.command = "NOTICE".toList then
      some ⟨(parsed.tags.get "seq".toList).bind pythonInt, channel, extract_nick parsed.source, content, line, parsed.tags,
        is_replay parsed.tags⟩
    else none
  | _ => none

/-- The `Message` of a line that is read, if it parses and has one. -/
def message (line : Text) : Option Message := (parse_irc_line line).bind (message_of line)

/-- The limit of `StreamReader`, in bytes before the line feed. -/
def LIMIT : Nat := 65536

def line_end (c : Char) : Bool := c == '\r' || c == '\n'

/-- `data.decode("utf-8", errors="replace").rstrip("\r\n")`. -/
def decoded (bytes : List UInt8) : Text := (decodeReplace bytes).rdropWhile line_end

/-- `_readline` on the bytes before a line feed; above the limit it raises ValueError. -/
def readline (bytes : List UInt8) : Option Text := if LIMIT < bytes.length then none else some (decoded bytes)

end Aircd.Client

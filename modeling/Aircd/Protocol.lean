import Aircd.Text

/-! The commands of the wire protocol and their parser, `protocol.rs`. -/
namespace Aircd.Protocol
open Aircd.Text

inductive Command where
  | Pass (token : Text)
  | Nick (nick : Text)
  | User (user : Text)
  | Join (channel : Text)
  | Part (channel : Text)
  | Privmsg (target body : Text)
  | Ping (token : Text)
  | Pong
  | Quit
  | Cap (subcommand : Text) (capabilities : List Text)
  | History (channel : Option Text) (after_seq limit : Int)
  | TaskCreate (channel title : Text)
  | TaskClaim (task_id : Text)
  | TaskDone (task_id : Text)
  | TaskRelease (task_id : Text)
  | TaskList (channel : Text)
  | Unknown (name : Text)
  deriving DecidableEq, Repr

def strip_tags_and_prefix (line : Text) : Text :=
  let without_tags :=
    if line.head? = some '@' then ((splitOnce [' '] line).map Prod.snd).getD line else line
  if without_tags.head? = some ':' then
    ((splitOnce [' '] without_tags).map Prod.snd).getD without_tags
  else without_tags

def split_trailing (line : Text) : Text × Option Text :=
  match splitOnce [' ', ':'] line with
  | some (head, trailing) => (head, some trailing)
  | none => (line, none)

/-- An argument read as a number, with the default for an absent or unreadable one. -/
def number (part : Option Text) (default : Int) : Int := (part.bind parseI64).getD default

def parse_chathistory (parts : List Text) : Command :=
  if parts.head?.any (fun part => toAsciiUppercase part = "AFTER".toList) then
    if (parts[1]?).any (fun value => value.head? = some '#') then
      .History parts[1]? (number parts[2]? 0) (number parts[3]? 100)
    else
      .History none (number parts[1]? 0) (number parts[2]? 100)
  else
    .History parts.head? (number parts[1]? 0) (number parts[2]? 100)

def parse_task (parts : List Text) (trailing : Option Text) : Command :=
  match parts with
  | [] => .Unknown "TASK".toList
  | part :: _ =>
    let action := toAsciiUppercase part
    let argument := parts[1]?.getD []
    if action = "CREATE".toList then .TaskCreate argument (trailing.getD (join [' '] (parts.drop 2)))
    else if action = "CLAIM".toList then .TaskClaim argument
    else if action = "DONE".toList then .TaskDone argument
    else if action = "RELEASE".toList then .TaskRelease argument
    else if action = "LIST".toList then .TaskList argument
    else .Unknown ("TASK ".toList ++ action)

def parse_command (line : Text) : Command :=
  let line := strip_tags_and_prefix (trim line)
  let (head, trailing) := split_trailing line
  let words := splitWhitespace head
  let verb := toAsciiUppercase (words.head?.getD [])
  let parts := words.tail
  let first := parts.head?.getD []
  if verb = "PASS".toList then .Pass (join [' '] parts)
  else if verb = "NICK".toList then .Nick first
  else if verb = "USER".toList then .User first
  else if verb = "JOIN".toList then .Join first
  else if verb = "PART".toList then .Part first
  else if verb = "PRIVMSG".toList then .Privmsg first (trailing.getD (join [' '] parts.tail))
  else if verb = "PING".toList then .Ping (trailing.getD (join [' '] parts))
  else if verb = "PONG".toList then .Pong
  else if verb = "QUIT".toList then .Quit
  else if verb = "CAP".toList then
    .Cap (toAsciiUppercase first) (splitWhitespace (trailing.getD (join [' '] parts.tail)))
  else if verb = "CHATHISTORY".toList then parse_chathistory parts
  else if verb = "HISTORY".toList then .History (some first) (number parts[1]? 0) (number parts[2]? 100)
  else if verb = "TASK".toList then parse_task parts trailing
  else .Unknown verb

example : parse_command "CHATHISTORY AFTER #demo 42 100".toList = .History (some "#demo".toList) 42 100 := by
  decide

end Aircd.Protocol

import Aircd.Regex
import Aircd.Table
import Aircd.Text

/-!
# Messages

The messages that the client of `client.py` hands to the daemon, and how the
daemon shows them to Claude.
-/
namespace Aircd.Daemon
open Aircd.Text Aircd.Regex

structure Message where
  seq : Option Int
  channel : Text
  sender : Text
  content : Text
  raw : Text
  tags : Dict Text Text
  is_replay : Bool
  deriving DecidableEq

/-- `msg.tags.get(key, "")`. -/
def Message.tag (msg : Message) (key : Text) : Text := (msg.tags.get key).getD []

/-- `name=([^\s;]+)`. -/
def tag_pattern (name : Text) : Pattern Char :=
  [plain (.word (name ++ ['='])), group (.repeated 1 true (fun c => !pythonSpace c && c != ';'))]

/-- What the pattern finds in the line of a message, or the empty text. -/
def raw_tag (msg : Message) (name : Text) : Text :=
  if msg.raw.isEmpty then [] else ((search (tag_pattern name) msg.raw).bind List.head?).getD []

def msg_id (msg : Message) : Text := raw_tag msg "msg-id".toList

structure MessageDict where
  channel : Text
  sender : Text
  content : Text
  msg_id : Text
  time : Text
  seq : Option Int
  is_replay : Bool
  deriving DecidableEq

def message_to_dict (msg : Message) : MessageDict :=
  ⟨msg.channel, msg.sender, msg.content, Daemon.msg_id msg, raw_tag msg "time".toList, msg.seq, msg.is_replay⟩

/-- A part of the envelope, left out when its value is empty. -/
def envelope_part (name value : Text) : List Text := if value.isEmpty then [] else [name ++ ['='] ++ value]

def format_envelope (msg : Message) : Text :=
  let parts := ["target=".toList ++ msg.channel] ++ envelope_part "msg".toList (msg_id msg) ++
    envelope_part "time".toList (raw_tag msg "time".toList)
  "[".toList ++ join [' '] parts ++ "] @".toList ++ msg.sender ++ ": ".toList ++ msg.content

end Aircd.Daemon

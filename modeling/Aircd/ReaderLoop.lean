import Aircd.Client
import Aircd.Runs
import Aircd.Wire

/-!
# What ends the client's reader loop

The background task of the client that reads one line after the other. It catches
the errors of a connection and its own cancellation, and no ValueError.
-/
namespace Aircd.Client
open Aircd.Runs Aircd.Text Aircd.Utf8 Aircd.Daemon Aircd.History
open Aircd.Server (ServerLine text_message format_line)

/-- The loop runs, or why it has ended. -/
inductive Status where
  | running
  | closed
  | lost
  | reconnected
  | cancelled
  | crashed
  deriving DecidableEq

structure ReaderLoop where
  auto_reconnect : Bool
  closed : Bool
  status : Status
  message_queue : List Message

namespace ReaderLoop

inductive Event where
  /-- A line is read; the answer to a PING is sent or not, and then a reconnect succeeds or not. -/
  | line (bytes : List UInt8) (sent reconnects : Bool)
  | lost (reconnects : Bool)
  | cancel
  | close

/-- The branch for ConnectionError and OSError. -/
def disconnected (s : ReaderLoop) (reconnects : Bool) : ReaderLoop :=
  if s.closed then { s with status := .closed }
  else if s.auto_reconnect then { s with status := if reconnects then .reconnected else .running }
  else { s with status := .lost }

/-- One turn of the loop on a line. -/
def turn (s : ReaderLoop) (bytes : List UInt8) (sent reconnects : Bool) : ReaderLoop :=
  match readline bytes with
  | none => { s with status := .crashed }
  | some line =>
    match parse_irc_line line with
    | none => { s with status := .crashed }
    | some parsed =>
      if parsed.command = "PING".toList then if sent then s else s.disconnected reconnects
      else { s with message_queue := s.message_queue ++ (message_of line parsed).toList }

def step (s : ReaderLoop) (e : Event) : ReaderLoop :=
  if s.status = .running then
    match e with
    | .line bytes sent reconnects => if s.closed then { s with status := .closed } else s.turn bytes sent reconnects
    | .lost reconnects => s.disconnected reconnects
    | .cancel => { s with status := .cancelled }
    | .close => { s with closed := true }
  else s

/-- A loop that starts on a new connection. -/
def start (auto_reconnect : Bool) : ReaderLoop := ⟨auto_reconnect, false, .running, []⟩

/-- The lines of a stream, as the loop reads them until the stream ends. -/
def reads (stream : List UInt8) : List Event :=
  (Lines.terminated 10 stream ++ Lines.remainder 10 stream).map (fun line => .line line true true)

/-- The connection is gone, at a read or at the answer to a PING. -/
def breaks : Event → Bool
  | .line _ sent _ => !sent
  | .lost _ => true
  | _ => false

/-- What the end of the loop is due to. -/
def Survives (s : ReaderLoop) (e : Event) : Prop :=
  s.status = .running →
    match (s.step e).status with
    | .running => True
    | .closed => s.closed = true
    | .cancelled => e = .cancel
    | .lost => s.auto_reconnect = false ∧ breaks e = true
    | .reconnected => s.auto_reconnect = true ∧ breaks e = true
    | .crashed => False

/-- A line with the spaces that end its tags and its prefix. -/
def spaced : Text → Bool
  | '@' :: rest =>
    let untagged := (rest.dropWhile (fun c => c != ' ')).tail
    rest.contains ' ' && (untagged.head? != some ':' || untagged.contains ' ')
  | ':' :: rest => rest.contains ' '
  | _ => true

/-- The line is within the limit, and its tags and its prefix are ended. -/
def Readable (s : ReaderLoop) : Event → Prop
  | .line bytes _ _ => s.status = .running → s.closed = false → bytes.length ≤ LIMIT ∧ spaced (decoded bytes) = true
  | _ => True

theorem splitOnce_at_space (t : Text) : splitOnce [' '] t =
    if t.contains ' ' then some (t.takeWhile (fun c => c != ' '), (t.dropWhile (fun c => c != ' ')).tail) else none := by
  induction t with
  | nil => rfl
  | cons c rest ih =>
    by_cases here : c = ' '
    · subst here
      simp [splitOnce]
    · have elsewhere : ¬ [' '].isPrefixOf (c :: rest) = true := by simpa using Ne.symm here
      rw [splitOnce, if_neg elsewhere, ih]
      by_cases later : ' ' ∈ rest
      · simp [later, here]
      · simp [later, Ne.symm here]

theorem split_source_isSome (line : Text) : (split_source line).isSome = (line.head? != some ':' || line.contains ' ') := by
  unfold split_source
  by_cases prefixed : line.head? = some ':'
  · obtain ⟨rest, rfl⟩ := List.head?_eq_some_iff.mp prefixed
    rw [if_pos prefixed, List.tail_cons, splitOnce_at_space]
    by_cases space : ' ' ∈ rest
    · simp [space]
    · simp [space]
  · rw [if_neg prefixed]
    simp [prefixed]

/-- A line parses exactly when it is spaced. -/
theorem parse_isSome (line : Text) : (parse_irc_line line).isSome = spaced line := by
  rw [parse_irc_line_eq]
  cases line with
  | nil => rfl
  | cons c rest =>
    by_cases tagged : c = '@'
    · subst tagged
      simp only [split_tags, List.head?_cons, if_true, List.tail_cons, splitOnce_at_space]
      by_cases space : rest.contains ' ' = true
      · rw [if_pos space, Option.map_some, Option.bind_some, Option.isSome_map, split_source_isSome, spaced, space, Bool.true_and]
      · rw [if_neg space, spaced, Bool.eq_false_iff.mpr space]
        rfl
    · rw [split_tags, if_neg (by simpa using tagged), Option.bind_some, Option.isSome_map, split_source_isSome]
      by_cases prefixed : c = ':'
      · subst prefixed
        simp [spaced]
      · unfold spaced
        split
        · next same => exact absurd (List.cons.inj same).1 tagged
        · next same => exact absurd (List.cons.inj same).1 prefixed
        · simp [prefixed]

/-- The reasons of the branch for a connection that is gone. -/
theorem survives_disconnected (s : ReaderLoop) (reconnects : Bool) :
    match (s.disconnected reconnects).status with
    | .running => True
    | .closed => s.closed = true
    | .cancelled => False
    | .lost => s.auto_reconnect = false
    | .reconnected => s.auto_reconnect = true
    | .crashed => False := by
  unfold disconnected
  by_cases closed : s.closed = true
  · simp [closed]
  by_cases auto : s.auto_reconnect = true
  · cases reconnects with
    | true => simp [closed, auto]
    | false => simp [closed, auto]
  · simp [closed, auto]

theorem survives_of_disconnected {s : ReaderLoop} {e : Event} {reconnects : Bool} (result : s.step e = s.disconnected reconnects)
    (broken : breaks e = true) : Survives s e := by
  have reasons := survives_disconnected s reconnects
  intro _
  rw [result]
  cases status : (s.disconnected reconnects).status with
  | running => trivial
  | closed => simpa [status] using reasons
  | lost => exact ⟨by simpa [status] using reasons, broken⟩
  | reconnected => exact ⟨by simpa [status] using reasons, broken⟩
  | cancelled => simp [status] at reasons
  | crashed => simp [status] at reasons

theorem crashes_on_long_line {s : ReaderLoop} {bytes : List UInt8} {sent reconnects : Bool} (running : s.status = .running)
    (listening : s.closed = false) (long : LIMIT < bytes.length) :
    (s.step (.line bytes sent reconnects)).status = .crashed := by
  simp [step, running, listening, turn, readline, long]

/-- A turn crashes when the line does not parse, and is over with the line otherwise. -/
theorem survives_turn {s : ReaderLoop} {bytes : List UInt8} {sent reconnects : Bool} (running : s.status = .running)
    (listening : s.closed = false) : Survives s (.line bytes sent reconnects) ↔
      bytes.length ≤ LIMIT ∧ spaced (decoded bytes) = true := by
  have result : s.step (.line bytes sent reconnects) = s.turn bytes sent reconnects := by
    simp [step, running, listening]
  by_cases long : LIMIT < bytes.length
  · constructor
    · intro survives
      have crashed := survives running
      rw [crashes_on_long_line running listening long] at crashed
      exact crashed.elim
    · rintro ⟨short, _⟩
      omega
  · have short : bytes.length ≤ LIMIT := by omega
    have read : readline bytes = some (decoded bytes) := by simp [readline, long]
    cases parse : parse_irc_line (decoded bytes) with
    | none =>
      have crashes : s.turn bytes sent reconnects = { s with status := .crashed } := by simp [turn, read, parse]
      constructor
      · intro survives
        have crashed := survives running
        rw [result, crashes] at crashed
        exact crashed.elim
      · rintro ⟨_, parses⟩
        rw [← parse_isSome, parse] at parses
        cases parses
    | some parsed =>
      have parses : spaced (decoded bytes) = true := by rw [← parse_isSome, parse]; rfl
      simp only [short, parses, and_self, iff_true]
      by_cases ping : parsed.command = "PING".toList
      · cases sent with
        | true =>
          have stays : s.turn bytes true reconnects = s := by simp [turn, read, parse, ping]
          intro _
          rw [result, stays, running]
          trivial
        | false =>
          have breaks : s.turn bytes false reconnects = s.disconnected reconnects := by simp [turn, read, parse, ping]
          exact survives_of_disconnected (result.trans breaks) rfl
      · have goes_on : (s.turn bytes sent reconnects).status = .running := by
          simp only [turn, read, parse, if_neg ping]
          exact running
        intro _
        rw [result, goes_on]
        trivial

theorem survives_iff (s : ReaderLoop) (e : Event) : Survives s e ↔ Readable s e := by
  by_cases running : s.status = .running
  · cases e with
    | line bytes sent reconnects =>
      by_cases listening : s.closed = false
      · rw [survives_turn running listening]
        simp [Readable, running, listening]
      · have ended : s.step (.line bytes sent reconnects) = { s with status := .closed } := by
          simp [step, running, listening]
        simp [Survives, Readable, ended, listening]
    | lost reconnects =>
      have ended : s.step (.lost reconnects) = s.disconnected reconnects := by simp [step, running]
      exact iff_of_true (survives_of_disconnected ended rfl) trivial
    | cancel => simp [Survives, Readable, step, running]
    | close => simp [Survives, Readable, step, running]
  · cases e with
    | line bytes sent reconnects => simp [Survives, Readable, running]
    | _ => simp [Survives, Readable, running]

/-- The loop ends for a reason of its own throughout a run exactly when every line
    that it reads is readable. -/
theorem reader_survives_iff (s : ReaderLoop) (events : List Event) :
    AllSteps step Survives s events ↔ AllSteps step Readable s events :=
  allSteps_congr survives_iff

/-! ### A long message -/

/-- What the writer task of the server writes for a line. -/
def written (line : ServerLine) : List UInt8 := encode (line.text ++ ['\r', '\n'])

theorem pieces_written {line : ServerLine} (clean : '\n' ∉ line.text) :
    Lines.terminated 10 (written line) = [encode (line.text ++ ['\r'])] ∧ Lines.remainder 10 (written line) = [] := by
  have whole : written line = encode (line.text ++ ['\r']) ++ [10] := by
    have ends : encode ['\n'] = [10] := encode_singleton (by decide)
    rw [written, ← ends, ← encode_append, List.append_assoc, List.cons_append, List.nil_append]
  have ended : (10 : UInt8) ∉ encode (line.text ++ ['\r']) := by
    intro inside
    have lf : '\n' ∈ line.text ++ ['\r'] := (mem_encode_char (by decide)).mp inside
    simp [clean] at lf
  rw [whole]
  exact Lines.pieces_line ended

/-- The stream of one line is read as that line. -/
theorem reads_written {line : ServerLine} (clean : '\n' ∉ line.text) :
    reads (written line) = [.line (encode (line.text ++ ['\r'])) true true] := by
  obtain ⟨pieces, rest⟩ := pieces_written clean
  rw [reads, pieces, rest]
  rfl

/-- The loop reads a message whose body alone is longer than the limit. -/
theorem crashes_on_message {s : ReaderLoop} {message : StoredMessage} {sender : Text} (running : s.status = .running)
    (listening : s.closed = false) (long : LIMIT < message.body.length) (clean : '\n' ∉ (ServerLine.Message message sender false).text) :
    ∃ e, reads (written (.Message message sender false)) = [e] ∧ (s.step e).status = .crashed := by
  refine ⟨_, reads_written clean, crashes_on_long_line running listening ?_⟩
  have size := length_le_encode ((ServerLine.Message message sender false).text ++ ['\r'])
  have body : message.body.length ≤ (ServerLine.Message message sender false).text.length := by
    rw [text_message, format_line, ← List.append_assoc, List.length_append]
    omega
  rw [List.length_append] at size
  omega

/-- A message of Alice whose body is longer than what `readline` returns. -/
def long_message : StoredMessage := ⟨1, "msg_0".toList, "#c".toList, "alice".toList, List.replicate 65537 'a', 0⟩

/-- The loop that reads a message longer than the limit ends with a ValueError. -/
theorem reader_crashes_on_long_message :
    (run step (start true) (reads (written (.Message long_message "alice".toList false)))).status = .crashed ∧
    ¬ AllSteps step Survives (start true) (reads (written (.Message long_message "alice".toList false))) := by
  have clean : '\n' ∉ (ServerLine.Message long_message "alice".toList false).text := by
    rw [text_message, format_line, ← List.append_assoc, List.mem_append]
    rintro (inside | inside)
    · revert inside
      decide
    · cases List.eq_of_mem_replicate inside
  obtain ⟨e, read, crashed⟩ := @crashes_on_message (start true) long_message "alice".toList rfl rfl
    (by rw [long_message, List.length_replicate]; decide) clean
  rw [read]
  refine ⟨crashed, ?_⟩
  rintro ⟨survives, _⟩
  have reason := survives rfl
  rw [crashed] at reason
  exact reason

end ReaderLoop
end Aircd.Client

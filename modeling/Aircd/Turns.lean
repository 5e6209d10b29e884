import Aircd.Claude
import Aircd.Json
import Aircd.Utf8

/-!
# What Claude reads on its standard input

The prompt of `_start_claude`, the messages of `_deliver_pending_idle` and the
notifications of `_deliver_busy_notification`, each written to the process of the
moment as one line of stream-json.
-/
namespace Aircd.Claude
open Aircd.Text Aircd.Utf8 Aircd.Json Aircd.Runs Aircd.Lines
open Aircd.Daemon (delivery_text is_duplicate requeue_expired)

/-- Three seconds. -/
def BUSY_NOTIFICATION_DEBOUNCE : Int := 3000000

/-- A session id that is not empty. -/
def named (session_id : Option Text) : Option Text := session_id.filter (fun sid => !sid.isEmpty)

def encode_stdin_message (text : Text) (session_id : Option Text) : Text :=
  let message : Value := .obj [field "role" (.str "user".toList),
    field "content" (.arr [.obj [field "type" (.str "text".toList), field "text" (.str text)]])]
  let session := (named session_id).map (fun sid => field "session_id" (.str sid))
  dumps (.obj ([field "type" (.str "user".toList), field "message" message] ++ session.toList))

/-- What the daemon is started with. -/
structure Config where
  nick : Text
  channels : List Text
  working_dir : Option Text

def initial_prompt (config : Config) : Text :=
  "You are an AI agent connected to aircd IRC server as '".toList ++ config.nick ++ "'. You are in channels: ".toList ++
    join ", ".toList config.channels ++ (". Use the MCP chat tools (check_messages, send_message, read_history, " ++
      "list_tasks, claim_task, complete_task) to interact with the IRC server. " ++
      "When you receive a system notification about new messages, call " ++
      "check_messages to read them and respond appropriately.").toList ++
    match config.working_dir with
    | none => []
    | some dir => if dir.isEmpty then [] else " Your working directory is ".toList ++ dir ++ ['.']

def notification_text (count : Nat) : Text :=
  "[System notification: You have ".toList ++ decimal count ++
    " new message(s) waiting. Call check_messages to read them when you're ready.]".toList

/-! ## Who is written to -/

/-- A message for a process, with the session that it belongs to. -/
structure Turn where
  proc : Nat
  text : Text
  session_id : Option Text
  deriving DecidableEq

/-- The daemon with the pipes to the processes. -/
structure Desk extends State where
  last_notification_time : Int
  stdin : Nat → List UInt8

/-- An event, with the wall clock of a notification that follows it and whether the process reads it. -/
structure Beat where
  event : Event
  clock : Int
  piped : Bool

/-- A start that gets as far as its prompt. -/
def prompted (config : Config) (s s' : State) : List Turn :=
  if s.readers.length < s'.readers.length then [⟨s.started, initial_prompt config, s.session_id⟩] else []

/-- The delivery that a write completes. -/
def delivered (s : State) : Event → List Turn
  | .write true _ =>
    match s.stage, s.agent.process with
    | .Writing messages, some proc => [⟨proc, delivery_text messages, s.session_id⟩]
    | _, _ => []
  | _ => []

/-- The event ends in `_deliver_busy_notification`. -/
def notifies (s : State) : Event → Bool
  | .receive address message _ _ =>
    decide (s.stage = .Waiting) && s.live.all (fun m => decide (m.address ≠ address)) && !is_duplicate s.agent message &&
      s.agent.is_busy
  | .in_flight_reaper wall_clock _ _ =>
    decide (s.stage = .Waiting) && decide ((requeue_expired s.agent wall_clock).2 ≠ 0) && s.agent.process.isSome && s.agent.is_busy
  | _ => false

/-- What `_deliver_busy_notification` writes, after the event has left the state. -/
def notified (s : Desk) (s' : State) (beat : Beat) : List Turn :=
  match s'.agent.process with
  | some proc =>
    if notifies s.toState beat.event && s'.agent.is_busy && decide (BUSY_NOTIFICATION_DEBOUNCE ≤ beat.clock - s.last_notification_time) &&
        !s'.agent.pending_inbox.isEmpty && beat.piped then
      [⟨proc, notification_text s'.agent.pending_inbox.length, s'.session_id⟩]
    else []
  | none => []

def turns (config : Config) (s : Desk) (beat : Beat) : List Turn :=
  let s' := step s.toState beat.event
  prompted config s.toState s' ++ delivered s.toState beat.event ++ notified s s' beat

def line (turn : Turn) : List UInt8 := encode (encode_stdin_message turn.text turn.session_id ++ ['\n'])

def beat (config : Config) (s : Desk) (b : Beat) : Desk where
  toState := step s.toState b.event
  last_notification_time := if (notified s (step s.toState b.event) b).isEmpty then s.last_notification_time else b.clock
  stdin := fun proc => s.stdin proc ++ ((turns config s b).filter (fun turn => turn.proc == proc)).flatMap line

def desk : Desk := ⟨start, 0, fun _ => []⟩

/-- The turns of a run for a process, in order. -/
def spoken (config : Config) (proc : Nat) : Desk → List Beat → List Turn
  | _, [] => []
  | s, b :: rest => (turns config s b).filter (fun turn => turn.proc == proc) ++ spoken config proc (beat config s b) rest

/-- The clocks at which a run notifies. -/
def rung (config : Config) : Desk → List Beat → List Int
  | _, [] => []
  | s, b :: rest => (if (notified s (step s.toState b.event) b).isEmpty then [] else [b.clock]) ++ rung config (beat config s b) rest

/-! ## Reading it back -/

/-- A reader of stream-json: the text of a user message, and its session. -/
def read_turn (proc : Nat) (bytes : List UInt8) : Option Turn := do
  let value ← (decode bytes).bind loads
  let .arr [part] ← (← value.get "message".toList).get "content".toList | none
  let .str text ← part.get "text".toList | none
  match value.get "session_id".toList with
  | some (.str sid) => return ⟨proc, text, some sid⟩
  | some _ => none
  | none => return ⟨proc, text, none⟩

theorem read_turn_line (turn : Turn) : read_turn turn.proc (encode (encode_stdin_message turn.text turn.session_id)) =
    some { turn with session_id := named turn.session_id } := by
  obtain ⟨proc, text, session_id⟩ := turn
  rw [read_turn, decode_encode, encode_stdin_message]
  simp only [Option.bind_some, loads_dumps, Option.bind_eq_bind]
  cases named session_id with
  | none => rfl
  | some sid => rfl

theorem line_feed_not_mem (turn : Turn) : (10 : UInt8) ∉ encode (encode_stdin_message turn.text turn.session_id) := by
  intro inside
  obtain ⟨c, here, same⟩ := (mem_encode (by decide)).mp inside
  have printable := printable_dumps _ c here
  rw [Printable, ← same] at printable
  exact absurd printable.1 (by decide)

theorem line_eq (turn : Turn) : line turn = encode (encode_stdin_message turn.text turn.session_id) ++ [10] := by
  have ends : encode ['\n'] = [10] := encode_singleton (by decide)
  rw [line, encode_append, ends]

/-- The pipe of a process has the lines of its turns. -/
theorem stdin_run (config : Config) (proc : Nat) (beats : List Beat) (s : Desk) :
    (run (beat config) s beats).stdin proc = s.stdin proc ++ (spoken config proc s beats).flatMap line := by
  induction beats generalizing s with
  | nil => exact (List.append_nil _).symm
  | cons b rest ih =>
    rw [run_cons, ih, spoken, List.flatMap_append, ← List.append_assoc]
    rfl

theorem proc_of_spoken {config : Config} {proc : Nat} {turn : Turn} : ∀ {beats : List Beat} {s : Desk},
    turn ∈ spoken config proc s beats → turn.proc = proc
  | [], _, inside => by cases inside
  | b :: rest, s, inside => by
    rcases List.mem_append.mp inside with here | later
    · exact beq_iff_eq.mp (List.mem_filter.mp here).2
    · exact proc_of_spoken later

/-! ## The debounce -/

/-- A notification waits for three seconds after the one before. -/
theorem debounced {s : Desk} {s' : State} {b : Beat} (rings : notified s s' b ≠ []) :
    s.last_notification_time + BUSY_NOTIFICATION_DEBOUNCE ≤ b.clock := by
  unfold notified at rings
  split at rings
  · split at rings
    · next guard =>
      simp only [Bool.and_eq_true, decide_eq_true_eq] at guard
      omega
    · exact absurd rfl rings
  · exact absurd rfl rings

theorem rung_chain (config : Config) (beats : List Beat) (s : Desk) :
    (s.last_notification_time :: rung config s beats).IsChain (fun before after => before + BUSY_NOTIFICATION_DEBOUNCE ≤ after) := by
  induction beats generalizing s with
  | nil => exact .singleton _
  | cons b rest ih =>
    have later := ih (beat config s b)
    rw [rung]
    by_cases quiet : notified s (step s.toState b.event) b = []
    · have same : (beat config s b).last_notification_time = s.last_notification_time := by
        simp [beat, quiet]
      rw [same] at later
      simpa [quiet] using later
    · have rings : (notified s (step s.toState b.event) b).isEmpty = false := by simpa using quiet
      have moved : (beat config s b).last_notification_time = b.clock := by
        simp [beat, rings]
      rw [moved] at later
      simp only [rings, Bool.false_eq_true, if_false, List.singleton_append]
      exact .cons_cons (debounced quiet) later

/-- What a process reads on its standard input is whole lines of stream-json, which are read back as the turns of
the daemon for it, in their order, whatever the messages and the channels have in them; and two notifications are
three seconds apart at least. -/
theorem stdin_is_turns (config : Config) (proc : Nat) (beats : List Beat) :
    let s := run (beat config) desk beats
    (terminated 10 (s.stdin proc)).map (read_turn proc) =
        (spoken config proc desk beats).map (fun turn => some { turn with session_id := named turn.session_id }) ∧
      remainder 10 (s.stdin proc) = [] ∧
      (0 :: rung config desk beats).IsChain (fun before after => before + BUSY_NOTIFICATION_DEBOUNCE ≤ after) := by
  intro s
  have stdin : s.stdin proc = ((spoken config proc desk beats).map (fun turn =>
      encode (encode_stdin_message turn.text turn.session_id))).flatMap (fun line => line ++ [10]) := by
    rw [List.flatMap_map, ← funext line_eq]
    exact stdin_run config proc beats desk
  have clean : ∀ line ∈ (spoken config proc desk beats).map (fun turn =>
      encode (encode_stdin_message turn.text turn.session_id)), (10 : UInt8) ∉ line := by
    intro line inside
    obtain ⟨turn, _, rfl⟩ := List.mem_map.mp inside
    exact line_feed_not_mem turn
  obtain ⟨ended, rest⟩ := terminated_lines clean
  refine ⟨?_, by rw [stdin, rest], rung_chain config beats desk⟩
  rw [stdin, ended, List.map_map]
  apply List.map_congr_left
  intro turn inside
  rw [Function.comp_apply, ← proc_of_spoken inside, read_turn_line]

end Aircd.Claude

import Aircd.Delivery

/-!
# The Claude process and the readers of its output

`_start_claude` starts a process and a task that reads its output to the end. The
watchdog and the end of a process make room for the next one, while the task of
the old one may still have lines to read.
-/
namespace Aircd.Claude
open Aircd.Daemon (Accepted AgentState Buffer Message Stage MAX_PENDING requeue_expired is_duplicate remember move_to_end)
open Aircd.Runs Aircd.Text

/-- Ten minutes; times are in microseconds. -/
def TURN_WATCHDOG_TIMEOUT : Int := 600000000

/-- A task of `_claude_stdout_reader`, which takes `agent.process` for its own when it begins. -/
inductive Reader where
  | Scheduled
  | Reading (proc : Nat)
  | Done
  deriving DecidableEq

structure State extends Buffer where
  session_id : Option Text
  last_stdout_activity : Int
  /-- The processes started so far, the next one of which is the `started`-th. -/
  started : Nat
  readers : List Reader
  deriving DecidableEq

/-- What comes of `subprocess.Popen` and of the prompt that is written to the process. -/
inductive Spawn where
  | fails
  | prompt_fails
  | starts
  deriving DecidableEq

def start_claude (s : State) (spawn : Spawn) (now : Int) : State :=
  match spawn with
  | .fails => s
  | .prompt_fails => { s with agent := { s.agent with process := some s.started }, started := s.started + 1 }
  | .starts =>
    { s with
      agent := { s.agent with process := some s.started, is_busy := true }
      last_stdout_activity := now
      started := s.started + 1
      readers := s.readers ++ [.Scheduled] }

/-- The process is gone. It is replaced if messages are pending. -/
def restart_claude (s : State) (spawn : Spawn) (now : Int) : State :=
  let s := { s with agent := { s.agent with is_busy := false, process := none } }
  if s.agent.pending_inbox.isEmpty then s else start_claude s spawn now

/-! ## The output of a process -/

/-- What `readline` and `json.loads` make of a line. -/
inductive Line where
  | eof
  /-- One of the two raises something else than `JSONDecodeError`. -/
  | fails
  | blank
  | not_json
  /-- A JSON value without `get`. -/
  | not_object
  | event (type : Text) (session_id : Option Text)
  deriving DecidableEq

def handle_event (s : State) (type : Text) (session_id : Option Text) (now : Int) : State :=
  let s := { s with last_stdout_activity := now }
  if type = "system".toList then
    if (session_id.getD []).isEmpty then s else { s with session_id := session_id }
  else if type = "result".toList then
    let s := { s with agent := { s.agent with is_busy := false } }
    if s.agent.pending_inbox.isEmpty then s else { s with stage := .Delivering }
  else s

def finish (s : State) (reader : Nat) : State := { s with readers := s.readers.set reader .Done }

/-- One round of `_claude_stdout_reader`. -/
def read_line (s : State) (reader proc : Nat) (line : Line) (spawn : Spawn) (now : Int) : State :=
  match line with
  | .eof => if s.agent.process = some proc then restart_claude (finish s reader) spawn now else finish s reader
  | .fails => finish s reader
  | .blank => s
  | .not_json => s
  | .not_object => finish s reader
  | .event type session_id => handle_event s type session_id now

/-! ## The other coroutines -/

/-- The reader loop of the connection receives a message that is no response and not the daemon's own. -/
def receive (s : State) (address : Nat) (message : Message) (spawn : Spawn) (now : Int) : State :=
  if is_duplicate s.agent message then { s with agent := move_to_end s.agent message }
  else
    let agent := remember s.agent message
    let pending := agent.pending_inbox ++ [⟨s.count, address, message⟩]
    let s := { s with count := s.count + 1 }
    if agent.is_busy then
      { s with agent := { agent with pending_inbox := if MAX_PENDING < pending.length then pending.tail else pending } }
    else
      match agent.process with
      | none => start_claude { s with agent := { agent with pending_inbox := pending } } spawn now
      | some _ => { s with agent := { agent with pending_inbox := pending }, stage := .Delivering }

def in_flight_reaper (s : State) (wall_clock : Int) (spawn : Spawn) (now : Int) : State :=
  let (agent, requeued) := requeue_expired s.agent wall_clock
  let s := { s with agent := agent }
  if requeued = 0 then s
  else
    match s.agent.process with
    | none => start_claude s spawn now
    | some _ => if s.agent.is_busy then s else { s with stage := .Delivering }

/-- The watchdog waits for the process to end before it restarts it. -/
def turn_watchdog (s : State) (now : Int) (spawn : Spawn) (ended : Int) : State :=
  if s.agent.is_busy = false ∨ s.agent.process = none then s
  else if now - s.last_stdout_activity < TURN_WATCHDOG_TIMEOUT then s
  else restart_claude s spawn ended

inductive Event where
  | run (spawn : Spawn) (now : Int)
  | begin (reader : Nat)
  | read (reader : Nat) (line : Line) (spawn : Spawn) (now : Int)
  | receive (address : Nat) (message : Message) (spawn : Spawn) (now : Int)
  | take
  | write (succeeds : Bool) (now : Int)
  | put_back
  | check_messages (now : Int)
  | ack_messages (msg_ids : List Text)
  | in_flight_reaper (wall_clock : Int) (spawn : Spawn) (now : Int)
  | turn_watchdog (now : Int) (spawn : Spawn) (ended : Int)

/-- The event loop is at one coroutine at a time, and in `_deliver_pending_idle` unless its stage is `Waiting`. A
coroutine that a failed start would end may go on. -/
def step (s : State) : Event → State
  | .run spawn now => if s.stage = .Waiting ∧ s.started = 0 then start_claude s spawn now else s
  | .begin reader =>
    if s.stage = .Waiting ∧ s.readers[reader]? = some .Scheduled then
      { s with readers := s.readers.set reader ((s.agent.process.map Reader.Reading).getD .Done) }
    else s
  | .read reader line spawn now =>
    match s.readers[reader]? with
    | some (.Reading proc) => if s.stage = .Waiting then read_line s reader proc line spawn now else s
    | _ => s
  | .receive address message spawn now =>
    if s.stage = .Waiting ∧ ∀ m ∈ s.live, m.address ≠ address then receive s address message spawn now else s
  | .take =>
    match s.stage with
    | .Delivering =>
      if s.agent.process.isNone || s.agent.pending_inbox.isEmpty then { s with stage := .Waiting }
      else { s with agent := { s.agent with pending_inbox := [] }, stage := .Writing s.agent.pending_inbox }
    | _ => s
  | .write succeeds now =>
    match s.stage with
    | .Writing messages =>
      if succeeds then
        { s with agent := { s.agent with is_busy := true }, stage := .Waiting, last_stdout_activity := now }
      else { s with stage := .Returning messages }
    | _ => s
  | .put_back =>
    match s.stage with
    | .Returning messages =>
      { s with
        agent := { s.agent with
          pending_inbox := messages.reverse.foldl (fun pending m => m :: pending) s.agent.pending_inbox }
        stage := .Waiting }
    | _ => s
  | .check_messages now => { s with agent := (Daemon.check_messages s.agent now).1 }
  | .ack_messages msg_ids => { s with agent := (Daemon.ack_messages s.agent msg_ids).1 }
  | .in_flight_reaper wall_clock spawn now => if s.stage = .Waiting then in_flight_reaper s wall_clock spawn now else s
  | .turn_watchdog now spawn ended => if s.stage = .Waiting then turn_watchdog s now spawn ended else s

def start : State := ⟨Daemon.start, none, 0, 0, []⟩

/-! ## A busy Claude has a process -/

variable {s : State}

structure Manned (s : State) : Prop where
  busy : s.agent.is_busy = true → s.agent.process.isSome
  writing : ∀ messages, s.stage = .Writing messages → s.agent.process.isSome

/-- Between deliveries only the agent matters. -/
theorem manned_waiting (busy : s.agent.is_busy = true → s.agent.process.isSome) (waiting : s.stage = .Waiting) : Manned s where
  busy := busy
  writing := by
    intro messages writing
    rw [waiting] at writing
    cases writing

theorem manned_delivering (busy : s.agent.is_busy = true → s.agent.process.isSome) (delivering : s.stage = .Delivering) :
    Manned s where
  busy := busy
  writing := by
    intro messages writing
    rw [delivering] at writing
    cases writing

theorem manned_start_claude (spawn : Spawn) (now : Int) (manned : Manned s) : Manned (start_claude s spawn now) := by
  cases spawn with
  | fails => exact manned
  | prompt_fails => exact ⟨fun _ => rfl, fun _ _ => rfl⟩
  | starts => exact ⟨fun _ => rfl, fun _ _ => rfl⟩

theorem manned_restart_claude (spawn : Spawn) (now : Int) (waiting : s.stage = .Waiting) :
    Manned (restart_claude s spawn now) := by
  have idle : Manned { s with agent := { s.agent with is_busy := false, process := none } } := manned_waiting nofun waiting
  unfold restart_claude
  dsimp only
  split
  · exact idle
  · exact manned_start_claude spawn now idle

theorem manned_handle_event (type : Text) (session_id : Option Text) (now : Int) (waiting : s.stage = .Waiting)
    (manned : Manned s) : Manned (handle_event s type session_id now) := by
  unfold handle_event
  dsimp only
  split
  · split
    · exact manned_waiting manned.busy waiting
    · exact manned_waiting manned.busy waiting
  · split
    · split
      · exact manned_waiting nofun waiting
      · exact manned_delivering nofun rfl
    · exact manned_waiting manned.busy waiting

theorem manned_read_line (reader proc : Nat) (line : Line) (spawn : Spawn) (now : Int) (waiting : s.stage = .Waiting)
    (manned : Manned s) : Manned (read_line s reader proc line spawn now) := by
  have finished : Manned (finish s reader) := manned_waiting manned.busy waiting
  cases line with
  | eof =>
    unfold read_line
    dsimp only
    split
    · exact manned_restart_claude spawn now waiting
    · exact finished
  | fails => exact finished
  | blank => exact manned
  | not_json => exact manned
  | not_object => exact finished
  | event type session_id => exact manned_handle_event type session_id now waiting manned

theorem requeue_frame (agent : AgentState) (now : Int) :
    (requeue_expired agent now).1.is_busy = agent.is_busy ∧ (requeue_expired agent now).1.process = agent.process := by
  rw [Daemon.requeue_expired_eq]
  exact ⟨rfl, rfl⟩

theorem check_frame (agent : AgentState) (now : Int) : (Daemon.check_messages agent now).1.is_busy = agent.is_busy ∧
    (Daemon.check_messages agent now).1.process = agent.process := requeue_frame agent now

theorem ack_frame (agent : AgentState) (msg_ids : List Text) : (Daemon.ack_messages agent msg_ids).1.is_busy = agent.is_busy ∧
    (Daemon.ack_messages agent msg_ids).1.process = agent.process := by
  unfold Daemon.ack_messages
  split
  · exact ⟨rfl, rfl⟩
  · exact ⟨rfl, rfl⟩

theorem remember_process (agent : AgentState) (message : Message) : (remember agent message).process = agent.process := by
  unfold remember
  split
  · rfl
  · rfl

theorem manned_receive (address : Nat) (message : Message) (spawn : Spawn) (now : Int) (waiting : s.stage = .Waiting)
    (manned : Manned s) : Manned (receive s address message spawn now) := by
  have busy : (remember s.agent message).is_busy = true → (remember s.agent message).process.isSome := by
    rw [(Daemon.remember_frame s.agent message).2.2, remember_process]
    exact manned.busy
  unfold receive
  split
  · exact manned_waiting manned.busy waiting
  dsimp only
  split
  · exact manned_waiting busy waiting
  · split
    · exact manned_start_claude spawn now (manned_waiting busy waiting)
    · exact manned_delivering busy rfl

theorem manned_in_flight_reaper (wall_clock : Int) (spawn : Spawn) (now : Int) (waiting : s.stage = .Waiting)
    (manned : Manned s) : Manned (in_flight_reaper s wall_clock spawn now) := by
  have busy : (requeue_expired s.agent wall_clock).1.is_busy = true → (requeue_expired s.agent wall_clock).1.process.isSome := by
    rw [(requeue_frame s.agent wall_clock).1, (requeue_frame s.agent wall_clock).2]
    exact manned.busy
  unfold in_flight_reaper
  dsimp only
  split
  · exact manned_waiting busy waiting
  · split
    · exact manned_start_claude spawn now (manned_waiting busy waiting)
    · split
      · exact manned_waiting busy waiting
      · exact manned_delivering busy rfl

theorem manned_step (s : State) (event : Event) (manned : Manned s) : Manned (step s event) := by
  cases event with
  | run spawn now =>
    simp only [step]
    split
    · exact manned_start_claude spawn now manned
    · exact manned
  | begin reader =>
    simp only [step]
    split
    · exact ⟨manned.busy, manned.writing⟩
    · exact manned
  | read reader line spawn now =>
    simp only [step]
    split
    · split
      · next waiting => exact manned_read_line reader _ line spawn now waiting manned
      · exact manned
    · exact manned
  | receive address message spawn now =>
    simp only [step]
    split
    · next ready => exact manned_receive address message spawn now ready.1 manned
    · exact manned
  | take =>
    simp only [step]
    split
    · split
      · exact manned_waiting manned.busy rfl
      · next ready =>
        have process : s.agent.process.isSome = true := by
          cases here : s.agent.process with
          | none => simp [here] at ready
          | some proc => rfl
        exact ⟨manned.busy, fun _ _ => process⟩
    · exact manned
  | write succeeds now =>
    simp only [step]
    split
    · next messages writing =>
      split
      · exact manned_waiting (fun _ => manned.writing messages writing) rfl
      · exact ⟨manned.busy, nofun⟩
    · exact manned
  | put_back =>
    simp only [step]
    split
    · exact manned_waiting manned.busy rfl
    · exact manned
  | check_messages now =>
    obtain ⟨busy, process⟩ := check_frame s.agent now
    exact ⟨by rw [step, busy, process]; exact manned.busy, by rw [step, process]; exact manned.writing⟩
  | ack_messages msg_ids =>
    obtain ⟨busy, process⟩ := ack_frame s.agent msg_ids
    exact ⟨by rw [step, busy, process]; exact manned.busy, by rw [step, process]; exact manned.writing⟩
  | in_flight_reaper wall_clock spawn now =>
    simp only [step]
    split
    · next waiting => exact manned_in_flight_reaper wall_clock spawn now waiting manned
    · exact manned
  | turn_watchdog now spawn ended =>
    simp only [step]
    split
    · next waiting =>
      unfold turn_watchdog
      split
      · exact manned
      split
      · exact manned
      · exact manned_restart_claude spawn ended waiting
    · exact manned

/-! ## Readers of a process that is gone -/

/-- What the reader's process has become. -/
def Stale (s : State) (reader : Nat) : Prop := ∃ proc, s.readers[reader]? = some (.Reading proc) ∧ s.agent.process ≠ some proc

/-- What the readers of other processes rely on. -/
def Same (s s' : State) : Prop :=
  s'.agent.is_busy = s.agent.is_busy ∧ s'.agent.process = s.agent.process ∧ s'.session_id = s.session_id ∧
    s'.last_stdout_activity = s.last_stdout_activity ∧ s'.stage = s.stage

/-- A stale reader changes nothing of the agent's and delivers nothing. -/
def Undisturbed (s : State) : Event → Prop
  | .read reader line spawn now => Stale s reader → Same s (step s (.read reader line spawn now))
  | _ => True

/-- An event comes in the very tick of the last one and says what the agent has already: the session that it is
in, or the end of a turn that is over, with nothing to deliver. -/
def SaysNothing (s : State) (type : Text) (session_id : Option Text) (now : Int) : Prop :=
  now = s.last_stdout_activity ∧
    (type = "system".toList → session_id.getD [] ≠ [] → session_id = s.session_id) ∧
    (type = "result".toList → s.agent.is_busy = false ∧ s.agent.pending_inbox = [])

/-- A stale reader reads no event, or one that says nothing. -/
def ReadsNothing (s : State) : Event → Prop
  | .read reader (.event type session_id) _ now => s.stage = .Waiting → Stale s reader → SaysNothing s type session_id now
  | _ => True

theorem same_handle_event {type : Text} {session_id : Option Text} {now : Int} (waiting : s.stage = .Waiting) :
    Same s (handle_event s type session_id now) ↔ SaysNothing s type session_id now := by
  unfold handle_event SaysNothing
  dsimp only
  by_cases system : type = "system".toList
  · subst system
    by_cases unnamed : session_id.getD [] = []
    · simp [Same, unnamed]
    · simp [Same, unnamed, and_comm]
  by_cases result : type = "result".toList
  · subst result
    cases pending : s.agent.pending_inbox with
    | nil => simp [Same, and_comm, @eq_comm _ false]
    | cons _ _ => simp [Same, waiting]
  · simp only [eq_false system, eq_false result]
    simp [Same]

theorem undisturbed_iff (s : State) (event : Event) : Undisturbed s event ↔ ReadsNothing s event := by
  cases event with
  | read reader line spawn now =>
    by_cases waiting : s.stage = .Waiting
    · have reads {proc : Nat} (reading : s.readers[reader]? = some (.Reading proc)) :
          step s (.read reader line spawn now) = read_line s reader proc line spawn now := by
        simp [step, reading, waiting]
      have finished : Same s (finish s reader) := ⟨rfl, rfl, rfl, rfl, rfl⟩
      have same : Same s s := ⟨rfl, rfl, rfl, rfl, rfl⟩
      cases line with
      | event type session_id =>
        constructor
        · intro undisturbed _ stale
          have unchanged := undisturbed stale
          obtain ⟨proc, reading, _⟩ := stale
          rw [reads reading] at unchanged
          exact (same_handle_event waiting).mp unchanged
        · intro nothing stale
          have silent := nothing waiting stale
          obtain ⟨proc, reading, _⟩ := stale
          rw [reads reading]
          exact (same_handle_event waiting).mpr silent
      | eof =>
        refine iff_of_true ?_ trivial
        rintro ⟨proc, reading, replaced⟩
        rw [reads reading, read_line, if_neg replaced]
        exact finished
      | blank =>
        refine iff_of_true ?_ trivial
        rintro ⟨proc, reading, _⟩
        rw [reads reading]
        exact same
      | not_json =>
        refine iff_of_true ?_ trivial
        rintro ⟨proc, reading, _⟩
        rw [reads reading]
        exact same
      | fails =>
        refine iff_of_true ?_ trivial
        rintro ⟨proc, reading, _⟩
        rw [reads reading]
        exact finished
      | not_object =>
        refine iff_of_true ?_ trivial
        rintro ⟨proc, reading, _⟩
        rw [reads reading]
        exact finished
    · refine iff_of_true ?_ ?_
      · rintro ⟨proc, reading, _⟩
        simp [step, reading, waiting, Same]
      · cases line with
        | event type session_id => exact fun here => absurd here waiting
        | _ => trivial
  | _ => exact Iff.rfl

/-- In every run a busy Claude has a process, and the readers of processes that are gone leave the agent alone
exactly when they read no event that says something. -/
theorem stale_readers (events : List Event) :
    Always step (fun s => s.agent.is_busy = true → s.agent.process.isSome = true) start events ∧
    (AllSteps step Undisturbed start events ↔ AllSteps step ReadsNothing start events) := by
  refine ⟨?_, allSteps_congr undisturbed_iff⟩
  rw [always_iff_run]
  intro before after split
  have manned : Manned (run step start before) := run_invariant manned_step before (manned_waiting nofun rfl)
  exact manned.busy

/-- The first process is stuck, killed and replaced when a message comes. -/
def replaced : List Event :=
  [.run .starts 0, .begin 0, .turn_watchdog TURN_WATCHDOG_TIMEOUT .fails TURN_WATCHDOG_TIMEOUT,
    .receive 1 ⟨none, "#c".toList, "bob".toList, "hello".toList, [], Table.empty, false⟩ .starts 600000001, .begin 1]

/-- The end of a turn that the first process has still written ends the turn of the second. -/
theorem successor_disturbed :
    let s := run step start replaced
    let s' := step s (.read 0 (.event "result".toList none) .fails 600000002)
    s.readers[0]? = some (.Reading 0) ∧ s.agent.process = some 1 ∧ s'.agent.process = some 1 ∧
    s.agent.is_busy = true ∧ s'.agent.is_busy = false ∧ s.stage = .Waiting ∧ s'.stage = .Delivering ∧
    s.last_stdout_activity = 600000001 ∧ s'.last_stdout_activity = 600000002 := by
  decide

end Aircd.Claude

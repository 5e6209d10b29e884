import Aircd.Message
import Aircd.Runs
import Mathlib.Data.List.Dedup

/-!
# The delivery buffer of the daemon

Messages wait in `pending_inbox` until `check_messages` hands them out, in flight
until they are acknowledged, or an idle delivery writes them to Claude. The event
loop and the HTTP thread take turns at the sections under `inbox_lock`.
-/
namespace Aircd.Daemon
open Aircd.Runs Aircd.Text

def MAX_PENDING : Nat := 200
def MAX_DEDUP_ENTRIES : Nat := 10000

/-- Thirty seconds; times are in microseconds. -/
def MESSAGE_VISIBILITY_TIMEOUT : Int := 30000000

/-- A message that the reader loop accepted: its number among the accepted ones,
    and `id(msg)`. -/
structure Accepted where
  serial : Nat
  address : Nat
  message : Message
  deriving DecidableEq

structure AgentState where
  process : Option Nat
  is_busy : Bool
  pending_inbox : List Accepted
  in_flight : Dict Text (Accepted × Int)
  seen_msg_ids : List Text
  deriving DecidableEq

def AgentState.default : AgentState := ⟨none, false, [], Table.empty, []⟩

/-- Where the event loop is in `_deliver_pending_idle`, if it is there. -/
inductive Stage where
  | Waiting
  | Delivering
  | Writing (messages : List Accepted)
  | Returning (messages : List Accepted)
  deriving DecidableEq

structure Buffer where
  agent : AgentState
  stage : Stage
  count : Nat
  deriving DecidableEq

/-! ## Sections -/

def delivery_id (m : Accepted) : Text :=
  if (msg_id m.message).isEmpty then "noid_".toList ++ Nat.toDigits 10 m.address else msg_id m.message

/-- `_requeue_expired_in_flight_locked`. -/
def requeue_expired (agent : AgentState) (now : Int) : AgentState × Nat :=
  let expired := agent.in_flight.rows.filter (fun row => decide (now - row.2.2 > MESSAGE_VISIBILITY_TIMEOUT))
  (expired.foldl (fun agent row =>
    { agent with in_flight := agent.in_flight.erase row.1, pending_inbox := row.2.1 :: agent.pending_inbox }) agent,
    expired.length)

def check_messages (agent : AgentState) (now : Int) : AgentState × List (MessageDict × Text) :=
  let agent := (requeue_expired agent now).1
  ({ agent with
      pending_inbox := []
      in_flight := agent.pending_inbox.foldl (fun in_flight m => in_flight.put (delivery_id m) (m, now)) agent.in_flight },
    agent.pending_inbox.map (fun m => (message_to_dict m.message, delivery_id m)))

/-- `_handle_ack_messages`, with the number that it answers, or nothing for a bad request. -/
def ack_messages (agent : AgentState) (msg_ids : List Text) : AgentState × Option Nat :=
  if msg_ids.isEmpty then (agent, none)
  else
    let (in_flight, acked) := msg_ids.foldl (fun (state : Dict Text (Accepted × Int) × Nat) mid =>
      if (state.1.get mid).isSome then (state.1.erase mid, state.2 + 1) else state) (agent.in_flight, 0)
    ({ agent with in_flight := in_flight }, some acked)

/-- `_start_claude`, which may fail to start a process. -/
def start_claude (agent : AgentState) (process : Option Nat) : AgentState :=
  match process with
  | none => agent
  | some pid => { agent with process := some pid, is_busy := true }

/-- The reader loop has seen the msg-id of the message. -/
def is_duplicate (agent : AgentState) (message : Message) : Bool :=
  !(msg_id message).isEmpty && agent.seen_msg_ids.contains (msg_id message)

/-- The end of the reader loop's deduplication for a message that is not a duplicate. -/
def remember (agent : AgentState) (message : Message) : AgentState :=
  if (msg_id message).isEmpty then agent
  else
    let seen := agent.seen_msg_ids ++ [msg_id message]
    { agent with seen_msg_ids := seen.drop (seen.length - MAX_DEDUP_ENTRIES) }

/-- `move_to_end`. -/
def move_to_end (agent : AgentState) (message : Message) : AgentState :=
  { agent with seen_msg_ids := agent.seen_msg_ids.erase (msg_id message) ++ [msg_id message] }

/-- The three branches with which the reader loop accepts a message. -/
def accept (agent : AgentState) (m : Accepted) (restarted : Option Nat) : AgentState × Stage :=
  let pending := agent.pending_inbox ++ [m]
  if agent.is_busy then
    ({ agent with pending_inbox := if MAX_PENDING < pending.length then pending.tail else pending }, .Waiting)
  else
    match agent.process with
    | none => (start_claude { agent with pending_inbox := pending } restarted, .Waiting)
    | some _ => ({ agent with pending_inbox := pending }, .Delivering)

/-- What is left of the reader loop for a message that is no response and not the daemon's own. -/
def deliver (d : Buffer) (address : Nat) (message : Message) (restarted : Option Nat) : Buffer :=
  if is_duplicate d.agent message then { d with agent := move_to_end d.agent message }
  else
    let (agent, stage) := accept (remember d.agent message) ⟨d.count, address, message⟩ restarted
    ⟨agent, stage, d.count + 1⟩

/-- The messages that an idle delivery has taken from the inbox. -/
def Stage.messages : Stage → List Accepted
  | .Writing messages => messages
  | .Returning messages => messages
  | _ => []

def delivery_text (messages : List Accepted) : Text :=
  join ['\n'] (messages.map (fun m => "New message received:\n\n".toList ++ format_envelope m.message)) ++
    "\n\nRespond as appropriate. Complete all your work before stopping.".toList

def in_flight_messages (agent : AgentState) : List Accepted := agent.in_flight.rows.map (fun row => row.2.1)

/-- The messages whose objects the daemon holds. -/
def Buffer.live (d : Buffer) : List Accepted :=
  d.agent.pending_inbox ++ in_flight_messages d.agent ++ d.stage.messages

/-! ## Events -/

inductive Event where
  /-- The reader loop receives a message, in an object at an address of its own. -/
  | receive (address : Nat) (message : Message) (restarted : Option Nat)
  | take
  | write (succeeds : Bool)
  | put_back
  | check_messages (now : Int)
  | ack_messages (msg_ids : List Text)
  | reap (now : Int) (restarted : Option Nat)
  | turn_completed
  | process_exited (restarted : Option Nat)
  | turn_watchdog (restarted : Option Nat)

/-- The restart of a process that is gone, if messages are pending. -/
def restart_claude (agent : AgentState) (restarted : Option Nat) : AgentState :=
  let agent := { agent with is_busy := false, process := none }
  if agent.pending_inbox.isEmpty then agent else start_claude agent restarted

def step (d : Buffer) : Event → Buffer
  | .receive address message restarted =>
    if d.stage = .Waiting ∧ ∀ m ∈ d.live, m.address ≠ address then deliver d address message restarted else d
  | .take =>
    match d.stage with
    | .Delivering =>
      if d.agent.process.isNone || d.agent.pending_inbox.isEmpty then { d with stage := .Waiting }
      else { d with agent := { d.agent with pending_inbox := [] }, stage := .Writing d.agent.pending_inbox }
    | _ => d
  | .write succeeds =>
    match d.stage with
    | .Writing messages =>
      if succeeds then { d with agent := { d.agent with is_busy := true }, stage := .Waiting }
      else { d with stage := .Returning messages }
    | _ => d
  | .put_back =>
    match d.stage with
    | .Returning messages =>
      { d with
        agent := { d.agent with
          pending_inbox := messages.reverse.foldl (fun pending m => m :: pending) d.agent.pending_inbox }
        stage := .Waiting }
    | _ => d
  | .check_messages now => { d with agent := (check_messages d.agent now).1 }
  | .ack_messages msg_ids => { d with agent := (ack_messages d.agent msg_ids).1 }
  | .reap now restarted =>
    if d.stage = .Waiting then
      let (agent, requeued) := requeue_expired d.agent now
      if requeued = 0 then { d with agent := agent }
      else
        match agent.process with
        | none => { d with agent := start_claude agent restarted }
        | some _ => if agent.is_busy then { d with agent := agent } else { d with agent := agent, stage := .Delivering }
    else d
  | .turn_completed =>
    if d.stage = .Waiting then
      let agent := { d.agent with is_busy := false }
      { d with agent := agent, stage := if agent.pending_inbox.isEmpty then .Waiting else .Delivering }
    else d
  | .process_exited restarted =>
    if d.stage = .Waiting ∧ d.agent.process.isSome then { d with agent := restart_claude d.agent restarted } else d
  | .turn_watchdog restarted =>
    if d.stage = .Waiting ∧ d.agent.process.isSome ∧ d.agent.is_busy then
      { d with agent := restart_claude d.agent restarted } else d

def start : Buffer := ⟨.default, .Waiting, 0⟩

/-- The reader loop accepts the message for delivery. -/
def accepts (d : Buffer) (address : Nat) (message : Message) : Bool :=
  decide (d.stage = .Waiting) && d.live.all (fun m => decide (m.address ≠ address)) && !is_duplicate d.agent message

/-! ## What a section changes -/

variable {d : Buffer}

/-- The messages in flight whose time is over, in the order of the dictionary. -/
def expired_messages (agent : AgentState) (now : Int) : List Accepted :=
  (agent.in_flight.rows.filter (fun row => decide (now - row.2.2 > MESSAGE_VISIBILITY_TIMEOUT))).map (fun row => row.2.1)

/-- Each expired message is put before those that are pending, the last one first. -/
theorem requeue_expired_eq (agent : AgentState) (now : Int) : (requeue_expired agent now).1 = { agent with
    in_flight := (requeue_expired agent now).1.in_flight
    pending_inbox := (expired_messages agent now).reverse ++ agent.pending_inbox } := by
  have all : ∀ (rows : List (Text × Accepted × Int)) (agent : AgentState),
      let agent' := rows.foldl (fun agent row =>
        { agent with in_flight := agent.in_flight.erase row.1, pending_inbox := row.2.1 :: agent.pending_inbox }) agent
      agent' = { agent with
        in_flight := agent'.in_flight
        pending_inbox := (rows.map (fun row => row.2.1)).reverse ++ agent.pending_inbox } := by
    intro rows
    induction rows with
    | nil => exact fun _ => rfl
    | cons row rest ih =>
      intro agent
      have later := ih { agent with
        in_flight := agent.in_flight.erase row.1, pending_inbox := row.2.1 :: agent.pending_inbox }
      simpa using later
  exact all _ agent

theorem start_claude_frame (agent : AgentState) (process : Option Nat) :
    (start_claude agent process).pending_inbox = agent.pending_inbox ∧
      (start_claude agent process).in_flight = agent.in_flight := by
  cases process with
  | none => exact ⟨rfl, rfl⟩
  | some pid => exact ⟨rfl, rfl⟩

theorem restart_claude_frame (agent : AgentState) (process : Option Nat) :
    (restart_claude agent process).pending_inbox = agent.pending_inbox ∧
      (restart_claude agent process).in_flight = agent.in_flight := by
  unfold restart_claude
  dsimp only
  split
  · exact ⟨rfl, rfl⟩
  · exact start_claude_frame _ process

/-- A busy Claude's inbox that is full loses its oldest message to a new one; else the new one is added. -/
theorem accept_spec (agent : AgentState) (m : Accepted) (restarted : Option Nat) :
    (accept agent m restarted).1.in_flight = agent.in_flight ∧ (accept agent m restarted).2.messages = [] ∧
    (accept agent m restarted).1.pending_inbox =
      if agent.is_busy ∧ MAX_PENDING ≤ agent.pending_inbox.length then (agent.pending_inbox ++ [m]).tail
      else agent.pending_inbox ++ [m] := by
  unfold accept
  by_cases busy : agent.is_busy = true
  · simp only [busy, if_true, true_and, List.length_append, List.length_singleton, Nat.lt_add_one_iff]
    exact ⟨rfl, trivial⟩
  · simp only [busy, Bool.false_eq_true, if_false, false_and]
    cases agent.process with
    | none =>
      exact ⟨(start_claude_frame _ restarted).2, rfl, (start_claude_frame _ restarted).1⟩
    | some pid => exact ⟨rfl, rfl, rfl⟩

theorem remember_frame (agent : AgentState) (message : Message) :
    (remember agent message).pending_inbox = agent.pending_inbox ∧ (remember agent message).in_flight = agent.in_flight ∧
      (remember agent message).is_busy = agent.is_busy := by
  unfold remember
  split
  · exact ⟨rfl, rfl, rfl⟩
  · exact ⟨rfl, rfl, rfl⟩

theorem accepts_iff {address : Nat} {message : Message} : accepts d address message = true ↔
    (d.stage = .Waiting ∧ ∀ m ∈ d.live, m.address ≠ address) ∧ is_duplicate d.agent message = false := by
  simp [accepts]

/-- A message that the reader loop does not accept moves nothing. -/
theorem step_refused {address : Nat} {message : Message} (restarted : Option Nat) (refused : accepts d address message = false) :
    (step d (.receive address message restarted)).live = d.live ∧
      (step d (.receive address message restarted)).count = d.count := by
  simp only [step]
  split
  · next ready =>
    have duplicate : is_duplicate d.agent message = true := by
      by_contra fresh
      rw [Bool.not_eq_true] at fresh
      rw [accepts_iff.mpr ⟨ready, fresh⟩] at refused
      cases refused
    rw [deliver, if_pos duplicate]
    exact ⟨rfl, rfl⟩
  · exact ⟨rfl, rfl⟩

theorem step_accepted {address : Nat} {message : Message} (restarted : Option Nat) (accepted : accepts d address message = true) :
    let d' := step d (.receive address message restarted)
    let m : Accepted := ⟨d.count, address, message⟩
    d.stage.messages = [] ∧ d'.stage.messages = [] ∧ d'.count = d.count + 1 ∧ d'.agent.in_flight = d.agent.in_flight ∧
    d'.agent.pending_inbox = if d.agent.is_busy ∧ MAX_PENDING ≤ d.agent.pending_inbox.length
      then (d.agent.pending_inbox ++ [m]).tail else d.agent.pending_inbox ++ [m] := by
  obtain ⟨ready, fresh⟩ := accepts_iff.mp accepted
  have result : step d (.receive address message restarted) =
      ⟨(accept (remember d.agent message) ⟨d.count, address, message⟩ restarted).1,
        (accept (remember d.agent message) ⟨d.count, address, message⟩ restarted).2, d.count + 1⟩ := by
    rw [step, if_pos ready, deliver, if_neg (by simp [fresh])]
  obtain ⟨in_flight, stage, pending⟩ := accept_spec (remember d.agent message) ⟨d.count, address, message⟩ restarted
  obtain ⟨pending', in_flight', busy'⟩ := remember_frame d.agent message
  rw [result]
  refine ⟨by rw [ready.1]; rfl, stage, rfl, in_flight.trans in_flight', ?_⟩
  rw [pending, pending', busy']

end Aircd.Daemon

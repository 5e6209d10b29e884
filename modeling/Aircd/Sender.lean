import Aircd.Runs
import Aircd.Text
import Mathlib.Data.List.Range

/-!
# The outgoing messages of the daemon

`/messages/send` queues a message and `_outgoing_sender_loop` sends the queue. A
message that cannot be sent is queued again, behind what has come in meanwhile.
-/
namespace Aircd.Sender
open Aircd.Runs Aircd.Text

/-- A queued message, and its number among those queued, which the code does not keep. -/
structure Outgoing where
  target : Text
  content : Text
  number : Nat
  deriving DecidableEq

/-- Where `_outgoing_sender_loop` is. -/
inductive Phase where
  | Getting
  | Calling (message : Outgoing)
  | Sleeping
  | Stopped
  deriving DecidableEq

structure Daemon where
  /-- `_loop` and `_outgoing_queue` are set. -/
  ready : Bool
  outgoing_queue : List Outgoing
  phase : Phase
  shutdown : Bool
  /-- What has been queued so far. -/
  queued : List Outgoing
  /-- What `privmsg` has sent so far. -/
  sent : List Outgoing
  deriving DecidableEq

inductive Response where
  | status (text : Text)
  | error (text : Text) (code : Nat)
  deriving DecidableEq

/-- The HTTP thread has the event loop put the message on the queue. -/
def handle_send_message (d : Daemon) (target content : Text) : Daemon × Response :=
  if target.isEmpty || content.isEmpty then (d, .error "target and content required".toList 400)
  else if !d.ready then (d, .error "daemon not ready".toList 503)
  else
    let message : Outgoing := ⟨target, content, d.queued.length⟩
    ({ d with outgoing_queue := d.outgoing_queue ++ [message], queued := d.queued ++ [message] }, .status "queued".toList)

/-- The loop looks for the shutdown before each round. -/
def next_round (d : Daemon) : Phase := if d.shutdown then .Stopped else .Getting

inductive Event where
  | run
  | send_message (target content : Text)
  | get
  | privmsg (succeeds : Bool)
  | wake
  | shutdown

def step (d : Daemon) : Event → Daemon
  | .run => { d with ready := true }
  | .send_message target content => (handle_send_message d target content).1
  | .get =>
    match d.phase, d.outgoing_queue with
    | .Getting, message :: rest => { d with outgoing_queue := rest, phase := .Calling message }
    | _, _ => d
  | .privmsg succeeds =>
    match d.phase with
    | .Calling message =>
      if succeeds then { d with sent := d.sent ++ [message], phase := next_round d }
      else { d with outgoing_queue := d.outgoing_queue ++ [message], phase := .Sleeping }
    | _ => d
  | .wake =>
    match d.phase with
    | .Sleeping => { d with phase := next_round d }
    | _ => d
  | .shutdown => { d with shutdown := true }

def start : Daemon := ⟨false, [], .Getting, false, [], []⟩

/-! ## What is queued and what is sent -/

/-- The message in hand. -/
def Phase.hand : Phase → List Outgoing
  | .Calling message => [message]
  | _ => []

@[simp] theorem hand_calling (message : Outgoing) : (Phase.Calling message).hand = [message] := rfl
@[simp] theorem hand_getting : Phase.Getting.hand = [] := rfl
@[simp] theorem hand_sleeping : Phase.Sleeping.hand = [] := rfl

@[simp] theorem hand_next_round (d : Daemon) : (next_round d).hand = [] := by
  unfold next_round
  split
  · rfl
  · rfl

/-- What is sent, in hand and queued. -/
def Daemon.line (d : Daemon) : List Outgoing := d.sent ++ d.phase.hand ++ d.outgoing_queue

/-- The line has each queued message once. -/
structure Exact (d : Daemon) : Prop where
  line : d.line.Perm d.queued
  numbers : d.queued.map (fun message => message.number) = List.range d.queued.length

/-- The messages for each target come in the order in which they were queued. -/
def Ordered (messages : List Outgoing) : Prop := messages.Pairwise (fun m m' => m.target = m'.target → m.number < m'.number)

instance (messages : List Outgoing) : Decidable (Ordered messages) := inferInstanceAs (Decidable (List.Pairwise _ _))

/-- A call fails only for a message whose target no queued message has. -/
def FailsAlone (d : Daemon) : Event → Prop
  | .privmsg false => ∀ message ∈ d.phase.hand, ∀ waiting ∈ d.outgoing_queue, waiting.target ≠ message.target
  | _ => True

instance (d : Daemon) (event : Event) : Decidable (FailsAlone d event) :=
  match event with
  | .privmsg false => inferInstanceAs (Decidable (∀ message ∈ d.phase.hand, _))
  | .privmsg true => inferInstanceAs (Decidable True)
  | .run => inferInstanceAs (Decidable True)
  | .send_message _ _ => inferInstanceAs (Decidable True)
  | .get => inferInstanceAs (Decidable True)
  | .wake => inferInstanceAs (Decidable True)
  | .shutdown => inferInstanceAs (Decidable True)

/-- A step queues one message more, puts the message in hand behind the queue, or leaves the line as it is. -/
theorem step_cases (d : Daemon) (event : Event) :
    (∃ target content, (step d event).line = d.line ++ [⟨target, content, d.queued.length⟩] ∧
      (step d event).queued = d.queued ++ [⟨target, content, d.queued.length⟩]) ∧ FailsAlone d event ∨
    (∃ message, event = .privmsg false ∧ d.phase = .Calling message ∧
      (step d event).line = d.sent ++ d.outgoing_queue ++ [message] ∧ (step d event).queued = d.queued) ∨
    ((step d event).line = d.line ∧ (step d event).queued = d.queued) ∧ FailsAlone d event := by
  cases event with
  | run => exact .inr (.inr ⟨⟨rfl, rfl⟩, trivial⟩)
  | send_message target content =>
    simp only [step, handle_send_message]
    split
    · exact .inr (.inr ⟨⟨rfl, rfl⟩, trivial⟩)
    split
    · exact .inr (.inr ⟨⟨rfl, rfl⟩, trivial⟩)
    · exact .inl ⟨⟨target, content, by simp [Daemon.line], rfl⟩, trivial⟩
  | get =>
    refine .inr (.inr ⟨?_, trivial⟩)
    simp only [step]
    split
    · next phase queue => exact ⟨by simp [Daemon.line, phase, queue], rfl⟩
    · exact ⟨rfl, rfl⟩
  | privmsg succeeds =>
    cases phase : d.phase with
    | Calling message =>
      cases succeeds with
      | true =>
        refine .inr (.inr ⟨?_, trivial⟩)
        simp [step, phase, Daemon.line]
      | false =>
        refine .inr (.inl ⟨message, rfl, rfl, ?_⟩)
        simp [step, phase, Daemon.line]
    | _ =>
      refine .inr (.inr ?_)
      cases succeeds <;> simp [step, phase, FailsAlone, Phase.hand]
  | wake =>
    refine .inr (.inr ⟨?_, trivial⟩)
    simp only [step]
    split
    · next phase => exact ⟨by simp [Daemon.line, phase], rfl⟩
    · exact ⟨rfl, rfl⟩
  | shutdown => exact .inr (.inr ⟨⟨rfl, rfl⟩, trivial⟩)

theorem line_calling {d : Daemon} {message : Outgoing} (phase : d.phase = .Calling message) :
    d.line = d.sent ++ message :: d.outgoing_queue := by
  simp [Daemon.line, phase]

theorem exact_step (d : Daemon) (event : Event) (exact' : Exact d) : Exact (step d event) := by
  rcases step_cases d event with ⟨⟨target, content, line, queued⟩, _⟩ | ⟨message, rfl, phase, line, queued⟩ | ⟨⟨line, queued⟩, _⟩
  · constructor
    · rw [line, queued]
      exact exact'.line.append_right _
    · rw [queued, List.map_append, exact'.numbers, List.length_append, List.length_singleton, List.range_succ]
      rfl
  · constructor
    · have before := exact'.line
      rw [line_calling phase] at before
      rw [line, queued, List.append_assoc]
      have later : (d.outgoing_queue ++ [message]).Perm (message :: d.outgoing_queue) := List.perm_append_singleton _ _
      exact (later.append_left d.sent).trans before
    · rw [queued]
      exact exact'.numbers
  · constructor
    · rw [line, queued]
      exact exact'.line
    · rw [queued]
      exact exact'.numbers

/-- A message in the line has a number below that of the next one queued. -/
theorem number_lt {d : Daemon} (exact' : Exact d) {message : Outgoing} (inside : message ∈ d.line) :
    message.number < d.queued.length := by
  have queued := exact'.line.subset inside
  have listed : message.number ∈ d.queued.map (fun message => message.number) := List.mem_map_of_mem queued
  rw [exact'.numbers] at listed
  exact List.mem_range.mp listed

theorem ordered_step (d : Daemon) (event : Event) (exact' : Exact d) (ordered : Ordered d.line) (alone : FailsAlone d event) :
    Ordered (step d event).line := by
  rcases step_cases d event with ⟨⟨target, content, line, _⟩, _⟩ | ⟨message, rfl, phase, line, _⟩ | ⟨⟨line, _⟩, _⟩
  · rw [line]
    refine List.pairwise_append.mpr ⟨ordered, List.pairwise_singleton _ _, ?_⟩
    intro before inside new same
    rw [List.mem_singleton.mp same]
    exact fun _ => number_lt exact' inside
  · rw [line_calling phase] at ordered
    obtain ⟨sent, waiting, between⟩ := List.pairwise_append.mp ordered
    have elsewhere : ∀ other ∈ d.outgoing_queue, other.target ≠ message.target := alone message (by simp [phase])
    rw [line, List.append_assoc]
    refine List.pairwise_append.mpr ⟨sent, ?_, ?_⟩
    · refine List.pairwise_append.mpr ⟨(List.pairwise_cons.mp waiting).2, List.pairwise_singleton _ _, ?_⟩
      intro other inside last same target
      rw [List.mem_singleton.mp same] at target
      exact absurd target (elsewhere other inside)
    · intro before inside after listed
      refine between before inside after ?_
      rw [List.mem_cons]
      rcases List.mem_append.mp listed with queued | last
      · exact .inr queued
      · exact .inl (List.mem_singleton.mp last)
  · rw [line]
    exact ordered

/-- A call that fails while a message for the same target waits puts the two out of order. -/
theorem ordered_lost (d : Daemon) (event : Event) (ordered : Ordered d.line) (overtaken : ¬ FailsAlone d event) :
    ¬ Ordered (step d event).line := by
  rcases step_cases d event with ⟨_, alone⟩ | ⟨message, rfl, phase, line, _⟩ | ⟨_, alone⟩
  · exact absurd alone overtaken
  · intro still
    apply overtaken
    intro hand in_hand waiting queued target
    obtain rfl : hand = message := by simpa [phase] using in_hand
    rw [line_calling phase] at ordered
    have before := (List.pairwise_cons.mp (List.pairwise_append.mp ordered).2.1).1 waiting queued target.symm
    rw [line] at still
    have after := (List.pairwise_append.mp still).2.2 waiting (List.mem_append_right _ queued) hand (by simp) target
    omega
  · exact absurd alone overtaken

theorem exact_start : Exact start := ⟨List.Perm.refl _, rfl⟩

/-- No message is lost or doubled in any run. The line keeps the order of each target exactly as long as no call
fails while a message for its target waits, and what is sent then keeps it too. -/
theorem sent_in_order (events : List Event) :
    Always step Exact start events ∧
    (Always step (fun d => Ordered d.line) start events ↔ AllSteps step FailsAlone start events) ∧
    (AllSteps step FailsAlone start events → Always step (fun d => Ordered d.sent) start events) := by
  have line : Always step (fun d => Ordered d.line) start events ↔ AllSteps step FailsAlone start events :=
    @always_iff_allSteps _ _ step Exact (fun d => Ordered d.line) FailsAlone (fun _ => True)
      (fun d event exact' _ => exact_step d event exact') (fun d event exact' ordered _ => ordered_step d event exact' ordered)
      (fun d event _ ordered _ => ordered_lost d event ordered) events _ exact_start List.Pairwise.nil (by simp)
  refine ⟨?_, line, ?_⟩
  · rw [always_iff_run]
    intro before after split
    exact run_invariant exact_step before exact_start
  · intro alone
    have whole := always_iff_run.mp (line.mpr alone)
    rw [always_iff_run]
    intro before after split
    have ordered := whole before after split
    exact ordered.sublist ((List.sublist_append_left _ _).trans (List.sublist_append_left _ _))

/-- The messages of two targets, of which one cannot be sent at first. -/
def two_targets : List Event :=
  [.run, .send_message "#c".toList "one".toList, .send_message "#d".toList "two".toList, .get, .privmsg false, .wake,
    .get, .privmsg true, .get, .privmsg true]

theorem sent_in_order_two_targets : Ordered (run step start two_targets).sent ∧
    (run step start two_targets).sent.map (fun message => message.content) = ["two".toList, "one".toList] := by
  have ordered := always_iff_run.mp ((sent_in_order two_targets).2.2 (by decide)) two_targets [] (by simp)
  exact ⟨ordered, by decide⟩

/-- The first of two messages for one target is sent last when its first call fails. -/
theorem overtaken : let events := [.run, .send_message "#c".toList "one".toList, .send_message "#c".toList "two".toList,
      .get, .privmsg false, .wake, .get, .privmsg true, .get, .privmsg true]
    (run step start events).sent.map (fun message => message.content) = ["two".toList, "one".toList] ∧
    ¬ Ordered (run step start events).sent := by
  decide

end Aircd.Sender

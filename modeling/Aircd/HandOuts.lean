import Aircd.AtLeastOnce
import Mathlib.Data.List.Sort

/-!
# Hand-outs

The order in which `check_messages` hands messages out for the first time, which is
the order in which they were received, and the order in which expired messages come
back to the inbox.
-/
namespace Aircd.Daemon
open Aircd.Runs Aircd.Text

variable {agent : AgentState} {d : Buffer} {now : Int}

/-- The messages of the channel are in the order in which they were received. -/
def InOrder (channel : Text) (messages : List Accepted) : Prop :=
  (messages.filter (fun m => decide (m.message.channel = channel))).Pairwise (fun a b => a.serial < b.serial)
instance (channel : Text) (messages : List Accepted) : Decidable (InOrder channel messages) :=
  inferInstanceAs (Decidable (List.Pairwise _ _))

/-! ## Batches -/

/-- The batch after a requeue: what `check_messages` returns, and an idle delivery takes. -/
def batch (agent : AgentState) (now : Int) : List Accepted := (requeue_expired agent now).1.pending_inbox

theorem batch_eq (agent : AgentState) (now : Int) :
    batch agent now = (expired_messages agent now).reverse ++ agent.pending_inbox := by
  rw [batch, requeue_expired_eq]

theorem check_messages_batch (agent : AgentState) (now : Int) : (check_messages agent now).2 =
    (batch agent now).map (fun m => (message_to_dict m.message, delivery_id m)) := rfl

theorem expired_sublist (agent : AgentState) (now : Int) : (expired_messages agent now).Sublist (in_flight_messages agent) :=
  List.filter_sublist.map _

theorem take_batch (running : agent.process.isSome) (some : batch agent now ≠ []) (count : Nat) :
    (step ⟨(requeue_expired agent now).1, .Delivering, count⟩ .take).stage = .Writing (batch agent now) := by
  have process : (requeue_expired agent now).1.process = agent.process := by rw [requeue_expired_eq]
  have waiting : (requeue_expired agent now).1.pending_inbox ≠ [] := some
  obtain ⟨pid, process'⟩ := Option.isSome_iff_exists.mp running
  simp [step, process, process', waiting, batch]

theorem length_expired (agent : AgentState) (now : Int) : (requeue_expired agent now).2 = (expired_messages agent now).length := by
  simp [requeue_expired, expired_messages]

/-- When the reaper finds Claude idle, the idle delivery that follows takes the batch. -/
theorem reap_batch (waiting : d.stage = .Waiting) (running : d.agent.process.isSome) (idle : d.agent.is_busy = false)
    (expired : expired_messages d.agent now ≠ []) (restarted : Option Nat) :
    (run step d [.reap now restarted, .take]).stage = .Writing (batch d.agent now) := by
  have some : batch d.agent now ≠ [] := by
    rw [batch_eq]
    simp [expired]
  have process : (requeue_expired d.agent now).1.process = d.agent.process := by rw [requeue_expired_eq]
  have busy : (requeue_expired d.agent now).1.is_busy = d.agent.is_busy := by rw [requeue_expired_eq]
  have requeued : (requeue_expired d.agent now).2 ≠ 0 := by simpa [length_expired] using expired
  obtain ⟨pid, process'⟩ := Option.isSome_iff_exists.mp running
  have reaped : step d (.reap now restarted) = ⟨(requeue_expired d.agent now).1, .Delivering, d.count⟩ := by
    simp [step, waiting, requeued, process, process', busy, idle]
  rw [run_cons, run_cons, run_nil, reaped]
  exact take_batch running some d.count

/-! ## First hand-outs -/

/-- The buffer, with the messages that `check_messages` has handed out, in the order of their first hand-outs. -/
structure HandOuts where
  buffer : Buffer
  handed : List Accepted

namespace HandOuts

/-- The messages that an event hands out for the first time. -/
def newly_handed (h : HandOuts) : Event → List Accepted
  | .check_messages now => (batch h.buffer.agent now).filter (fun m => !h.handed.contains m)
  | _ => []

def step (h : HandOuts) (e : Event) : HandOuts := ⟨Daemon.step h.buffer e, h.handed ++ newly_handed h e⟩

/-- The messages that wait and were never handed out. -/
def fresh (h : HandOuts) : List Accepted :=
  (h.buffer.stage.messages ++ h.buffer.agent.pending_inbox).filter (fun m => !h.handed.contains m)

end HandOuts

def first_hand_outs (events : List Event) : List Accepted := (run HandOuts.step ⟨start, []⟩ events).handed

theorem refused_frame {address : Nat} {message : Message} (restarted : Option Nat) (refused : accepts d address message = false) :
    (step d (.receive address message restarted)).stage = d.stage ∧
      (step d (.receive address message restarted)).agent.pending_inbox = d.agent.pending_inbox := by
  by_cases ready : d.stage = .Waiting ∧ ∀ m ∈ d.live, m.address ≠ address
  · have duplicate : is_duplicate d.agent message = true := by
      by_contra new
      rw [accepts_iff.mpr ⟨ready, by simpa using new⟩] at refused
      cases refused
    rw [step, if_pos ready, deliver, if_pos duplicate]
    exact ⟨rfl, rfl⟩
  · rw [step, if_neg ready]
    exact ⟨rfl, rfl⟩

/-- What waits in the inbox or with the idle delivery waited before, is new, or returns from flight. -/
def Waits (d d' : Buffer) (new : List Accepted) : Prop :=
  ∃ back, (∀ m ∈ back, m ∈ in_flight_messages d.agent) ∧
    (d'.stage.messages ++ d'.agent.pending_inbox).Sublist (back ++ (d.stage.messages ++ d.agent.pending_inbox) ++ new)

theorem Waits.same {d' : Buffer} (stage : d'.stage.messages = d.stage.messages) (pending : d'.agent.pending_inbox = d.agent.pending_inbox) :
    Waits d d' [] := by
  refine ⟨[], by simp, ?_⟩
  rw [stage, pending, List.nil_append, List.append_nil]

theorem Waits.moved {d' : Buffer}
    (moved : d'.stage.messages ++ d'.agent.pending_inbox = d.stage.messages ++ d.agent.pending_inbox) : Waits d d' [] := by
  refine ⟨[], by simp, ?_⟩
  rw [moved, List.nil_append, List.append_nil]

/-- A requeue while the idle delivery holds nothing. -/
theorem Waits.requeued {d' : Buffer} (waiting : d.stage = .Waiting) (stage : d'.stage.messages = [])
    (pending : d'.agent.pending_inbox = batch d.agent now) : Waits d d' [] := by
  refine ⟨(expired_messages d.agent now).reverse, ?_, ?_⟩
  · intro m inside
    exact (expired_sublist d.agent now).subset (List.mem_reverse.mp inside)
  · rw [stage, pending, batch_eq, waiting]
    simp [Stage.messages]

theorem waits_receive (d : Buffer) (address : Nat) (message : Message) (restarted : Option Nat) :
    Waits d (step d (.receive address message restarted)) (newly_accepted d (.receive address message restarted)) := by
  cases accepted : accepts d address message with
  | false =>
    have count := (step_refused restarted accepted).2
    have none : newly_accepted d (.receive address message restarted) = [] := by simp [newly_accepted, count]
    have kept := refused_frame restarted accepted
    rw [none]
    exact .same (congrArg Stage.messages kept.1) kept.2
  | true =>
    obtain ⟨stage, stage', count, _, pending⟩ := step_accepted restarted accepted
    have new : newly_accepted d (.receive address message restarted) = [⟨d.count, address, message⟩] := by
      simp [newly_accepted, count]
    refine ⟨[], by simp, ?_⟩
    rw [stage, stage', pending, new, List.nil_append, List.nil_append, List.nil_append]
    split
    · exact List.tail_sublist _
    · exact List.Sublist.refl _

theorem waits_reap (d : Buffer) (now : Int) (restarted : Option Nat) : Waits d (step d (.reap now restarted)) [] := by
  simp only [step]
  split
  · next waiting =>
    split
    · exact .requeued waiting (by rw [waiting]; rfl) rfl
    · split
      · exact .requeued waiting (by rw [waiting]; rfl) (start_claude_frame _ restarted).1
      · split
        · exact .requeued waiting (by rw [waiting]; rfl) rfl
        · exact .requeued waiting rfl rfl
  · exact .same rfl rfl

theorem waits_step (d : Buffer) (e : Event) : Waits d (step d e) (newly_accepted d e) := by
  cases e with
  | receive address message restarted => exact waits_receive d address message restarted
  | check_messages now => exact ⟨[], by simp, by simp [step, check_messages, newly_accepted]⟩
  | ack_messages msg_ids => exact .same rfl (ack_messages_spec d.agent msg_ids).1
  | reap now restarted => exact waits_reap d now restarted
  | take =>
    simp only [step]
    split
    · next delivering =>
      split
      · exact .same (by rw [delivering]; rfl) rfl
      · exact .moved (by simp [delivering, Stage.messages])
    · exact .same rfl rfl
  | write succeeds =>
    simp only [step]
    split
    · next writing =>
      split
      · exact ⟨[], by simp, by simp [Stage.messages, newly_accepted]⟩
      · exact .same (by rw [writing]; rfl) rfl
    · exact .same rfl rfl
  | put_back =>
    simp only [step]
    split
    · next returning => exact .moved (by simp [returning, Stage.messages])
    · exact .same rfl rfl
  | turn_completed =>
    simp only [step]
    split
    · next waiting =>
      refine .same ?_ rfl
      rw [waiting]
      split
      · rfl
      · rfl
    · exact .same rfl rfl
  | process_exited restarted =>
    simp only [step]
    split
    · exact .same rfl (restart_claude_frame _ restarted).1
    · exact .same rfl rfl
  | turn_watchdog restarted =>
    simp only [step]
    split
    · exact .same rfl (restart_claude_frame _ restarted).1
    · exact .same rfl rfl

/-- While the idle delivery holds messages, nothing is pending. -/
def Alone (d : Buffer) : Prop := d.stage.messages = [] ∨ d.agent.pending_inbox = []

theorem Alone.step (alone : Alone d) (e : Event) : Alone (step d e) := by
  cases e with
  | receive address message restarted =>
    cases accepted : accepts d address message with
    | false =>
      obtain ⟨stage, pending⟩ := refused_frame restarted accepted
      rw [Alone, stage, pending]
      exact alone
    | true => exact .inl (step_accepted restarted accepted).2.1
  | check_messages now => exact .inr rfl
  | ack_messages msg_ids =>
    rcases alone with idle | empty
    · exact .inl idle
    · exact .inr ((ack_messages_spec d.agent msg_ids).1.trans empty)
  | take =>
    simp only [Daemon.step]
    split
    · split
      · exact .inl rfl
      · exact .inr rfl
    · exact alone
  | write succeeds =>
    simp only [Daemon.step]
    split
    · next messages writing =>
      split
      · exact .inl rfl
      · rcases alone with idle | empty
        · rw [writing] at idle
          exact .inl idle
        · exact .inr empty
    · exact alone
  | put_back =>
    simp only [Daemon.step]
    split
    · exact .inl rfl
    · exact alone
  | reap now restarted =>
    simp only [Daemon.step]
    split
    · next waiting =>
      left
      split
      · rw [waiting]; rfl
      · split
        · rw [waiting]; rfl
        · split
          · rw [waiting]; rfl
          · rfl
    · exact alone
  | turn_completed =>
    simp only [Daemon.step]
    split
    · left
      dsimp only
      split
      · rfl
      · rfl
    · exact alone
  | process_exited restarted =>
    simp only [Daemon.step]
    split
    · next ready =>
      left
      rw [ready.1]
      rfl
    · exact alone
  | turn_watchdog restarted =>
    simp only [Daemon.step]
    split
    · next ready =>
      left
      rw [ready.1]
      rfl
    · exact alone

/-- The messages that wait and are handed out for the first time are in the order in which they were received. -/
structure Ordered (h : HandOuts) : Prop where
  received : (h.handed ++ h.fresh).Pairwise (fun a b => a.serial < b.serial)
  counted : ∀ m ∈ h.handed ++ h.fresh, m.serial < h.buffer.count
  flying : ∀ m ∈ in_flight_messages h.buffer.agent, m ∈ h.handed
  alone : Alone h.buffer

variable {h : HandOuts}

/-- What is handed out was fresh, and what is fresh was so before or is accepted now. -/
theorem Ordered.moves (ordered : Ordered h) (e : Event) :
    ((h.step e).handed ++ (h.step e).fresh).Sublist (h.handed ++ h.fresh ++ newly_accepted h.buffer e) := by
  obtain ⟨back, flying, moved⟩ := waits_step h.buffer e
  have known : back.filter (fun m => !h.handed.contains m) = [] := by
    rw [List.filter_eq_nil_iff]
    intro m inside
    simpa using ordered.flying m (flying m inside)
  have still (none : h.newly_handed e = []) :
      ((h.step e).handed ++ (h.step e).fresh).Sublist (h.handed ++ h.fresh ++ newly_accepted h.buffer e) := by
    have waiting := moved.filter (fun m => !h.handed.contains m)
    rw [List.filter_append (back ++ _), List.filter_append back, known, List.nil_append] at waiting
    have same : (h.step e).handed = h.handed := by rw [HandOuts.step, none, List.append_nil]
    rw [HandOuts.fresh, same, List.append_assoc]
    exact (waiting.trans (List.filter_sublist.append_left _)).append_left _
  cases e with
  | check_messages now =>
    have returned : (expired_messages h.buffer.agent now).reverse.filter (fun m => !h.handed.contains m) = [] := by
      rw [List.filter_eq_nil_iff]
      intro m inside
      simpa using ordered.flying m ((expired_sublist h.buffer.agent now).subset (List.mem_reverse.mp inside))
    have new : h.newly_handed (.check_messages now) = h.buffer.agent.pending_inbox.filter (fun m => !h.handed.contains m) := by
      rw [HandOuts.newly_handed, batch_eq, List.filter_append, returned, List.nil_append]
    have handed : (h.step (.check_messages now)).handed =
        h.handed ++ h.buffer.agent.pending_inbox.filter (fun m => !h.handed.contains m) := congrArg (h.handed ++ ·) new
    have stage : (h.step (.check_messages now)).buffer.stage = h.buffer.stage := rfl
    have pending : (h.step (.check_messages now)).buffer.agent.pending_inbox = [] := rfl
    have none : newly_accepted h.buffer (.check_messages now) = [] := rfl
    rw [none, List.append_nil]
    rcases ordered.alone with idle | empty
    · have nothing : (h.step (.check_messages now)).fresh = [] := by
        rw [HandOuts.fresh, stage, pending, idle]
        rfl
      rw [nothing, handed, HandOuts.fresh, idle, List.append_nil, List.nil_append]
    · have same : (h.step (.check_messages now)).handed = h.handed := by
        rw [handed, empty]
        exact List.append_nil _
      rw [HandOuts.fresh, HandOuts.fresh, same, stage, pending, empty]
  | _ => exact still rfl

theorem Ordered.step (ordered : Ordered h) (e : Event) : Ordered (h.step e) := by
  have later : (h.handed ++ h.fresh ++ newly_accepted h.buffer e).Pairwise (fun a b => a.serial < b.serial) ∧
      ∀ m ∈ h.handed ++ h.fresh ++ newly_accepted h.buffer e, m.serial < (Daemon.step h.buffer e).count := by
    rw [count_step]
    rcases newly_accepted_cases h.buffer e with none | ⟨address, message, one⟩
    · rw [none, List.append_nil]
      exact ⟨ordered.received, ordered.counted⟩
    · rw [one, List.pairwise_append]
      refine ⟨⟨ordered.received, List.pairwise_singleton _ _, ?_⟩, ?_⟩
      · intro m inside new listed
        rw [List.mem_singleton.mp listed]
        exact ordered.counted m inside
      · intro m inside
        rcases List.mem_append.mp inside with old | new
        · exact Nat.lt_succ_of_lt (ordered.counted m old)
        · rw [List.mem_singleton.mp new]
          exact Nat.lt_succ_self _
  refine ⟨later.1.sublist (ordered.moves e), fun m inside => later.2 m ((ordered.moves e).subset inside), ?_,
    ordered.alone.step e⟩
  intro m inside
  obtain ⟨row, listed, rfl⟩ := mem_in_flight.mp inside
  rcases in_flight_step h.buffer e listed with old | ⟨now, rfl, m, waiting, rfl⟩
  · exact List.mem_append_left _ (ordered.flying row.2.1 (mem_in_flight.mpr ⟨row, old, rfl⟩))
  · by_cases before : m ∈ h.handed
    · exact List.mem_append_left _ before
    · exact List.mem_append_right _ (List.mem_filter.mpr ⟨waiting, by simpa using before⟩)

theorem hand_outs_buffer (events : List Event) (h : HandOuts) :
    (run HandOuts.step h events).buffer = run step h.buffer events := by
  induction events generalizing h with
  | nil => rfl
  | cons e rest ih => exact ih (h.step e)

/-- Messages are handed out for the first time in the order in which they were received, and those in flight were handed out. -/
theorem first_hand_outs_spec (events : List Event) :
    (first_hand_outs events).Pairwise (fun a b => a.serial < b.serial) ∧
    ∀ m ∈ in_flight_messages (run step start events).agent, m ∈ first_hand_outs events := by
  have begins : Ordered ⟨start, []⟩ := by
    refine ⟨List.Pairwise.nil, ?_, ?_, .inl rfl⟩
    · intro m inside; cases inside
    · intro m inside; cases inside
  have ordered : Ordered (run HandOuts.step ⟨start, []⟩ events) := run_invariant (fun _ e inv => inv.step e) events begins
  refine ⟨ordered.received.sublist (List.sublist_append_left _ _), ?_⟩
  intro m inside
  rw [← hand_outs_buffer events ⟨start, []⟩] at inside
  exact ordered.flying m inside

/-! ## The order after a requeue -/

/-- The expired messages come back in the order in which they were first handed out, before those that
    wait, and the batch lists the messages of a channel in the order in which they were received. -/
structure Redelivered (first : List Accepted) (agent : AgentState) (now : Int) : Prop where
  pending : batch agent now = first.filter (fun m => (expired_messages agent now).contains m) ++ agent.pending_inbox
  received : ∀ channel, InOrder channel (batch agent now)

/-- The dictionary holds the expired messages the other way around than they were first handed out and received,
    and they were received before those of their channel that wait in order. -/
structure NewestFirst (first : List Accepted) (agent : AgentState) (now : Int) : Prop where
  handed : (expired_messages agent now).reverse.Sublist first
  received : ∀ channel, InOrder channel (expired_messages agent now).reverse
  waiting : ∀ channel, InOrder channel agent.pending_inbox
  earlier : ∀ m ∈ expired_messages agent now, ∀ m' ∈ agent.pending_inbox, m.message.channel = m'.message.channel → m.serial < m'.serial

section
variable {α : Type} [DecidableEq α]

/-- A part of a list without repetitions, in its order, is what the list has of the elements of the part. -/
theorem sublist_iff_filter {whole : List α} (distinct : whole.Nodup) (part : List α) :
    part.Sublist whole ↔ whole.filter (fun a => part.contains a) = part := by
  constructor
  · intro within
    induction within with
    | slnil => rfl
    | @cons part whole a within ih =>
      obtain ⟨fresh, distinct⟩ := List.nodup_cons.mp distinct
      rw [List.filter_cons_of_neg (by simpa using mt (within.subset ·) fresh), ih distinct]
    | @cons_cons part whole a within ih =>
      obtain ⟨fresh, distinct⟩ := List.nodup_cons.mp distinct
      have others : whole.filter (fun b => (a :: part).contains b) = whole.filter (fun b => part.contains b) := by
        apply List.filter_congr
        intro b inside
        have other : b ≠ a := fun same => fresh (same ▸ inside)
        simp [other]
      rw [List.filter_cons_of_pos (by simp), others, ih distinct]
  · intro same
    rw [← same]
    exact List.filter_sublist

end

theorem inOrder_append {channel : Text} {first second : List Accepted} : InOrder channel (first ++ second) ↔
    InOrder channel first ∧ InOrder channel second ∧
      ∀ m ∈ first, m.message.channel = channel → ∀ m' ∈ second, m'.message.channel = channel → m.serial < m'.serial := by
  rw [InOrder, List.filter_append, List.pairwise_append]
  simp only [List.mem_filter, decide_eq_true_eq, and_imp, InOrder]

theorem redelivered_iff {first : List Accepted} (distinct : first.Nodup) (agent : AgentState) (now : Int) :
    Redelivered first agent now ↔ NewestFirst first agent now := by
  have listed : first.filter (fun m => (expired_messages agent now).contains m) =
      first.filter (fun m => (expired_messages agent now).reverse.contains m) := by
    simp only [List.contains_reverse]
  have handed : batch agent now = first.filter (fun m => (expired_messages agent now).contains m) ++ agent.pending_inbox ↔
      (expired_messages agent now).reverse.Sublist first := by
    rw [batch_eq, List.append_cancel_right_eq, listed, sublist_iff_filter distinct, eq_comm]
  have ordered (channel : Text) := @inOrder_append channel (expired_messages agent now).reverse agent.pending_inbox
  constructor
  · rintro ⟨pending, received⟩
    have parts (channel : Text) := (ordered channel).mp (batch_eq agent now ▸ received channel)
    refine ⟨handed.mp pending, fun channel => (parts channel).1, fun channel => (parts channel).2.1, ?_⟩
    intro m expired m' waits same
    exact (parts m'.message.channel).2.2 m (List.mem_reverse.mpr expired) same m' waits rfl
  · rintro ⟨within, received, waiting, earlier⟩
    refine ⟨handed.mpr within, ?_⟩
    intro channel
    rw [batch_eq]
    refine (ordered channel).mpr ⟨received channel, waiting channel, ?_⟩
    intro m expired here m' waits here'
    exact earlier m (List.mem_reverse.mp expired) m' waits (here.trans here'.symm)

/-- In a run, where messages are first handed out as they were received, the first two conditions say that
    the expired messages stand in the dictionary with the newest one first. -/
theorem newestFirst_run (events : List Event) (now : Int) :
    let agent := (run step start events).agent
    NewestFirst (first_hand_outs events) agent now ↔
      (expired_messages agent now).Pairwise (fun a b => b.serial < a.serial) ∧
      (∀ channel, InOrder channel agent.pending_inbox) ∧
      ∀ m ∈ expired_messages agent now, ∀ m' ∈ agent.pending_inbox, m.message.channel = m'.message.channel → m.serial < m'.serial := by
  intro agent
  obtain ⟨received, flying⟩ := first_hand_outs_spec events
  constructor
  · rintro ⟨handed, _, waiting, earlier⟩
    exact ⟨List.pairwise_reverse.mp (received.sublist handed), waiting, earlier⟩
  · rintro ⟨newest, waiting, earlier⟩
    have oldest : (expired_messages agent now).reverse.Pairwise (fun a b => a.serial < b.serial) := List.pairwise_reverse.mpr newest
    have order : Std.Antisymm (fun a b : Accepted => a.serial < b.serial) := ⟨fun a b less more => absurd less (Nat.lt_asymm more)⟩
    have distinct : (expired_messages agent now).reverse.Nodup := oldest.imp (fun less same => absurd (same ▸ less) (Nat.lt_irrefl _))
    have known : (expired_messages agent now).reverse ⊆ first_hand_outs events := by
      intro m inside
      exact flying m ((expired_sublist agent now).subset (List.mem_reverse.mp inside))
    refine ⟨?_, fun _ => oldest.filter _, waiting, earlier⟩
    exact List.sublist_of_subperm_of_pairwise (List.subperm_of_subset distinct known) oldest received

/-- A requeue brings the expired messages back in the order of their first hand-outs, and the batch in the order in which
    its messages were received, exactly when the dictionary holds the expired ones the other way around. The batch is what
    `check_messages` answers, and what an idle delivery takes that follows the reaper. -/
theorem requeue_in_order_iff (now : Int) :
    (∀ (agent : AgentState) (first : List Accepted), first.Nodup →
      (Redelivered first agent now ↔ NewestFirst first agent now)) ∧
    (∀ events, let agent := (run step start events).agent
      Redelivered (first_hand_outs events) agent now ↔
        (expired_messages agent now).Pairwise (fun a b => b.serial < a.serial) ∧
        (∀ channel, InOrder channel agent.pending_inbox) ∧
        ∀ m ∈ expired_messages agent now, ∀ m' ∈ agent.pending_inbox, m.message.channel = m'.message.channel → m.serial < m'.serial) ∧
    (∀ agent, (check_messages agent now).2 = (batch agent now).map (fun m => (message_to_dict m.message, delivery_id m))) ∧
    ∀ (d : Buffer) (restarted : Option Nat), d.stage = .Waiting → d.agent.process.isSome → d.agent.is_busy = false →
      expired_messages d.agent now ≠ [] →
      (run step d [.reap now restarted, .take]).stage = .Writing (batch d.agent now) := by
  refine ⟨fun agent first distinct => redelivered_iff distinct agent now, ?_, fun agent => check_messages_batch agent now,
    fun d restarted waiting running idle expired => reap_batch waiting running idle expired restarted⟩
  intro events
  have distinct : (first_hand_outs events).Nodup :=
    (first_hand_outs_spec events).1.imp (fun less same => absurd (same ▸ less) (Nat.lt_irrefl _))
  exact (redelivered_iff distinct _ now).trans (newestFirst_run events now)

/-- A message is handed out, and nothing else has come when Claude is done. -/
def single : List Event := [.receive 1 note (some 7), .check_messages 0, .turn_completed]

theorem requeue_in_order_single :
    let d := run step start single
    Redelivered (first_hand_outs single) d.agent 31000000 ∧
    (run step d [.reap 31000000 none, .take]).stage = .Writing (batch d.agent 31000000) := by
  have empty : (run step start single).agent.pending_inbox = [] := by decide
  refine ⟨((requeue_in_order_iff 31000000).2.1 single).mpr ⟨by decide, ?_, by decide⟩,
    (requeue_in_order_iff 31000000).2.2.2 (run step start single) none (by decide) (by decide) (by decide) (by decide)⟩
  intro channel
  rw [empty]
  exact List.Pairwise.nil

/-- Two messages handed out together that no one acknowledges. -/
def unacknowledged : List Event := notes 1 2 ++ [.check_messages 0]

/-- A second message is handed out ten seconds after a first one, and each returns with a requeue of its own. -/
def one_by_one : List Event :=
  notes 1 1 ++ [.check_messages 0] ++ notes 2 1 ++ [.check_messages 10000000, .reap 31000000 none]

/-- Messages that expire together come back the other way around; and one that expires alone comes back before an
    earlier one that waits. -/
theorem two_expired_swap :
    (let agent := (run step start unacknowledged).agent
     let now := MESSAGE_VISIBILITY_TIMEOUT + 1
     let first := first_hand_outs unacknowledged
     batch agent now ≠ first.filter (fun m => (expired_messages agent now).contains m) ++ agent.pending_inbox ∧
     ¬ InOrder "#c".toList (batch agent now) ∧
     ((batch agent now).map (·.serial), first.map (·.serial), agent.pending_inbox) = ([1, 0], [0, 1], [])) ∧
    (let agent := (run step start one_by_one).agent
     let now := 41000000
     (expired_messages agent now).length = 1 ∧ ¬ InOrder "#c".toList (batch agent now) ∧
     ((batch agent now).map (·.serial), (first_hand_outs one_by_one).map (·.serial)) = ([1, 0], [0, 1])) := by
  decide

end Aircd.Daemon

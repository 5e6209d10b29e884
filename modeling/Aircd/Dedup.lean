import Aircd.Delivery
import Aircd.Recency

/-!
# Deduplication

The `OrderedDict` of the reader loop is a bounded list of the msg-ids that came
last, over every run of the delivery buffer.
-/
namespace Aircd.Daemon
open Aircd.Runs Aircd.Text Aircd.Recency

/-- The msg-id that an event takes to the deduplication of the reader loop. -/
def dedup_id (d : Buffer) : Event → List Text
  | .receive address message _ =>
    if d.stage = .Waiting ∧ ∀ m ∈ d.live, m.address ≠ address then
      if (msg_id message).isEmpty then [] else [msg_id message]
    else []
  | _ => []

/-- The msg-ids that the events of a run take there, in order. -/
def dedup_ids : Buffer → List Event → List Text
  | _, [] => []
  | d, e :: rest => dedup_id d e ++ dedup_ids (step d e) rest

variable {d : Buffer}

/-! ## What changes the list -/

theorem seen_start_claude (agent : AgentState) (process : Option Nat) :
    (start_claude agent process).seen_msg_ids = agent.seen_msg_ids := by
  cases process with
  | none => rfl
  | some pid => rfl

theorem seen_restart_claude (agent : AgentState) (process : Option Nat) :
    (restart_claude agent process).seen_msg_ids = agent.seen_msg_ids := by
  unfold restart_claude
  dsimp only
  split
  · rfl
  · exact seen_start_claude _ process

theorem seen_accept (agent : AgentState) (m : Accepted) (restarted : Option Nat) :
    (accept agent m restarted).1.seen_msg_ids = agent.seen_msg_ids := by
  unfold accept
  dsimp only
  split
  · rfl
  · cases agent.process with
    | none => exact seen_start_claude _ restarted
    | some pid => rfl

theorem seen_requeue_expired (agent : AgentState) (now : Int) :
    (requeue_expired agent now).1.seen_msg_ids = agent.seen_msg_ids := by
  rw [requeue_expired_eq]

theorem seen_check_messages (agent : AgentState) (now : Int) :
    (check_messages agent now).1.seen_msg_ids = agent.seen_msg_ids := seen_requeue_expired agent now

theorem seen_ack_messages (agent : AgentState) (msg_ids : List Text) :
    (ack_messages agent msg_ids).1.seen_msg_ids = agent.seen_msg_ids := by
  unfold ack_messages
  split
  · rfl
  · rfl

/-- A message without an id passes by; an id is touched, whether it is known or new. -/
theorem seen_deliver (address : Nat) (message : Message) (restarted : Option Nat) :
    (deliver d address message restarted).agent.seen_msg_ids =
      if (msg_id message).isEmpty then d.agent.seen_msg_ids
      else touch MAX_DEDUP_ENTRIES d.agent.seen_msg_ids (msg_id message) := by
  by_cases empty : (msg_id message).isEmpty = true
  · have fresh : ¬ is_duplicate d.agent message = true := by simp [is_duplicate, empty]
    rw [deliver, if_neg fresh, if_pos empty]
    dsimp only
    rw [seen_accept, remember, if_pos empty]
  · by_cases known : msg_id message ∈ d.agent.seen_msg_ids
    · have duplicate : is_duplicate d.agent message = true := by simp [is_duplicate, empty, known]
      have same : (instBEqOfDecidableEq : BEq Text) = List.instBEq := lawful_beq_subsingleton _ _
      rw [deliver, if_pos duplicate, if_neg empty, touch, if_pos known, same]
      rfl
    · have fresh : ¬ is_duplicate d.agent message = true := by simp [is_duplicate, known]
      rw [deliver, if_neg fresh, if_neg empty, touch, if_neg known]
      dsimp only
      rw [seen_accept, remember, if_neg empty, List.rtake]

/-- Every step touches the ids that it takes to the deduplication, and nothing else changes the list. -/
theorem seen_step (d : Buffer) (e : Event) :
    (step d e).agent.seen_msg_ids = (dedup_id d e).foldl (touch MAX_DEDUP_ENTRIES) d.agent.seen_msg_ids := by
  cases e with
  | receive address message restarted =>
    by_cases ready : d.stage = .Waiting ∧ ∀ m ∈ d.live, m.address ≠ address
    · simp only [step, dedup_id, if_pos ready]
      rw [seen_deliver]
      split
      · rfl
      · rfl
    · simp only [step, dedup_id, if_neg ready]
      rfl
  | take =>
    simp only [step]
    split
    · split
      · rfl
      · rfl
    · rfl
  | write succeeds =>
    simp only [step]
    split
    · split
      · rfl
      · rfl
    · rfl
  | put_back =>
    simp only [step]
    split
    · rfl
    · rfl
  | check_messages now => exact seen_check_messages d.agent now
  | ack_messages msg_ids => exact seen_ack_messages d.agent msg_ids
  | reap now restarted =>
    simp only [step]
    split
    · split
      · exact seen_requeue_expired d.agent now
      · split
        · exact (seen_start_claude _ restarted).trans (seen_requeue_expired d.agent now)
        · split
          · exact seen_requeue_expired d.agent now
          · exact seen_requeue_expired d.agent now
    · rfl
  | turn_completed =>
    simp only [step]
    split
    · rfl
    · rfl
  | process_exited restarted =>
    simp only [step]
    split
    · exact seen_restart_claude d.agent restarted
    · rfl
  | turn_watchdog restarted =>
    simp only [step]
    split
    · exact seen_restart_claude d.agent restarted
    · rfl

theorem seen_run (events : List Event) (d : Buffer) :
    (run step d events).agent.seen_msg_ids =
      (dedup_ids d events).foldl (touch MAX_DEDUP_ENTRIES) d.agent.seen_msg_ids := by
  induction events generalizing d with
  | nil => rfl
  | cons e rest ih => rw [run_cons, ih, seen_step, dedup_ids, List.foldl_append]

/-- After every run, `seen_msg_ids` lists the ids seen last, each at its last occurrence, as many as the
    bound allows; a message passes when it has no id, or one that was never seen, or one since which as
    many other ids as the bound were seen. -/
theorem deduplication_exact (events : List Event) :
    let d := run step start events
    let ids := dedup_ids start events
    d.agent.seen_msg_ids = ids.dedup.rtake MAX_DEDUP_ENTRIES ∧
    d.agent.seen_msg_ids.length = min MAX_DEDUP_ENTRIES ids.dedup.length ∧
    ∀ message, is_duplicate d.agent message = false ↔ msg_id message = [] ∨ msg_id message ∉ ids ∨
      ∃ before after, ids = before ++ msg_id message :: after ∧ msg_id message ∉ after ∧
        MAX_DEDUP_ENTRIES ≤ after.dedup.length := by
  intro d ids
  have seen : d.agent.seen_msg_ids = ids.dedup.rtake MAX_DEDUP_ENTRIES := by
    rw [← foldl_touch]
    exact seen_run events start
  refine ⟨seen, by rw [seen, length_rtake], ?_⟩
  intro message
  rw [← not_mem_recent, ← seen]
  simp [is_duplicate, or_iff_not_imp_left]

end Aircd.Daemon

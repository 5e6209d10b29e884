import Aircd.HandOuts

/-!
# Redelivery

No message is held twice between the inbox and its acknowledgement, and none comes
back once it is acknowledged.
-/
namespace Aircd.Daemon
open Aircd.Runs Aircd.Text

variable {agent : AgentState} {d : Buffer} {e : Event} {now : Int} {m : Accepted}

/-! ## Runs -/

theorem buffer_run (events : List Event) (o : Ledger) : (run observe o events).buffer = run step o.buffer events := by
  induction events generalizing o with
  | nil => rfl
  | cons e rest ih => exact ih (observe o e)

theorem inv_run (events : List Event) : Inv (run observe opening events) :=
  run_invariant (fun _ e inv => inv.observe e) events inv_opening

/-- What is pending and in flight after a run is in no place twice. -/
theorem held_nodup (events : List Event) :
    let agent := (run step start events).agent
    (agent.pending_inbox ++ in_flight_messages agent).Nodup := by
  intro agent
  have apart := (inv_run events).apart
  rw [Ledger.places, Buffer.live, buffer_run events opening, List.append_assoc, List.append_assoc, List.nodup_append] at apart
  exact apart.1

/-! ## Acknowledgement -/

def ids (messages : List Accepted) : List Text := messages.map (fun m => msg_id m.message)

theorem delivery_id_eq (carried : msg_id m.message ≠ []) : delivery_id m = msg_id m.message := by
  rw [delivery_id, if_neg (by simpa using carried)]

/-- A message that is acknowledged while in flight is among the acknowledged ones from then on. -/
theorem acked_stays (events : List Event) (o : Ledger) (acked : m ∈ o.acked) : m ∈ (run observe o events).acked := by
  induction events generalizing o with
  | nil => exact acked
  | cons e rest ih => exact ih (observe o e) (List.mem_append_left _ acked)

theorem acked_of_ack {o : Ledger} (inv : Inv o) {msg_ids : List Text} (flying : m ∈ in_flight_messages o.buffer.agent)
    (named : delivery_id m ∈ msg_ids) : m ∈ (observe o (.ack_messages msg_ids)).acked := by
  have gone : m ∉ in_flight_messages (ack_messages o.buffer.agent msg_ids).1 := by
    intro inside
    obtain ⟨row, listed, rfl⟩ := mem_in_flight.mp inside
    obtain ⟨old, unnamed⟩ := (ack_messages_spec o.buffer.agent msg_ids).2 row listed
    rw [inv.keyed row old] at unnamed
    exact unnamed named
  apply List.mem_append_right
  simp only [newly_acked, List.mem_filter]
  exact ⟨flying, by simpa [step] using gone⟩

theorem accepted_stays (events : List Event) (o : Ledger) (known : m ∈ o.accepted) : m ∈ (run observe o events).accepted := by
  induction events generalizing o with
  | nil => exact known
  | cons e rest ih => exact ih (observe o e) (List.mem_append_left _ known)

/-- A batch holds what was pending or in flight. -/
theorem batch_live (listed : m ∈ batch d.agent now) : m ∈ d.live := by
  rw [Buffer.live]
  exact List.mem_append_left _ ((requeue_expired_spec d.agent now).1.mem_iff.mp (List.mem_append_left _ listed))

/-- What is acknowledged is nowhere else, and no batch holds it. -/
theorem acked_apart {o : Ledger} (inv : Inv o) (acked : m ∈ o.acked) (now : Int) :
    m ∉ o.buffer.live ∧ m ∉ batch o.buffer.agent now := by
  have apart := inv.apart
  rw [Ledger.places, List.append_assoc, List.nodup_append] at apart
  have nowhere : m ∉ o.buffer.live := fun here => apart.2.2 m here m (List.mem_append_left _ acked) rfl
  exact ⟨nowhere, fun listed => nowhere (batch_live listed)⟩

/-! ## The idle delivery -/

/-- The messages are with the idle delivery, at the stage, and nothing is pending. -/
structure Away (stage : Stage) (busy : Bool) (d : Buffer) : Prop where
  stage : d.stage = stage
  pending : d.agent.pending_inbox = []
  busy : d.agent.is_busy = busy

theorem busy_check_messages (agent : AgentState) (now : Int) : (check_messages agent now).1.is_busy = agent.is_busy := by
  show (requeue_expired agent now).1.is_busy = agent.is_busy
  rw [requeue_expired_eq]

theorem busy_ack_messages (agent : AgentState) (msg_ids : List Text) :
    (ack_messages agent msg_ids).1.is_busy = agent.is_busy := by
  unfold ack_messages
  split
  · rfl
  · rfl

/-- Meanwhile the others find nothing to hand out, and leave Claude as it is. -/
theorem Away.step {stage : Stage} {busy : Bool} (away : Away stage busy d) (held : stage.messages ≠ [])
    (writing : ∀ succeeds, e ≠ .write succeeds ∨ ∃ messages, stage = .Returning messages)
    (returning : e ≠ .put_back ∨ ∃ messages, stage = .Writing messages) : Away stage busy (step d e) := by
  have waiting : d.stage ≠ .Waiting := by
    rw [away.stage]
    rintro rfl
    exact held rfl
  have delivering : d.stage ≠ .Delivering := by
    rw [away.stage]
    rintro rfl
    exact held rfl
  have idle (same : Daemon.step d e = d) : Away stage busy (Daemon.step d e) := by
    rw [same]
    exact away
  cases e with
  | check_messages now => exact ⟨away.stage, rfl, (busy_check_messages d.agent now).trans away.busy⟩
  | ack_messages msg_ids =>
    exact ⟨away.stage, (ack_messages_spec d.agent msg_ids).1.trans away.pending,
      (busy_ack_messages d.agent msg_ids).trans away.busy⟩
  | receive address message restarted => exact idle (by simp [Daemon.step, waiting])
  | take =>
    apply idle
    simp only [Daemon.step]
  | write succeeds =>
    rcases writing succeeds with other | ⟨messages, rfl⟩
    · exact absurd rfl other
    · exact idle (by simp [Daemon.step, away.stage])
  | put_back =>
    rcases returning with other | ⟨messages, rfl⟩
    · exact absurd rfl other
    · exact idle (by simp [Daemon.step, away.stage])
  | reap now restarted => exact idle (by simp [Daemon.step, waiting])
  | turn_completed => exact idle (by simp [Daemon.step, waiting])
  | process_exited restarted => exact idle (by simp [Daemon.step, waiting])
  | turn_watchdog restarted => exact idle (by simp [Daemon.step, waiting])

theorem Away.run {stage : Stage} {busy : Bool} (held : stage.messages ≠ []) : ∀ (events : List Event) {d : Buffer},
    Away stage busy d → (∀ e ∈ events, ∀ succeeds, e ≠ .write succeeds ∨ ∃ messages, stage = .Returning messages) →
    (∀ e ∈ events, e ≠ .put_back ∨ ∃ messages, stage = .Writing messages) → Away stage busy (Runs.run Daemon.step d events)
  | [], _, away, _, _ => away
  | e :: rest, d, away, writing, returning => by
    have next : Away stage busy (Daemon.step d e) := away.step held (writing e (by simp)) (returning e (by simp))
    exact Away.run held rest next (fun e' later => writing e' (by simp [later])) (fun e' later => returning e' (by simp [later]))

theorem Away.fail {messages : List Accepted} {busy : Bool} (away : Away (.Writing messages) busy d) :
    Away (.Returning messages) busy (Daemon.step d (.write false)) := by
  obtain ⟨stage, pending, busy⟩ := away
  have next : Daemon.step d (.write false) = { d with stage := .Returning messages } := by simp [Daemon.step, stage]
  rw [next]
  exact ⟨rfl, pending, busy⟩

theorem Away.put_back {messages : List Accepted} {busy : Bool} (away : Away (.Returning messages) busy d) :
    (Daemon.step d .put_back).agent.pending_inbox = messages ∧ (Daemon.step d .put_back).agent.is_busy = busy := by
  obtain ⟨stage, pending, busy⟩ := away
  simp only [Daemon.step, stage, put_back_eq, pending, List.append_nil]
  exact ⟨trivial, busy⟩

/-- A write that fails puts the inbox back as it was, whatever the others ask for meanwhile. -/
theorem failing_write {writing returning : List Event} (delivering : d.stage = .Delivering)
    (taken : (step d .take).stage ≠ .Waiting) (unwritten : ∀ succeeds, .write succeeds ∉ writing)
    (unreturned : .put_back ∉ returning) :
    let d' := run step d (.take :: writing ++ .write false :: returning ++ [.put_back])
    d'.agent.pending_inbox = d.agent.pending_inbox ∧ d'.agent.is_busy = d.agent.is_busy := by
  intro d'
  have ready : ¬ (d.agent.process.isNone || d.agent.pending_inbox.isEmpty) = true := by
    intro idle
    apply taken
    simp only [step, delivering, idle, if_true]
  have held : d.agent.pending_inbox ≠ [] := by
    intro empty
    exact ready (by simp [empty])
  have first : Away (.Writing d.agent.pending_inbox) d.agent.is_busy (step d .take) := by
    simp only [step, delivering, ready]
    exact ⟨rfl, rfl, rfl⟩
  have second : Away (.Writing d.agent.pending_inbox) d.agent.is_busy (run step (step d .take) writing) := by
    have writes : (Stage.Writing d.agent.pending_inbox).messages ≠ [] := held
    apply Away.run writes writing first
    · intro e inside succeeds
      left
      rintro rfl
      exact unwritten succeeds inside
    · exact fun _ _ => .inr ⟨_, rfl⟩
  have third : Away (.Returning d.agent.pending_inbox) d.agent.is_busy
      (run step (step (run step (step d .take) writing) (.write false)) returning) := by
    have returns : (Stage.Returning d.agent.pending_inbox).messages ≠ [] := held
    apply Away.run returns returning second.fail
    · exact fun _ _ _ => .inr ⟨_, rfl⟩
    · intro e inside
      left
      rintro rfl
      exact unreturned inside
  have last : d' = step (run step (step (run step (step d .take) writing) (.write false)) returning) .put_back := by
    show run step d _ = _
    rw [List.cons_append, List.cons_append, run_cons, run_append, run_append, run_cons, run_cons, run_nil]
  rw [last]
  exact third.put_back

/-! ## Holding -/

theorem mem_ids {mid : Text} {messages : List Accepted} : mid ∈ ids messages ↔ ∃ m ∈ messages, msg_id m.message = mid :=
  List.mem_map

/-- A message in flight was reported, with the delivery id that it is under, by an earlier `check_messages`. -/
theorem reported_run (events : List Event) : ∀ row ∈ (run step start events).agent.in_flight.rows,
    ∃ before now after, events = before ++ .check_messages now :: after ∧
      (message_to_dict row.2.1.message, row.1) ∈ (check_messages (run step start before).agent now).2 := by
  induction events using List.reverseRecOn with
  | nil => intro row inside; cases inside
  | append_singleton events e ih =>
    intro row inside
    rw [run_append, run_cons, run_nil] at inside
    rcases in_flight_step _ e inside with old | ⟨now, rfl, m, waiting, rfl⟩
    · obtain ⟨before, now, after, rfl, reported⟩ := ih row old
      exact ⟨before, now, after ++ [e], by simp, reported⟩
    · exact ⟨events, now, [], rfl, List.mem_map.mpr ⟨m, waiting, rfl⟩⟩

/-- In every run whose accepted messages carry msg-ids of their own: none is held twice, each one in flight
    is under the id with which it was handed out, one acknowledged in flight is never held or handed out
    again, and a write that fails changes neither the inbox nor whether Claude is busy. -/
theorem no_double_holding (events : List Event) (distinct : (ids (run observe opening events).accepted).Nodup)
    (carried : [] ∉ ids (run observe opening events).accepted) :
    let d := run step start events
    (ids (d.agent.pending_inbox ++ in_flight_messages d.agent)).Nodup ∧
    (∀ row ∈ d.agent.in_flight.rows, row.1 = msg_id row.2.1.message ∧ ∃ before now after,
      events = before ++ .check_messages now :: after ∧
        (message_to_dict row.2.1.message, row.1) ∈ (check_messages (run step start before).agent now).2) ∧
    (∀ before msg_ids after, events = before ++ .ack_messages msg_ids :: after →
      ∀ m ∈ in_flight_messages (run step start before).agent, msg_id m.message ∈ msg_ids →
        msg_id m.message ∉ ids (d.agent.pending_inbox ++ in_flight_messages d.agent ++ d.stage.messages) ∧
        ∀ now, msg_id m.message ∉ (check_messages d.agent now).2.map Prod.snd) ∧
    ∀ writing returning, d.stage = .Delivering → (step d .take).stage ≠ .Waiting →
      (∀ succeeds, .write succeeds ∉ writing) → .put_back ∉ returning →
        let d' := run step d (.take :: writing ++ .write false :: returning ++ [.put_back])
        d'.agent.pending_inbox = d.agent.pending_inbox ∧ d'.agent.is_busy = d.agent.is_busy := by
  intro d
  have inv : Inv (run observe opening events) := inv_run events
  have buffer : (run observe opening events).buffer = d := buffer_run events opening
  have accepted {m : Accepted} (held : m ∈ d.live) : m ∈ (run observe opening events).accepted := by
    apply inv.known
    rw [Ledger.places, List.append_assoc, buffer]
    exact List.mem_append_left _ held
  have same {m m' : Accepted} (known : m ∈ (run observe opening events).accepted)
      (known' : m' ∈ (run observe opening events).accepted) (id : msg_id m.message = msg_id m'.message) : m = m' :=
    List.inj_on_of_nodup_map distinct known known' id
  have named {m : Accepted} (known : m ∈ (run observe opening events).accepted) : delivery_id m = msg_id m.message := by
    apply delivery_id_eq
    intro empty
    exact carried (mem_ids.mpr ⟨m, known, empty⟩)
  refine ⟨?_, ?_, ?_, ?_⟩
  · apply List.Nodup.map_on _ (held_nodup events)
    intro m held m' held' id
    exact same (accepted (List.mem_append_left _ held)) (accepted (List.mem_append_left _ held')) id
  · intro row inside
    have keyed : row.1 = delivery_id row.2.1 := by
      have keyed := inv.keyed
      rw [buffer] at keyed
      exact keyed row inside
    have flying : row.2.1 ∈ d.live :=
      List.mem_append_left _ (List.mem_append_right _ (mem_in_flight.mpr ⟨row, inside, rfl⟩))
    exact ⟨keyed.trans (named (accepted flying)), reported_run events row inside⟩
  · rintro before msg_ids after rfl m flying acknowledged
    have earlier : (run observe opening before).buffer = run step start before := buffer_run before opening
    have before_inv : Inv (run observe opening before) := inv_run before
    have places : m ∈ (run observe opening before).places := by
      rw [Ledger.places, List.append_assoc, Buffer.live, earlier]
      exact List.mem_append_left _ (List.mem_append_left _ (List.mem_append_right _ flying))
    have known : m ∈ (run observe opening (before ++ .ack_messages msg_ids :: after)).accepted := by
      rw [run_append]
      exact accepted_stays _ _ (before_inv.known m places)
    have acked : m ∈ (run observe opening (before ++ .ack_messages msg_ids :: after)).acked := by
      rw [run_append, run_cons]
      apply acked_stays
      apply acked_of_ack before_inv
      · rw [earlier]
        exact flying
      · rw [named known]
        exact acknowledged
    have apart (now : Int) := acked_apart inv acked now
    rw [buffer] at apart
    refine ⟨?_, ?_⟩
    · intro again
      obtain ⟨m', held, id⟩ := mem_ids.mp again
      exact (apart 0).1 (same (accepted held) known id ▸ held)
    · intro now again
      rw [check_messages_batch, List.map_map] at again
      obtain ⟨m', listed, id⟩ := List.mem_map.mp again
      have known' := accepted (batch_live listed)
      exact (apart now).2 (same known' known ((named known').symm.trans id) ▸ listed)
  · intro writing returning delivering taken unwritten unreturned
    exact failing_write delivering taken unwritten unreturned

/-- A message of the channel with a msg-id. -/
def with_id (mid : Text) : Message := { note with raw := "@msg-id=".toList ++ mid }

/-- Two messages are handed out together, and the first one is acknowledged. -/
def one_acknowledged : List Event :=
  [.receive 1 (with_id "m1".toList) none, .receive 2 (with_id "m2".toList) none, .check_messages 0,
    .ack_messages ["m1".toList], .reap (MESSAGE_VISIBILITY_TIMEOUT + 1) none]

theorem acknowledged_for_good :
    "m1".toList ∉ (check_messages (run step start one_acknowledged).agent (MESSAGE_VISIBILITY_TIMEOUT + 2)).2.map Prod.snd :=
  ((no_double_holding one_acknowledged (by decide +kernel) (by decide +kernel)).2.2.1 (one_acknowledged.take 3) ["m1".toList]
    (one_acknowledged.drop 4) rfl ⟨0, 1, with_id "m1".toList⟩ (by decide +kernel) (by decide +kernel)).2 _

end Aircd.Daemon

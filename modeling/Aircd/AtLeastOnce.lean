import Aircd.Delivery

/-!
# At-least-once delivery

Where an accepted message is: pending, in flight, with the idle delivery that is
under way, acknowledged, or written to Claude. Two steps lose messages. The busy
branch drops the oldest pending message when it has more than `MAX_PENDING`, and
`check_messages` puts a message in flight in the place of another one that has
the same delivery id.
-/
namespace Aircd.Daemon
open Aircd.Runs Aircd.Text

/-- The buffer, with every message that the reader loop accepted, and those that
    were acknowledged by their delivery id or written to Claude. -/
structure Ledger where
  buffer : Buffer
  accepted : List Accepted
  acked : List Accepted
  written : List Accepted

/-- The message that an event makes the reader loop accept. -/
def newly_accepted (d : Buffer) : Event → List Accepted
  | .receive address message restarted =>
    if (step d (.receive address message restarted)).count = d.count then [] else [⟨d.count, address, message⟩]
  | _ => []

/-- The messages in flight that an acknowledgement removes. -/
def newly_acked (d : Buffer) : Event → List Accepted
  | .ack_messages msg_ids => (in_flight_messages d.agent).filter (fun m =>
    !(in_flight_messages (step d (.ack_messages msg_ids)).agent).contains m)
  | _ => []

/-- The messages that an idle delivery has written to Claude's stdin without an error. -/
def newly_written (d : Buffer) : Event → List Accepted
  | .write true => match d.stage with
    | .Writing messages => messages
    | _ => []
  | _ => []

def observe (o : Ledger) (e : Event) : Ledger where
  buffer := step o.buffer e
  accepted := o.accepted ++ newly_accepted o.buffer e
  acked := o.acked ++ newly_acked o.buffer e
  written := o.written ++ newly_written o.buffer e

def opening : Ledger := ⟨start, [], [], []⟩

/-- Every place where a message can be. -/
def Ledger.places (o : Ledger) : List Accepted := o.buffer.live ++ o.acked ++ o.written

/-- No accepted message is lost. -/
def Kept (o : Ledger) : Prop := ∀ m ∈ o.accepted, m ∈ o.places

/-- A message accepted while Claude is busy finds room, and the messages that
    `check_messages` puts in flight have delivery ids of their own. -/
def roomy (d : Buffer) : Event → Bool
  | .receive address message _ =>
    !(accepts d address message && d.agent.is_busy) || decide (d.agent.pending_inbox.length < MAX_PENDING)
  | .check_messages _ => decide (d.agent.pending_inbox.map delivery_id).Nodup &&
    d.agent.pending_inbox.all (fun m => (d.agent.in_flight.find (delivery_id m)).isNone)
  | _ => true

variable {o : Ledger} {d : Buffer} {agent : AgentState} {e : Event} {m : Accepted} {now : Int}

/-! ## In flight -/

/-- Every message in flight is under its delivery id. -/
def Keyed (in_flight : Dict Text (Accepted × Int)) : Prop := ∀ row ∈ in_flight.rows, row.1 = delivery_id row.2.1

theorem ids_in_flight (keyed : Keyed agent.in_flight) :
    (in_flight_messages agent).map delivery_id = agent.in_flight.rows.map Prod.fst := by
  simp only [in_flight_messages, List.map_map]
  apply List.map_congr_left
  intro row inside
  exact (keyed row inside).symm

theorem in_flight_nodup (keyed : Keyed agent.in_flight) : ((in_flight_messages agent).map delivery_id).Nodup := by
  rw [ids_in_flight keyed]
  exact agent.in_flight.distinct

theorem mem_in_flight : m ∈ in_flight_messages agent ↔ ∃ row ∈ agent.in_flight.rows, row.2.1 = m := List.mem_map

/-- The rows that several messages leave in a dictionary when each is put under its delivery id. -/
theorem mem_put_all {l : List Accepted} {in_flight : Dict Text (Accepted × Int)} {row : Text × Accepted × Int}
    (inside : row ∈ (l.foldl (fun in_flight m => in_flight.put (delivery_id m) (m, now)) in_flight).rows) :
    row ∈ in_flight.rows ∨ ∃ m ∈ l, row = (delivery_id m, m, now) := by
  induction l generalizing in_flight with
  | nil => exact .inl inside
  | cons first rest ih =>
    rcases ih inside with old | ⟨m, later, rfl⟩
    · rcases Table.mem_set.mp old with rfl | ⟨older, _⟩
      · exact .inr ⟨first, List.mem_cons_self, rfl⟩
      · exact .inl older
    · exact .inr ⟨m, List.mem_cons_of_mem _ later, rfl⟩

/-- None of them takes the place of another when their ids are distinct and new. -/
theorem put_all_complete {l : List Accepted} {in_flight : Dict Text (Accepted × Int)} (distinct : (l.map delivery_id).Nodup)
    (apart : ∀ m ∈ l, ∀ row ∈ in_flight.rows, row.1 ≠ delivery_id m) :
    (∀ row ∈ in_flight.rows, row ∈ (l.foldl (fun in_flight m => in_flight.put (delivery_id m) (m, now)) in_flight).rows) ∧
    ∀ m ∈ l, (delivery_id m, m, now) ∈ (l.foldl (fun in_flight m => in_flight.put (delivery_id m) (m, now)) in_flight).rows := by
  induction l generalizing in_flight with
  | nil => exact ⟨fun _ inside => inside, by simp⟩
  | cons first rest ih =>
    obtain ⟨fresh, distinct⟩ := List.nodup_cons.mp distinct
    have apart' : ∀ m ∈ rest, ∀ row ∈ (in_flight.put (delivery_id first) (first, now)).rows, row.1 ≠ delivery_id m := by
      intro m later row inside
      rcases Table.mem_set.mp inside with rfl | ⟨old, _⟩
      · intro same
        exact fresh (List.mem_map.mpr ⟨m, later, same.symm⟩)
      · exact apart m (List.mem_cons_of_mem _ later) row old
    obtain ⟨kept, put⟩ := ih distinct apart'
    refine ⟨?_, ?_⟩
    · intro row inside
      exact kept row (Table.mem_set.mpr (.inr ⟨inside, apart first List.mem_cons_self row inside⟩))
    · intro m inside
      rcases List.mem_cons.mp inside with rfl | later
      · exact kept _ (Table.mem_set.mpr (.inl rfl))
      · exact put m later

/-- Messages that leave the in-flight ones for the inbox are neither lost nor doubled. -/
theorem requeue_all_spec {rows : List (Text × Accepted × Int)} (agent : AgentState) (distinct : (rows.map Prod.fst).Nodup)
    (inside : ∀ row ∈ rows, row ∈ agent.in_flight.rows) :
    let agent' := rows.foldl (fun agent row =>
      { agent with in_flight := agent.in_flight.erase row.1, pending_inbox := row.2.1 :: agent.pending_inbox }) agent
    (agent'.pending_inbox ++ in_flight_messages agent').Perm (agent.pending_inbox ++ in_flight_messages agent) ∧
      ∀ row ∈ agent'.in_flight.rows, row ∈ agent.in_flight.rows := by
  induction rows generalizing agent with
  | nil => exact ⟨.refl _, fun _ inside => inside⟩
  | cons first rest ih =>
    obtain ⟨alone, distinct⟩ := List.nodup_cons.mp distinct
    have stay : ∀ row ∈ rest, row ∈ (agent.in_flight.erase first.1).rows := by
      intro row later
      refine Table.mem_erase.mpr ⟨inside row (List.mem_cons_of_mem _ later), ?_⟩
      intro same
      exact alone (List.mem_map.mpr ⟨row, later, same⟩)
    obtain ⟨perm, kept⟩ := ih { agent with
      in_flight := agent.in_flight.erase first.1, pending_inbox := first.2.1 :: agent.pending_inbox } distinct stay
    refine ⟨perm.trans ?_, fun row old => (Table.mem_erase.mp (kept row old)).1⟩
    have moved := (Table.rows_erase_perm (inside first List.mem_cons_self)).map (fun row => row.2.1)
    exact List.perm_middle.symm.trans (moved.append_left agent.pending_inbox)

theorem requeue_expired_spec (agent : AgentState) (now : Int) :
    ((requeue_expired agent now).1.pending_inbox ++ in_flight_messages (requeue_expired agent now).1).Perm
      (agent.pending_inbox ++ in_flight_messages agent) ∧
    ∀ row ∈ (requeue_expired agent now).1.in_flight.rows, row ∈ agent.in_flight.rows := by
  apply requeue_all_spec
  · exact agent.in_flight.distinct.sublist (List.filter_sublist.map Prod.fst)
  · intro row expired; exact (List.mem_filter.mp expired).1

/-! ## One event -/

structure Inv (o : Ledger) : Prop where
  keyed : Keyed o.buffer.agent.in_flight
  apart : o.places.Nodup
  known : ∀ m ∈ o.places, m ∈ o.accepted
  counted : ∀ m ∈ o.accepted, m.serial < o.buffer.count

/-- An event keeps the messages in distinct places, and loses none exactly when it is roomy. -/
structure Effect (o : Ledger) (e : Event) : Prop where
  apart : (observe o e).places.Nodup
  known : ∀ m ∈ (observe o e).places, m ∈ o.places ∨ m ∈ newly_accepted o.buffer e
  kept : roomy o.buffer e = true ↔ ∀ m, m ∈ o.places ∨ m ∈ newly_accepted o.buffer e → m ∈ (observe o e).places

theorem newly_accepted_cases (d : Buffer) (e : Event) :
    newly_accepted d e = [] ∨ ∃ address message, newly_accepted d e = [⟨d.count, address, message⟩] := by
  cases e with
  | receive address message restarted =>
    simp only [newly_accepted]
    split
    · exact .inl rfl
    · exact .inr ⟨address, message, rfl⟩
  | _ => exact .inl rfl

/-- A message that is accepted now is none of those accepted before. -/
theorem nodup_accept (inv : Inv o) (e : Event) : (o.places ++ newly_accepted o.buffer e).Nodup := by
  rcases newly_accepted_cases o.buffer e with none | ⟨address, message, one⟩
  · rw [none, List.append_nil]; exact inv.apart
  · rw [one, List.nodup_append]
    refine ⟨inv.apart, List.nodup_singleton _, ?_⟩
    intro old inside new single same
    have earlier := inv.counted old (inv.known old inside)
    rw [same, List.mem_singleton.mp single] at earlier
    exact lt_irrefl _ earlier

theorem Effect.of_perm (inv : Inv o) (roomy : roomy o.buffer e = true)
    (perm : (observe o e).places.Perm (o.places ++ newly_accepted o.buffer e)) : Effect o e where
  apart := perm.nodup_iff.mpr (nodup_accept inv e)
  known _ inside := List.mem_append.mp (perm.mem_iff.mp inside)
  kept := ⟨fun _ _ before => perm.mem_iff.mpr (List.mem_append.mpr before), fun _ => roomy⟩

/-- An event that only moves messages between the inbox, the ones in flight and the idle delivery. -/
theorem Effect.of_moved (inv : Inv o) (roomy : roomy o.buffer e = true) (moved : (step o.buffer e).live.Perm o.buffer.live)
    (accepted : newly_accepted o.buffer e = []) (acked : newly_acked o.buffer e = [])
    (written : newly_written o.buffer e = []) : Effect o e := by
  apply Effect.of_perm inv roomy
  simp only [Ledger.places, observe, accepted, acked, written, List.append_nil]
  exact (moved.append_right o.acked).append_right o.written

theorem Effect.receive (inv : Inv o) (address : Nat) (message : Message) (restarted : Option Nat) :
    Effect o (.receive address message restarted) := by
  cases accepted : accepts o.buffer address message with
  | false =>
    obtain ⟨live, count⟩ := step_refused restarted accepted
    apply Effect.of_moved inv
    · simp [roomy, accepted]
    · rw [live]
    · simp [newly_accepted, count]
    · rfl
    · rfl
  | true =>
    obtain ⟨stage, stage', count, in_flight, pending⟩ := step_accepted restarted accepted
    have new : newly_accepted o.buffer (.receive address message restarted) = [⟨o.buffer.count, address, message⟩] := by
      simp [newly_accepted, count]
    have places : (observe o (.receive address message restarted)).places =
        (step o.buffer (.receive address message restarted)).agent.pending_inbox ++
          in_flight_messages o.buffer.agent ++ o.acked ++ o.written := by
      simp [Ledger.places, observe, Buffer.live, stage', in_flight_messages, in_flight, newly_acked, newly_written]
    have before : o.places = o.buffer.agent.pending_inbox ++ in_flight_messages o.buffer.agent ++ o.acked ++ o.written := by
      simp [Ledger.places, Buffer.live, stage]
    by_cases full : o.buffer.agent.is_busy = true ∧ MAX_PENDING ≤ o.buffer.agent.pending_inbox.length
    · rw [if_pos full] at pending
      have apart := nodup_accept inv (.receive address message restarted)
      cases waiting : o.buffer.agent.pending_inbox with
      | nil =>
        rw [waiting] at full
        exact absurd full.2 (by decide)
      | cons oldest rest =>
        rw [waiting, List.cons_append, List.tail_cons] at pending
        have lost : (oldest :: (observe o (.receive address message restarted)).places).Perm
            (o.places ++ newly_accepted o.buffer (.receive address message restarted)) := by
          rw [places, before, new, pending, waiting]
          apply List.perm_iff_count.mpr
          intro a
          simp only [List.count_append, List.count_cons, List.count_nil]
          omega
        have gone := lost.nodup_iff.mpr apart
        refine ⟨(List.nodup_cons.mp gone).2, ?_, ?_⟩
        · intro m inside
          exact List.mem_append.mp (lost.mem_iff.mp (List.mem_cons_of_mem _ inside))
        · constructor
          · intro room
            simp only [roomy, accepted, full.1, Bool.and_self, Bool.not_true, Bool.false_or, decide_eq_true_eq] at room
            exact absurd room (not_lt.mpr full.2)
          · intro all
            have inside : oldest ∈ o.places := by rw [before, waiting]; simp
            exact absurd (all oldest (.inl inside)) (List.nodup_cons.mp gone).1
    · rw [if_neg full] at pending
      apply Effect.of_perm inv
      · simp only [roomy, accepted, Bool.true_and, Bool.or_eq_true, Bool.not_eq_true', decide_eq_true_eq]
        by_cases busy : o.buffer.agent.is_busy = true
        · right
          by_contra long
          exact full ⟨busy, not_lt.mp long⟩
        · left; simpa using busy
      · rw [places, before, new, pending]
        apply List.perm_iff_count.mpr
        intro a
        simp only [List.count_append]
        omega

theorem Effect.take (inv : Inv o) : Effect o .take := by
  apply Effect.of_moved inv rfl _ rfl rfl rfl
  simp only [step]
  split
  · next stage =>
    split
    · simp [Buffer.live, stage, Stage.messages]
    · apply List.perm_iff_count.mpr
      intro a
      simp only [Buffer.live, in_flight_messages, stage, Stage.messages, List.count_append, List.count_nil]
      omega
  · exact .refl _

theorem Effect.write (inv : Inv o) (succeeds : Bool) : Effect o (.write succeeds) := by
  cases stage : o.buffer.stage with
  | Writing messages =>
    cases succeeds with
    | false =>
      apply Effect.of_moved inv rfl _ rfl rfl rfl
      simp [step, stage, Buffer.live, Stage.messages]
    | true =>
      apply Effect.of_perm inv rfl
      simp only [Ledger.places, observe, step, stage, if_true, newly_accepted, newly_acked, newly_written, Buffer.live,
        in_flight_messages, Stage.messages, List.append_nil]
      apply List.perm_iff_count.mpr
      intro a
      simp only [List.count_append]
      omega
  | _ =>
    apply Effect.of_moved inv rfl _ rfl rfl
    · cases succeeds with
      | false => rfl
      | true => simp [newly_written, stage]
    · simp [step, stage]

theorem put_back_eq (messages pending : List Accepted) :
    messages.reverse.foldl (fun pending m => m :: pending) pending = messages ++ pending := by
  simp [List.foldl_reverse]

theorem Effect.put_back (inv : Inv o) : Effect o .put_back := by
  apply Effect.of_moved inv rfl _ rfl rfl rfl
  simp only [step]
  split
  · next messages stage =>
    apply List.perm_iff_count.mpr
    intro a
    simp only [Buffer.live, in_flight_messages, stage, Stage.messages, put_back_eq, List.count_append, List.count_nil]
    omega
  · exact .refl _

theorem Effect.reap (inv : Inv o) (now : Int) (restarted : Option Nat) : Effect o (.reap now restarted) := by
  apply Effect.of_moved inv rfl _ rfl rfl rfl
  simp only [step]
  split
  · next stage =>
    obtain ⟨perm, _⟩ := requeue_expired_spec o.buffer.agent now
    have moved {agent : AgentState} {stage' : Stage} (messages : stage'.messages = [])
        (pending : agent.pending_inbox = (requeue_expired o.buffer.agent now).1.pending_inbox)
        (in_flight : agent.in_flight = (requeue_expired o.buffer.agent now).1.in_flight) :
        (Buffer.mk agent stage' o.buffer.count).live.Perm o.buffer.live := by
      have idle : o.buffer.stage.messages = [] := by rw [stage]; rfl
      rw [Buffer.live, Buffer.live, messages, idle, pending, in_flight_messages, in_flight, List.append_nil, List.append_nil]
      exact perm
    split
    · exact moved (by rw [stage]; rfl) rfl rfl
    · split
      · exact moved (by rw [stage]; rfl) (start_claude_frame _ _).1 (start_claude_frame _ _).2
      · split
        · exact moved (by rw [stage]; rfl) rfl rfl
        · exact moved rfl rfl rfl
  · exact .refl _

/-- The events of the process move no message. -/
theorem Effect.process (inv : Inv o) (roomy : roomy o.buffer e = true) (accepted : newly_accepted o.buffer e = [])
    (acked : newly_acked o.buffer e = []) (written : newly_written o.buffer e = [])
    (pending : (step o.buffer e).agent.pending_inbox = o.buffer.agent.pending_inbox)
    (in_flight : (step o.buffer e).agent.in_flight = o.buffer.agent.in_flight)
    (messages : (step o.buffer e).stage.messages = o.buffer.stage.messages) : Effect o e := by
  apply Effect.of_moved inv roomy _ accepted acked written
  rw [Buffer.live, Buffer.live, pending, messages, in_flight_messages, in_flight_messages, in_flight]

/-- An acknowledgement only removes messages in flight, and leaves none under the ids that it is for. -/
theorem ack_all_spec (msg_ids : List Text) (state : Dict Text (Accepted × Int) × Nat) :
    ∀ row ∈ (msg_ids.foldl (fun (state : Dict Text (Accepted × Int) × Nat) mid =>
      if (state.1.get mid).isSome then (state.1.erase mid, state.2 + 1) else state) state).1.rows,
        row ∈ state.1.rows ∧ row.1 ∉ msg_ids := by
  induction msg_ids generalizing state with
  | nil => exact fun _ inside => ⟨inside, List.not_mem_nil⟩
  | cons mid rest ih =>
    intro row inside
    obtain ⟨old, later⟩ := ih _ row inside
    have kept : row ∈ state.1.rows ∧ row.1 ≠ mid := by
      dsimp only at old
      split at old
      · exact Table.mem_erase.mp old
      · next absent =>
        refine ⟨old, ?_⟩
        rintro rfl
        exact absent (by rw [Dict.get_iff.mpr old, Option.isSome_some])
    exact ⟨kept.1, by simp [kept.2, later]⟩

theorem ack_messages_spec (agent : AgentState) (msg_ids : List Text) :
    (ack_messages agent msg_ids).1.pending_inbox = agent.pending_inbox ∧
      ∀ row ∈ (ack_messages agent msg_ids).1.in_flight.rows, row ∈ agent.in_flight.rows ∧ row.1 ∉ msg_ids := by
  unfold ack_messages
  split
  · next nothing =>
    rw [List.isEmpty_iff.mp nothing]
    exact ⟨rfl, fun _ inside => ⟨inside, List.not_mem_nil⟩⟩
  · exact ⟨rfl, ack_all_spec msg_ids (agent.in_flight, 0)⟩

/-- A list without repetitions is its part in another one and the rest. -/
theorem perm_filter_contains {l part : List Accepted} (distinct : l.Nodup) (distinct' : part.Nodup) (within : part ⊆ l) :
    (part ++ l.filter (fun m => !part.contains m)).Perm l := by
  have here : (l.filter (fun m => part.contains m)).Perm part := by
    rw [List.perm_ext_iff_of_nodup (distinct.filter _) distinct']
    intro m
    simp only [List.mem_filter, List.contains_iff_mem]
    exact ⟨fun both => both.2, fun inside => ⟨within inside, inside⟩⟩
  exact (here.symm.append_right _).trans (List.filter_append_perm _ l)

theorem Effect.ack_messages (inv : Inv o) (msg_ids : List Text) : Effect o (.ack_messages msg_ids) := by
  obtain ⟨pending, fewer⟩ := ack_messages_spec o.buffer.agent msg_ids
  have keyed : Keyed (Daemon.ack_messages o.buffer.agent msg_ids).1.in_flight := fun row inside =>
    inv.keyed row (fewer row inside).1
  have within : in_flight_messages (Daemon.ack_messages o.buffer.agent msg_ids).1 ⊆ in_flight_messages o.buffer.agent := by
    intro m inside
    obtain ⟨row, listed, rfl⟩ := mem_in_flight.mp inside
    exact mem_in_flight.mpr ⟨row, (fewer row listed).1, rfl⟩
  have parts := perm_filter_contains (List.Nodup.of_map _ (in_flight_nodup inv.keyed))
    (List.Nodup.of_map _ (in_flight_nodup keyed)) within
  apply Effect.of_perm inv rfl
  simp only [Ledger.places, observe, step, newly_accepted, newly_acked, newly_written, Buffer.live, pending, List.append_nil]
  apply List.perm_iff_count.mpr
  intro a
  have counts := List.perm_iff_count.mp parts a
  simp only [List.count_append] at counts ⊢
  omega

/-! ### Messages handed out -/

/-- `check_messages` is roomy when all the ids that it works with are distinct. -/
theorem roomy_check_messages (keyed : Keyed d.agent.in_flight) : roomy d (.check_messages now) = true ↔
    ((d.agent.pending_inbox ++ in_flight_messages d.agent).map delivery_id).Nodup := by
  rw [List.map_append, List.nodup_append, ids_in_flight keyed]
  simp only [roomy, Bool.and_eq_true, decide_eq_true_eq, List.all_eq_true, Option.isNone_iff_eq_none, Table.find_none_iff]
  constructor
  · rintro ⟨distinct, apart⟩
    refine ⟨distinct, d.agent.in_flight.distinct, ?_⟩
    intro id waiting id' flying same
    obtain ⟨m, inside, rfl⟩ := List.mem_map.mp waiting
    obtain ⟨row, listed, rfl⟩ := List.mem_map.mp flying
    exact apart m inside row listed same.symm
  · rintro ⟨distinct, _, apart⟩
    refine ⟨distinct, ?_⟩
    intro m inside row listed same
    exact apart _ (List.mem_map.mpr ⟨m, inside, rfl⟩) _ (List.mem_map.mpr ⟨row, listed, rfl⟩) same.symm

theorem keyed_check_messages (keyed : Keyed agent.in_flight) : Keyed (Daemon.check_messages agent now).1.in_flight := by
  obtain ⟨_, fewer⟩ := requeue_expired_spec agent now
  intro row inside
  rcases mem_put_all inside with old | ⟨m, _, rfl⟩
  · exact keyed row (fewer row old)
  · rfl

/-- All the messages are in flight afterwards, except those whose id another one has. -/
theorem check_messages_spec (keyed : Keyed agent.in_flight) :
    (∀ m ∈ in_flight_messages (Daemon.check_messages agent now).1, m ∈ agent.pending_inbox ++ in_flight_messages agent) ∧
    (((agent.pending_inbox ++ in_flight_messages agent).map delivery_id).Nodup →
      ∀ m ∈ agent.pending_inbox ++ in_flight_messages agent, m ∈ in_flight_messages (Daemon.check_messages agent now).1) := by
  obtain ⟨perm, fewer⟩ := requeue_expired_spec agent now
  have keyed' : Keyed (requeue_expired agent now).1.in_flight := fun row inside => keyed row (fewer row inside)
  refine ⟨?_, ?_⟩
  · intro m inside
    apply perm.mem_iff.mp
    obtain ⟨row, listed, rfl⟩ := mem_in_flight.mp inside
    rcases mem_put_all listed with old | ⟨m, waiting, rfl⟩
    · exact List.mem_append_right _ (mem_in_flight.mpr ⟨row, old, rfl⟩)
    · exact List.mem_append_left _ waiting
  · intro distinct m inside
    have ids := (perm.map delivery_id).nodup_iff.mpr distinct
    rw [List.map_append, ids_in_flight keyed', List.nodup_append] at ids
    obtain ⟨kept, put⟩ := @put_all_complete now _ (requeue_expired agent now).1.in_flight ids.1 (by
      intro m waiting row listed same
      exact ids.2.2 _ (List.mem_map.mpr ⟨m, waiting, rfl⟩) _ (List.mem_map.mpr ⟨row, listed, rfl⟩) same.symm)
    rcases List.mem_append.mp (perm.mem_iff.mpr inside) with waiting | flying
    · exact mem_in_flight.mpr ⟨_, put m waiting, rfl⟩
    · obtain ⟨row, listed, rfl⟩ := mem_in_flight.mp flying
      exact mem_in_flight.mpr ⟨row, kept row listed, rfl⟩

theorem Effect.check_messages (inv : Inv o) (now : Int) : Effect o (.check_messages now) := by
  obtain ⟨known, complete⟩ := @check_messages_spec o.buffer.agent now inv.keyed
  have distinct := in_flight_nodup (@keyed_check_messages o.buffer.agent now inv.keyed)
  have before : o.places = (o.buffer.agent.pending_inbox ++ in_flight_messages o.buffer.agent) ++
      (o.buffer.stage.messages ++ o.acked ++ o.written) := by
    simp [Ledger.places, Buffer.live]
  have places : (observe o (.check_messages now)).places =
      in_flight_messages (Daemon.check_messages o.buffer.agent now).1 ++ (o.buffer.stage.messages ++ o.acked ++ o.written) := by
    simp [Ledger.places, observe, step, Buffer.live, newly_acked, newly_written, Daemon.check_messages, in_flight_messages]
  have apart := inv.apart
  rw [before, List.nodup_append] at apart
  refine ⟨?_, ?_, ?_⟩
  · rw [places, List.nodup_append]
    exact ⟨List.Nodup.of_map _ distinct, apart.2.1, fun m inside => apart.2.2 m (known m inside)⟩
  · intro m inside
    left
    rw [places] at inside
    rw [before]
    rcases List.mem_append.mp inside with flying | other
    · exact List.mem_append_left _ (known m flying)
    · exact List.mem_append_right _ other
  · rw [roomy_check_messages inv.keyed]
    constructor
    · rintro ids m (old | new)
      · rw [before] at old
        rw [places]
        rcases List.mem_append.mp old with here | other
        · exact List.mem_append_left _ (complete ids m here)
        · exact List.mem_append_right _ other
      · cases new
    · intro all
      -- what was pending or in flight can only be in flight now, where the ids are distinct
      have inside : ∀ m ∈ o.buffer.agent.pending_inbox ++ in_flight_messages o.buffer.agent,
          m ∈ in_flight_messages (Daemon.check_messages o.buffer.agent now).1 := by
        intro m here
        have found := all m (.inl (by rw [before]; exact List.mem_append_left _ here))
        rw [places] at found
        rcases List.mem_append.mp found with flying | other
        · exact flying
        · exact absurd rfl (apart.2.2 m here m other)
      apply List.Nodup.map_on _ apart.1
      intro m here m' here' same
      exact List.inj_on_of_nodup_map distinct (inside m here) (inside m' here') same

theorem effect (inv : Inv o) (e : Event) : Effect o e := by
  cases e with
  | receive address message restarted => exact .receive inv address message restarted
  | take => exact .take inv
  | write succeeds => exact .write inv succeeds
  | put_back => exact .put_back inv
  | check_messages now => exact .check_messages inv now
  | ack_messages msg_ids => exact .ack_messages inv msg_ids
  | reap now restarted => exact .reap inv now restarted
  | turn_completed =>
    apply Effect.process inv rfl rfl rfl rfl
    · simp only [step]; split <;> rfl
    · simp only [step]; split <;> rfl
    · simp only [step]
      split
      · next stage =>
        rw [stage]
        split
        · rfl
        · rfl
      · rfl
  | process_exited restarted =>
    apply Effect.process inv rfl rfl rfl rfl
    · simp only [step]
      split
      · exact (restart_claude_frame _ _).1
      · rfl
    · simp only [step]
      split
      · exact (restart_claude_frame _ _).2
      · rfl
    · simp only [step]; split <;> rfl
  | turn_watchdog restarted =>
    apply Effect.process inv rfl rfl rfl rfl
    · simp only [step]
      split
      · exact (restart_claude_frame _ _).1
      · rfl
    · simp only [step]
      split
      · exact (restart_claude_frame _ _).2
      · rfl
    · simp only [step]; split <;> rfl

/-! ## Runs -/

/-- A row that is in flight after a step was so before, or its message has just been handed out. -/
theorem in_flight_step (d : Buffer) (e : Event) {row : Text × Accepted × Int} (inside : row ∈ (step d e).agent.in_flight.rows) :
    row ∈ d.agent.in_flight.rows ∨ ∃ now, e = .check_messages now ∧
      ∃ m ∈ (requeue_expired d.agent now).1.pending_inbox, row = (delivery_id m, m, now) := by
  have requeued {now : Int} (inside : row ∈ (requeue_expired d.agent now).1.in_flight.rows) : row ∈ d.agent.in_flight.rows :=
    (requeue_expired_spec d.agent now).2 row inside
  cases e with
  | receive address message restarted =>
    left
    simp only [step] at inside
    split at inside
    · unfold deliver at inside
      split at inside
      · exact inside
      · rw [(accept_spec _ _ _).1, (remember_frame _ _).2.1] at inside
        exact inside
    · exact inside
  | take =>
    left
    simp only [step] at inside
    split at inside
    · split at inside
      · exact inside
      · exact inside
    · exact inside
  | write succeeds =>
    left
    simp only [step] at inside
    split at inside
    · split at inside
      · exact inside
      · exact inside
    · exact inside
  | put_back =>
    left
    simp only [step] at inside
    split at inside
    · exact inside
    · exact inside
  | check_messages now =>
    rcases mem_put_all inside with old | ⟨m, waiting, rfl⟩
    · exact .inl (requeued old)
    · exact .inr ⟨now, rfl, m, waiting, rfl⟩
  | ack_messages msg_ids => exact .inl ((ack_messages_spec d.agent msg_ids).2 row inside).1
  | reap now restarted =>
    left
    simp only [step] at inside
    split at inside
    · split at inside
      · exact requeued inside
      · split at inside
        · rw [(start_claude_frame _ _).2] at inside
          exact requeued inside
        · split at inside
          · exact requeued inside
          · exact requeued inside
    · exact inside
  | turn_completed =>
    left
    simp only [step] at inside
    split at inside
    · exact inside
    · exact inside
  | process_exited restarted =>
    left
    simp only [step] at inside
    split at inside
    · rw [(restart_claude_frame _ _).2] at inside
      exact inside
    · exact inside
  | turn_watchdog restarted =>
    left
    simp only [step] at inside
    split at inside
    · rw [(restart_claude_frame _ _).2] at inside
      exact inside
    · exact inside

theorem keyed_step (keyed : Keyed d.agent.in_flight) (e : Event) : Keyed (step d e).agent.in_flight := by
  intro row inside
  rcases in_flight_step d e inside with old | ⟨now, _, m, _, rfl⟩
  · exact keyed row old
  · rfl

theorem count_step (d : Buffer) (e : Event) : (step d e).count = d.count + (newly_accepted d e).length := by
  cases e with
  | receive address message restarted =>
    cases accepted : accepts d address message with
    | false =>
      obtain ⟨_, count⟩ := step_refused restarted accepted
      simp [newly_accepted, count]
    | true =>
      obtain ⟨_, _, count, _⟩ := step_accepted restarted accepted
      simp [newly_accepted, count]
  | check_messages now => rfl
  | ack_messages msg_ids => rfl
  | take =>
    simp only [step]
    split
    · split
      · rfl
      · rfl
    · rfl
  | write succeeds =>
    simp only [step]
    split
    · split
      · rfl
      · rfl
    · rfl
  | put_back => simp only [step]; split <;> rfl
  | reap now restarted =>
    simp only [step]
    split
    · split
      · rfl
      · split
        · rfl
        · split
          · rfl
          · rfl
    · rfl
  | turn_completed => simp only [step]; split <;> rfl
  | process_exited restarted => simp only [step]; split <;> rfl
  | turn_watchdog restarted => simp only [step]; split <;> rfl

theorem Inv.observe (inv : Inv o) (e : Event) : Inv (observe o e) := by
  have now := effect inv e
  refine ⟨keyed_step inv.keyed e, now.apart, ?_, ?_⟩
  · intro m inside
    rcases now.known m inside with old | new
    · exact List.mem_append_left _ (inv.known m old)
    · exact List.mem_append_right _ new
  · intro m inside
    show m.serial < (step o.buffer e).count
    rw [count_step]
    rcases List.mem_append.mp inside with old | new
    · exact Nat.lt_add_right _ (inv.counted m old)
    · rcases newly_accepted_cases o.buffer e with none | ⟨address, message, one⟩
      · rw [none] at new; cases new
      · rw [one] at new ⊢
        rw [List.mem_singleton.mp new]
        exact Nat.lt_succ_self _

theorem inv_opening : Inv opening := by
  refine ⟨?_, ?_, ?_, ?_⟩
  · intro row inside; cases inside
  · exact List.nodup_nil
  · intro m inside; cases inside
  · intro m inside; cases inside

theorem kept_opening : Kept opening := by
  intro m inside; cases inside

theorem Kept.observe (inv : Inv o) (kept : Kept o) (room : roomy o.buffer e = true) : Kept (observe o e) := by
  intro m inside
  apply (effect inv e).kept.mp room
  rcases List.mem_append.mp inside with old | new
  · exact .inl (kept m old)
  · exact .inr new

theorem lost_of_crowded (inv : Inv o) (crowded : ¬ roomy o.buffer e = true) : ¬ Kept (observe o e) := by
  intro kept
  apply crowded
  apply (effect inv e).kept.mpr
  rintro m (old | new)
  · exact kept m (List.mem_append_left _ (inv.known m old))
  · exact kept m (List.mem_append_right _ new)

/-- Every accepted message is kept throughout a run exactly when every event of the
    run is roomy: no message is accepted for a busy Claude while `MAX_PENDING`
    messages wait, and none is handed out under the delivery id of another. -/
theorem at_least_once_iff_roomy (events : List Event) :
    Always observe Kept opening events ↔ AllSteps observe (fun o e => roomy o.buffer e = true) opening events := by
  have invariant : ∀ o e, Inv o → True → Inv (observe o e) := fun _ e inv _ => inv.observe e
  have keeps : ∀ o e, Inv o → Kept o → True → roomy o.buffer e = true → Kept (observe o e) :=
    fun _ _ inv kept _ room => kept.observe inv room
  have breaks : ∀ o e, Inv o → Kept o → True → ¬ roomy o.buffer e = true → ¬ Kept (observe o e) :=
    fun _ _ inv _ _ crowded => lost_of_crowded inv crowded
  exact always_iff_allSteps invariant keeps breaks events inv_opening kept_opening (fun _ _ => trivial)

/-! ### A crowded inbox -/

def note : Message := ⟨none, "#c".toList, "bob".toList, "hello".toList, [], Table.empty, false⟩

/-- So many messages, in objects at consecutive addresses. -/
def notes (first count : Nat) : List Event := (List.range' first count).map (fun address => .receive address note none)

/-- Claude starts for a first message and is handed it. Two hundred more arrive, the
    first one expires and goes back to the inbox, and one more arrives. -/
def crowd : List Event :=
  [.receive 0 note (some 1), .check_messages 0] ++ notes 1 200 ++ [.reap 31000000 none] ++ notes 201 1

/-- The first message is lost: handed out once, and never acknowledged or written. -/
theorem handed_out_and_lost : ∃ m ∈ (run observe opening crowd).accepted, m ∉ (run observe opening crowd).places := by
  exact ⟨⟨0, 0, note⟩, by decide +kernel⟩

end Aircd.Daemon

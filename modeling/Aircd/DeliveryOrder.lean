import Aircd.Attached

/-!
# The order of the lines of a session

A handle is in the routing before its session is sent the 001 line, and a message
gets its seq in one section while its recipients queue it in others. So the order
of the lines of a session depends on what the other tasks still have to send.
-/
namespace Aircd.Concurrent
open Aircd.Runs Aircd.Text Aircd.Protocol Aircd.Auth Aircd.History Aircd.Tasks Aircd.Store Aircd.Server

def asks_for_history : Command → Bool
  | .History _ _ _ => true
  | _ => false

/-- A system, with the sessions whose task answers a CHATHISTORY, and the stored
    messages that each session was queued otherwise: live or by the replay of its
    registration. -/
structure Observed where
  system : System
  answering : SessionId → Bool
  queued : SessionId → List StoredMessage

/-- The messages that an event queues to a session. -/
def newly_queued (cfg : Config) (s : System) (e : Event) (sid : SessionId) : List StoredMessage :=
  ((step cfg s e).world.enqueued sid).drop (s.world.enqueued sid).length

namespace Observed

/-- The event runs a section with which the session answers its own CHATHISTORY. -/
def explicit (o : Observed) (sid : SessionId) : Event → Bool
  | .run task _ => decide (task = sid) && o.answering sid
  | _ => false

end Observed

def observe (cfg : Config) (o : Observed) (e : Event) : Observed where
  system := step cfg o.system e
  answering := match e with
    | .receive sid command =>
      if o.system.idle sid then Function.update o.answering sid (asks_for_history command) else o.answering
    | _ => o.answering
  queued sid := o.queued sid ++ if o.explicit sid e then [] else newly_queued cfg o.system e sid

def opening (db : Db) : Observed := ⟨start db, fun _ => false, fun _ => []⟩

/-- No line of a channel comes before the 001 line. -/
def GreetedFirst : List ServerLine → Prop
  | [] => True
  | line :: rest => greeting line = true ∨ (on_channel line = false ∧ GreetedFirst rest)

def decideGreetedFirst : ∀ lines, Decidable (GreetedFirst lines)
  | [] => isTrue trivial
  | _ :: rest => @instDecidableOr _ _ _ (@instDecidableAnd _ _ _ (decideGreetedFirst rest))

instance (lines : List ServerLine) : Decidable (GreetedFirst lines) := decideGreetedFirst lines

structure InOrder (o : Observed) : Prop where
  greeted : ∀ sid, GreetedFirst (o.system.world.connections sid).lines
  increasing : ∀ sid, (o.queued sid).Pairwise (fun a b => a.channel = b.channel → a.seq < b.seq)

namespace Observed

/-- Whatever the section, left in the given task, comes to queue to the session in
    the channel of the message, comes after the message. -/
def later (o : Observed) (sid : SessionId) (m : StoredMessage) (task : SessionId) : Section → Bool
  | .broadcast_message _ message _ => decide (message.channel = m.channel → m.seq < message.seq)
  | .deliver _ message _ recipient =>
    decide (recipient.2.session_id = sid → message.channel = m.channel → m.seq < message.seq)
  | .history _ channel after_seq _ =>
    decide (task = sid → o.answering sid = false → channel = m.channel → m.seq ≤ after_seq)
  | .display_name message =>
    decide (task = sid → o.answering sid = false → message.channel = m.channel → m.seq < message.seq)
  | .send line => line.stored.all (fun message =>
    decide (task = sid → o.answering sid = false → message.channel = m.channel → m.seq < message.seq))
  | _ => true

/-- What a task has left when the first section of another one runs, or of the same one. -/
def others (o : Observed) (task task' : SessionId) : List Section :=
  if task' = task then (o.system.threads task).tail else o.system.threads task'

/-- A section that sends a line of a channel to an open session does not come before
    the 001 line of the session, nor one that queues a message to it before an earlier
    message of the channel, or the same one, that the section `x` of `task'` is to queue. -/
def clear (o : Observed) (task : SessionId) (here : Section) (task' : SessionId) (x : Section) : Bool :=
  here.reaches.all (fun sid => decide (o.system.world.open sid → task' = sid → x.greets = false)) &&
    (here.queues task).all (fun queued => decide (o.system.world.open queued.1 →
      (task = queued.1 → o.answering queued.1 = false) → o.later queued.1 queued.2 task' x = true))

/-- The event overtakes nothing that the given tasks have left. -/
def orderly (o : Observed) (tasks : List SessionId) : Event → Bool
  | .run task _ => (o.system.threads task).head?.all (fun here =>
    tasks.all (fun task' => (o.others task task').all (o.clear task here task')))
  | _ => true

variable {o : Observed} {cfg : Config} {e : Event} {env : Env} {sid task task' : SessionId} {m : StoredMessage}
  {x here : Section} {rest : List Section}

/-! ## What an event queues -/

theorem enqueued_step_other (cfg : Config) (o : Observed) (sid : SessionId) (notRun : ∀ sid env, e ≠ .run sid env) :
    (step cfg o.system e).world.enqueued sid = o.system.world.enqueued sid := by
  by_cases restarts : e = .restart
  · subst restarts
    rw [step, World.enqueued, (connections_restart sid).2, World.enqueued]
  · exact (step_other cfg o.system notRun restarts).1.enqueued sid

/-- An event queues nothing to a session that counts, or a section queues one message. -/
theorem queued_observe (cfg : Config) (o : Observed) (e : Event) (sid : SessionId) :
    (observe cfg o e).queued sid = o.queued sid ∨
    ∃ task env here rest m, e = .run task env ∧ o.system.threads task = here :: rest ∧
      here.queues task = some (sid, m) ∧ o.system.world.open sid ∧ (task = sid → o.answering sid = false) ∧
      (observe cfg o e).queued sid = o.queued sid ++ [m] := by
  rcases stepped cfg o.system e with ⟨task, env, here, rest, rfl, head⟩ | idle | notRun
  · by_cases own : o.explicit sid (.run task env) = true
    · left; simp [observe, own]
    · have implicit : task = sid → o.answering sid = false := by simpa [explicit] using own
      simp only [observe, own, newly_queued, step_run head, world_resume, enqueued_perform, List.drop_left]
      by_cases alive : o.system.world.open sid
      · cases queues : here.queues task with
        | none => left; simp
        | some queued =>
          obtain ⟨target, m⟩ := queued
          by_cases mine : target = sid
          · subst mine
            exact .inr ⟨task, env, here, rest, m, rfl, head, queues, alive, implicit, by simp [alive, Option.filter]⟩
          · left; simp [mine, Option.filter]
      · left; simp [alive]
  · left; simp [observe, newly_queued, idle]
  · left
    have same := enqueued_step_other cfg o sid notRun
    simp [observe, newly_queued, same]

/-- Only the arrival of a command changes whether a session answers a CHATHISTORY. -/
theorem answering_busy (busy : o.system.threads sid ≠ []) : (observe cfg o e).answering sid = o.answering sid := by
  cases e with
  | receive sid' command =>
    simp only [observe]
    split
    · next idle =>
      rw [Function.update_of_ne]
      rintro rfl
      simp [System.idle] at idle
      exact busy idle.2
    · rfl
  | _ => rfl

/-! ## What the sections have left -/

theorem later_congr {o' : Observed} (same : task = sid → o'.answering sid = o.answering sid) :
    o'.later sid m task x = o.later sid m task x := by
  by_cases own : task = sid
  · unfold later
    rw [same own]
  · unfold later
    simp [own]

theorem later_fresh (begins : x.fresh) : o.later sid m task x = true := by
  cases x with
  | send line => rw [later, stored_of_off_channel begins.1]; rfl
  | try_register => rfl
  | ensure_registered command => rfl
  | remove_client principal => rfl
  | finish => rfl
  | _ => exact begins.elim

theorem later_queues {queued : StoredMessage} (later : o.later sid m task here = true)
    (queues : here.queues task = some (sid, queued)) (logged : here.Logged o.system.world.db.messages)
    (implicit : task = sid → o.answering sid = false) (same : queued.channel = m.channel) : m.seq < queued.seq := by
  cases here with
  | send line =>
    obtain ⟨message, carried, both⟩ := Option.map_eq_some_iff.mp queues
    cases both
    simp only [Observed.later, carried, Option.all_some, decide_eq_true_eq] at later
    exact later trivial (implicit rfl) same
  | forward client line =>
    have plain : line.stored = none := logged
    rw [Section.queues, plain] at queues; cases queues
  | deliver channel message notice recipient =>
    cases queues
    simp only [Observed.later, decide_eq_true_eq] at later
    exact later trivial same
  | _ => cases queues

/-- The sections that lead to an explicit CHATHISTORY. -/
def asks : Section → Bool
  | .ensure_registered command => asks_for_history command
  | .memberships _ _ _ => true
  | _ => false

/-- What a section leads to comes later than what came before the section. -/
theorem later_perform (inside : x ∈ (perform cfg o.system.world env task here).2) (later : o.later sid m task here = true)
    (stored : m ∈ o.system.world.db.messages.rows) (settled : task = sid → here.registers = false)
    (asking : asks here = true → o.answering task = true) : o.later sid m task x = true := by
  have source := leads_perform inside
  cases x with
  | broadcast_message channel message notice =>
    obtain ⟨_, _, rfl, rfl⟩ := source
    exact decide_eq_true (fun _ => lt_next stored)
  | deliver channel message notice recipient =>
    obtain ⟨rfl, _⟩ := source
    simp only [Observed.later, decide_eq_true_eq] at later ⊢
    exact fun _ => later
  | history principal channel after_seq limit =>
    simp only [Observed.later, decide_eq_true_eq]
    rintro rfl implicit
    rcases source with ⟨_, rfl, _⟩ | ⟨_, rfl⟩ | rfl
    · cases settled rfl
    · rw [asking rfl] at implicit; cases implicit
    · rw [asking rfl] at implicit; cases implicit
  | display_name message =>
    obtain ⟨_, channel, after_seq, _, rfl, page⟩ := source
    obtain ⟨_, here, late⟩ := mem_of_mem_after page
    simp only [Observed.later, decide_eq_true_eq] at later ⊢
    intro own implicit same
    exact lt_of_le_of_lt (later own implicit (here.symm.trans same)) late
  | send line =>
    rcases source with ⟨off, _⟩ | ⟨message, rfl, rfl⟩ | ⟨_, _, rfl, rfl | ⟨_, rfl⟩⟩
    · rw [Observed.later, stored_of_off_channel off]; rfl
    · exact later
    · rfl
    · rfl
  | _ => rfl

/-! ## One event -/

/-- What holds in every state of a run that overtakes nothing. -/
structure Inv (o : Observed) : Prop where
  logged : Logged o.system
  reached : Reached o.system
  asking : ∀ sid, ∀ x ∈ o.system.threads sid, asks x = true → o.answering sid = true
  stored : ∀ sid, ∀ m ∈ o.queued sid, m ∈ o.system.world.db.messages.rows
  attached : ∀ sid, o.queued sid ≠ [] → Attached o.system sid
  later : ∀ sid, ∀ m ∈ o.queued sid, ∀ task, ∀ x ∈ o.system.threads task, o.later sid m task x = true
  in_order : InOrder o

/-- A session that a section queues a message to is attached. -/
theorem attached_of_queues (reached : Reached o.system) (inside : here ∈ o.system.threads task)
    (queues : here.queues task = some (sid, m)) : Attached o.system sid := by
  cases here with
  | send line =>
    obtain ⟨message, carried, both⟩ := Option.map_eq_some_iff.mp queues
    cases both
    apply reached.emits _ _ inside
    cases line with
    | Message _ _ _ => rfl
    | TaskEvent _ _ _ _ _ => rfl
    | _ => cases carried
  | forward client line =>
    obtain ⟨message, carried, both⟩ := Option.map_eq_some_iff.mp queues
    cases both
    exact reached.reaches _ _ inside client.session_id rfl
  | deliver channel message notice recipient =>
    cases queues
    exact reached.reaches _ _ inside recipient.2.session_id rfl
  | _ => cases queues

theorem asking_observe (inv : Inv o) : ∀ sid, ∀ x ∈ (observe cfg o e).system.threads sid,
    asks x = true → (observe cfg o e).answering sid = true := by
  intro sid x inside asking
  rcases threads_step cfg o.system e sid with same | ⟨env, here, rest, rfl, head, next⟩ | ⟨empty, runs, begins⟩ | ⟨_, empty⟩
  · have inside : x ∈ o.system.threads sid := by rw [← same]; exact inside
    rw [answering_busy (List.ne_nil_of_mem inside)]
    exact inv.asking sid x inside asking
  · have pending : here ∈ o.system.threads sid := by rw [head]; exact List.mem_cons_self
    have inside : x ∈ (perform cfg o.system.world env sid here).2 ++ rest := by rw [← next]; exact inside
    show o.answering sid = true
    rcases List.mem_append.mp inside with new | old
    · have source := leads_perform new
      cases x with
      | memberships principal after_seq limit =>
        obtain rfl : here = _ := source
        exact inv.asking sid _ pending rfl
      | ensure_registered command => exact source.elim
      | _ => cases asking
    · exact inv.asking sid x (by rw [head]; exact List.mem_cons_of_mem _ old) asking
  · have idle : o.system.idle sid = true := by simp [System.idle, empty, runs]
    have inside : x ∈ (step cfg o.system e).threads sid := inside
    have disconnects : ∀ x ∈ disconnect o.system.world sid, asks x = false := by
      intro x inside
      unfold disconnect at inside
      split at inside
      · rw [List.mem_singleton.mp inside]; rfl
      · rw [List.mem_singleton.mp inside]; rfl
    rcases begins with ⟨command, rfl, sections⟩ | sections | ⟨reason, sections⟩
    · rw [sections] at inside
      simp only [observe, idle, if_true, Function.update_self]
      cases command with
      | History channel after_seq limit => rfl
      | Quit => rw [disconnects x inside] at asking; cases asking
      | Cap subcommand capabilities =>
        obtain ⟨line, _, rfl⟩ := List.mem_map.mp inside
        cases asking
      | Pong => cases inside
      | _ => rw [List.mem_singleton.mp inside] at asking; cases asking
    · rw [sections] at inside
      rw [disconnects x inside] at asking; cases asking
    · rw [sections] at inside
      rcases List.mem_cons.mp inside with rfl | later
      · cases asking
      · rw [disconnects x later] at asking; cases asking
  · have inside : x ∈ (step cfg o.system e).threads sid := inside
    rw [empty] at inside; cases inside

/-- What was queued before the event stays before what the tasks have left. -/
theorem later_observe (inv : Inv o) (queued : m ∈ o.queued sid) (inside : x ∈ (observe cfg o e).system.threads task) :
    (observe cfg o e).later sid m task x = true := by
  rcases threads_step cfg o.system e task with same | ⟨env, here, rest, rfl, head, next⟩ | ⟨_, _, begins⟩ | ⟨_, empty⟩
  · have inside : x ∈ o.system.threads task := by rw [← same]; exact inside
    refine (later_congr ?_).trans (inv.later sid m queued task x inside)
    rintro rfl
    exact answering_busy (List.ne_nil_of_mem inside)
  · have pending : here ∈ o.system.threads task := by rw [head]; exact List.mem_cons_self
    have inside : x ∈ (perform cfg o.system.world env task here).2 ++ rest := by rw [← next]; exact inside
    refine (later_congr (fun _ => rfl)).trans ?_
    rcases List.mem_append.mp inside with new | old
    · apply later_perform new (inv.later sid m queued task here pending) (inv.stored sid m queued)
      · rintro rfl
        exact (inv.attached task (List.ne_nil_of_mem queued)).settled here pending
      · exact inv.asking task here pending
    · exact inv.later sid m queued task x (by rw [head]; exact List.mem_cons_of_mem _ old)
  · exact later_fresh (begins.fresh inside)
  · have inside : x ∈ (step cfg o.system e).threads task := inside
    rw [empty] at inside; cases inside

/-- A section that queues a message leads to nothing else to queue. -/
theorem later_of_queues {queued : SessionId × StoredMessage} (queues : here.queues task = some queued)
    (inside : x ∈ (perform cfg o.system.world env task here).2) : o.later sid m task' x = true := by
  cases here with
  | send line => cases inside
  | forward client line => cases inside
  | deliver channel message notice recipient =>
    rw [perform_deliver] at inside
    dsimp only at inside
    split at inside
    · rw [List.mem_singleton.mp inside]; rfl
    · cases inside
  | _ => cases queues

theorem clear_of_orderly (orderly : ∀ tasks, o.orderly tasks (.run task env) = true)
    (head : o.system.threads task = here :: rest) (inside : x ∈ o.others task task') : o.clear task here task' x = true := by
  have checked := orderly [task']
  simp only [Observed.orderly, head, List.head?_cons, Option.all_some, List.all_cons, List.all_nil, Bool.and_true,
    List.all_eq_true] at checked
  exact checked x inside

theorem greetedFirst_append {lines more : List ServerLine} (first : GreetedFirst lines)
    (next : (∃ line ∈ lines, greeting line = true) ∨ ∀ line ∈ more, on_channel line = false) :
    GreetedFirst (lines ++ more) := by
  induction lines with
  | nil =>
    rcases next with ⟨line, inside, _⟩ | plain
    · cases inside
    · induction more with
      | nil => trivial
      | cons line rest ih =>
        obtain ⟨off, later⟩ := List.forall_mem_cons.mp plain
        exact .inr ⟨off, ih later⟩
  | cons line rest ih =>
    rcases first with greets | ⟨off, first⟩
    · exact .inl greets
    · rcases next with ⟨other, inside, greets⟩ | plain
      · rcases List.mem_cons.mp inside with rfl | later
        · exact .inl greets
        · exact .inr ⟨off, ih first (.inl ⟨other, later, greets⟩)⟩
      · exact .inr ⟨off, ih first (.inr plain)⟩

/-- A section sends a line in its own task, or to a session that it reaches. -/
theorem sends_cases {line : ServerLine} (sends : here.sends task = some (sid, line)) :
    (sid = task ∧ here = .send line) ∨ (here.reaches = some sid ∧ here.greets = false) := by
  cases here with
  | send line => cases sends; exact .inl ⟨rfl, rfl⟩
  | forward client line => cases sends; exact .inr ⟨rfl, rfl⟩
  | deliver channel message notice recipient => cases sends; exact .inr ⟨rfl, rfl⟩
  | _ => cases sends

/-- A line of a channel finds the session sent its 001 line. -/
theorem greeted_before {line : ServerLine} (inv : Inv o) (orderly : ∀ tasks, o.orderly tasks (.run task env) = true)
    (head : o.system.threads task = here :: rest) (sends : here.sends task = some (sid, line))
    (alive : o.system.world.open sid) (channel : on_channel line = true) :
    ∃ line ∈ (o.system.world.connections sid).lines, greeting line = true := by
  have pending : here ∈ o.system.threads task := by rw [head]; exact List.mem_cons_self
  rcases sends_cases sends with ⟨rfl, rfl⟩ | ⟨reaches, silent⟩
  · rcases (inv.reached.emits sid _ pending channel).greeted alive with greeted | ⟨x, inside, greets⟩
    · exact greeted
    · have shaped := inv.reached.shaped sid
      rw [head] at inside shaped
      rcases List.mem_cons.mp inside with rfl | later
      · cases line with
        | Registered _ _ => cases channel
        | _ => cases greets
      · rw [shaped.greets x later] at greets; cases greets
  · rcases (inv.reached.reaches task here pending sid reaches).greeted alive with greeted | ⟨x, inside, greets⟩
    · exact greeted
    · have left_there : x ∈ o.others task sid := by
        unfold others
        split
        · next same =>
          rw [same, head] at inside
          rcases List.mem_cons.mp inside with rfl | later
          · rw [silent] at greets; cases greets
          · rw [head]; exact later
        · exact inside
      have clear := clear_of_orderly orderly head left_there
      simp only [Observed.clear, reaches, Option.all_some, Bool.and_eq_true, decide_eq_true_eq] at clear
      rw [clear.1 alive trivial] at greets; cases greets

theorem greeted_observe (inv : Inv o) (orderly : ∀ tasks, o.orderly tasks e = true) (sid : SessionId) :
    GreetedFirst ((observe cfg o e).system.world.connections sid).lines := by
  have first := inv.in_order.greeted sid
  rcases stepped cfg o.system e with ⟨task, env, here, rest, rfl, head⟩ | idle | notRun
  · simp only [observe, step_run head, world_resume, lines_perform]
    apply greetedFirst_append first
    cases sends : here.sends task with
    | none => right; simp
    | some sent =>
      obtain ⟨target, line⟩ := sent
      by_cases mine : o.system.world.open sid ∧ target = sid
      · obtain ⟨alive, rfl⟩ := mine
        by_cases channel : on_channel line = true
        · exact .inl (greeted_before inv orderly head sends alive channel)
        · right; simpa [alive, Option.filter] using channel
      · right; simp [mine, Option.filter]
  · simpa only [observe, idle] using first
  · obtain ⟨more, lines, welcome⟩ := lines_step_other cfg o.system sid notRun
    show GreetedFirst ((step cfg o.system e).world.connections sid).lines
    rw [lines]
    refine greetedFirst_append first (.inr (fun line inside => ?_))
    rw [welcome line inside]
    rfl

theorem Inv.observe (inv : Inv o) (orderly : ∀ tasks, o.orderly tasks e = true) : Inv (observe cfg o e) := by
  have grows (m : StoredMessage) (stored : m ∈ o.system.world.db.messages.rows) :
      m ∈ (Concurrent.observe cfg o e).system.world.db.messages.rows := rows_step stored
  refine ⟨inv.logged.step, inv.reached.step, asking_observe inv, ?_, ?_, ?_, greeted_observe inv orderly, ?_⟩
  · intro sid m inside
    rcases queued_observe cfg o e sid with same | ⟨task, env, here, rest, m', rfl, head, queues, _, _, grown⟩
    · rw [same] at inside; exact grows m (inv.stored sid m inside)
    · rw [grown] at inside
      rcases List.mem_append.mp inside with old | new
      · exact grows m (inv.stored sid m old)
      · rw [List.mem_singleton.mp new]
        exact grows m' (logged_queues (inv.logged.tasks task here (by rw [head]; exact List.mem_cons_self)) queues)
  · intro sid some
    rcases queued_observe cfg o e sid with same | ⟨task, env, here, rest, m', rfl, head, queues, _, _, _⟩
    · rw [same] at some; exact (inv.attached sid some).step
    · have target := attached_of_queues inv.reached (by rw [head]; exact List.mem_cons_self) queues
      have after : Attached (step cfg o.system (.run task env)) sid := target.step
      exact after
  · intro sid m inside task' x pending
    rcases queued_observe cfg o e sid with same | ⟨task, env, here, rest, m', rfl, head, queues, alive, implicit, grown⟩
    · rw [same] at inside; exact later_observe inv inside pending
    · rw [grown] at inside
      rcases List.mem_append.mp inside with old | new
      · exact later_observe inv old pending
      · rw [List.mem_singleton.mp new]
        have pending : x ∈ (step cfg o.system (.run task env)).threads task' := pending
        have checked (inside : x ∈ o.others task task') : o.later sid m' task' x = true := by
          have clear := clear_of_orderly orderly head inside
          simp only [Observed.clear, queues, Option.all_some, Bool.and_eq_true, decide_eq_true_eq] at clear
          exact clear.2 alive implicit
        show o.later sid m' task' x = true
        rw [step_run head, threads_resume] at pending
        split at pending
        · next same =>
          rcases List.mem_append.mp pending with more | old
          · exact later_of_queues queues more
          · exact checked (by rw [others, if_pos same, head]; exact old)
        · next other => exact checked (by rw [others, if_neg other]; exact pending)
  · intro sid
    rcases queued_observe cfg o e sid with same | ⟨task, env, here, rest, m', rfl, head, queues, _, implicit, grown⟩
    · rw [same]; exact inv.in_order.increasing sid
    · rw [grown, List.pairwise_append]
      refine ⟨inv.in_order.increasing sid, List.pairwise_singleton _ _, ?_⟩
      intro m old m'' new same
      rw [List.mem_singleton.mp new] at same ⊢
      have pending : here ∈ o.system.threads task := by rw [head]; exact List.mem_cons_self
      exact later_queues (inv.later sid m old task here pending) queues (inv.logged.tasks task here pending) implicit same.symm

theorem inv_opening (db : Db) : Inv (opening db) := by
  refine ⟨logged_run plain db [], reached_run plain db [], ?_, ?_, ?_, ?_, ?_, ?_⟩
  · intro sid x inside; cases inside
  · intro sid m inside; cases inside
  · intro sid some; exact absurd rfl some
  · intro sid m inside; cases inside
  · intro sid; trivial
  · intro sid; exact List.Pairwise.nil

end Observed

/-- In a run that overtakes nothing, every session has its lines in order at every
    moment: none of a channel before the 001 line, and in each channel those queued
    live or by the replay of the registration with increasing seqs. -/
theorem delivery_order (cfg : Config) (db : Db) (events : List Event)
    (orderly : AllSteps (observe cfg) (fun o e => ∀ tasks, o.orderly tasks e = true) (opening db) events) :
    Always (observe cfg) InOrder (opening db) events := by
  rw [always_iff_run]
  rintro before after rfl
  have inv := run_invariant_of (fun _ _ inv orderly => Observed.Inv.observe inv orderly) before
    (Observed.inv_opening db) (allSteps_append.mp orderly).1
  exact inv.in_order

/-! ### Small runs -/

/-- The tasks that have nothing left need no look. -/
theorem orderly_of_idle {o : Observed} {e : Event} {tasks : List SessionId}
    (idle : ∀ sid, sid ∉ tasks → o.system.threads sid = []) (checked : o.orderly tasks e = true) (tasks' : List SessionId) :
    o.orderly tasks' e = true := by
  cases e with
  | run task env =>
    cases head : o.system.threads task with
    | nil => simp [Observed.orderly, head]
    | cons here rest =>
      simp only [Observed.orderly, head, List.head?_cons, Option.all_some, List.all_eq_true] at checked ⊢
      intro task' _ x inside
      by_cases listed : task' ∈ tasks
      · exact checked task' listed x inside
      · have empty : o.others task task' = [] := by
          unfold Observed.others
          split
          · next same => rw [← same, idle task' listed]; rfl
          · exact idle task' listed
        rw [empty] at inside; cases inside
  | _ => rfl

theorem orderly_run {cfg : Config} {tasks : List SessionId} : ∀ (events : List Event) {o : Observed},
    (∀ sid, sid ∉ tasks → Unused sid o.system) → (∀ e ∈ events, ∀ sid, e.session = some sid → sid ∈ tasks) →
    AllSteps (observe cfg) (fun o e => o.orderly tasks e = true) o events →
    AllSteps (observe cfg) (fun o e => ∀ tasks, o.orderly tasks e = true) o events
  | [], _, _, _, _ => trivial
  | e :: rest, o, idle, few, ⟨here, later⟩ => by
    obtain ⟨first, others⟩ := List.forall_mem_cons.mp few
    refine ⟨orderly_of_idle idle here, orderly_run rest ?_ others later⟩
    intro sid absent
    exact unused_step (idle sid absent) (fun same => absent (first sid same))

/-- Alice is connected, and Bob is authenticated. -/
def alice_then_bob : List Event :=
  arrival 0 "alice".toList "a".toList ++ sections 0 10 0 ++ arrival 1 "bob".toList "b".toList

/-- Alice's message, then Bob's, each with all its sections. -/
def one_by_one : List Event :=
  alice_then_bob ++ sections 1 10 0 ++ [hello 0] ++ sections 0 10 1 ++ [hello 1] ++ sections 1 10 2

theorem delivery_order_one_by_one :
    Always (observe plain) InOrder (opening both_in_c) one_by_one :=
  delivery_order plain both_in_c one_by_one
    (orderly_run one_by_one (fun _ _ => rfl) (show ∀ e ∈ one_by_one, ∀ sid, e.session = some sid → sid ∈ [0, 1] by decide +kernel)
      (by decide +kernel))

/-- Alice's message comes between the insertion of Bob's handle and his 001 line. -/
def unwelcomed : Observed :=
  run (observe plain) (opening both_in_c) (alice_then_bob ++ sections 1 2 0 ++ [hello 0] ++ sections 0 10 1 ++ sections 1 10 0)

/-- Alice's message is stored before Bob's and has its recipients after it. -/
def swapped : Observed :=
  run (observe plain) (opening both_in_c)
    (alice_then_bob ++ sections 1 10 0 ++ [hello 0, hello 1] ++ sections 0 3 1 ++ sections 1 10 2 ++ sections 0 10 1)

/-- Bob is queued a message before his 001 line, and again by his replay; or two
    messages against the order of their seqs. -/
theorem delivery_out_of_order :
    ¬ GreetedFirst (unwelcomed.system.world.connections 1).lines ∧
    ¬ (unwelcomed.queued 1).Pairwise (fun a b => a.channel = b.channel → a.seq < b.seq) ∧
    ¬ (swapped.queued 1).Pairwise (fun a b => a.channel = b.channel → a.seq < b.seq) := by
  decide +kernel

end Aircd.Concurrent

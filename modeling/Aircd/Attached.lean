import Aircd.Pending

/-!
# The sessions that lines reach

The handle of a session is inserted before its 001 line is queued. From the
insertion on the session is attached: it stays registered, and until it is sent
its 001 line, its own task has that line left to send.
-/
namespace Aircd.Concurrent
open Aircd.Runs Aircd.Text Aircd.Protocol Aircd.Auth Aircd.History Aircd.Tasks Aircd.Store Aircd.Server

/-- The two sections of a registration up to the insertion of the handle. -/
def Section.registers : Section → Bool
  | .mark_connected _ => true
  | .insert_client _ _ => true
  | _ => false

/-- The sections that are alone in their task. -/
def Section.lone : Section → Bool
  | .try_register => true
  | .ensure_registered _ => true
  | x => x.registers

def Section.greets : Section → Bool
  | .send line => greeting line
  | _ => false

/-- The sections with which the task of a session sends it lines of a channel, or comes to do so. -/
def Section.emits : Section → Bool
  | .send line => on_channel line
  | .history _ _ _ _ => true
  | .display_name _ => true
  | .memberships _ _ _ => true
  | _ => false

/-- The session to which a section of any task sends a line of a channel. -/
def Section.reaches : Section → Option SessionId
  | .forward client _ => some client.session_id
  | .deliver _ _ _ recipient => some recipient.2.session_id
  | _ => none

variable {cfg : Config} {s : System} {w : World} {env : Env} {sid sid' : SessionId} {x here : Section}

/-! ## What stays so in a connection -/

/-- A connection that is in use stays in use, a registered one stays registered, and no line is taken back. -/
structure Onward (connection connection' : Connection) : Prop where
  used : connection.phase ≠ .Unused → connection'.phase ≠ .Unused
  registered : connection.session.registered = true → connection'.session.registered = true
  lines : ∀ line ∈ connection.lines, line ∈ connection'.lines

theorem Onward.refl (connection : Connection) : Onward connection connection :=
  ⟨fun used => used, fun registered => registered, fun _ inside => inside⟩

theorem Onward.trans {first second third : Connection} (before : Onward first second) (after : Onward second third) :
    Onward first third :=
  ⟨fun used => after.used (before.used used), fun registered => after.registered (before.registered registered),
    fun line inside => after.lines line (before.lines line inside)⟩

theorem onward_modify (change : Connection → Connection) (each : Onward (w.connections sid) (change (w.connections sid))) :
    Onward (w.connections sid') ((w.modify sid change).connections sid') := by
  rw [connections_modify]
  split
  · next here => rw [here]; exact each
  · exact .refl _

theorem onward_ended (change : Connection → Connection) (phase : ∀ connection, (change connection).phase = .Ended)
    (session : ∀ connection, (change connection).session = connection.session)
    (lines : ∀ connection, (change connection).lines = connection.lines) :
    Onward (w.connections sid') ((w.modify sid change).connections sid') := by
  apply onward_modify
  refine ⟨fun _ => by rw [phase]; simp, fun registered => by rw [session]; exact registered, fun line inside => ?_⟩
  rw [lines]
  exact inside

theorem onward_send (line : ServerLine) : Onward (w.connections sid') ((w.send sid line).connections sid') := by
  rw [connections_send]
  split
  · next here =>
    rw [here.1]
    exact ⟨fun used => used, fun registered => registered, fun line inside => List.mem_append_left _ inside⟩
  · exact .refl _

theorem onward_insert_client (principal_id : Text) (channels : List Text) :
    Onward (w.connections sid') ((Server.insert_client w sid principal_id channels).connections sid') := by
  unfold Server.insert_client
  cases w.inner.clients principal_id with
  | none => exact .refl _
  | some old =>
    dsimp only
    rw [connections_modify]
    split
    · next here => rw [here]; exact ⟨fun used => used, fun registered => registered, fun _ inside => inside⟩
    · exact .refl _

theorem onward_perform (x : Section) : Onward (w.connections sid') ((perform cfg w env sid x).1.connections sid') := by
  have still (w' : World) (same : w'.connections = w.connections) : Onward (w.connections sid') (w'.connections sid') := by
    rw [same]; exact .refl _
  cases x with
  | send line => exact onward_send line
  | forward client line => exact onward_send line
  | deliver channel message notice recipient => rw [perform_deliver]; exact onward_send _
  | try_register =>
    rcases perform_try_register cfg w env sid with ⟨_, result, _⟩ | ⟨_, _, _, result⟩
    · rw [result]; exact .refl _
    · rw [result]
      exact onward_modify (fun connection => { connection with session := _ })
        ⟨fun used => used, fun _ => rfl, fun _ inside => inside⟩
  | insert_client principal memberships => exact onward_insert_client _ _
  | remove_client principal => rw [perform_remove_client]; exact still _ (remove_client_frame _ _ _).2
  | finish =>
    exact onward_ended (fun connection => { connection with phase := .Ended, writer := false })
      (fun _ => rfl) (fun _ => rfl) (fun _ => rfl)
  | leave =>
    exact onward_ended (fun connection => { connection with phase := .Ended }) (fun _ => rfl) (fun _ => rfl) (fun _ => rfl)
  | ensure_registered command => rw [world_ensure_registered]; exact .refl _
  | is_member principal channel body => rw [world_is_member]; exact .refl _
  | task_create principal channel title =>
    simp only [perform]
    split
    · exact .refl _
    · exact .refl _
  | task_claim principal task_id => rw [perform, world_task_result]; exact .refl _
  | task_done principal task_id => rw [perform, world_task_result]; exact .refl _
  | task_release principal task_id => rw [perform, world_task_result]; exact .refl _
  | _ => exact still _ rfl

theorem onward_handle_command (command : Command) :
    Onward (w.connections sid') ((handle_command w sid command).1.connections sid') := by
  have session (session : Session) (kept : session.registered = (w.connections sid).session.registered) :
      Onward (w.connections sid') ((w.setSession sid session).connections sid') :=
    onward_modify (fun connection => { connection with session := session })
      ⟨fun used => used, fun registered => kept.trans registered, fun _ inside => inside⟩
  cases command with
  | Pass token => exact session _ rfl
  | Nick nick => exact session _ rfl
  | _ => exact .refl _

theorem onward_step (cfg : Config) (s : System) (e : Event) (sid : SessionId) :
    Onward (s.world.connections sid) ((step cfg s e).world.connections sid) := by
  cases e with
  | connect sid' =>
    simp only [step]
    split
    · refine Onward.trans (onward_modify (fun connection => { connection with phase := .Running, writer := true }) ?_)
        (onward_send _)
      exact ⟨fun _ => by simp, fun registered => registered, fun _ inside => inside⟩
    · exact .refl _
  | receive sid' command =>
    simp only [step]
    split
    · exact onward_handle_command command
    · exact .refl _
  | run sid' env =>
    cases head : s.threads sid' with
    | nil => rw [step_run_idle head]; exact .refl _
    | cons here rest => rw [step_run head]; exact onward_perform here
  | eof sid' =>
    simp only [step]
    split
    · exact .refl _
    · exact .refl _
  | shutdown sid' =>
    simp only [step]
    split
    · exact .refl _
    · split
      · exact .refl _
      · exact .refl _
  | read_error sid' =>
    simp only [step]
    split
    · exact onward_ended (fun connection => { connection with phase := .Ended }) (fun _ => rfl) (fun _ => rfl) (fun _ => rfl)
    · exact .refl _
  | writer_end sid' =>
    exact onward_modify (fun connection => { connection with writer := false })
      ⟨fun used => used, fun registered => registered, fun _ inside => inside⟩
  | restart =>
    simp only [step, Server.step]
    split
    · exact .refl _
    · exact ⟨fun _ => by simp, fun registered => registered, fun _ inside => inside⟩

/-- A session in use whose queue is open had an open queue before the event. -/
theorem open_of_step {e : Event} (used : (s.world.connections sid).phase ≠ .Unused)
    (alive : (step cfg s e).world.open sid) : s.world.open sid := by
  rcases stepped cfg s e with ⟨sid', env, here, rest, rfl, head⟩ | idle | notRun
  · rw [step_run head, world_resume] at alive
    by_cases ends : here = .finish ∧ sid' = sid
    · obtain ⟨rfl, rfl⟩ := ends
      simp [perform, World.open, connections_modify] at alive
    · exact (open_perform ends).mp alive
  · rw [idle] at alive; exact alive
  · by_cases connects : e = .connect sid
    · subst connects
      rw [step, if_neg used] at alive
      exact alive
    · exact open_step_other notRun connects alive

/-! ## The shape of a task -/

/-- A lone section has nothing beside it, and the 001 line has nothing before it. -/
structure Shaped (sections : List Section) : Prop where
  lone : ∀ x ∈ sections, x.lone = true → sections = [x]
  greets : ∀ x ∈ sections.tail, x.greets = false

theorem shaped_nil : Shaped [] := ⟨by simp, by simp⟩

theorem Begins.shaped {e : Event} {sections : List Section} (begins : Begins w sid e sections) : Shaped sections := by
  have fresh : ∀ x ∈ sections, x.fresh := fun x => begins.fresh
  refine ⟨?_, ?_⟩
  · have disconnects : ∀ x ∈ disconnect w sid, x.lone = false := by
      intro x inside
      unfold disconnect at inside
      split at inside
      · rw [List.mem_singleton.mp inside]; rfl
      · rw [List.mem_singleton.mp inside]; rfl
    have sends (lines : List ServerLine) : ∀ x ∈ lines.map Section.send, x.lone = false := by
      intro x inside
      obtain ⟨line, _, rfl⟩ := List.mem_map.mp inside
      rfl
    intro x inside lone
    rcases begins with ⟨command, _, rfl⟩ | rfl | ⟨reason, rfl⟩
    · cases command with
      | Quit => rw [disconnects x inside] at lone; cases lone
      | Cap subcommand capabilities => rw [sends _ x inside] at lone; cases lone
      | Pong => cases inside
      | _ => rw [List.mem_singleton.mp inside]; rfl
    · rw [disconnects x inside] at lone; cases lone
    · rcases List.mem_cons.mp inside with rfl | later
      · cases lone
      · rw [disconnects x later] at lone; cases lone
  · intro x inside
    have begun := fresh x (List.mem_of_mem_tail inside)
    cases x with
    | send line => exact begun.2
    | _ => rfl

/-- Only the insertion of a handle leads to a 001 line. -/
theorem greets_perform (other : ∀ principal rows, here ≠ .insert_client principal rows)
    (inside : x ∈ (perform cfg w env sid here).2) : x.greets = false := by
  have source := leads_perform inside
  cases x with
  | send line =>
    rcases source with ⟨_, plain⟩ | ⟨message, _, rfl⟩ | ⟨principal, rows, same, _⟩
    · exact plain
    · rfl
    · exact absurd same (other principal rows)
  | _ => rfl

theorem greets_welcome (principal : Principal) (rows : List Membership) :
    ∀ x ∈ (welcome principal rows).tail, x.greets = false := by
  intro x inside
  simp only [welcome, List.cons_append, List.nil_append, List.tail_cons, List.mem_append, List.mem_map] at inside
  rcases inside with ⟨membership, _, rfl⟩ | replays
  · rfl
  · split at replays
    · cases replays
    · rcases List.mem_cons.mp replays with rfl | later
      · rfl
      · obtain ⟨membership, _, rfl⟩ := List.mem_map.mp later
        rfl

/-- A lone section comes from a lone one and has its place. -/
theorem lone_perform (inside : x ∈ (perform cfg w env sid here).2) (lone : x.lone = true) :
    here.lone = true ∧ (perform cfg w env sid here).2 = [x] := by
  have source := leads_perform inside
  cases x with
  | mark_connected principal =>
    obtain rfl : here = .try_register := source
    refine ⟨rfl, ?_⟩
    rcases perform_try_register cfg w env sid with ⟨more, result, plain⟩ | ⟨principal', _, _, result⟩
    · rw [result] at inside
      cases plain _ inside
    · rw [result] at inside ⊢
      rw [List.mem_singleton.mp inside]
  | insert_client principal rows =>
    obtain ⟨rfl, _⟩ := source
    exact ⟨rfl, by rw [List.mem_singleton.mp inside]; rfl⟩
  | try_register => exact source.elim
  | ensure_registered command => exact source.elim
  | _ => cases lone

theorem Shaped.perform {rest : List Section} (shaped : Shaped (here :: rest)) :
    Shaped ((perform cfg w env sid here).2 ++ rest) := by
  have alone : here.lone = true → rest = [] := fun lone => (List.cons.inj (shaped.lone here List.mem_cons_self lone)).2
  refine ⟨?_, ?_⟩
  · intro x inside lone
    rcases List.mem_append.mp inside with new | old
    · obtain ⟨source, single⟩ := lone_perform new lone
      rw [single, alone source]
      rfl
    · have same := shaped.lone x (List.mem_cons_of_mem _ old) lone
      have empty : rest = [] := (List.cons.inj same).2
      rw [empty] at old
      cases old
  · by_cases inserts : ∃ principal rows, here = .insert_client principal rows
    · obtain ⟨principal, rows, rfl⟩ := inserts
      rw [alone rfl, List.append_nil]
      exact greets_welcome principal rows
    · intro x inside
      rcases List.mem_append.mp (List.mem_of_mem_tail inside) with new | old
      · exact greets_perform (fun principal rows same => inserts ⟨principal, rows, same⟩) new
      · exact shaped.greets x old

theorem shaped_step {e : Event} (shaped : ∀ sid, Shaped (s.threads sid)) (sid : SessionId) :
    Shaped ((step cfg s e).threads sid) := by
  rcases threads_step cfg s e sid with same | ⟨env, here, rest, _, head, next⟩ | ⟨_, _, begins⟩ | ⟨_, empty⟩
  · rw [same]; exact shaped sid
  · rw [next]
    have before := shaped sid
    rw [head] at before
    exact before.perform
  · exact begins.shaped
  · rw [empty]; exact shaped_nil

/-! ## Attached sessions -/

structure Attached (s : System) (sid : SessionId) : Prop where
  used : (s.world.connections sid).phase ≠ .Unused
  registered : (s.world.connections sid).session.registered = true
  settled : ∀ x ∈ s.threads sid, x.registers = false
  greeted : s.world.open sid →
    (∃ line ∈ (s.world.connections sid).lines, greeting line = true) ∨ ∃ x ∈ s.threads sid, x.greets = true

theorem registers_perform (inside : x ∈ (perform cfg w env sid here).2) (registers : x.registers = true) :
    here.registers = true ∨ (here = .try_register ∧ (w.connections sid).session.registered = false ∧
      ((perform cfg w env sid here).1.connections sid).session.registered = true) := by
  have source := leads_perform inside
  cases x with
  | mark_connected principal =>
    obtain rfl : here = .try_register := source
    rcases perform_try_register cfg w env sid with ⟨more, result, plain⟩ | ⟨_, registered, _, result⟩
    · rw [result] at inside
      cases plain _ inside
    · refine .inr ⟨rfl, registered, ?_⟩
      rw [result]
      simp [World.setSession, connections_modify]
  | insert_client principal rows =>
    obtain ⟨rfl, _⟩ := source
    exact .inl rfl
  | _ => cases registers

/-- The 001 line of a session is queued when its section runs, if the queue is open. -/
theorem greeted_perform (greets : here.greets = true) (alive : w.open sid) :
    ∃ line ∈ ((perform cfg w env sid here).1.connections sid).lines, greeting line = true := by
  cases here with
  | send line =>
    refine ⟨line, ?_, greets⟩
    rw [lines_perform]
    simp [Section.sends, alive, Option.filter]
  | _ => cases greets

theorem Attached.step {e : Event} (attached : Attached s sid) : Attached (step cfg s e) sid := by
  have onward := onward_step cfg s e sid
  refine ⟨onward.used attached.used, onward.registered attached.registered, ?_, ?_⟩
  · intro x inside
    rcases mem_threads_step inside with old | ⟨env, here, rest, rfl, head, new⟩ | begins
    · exact attached.settled x old
    · rw [Bool.eq_false_iff]
      intro registers
      rcases registers_perform new registers with before | ⟨_, unregistered, _⟩
      · have settled := attached.settled here (by rw [head]; exact List.mem_cons_self)
        rw [before] at settled; cases settled
      · rw [attached.registered] at unregistered; cases unregistered
    · cases x with
      | mark_connected _ => exact begins.elim
      | insert_client _ _ => exact begins.elim
      | _ => rfl
  · intro alive
    have before := open_of_step attached.used alive
    rcases attached.greeted before with ⟨line, inside, greets⟩ | ⟨x, inside, greets⟩
    · exact .inl ⟨line, onward.lines line inside, greets⟩
    · rcases threads_step cfg s e sid with same | ⟨env, here, rest, rfl, head, next⟩ | ⟨empty, _, _⟩ | ⟨rfl, _⟩
      · exact .inr ⟨x, by rw [same]; exact inside, greets⟩
      · rw [head] at inside
        rcases List.mem_cons.mp inside with rfl | later
        · rw [step_run head]
          exact .inl (greeted_perform greets before)
        · exact .inr ⟨x, by rw [next]; exact List.mem_append_right _ later, greets⟩
      · rw [empty] at inside; cases inside
      · simp [Concurrent.step, Server.step, World.open, attached.used] at alive

/-- What the tasks are about to reach, and the sessions in the routing, are attached. -/
structure Reached (s : System) : Prop where
  used : ∀ sid, s.threads sid ≠ [] → (s.world.connections sid).phase ≠ .Unused
  shaped : ∀ sid, Shaped (s.threads sid)
  registering : ∀ sid, ∀ x ∈ s.threads sid, x.registers = true → (s.world.connections sid).session.registered = true
  clients : ∀ p client, s.world.inner.clients p = some client → Attached s client.session_id
  reaches : ∀ sid, ∀ x ∈ s.threads sid, ∀ sid', x.reaches = some sid' → Attached s sid'
  emits : ∀ sid, ∀ x ∈ s.threads sid, x.emits = true → Attached s sid

/-- The session that inserts its handle is attached from then on. -/
theorem attached_insert_client {principal : Principal} {rows : List Membership} {rest : List Section} (inv : Reached s)
    (head : s.threads sid = .insert_client principal rows :: rest) : Attached (step cfg s (.run sid env)) sid := by
  have onward := onward_step cfg s (.run sid env) sid
  have pending : Section.insert_client principal rows ∈ s.threads sid := by rw [head]; exact List.mem_cons_self
  have alone : rest = [] := by
    have same := (inv.shaped sid).lone _ pending rfl
    rw [head] at same
    exact (List.cons.inj same).2
  have next : (step cfg s (.run sid env)).threads sid = welcome principal rows := by
    rw [step_run head, threads_resume, if_pos rfl, alone, List.append_nil]
    rfl
  refine ⟨onward.used (inv.used sid (List.ne_nil_of_mem pending)), onward.registered (inv.registering sid _ pending rfl), ?_, ?_⟩
  · rw [next]
    intro x inside
    have put : x ∈ (perform cfg s.world env sid (.insert_client principal rows)).2 := inside
    have source := leads_perform put
    cases x with
    | mark_connected _ => cases source
    | insert_client _ _ => cases source.1
    | _ => rfl
  · intro _
    right
    rw [next]
    exact ⟨_, List.mem_append_left _ (List.mem_append_left _ (List.mem_singleton_self _)), rfl⟩

/-- The handler of a command runs for the current session of a principal. -/
theorem current_ensure_registered {command : Command}
    (inside : x ∈ (perform cfg w env sid (.ensure_registered command)).2) (emits : x.emits = true) :
    ∃ p, w.inner.clients p = some ⟨sid⟩ := by
  simp only [perform] at inside
  split at inside
  · split at inside
    · rw [List.mem_singleton.mp inside] at emits; cases emits
    · next principal _ =>
      split at inside
      · next current =>
        obtain ⟨client, found, same⟩ := (Option.any_eq_true _ _).mp current
        exact ⟨principal.id, by rw [found, ← of_decide_eq_true same]⟩
      · rcases List.mem_cons.mp inside with rfl | later
        · cases emits
        · rw [List.mem_singleton.mp later] at emits; cases emits
  · rw [List.mem_singleton.mp inside] at emits; cases emits

/-- What only an attached session emits comes from its registration, from a command, or from what emits already. -/
theorem emits_source (new : x ∈ (perform cfg w env sid here).2) (emits : x.emits = true) (before : here.emits = false) :
    (∃ principal rows, here = .insert_client principal rows) ∨ ∃ command, here = .ensure_registered command := by
  have source := leads_perform new
  cases x with
  | send line =>
    rcases source with ⟨off, _⟩ | ⟨message, rfl, _⟩ | ⟨principal, rows, rfl, _⟩
    · rw [Section.emits, off] at emits; cases emits
    · cases before
    · exact .inl ⟨principal, rows, rfl⟩
  | history principal channel after_seq limit =>
    rcases source with ⟨rows, rfl, _⟩ | ⟨asked, rfl⟩ | rfl
    · exact .inl ⟨principal, rows, rfl⟩
    · exact .inr ⟨_, rfl⟩
    · cases before
  | display_name message =>
    obtain ⟨_, _, _, _, rfl, _⟩ := source
    cases before
  | memberships principal after_seq limit => exact .inr ⟨_, source⟩
  | _ => cases emits

theorem Reached.used_step (inv : Reached s) {e : Event} (sid : SessionId) (busy : (step cfg s e).threads sid ≠ []) :
    ((step cfg s e).world.connections sid).phase ≠ .Unused := by
  have onward := onward_step cfg s e sid
  rcases threads_step cfg s e sid with same | ⟨_, here, rest, _, head, _⟩ | ⟨_, runs, _⟩ | ⟨_, empty⟩
  · rw [same] at busy; exact onward.used (inv.used sid busy)
  · exact onward.used (inv.used sid (by rw [head]; simp))
  · apply onward.used
    rw [show (s.world.connections sid).phase = .Running from runs]
    simp
  · exact absurd empty busy

theorem Reached.registering_step (inv : Reached s) {e : Event} (inside : x ∈ (step cfg s e).threads sid) (registers : x.registers = true) :
    ((step cfg s e).world.connections sid).session.registered = true := by
  have onward := onward_step cfg s e sid
  rcases mem_threads_step inside with old | ⟨env, here, rest, rfl, head, new⟩ | begins
  · exact onward.registered (inv.registering sid x old registers)
  · rcases registers_perform new registers with before | ⟨_, _, after⟩
    · exact onward.registered (inv.registering sid here (by rw [head]; exact List.mem_cons_self) before)
    · rw [step_run head]; exact after
  · cases x with
    | mark_connected _ => exact begins.elim
    | insert_client _ _ => exact begins.elim
    | _ => cases registers

/-- Only a registration puts a handle in the routing. -/
theorem Reached.clients_step (inv : Reached s) {e : Event} {p : Text} {client : ClientHandle}
    (found : (step cfg s e).world.inner.clients p = some client) : Attached (step cfg s e) client.session_id := by
  rcases stepped cfg s e with ⟨sid, env, here, rest, rfl, head⟩ | idle | notRun
  · have old (same : s.world.inner.clients p = some client) :
        Attached (Concurrent.step cfg s (.run sid env)) client.session_id := (inv.clients p client same).step
    rw [step_run head, world_resume, clients_perform] at found
    cases here with
    | insert_client principal rows =>
      dsimp only at found
      split at found
      · cases found; exact attached_insert_client inv head
      · exact old found
    | remove_client principal =>
      dsimp only at found
      split at found
      · cases found
      · exact old found
    | _ => exact old found
  · rw [idle] at found ⊢; exact inv.clients p client found
  · by_cases restarts : e = .restart
    · subst restarts; cases found
    · rw [(step_other cfg s notRun restarts).1.inner] at found
      exact (inv.clients p client found).step

theorem Reached.reaches_step (inv : Reached s) {e : Event} {sid' : SessionId} (inside : x ∈ (step cfg s e).threads sid)
    (reaches : x.reaches = some sid') : Attached (step cfg s e) sid' := by
  rcases mem_threads_step inside with old | ⟨env, here, rest, rfl, head, new⟩ | begins
  · exact (inv.reaches sid x old sid' reaches).step
  · have source := leads_perform new
    cases x with
    | forward client line =>
      obtain ⟨_, p, _, listed⟩ := source
      cases reaches
      exact (inv.clients p client (mem_recipients.mp listed).2).step
    | deliver channel message notice recipient =>
      obtain ⟨_, listed⟩ := source
      cases reaches
      exact (inv.clients recipient.1 recipient.2 (mem_recipients.mp listed).2).step
    | _ => cases reaches
  · cases x with
    | forward _ _ => exact begins.elim
    | deliver _ _ _ _ => exact begins.elim
    | _ => cases reaches

theorem Reached.emits_step (inv : Reached s) {e : Event} (inside : x ∈ (step cfg s e).threads sid) (emits : x.emits = true) :
    Attached (step cfg s e) sid := by
  rcases mem_threads_step inside with old | ⟨env, here, rest, rfl, head, new⟩ | begins
  · exact (inv.emits sid x old emits).step
  · have pending : here ∈ s.threads sid := by rw [head]; exact List.mem_cons_self
    cases before : here.emits with
    | true => exact (inv.emits sid here pending before).step
    | false =>
      rcases emits_source new emits before with ⟨principal, rows, rfl⟩ | ⟨command, rfl⟩
      · exact attached_insert_client inv head
      · obtain ⟨p, current⟩ := current_ensure_registered new emits
        exact (inv.clients p _ current).step
  · cases x with
    | send line => rw [Section.emits, begins.1] at emits; cases emits
    | history _ _ _ _ => exact begins.elim
    | display_name _ => exact begins.elim
    | memberships _ _ _ => exact begins.elim
    | _ => cases emits

theorem Reached.step {e : Event} (inv : Reached s) : Reached (step cfg s e) where
  used := inv.used_step
  shaped := shaped_step inv.shaped
  registering := fun _ _ inside registers => inv.registering_step inside registers
  clients := fun _ _ found => inv.clients_step found
  reaches := fun _ _ inside _ reaches => inv.reaches_step inside reaches
  emits := fun _ _ inside emits => inv.emits_step inside emits

theorem reached_run (cfg : Config) (db : Db) (events : List Event) : Reached (run (step cfg) (start db) events) := by
  apply run_invariant (fun _ _ inv => inv.step) events
  refine ⟨?_, fun _ => shaped_nil, ?_, ?_, ?_, ?_⟩
  · intro sid busy; exact absurd rfl busy
  · intro sid x inside; cases inside
  · intro p client found; cases found
  · intro sid x inside; cases inside
  · intro sid x inside; cases inside

end Aircd.Concurrent

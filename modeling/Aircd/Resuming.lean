import Aircd.Handoff
import Aircd.Handshake

/-!
# Behind the 001 line

Lines of a channel that overtake the 001 line reach a client that skips them. What
a registration replays comes behind that line. The server never looks at what it
has queued, so a run goes the same way whatever the queue of a session begins with.
-/
namespace Aircd.Concurrent
open Aircd.Runs Aircd.Text Aircd.Protocol Aircd.Auth Aircd.History Aircd.Tasks Aircd.Store Aircd.Server

variable {cfg : Config} {s s' : System} {w : World} {env : Env} {sid task : SessionId} {x here : Section} {e : Event}
  {before : List ServerLine} {m : StoredMessage} {t : Takeover}

/-! ## Queues are not read -/

/-- A connection with lines put before its own. -/
def preceded (before : List ServerLine) (connection : Connection) : Connection :=
  { connection with lines := before ++ connection.lines }

def prepend (w : World) (sid : SessionId) (before : List ServerLine) : World := w.modify sid (preceded before)

def System.prepend (s : System) (sid : SessionId) (before : List ServerLine) : System :=
  ⟨Concurrent.prepend s.world sid before, s.threads⟩

theorem connections_prepend (w : World) (sid task : SessionId) (before : List ServerLine) :
    (prepend w sid before).connections task = if task = sid then preceded before (w.connections sid) else w.connections task := by
  rw [prepend, connections_modify]

/-- A change of a connection that does not look at its lines. -/
theorem modify_prepend {change : Connection → Connection}
    (blind : ∀ connection, change (preceded before connection) = preceded before (change connection)) :
    (prepend w sid before).modify task change = prepend (w.modify task change) sid before := by
  have connections : ((prepend w sid before).modify task change).connections = (prepend (w.modify task change) sid before).connections := by
    funext other
    rw [connections_modify, connections_prepend, connections_prepend, connections_prepend, connections_modify, connections_modify]
    by_cases here : other = task
    · subst here
      by_cases mine : other = sid
      · subst mine
        simp [blind]
      · simp [mine]
    · by_cases mine : other = sid
      · subst mine
        simp [here]
      · simp [here, mine]
  unfold prepend at *
  rw [World.modify, World.modify] at *
  exact congrArg (fun connections => { w with connections := connections }) connections

theorem session_prepend : ((prepend w sid before).connections task).session = (w.connections task).session := by
  rw [connections_prepend]
  split
  · next here => rw [here]; rfl
  · rfl

theorem writer_prepend : ((prepend w sid before).connections task).writer = (w.connections task).writer := by
  rw [connections_prepend]
  split
  · next here => rw [here]; rfl
  · rfl

theorem phase_prepend : ((prepend w sid before).connections task).phase = (w.connections task).phase := by
  rw [connections_prepend]
  split
  · next here => rw [here]; rfl
  · rfl

theorem shutdown_prepend : ((prepend w sid before).connections task).shutdown = (w.connections task).shutdown := by
  rw [connections_prepend]
  split
  · next here => rw [here]; rfl
  · rfl

theorem send_prepend (line : ServerLine) : (prepend w sid before).send task line = prepend (w.send task line) sid before := by
  simp only [World.send, World.tx_send, writer_prepend]
  split
  · refine @modify_prepend w sid task before (fun connection => { connection with lines := connection.lines ++ [line] }) ?_
    intro connection
    simp [preceded]
  · rfl

theorem insert_client_prepend (p : Text) (channels : List Text) :
    Server.insert_client (prepend w sid before) task p channels = prepend (Server.insert_client w task p channels) sid before := by
  unfold Server.insert_client
  have clients : (prepend w sid before).inner.clients p = w.inner.clients p := rfl
  rw [clients]
  cases w.inner.clients p with
  | none => rfl
  | some old =>
    exact @modify_prepend { w with inner := _ } sid old.session_id before
      (fun connection => { connection with shutdown := connection.shutdown ++ ["Replaced by a newer session for ".toList ++ p] })
      (fun _ => rfl)

theorem task_result_prepend (principal : Principal) (result : TaskTable × Except Text Task) (task_id command action what : Text) :
    task_result (prepend w sid before) principal result task_id command action what =
      (prepend (task_result w principal result task_id command action what).1 sid before,
        (task_result w principal result task_id command action what).2) := by
  unfold task_result
  cases result.2 with
  | error error => rfl
  | ok task => rfl

/-- A section goes the same way. -/
theorem perform_prepend (cfg : Config) (w : World) (env : Env) (sid task : SessionId) (before : List ServerLine) (x : Section) :
    perform cfg (prepend w sid before) env task x = (prepend (perform cfg w env task x).1 sid before, (perform cfg w env task x).2) := by
  have tried : (prepend w sid before).db = w.db := rfl
  have clients : (prepend w sid before).inner = w.inner := rfl
  cases x with
  | send line => exact congrArg (·, []) (send_prepend line)
  | forward client line => exact congrArg (·, []) (send_prepend line)
  | deliver channel message notice recipient =>
    rw [perform_deliver, perform_deliver, send_prepend]
    by_cases alive : w.open recipient.2.session_id
    · have alive' : (prepend w sid before).open recipient.2.session_id := writer_prepend.trans alive
      rw [if_pos alive, if_pos alive']
    · have shut : ¬ (prepend w sid before).open recipient.2.session_id := fun alive' => alive (writer_prepend.symm.trans alive')
      rw [if_neg alive, if_neg shut]
  | try_register =>
    simp only [perform, session_prepend, tried]
    cases authenticating cfg w.db (w.connections task).session with
    | none => rfl
    | some outcome =>
      cases outcome with
      | error error => rfl
      | ok principal => exact congrArg (·, [Section.mark_connected principal]) (@modify_prepend w sid task before
          (fun connection => { connection with session := _ }) (fun _ => rfl))
  | insert_client principal memberships => exact congrArg (·, welcome principal memberships) (insert_client_prepend _ _)
  | ensure_registered command =>
    simp only [perform, session_prepend, World.principal, clients]
    split
    · cases (w.connections task).session.principal with
      | none => rfl
      | some principal =>
        dsimp only
        split
        · rfl
        · rfl
    · rfl
  | is_member principal channel body =>
    simp only [perform, tried]
    split
    · rfl
    · rfl
  | task_create principal channel title =>
    simp only [perform, tried]
    cases create w.db.tasks ("task_".toList ++ env.task_uuid) channel title env.now with
    | mk tasks result =>
      cases result with
      | error error => rfl
      | ok task => rfl
  | task_claim principal task_id => exact task_result_prepend _ _ _ _ _ _
  | task_done principal task_id => exact task_result_prepend _ _ _ _ _ _
  | task_release principal task_id => exact task_result_prepend _ _ _ _ _ _
  | remove_client principal =>
    simp only [perform, Server.remove_client, clients]
    by_cases mine : (w.inner.clients principal.id).any (fun client => decide (client.session_id = task)) = true
    · rw [if_pos mine, if_pos mine]
      rfl
    · rw [if_neg mine, if_neg mine]
  | finish => exact congrArg (·, []) (@modify_prepend w sid task before
      (fun connection => { connection with phase := .Ended, writer := false }) (fun _ => rfl))
  | leave => exact congrArg (·, []) (@modify_prepend w sid task before
      (fun connection => { connection with phase := .Ended }) (fun _ => rfl))
  | _ => rfl

theorem handle_command_prepend (command : Command) : handle_command (prepend w sid before) task command =
    (prepend (handle_command w task command).1 sid before, (handle_command w task command).2) := by
  have disconnects : disconnect (prepend w sid before) task = disconnect w task := by
    rw [disconnect, disconnect, World.principal, session_prepend, World.principal]
  cases command with
  | Pass token =>
    simp only [handle_command, session_prepend]
    exact congrArg (·, [Section.try_register]) (@modify_prepend w sid task before
      (fun connection => { connection with session := _ }) (fun _ => rfl))
  | Nick nick =>
    simp only [handle_command, session_prepend]
    exact congrArg (·, [Section.try_register]) (@modify_prepend w sid task before
      (fun connection => { connection with session := _ }) (fun _ => rfl))
  | Cap subcommand capabilities => simp only [handle_command, session_prepend]
  | Quit => simp only [handle_command, disconnects]
  | _ => rfl

/-- An event goes the same way. -/
theorem step_prepend (cfg : Config) (s : System) (sid : SessionId) (before : List ServerLine) (e : Event) :
    step cfg (s.prepend sid before) e = (step cfg s e).prepend sid before := by
  have disconnects (task : SessionId) : disconnect (prepend s.world sid before) task = disconnect s.world task := by
    rw [disconnect, disconnect, World.principal, session_prepend, World.principal]
  have idle (task : SessionId) : (s.prepend sid before).idle task = s.idle task := by
    have same : running (prepend s.world sid before) task ↔ running s.world task := by rw [running, phase_prepend, running]
    exact congrArg (· && (s.threads task).isEmpty) (decide_eq_decide.mpr same)
  cases e with
  | connect task =>
    simp only [step]
    show (if ((prepend s.world sid before).connections task).phase = .Unused then _ else _) = _
    rw [phase_prepend]
    split
    · have accepted : accept (prepend s.world sid before) task = prepend (accept s.world task) sid before := by
        rw [accept, accept, @modify_prepend s.world sid task before
          (fun connection => { connection with phase := .Running, writer := true }) (fun _ => rfl), send_prepend]
      exact congrArg (System.mk · s.threads) accepted
    · rfl
  | receive task command =>
    simp only [step, idle]
    split
    · exact congrArg (s.resume task) (handle_command_prepend command)
    · rfl
  | run task env =>
    cases head : s.threads task with
    | nil =>
      have empty : (s.prepend sid before).threads task = [] := head
      rw [step_run_idle head, step_run_idle empty]
    | cons x rest =>
      have head' : (s.prepend sid before).threads task = x :: rest := head
      rw [step_run head, step_run head']
      have same := perform_prepend cfg s.world env sid task before x
      rw [show (s.prepend sid before).world = prepend s.world sid before from rfl, same]
      rfl
  | eof task =>
    simp only [step, idle]
    split
    · exact congrArg (fun sections => s.resume task (prepend s.world sid before, sections)) (disconnects task)
    · rfl
  | shutdown task =>
    have told : ((s.prepend sid before).world.connections task).shutdown = (s.world.connections task).shutdown := shutdown_prepend
    cases reasons : (s.world.connections task).shutdown with
    | nil => simp only [step, told, reasons]
    | cons reason more =>
      simp only [step, told, reasons, idle]
      split
      · exact congrArg (fun sections => s.resume task (prepend s.world sid before, .send (.Error reason) :: sections)) (disconnects task)
      · rfl
  | read_error task =>
    simp only [step, idle]
    split
    · exact congrArg (System.mk · s.threads) (@modify_prepend s.world sid task before
        (fun connection => { connection with phase := .Ended }) (fun _ => rfl))
    · rfl
  | writer_end task =>
    exact congrArg (System.mk · s.threads) (@modify_prepend s.world sid task before
      (fun connection => { connection with writer := false }) (fun _ => rfl))
  | restart =>
    have connections : (step cfg (s.prepend sid before) .restart).world.connections =
        ((step cfg s .restart).prepend sid before).world.connections := by
      funext task
      have ended : ((step cfg (s.prepend sid before) .restart).world.connections task) =
          if (s.world.connections task).phase = .Unused then (prepend s.world sid before).connections task
          else { (prepend s.world sid before).connections task with phase := .Ended, writer := false } := by
        rw [← @phase_prepend s.world sid task before]
        rfl
      rw [ended]
      show _ = (prepend (step cfg s .restart).world sid before).connections task
      rw [connections_prepend, connections_prepend]
      by_cases mine : task = sid
      · subst mine
        simp only [step, Server.step, if_true]
        split
        · rfl
        · rfl
      · simp only [step, Server.step, if_neg mine]
    exact congrArg (fun connections => System.mk { s.world with inner := .default, connections := connections } (fun _ => [])) connections

/-! ## From the cursor to the 001 line -/

/-- The 001 line is yet to be sent, and the replay of the channel comes after it. -/
inductive Unwelcomed (t : Takeover) (principal : Principal) (s : System) : Prop where
  | waiting {rows : List Membership} (left : s.threads t.sid = [.insert_client principal rows])
      (listed : ⟨t.channel, t.after_seq⟩ ∈ rows)
  | replaying {rest : List Section} (left : s.threads t.sid = .send (.Registered principal.nick principal.team) :: rest)
      (listed : .history principal t.channel t.after_seq 200 ∈ rest) (routes : t.Routes s.world)

structure Registering (t : Takeover) (principal : Principal) (before : List ServerLine) (s : System) : Prop where
  aloud : Aloud s
  used : (s.world.connections t.sid).phase ≠ .Unused
  alive : s.world.open t.sid
  queued : ∃ front, (s.world.connections t.sid).lines = before ++ front ∧ ∀ line ∈ front, on_channel line = true
  unwelcomed : Unwelcomed t principal s

/-- The 001 line is sent. Behind it the takeover goes on as if nothing had been queued before. -/
def Welcomed (t : Takeover) (principal : Principal) (before : List ServerLine) (s : System) : Prop :=
  ∃ front s', s = s'.prepend t.sid (before ++ front ++ [.Registered principal.nick principal.team]) ∧
    (∀ line ∈ front, on_channel line = true) ∧ t.TakingOver s'

theorem Unwelcomed.busy {principal : Principal} (unwelcomed : Unwelcomed t principal s) : s.idle t.sid = false := by
  cases unwelcomed with
  | waiting left => simp [System.idle, left]
  | replaying left => simp [System.idle, left]

/-- The session is sent its 001 line. -/
theorem Welcomed.of_send {principal : Principal} {rest : List Section} (inv : Registering t principal before s)
    (left : s.threads t.sid = .send (.Registered principal.nick principal.team) :: rest)
    (listed : .history principal t.channel t.after_seq 200 ∈ rest) (routes : t.Routes s.world) (env : Env) :
    Welcomed t principal before (step cfg s (.run t.sid env)) := by
  have alive := inv.alive
  obtain ⟨front, lines, loud⟩ := inv.queued
  refine ⟨front, ⟨s.world.modify t.sid (fun connection => { connection with lines := [] }), Function.update s.threads t.sid rest⟩, ?_, loud, ?_⟩
  · rw [step_run left]
    have world : (perform cfg s.world env t.sid (.send (.Registered principal.nick principal.team))).1 =
        prepend (s.world.modify t.sid (fun connection => { connection with lines := [] })) t.sid
          (before ++ front ++ [.Registered principal.nick principal.team]) := by
      have queued : s.world.send t.sid (.Registered principal.nick principal.team) = s.world.modify t.sid
          (fun connection => { connection with lines := connection.lines ++ [.Registered principal.nick principal.team] }) := by
        rw [World.open] at alive
        rw [World.send, World.tx_send, if_pos alive]
      rw [perform, queued, ← lines, prepend]
      simp [World.modify, preceded]
    rw [world]
    rfl
  · refine ⟨?_, .inr routes, ?_⟩
    · simpa [World.open, connections_modify] using alive
    · intro m _ _ _
      exact .inr ⟨.history principal t.channel t.after_seq 200, by simpa using listed, rfl, rfl, rfl⟩

/-- The handle of the session is inserted. -/
theorem Registering.insert {principal : Principal} {rows : List Membership} (inv : Registering t principal before s)
    (self : principal.id = t.principal_id) (left : s.threads t.sid = [.insert_client principal rows])
    (listed : ⟨t.channel, t.after_seq⟩ ∈ rows) (env : Env) : Registering t principal before (step cfg s (.run t.sid env)) := by
  have world : (Concurrent.step cfg s (.run t.sid env)).world =
      Server.insert_client s.world t.sid principal.id (rows.map (·.channel)) := by
    rw [step_run left]; rfl
  have threads : (Concurrent.step cfg s (.run t.sid env)).threads t.sid = welcome principal rows := by
    rw [step_run left, threads_resume, if_pos rfl]
    exact List.append_nil _
  have some : rows.isEmpty = false := by
    cases rows with
    | nil => cases listed
    | cons _ _ => rfl
  have replays : Section.history principal t.channel t.after_seq 200 ∈ (welcome principal rows).tail := by
    simp only [welcome, some, Bool.false_eq_true, if_false, List.cons_append, List.nil_append, List.tail_cons, List.mem_append,
      List.mem_cons, List.mem_map]
    exact .inr (.inr ⟨_, listed, rfl⟩)
  have client : (Concurrent.step cfg s (.run t.sid env)).world.inner.clients t.principal_id = .some ⟨t.sid⟩ := by
    rw [world, clients_insert_client, if_pos self.symm]
  have member : t.principal_id ∈ members (Concurrent.step cfg s (.run t.sid env)).world.inner t.channel := by
    rw [world]
    exact (mem_members_insert_client t.sid _).mpr (.inr ⟨self.symm, List.mem_map.mpr ⟨_, listed, rfl⟩⟩)
  refine ⟨inv.aloud.step, (onward_step cfg s _ t.sid).used inv.used, ?_, ?_, .replaying threads replays ⟨client, member⟩⟩
  · rw [world]
    exact ((insert_client_frame _).2 t.sid).mpr inv.alive
  · rw [world, (connection_insert_client s.world _).2.1]
    exact inv.queued

/-- The events of other sessions. -/
theorem Registering.others {principal : Principal} (inv : Registering t principal before s) (handoff : Handoff t s e)
    (other : e.session ≠ some t.sid) : Registering t principal before (step cfg s e) := by
  obtain ⟨lasting, _, _⟩ := Takeover.undisturbed_other handoff.1
  have threads := threads_other cfg s other lasting
  obtain ⟨⟨more, queued, loud⟩, stays⟩ := @heard_from_others cfg s t.sid e inv.aloud inv.used other lasting
  obtain ⟨front, lines, loud'⟩ := inv.queued
  refine ⟨inv.aloud.step, (onward_step cfg s e t.sid).used inv.used, stays.mpr inv.alive, ⟨front ++ more, ?_, ?_⟩, ?_⟩
  · rw [queued, lines, List.append_assoc]
  · intro line inside
    rcases List.mem_append.mp inside with old | new
    · exact loud' line old
    · exact loud line new
  · cases inv.unwelcomed with
    | waiting left listed => exact .waiting (threads.trans left) listed
    | replaying left listed routes =>
      refine .replaying (threads.trans left) listed ?_
      rcases stepped cfg s e with ⟨task, env, here, rest, rfl, head⟩ | idle | notRun
      · rw [step_run head]
        exact routes.run (Takeover.undisturbed_run head handoff.1)
      · rw [idle]; exact routes
      · rw [Takeover.Routes, (step_other cfg s notRun lasting).1.inner]; exact routes

theorem Registering.step {principal : Principal} (inv : Registering t principal before s) (self : principal.id = t.principal_id)
    (handoff : Handoff t s e) : Registering t principal before (step cfg s e) ∨ Welcomed t principal before (step cfg s e) := by
  by_cases own : e.session = some t.sid
  · rcases stepped cfg s e with ⟨task, env, here, rest, rfl, head⟩ | idle | notRun
    · cases own
      cases inv.unwelcomed with
      | waiting left listed => exact .inl (inv.insert self left listed env)
      | replaying left listed routes => exact .inr (.of_send inv left listed routes env)
    · rw [idle]; exact .inl inv
    · rw [step_busy inv.unwelcomed.busy inv.used own notRun (Takeover.undisturbed_other handoff.1).2.1]
      exact .inl inv
  · exact .inl (inv.others handoff own)

theorem Welcomed.step {principal : Principal} (welcomed : Welcomed t principal before s) (handoff : Handoff t s e) :
    Welcomed t principal before (step cfg s e) := by
  obtain ⟨front, s', rfl, loud, taking⟩ := welcomed
  exact ⟨front, Concurrent.step cfg s' e, step_prepend cfg s' t.sid _ e, loud, taking.step handoff.1 handoff.2⟩

/-- The registration before its 001 line, and behind it. -/
def Resuming (t : Takeover) (principal : Principal) (before : List ServerLine) (s : System) : Prop :=
  Registering t principal before s ∨ Welcomed t principal before s

theorem Resuming.step {principal : Principal} (self : principal.id = t.principal_id) (inv : Resuming t principal before s)
    (handoff : Handoff t s e) : Resuming t principal before (step cfg s e) := by
  rcases inv with registering | welcomed
  · exact registering.step self handoff
  · exact .inr (welcomed.step handoff)

/-- The registration has finished. -/
def Resumed (t : Takeover) (before : List ServerLine) (s : System) : Prop :=
  ∃ s', s = s'.prepend t.sid before ∧ t.TakenOver s'

theorem Resumed.step (inv : Resumed t before s) (handoff : Handoff t s e) : Resumed t before (step cfg s e) := by
  obtain ⟨s', rfl, taken⟩ := inv
  exact ⟨Concurrent.step cfg s' e, step_prepend cfg s' t.sid before e, taken.step handoff.1⟩

/-- What a session that is about to read its memberships is sent once its registration has finished: behind its 001
    line comes every message after the cursor that it reads. -/
theorem resumed {principal : Principal} {channel : Text} {after_seq : Int} {first later : List Event} (reached : Reached s)
    (aloud : Aloud s) (registering : s.threads sid = [.mark_connected principal]) (alive : s.world.open sid)
    (read : cursor s.world.db principal.id channel = some after_seq)
    (steps : AllSteps (step cfg) (Handoff ⟨sid, principal.id, channel, after_seq⟩) (step cfg s (.run sid env)) (first ++ later))
    (registered : (run (step cfg) (step cfg s (.run sid env)) first).threads sid = []) :
    ∃ front behind, ((run (step cfg) (step cfg s (.run sid env)) (first ++ later)).world.connections sid).lines =
        (s.world.connections sid).lines ++ front ++ .Registered principal.nick principal.team :: behind ∧
      (∀ line ∈ front, on_channel line = true) ∧
      ∀ m ∈ (run (step cfg) (step cfg s (.run sid env)) (first ++ later)).world.db.messages.rows, m.channel = channel →
        after_seq < m.seq → Finished (run (step cfg) (step cfg s (.run sid env)) (first ++ later)) m →
          m ∈ behind.filterMap (·.stored) := by
  obtain ⟨firstSteps, laterSteps⟩ := allSteps_append.mp steps
  have listed : ⟨channel, after_seq⟩ ∈ memberships s.world.db principal.id := mem_memberships.mpr read
  have threads : (step cfg s (.run sid env)).threads sid = [.insert_client principal (memberships s.world.db principal.id)] := by
    rw [step_run registering, threads_resume, if_pos rfl]
    rfl
  have connections : (step cfg s (.run sid env)).world.connections = s.world.connections := by rw [step_run registering]; rfl
  have began : Registering ⟨sid, principal.id, channel, after_seq⟩ principal (s.world.connections sid).lines
      (step cfg s (.run sid env)) := by
    refine ⟨aloud.step, ?_, ?_, ⟨[], ?_, fun _ inside => by cases inside⟩, .waiting threads listed⟩
    · rw [connections]
      exact reached.used sid (by rw [registering]; simp)
    · rw [World.open, connections]; exact alive
    · rw [connections, List.append_nil]
  have middle : Resuming ⟨sid, principal.id, channel, after_seq⟩ principal (s.world.connections sid).lines
      (run (step cfg) (step cfg s (.run sid env)) first) :=
    run_invariant_of (fun _ _ inv handoff => Resuming.step rfl inv handoff) first (.inl began) firstSteps
  rcases middle with busy | ⟨front, s', same, loud, taking⟩
  · cases busy.unwelcomed with
    | waiting left => rw [registered] at left; cases left
    | replaying left => rw [registered] at left; cases left
  · have idle : s'.threads sid = [] := by
      rw [same] at registered
      exact registered
    have began : Resumed ⟨sid, principal.id, channel, after_seq⟩
        ((s.world.connections sid).lines ++ front ++ [.Registered principal.nick principal.team])
        (run (step cfg) (step cfg s (.run sid env)) first) := ⟨s', same, taking.finished idle⟩
    obtain ⟨s'', whole, taken⟩ := run_invariant_of (fun _ _ inv handoff => Resumed.step inv handoff) later began laterSteps
    rw [run_append, whole]
    refine ⟨front, (s''.world.connections sid).lines, ?_, loud, ?_⟩
    · show ((prepend s''.world sid _).connections sid).lines = _
      rw [connections_prepend, if_pos rfl, preceded, List.append_assoc, List.singleton_append]
    · intro m inside here late finished
      exact (taken.live m inside here late).finished finished

end Aircd.Concurrent

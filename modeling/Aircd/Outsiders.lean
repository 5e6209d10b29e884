import Aircd.Authority

/-!
# Who can write to a channel

A command of a principal that is no member of a channel, and what it leaves
there: the stored messages, the tasks, and the queues of the members. `PRIVMSG`
asks for a membership; `PART` and the task verbs do not.
-/
namespace Aircd.Server
open Aircd.Runs Aircd.Text Aircd.Protocol Aircd.Auth Aircd.History Aircd.Tasks Aircd.Store

/-- The channel that a line is about. -/
def ServerLine.channel : ServerLine → Option Text
  | .Join _ channel => some channel
  | .Part _ channel => some channel
  | .NotOnChannel _ channel => some channel
  | .Message message _ _ => some message.channel
  | .TaskEvent message _ _ _ _ => some message.channel
  | .TaskRow _ task => some task.channel
  | .NoTasks _ channel => some channel
  | _ => none

def tasks_of (tasks : TaskTable) (c : Text) : List TaskRow := tasks.rows.filter (fun row => decide (row.channel = c))
def messages_of (messages : Messages) (c : Text) : List StoredMessage :=
  messages.rows.filter (fun m => decide (m.channel = c))

/-- The stored messages and the tasks of the channel stay as they are, and no line that counts is queued to
    the sessions of its members. -/
structure Unwritten (counts : ServerLine → Bool) (w w' : World) (c : Text) : Prop where
  messages : messages_of w'.db.messages c = messages_of w.db.messages c
  tasks : tasks_of w'.db.tasks c = tasks_of w.db.tasks c
  lines : ∀ q h, (cursor w.db q c).isSome → w.inner.clients q = some h →
    (w'.connections h.session_id).lines.filter counts = (w.connections h.session_id).lines.filter counts

/-- The channel to which the handler of a command sends a line. -/
def reaches (cfg : Config) (db : Db) (env : Env) (principal : Principal) : Command → Option Text
  | .Join channel => some (normalize_channel channel)
  | .Part channel => some (normalize_channel channel)
  | command => stores cfg db env principal command

/-- A member of both channels is connected, and its queue is received. -/
def Heard (w : World) (d c : Text) : Prop :=
  ∃ q h, w.inner.clients q = some h ∧ w.open h.session_id ∧ (cursor w.db q d).isSome ∧ (cursor w.db q c).isSome

/-- The command does not reach the channel, or it is a `PART` that no member hears. -/
def Spares (cfg : Config) (w : World) (env : Env) (principal : Principal) (command : Command) (c : Text) : Prop :=
  reaches cfg w.db env principal command = some c → (∃ channel, command = .Part channel) ∧ ¬ Heard w c c

/-- No member of the channel hears anything, and the command does not reach it, or is a `PART`. -/
def SparesAll (cfg : Config) (w : World) (env : Env) (principal : Principal) (command : Command) (c : Text) : Prop :=
  ∀ d, reaches cfg w.db env principal command = some d → (d = c → ∃ channel, command = .Part channel) ∧ ¬ Heard w d c

variable {cfg : Config} {w w' : World} {env : Env} {sid : SessionId} {p : Principal} {c d : Text} {line : ServerLine}

/-! ## The tasks of a channel -/

theorem tasks_of_transition {tasks : TaskTable} {task_id : Text} {cond : TaskRow → Bool} {set : TaskRow → TaskRow}
    {keeps : ∀ row, (set row).id = row.id} {refusal : Text} (stays : ∀ row, (set row).channel = row.channel)
    (elsewhere : ∀ row ∈ tasks.rows, cond row = true → row.channel ≠ c) :
    tasks_of (transition tasks task_id cond set keeps refusal).1 c = tasks_of tasks c := by
  have same : (transition tasks task_id cond set keeps refusal).1 = tasks.update cond set keeps := by
    unfold transition
    dsimp only
    split <;> rfl
  rw [same, tasks_of, tasks_of, Table.update]
  dsimp only
  generalize tasks.rows = rows at elsewhere
  induction rows with
  | nil => rfl
  | cons row rest ih =>
    have later := ih (fun other inside => elsewhere other (by simp [inside]))
    by_cases selected : cond row = true
    · have apart := elsewhere row (by simp) selected
      simp [selected, stays, apart, later]
    · simp [selected, List.filter_cons, later]

/-- The task that an operation returns is the one that its condition selected. -/
theorem tasks_of_returned {tasks : TaskTable} {task_id : Text} {cond : TaskRow → Bool} {set : TaskRow → TaskRow}
    {keeps : ∀ row, (set row).id = row.id} {refusal : Text} (stays : ∀ row, (set row).channel = row.channel)
    (byId : ∀ row, cond row = true → row.id = task_id) {task : Task}
    (returned : (transition tasks task_id cond set keeps refusal).2 = .ok task) (elsewhere : task.channel ≠ c) :
    tasks_of (transition tasks task_id cond set keeps refusal).1 c = tasks_of tasks c := by
  apply tasks_of_transition stays
  intro row inside selected
  have found : tasks.find task_id = some row := Table.find_iff.mpr ⟨inside, byId row selected⟩
  have ok := (transition_selected set keeps refusal byId found selected).1
  rw [returned] at ok
  obtain rfl := Except.ok.inj ok
  rw [← stays row]
  exact elsewhere

theorem tasks_of_create {tasks : TaskTable} {id channel title : Text} {now : Int} (elsewhere : channel ≠ c) :
    tasks_of (create tasks id channel title now).1 c = tasks_of tasks c := by
  unfold create
  dsimp only
  split
  · rfl
  · rw [tasks_of, tasks_of, Table.insert]
    split
    · simp [elsewhere]
    · rfl

/-! ## Who a session speaks for -/

/-- A handle belongs to a registered session of its principal. -/
def Held (w : World) : Prop :=
  ∀ q h, w.inner.clients q = some h → ∃ principal, identity w h.session_id = (true, some principal) ∧ principal.id = q

/-- One event makes a handle only for the session that it registers. -/
theorem clients_effect {e : Event} (effect : Effect cfg w e w') {q : Text} {h : ClientHandle}
    (found : w'.inner.clients q = some h) : w.inner.clients q = some h ∨
      ∃ principal, identity w' h.session_id = (true, some principal) ∧ principal.id = q := by
  cases effect with
  | calm _ _ same => exact .inl (same.inner ▸ found)
  | @registered who principal env session _ _ _ _ _ =>
    have spec := register_spec (w.setSession who session) env who principal
    rw [spec.clients] at found
    by_cases self : q = principal.id
    · rw [if_pos self] at found
      obtain rfl := Option.some.inj found
      exact .inr ⟨principal, Prod.ext ((spec.registered who).trans (if_pos rfl)) ((spec.principal who).trans (if_pos rfl)),
        self.symm⟩
    · rw [if_neg self] at found
      exact .inl found
  | @joined principal env channel =>
    have told : Calm _ (join w env principal channel) := Calm.broadcast_raw rfl
    rw [told.inner] at found
    exact .inl found
  | @parted principal channel =>
    have told : Calm _ (part w principal channel) := Calm.broadcast_raw rfl
    rw [told.inner, clients_remove_member] at found
    exact .inl found
  | posted line _ _ _ =>
    left
    unfold posted at found
    dsimp only at found
    rw [(SameRouting.broadcast_message _ _).inner] at found
    exact found
  | replayed => exact .inl ((SameRouting.replay_history _ _ _ _ _).inner ▸ found)
  | @left _ who principal before _ _ same after =>
    left
    rw [after.inner] at found
    unfold remove_client at found
    split at found
    · by_cases self : q = principal.id
      · simp [self] at found
      · rw [← same.inner]
        simpa [self] using found
    · exact same.inner ▸ found
  | restarted => simp [step, ServerInner.default] at found

theorem Held.step {e : Event} (held : Held w) : Held (step cfg w e) := by
  intro q h found
  rcases clients_effect (step_effect cfg w e) found with old | new
  · obtain ⟨principal, registered, same⟩ := held q h old
    exact ⟨principal, registered_step registered e, same⟩
  · exact new

/-- Two principals have no session in common. -/
theorem Held.unique (held : Held w) {q q' : Text} {h h' : ClientHandle} (found : w.inner.clients q = some h)
    (found' : w.inner.clients q' = some h') (same : h.session_id = h'.session_id) : q = q' := by
  obtain ⟨principal, registered, rfl⟩ := held q h found
  obtain ⟨principal', registered', rfl⟩ := held q' h' found'
  rw [same, registered'] at registered
  cases registered
  rfl

/-! ## What the members hear -/

/-- The line is queued to everyone else who is a member of the channel and whose queue is received. -/
def Told (w w' : World) (id d : Text) (line : ServerLine) : Prop :=
  ∀ q h, q ≠ id → w.inner.clients q = some h → ∃ n,
    (w'.connections h.session_id).lines = (w.connections h.session_id).lines ++ List.replicate n line ∧
      (0 < n ↔ w.open h.session_id ∧ (cursor w.db q d).isSome)

theorem lines_send (w : World) (sid who : SessionId) (line : ServerLine) :
    ((w.send who line).connections sid).lines = (w.connections sid).lines ++ if sid = who ∧ w.open sid then [line] else [] := by
  rw [connections_send]
  by_cases here : sid = who ∧ w.open who
  · obtain ⟨rfl, alive⟩ := here
    simp [alive]
  · have elsewhere : ¬ (sid = who ∧ w.open sid) := by
      rintro ⟨rfl, alive⟩
      exact here ⟨rfl, alive⟩
    simp [here, elsewhere]

theorem lines_deliver (w : World) (sid : SessionId) (c : Text) (line : ServerLine) (seq : Int) (r : Text × ClientHandle) :
    ((deliver w c line seq r).connections sid).lines =
      (w.connections sid).lines ++ if sid = r.2.session_id ∧ w.open sid then [line] else [] := by
  rw [← lines_send]
  by_cases alive : w.open r.2.session_id
  · rw [deliver_open line seq r alive]
  · rw [deliver_closed line seq r alive, connections_send, if_neg (fun both => alive both.2)]

/-- A loop that queues one line to each recipient whose queue is received. -/
structure Tells (line : ServerLine) (tell : World → Text × ClientHandle → World) : Prop where
  lines : ∀ w r sid, ((tell w r).connections sid).lines =
    (w.connections sid).lines ++ if sid = r.2.session_id ∧ w.open sid then [line] else []
  opens : ∀ w r sid, (tell w r).open sid ↔ w.open sid

theorem Tells.lines_foldl {tell : World → Text × ClientHandle → World} (tells : Tells line tell)
    (recipients : List (Text × ClientHandle)) (w : World) (sid : SessionId) :
    ((recipients.foldl tell w).connections sid).lines = (w.connections sid).lines ++ List.replicate
      (if w.open sid then recipients.countP (fun r => decide (r.2.session_id = sid)) else 0) line := by
  induction recipients generalizing w with
  | nil => simp
  | cons r rest ih =>
    rw [List.foldl_cons, ih, tells.lines]
    simp only [tells.opens]
    by_cases alive : w.open sid
    · by_cases here : sid = r.2.session_id
      · subst here
        simp [alive, List.replicate_succ]
      · have elsewhere : r.2.session_id ≠ sid := Ne.symm here
        simp [here, elsewhere]
    · simp [alive]

/-- A broadcast reaches the connected members of its channel, whoever else it reaches. -/
theorem told_of_broadcast {tell : World → Text × ClientHandle → World} (tells : Tells line tell) (routed : Routed w)
    (held : Held w) {before : World} {id : Text} (lines : before.connections = w.connections)
    (clients : before.inner.clients = w.inner.clients)
    (members : ∀ q, q ≠ id → (q ∈ members before.inner d ↔ q ∈ members w.inner d)) :
    Told w ((recipients_with_ids before.inner d).foldl tell before) id d line := by
  intro q h other found
  have opens : before.open h.session_id ↔ w.open h.session_id := by rw [World.open, World.open, lines]
  refine ⟨_, (tells.lines_foldl _ before h.session_id).trans (by rw [lines]), ?_⟩
  have counted : 0 < (recipients_with_ids before.inner d).countP (fun r => decide (r.2.session_id = h.session_id)) ↔
      (cursor w.db q d).isSome := by
    rw [List.countP_pos_iff]
    constructor
    · rintro ⟨⟨q', h'⟩, listed, same⟩
      obtain ⟨inside, found'⟩ := mem_recipients.mp listed
      rw [clients] at found'
      obtain rfl : q' = q := held.unique found' found (of_decide_eq_true same)
      exact routed.backed q' d ((members q' other).mp inside)
    · intro member
      have inside := routed.listed q d member (by rw [found]; rfl)
      exact ⟨(q, h), mem_recipients.mpr ⟨(members q other).mpr inside, clients ▸ found⟩, decide_eq_true rfl⟩
  by_cases alive : w.open h.session_id
  · rw [if_pos (opens.mpr alive), counted]
    exact ⟨fun member => ⟨alive, member⟩, And.right⟩
  · rw [if_neg (alive ∘ opens.mp)]
    exact ⟨fun none => absurd none (lt_irrefl 0), fun both => absurd both.1 alive⟩

theorem tells_send (line : ServerLine) : Tells line (fun w r => w.send r.2.session_id line) :=
  ⟨fun w r sid => lines_send w sid r.2.session_id line, fun w r sid => open_send w r.2.session_id sid line⟩

theorem tells_deliver (c : Text) (line : ServerLine) (seq : Int) : Tells line (fun w r => deliver w c line seq r) :=
  ⟨fun w r sid => lines_deliver w sid c line seq r, fun _ r _ => open_deliver line seq r⟩

/-! ## What a command does -/

/-- What the handler of a command does, by the channel that it reaches: nothing outside its session, a line
    to the channel, or a message stored in the channel and queued to it. -/
inductive Handled (w w' : World) (sid : SessionId) (id : Text) (command : Command) : Option Text → Prop where
  | quiet (messages : w'.db.messages = w.db.messages) (tasks : w'.db.tasks = w.db.tasks)
      (others : ∀ other, other ≠ sid → w'.connections other = w.connections other) : Handled w w' sid id command none
  | announced {d : Text} {line : ServerLine} (verb : ∃ channel, command = .Join channel ∨ command = .Part channel)
      (messages : w'.db.messages = w.db.messages) (tasks : w'.db.tasks = w.db.tasks) (about : line.channel = some d)
      (told : Told w w' id d line) : Handled w w' sid id command (some d)
  | posted {d : Text} {line : ServerLine} {m : StoredMessage} (verb : ∀ channel, command ≠ .Part channel)
      (messages : w'.db.messages.rows = w.db.messages.rows ++ [m]) (of : m.channel = d)
      (tasks : ∀ c, d ≠ c → tasks_of w'.db.tasks c = tasks_of w.db.tasks c) (about : line.channel = some d)
      (told : Told w w' id d line) : Handled w w' sid id command (some d)

theorem Handled.of_untouched {command : Command} {id : Text} (untouched : Untouched w sid w') :
    Handled w w' sid id command none :=
  .quiet (by rw [untouched.db]) (by rw [untouched.db]) untouched.others

theorem with_registered_current (acts : current w sid = some p) (handler : World → Principal → World × Except Text Bool) :
    with_registered w sid handler = handler w p := by
  rcases @with_registered_cases w sid handler with ⟨other, acts', handled⟩ | ⟨nobody, _⟩
  · obtain rfl := Option.some.inj (acts.symm.trans acts')
    exact handled
  · rw [acts] at nobody
    cases nobody

theorem db_broadcast_message (w : World) (c : Text) (line : ServerLine) (seq : Int) :
    (broadcast_message w c line seq).db.messages = w.db.messages ∧ (broadcast_message w c line seq).db.tasks = w.db.tasks := by
  have each (w : World) (r : Text × ClientHandle) : (deliver w c line seq r).db.tasks = w.db.tasks := by
    by_cases alive : w.open r.2.session_id
    · rw [deliver_open line seq r alive]
      rfl
    · rw [deliver_closed line seq r alive]
  unfold broadcast_message
  induction recipients_with_ids w.inner c generalizing w with
  | nil => exact ⟨rfl, rfl⟩
  | cons r rest ih =>
    obtain ⟨messages, tasks⟩ := ih (deliver w c line seq r)
    exact ⟨messages.trans (messages_deliver line seq r), tasks.trans (each w r)⟩

/-- A message that is stored is told to its channel. -/
theorem handled_post {tasks : TaskTable} {sender_id body : Text} (names : StoredMessage → ServerLine) {command : Command}
    {id : Text} (routed : Routed w) (held : Held w) (verb : ∀ channel, command ≠ .Part channel)
    (about : ∀ m : StoredMessage, (names m).channel = some m.channel)
    (same : ∀ c, d ≠ c → tasks_of tasks c = tasks_of w.db.tasks c) :
    Handled w (posted w tasks env d sender_id body names) sid id command (some d) := by
  obtain ⟨messages, kept⟩ := db_broadcast_message
    (append_message { w with db := { w.db with tasks := tasks } } env d sender_id body).1 d
    (names (stored w env d sender_id body)) (stored w env d sender_id body).seq
  refine .posted verb (congrArg Messages.rows messages) rfl ?_ (about (stored w env d sender_id body)) ?_
  · intro c apart
    exact (congrArg (fun tasks => tasks_of tasks c) kept).trans (same c apart)
  · exact told_of_broadcast (tells_deliver d _ _) routed held rfl rfl (fun _ _ => Iff.rfl)

/-- A task operation that succeeds is posted to the channel of its task; one that fails is told to its session. -/
theorem handled_task_action {tasks : TaskTable} {outcome : Except Text Task} {task_id verb action what : Text}
    {command : Command} (routed : Routed w) (held : Held w) (part : ∀ channel, command ≠ .Part channel)
    (refused : ∀ error, outcome = .error error → tasks = w.db.tasks)
    (same : ∀ task, outcome = .ok task → ∀ c, task.channel ≠ c → tasks_of tasks c = tasks_of w.db.tasks c) :
    Handled w (task_action w env sid p (tasks, outcome) task_id verb action what) sid p.id command
      (outcome.toOption.map (·.channel)) := by
  cases outcome with
  | error error =>
    obtain rfl := refused error rfl
    exact .of_untouched (Untouched.send _)
  | ok task =>
    exact handled_post (fun m => .TaskEvent m task action "success".toList p.nick) routed held part (fun _ => rfl)
      (same task rfl)

/-- What presents something for registration is left aside once the session is registered. -/
theorem handled_presented {session : Session} {command : Command} {id : Text} (registered : session.registered = true) :
    Handled w (try_register cfg (w.setSession sid session) env sid) sid id command none := by
  apply Handled.of_untouched
  apply untouched_try_register
  intro principal accepted
  simp [authenticating, registered] at accepted

theorem untouched_foldl {α : Type} {f : World → α → World} (each : ∀ w x, Untouched w sid (f w x)) (l : List α) (w : World) :
    Untouched w sid (l.foldl f w) := by
  induction l generalizing w with
  | nil => exact Untouched.refl w sid
  | cons x rest ih => exact (each w x).trans (ih (f w x))

/-- A history goes to its session alone, and moves cursors. -/
theorem handled_history (channels : List Text) (w : World) (sid : SessionId) (p : Principal) (after_seq limit : Int)
    (command : Command) (id : Text) : Handled w (replay_history w sid p channels after_seq limit) sid id command none := by
  have aside (w : World) (channel : Text) :
      (replay_channel w sid p after_seq limit channel).db.messages = w.db.messages ∧
      (replay_channel w sid p after_seq limit channel).db.tasks = w.db.tasks ∧
      ∀ other, other ≠ sid → (replay_channel w sid p after_seq limit channel).connections other = w.connections other := by
    have page := untouched_foldl (f := fun w (message : StoredMessage) =>
      w.send sid (.Message message (display_name w.db message.sender_id) true))
      (fun w _ => Untouched.send _) (after w.db.messages channel after_seq limit) w
    have messages := congrArg Db.messages page.db
    have tasks := congrArg Db.tasks page.db
    unfold replay_channel
    dsimp only
    split
    · exact ⟨messages, tasks, page.others⟩
    · exact ⟨messages, tasks, page.others⟩
  have all : (replay_history w sid p channels after_seq limit).db.messages = w.db.messages ∧
      (replay_history w sid p channels after_seq limit).db.tasks = w.db.tasks ∧
      ∀ other, other ≠ sid → (replay_history w sid p channels after_seq limit).connections other = w.connections other := by
    unfold replay_history
    induction channels generalizing w with
    | nil => exact ⟨rfl, rfl, fun _ _ => rfl⟩
    | cons channel rest ih =>
      obtain ⟨messages, tasks, others⟩ := aside w channel
      obtain ⟨messages', tasks', others'⟩ := ih (replay_channel w sid p after_seq limit channel)
      exact ⟨messages'.trans messages, tasks'.trans tasks, fun other apart => (others' other apart).trans (others other apart)⟩
  exact .quiet all.1 all.2.1 all.2.2

theorem db_broadcast_raw (w : World) (c : Text) (line : ServerLine) : (broadcast_raw w c line).db = w.db := by
  unfold broadcast_raw
  induction recipients_with_ids w.inner c generalizing w with
  | nil => rfl
  | cons r rest ih => exact (ih (w.send r.2.session_id line)).trans (db_send w r.2.session_id line)

/-- A `JOIN` or a `PART` changes the member alone, and is told to the channel. -/
theorem handled_announce (before : World) (d : Text) (line : ServerLine) {command : Command} {id : Text} (routed : Routed w)
    (held : Held w) (verb : ∃ channel, command = .Join channel ∨ command = .Part channel)
    (messages : before.db.messages = w.db.messages) (tasks : before.db.tasks = w.db.tasks) (about : line.channel = some d)
    (lines : before.connections = w.connections) (clients : before.inner.clients = w.inner.clients)
    (members : ∀ q, q ≠ id → (q ∈ members before.inner d ↔ q ∈ members w.inner d)) :
    Handled w (broadcast_raw before d line) sid id command (some d) := by
  refine .announced verb ?_ ?_ about ?_
  · rw [db_broadcast_raw, messages]
  · rw [db_broadcast_raw, tasks]
  · exact told_of_broadcast (tells_send line) routed held lines clients members

theorem handled_privmsg (routed : Routed w) (held : Held w) (target body : Text) :
    Handled w (privmsg w env sid p (normalize_channel target) body) sid p.id (.Privmsg target body)
      (reaches cfg w.db env p (.Privmsg target body)) := by
  by_cases member : is_member w.db p.id (normalize_channel target) = true
  · have reached : reaches cfg w.db env p (.Privmsg target body) = some (normalize_channel target) := by
      simp [reaches, stores, member]
    simp only [privmsg, if_pos member]
    rw [reached]
    exact handled_post (fun m => .Message m p.nick false) routed held (by simp) (fun _ => rfl) (fun _ _ => rfl)
  · have reached : reaches cfg w.db env p (.Privmsg target body) = none := by simp [reaches, stores, member]
    simp only [privmsg, if_neg member]
    rw [reached]
    exact .of_untouched (Untouched.send _)

theorem handled_task_create (routed : Routed w) (held : Held w) (channel title : Text) :
    Handled w (task_create w env sid p (normalize_channel channel) title).1 sid p.id (.TaskCreate channel title)
      (reaches cfg w.db env p (.TaskCreate channel title)) := by
  by_cases untitled : (trim title).isEmpty = true
  · have reached : reaches cfg w.db env p (.TaskCreate channel title) = none := if_pos (.inl untitled)
    simp only [task_create, if_pos untitled]
    rw [reached]
    exact .of_untouched (Untouched.send _)
  by_cases taken : (w.db.tasks.find ("task_".toList ++ env.task_uuid)).isSome = true
  · have reached : reaches cfg w.db env p (.TaskCreate channel title) = none := if_pos (.inr taken)
    simp only [task_create, if_neg untitled, create, if_pos taken]
    rw [reached]
    exact .quiet rfl rfl (fun _ _ => rfl)
  · have reached : reaches cfg w.db env p (.TaskCreate channel title) = some (normalize_channel channel) :=
      if_neg (not_or.mpr ⟨untitled, taken⟩)
    have kept (c : Text) (apart : normalize_channel channel ≠ c) := @tasks_of_create c w.db.tasks
      ("task_".toList ++ env.task_uuid) (normalize_channel channel) (trim title) env.now apart
    simp only [create, if_neg taken] at kept
    simp only [task_create, if_neg untitled, create, if_neg taken]
    rw [reached]
    exact handled_post (fun m => .TaskEvent m _ _ _ p.nick) routed held (by simp) (fun _ => rfl) kept

theorem handled (routed : Routed w) (held : Held w) (acts : current w sid = some p) (command : Command) :
    Handled w (handle_command cfg w env sid command).1 sid p.id command (reaches cfg w.db env p command) := by
  have registered : (w.connections sid).session.registered = true := (current_iff.mp acts).1
  have task_op {operation : TaskOp} {tasks : TaskTable} {outcome : Except Text Task}
      (result : perform cfg.lease_seconds w.db.tasks operation = (tasks, outcome)) :
      ∀ error, outcome = .error error → tasks = w.db.tasks := by
    rintro error rfl
    have refused : (perform cfg.lease_seconds w.db.tasks operation).2 = .error error := by rw [result]
    have unchanged := perform_unchanged refused
    rwa [result] at unchanged
  cases command with
  | Pass token => exact handled_presented registered
  | Nick nick => exact handled_presented registered
  | User user =>
    have same : w.setSession sid (w.connections sid).session = w := by simp [World.setSession, World.modify]
    have kept : Handled w (try_register cfg (w.setSession sid (w.connections sid).session) env sid) sid p.id (.User user)
        none := handled_presented registered
    rwa [same] at kept
  | Ping token => exact .of_untouched (Untouched.send _)
  | Pong => exact .of_untouched (Untouched.refl w sid)
  | Cap subcommand capabilities => exact .of_untouched (Untouched.cap subcommand capabilities)
  | Quit => exact .of_untouched (Untouched.refl w sid)
  | Unknown name => exact .of_untouched (Untouched.send _)
  | Join channel =>
    rw [handle_command, with_registered_current acts]
    refine handled_announce { w with
      db := add_membership w.db env.now p.id (normalize_channel channel)
      inner := add_member w.inner p.id (normalize_channel channel) } (normalize_channel channel)
      (.Join p.nick (normalize_channel channel)) routed held ⟨channel, .inl rfl⟩ rfl rfl rfl rfl rfl ?_
    intro q other
    simp [other]
  | Part channel =>
    rw [handle_command, with_registered_current acts]
    refine handled_announce { w with
      db := remove_membership w.db p.id (normalize_channel channel)
      inner := remove_member w.inner p.id (normalize_channel channel) } (normalize_channel channel)
      (.Part p.nick (normalize_channel channel)) routed held ⟨channel, .inr rfl⟩ rfl rfl rfl rfl (clients_remove_member _) ?_
    intro q other
    simp [other]
  | Privmsg target body =>
    rw [handle_command, with_registered_current acts]
    exact handled_privmsg routed held target body
  | History channel after_seq limit =>
    rw [handle_command, with_registered_current acts]
    exact handled_history _ w sid p after_seq limit _ p.id
  | TaskCreate channel title =>
    rw [handle_command, with_registered_current acts]
    exact handled_task_create routed held channel title
  | TaskClaim task_id =>
    rw [handle_command, with_registered_current acts]
    apply handled_task_action routed held (by simp)
    · exact @task_op (.claim task_id p.id env.now) _ _ rfl
    · intro task returned c apart
      exact tasks_of_returned (fun _ => rfl) (fun row => claimable_id row) returned apart
  | TaskDone task_id =>
    rw [handle_command, with_registered_current acts]
    apply handled_task_action routed held (by simp)
    · exact @task_op (.done task_id p.id env.now) _ _ rfl
    · intro task returned c apart
      exact tasks_of_returned (fun _ => rfl) (fun row selected => (held_iff.mp selected).1) returned apart
  | TaskRelease task_id =>
    rw [handle_command, with_registered_current acts]
    apply handled_task_action routed held (by simp)
    · exact @task_op (.release task_id p.id env.now) _ _ rfl
    · intro task returned c apart
      exact tasks_of_returned (fun _ => rfl) (fun row selected => (held_iff.mp selected).1) returned apart
  | TaskList channel =>
    rw [handle_command, with_registered_current acts]
    apply Handled.of_untouched
    unfold task_list
    dsimp only
    split
    · exact Untouched.send _
    · exact untouched_foldl (fun _ _ => Untouched.send _) _ w

/-! ## Outsiders -/

theorem messages_of_append {messages : Messages} {m : StoredMessage} {log : Messages}
    (rows : log.rows = messages.rows ++ [m]) :
    messages_of log c = messages_of messages c ++ if m.channel = c then [m] else [] := by
  by_cases here : m.channel = c <;> simp [messages_of, rows, here]

/-- A line that counts reaches a member of the channel exactly when one hears it. -/
theorem told_filter_iff {counts : ServerLine → Bool} {id : Text} (told : Told w w' id d line)
    (outsider : cursor w.db id c = none) :
    (∀ q h, (cursor w.db q c).isSome → w.inner.clients q = some h →
      (w'.connections h.session_id).lines.filter counts = (w.connections h.session_id).lines.filter counts) ↔
    (counts line = true → ¬ Heard w d c) := by
  have other {q : Text} (member : (cursor w.db q c).isSome) : q ≠ id := by
    rintro rfl
    rw [outsider] at member
    cases member
  constructor
  · rintro silent counted ⟨q, h, found, alive, listening, member⟩
    obtain ⟨n, lines, reached⟩ := told q h (other member) found
    have some : 0 < n := reached.mpr ⟨alive, listening⟩
    have same := silent q h member found
    rw [lines, List.filter_append, List.filter_replicate_of_pos counted, List.append_right_eq_self,
      List.replicate_eq_nil_iff] at same
    omega
  · intro unheard q h member found
    obtain ⟨n, lines, reached⟩ := told q h (other member) found
    rw [lines, List.filter_append]
    by_cases counted : counts line = true
    · have none : n = 0 := by
        by_contra some
        obtain ⟨alive, listening⟩ := reached.mp (Nat.pos_of_ne_zero some)
        exact unheard counted ⟨q, h, found, alive, listening, member⟩
      simp [none]
    · simp [counted]

/-- A command of an outsider leaves the channel unwritten, in the lines that count, exactly when it does not
    store anything there and none of its members hears such a line. -/
theorem unwritten_iff {counts : ServerLine → Bool} (heard : Text → Bool) {command : Command} (held : Held w)
    (acts : current w sid = some p) (outsider : cursor w.db p.id c = none)
    (elsewhere : ∀ channel, command = .Join channel → normalize_channel channel ≠ c)
    (counted : ∀ d line, line.channel = some d → counts line = heard d)
    (handled : Handled w w' sid p.id command (reaches cfg w.db env p command)) :
    Unwritten counts w w' c ↔ ∀ d, reaches cfg w.db env p command = some d →
      (d = c → ∃ channel, command = .Part channel) ∧ (heard d = true → ¬ Heard w d c) := by
  have joined {channel : Text} (verb : command = .Join channel) :
      reaches cfg w.db env p command = some (normalize_channel channel) := by
    rw [verb]
    rfl
  generalize reaches cfg w.db env p command = reached at handled joined
  cases handled with
  | quiet messages tasks others =>
    have silent : Unwritten counts w w' c := by
      refine ⟨by rw [messages], by rw [tasks], ?_⟩
      intro q h member found
      have apart : h.session_id ≠ sid := by
        intro same
        obtain rfl := held.unique found (current_iff.mp acts).2.2 same
        rw [outsider] at member
        cases member
      rw [others h.session_id apart]
    simp [silent]
  | @announced d line verb messages tasks about told =>
    have lines := @told_filter_iff w w' c d line counts p.id told outsider
    rw [counted d line about] at lines
    constructor
    · intro unwritten d' same
      obtain rfl := Option.some.inj same
      refine ⟨?_, lines.mp unwritten.lines⟩
      intro here
      obtain ⟨channel, join | part⟩ := verb
      · exact absurd ((Option.some.inj (joined join)).symm.trans here) (elsewhere channel join)
      · exact ⟨channel, part⟩
    · intro spares
      exact ⟨by rw [messages], by rw [tasks], lines.mpr (spares d rfl).2⟩
  | @posted d line m verb messages of tasks about told =>
    have lines := @told_filter_iff w w' c d line counts p.id told outsider
    rw [counted d line about] at lines
    have log := @messages_of_append c w.db.messages m w'.db.messages messages
    constructor
    · intro unwritten d' same
      obtain rfl := Option.some.inj same
      refine ⟨?_, lines.mp unwritten.lines⟩
      intro here
      have same := unwritten.messages
      rw [log, if_pos (of.trans here)] at same
      simp at same
    · intro spares
      have apart : d ≠ c := by
        intro here
        obtain ⟨channel, part⟩ := (spares d rfl).1 here
        exact verb channel part
      refine ⟨?_, tasks c apart, lines.mpr (spares d rfl).2⟩
      rw [log, if_neg (fun here => apart (of.symm.trans here)), List.append_nil]

theorem reachable_held (cfg : Config) (db : Db) (events : List Event) :
    Routed (run (step cfg) (start db) events) ∧ Held (run (step cfg) (start db) events) := by
  constructor
  · have started : Routed (start db) := ⟨by simp [start, ServerInner.default, members], by simp [start, ServerInner.default]⟩
    exact run_invariant (fun w e inv => inv.effect (step_effect cfg w e)) events started
  · have started : Held (start db) := by
      intro q h found
      cases found
    exact run_invariant (fun _ _ held => held.step) events started

/-- In every reached state, a command of a principal that is no member of a channel (other than a `JOIN` of
    it) writes nothing there exactly when it does not reach the channel or is a `PART` that no member hears;
    and nothing at all to its members exactly when, beyond that, none of them hears the channel it reaches. -/
theorem outsiders_write_iff (cfg : Config) (db : Db) (events : List Event) {sid : SessionId} {p : Principal} {c : Text}
    {command : Command} (env : Env) (acts : current (run (step cfg) (start db) events) sid = some p)
    (outsider : cursor (run (step cfg) (start db) events).db p.id c = none)
    (elsewhere : ∀ channel, command = .Join channel → normalize_channel channel ≠ c) :
    let w := run (step cfg) (start db) events
    let w' := (handle_command cfg w env sid command).1
    (Unwritten (fun line => decide (line.channel = some c)) w w' c ↔ Spares cfg w env p command c) ∧
      (Unwritten (fun _ => true) w w' c ↔ SparesAll cfg w env p command c) := by
  intro w w'
  obtain ⟨routed, held⟩ := reachable_held cfg db events
  have handled := @handled cfg w env sid p routed held acts command
  constructor
  · rw [unwritten_iff (fun d => decide (d = c)) held acts outsider elsewhere (fun d line about => by simp [about]) handled]
    constructor
    · intro apart reached
      obtain ⟨part, unheard⟩ := apart c reached
      exact ⟨part rfl, unheard (decide_eq_true rfl)⟩
    · intro spares d reached
      refine ⟨?_, ?_⟩
      · rintro rfl
        exact (spares reached).1
      · intro here
        obtain rfl := of_decide_eq_true here
        exact (spares reached).2
  · rw [unwritten_iff (fun _ => true) held acts outsider elsewhere (fun _ _ _ => rfl) handled]
    constructor
    · intro apart d reached
      exact ⟨(apart d reached).1, (apart d reached).2 rfl⟩
    · intro spares d reached
      exact ⟨(spares d reached).1, fun _ => (spares d reached).2⟩

/-! ### A task in someone else's channel -/

/-- Alice is in `#c`, and Bob is connected. -/
def alone : List Event :=
  arrival 0 "alice".toList "a".toList ++ [.command 0 (.Join "#c".toList) (moment 0)] ++ arrival 1 "bob".toList "b".toList

/-- What Bob says in `#c`, where he is not, is not written there, and the task that he creates is. -/
theorem outsiders_write_iff_bob :
    let w := run (step plain) (start ⟨alice_and_bob, Table.empty, Table.empty, Messages.empty, Table.empty⟩) alone
    Unwritten (fun _ => true) w (handle_command plain w (moment 1) 1 (.Privmsg "#c".toList "hello".toList)).1 "#c".toList ∧
    ¬ Unwritten (fun line => decide (line.channel = some "#c".toList)) w
      (handle_command plain w (moment 1) 1 (.TaskCreate "#c".toList "Title".toList)).1 "#c".toList := by
  intro w
  have both (command : Command) := @outsiders_write_iff plain
    ⟨alice_and_bob, Table.empty, Table.empty, Messages.empty, Table.empty⟩ alone 1 ⟨"bob".toList, "bob".toList, none⟩ "#c".toList
    command (moment 1) (by decide) (by decide)
  have said := (both (.Privmsg "#c".toList "hello".toList) (by simp)).2
  have created := (both (.TaskCreate "#c".toList "Title".toList) (by simp)).1
  have nowhere : reaches plain w.db (moment 1) ⟨"bob".toList, "bob".toList, none⟩ (.Privmsg "#c".toList "hello".toList) = none := by decide
  have there : reaches plain w.db (moment 1) ⟨"bob".toList, "bob".toList, none⟩ (.TaskCreate "#c".toList "Title".toList) =
      some "#c".toList := by decide
  refine ⟨said.mpr ?_, fun unwritten => ?_⟩
  · intro d reached
    rw [nowhere] at reached
    cases reached
  · obtain ⟨⟨channel, part⟩, _⟩ := created.mp unwritten there
    cases part

/-- Bob, who is not in `#c`, creates a task there: it is stored, so is its message, and Alice is sent a line. -/
theorem outsider_creates_task :
    let w := run (step plain) (start ⟨alice_and_bob, Table.empty, Table.empty, Messages.empty, Table.empty⟩) alone
    let w' := (handle_command plain w (moment 1) 1 (.TaskCreate "#c".toList "Title".toList)).1
    current w 1 = some ⟨"bob".toList, "bob".toList, none⟩ ∧ cursor w.db "bob".toList "#c".toList = none ∧
    ¬ Unwritten (fun line => decide (line.channel = some "#c".toList)) w w' "#c".toList ∧
    (tasks_of w'.db.tasks "#c".toList).map (·.title) = ["Title".toList] ∧
    ((w'.connections 0).lines.length, (w.connections 0).lines.length) = (4, 3) := by
  refine ⟨by decide, by decide, ?_, by decide, by decide⟩
  intro unwritten
  have messages := congrArg List.length unwritten.messages
  revert messages
  decide

end Aircd.Server

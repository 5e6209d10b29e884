import Aircd.Dialogue

/-!
# What a claim or a done returns

The reader loop matches an outcome with a call by the action and the task alone. It
is the outcome of that call as long as no other outcome for the same action and task
is on its way to the call: one of an earlier call whose wait has timed out, one of
another session of the same nick, or a line of the past.
-/
namespace Aircd.Dialogue
open Aircd.Runs Aircd.Text Aircd.Utf8 Aircd.Protocol Aircd.Auth Aircd.Tasks Aircd.Store Aircd.Daemon
open Aircd.Server (Config Env SessionId ServerLine commands plain moment)
open Aircd.Concurrent (System Section Reply line_reply answered status_of action_of reply_to Held Spoken Unqueued both_in_c)
open Aircd.Client (ReaderLoop message_reply)

/-- The key under which the reader loop looks for the call of a reply. -/
def key_of (r : Reply) : Text := action_key r.action r.task_id

/-- The operation that an action asks for, and the status of its success. -/
def kind_of : Action → Tasks.Kind
  | .claim => .claim
  | .done => .done

def success_of : Action → Status
  | .claim => .claimed
  | .done => .done

/-- A reply is on its way to the reader loop of the daemon: sections are about to send
    it, the client has not read its line, or the reader loop has not taken its message. -/
inductive UnderWay (s : State) (r : Reply) : Prop where
  | task (sid : SessionId) (x : Section) (inside : x ∈ s.server.threads sid) (carries : x.reply = some r)
      (home : x.sends_home = true → s.link = some sid)
  | line (line : ServerLine) (bytes : List UInt8) (inside : (line, bytes) ∈ s.unread) (carries : line_reply line = some r)
  | message (msg : Message) (inside : msg ∈ s.reader.message_queue) (carries : message_reply msg = some r)

/-- The reader loop takes the reply for an outcome: a failure, or a success of the daemon itself. -/
def Concerns (nick : Text) (r : Reply) : Prop :=
  r.status = "failed".toList ∨ (r.status = "success".toList ∧ r.actor = nick)

/-- No outcome for the action and the task of a call is on its way when the call
    begins; while it is open, every such outcome is that of its own command, sent by
    the session that serves it; and what is taken for its outcome is a tagged line. -/
def Undisputed (cfg : Config) (nick : Text) (s : State) : Event → Prop
  | .server (.run sid env) => ∀ here rest r, s.server.threads sid = here :: rest →
      answered cfg s.server.world env here = some r → Concerns nick r → (r.status = "failed".toList → s.link = some sid) →
      ∀ id action task_id object, s.daemon.Open id action task_id object → key_of r = action_key action.text task_id →
        s.serving sid = some id
  | .read _ _ => ∀ line bytes rest, s.unread = (line, bytes) :: rest → '\n' ∉ line.text
  | .take _ _ => ∀ msg rest object response, s.reader.message_queue = msg :: rest →
      Loop.takes nick s.daemon.requests msg object response → (s.daemon.requests.objects object).responses = [] → tagged msg = true
  | .loop (.call id (.task_action action task_id) _) => s.daemon.calls id = .unstarted →
      s.daemon.requests.get .task_action (action_key action.text task_id) = none →
      ∀ r, UnderWay s r → Concerns nick r → key_of r ≠ action_key action.text task_id
  | _ => True

/-- The server has executed the command of the call, for the principal of a session of
    the daemon, and what the call is told is how that ended. -/
def Justified (s : State) (id : Nat) (action : Action) (task_id : Text) : Response → Prop
  | .outcome status _ =>
    (∃ x ∈ s.executed, x.call = id ∧ x.session ∈ s.dialled ∧ x.op.kind = kind_of action ∧ x.op.id = task_id ∧
      (∃ principal, s.server.world.principal x.session = some principal ∧ x.op.principal = some principal.id) ∧
      x.accepted = decide (status ≠ .failed)) ∧ (status = .failed ∨ status = success_of action)
  | _ => False

variable {cfg : Config} {nick : Text} {s s' : State} {id object : Nat} {action : Action} {task_id : Text} {r : Reply}

/-! ## Keys -/

theorem action_key_inj {action action' task_id' : Text} (plain : ':' ∉ action) (plain' : ':' ∉ action')
    (same : action_key action task_id = action_key action' task_id') : action = action' ∧ task_id = task_id' := by
  have before {action task_id : Text} (plain : ':' ∉ action) :
      (action_key action task_id).takeWhile (fun c => c != ':') = action := by
    have kept : ∀ c ∈ action, (c != ':') = true := by
      intro c inside
      simp only [bne_iff_ne, ne_eq]
      rintro rfl
      exact plain inside
    rw [action_key, List.append_assoc, List.takeWhile_append_of_pos kept]
    simp
  have actions : action = action' := by rw [← @before action task_id plain, same, before plain']
  subst actions
  rw [action_key, action_key] at same
  exact ⟨rfl, List.append_cancel_left same⟩

theorem plain_action_of (kind : Tasks.Kind) : ':' ∉ action_of kind := by
  cases kind <;> decide

theorem plain_action (action : Action) : ':' ∉ action.text := by
  cases action <;> decide

theorem kind_of_action {kind : Tasks.Kind} (same : action_of kind = action.text) : kind = kind_of action := by
  revert same
  cases kind <;> cases action <;> decide

/-! ## What a command of a call leads to -/

/-- The reply is to an operation for the call. -/
structure Answers (s : State) (id : Nat) (r : Reply) (x : Execution) : Prop where
  listed : x ∈ s.executed
  call : x.call = id
  dialled : x.session ∈ s.dialled
  principal : ∃ principal, s.server.world.principal x.session = some principal ∧
    (x.op.principal = none ∨ x.op.principal = some principal.id)
  action : action_of x.op.kind = r.action
  task : x.op.id = r.task_id
  status : r.status = if x.accepted then "success".toList else "failed".toList

/-- What has been executed, dialled and logged in stays so. -/
structure Later (s s' : State) : Prop where
  listed : s.executed ⊆ s'.executed
  dialled : s.dialled ⊆ s'.dialled
  speaks : ∀ sid principal, s.server.world.principal sid = some principal → s'.server.world.principal sid = some principal

theorem Later.of_eq (server : s'.server = s.server) (executed : s'.executed = s.executed) (dialled : s'.dialled = s.dialled) :
    Later s s' where
  listed := by rw [executed]; exact List.Subset.refl _
  dialled := by rw [dialled]; exact List.Subset.refl _
  speaks sid principal known := by rw [server]; exact known

theorem Answers.mono {x : Execution} (answers : Answers s id r x) (later : Later s s') : Answers s' id r x := by
  obtain ⟨principal, known, names⟩ := answers.principal
  exact ⟨later.listed answers.listed, answers.call, later.dialled answers.dialled, ⟨principal, later.speaks _ _ known, names⟩,
    answers.action, answers.task, answers.status⟩

/-- What the reader loop takes from a tagged line, for a call that waits for it. -/
theorem taken_reply {msg : Message} {response : Response} (inv : s.daemon.Inv) (numbered : Loop.Numbered s.daemon.requests)
    (waits : s.daemon.Open id action task_id object) (taken : Loop.takes nick s.daemon.requests msg object response)
    (full : tagged msg = true) : ∃ r, message_reply msg = some r ∧ key_of r = action_key action.text task_id ∧
      ((r.status = "failed".toList ∧ response = .outcome .failed msg.content) ∨
        (r.status = "success".toList ∧ r.actor = nick ∧
          response = .outcome (if r.action = "claim".toList then .claimed else .done) msg.content)) := by
  obtain ⟨_, _, told⟩ := taken
  simp only [action_outcome, full, if_true] at told
  split at told
  · obtain ⟨⟨key, response'⟩, outcome, pending⟩ := Option.bind_eq_some_iff.mp told
    obtain ⟨object', found, same⟩ := Option.map_eq_some_iff.mp pending
    cases same
    have key_same := (numbered.apart _ _ _ _ _ found (inv.held id _ object waits.1)).2
    refine ⟨_, by rw [message_reply, if_pos full], ?_⟩
    unfold tag_outcome at outcome
    dsimp only at outcome
    split at outcome
    · next failed =>
      cases outcome
      exact ⟨key_same, .inl ⟨failed, rfl⟩⟩
    · split at outcome
      · next success =>
        cases outcome
        exact ⟨key_same, .inr ⟨success.1, success.2, rfl⟩⟩
      · cases outcome
  · cases told

/-- What is taken from a reply to the operation for a call is what its call may be told. -/
theorem Answers.justified {x : Execution} {response : Response} {content : Text} (answers : Answers s id r x)
    (key : key_of r = action_key action.text task_id)
    (told : (r.status = "failed".toList ∧ response = .outcome .failed content) ∨
      (r.status = "success".toList ∧ r.actor = nick ∧
        response = .outcome (if r.action = "claim".toList then .claimed else .done) content)) :
    Justified s id action task_id response := by
  have plain : ':' ∉ r.action := by rw [← answers.action]; exact plain_action_of _
  obtain ⟨actions, tasks⟩ := action_key_inj plain (plain_action action) key
  have kind : x.op.kind = kind_of action := kind_of_action (answers.action.trans actions)
  have whose : ∃ principal, s.server.world.principal x.session = some principal ∧ x.op.principal = some principal.id := by
    obtain ⟨principal, known, nobody | self⟩ := answers.principal
    · cases op : x.op with
      | create id channel title now => rw [op] at kind; cases action <;> cases kind
      | _ => rw [op] at nobody; cases nobody
    · exact ⟨principal, known, self⟩
  have executed (accepted : Bool) (same : x.accepted = accepted) : ∃ x ∈ s.executed, x.call = id ∧ x.session ∈ s.dialled ∧
      x.op.kind = kind_of action ∧ x.op.id = task_id ∧
      (∃ principal, s.server.world.principal x.session = some principal ∧ x.op.principal = some principal.id) ∧
      x.accepted = accepted :=
    ⟨x, answers.listed, answers.call, answers.dialled, kind, answers.task.trans tasks, whose, same⟩
  have differ : "success".toList ≠ "failed".toList := by decide
  rcases told with ⟨failed, rfl⟩ | ⟨success, _, rfl⟩
  · refine ⟨executed false ?_, .inl rfl⟩
    have status := answers.status
    rw [failed] at status
    cases accepted : x.accepted with
    | true => rw [accepted, if_pos rfl] at status; exact absurd status.symm differ
    | false => rfl
  · have accepted : x.accepted = true := by
      have status := answers.status
      rw [success] at status
      cases accepted : x.accepted with
      | true => rfl
      | false => rw [accepted] at status; exact absurd status differ
    rw [actions]
    cases action with
    | claim => exact ⟨executed true accepted, .inr rfl⟩
    | done => exact ⟨executed true accepted, .inr rfl⟩

theorem Justified.mono {response : Response} (justified : Justified s id action task_id response) (later : Later s s') :
    Justified s' id action task_id response := by
  cases response with
  | outcome status content =>
    obtain ⟨⟨x, inside, call, session, kind, task, ⟨principal, known, self⟩, accepted⟩, allowed⟩ := justified
    exact ⟨⟨x, later.listed inside, call, later.dialled session, kind, task, ⟨principal, later.speaks _ _ known, self⟩, accepted⟩,
      allowed⟩
  | replay message => exact justified.elim
  | task id channel status claimed_by title => exact justified.elim

/-! ## Replies on their way -/

/-- The reply to an operation that is about to run, which its session will send to the daemon. -/
def Arises (cfg : Config) (s : State) (e : Concurrent.Event) (r : Reply) : Prop :=
  ∃ sid env here rest, e = .run sid env ∧ s.server.threads sid = here :: rest ∧
    answered cfg s.server.world env here = some r ∧ (r.status = "failed".toList → s.link = some sid)

theorem mem_unread {line : ServerLine} {bytes : List UInt8} : (line, bytes) ∈ s.unread → ∃ sid, s.link = some sid ∧
    (line, bytes) ∈ (s.pieces sid).drop s.read := by
  intro inside
  unfold State.unread at inside
  split at inside
  · cases inside
  · next sid linked => exact ⟨sid, linked, inside⟩

theorem mem_pieces {sid : SessionId} {line : ServerLine} {bytes : List UInt8} : (line, bytes) ∈ s.pieces sid ↔
    line ∈ (s.server.world.connections sid).lines ∧ bytes ∈ Lines.terminated 10 (ReaderLoop.written line) := by
  simp [State.pieces]

/-- What the server does adds the replies to the operations that it runs. -/
theorem UnderWay.server (cfg : Config) (e : Concurrent.Event) (after : UnderWay s' r)
    (server : s'.server = Concurrent.step cfg s.server e) (link : s'.link = s.link) (read : s'.read = s.read)
    (reader : s'.reader.message_queue = s.reader.message_queue) : UnderWay s r ∨ Arises cfg s e r := by
  cases after with
  | task sid x inside carries home =>
    rw [server] at inside
    rw [link] at home
    rcases Concurrent.reply_threads_step inside carries with
      ⟨y, before, carried, away⟩ | ⟨env, here, rest, rfl, head, answers, back⟩
    · exact .inl (.task sid y before carried (fun at_home => home (away at_home)))
    · exact .inr ⟨sid, env, here, rest, rfl, head, answers, fun failed => home (back failed)⟩
  | line line bytes inside carries =>
    obtain ⟨sid, linked, unread⟩ := mem_unread inside
    obtain ⟨more, queued, replies⟩ := Concurrent.reply_lines_step cfg s.server e sid
    have parts : s'.pieces sid = s.pieces sid ++ more.flatMap (fun line =>
        (Lines.terminated 10 (ReaderLoop.written line)).map (fun bytes => (line, bytes))) := by
      rw [State.pieces, server, queued, List.flatMap_append]
      rfl
    rw [parts, read, List.drop_append] at unread
    rw [link] at linked
    left
    rcases List.mem_append.mp unread with before | new
    · exact .line line bytes (by rw [State.unread, linked]; exact before) carries
    · obtain ⟨line', added, piece⟩ := List.mem_flatMap.mp (List.mem_of_mem_drop new)
      obtain ⟨_, _, same⟩ := List.mem_map.mp piece
      cases same
      obtain ⟨task, x, before, carried, home⟩ := replies line added r carries
      exact .task task x before carried (fun at_home => by rw [linked, home at_home])
  | message msg inside carries => rw [reader] at inside; exact .inl (.message msg inside carries)

/-- A new connection brings no reply, and the sessions of the others no longer reach the daemon. -/
theorem UnderWay.dial {sid : SessionId} (cfg : Config) (after : UnderWay s' r) (held : Held s.server)
    (unqueued : Unqueued s.server sid) (unused : (s.server.world.connections sid).phase = .Unused)
    (server : s'.server = Concurrent.step cfg s.server (.connect sid))
    (link : s'.link = some sid) (reader : s'.reader.message_queue = s.reader.message_queue) : UnderWay s r := by
  have empty : s.server.threads sid = [] := held.stopped sid (by rw [unused]; exact Server.Phase.noConfusion)
  cases after with
  | task sid' x inside carries home =>
    rw [server] at inside
    rw [link] at home
    rcases Concurrent.reply_threads_step inside carries with ⟨y, before, carried, away⟩ | ⟨_, _, _, event, _⟩
    · refine .task sid' y before carried ?_
      intro at_home
      obtain rfl := Option.some.inj (home (away at_home))
      rw [empty] at before; cases before
    · cases event
  | line line bytes inside carries =>
    obtain ⟨sid', linked, unread⟩ := mem_unread inside
    obtain rfl := Option.some.inj (link.symm.trans linked)
    obtain ⟨more, queued, replies⟩ := Concurrent.reply_lines_step cfg s.server (.connect sid) sid
    obtain ⟨line_queued, _⟩ := mem_pieces.mp (List.mem_of_mem_drop unread)
    rw [server, queued, (unqueued unused).2, List.nil_append] at line_queued
    obtain ⟨task, x, before, carried, home⟩ := replies line line_queued r carries
    refine .task task x before carried ?_
    intro at_home
    rw [home at_home, empty] at before; cases before
  | message msg inside carries => rw [reader] at inside; exact .message msg inside carries

/-- The message that the client makes of a line, if it queues one. -/
theorem mem_queue_step {reader : ReaderLoop} {bytes : List UInt8} {sent reconnects : Bool} {msg : Message}
    (inside : msg ∈ (reader.step (.line bytes sent reconnects)).message_queue) : msg ∈ reader.message_queue ∨
      ∃ t, Client.readline bytes = some t ∧ Client.message t = some msg := by
  unfold ReaderLoop.step at inside
  split at inside
  · dsimp only at inside
    split at inside
    · exact .inl inside
    · unfold ReaderLoop.turn at inside
      split at inside
      · exact .inl inside
      · next t line =>
        split at inside
        · exact .inl inside
        · next parsed parse =>
          split at inside
          · split at inside
            · exact .inl inside
            · left
              unfold ReaderLoop.disconnected at inside
              split at inside
              · exact inside
              · split at inside
                · exact inside
                · exact inside
          · rcases List.mem_append.mp inside with old | new
            · exact .inl old
            · exact .inr ⟨t, line, Option.bind_eq_some_iff.mpr ⟨parsed, parse, Option.mem_toList.mp new⟩⟩
  · exact .inl inside

theorem mem_queue_read {bytes : List UInt8} {sent reconnects : Bool} {msg : Message}
    (inside : msg ∈ (read_line s bytes sent reconnects).reader.message_queue) : msg ∈ s.reader.message_queue ∨
      ∃ t, Client.readline bytes = some t ∧ Client.message t = some msg := by
  unfold read_line at inside
  split at inside
  · exact mem_queue_step inside
  · split at inside
    · exact .inl inside
    · exact .inl inside
    · exact .inl inside

/-- Reading a line turns its reply into that of a message. -/
theorem UnderWay.read {line : ServerLine} {bytes : List UInt8} {rest : List (ServerLine × List UInt8)} {sent reconnects : Bool}
    (after : UnderWay s' r) (unread : s.unread = (line, bytes) :: rest) (clean : '\n' ∉ line.text) (server : s'.server = s.server)
    (link : s'.link = s.link) (read : s'.read = s.read + 1)
    (reader : s'.reader = (read_line s bytes sent reconnects).reader) : UnderWay s r := by
  have head : (line, bytes) ∈ s.unread := by rw [unread]; exact List.mem_cons_self
  cases after with
  | task sid x inside carries home =>
    rw [server] at inside
    rw [link] at home
    exact .task sid x inside carries home
  | line line' bytes' inside carries =>
    obtain ⟨sid, linked, left⟩ := mem_unread inside
    rw [State.pieces, server, read, ← List.drop_drop] at left
    rw [link] at linked
    exact .line line' bytes' (by rw [State.unread, linked]; exact List.mem_of_mem_drop left) carries
  | message msg inside carries =>
    rw [reader] at inside
    rcases mem_queue_read inside with old | ⟨t, text, made⟩
    · exact .message msg old carries
    · obtain ⟨_, _, unread⟩ := mem_unread head
      have piece := (mem_pieces.mp (List.mem_of_mem_drop unread)).2
      exact .line line bytes head (Client.reply_of_piece clean piece text made carries)

/-- What depends on the server, the connection and the queue alone. -/
theorem UnderWay.same (after : UnderWay s' r) (server : s'.server = s.server) (link : s'.link = s.link) (read : s'.read = s.read)
    (reader : s'.reader.message_queue ⊆ s.reader.message_queue) : UnderWay s r := by
  cases after with
  | task sid x inside carries home =>
    rw [server] at inside
    rw [link] at home
    exact .task sid x inside carries home
  | line line bytes inside carries =>
    rw [State.unread, link] at inside
    simp only [State.pieces, server, read] at inside
    exact .line line bytes inside carries
  | message msg inside carries => exact .message msg (reader inside) carries

/-! ## What is written -/

/-- The daemon has written to its connection. -/
structure Posted (s s' : State) : Prop where
  server : s'.server = s.server
  daemon : s'.daemon = s.daemon
  reader : s'.reader = s.reader
  link : s'.link = s.link
  read : s'.read = s.read
  dialled : s'.dialled = s.dialled
  serving : s'.serving = s.serving
  executed : s'.executed = s.executed
  upstream : ∀ sid, s'.upstream sid ≠ [] → s.upstream sid ≠ [] ∨ s.link = some sid

theorem Posted.trans {s'' : State} (first : Posted s s') (second : Posted s' s'') : Posted s s'' where
  server := second.server.trans first.server
  daemon := second.daemon.trans first.daemon
  reader := second.reader.trans first.reader
  link := second.link.trans first.link
  read := second.read.trans first.read
  dialled := second.dialled.trans first.dialled
  serving := second.serving.trans first.serving
  executed := second.executed.trans first.executed
  upstream sid written := by
    rcases second.upstream sid written with before | linked
    · exact first.upstream sid before
    · exact .inr (first.link.symm.trans linked)

theorem posted_write (s : State) (line : Text) (call : Option Nat) : Posted s (s.write line call) := by
  unfold State.write
  split
  · exact ⟨rfl, rfl, rfl, rfl, rfl, rfl, rfl, rfl, fun _ written => .inl written⟩
  · next sid linked =>
    refine ⟨rfl, rfl, rfl, rfl, rfl, rfl, rfl, rfl, ?_⟩
    intro sid' written
    by_cases here : sid' = sid
    · exact .inr (here ▸ linked)
    · left
      dsimp only at written
      rwa [Function.update_of_ne here] at written

theorem posted_lines (lines : List Text) (call : Option Nat) (s : State) :
    Posted s (lines.foldl (fun s line => s.write line call) s) := by
  induction lines generalizing s with
  | nil => exact ⟨rfl, rfl, rfl, rfl, rfl, rfl, rfl, rfl, fun _ written => .inl written⟩
  | cons line rest ih => exact (posted_write s line call).trans (ih _)

theorem posted_call (cfg : Config) (nick : Text) (s : State) (id : Nat) (request : Request) (connected : Bool) :
    Posted { s with daemon := Loop.step nick s.daemon (.call id request (connected && s.link.isSome)) }
      (step cfg nick s (.loop (.call id request connected))) :=
  posted_lines _ _ _

/-- The sessions that the daemon reads from, writes to or is served by are its own. -/
def Owned (s : State) : Prop :=
  ∀ sid, s.link = some sid ∨ s.upstream sid ≠ [] ∨ (s.serving sid).isSome = true → sid ∈ s.dialled

theorem Posted.owned (posted : Posted s s') (owned : Owned s) : Owned s' := by
  intro sid used
  rw [posted.dialled]
  rw [posted.link, posted.serving] at used
  rcases used with linked | written | serves
  · exact owned sid (.inl linked)
  · rcases posted.upstream sid written with before | linked
    · exact owned sid (.inr (.inl before))
    · exact owned sid (.inl linked)
  · exact owned sid (.inr (.inr serves))

theorem Posted.queue (posted : Posted s s') : s'.reader.message_queue ⊆ s.reader.message_queue := by
  rw [posted.reader]
  exact List.Subset.refl _

/-- A line that is read changes the reading side alone. -/
theorem read_line_frame (s : State) (bytes : List UInt8) (sent reconnects : Bool) :
    ∃ greeted reader, read_line s bytes sent reconnects = { s with read := s.read + 1, greeted := greeted, reader := reader } := by
  unfold read_line
  split
  · exact ⟨_, _, rfl⟩
  · split
    · exact ⟨_, _, rfl⟩
    · exact ⟨_, _, rfl⟩
    · exact ⟨_, _, rfl⟩

/-! ## The invariant -/

/-- Every outcome on its way to a call without one is that of its own command, and so
    is what the calls have been told. -/
structure Agreed (nick : Text) (s : State) : Prop where
  held : Held s.server
  spoken : Spoken s.server
  unqueued : ∀ sid, Unqueued s.server sid
  calls : s.daemon.Inv
  numbered : Loop.Numbered s.daemon.requests
  owned : Owned s
  answers : ∀ id action task_id object, s.daemon.Open id action task_id object → ∀ r, UnderWay s r → Concerns nick r →
    key_of r = action_key action.text task_id → ∃ x, Answers s id r x
  told : Loop.Told (Justified s) s.daemon

/-- An event of the server. -/
theorem Agreed.server (cfg : Config) (e : Concurrent.Event) (inv : Agreed nick s)
    (server : s'.server = Concurrent.step cfg s.server e) (daemon : s'.daemon = s.daemon) (listed : s.executed ⊆ s'.executed)
    (kept : s.dialled ⊆ s'.dialled) (owned : Owned s') (ways : ∀ r, UnderWay s' r → UnderWay s r ∨ Arises cfg s e r)
    (arises : ∀ r, Arises cfg s e r → Concerns nick r → ∀ id action task_id object, s.daemon.Open id action task_id object →
      key_of r = action_key action.text task_id → ∃ x, Answers s' id r x) : Agreed nick s' := by
  have later : Later s s' := by
    refine ⟨listed, kept, ?_⟩
    intro sid principal known
    rw [server]
    exact inv.held.speaks known e
  refine ⟨?_, ?_, ?_, ?_, ?_, owned, ?_, ?_⟩
  · rw [server]; exact inv.held.step
  · rw [server]; exact inv.spoken.step inv.held
  · intro sid; rw [server]; exact Concurrent.unqueued_step (inv.unqueued sid)
  · rw [daemon]; exact inv.calls
  · rw [daemon]; exact inv.numbered
  · intro id action task_id object waits r way concerns key
    rw [daemon] at waits
    rcases ways r way with before | new
    · obtain ⟨x, answers⟩ := inv.answers id action task_id object waits r before concerns key
      exact ⟨x, answers.mono later⟩
    · exact arises r new concerns id action task_id object waits key
  · rw [daemon]
    exact inv.told.mono (fun id action task_id response justified => justified.mono later)

/-- An event of the event loop. -/
theorem Agreed.loop (e : Loop.Event) (inv : Agreed nick s) (server : s'.server = s.server)
    (daemon : s'.daemon = Loop.step nick s.daemon e) (executed : s'.executed = s.executed) (dialled : s'.dialled = s.dialled)
    (owned : Owned s') (ways : ∀ r, UnderWay s' r → UnderWay s r)
    (begins : ∀ id action task_id connected, e = .call id (.task_action action task_id) connected →
      s.daemon.calls id = .unstarted → s.daemon.requests.get .task_action (action_key action.text task_id) = none →
      ∀ r, UnderWay s r → Concerns nick r → key_of r ≠ action_key action.text task_id)
    (first : ∀ id action task_id object response address msg restarted, e = .message address msg restarted →
      s.daemon.Open id action task_id object → Loop.takes nick s.daemon.requests msg object response →
      Justified s id action task_id response) : Agreed nick s' := by
  have later := Later.of_eq server executed dialled
  refine ⟨?_, ?_, ?_, ?_, ?_, owned, ?_, ?_⟩
  · rw [server]; exact inv.held
  · rw [server]; exact inv.spoken
  · rw [server]; exact inv.unqueued
  · rw [daemon]; exact inv.calls.step (Loop.step_effect nick s.daemon e)
  · rw [daemon]; exact inv.numbered.step (Loop.step_effect nick s.daemon e)
  · intro id action task_id object waits r way concerns key
    rw [daemon] at waits
    rcases Loop.open_step inv.calls inv.numbered waits with before | ⟨⟨connected, event⟩, unstarted, free⟩
    · obtain ⟨x, answers⟩ := inv.answers id action task_id object before r (ways r way) concerns key
      exact ⟨x, answers.mono later⟩
    · exact absurd key (begins id action task_id connected event unstarted free r (ways r way) concerns)
  · rw [daemon]
    have told : Loop.Told (Justified s) (Loop.step nick s.daemon e) := inv.told.step inv.calls inv.numbered first
    exact told.mono (fun id action task_id response justified => justified.mono later)

/-- The client reads, or writes what no call does. -/
theorem Agreed.same (inv : Agreed nick s) (server : s'.server = s.server) (daemon : s'.daemon = s.daemon)
    (executed : s'.executed = s.executed) (dialled : s'.dialled = s.dialled) (owned : Owned s')
    (ways : ∀ r, UnderWay s' r → UnderWay s r) : Agreed nick s' := by
  have later := Later.of_eq server executed dialled
  refine ⟨?_, ?_, ?_, ?_, ?_, owned, ?_, ?_⟩
  · rw [server]; exact inv.held
  · rw [server]; exact inv.spoken
  · rw [server]; exact inv.unqueued
  · rw [daemon]; exact inv.calls
  · rw [daemon]; exact inv.numbered
  · intro id action task_id object waits r way concerns key
    rw [daemon] at waits
    obtain ⟨x, answers⟩ := inv.answers id action task_id object waits r (ways r way) concerns key
    exact ⟨x, answers.mono later⟩
  · rw [daemon]
    exact inv.told.mono (fun id action task_id response justified => justified.mono later)

/-! ## One step -/

/-- Whom the operation of a section is for. -/
theorem operation_principal {env : Env} {x : Section} {principal : Principal} {op : TaskOp}
    (operates : x.operation env = some (principal, op)) :
    x.operates = true ∧ x.principal = some principal ∧ (op.principal = none ∨ op.principal = some principal.id) := by
  cases x with
  | task_create speaker channel title => cases operates; exact ⟨rfl, rfl, .inl rfl⟩
  | task_claim speaker task_id => cases operates; exact ⟨rfl, rfl, .inr rfl⟩
  | task_done speaker task_id => cases operates; exact ⟨rfl, rfl, .inr rfl⟩
  | task_release speaker task_id => cases operates; exact ⟨rfl, rfl, .inr rfl⟩
  | _ => cases operates

/-- The reply to the operation that a session runs for a call is the answer to that call. -/
theorem answers_run {sid : SessionId} {env : Env} {here : Section} {rest : List Section} (inv : Agreed nick s)
    (head : s.server.threads sid = here :: rest) (answers : answered cfg s.server.world env here = some r)
    (serves : s.serving sid = some id) : ∃ x, Answers (step cfg nick s (.server (.run sid env))) id r x := by
  obtain ⟨⟨principal, op⟩, operates, reply⟩ := Option.map_eq_some_iff.mp answers
  obtain ⟨acts, speaker, whose⟩ := operation_principal operates
  have known : s.server.world.principal sid = some principal :=
    (inv.spoken sid here (by rw [head]; exact List.mem_cons_self) acts).symm.trans speaker
  refine ⟨⟨id, sid, op, State.succeeded (Tasks.perform cfg.lease_seconds s.server.world.db.tasks op).2⟩, ?_, rfl, ?_, ?_, ?_, ?_, ?_⟩
  · refine List.mem_append_right s.executed ?_
    simp [State.executions, serves, head, operates]
  · exact inv.owned sid (.inr (.inr (by rw [serves]; rfl)))
  · exact ⟨principal, inv.held.speaks known _, whose⟩
  · rw [← reply]; rfl
  · rw [← reply]; rfl
  · rw [← reply]
    cases outcome : (Tasks.perform cfg.lease_seconds s.server.world.db.tasks op).2 with
    | ok task => rfl
    | error error => rfl

/-- An event of the server that runs no section. -/
theorem Agreed.step_idle (inv : Agreed nick s) {e : Concurrent.Event} (other : ∀ sid env, e ≠ .run sid env)
    (same : Dialogue.step cfg nick s (.server e) = { s with server := Concurrent.step cfg s.server e }) :
    Agreed nick (Dialogue.step cfg nick s (.server e)) := by
  rw [same]
  refine inv.server cfg _ rfl rfl (List.Subset.refl _) (List.Subset.refl _) inv.owned
    (fun r way => way.server cfg _ rfl rfl rfl rfl) ?_
  rintro r ⟨sid, env, _, _, event, _⟩
  exact absurd event (other sid env)

/-- A section runs, for a call or for another session. -/
theorem Agreed.step_run (inv : Agreed nick s) {sid : SessionId} {env : Env}
    (undisputed : Undisputed cfg nick s (.server (.run sid env))) : Agreed nick (Dialogue.step cfg nick s (.server (.run sid env))) := by
  refine inv.server cfg (.run sid env) rfl rfl (List.subset_append_left _ _) (List.Subset.refl _)
    inv.owned (fun r way => way.server cfg (.run sid env) rfl rfl rfl rfl) ?_
  rintro r ⟨_, _, here, rest, event, head, answers, home⟩ concerns id action task_id object waits key
  cases event
  exact answers_run inv head answers (undisputed here rest r head answers concerns home id action task_id object waits key)

theorem Agreed.step_server (inv : Agreed nick s) (e : Concurrent.Event) (undisputed : Undisputed cfg nick s (.server e)) :
    Agreed nick (Dialogue.step cfg nick s (.server e)) := by
  cases e with
  | run sid env => exact inv.step_run undisputed
  | receive sid command =>
    by_cases mine : sid ∈ s.dialled
    · have same : Dialogue.step cfg nick s (.server (.receive sid command)) = s := if_pos mine
      rw [same]
      exact inv
    · exact inv.step_idle (fun _ _ event => by cases event) (if_neg mine)
  | connect sid => exact inv.step_idle (fun _ _ event => by cases event) rfl
  | eof sid => exact inv.step_idle (fun _ _ event => by cases event) rfl
  | shutdown sid => exact inv.step_idle (fun _ _ event => by cases event) rfl
  | read_error sid => exact inv.step_idle (fun _ _ event => by cases event) rfl
  | writer_end sid => exact inv.step_idle (fun _ _ event => by cases event) rfl
  | restart => exact inv.step_idle (fun _ _ event => by cases event) rfl

theorem Agreed.step_dial (inv : Agreed nick s) (sid : SessionId) : Agreed nick (Dialogue.step cfg nick s (.dial sid)) := by
  simp only [Dialogue.step]
  split
  · next unused =>
    refine inv.server cfg (.connect sid) rfl rfl (List.Subset.refl _) (List.subset_cons_self sid _) ?_
      (fun r way => .inl (way.dial cfg inv.held (inv.unqueued sid) unused rfl rfl rfl)) ?_
    · rintro sid' (linked | written)
      · exact Option.some.inj linked ▸ List.mem_cons_self
      · exact List.mem_cons_of_mem sid (inv.owned sid' (.inr written))
    · rintro r ⟨_, _, _, _, event, _⟩
      cases event
  · exact inv

/-- What the server reads of the daemon is of a session that the daemon has dialled. -/
theorem Agreed.step_arrive (inv : Agreed nick s) (sid : SessionId) : Agreed nick (Dialogue.step cfg nick s (.arrive sid)) := by
  simp only [Dialogue.step]
  split
  · exact inv
  · next written rest waiting =>
    split
    · have mine : sid ∈ s.dialled := inv.owned sid (.inr (.inl (by rw [waiting]; exact List.cons_ne_nil _ _)))
      refine inv.server cfg (.receive sid written.command) rfl rfl (List.Subset.refl _) (List.Subset.refl _) ?_
        (fun r way => way.server cfg (.receive sid written.command) rfl rfl rfl rfl) ?_
      · rintro sid' used
        by_cases here : sid' = sid
        · exact here ▸ mine
        · simp only [Function.update_of_ne here] at used
          exact inv.owned sid' used
      · rintro r ⟨_, _, _, _, event, _⟩
        cases event
    · exact inv

theorem Agreed.step_read (inv : Agreed nick s) {sent reconnects : Bool} (undisputed : Undisputed cfg nick s (.read sent reconnects)) :
    Agreed nick (Dialogue.step cfg nick s (.read sent reconnects)) := by
  simp only [Dialogue.step]
  split
  · exact inv
  · next line bytes rest unread =>
    split
    · exact inv
    · obtain ⟨greeted, reader, same⟩ := read_line_frame s bytes sent reconnects
      have reads : reader = (read_line s bytes sent reconnects).reader := by rw [same]
      rw [same]
      exact inv.same rfl rfl rfl rfl inv.owned
        (fun r way => way.read unread (undisputed line bytes rest unread) rfl rfl rfl reads)

/-- What is taken for the outcome of a call is justified by the reply that was on its way. -/
theorem Agreed.justified (inv : Agreed nick s) {msg : Message} {response : Response} (queued : msg ∈ s.reader.message_queue)
    (waits : s.daemon.Open id action task_id object) (taken : Loop.takes nick s.daemon.requests msg object response)
    (full : tagged msg = true) : Justified s id action task_id response := by
  obtain ⟨r, tags, key, told⟩ := taken_reply inv.calls inv.numbered waits taken full
  have concerns : Concerns nick r := by
    rcases told with ⟨failed, _⟩ | ⟨success, self, _⟩
    · exact .inl failed
    · exact .inr ⟨success, self⟩
  have way : UnderWay s r := .message msg queued tags
  obtain ⟨x, answers⟩ := inv.answers id action task_id object waits r way concerns key
  exact answers.justified key told

theorem Agreed.step_take (inv : Agreed nick s) {address : Nat} {restarted : Option Nat}
    (undisputed : Undisputed cfg nick s (.take address restarted)) : Agreed nick (Dialogue.step cfg nick s (.take address restarted)) := by
  simp only [Dialogue.step]
  split
  · exact inv
  · next msg rest queued =>
    split
    · refine inv.loop (.message address msg restarted) rfl rfl rfl rfl inv.owned (fun r way => way.same rfl rfl rfl ?_)
        (fun _ _ _ _ event => by cases event) ?_
      · rw [queued]; exact List.subset_cons_self msg rest
      · intro id action task_id object response address' msg' restarted' event waits taken
        cases event
        exact inv.justified (by rw [queued]; exact List.mem_cons_self) waits taken
          (undisputed msg rest object response queued taken waits.2)
    · exact inv

/-- An event of the loop that makes no call and takes no message. -/
theorem Agreed.step_calm (inv : Agreed nick s) {e : Loop.Event} (other : ∀ id request connected, e ≠ .call id request connected)
    (quiet : ∀ address msg restarted, e ≠ .message address msg restarted)
    (same : Dialogue.step cfg nick s (.loop e) = { s with daemon := Loop.step nick s.daemon e }) :
    Agreed nick (Dialogue.step cfg nick s (.loop e)) := by
  rw [same]
  exact inv.loop _ rfl rfl rfl rfl inv.owned (fun r way => way.same rfl rfl rfl (List.Subset.refl _))
    (fun _ _ _ _ event => absurd event (other _ _ _)) (fun _ _ _ _ _ _ _ _ event => absurd event (quiet _ _ _))

theorem Agreed.step_loop (inv : Agreed nick s) (e : Loop.Event) (undisputed : Undisputed cfg nick s (.loop e)) :
    Agreed nick (Dialogue.step cfg nick s (.loop e)) := by
  cases e with
  | call id request connected =>
    have posted := posted_call cfg nick s id request connected
    refine inv.loop (.call id request (connected && s.link.isSome)) posted.server posted.daemon posted.executed
      posted.dialled (posted.owned inv.owned)
      (fun r way => way.same posted.server posted.link posted.read posted.queue) ?_
      (fun _ _ _ _ _ _ _ _ event => by cases event)
    intro id action task_id connected event unstarted free r way concerns
    cases event
    exact undisputed unstarted free r way concerns
  | message address msg restarted => exact inv
  | drained id succeeds => exact inv.step_calm (fun _ _ _ event => by cases event) (fun _ _ _ event => by cases event) rfl
  | resume id timed_out => exact inv.step_calm (fun _ _ _ event => by cases event) (fun _ _ _ event => by cases event) rfl
  | finalize object => exact inv.step_calm (fun _ _ _ event => by cases event) (fun _ _ _ event => by cases event) rfl
  | buffer e => exact inv.step_calm (fun _ _ _ event => by cases event) (fun _ _ _ event => by cases event) rfl

theorem Agreed.step (inv : Agreed nick s) (e : Event) (undisputed : Undisputed cfg nick s e) :
    Agreed nick (step cfg nick s e) := by
  cases e with
  | server e => exact inv.step_server e undisputed
  | dial sid => exact inv.step_dial sid
  | write line =>
    have posted := posted_write s line none
    exact inv.same posted.server posted.daemon posted.executed posted.dialled (posted.owned inv.owned)
      (fun r way => way.same posted.server posted.link posted.read posted.queue)
  | arrive sid => exact inv.step_arrive sid
  | read sent reconnects => exact inv.step_read undisputed
  | take address restarted => exact inv.step_take undisputed
  | loop e => exact inv.step_loop e undisputed

/-! ## Whole runs -/

theorem agreed_start (db : Db) : Agreed nick (start db) where
  held := Concurrent.held_start db
  spoken sid x inside := by cases inside
  unqueued sid _ := by
    refine ⟨?_, rfl⟩
    intro alive
    cases alive
  calls := Loop.inv_run nick _ _ []
  numbered := by
    refine ⟨?_, ?_⟩
    · intro kind key object found
      cases found
    · intro kind key kind' key' object found
      cases found
  owned sid used := by
    rcases used with linked | written | serves
    · cases linked
    · exact absurd rfl written
    · cases serves
  answers id action task_id object waits := by
    rcases waits.1 with sending | waiting
    · cases sending
    · cases waiting
  told := by
    refine ⟨?_, ?_⟩
    · rintro id action task_id object response (sending | waiting)
      · cases sending
      · cases waiting
    · intro id action task_id response ended
      cases ended

/-- In every run without a dispute, a call of a claim or a done that returns a response
    has had its command executed for the daemon's principal, with that outcome. -/
theorem results_agree (cfg : Config) (nick : Text) (db : Db) (events : List Event)
    (undisputed : AllSteps (step cfg nick) (Undisputed cfg nick) (start db) events) (id : Nat) (action : Action) (task_id : Text)
    (response : Response)
    (ended : (run (step cfg nick) (start db) events).daemon.calls id = .ended (.task_action action task_id) (.response response)) :
    Justified (run (step cfg nick) (start db) events) id action task_id response := by
  have agreed : Agreed nick (run (step cfg nick) (start db) events) :=
    run_invariant_of (fun s e inv here => inv.step e here) events (agreed_start db) undisputed
  exact agreed.told.results id action task_id response ended

/-! ### A task of Bob -/

/-- Bob has claimed a task until 100. -/
def held_by_bob : Db :=
  { both_in_c with
    tasks := ⟨[⟨⟨"t1".toList, "#c".toList, "fix".toList, .Claimed, some "bob".toList, some 100⟩, 0, 0⟩], by decide⟩ }

/-- The server reads a command of the daemon and runs the next sections for it, at some
    time and under one id. -/
def serves (uuid n : Nat) (now : Int) : List Event :=
  .arrive 0 :: List.replicate n (.server (.run 0 { moment uuid with now := now }))

def reads (n : Nat) : List Event := List.replicate n (.read true true)

/-- The daemon takes a message while no Claude process runs. -/
def takes (address : Nat) : List Event := [.take address none, .loop (.buffer .take)]

/-- Alice dials, and claims the task at once. -/
def dials : List Event := [.dial 0, .write "PASS a".toList, .write "NICK alice".toList]

/-- The server answers after the lease of Bob, and the call returns. -/
def claims : List Event :=
  [.loop (.drained 0 true)] ++ serves 1 1 0 ++ serves 2 10 0 ++ serves 3 10 200 ++ reads 5 ++ takes 0 ++ takes 1 ++
    [.loop (.resume 0 false)]

/-- No call is made but the first one, the server answers no other, and nothing
    without tags is taken for its outcome. -/
def lone (cfg : Config) (nick : Text) (s : State) : Event → Bool
  | .server (.run sid env) =>
    decide (s.serving sid = some 0) || decide ((s.server.threads sid).head?.bind (answered cfg s.server.world env) = none)
  | .read _ _ => s.unread.head?.all (fun next => decide ('\n' ∉ next.1.text))
  | .take _ _ => s.reader.message_queue.head?.all (fun msg => (action_outcome nick s.daemon.requests msg).isNone || tagged msg)
  | .loop (.call _ _ _) => false
  | _ => true

/-- Of the calls, none but the first is live. -/
def Lonely (s : State) : Prop := ∀ id request object, s.daemon.Live id request object → id = 0

theorem daemon_step (cfg : Config) (nick : Text) (s : State) (e : Event) :
    (step cfg nick s e).daemon = s.daemon ∨ ∃ e', (step cfg nick s e).daemon = Loop.step nick s.daemon e' ∧
      ∀ id request connected, e' = .call id request connected → lone cfg nick s e = false := by
  cases e with
  | server e =>
    left
    cases e with
    | receive sid command => simp only [step]; split <;> rfl
    | _ => rfl
  | dial sid => left; simp only [step]; split <;> rfl
  | write line => exact .inl (posted_write s line none).daemon
  | arrive sid =>
    left
    simp only [step]
    split
    · rfl
    · split <;> rfl
  | read sent reconnects =>
    left
    simp only [step]
    split
    · rfl
    · split
      · rfl
      · obtain ⟨_, _, same⟩ := read_line_frame s _ sent reconnects
        rw [same]
  | take address restarted =>
    simp only [step]
    split
    · exact .inl rfl
    · next msg rest _ =>
      split
      · exact .inr ⟨.message address msg restarted, rfl, fun _ _ _ event => by cases event⟩
      · exact .inl rfl
  | loop e =>
    cases e with
    | call id request connected =>
      exact .inr ⟨.call id request (connected && s.link.isSome), (posted_call cfg nick s id request connected).daemon,
        fun _ _ _ _ => rfl⟩
    | message address msg restarted => exact .inl rfl
    | drained id succeeds => exact .inr ⟨.drained id succeeds, rfl, fun _ _ _ event => by cases event⟩
    | resume id timed_out => exact .inr ⟨.resume id timed_out, rfl, fun _ _ _ event => by cases event⟩
    | finalize object => exact .inr ⟨.finalize object, rfl, fun _ _ _ event => by cases event⟩
    | buffer e => exact .inr ⟨.buffer e, rfl, fun _ _ _ event => by cases event⟩

theorem Lonely.step {e : Event} (lonely : Lonely s) (alone : lone cfg nick s e = true) : Lonely (step cfg nick s e) := by
  intro id request object live
  rcases daemon_step cfg nick s e with same | ⟨e', advanced, calls⟩
  · rw [same] at live
    exact lonely id request object live
  · rw [advanced] at live
    rcases Loop.live_step (Loop.step_effect nick s.daemon e') live with old | ⟨_, _, _, _, connected, event, _⟩
    · exact lonely id request object old
    · rw [calls id request connected event] at alone
      cases alone

theorem Lonely.undisputed {e : Event} (lonely : Lonely s) (alone : lone cfg nick s e = true) : Undisputed cfg nick s e := by
  cases e with
  | server e =>
    cases e with
    | run sid env =>
      intro here rest r head answers _ _ id action task_id object waits _
      obtain rfl := lonely id _ object waits.1
      rcases Bool.or_eq_true_iff.mp alone with serves | silent
      · exact of_decide_eq_true serves
      · have none := of_decide_eq_true silent
        rw [head, List.head?_cons, Option.bind_some, answers] at none
        cases none
    | _ => trivial
  | read sent reconnects =>
    intro line bytes rest unread
    rw [lone, unread] at alone
    exact of_decide_eq_true alone
  | take address restarted =>
    rintro msg rest object response queued ⟨_, _, told⟩ _
    rw [lone, queued, List.head?_cons, Option.all_some, told] at alone
    exact alone
  | loop e =>
    cases e with
    | call id request connected => cases alone
    | _ => trivial
  | _ => trivial

/-- A run that goes on with no other call than the first one. -/
theorem undisputed_of_lone {events : List Event} (lonely : Lonely s)
    (alone : AllSteps (step cfg nick) (fun s e => lone cfg nick s e = true) s events) :
    AllSteps (step cfg nick) (Undisputed cfg nick) s events :=
  allSteps_mono_of (fun _ _ lonely alone => lonely.step alone) (fun _ _ lonely alone => lonely.undisputed alone) events
    lonely alone

def alice_dials : State := run (step plain "alice".toList) (start held_by_bob) dials

/-- No reply is on its way when the call begins. -/
theorem quiet_alice_dials (r : Reply) : ¬ UnderWay alice_dials r := by
  intro way
  cases way with
  | task sid x inside carries home => cases (show x ∈ [] from inside)
  | line line bytes inside carries =>
    have welcome : ∀ next ∈ alice_dials.unread, next.1 = .Welcome := by decide +kernel
    rw [show line = .Welcome from welcome _ inside] at carries
    cases carries
  | message msg inside carries => cases (show msg ∈ [] from inside)

theorem lonely_alice_dials : Lonely (step plain "alice".toList alice_dials (.loop (.call 0 Loop.claiming true))) := by
  have calls : (step plain "alice".toList alice_dials (.loop (.call 0 Loop.claiming true))).daemon.calls =
      Function.update (fun _ => .unstarted) 0 (.sending Loop.claiming 0) := rfl
  intro id request object live
  rw [Loop.Live, calls] at live
  by_contra other
  simp [Function.update_of_ne other] at live

def claimed : State :=
  run (step plain "alice".toList) (start held_by_bob) (dials ++ [.loop (.call 0 Loop.claiming true)] ++ claims)

/-- The rest of the run makes no other call, and the first one returns. -/
theorem alone_claims :
    AllSteps (step plain "alice".toList) (fun s e => lone plain "alice".toList s e = true)
      (step plain "alice".toList alice_dials (.loop (.call 0 Loop.claiming true))) claims ∧
    claimed.daemon.calls 0 = .ended Loop.claiming (.response (.outcome .claimed "TASK t1 claimed by alice: fix".toList)) := by
  decide +kernel

theorem results_agree_claimed : ∃ content,
    claimed.daemon.calls 0 = .ended Loop.claiming (.response (.outcome .claimed content)) ∧
    Justified claimed 0 .claim "t1".toList (.outcome .claimed content) := by
  obtain ⟨alone, ended⟩ := alone_claims
  have undisputed : AllSteps (step plain "alice".toList) (Undisputed plain "alice".toList) (start held_by_bob)
      (dials ++ [.loop (.call 0 Loop.claiming true)] ++ claims) := by
    have begins : Undisputed plain "alice".toList alice_dials (.loop (.call 0 Loop.claiming true)) :=
      fun _ _ r way => (quiet_alice_dials r way).elim
    have calm : AllSteps (step plain "alice".toList) (Undisputed plain "alice".toList) (start held_by_bob) dials :=
      ⟨trivial, trivial, trivial, trivial⟩
    rw [List.append_assoc, allSteps_append]
    exact ⟨calm, begins, undisputed_of_lone lonely_alice_dials alone⟩
  refine ⟨_, ended, ?_⟩
  unfold claimed at ended ⊢
  exact results_agree plain "alice".toList held_by_bob _ undisputed 0 .claim "t1".toList _ ended

/-- The wait of a first call is over before its refusal is read, and a second call for
    the same task begins. -/
def retries : List Event :=
  dials ++ serves 1 1 0 ++ serves 2 10 0 ++ reads 4 ++ takes 0 ++ [.loop (.call 0 Loop.claiming true), .loop (.drained 0 true)] ++
    serves 3 10 50 ++ [.loop (.resume 0 true), .loop (.call 1 Loop.claiming true), .loop (.drained 1 true)] ++ serves 4 10 200 ++
    reads 1 ++ takes 1 ++ [.loop (.resume 1 false)]

def retried : State := run (step plain "alice".toList) (start held_by_bob) retries

/-- The second call returns the refusal of the first one, though the server has
    accepted its own command and Alice holds the task. -/
theorem results_disagree :
    retried.daemon.calls 1 =
      .ended Loop.claiming (.response (.outcome .failed "TASK CLAIM t1 failed: task is already claimed or done".toList)) ∧
    retried.executed.map (fun x => (x.call, x.accepted)) = [(0, false), (1, true)] ∧
    (retried.server.world.db.tasks.find "t1".toList).map (fun row => (row.status, row.claimed_by)) =
      some (.Claimed, some "alice".toList) ∧
    ¬ Justified retried 1 .claim "t1".toList
      (.outcome .failed "TASK CLAIM t1 failed: task is already claimed or done".toList) := by
  have happens : retried.daemon.calls 1 =
        .ended Loop.claiming (.response (.outcome .failed "TASK CLAIM t1 failed: task is already claimed or done".toList)) ∧
      retried.executed.map (fun x => (x.call, x.accepted)) = [(0, false), (1, true)] ∧
      (retried.server.world.db.tasks.find "t1".toList).map (fun row => (row.status, row.claimed_by)) =
        some (.Claimed, some "alice".toList) := by
    decide +kernel
  obtain ⟨ended, executed, holder⟩ := happens
  refine ⟨ended, executed, holder, ?_⟩
  rintro ⟨⟨x, inside, call, _, _, _, _, refused⟩, _⟩
  have listed : (x.call, x.accepted) ∈ [(0, false), (1, true)] := executed ▸ List.mem_map_of_mem inside
  rw [call, refused] at listed
  exact absurd listed (by decide)

end Aircd.Dialogue

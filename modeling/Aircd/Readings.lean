import Aircd.Cleanup
import Aircd.Notices

/-!
# Two readings of an outcome

The reader loop reads the outcome of a task action from the tags of a notice, or
from its body where there are none, as in a replay. Both readings name the same
request and the same outcome.
-/
namespace Aircd.Concurrent
open Aircd.Runs Aircd.Text Aircd.Auth Aircd.History Aircd.Tasks Aircd.Store Aircd.Server

/-! ## The notices of task operations -/

/-- The event of an operation, its refusal, or that of a creation without a title. -/
inductive TaskNotice : ServerLine → Prop where
  | event {message : StoredMessage} {task : Task} {actor : Text} (kind : Kind)
      (body : message.body = task_body task (what_of kind) actor) :
      TaskNotice (.TaskEvent message task (action_of kind) "success".toList actor)
  | refusal (kind : Kind) (task_id actor error : Text) : TaskNotice (.TaskFailed (action_of kind) task_id actor
      ("TASK ".toList ++ command_of kind ++ [' '] ++ task_id ++ " failed: ".toList ++ error))
  | title_required (nick : Text) : TaskNotice (.TitleRequired nick)

/-- The lines that a section leads to are notices. -/
def Section.Notices : Section → Prop
  | .send line => TaskNotice line
  | .forward _ line => TaskNotice line
  | .broadcast_raw _ line => TaskNotice line
  | .append _ _ body notice => ∀ message : StoredMessage, message.body = body → TaskNotice (notice.line message)
  | .broadcast_message _ message notice => TaskNotice (notice.line message)
  | .deliver _ message notice _ => TaskNotice (notice.line message)
  | _ => True

/-- What has the tags of a task event is a notice. -/
structure Noticed (s : System) : Prop where
  sections : ∀ sid, ∀ x ∈ s.threads sid, ∀ r ∈ x.reply, x.Notices
  lines : ∀ sid, ∀ line ∈ (s.world.connections sid).lines, ∀ r ∈ line_reply line, TaskNotice line

variable {cfg : Config} {s : System} {w : World} {env : Env} {sid : SessionId} {x here : Section} {r : Reply}

theorem notices_perform (notices : ∀ r ∈ here.reply, here.Notices) (inside : x ∈ (perform cfg w env sid here).2)
    (carries : x.reply = some r) : x.Notices := by
  rcases reply_perform inside carries with ⟨before, away⟩ | ⟨answers, _⟩
  · have leads := notices r before
    cases here with
    | send line => cases away
    | forward client line => cases inside
    | broadcast_raw channel line =>
      obtain ⟨recipient, _, rfl⟩ := List.mem_map.mp inside
      exact leads
    | append channel sender_id body notice =>
      rw [List.mem_singleton.mp inside]
      exact leads _ rfl
    | broadcast_message channel message notice =>
      obtain ⟨recipient, _, rfl⟩ := List.mem_map.mp inside
      exact leads
    | deliver channel message notice recipient =>
      rw [perform_deliver] at inside
      dsimp only at inside
      split at inside
      · rw [List.mem_singleton.mp inside]
        trivial
      · cases inside
    | _ => cases before
  · obtain ⟨⟨principal, op⟩, operates, _⟩ := Option.map_eq_some_iff.mp answers
    have result := (@perform_operation cfg w env sid here principal op operates).2
    cases outcome : (Tasks.perform cfg.lease_seconds w.db.tasks op).2 with
    | ok task =>
      rw [outcome] at result
      dsimp only at result
      rw [result] at inside
      rw [List.mem_singleton.mp inside]
      exact fun _ body => .event op.kind body
    | error error =>
      rw [outcome] at result
      rcases result with leaves | refuses
      · rw [leaves] at inside
        rw [List.mem_singleton.mp inside] at carries
        cases carries
      · rw [refuses] at inside
        rw [List.mem_singleton.mp inside]
        exact .refusal op.kind op.id principal.nick error

theorem Section.Notices.sends {target : SessionId} {line : ServerLine} (notices : x.Notices) (sends : x.sends sid = some (target, line)) :
    TaskNotice line := by
  cases x with
  | send line' => cases sends; exact notices
  | forward client line' => cases sends; exact notices
  | deliver channel message notice recipient => cases sends; exact notices
  | _ => cases sends

theorem Noticed.step {e : Event} (inv : Noticed s) : Noticed (step cfg s e) where
  sections := by
    intro sid x inside r carries
    rcases threads_step cfg s e sid with same | ⟨env, here, rest, rfl, head, next⟩ | ⟨_, _, begins⟩ | ⟨_, empty⟩
    · rw [same] at inside
      exact inv.sections sid x inside r carries
    · rw [next] at inside
      rcases List.mem_append.mp inside with new | later
      · exact notices_perform (inv.sections sid here (by rw [head]; exact List.mem_cons_self)) new carries
      · exact inv.sections sid x (by rw [head]; exact List.mem_cons_of_mem here later) r carries
    · rw [begins.reply inside] at carries; cases carries
    · rw [empty] at inside; cases inside
  lines := by
    intro sid line inside r carries
    rcases stepped cfg s e with ⟨task, env, here, rest, rfl, head⟩ | idle | notRun
    · rw [step_run head, world_resume, lines_perform] at inside
      rcases List.mem_append.mp inside with old | new
      · exact inv.lines sid line old r carries
      · obtain ⟨⟨target, sent⟩, queued, rfl⟩ := List.mem_map.mp new
        have sends := (Option.filter_eq_some_iff.mp (Option.mem_toList.mp queued)).1
        have replies : here.reply = some r := (reply_sends sends).1.symm.trans carries
        exact (inv.sections task here (by rw [head]; exact List.mem_cons_self) r replies).sends sends
    · rw [idle] at inside; exact inv.lines sid line inside r carries
    · obtain ⟨more, lines, welcome⟩ := lines_step_other cfg s sid notRun
      rw [lines] at inside
      rcases List.mem_append.mp inside with old | new
      · exact inv.lines sid line old r carries
      · rw [welcome line new] at carries; cases carries

/-- Every line of a run that tells of a task operation is one of the notices. -/
theorem noticed_run (cfg : Config) (db : Db) (events : List Event) : Noticed (run (Concurrent.step cfg) (start db) events) := by
  apply run_invariant (fun _ _ inv => inv.step) events
  refine ⟨?_, ?_⟩
  · intro sid x inside
    cases inside
  · intro sid line inside
    cases inside

/-- A notice of a task operation, or any line of a run that has the tags of a task event. -/
def Emitted (line : ServerLine) : Prop :=
  TaskNotice line ∨ ∃ (cfg : Config) (db : Db) (events : List Event) (sid : SessionId),
    line ∈ ((run (Concurrent.step cfg) (start db) events).world.connections sid).lines ∧ (line_reply line).isSome = true

theorem Emitted.notice {line : ServerLine} (emitted : Emitted line) : TaskNotice line := by
  rcases emitted with notice | ⟨cfg, db, events, sid, queued, tells⟩
  · exact notice
  · exact (noticed_run cfg db events).lines sid line queued _ (Option.some_get tells).symm

end Aircd.Concurrent

namespace Aircd.Client
open Aircd.Runs Aircd.Text Aircd.Regex Aircd.History Aircd.Store Aircd.Tasks
open Aircd.Daemon hiding Kind
open Aircd.Concurrent (action_of what_of Emitted)
open Aircd.Server (ServerLine format_message_tags format_line task_tags title_tag task_body text_task_event text_task_failed)

/-- The names in the notice are words for Python as well, and its actor has a nick without a colon. -/
def PlainNames : ServerLine → Prop
  | .TaskEvent _ task _ _ actor => (∀ c ∈ task.id, pythonSpace c = false) ∧ Target task.channel ∧ Solid actor ∧ ':' ∉ actor
  | .TaskFailed _ task_id actor _ => (∀ c ∈ task_id, pythonSpace c = false) ∧ Solid actor ∧ ':' ∉ actor
  | _ => True

/-- The participle of an operation in the body of its event. -/
def verb_of : Kind → Text
  | .create => "created".toList
  | .claim => "claimed".toList
  | .done => "completed".toList
  | .release => "released".toList

variable {nick : Text} {r : Requests} {msg bare : Message}

/-! ## Bodies -/

/-- `by\s+(\S+?):`. -/
theorem matchHere_by {actor : Text} (solid : Solid actor) (plain : ':' ∉ actor) (t : Text) :
    matchHere [letters "by", one_space, group (.repeated 1 false (fun c => !pythonSpace c)), letters ":"]
      ("by ".toList ++ actor ++ ':' :: ' ' :: t) = some [actor] := by
  have text : "by ".toList ++ actor ++ ':' :: ' ' :: t = "by".toList ++ ' ' :: (actor ++ ':' :: ' ' :: t) := by simp
  have until_space : (actor ++ ':' :: ' ' :: t).takeWhile (fun c => !pythonSpace c) = actor ++ [':'] := by
    rw [List.takeWhile_append_of_pos (by simpa using solid.2), List.takeWhile_cons_of_pos (by decide),
      List.takeWhile_cons_of_neg (by decide)]
  have no_colon (m : Nat) (short : m ≤ actor.length + 1) (other : m ≠ actor.length) :
      matchHere [letters ":"] ((actor ++ ':' :: ' ' :: t).drop m) = none := by
    refine matchHere_word_none ?_
    rintro ⟨more, begins⟩
    rcases Nat.lt_or_ge m actor.length with inside | behind
    · rw [List.drop_append_of_le_length inside.le, List.drop_eq_getElem_cons inside] at begins
      have colon : ':' = actor[m] := (List.cons.inj begins).1
      exact plain (colon ▸ List.getElem_mem inside)
    · obtain rfl : m = actor.length + 1 := by omega
      have rest : (actor ++ ':' :: ' ' :: t).drop (actor.length + 1) = ' ' :: t := by simp [List.drop_append]
      rw [rest] at begins
      cases begins
  have only := @matchHere_repeated _ _ [letters ":"] (actor ++ ':' :: ' ' :: t) 1 false true (fun c => !pythonSpace c)
    actor.length (List.length_pos_iff.mpr solid.1) (by rw [until_space]; simp) (by
      intro m _ short other
      rw [until_space, List.length_append, List.length_singleton] at short
      exact no_colon m short other)
  rw [text, letters, matchHere_word, matchHere_space (flush_of_solid solid _), group, only, List.drop_left, List.take_left]
  rfl

/-- The body of an event, up to a line feed in its title. -/
def event_body (kind : Kind) (task_id actor title : Text) : Text :=
  "TASK ".toList ++ task_id ++ ' ' :: (verb_of kind ++ ' ' :: ("by ".toList ++ actor ++ ':' :: ' ' :: title))

/-- The body of a refusal, up to a line feed in its error. -/
def refusal_body (kind : Kind) (task_id error : Text) : Text :=
  "TASK ".toList ++ Concurrent.command_of kind ++ ' ' :: (task_id ++ ' ' :: ("failed:".toList ++ ' ' :: error))

theorem solid_verb (kind : Kind) : Solid (verb_of kind) := by cases kind <;> decide

theorem solid_command (kind : Kind) : Solid (Concurrent.command_of kind) := by cases kind <;> decide

theorem flush_by (t : Text) : Flush ("by ".toList ++ t) := by
  intro c first
  cases first
  decide

theorem body_failure_event (kind : Kind) {task_id actor : Text} (id : Solid task_id) (title : Text) :
    body_failure (event_body kind task_id actor title) = none := by
  have other : matchHere [letters "failed", plain (.one (fun c => pythonSpace c || c == ':'))]
      ("by ".toList ++ actor ++ ':' :: ' ' :: title) = none := by
    refine matchHere_word_none ?_
    rintro ⟨more, begins⟩
    cases begins
  have groups : matchHere failure_pattern (event_body kind task_id actor title) = none := by
    rw [event_body, matchHere_failure id (solid_verb kind) (by rw [List.append_assoc]; exact flush_by _), other]
    split
    · rfl
    · rfl
  rw [body_failure, groups]

theorem body_success_event (nick : Text) (kind : Kind) {task_id actor : Text} (id : Solid task_id) (solid : Solid actor)
    (plain : ':' ∉ actor) (title : Text) :
    body_success nick (event_body kind task_id actor title) = match kind with
      | .claim => if actor = nick then
          some (action_key "claim".toList task_id, .outcome .claimed (event_body .claim task_id actor title)) else none
      | .done => if actor = nick then
          some (action_key "done".toList task_id, .outcome .done (event_body .done task_id actor title)) else none
      | _ => none := by
  have groups : matchHere success_pattern (event_body kind task_id actor title) =
      if verb_of kind ∈ ["claimed".toList, "completed".toList] then some [task_id, verb_of kind, actor] else none := by
    rw [event_body, matchHere_success id (solid_verb kind) (by rw [List.append_assoc]; exact flush_by _),
      matchHere_by solid plain]
    rfl
  unfold body_success
  rw [groups]
  cases kind with
  | create => rfl
  | claim => rfl
  | done => rfl
  | release => rfl

theorem body_failure_refusal (kind : Kind) {task_id : Text} (id : Solid task_id) (error : Text) :
    body_failure (refusal_body kind task_id error) = match kind with
      | .claim => some (action_key "claim".toList task_id, .outcome .failed (refusal_body .claim task_id error))
      | .done => some (action_key "done".toList task_id, .outcome .failed (refusal_body .done task_id error))
      | _ => none := by
  have colon : matchHere [letters "failed", plain (.one (fun c => pythonSpace c || c == ':'))]
      ("failed:".toList ++ ' ' :: error) = some [] := by
    have text : "failed:".toList ++ ' ' :: error = "failed".toList ++ ':' :: ' ' :: error := rfl
    have one : (Piece.one (fun c => pythonSpace c || c == ':')).Accepts [':'] :=
      ⟨le_rfl, List.forall_mem_singleton.mpr (by decide)⟩
    rw [text, letters, matchHere_word]
    exact matchHere_plain one (' ' :: error)
  have groups : matchHere failure_pattern (refusal_body kind task_id error) =
      if Concurrent.command_of kind ∈ ["CLAIM".toList, "DONE".toList] then some [Concurrent.command_of kind, task_id] else none := by
    rw [refusal_body, matchHere_failure (solid_command kind) id (flush_of_solid (by decide) _), colon]
    rfl
  rw [body_failure, groups]
  cases kind with
  | create => rfl
  | claim => rfl
  | done => rfl
  | release => rfl

theorem body_success_refusal (nick : Text) (kind : Kind) {task_id : Text} (id : Solid task_id) (error : Text) :
    body_success nick (refusal_body kind task_id error) = none := by
  have other : matchHere [letters "by", one_space, group (.repeated 1 false (fun c => !pythonSpace c)), letters ":"]
      ("failed:".toList ++ ' ' :: error) = none := by
    refine matchHere_word_none ?_
    rintro ⟨more, begins⟩
    cases begins
  have groups : matchHere success_pattern (refusal_body kind task_id error) = none := by
    rw [refusal_body, matchHere_success (solid_command kind) id (flush_of_solid (by decide) _), other]
    split
    · rfl
    · rfl
  unfold body_success
  rw [groups]

/-! ## Requests -/

/-- The registered actions are claims and completions. -/
def Registered (r : Requests) : Prop :=
  ∀ key object, r.get .task_action key = some object → ∃ (action : Action) (task_id : Text), key = action_key action.text task_id

theorem Registered.step {s : Loop} (registered : Registered s.requests) (e : Loop.Event) :
    Registered (Loop.step nick s e).requests := by
  intro key object found
  have kept {requests : Requests} (same : requests = s.requests) (found : requests.get .task_action key = some object) :
      ∃ (action : Action) (task_id : Text), key = action_key action.text task_id := registered key object (same ▸ found)
  cases Loop.step_effect nick s e with
  | same _ maps _ =>
    rw [Requests.get, maps] at found
    exact registered key object found
  | refused _ _ _ _ _ requests => exact kept requests found
  | registered id request connected _ _ _ _ requests =>
    rw [requests, Loop.get_register] at found
    split at found
    · next here =>
      obtain ⟨kind, rfl⟩ := here
      cases request with
      | task_action action task_id => exact ⟨action, task_id, rfl⟩
      | _ => cases kind
    · exact registered key object found
  | drained _ _ _ _ _ _ _ requests => exact kept requests found
  | resumed id request _ _ _ _ _ requests =>
    rw [requests, Loop.get_pop] at found
    split at found
    · cases found
    · exact registered key object found

/-- The daemon has just started. -/
def opened : Loop := Loop.opening ⟨fun _ => Table.empty, fun _ => ⟨[], false, false⟩, 0⟩ Daemon.start

theorem registered_run (nick : Text) (events : List Loop.Event) : Registered (run (Loop.step nick) opened events).requests :=
  @run_invariant _ _ (Loop.step nick) (fun s => Registered s.requests) (fun _ e registered => registered.step e) events opened
    (fun _ _ found => by cases found)

theorem unregistered (registered : Registered r) {kind : Kind} (other : kind = .create ∨ kind = .release) (task_id : Text) :
    r.get .task_action (action_key (action_of kind) task_id) = none := by
  cases found : r.get .task_action (action_key (action_of kind) task_id) with
  | none => rfl
  | some object =>
    obtain ⟨action, task_id', same⟩ := registered _ object found
    rcases other with rfl | rfl
    · cases action <;> cases same
    · cases action <;> cases same

/-! ## What is read of a notice -/

/-- The first line of a tagged notice. -/
theorem message_first_line {tags : List (Text × Text)} (plain : PlainKeys (tags.map Prod.fst)) {target body : Text}
    (named : Target target) (nonempty : first_line body ≠ [])
    (read : message (first_line (format_message_tags tags ++ [' '] ++ format_line SERVER_NAME ("NOTICE ".toList ++ target) body)) =
      some msg) : msg.sender = SERVER_NAME ∧ msg.content = first_line body ∧ msg.tags = dict tags plain := by
  rw [first_line_tagged plain, first_line_notice named, message_tagged_notice plain named nonempty rfl, Option.some.injEq] at read
  rw [← read]
  exact ⟨rfl, rfl, rfl⟩

theorem first_line_event (kind : Kind) {task : Task} {actor : Text} (id : ∀ c ∈ task.id, pythonSpace c = false) (solid : Solid actor) :
    first_line (task_body task (what_of kind) actor) = event_body kind task.id actor (first_line task.title) := by
  have parts : task_body task (what_of kind) actor =
      ("TASK ".toList ++ task.id ++ what_of kind ++ actor ++ [':']) ++ ' ' :: task.title := by
    unfold task_body
    simp only [List.append_assoc]
    rfl
  have clean : '\n' ∉ "TASK ".toList ++ task.id ++ what_of kind ++ actor ++ [':'] := by
    simp only [List.mem_append, not_or]
    exact ⟨⟨⟨⟨by decide, no_line_feed id⟩, by cases kind <;> decide⟩, no_line_feed solid.2⟩, by decide⟩
  have what : what_of kind = ' ' :: (verb_of kind ++ ' ' :: "by ".toList) := by cases kind <;> rfl
  rw [parts, first_line_append clean, event_body, what]
  simp only [List.append_assoc, List.cons_append, List.nil_append]

theorem first_line_refusal (kind : Kind) {task_id : Text} (id : ∀ c ∈ task_id, pythonSpace c = false) (error : Text) :
    first_line ("TASK ".toList ++ Concurrent.command_of kind ++ [' '] ++ task_id ++ " failed: ".toList ++ error) =
      refusal_body kind task_id (first_line error) := by
  have parts : "TASK ".toList ++ Concurrent.command_of kind ++ [' '] ++ task_id ++ " failed: ".toList ++ error =
      ("TASK ".toList ++ Concurrent.command_of kind ++ [' '] ++ task_id ++ " failed:".toList) ++ ' ' :: error := by
    simp only [List.append_assoc]
    rfl
  have clean : '\n' ∉ "TASK ".toList ++ Concurrent.command_of kind ++ [' '] ++ task_id ++ " failed:".toList := by
    simp only [List.mem_append, not_or]
    exact ⟨⟨⟨⟨by decide, no_line_feed (solid_command kind).2⟩, by decide⟩, no_line_feed id⟩, by decide⟩
  rw [parts, first_line_append clean, refusal_body]
  simp only [List.append_assoc, List.cons_append, List.nil_append]
  rfl

theorem nonempty_of_task {rest : Text} : "TASK ".toList ++ rest ≠ [] := by simp

/-! ## The two readings -/

/-- The pending request of an outcome, with the response. -/
def awaited (r : Requests) (outcome : Option (Text × Response)) : Option (Nat × Response) :=
  outcome.bind (fun (key, response) => (r.get .task_action key).map (fun object => (object, response)))

/-- No creation and no release is waited for. -/
theorem awaited_other (registered : Registered r) {kind : Kind} (other : kind = .create ∨ kind = .release) (task_id : Text)
    (response : Response) : awaited r (some (action_key (action_of kind) task_id, response)) = none := by
  rw [awaited, Option.bind_some]
  dsimp only
  rw [unregistered registered other]
  rfl

/-- Without tags only the sender and the body are read. -/
theorem outcome_congr (content : bare.content = msg.content) (sender : bare.sender = msg.sender)
    (untagged : tagged msg = false) (untagged' : tagged bare = false) :
    action_outcome nick r msg = action_outcome nick r bare := by
  simp [action_outcome, from_server, content, sender, untagged, untagged']

/-- The readings of a message of the server agree if the tags agree with the body. -/
theorem outcome_agrees (sent : msg.sender = SERVER_NAME) (content : bare.content = msg.content) (sender : bare.sender = msg.sender)
    (untagged : tagged bare = false)
    (same : tagged msg = true → awaited r (tag_outcome nick msg) =
      (awaited r (body_failure msg.content)).or (awaited r (body_success nick msg.content))) :
    action_outcome nick r msg = action_outcome nick r bare := by
  have server : from_server msg = true := by rw [from_server, sent]; rfl
  have server' : from_server bare = true := by rw [from_server, sender, sent]; rfl
  by_cases full : tagged msg = true
  · have by_tags : action_outcome nick r msg = awaited r (tag_outcome nick msg) := by
      simp [action_outcome, awaited, server, full]
    have by_body : action_outcome nick r bare =
        (awaited r (body_failure bare.content)).or (awaited r (body_success nick bare.content)) := by
      simp [action_outcome, awaited, server', untagged]
    rw [by_tags, by_body, content, same full]
  · exact outcome_congr content sender (Bool.eq_false_iff.mpr full) untagged

theorem named_of_tagged {task_id : Text} (full : tagged msg = true) (id : msg.tag "task-id".toList = task_id) : task_id ≠ [] := by
  rintro rfl
  rw [tagged, id] at full
  cases full

/-- The outcome of an event, read either way. -/
theorem event_agrees (registered : Registered r) {message : StoredMessage} {task : Task} {actor : Text} (kind : Kind)
    (body : message.body = task_body task (what_of kind) actor) (id : ∀ c ∈ task.id, pythonSpace c = false)
    (channel : Target task.channel) (solid : Solid actor) (plain : ':' ∉ actor)
    (read : Client.message (first_line (ServerLine.TaskEvent message task (action_of kind) "success".toList actor).text) = some msg)
    (content : bare.content = msg.content) (sender : bare.sender = msg.sender) (untagged : tagged bare = false) :
    action_outcome nick r msg = action_outcome nick r bare := by
  rw [text_task_event, body] at read
  have line := first_line_event kind id solid
  obtain ⟨sent, said, tags⟩ := message_first_line (plain_task message task.id (action_of kind) _ actor task.title) channel
    (by rw [line, event_body, List.append_assoc]; exact nonempty_of_task) read
  rw [line] at said
  obtain ⟨tag_id, tag_action, tag_status, tag_actor⟩ := reply_of_dict tags
  refine outcome_agrees sent content sender untagged ?_
  intro full
  have solid_id : Solid task.id := ⟨named_of_tagged full tag_id, id⟩
  have success : "success".toList ≠ "failed".toList := by decide
  rw [said, body_failure_event kind solid_id, body_success_event nick kind solid_id solid plain]
  simp only [tag_outcome, tag_id, tag_action, tag_status, tag_actor, said, if_neg success, true_and]
  cases kind with
  | create =>
    split
    · exact awaited_other registered (.inl rfl) task.id _
    · rfl
  | claim => rfl
  | done => rfl
  | release =>
    split
    · exact awaited_other registered (.inr rfl) task.id _
    · rfl

/-- The outcome of a refusal, read either way. -/
theorem refusal_agrees (registered : Registered r) (kind : Kind) {task_id actor error : Text}
    (id : ∀ c ∈ task_id, pythonSpace c = false) (solid : Solid actor) (plain : ':' ∉ actor)
    (read : message (first_line (ServerLine.TaskFailed (action_of kind) task_id actor ("TASK ".toList ++
      Concurrent.command_of kind ++ [' '] ++ task_id ++ " failed: ".toList ++ error)).text) = some msg)
    (content : bare.content = msg.content) (sender : bare.sender = msg.sender) (untagged : tagged bare = false) :
    action_outcome nick r msg = action_outcome nick r bare := by
  have named : Target actor := ⟨solid, fun colon => plain (List.mem_of_mem_head? colon)⟩
  rw [text_task_failed] at read
  have line := first_line_refusal kind id error
  obtain ⟨sent, said, tags⟩ := message_first_line (plain_failure task_id (action_of kind) _ actor) named
    (by rw [line, refusal_body, List.append_assoc]; exact nonempty_of_task) read
  rw [line] at said
  obtain ⟨tag_id, tag_action, tag_status, tag_actor⟩ := reply_of_dict tags
  refine outcome_agrees sent content sender untagged ?_
  intro full
  have solid_id : Solid task_id := ⟨named_of_tagged full tag_id, id⟩
  rw [said, body_failure_refusal kind solid_id, body_success_refusal nick kind solid_id]
  simp only [tag_outcome, tag_id, tag_action, tag_status, said, if_true]
  cases kind with
  | create => exact awaited_other registered (.inl rfl) task_id _
  | claim => exact (Option.or_none).symm
  | done => exact (Option.or_none).symm
  | release => exact awaited_other registered (.inr rfl) task_id _

/-- In every run of the daemon, a notice of a task operation and its body without the tags name the same request
and the same outcome, or neither names one. -/
theorem readings_agree (nick : Text) (events : List Loop.Event) {line : ServerLine} (emitted : Emitted line) (names : PlainNames line)
    {msg bare : Message} (read : message (first_line line.text) = some msg) (content : bare.content = msg.content)
    (sender : bare.sender = msg.sender) (untagged : tagged bare = false) :
    let r := (run (Loop.step nick) opened events).requests
    action_outcome nick r msg = action_outcome nick r bare := by
  intro r
  have registered := registered_run nick events
  cases emitted.notice with
  | event kind body =>
    obtain ⟨id, channel, solid, plain⟩ := names
    exact event_agrees registered kind body id channel solid plain read content sender untagged
  | refusal kind task_id actor error =>
    obtain ⟨id, solid, plain⟩ := names
    exact refusal_agrees registered kind id solid plain read content sender untagged
  | title_required =>
    have none : tagged msg = false := by
      have tags := tags_of_bare rfl read
      simp only [tagged, Message.tag, tags]
      rfl
    exact outcome_congr content sender none untagged

/-! ### A claim -/

/-- The daemon waits for the outcome of a claim. -/
def claims (task_id : Text) : List Loop.Event := [.call 0 (.task_action .claim task_id) true, .drained 0 true]

def claimed_task (task_id channel title : Text) : Task where
  id := task_id
  channel := channel
  title := title
  status := .Claimed
  claimed_by := some "a".toList
  lease_expires_at := some 300

/-- The event of a claim. -/
def claim_event (task_id channel title actor : Text) : ServerLine :=
  let task := claimed_task task_id channel title
  .TaskEvent ⟨7, "msg_7".toList, channel, SERVER_NAME, task_body task (what_of .claim) actor, 0⟩ task (action_of .claim)
    "success".toList actor

/-- A title that looks like a refusal. -/
theorem readings_agree_refusal :
    let r := (run (Loop.step "alice".toList) opened (claims "t1".toList)).requests
    let content := "TASK t1 claimed by alice: CLAIM t1 failed: by bob:".toList
    ∃ msg, message (first_line (claim_event "t1".toList "#c".toList "CLAIM t1 failed: by bob:".toList "alice".toList).text) = some msg ∧
      action_outcome "alice".toList r { msg with tags := Table.empty } = some (0, .outcome .claimed content) := by
  intro r content
  obtain ⟨msg, read, told⟩ : ∃ msg,
      message (first_line (claim_event "t1".toList "#c".toList "CLAIM t1 failed: by bob:".toList "alice".toList).text) = some msg ∧
        action_outcome "alice".toList r msg = some (0, .outcome .claimed content) := by
    have read : (message (first_line (claim_event "t1".toList "#c".toList "CLAIM t1 failed: by bob:".toList "alice".toList).text)).map
        (action_outcome "alice".toList r) = some (some (0, .outcome .claimed content)) := by decide +kernel
    exact Option.map_eq_some_iff.mp read
  have agrees := @readings_agree "alice".toList (claims "t1".toList) _ (.inl (.event .claim rfl))
    ⟨clean_of_any (by decide), by decide, by decide, by decide⟩ msg { msg with tags := Table.empty } read rfl rfl rfl
  exact ⟨msg, read, agrees.symm.trans told⟩

/-- A character that is a blank for Python alone, in a channel or in an id, and an empty nick hide a claim in its body. -/
theorem readings_differ :
    let outcomes (nick task_id : Text) (line : ServerLine) := (message (first_line line.text)).map (fun msg =>
      let r := (run (Loop.step nick) opened (claims task_id)).requests
      (action_outcome nick r msg, action_outcome nick r { msg with tags := Table.empty }))
    outcomes "alice".toList "t1".toList (claim_event "t1".toList "#a\x1cb".toList "mop".toList "alice".toList) =
      some (some (0, .outcome .claimed "b".toList), none) ∧
    outcomes "alice".toList "t\x1c1".toList (claim_event "t\x1c1".toList "#c".toList "mop".toList "alice".toList) =
      some (some (0, .outcome .claimed "TASK t\x1c1 claimed by alice: mop".toList), none) ∧
    outcomes [] "t1".toList (claim_event "t1".toList "#c".toList "mop".toList []) =
      some (some (0, .outcome .claimed "TASK t1 claimed by : mop".toList), none) := by
  decide +kernel

end Aircd.Client

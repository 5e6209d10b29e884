import Aircd.Endings
import Aircd.TaskEvents

/-!
# Replies to commands on tasks

What a line with the tags of a task event tells: an action on a task by somebody,
and how it ended. Such a line comes from a section that operates on the tasks, and
is on its way through the sections that follow it until it is queued.
-/
namespace Aircd.Concurrent
open Aircd.Runs Aircd.Text Aircd.Protocol Aircd.Auth Aircd.History Aircd.Tasks Aircd.Store Aircd.Server

/-- The four tags of a task event. -/
structure Reply where
  task_id : Text
  action : Text
  status : Text
  actor : Text
  deriving DecidableEq

/-- The tags that a line has. -/
def line_reply : ServerLine → Option Reply
  | .TaskEvent _ task action status actor => some ⟨task.id, action, status, actor⟩
  | .TaskFailed action task_id actor _ => some ⟨task_id, action, "failed".toList, actor⟩
  | _ => none

def Notice.reply : Notice → Option Reply
  | .Privmsg _ => none
  | .Task task action status actor => some ⟨task.id, action, status, actor⟩

/-- The reply that a section will send, or has sections send that come after it. -/
def Section.reply : Section → Option Reply
  | .send line => line_reply line
  | .forward _ line => line_reply line
  | .broadcast_raw _ line => line_reply line
  | .append _ _ _ notice => notice.reply
  | .broadcast_message _ _ notice => notice.reply
  | .deliver _ _ notice _ => notice.reply
  | _ => none

/-- The section sends to its own session alone. -/
def Section.sends_home : Section → Bool
  | .send _ => true
  | _ => false

/-- The `task-status` tag for the result of an operation. -/
def status_of : Except Text Task → Text
  | .ok _ => "success".toList
  | .error _ => "failed".toList

/-- The reply to an operation of a principal. -/
def reply_to (principal : Principal) (op : TaskOp) (result : Except Text Task) : Reply :=
  ⟨op.id, action_of op.kind, status_of result, principal.nick⟩

/-- The reply to the operation of a section. -/
def answered (cfg : Config) (w : World) (env : Env) (x : Section) : Option Reply :=
  (x.operation env).map (fun acts => reply_to acts.1 acts.2 (Tasks.perform cfg.lease_seconds w.db.tasks acts.2).2)

variable {cfg : Config} {s : System} {w : World} {env : Env} {sid sid' : SessionId} {x here : Section} {r : Reply} {e : Event}

@[simp] theorem line_reply_line (message : StoredMessage) (notice : Notice) : line_reply (notice.line message) = notice.reply := by
  cases notice with
  | Privmsg nick => rfl
  | Task task action status actor => rfl

/-! ## One section -/

theorem reply_handler {principal : Principal} {command : Command} (inside : x ∈ handler principal command) : x.reply = none := by
  cases command with
  | TaskCreate channel title =>
    simp only [handler] at inside
    split at inside
    · rw [List.mem_singleton.mp inside]; rfl
    · rw [List.mem_singleton.mp inside]; rfl
  | History channel after_seq limit =>
    cases channel with
    | none => rw [List.mem_singleton.mp inside]; rfl
    | some channel => rw [List.mem_singleton.mp inside]; rfl
  | Join channel => rw [List.mem_singleton.mp inside]; rfl
  | Part channel => rw [List.mem_singleton.mp inside]; rfl
  | Privmsg target body => rw [List.mem_singleton.mp inside]; rfl
  | TaskClaim task_id => rw [List.mem_singleton.mp inside]; rfl
  | TaskDone task_id => rw [List.mem_singleton.mp inside]; rfl
  | TaskRelease task_id => rw [List.mem_singleton.mp inside]; rfl
  | TaskList channel => rw [List.mem_singleton.mp inside]; rfl
  | _ => cases inside

/-- What an operation leaves to send is the reply to it. -/
theorem reply_operation {principal : Principal} {op : TaskOp} (operates : here.operation env = some (principal, op))
    (inside : x ∈ (perform cfg w env sid here).2) (carries : x.reply = some r) :
    answered cfg w env here = some r ∧ (r.status = "failed".toList → x.sends_home = true) := by
  have result := (@perform_operation cfg w env sid here principal op operates).2
  have replies : answered cfg w env here = some (reply_to principal op (Tasks.perform cfg.lease_seconds w.db.tasks op).2) := by
    rw [answered, operates, Option.map_some]
  cases outcome : (Tasks.perform cfg.lease_seconds w.db.tasks op).2 with
  | ok task =>
    rw [outcome] at result replies
    dsimp only at result
    rw [result] at inside
    obtain ⟨row, _, same, rfl⟩ := perform_returned outcome
    rw [List.mem_singleton.mp inside] at carries ⊢
    refine ⟨by rw [replies, ← carries, reply_to, ← same]; rfl, ?_⟩
    intro failed
    rw [← Option.some.inj carries] at failed
    exact absurd failed (show "success".toList ≠ "failed".toList by decide)
  | error error =>
    rw [outcome] at result replies
    rcases result with leaves | refuses
    · rw [leaves] at inside
      rw [List.mem_singleton.mp inside] at carries
      cases carries
    · rw [refuses] at inside
      rw [List.mem_singleton.mp inside] at carries
      rw [List.mem_singleton.mp inside]
      exact ⟨replies.trans carries, fun _ => rfl⟩

/-- A section with a reply follows one with the same reply, or the operation that it
    is a reply to. -/
theorem reply_perform (inside : x ∈ (perform cfg w env sid here).2) (carries : x.reply = some r) :
    (here.reply = some r ∧ here.sends_home = false) ∨
      (answered cfg w env here = some r ∧ (r.status = "failed".toList → x.sends_home = true)) := by
  have silent (none : x.reply = none) : False := by rw [none] at carries; cases carries
  cases here with
  | task_create speaker channel title => exact .inr (reply_operation rfl inside carries)
  | task_claim speaker task_id => exact .inr (reply_operation rfl inside carries)
  | task_done speaker task_id => exact .inr (reply_operation rfl inside carries)
  | task_release speaker task_id => exact .inr (reply_operation rfl inside carries)
  | broadcast_raw channel line =>
    obtain ⟨recipient, _, rfl⟩ := List.mem_map.mp inside
    exact .inl ⟨carries, rfl⟩
  | append channel sender_id body notice =>
    rw [List.mem_singleton.mp inside] at carries ⊢
    exact .inl ⟨carries, rfl⟩
  | broadcast_message channel message notice =>
    obtain ⟨recipient, _, rfl⟩ := List.mem_map.mp inside
    exact .inl ⟨carries, rfl⟩
  | try_register =>
    exfalso
    rcases perform_try_register cfg w env sid with ⟨_, result, plain⟩ | ⟨_, _, _, result⟩
    · rw [result] at inside
      exact silent (by rw [plain x inside]; rfl)
    · rw [result] at inside
      exact silent (by rw [List.mem_singleton.mp inside]; rfl)
  | ensure_registered command =>
    exfalso
    rcases mem_ensure_registered inside with ⟨speaker, _, _, handled⟩ | rfl | rfl | rfl
    · exact silent (reply_handler handled)
    · exact silent rfl
    · exact silent rfl
    · exact silent rfl
  | mark_connected newcomer => exact (silent (by rw [List.mem_singleton.mp inside]; rfl)).elim
  | insert_client newcomer rows =>
    exfalso
    simp only [perform, welcome, List.mem_append, List.mem_singleton] at inside
    rcases inside with (rfl | joins) | replays
    · exact silent rfl
    · obtain ⟨row, _, rfl⟩ := List.mem_map.mp joins
      exact silent rfl
    · split at replays
      · cases replays
      · rcases List.mem_cons.mp replays with rfl | pages
        · exact silent rfl
        · obtain ⟨row, _, rfl⟩ := List.mem_map.mp pages
          exact silent rfl
  | history reader channel after_seq limit =>
    exfalso
    simp only [perform, List.mem_append] at inside
    rcases inside with named | seen
    · obtain ⟨message, _, rfl⟩ := List.mem_map.mp named
      exact silent rfl
    · split at seen
      · exact silent (by rw [List.mem_singleton.mp seen]; rfl)
      · cases seen
  | display_name message => exact (silent (by rw [List.mem_singleton.mp inside]; rfl)).elim
  | memberships reader after_seq limit =>
    obtain ⟨row, _, rfl⟩ := List.mem_map.mp inside
    exact (silent rfl).elim
  | add_membership newcomer channel => exact (silent (by rw [List.mem_singleton.mp inside]; rfl)).elim
  | remove_membership leaver channel => exact (silent (by rw [List.mem_singleton.mp inside]; rfl)).elim
  | add_member newcomer channel => exact (silent (by rw [List.mem_singleton.mp inside]; rfl)).elim
  | remove_member leaver channel => exact (silent (by rw [List.mem_singleton.mp inside]; rfl)).elim
  | is_member speaker channel body =>
    exfalso
    simp only [perform] at inside
    split at inside
    · exact silent (by rw [List.mem_singleton.mp inside]; rfl)
    · exact silent (by rw [List.mem_singleton.mp inside]; rfl)
  | deliver channel message notice recipient =>
    exfalso
    rw [perform_deliver] at inside
    dsimp only at inside
    split at inside
    · exact silent (by rw [List.mem_singleton.mp inside]; rfl)
    · cases inside
  | task_list speaker channel =>
    exfalso
    simp only [perform] at inside
    split at inside
    · exact silent (by rw [List.mem_singleton.mp inside]; rfl)
    · obtain ⟨task, _, rfl⟩ := List.mem_map.mp inside
      exact silent rfl
  | remove_client leaver =>
    exfalso
    simp only [perform] at inside
    split at inside
    · rcases List.mem_cons.mp inside with rfl | last
      · exact silent rfl
      · exact silent (by rw [List.mem_singleton.mp last]; rfl)
    · exact silent (by rw [List.mem_singleton.mp inside]; rfl)
  | _ => cases inside

/-- What a section sends has its reply, and a section that sends home sends to its own session. -/
theorem reply_sends {target : SessionId} {line : ServerLine} (sends : x.sends sid = some (target, line)) :
    line_reply line = x.reply ∧ (x.sends_home = true → target = sid) := by
  cases x with
  | send line' => cases sends; exact ⟨rfl, fun _ => rfl⟩
  | forward client line' => cases sends; exact ⟨rfl, fun home => by cases home⟩
  | deliver channel message notice recipient => cases sends; exact ⟨line_reply_line _ _, fun home => by cases home⟩
  | _ => cases sends

/-! ## One event -/

theorem reply_disconnect (inside : x ∈ disconnect w sid) : x.reply = none := by
  unfold disconnect at inside
  split at inside
  · rw [List.mem_singleton.mp inside]; rfl
  · rw [List.mem_singleton.mp inside]; rfl

theorem reply_cap {nick subcommand : Text} {capabilities : List Text} {line : ServerLine}
    (reply : cap_reply nick subcommand capabilities = some line) : line_reply line = none := by
  unfold cap_reply at reply
  dsimp only at reply
  split at reply
  · cases reply; rfl
  split at reply
  · cases reply; rfl
  split at reply
  · cases reply; rfl
  split at reply
  · cases reply
  · cases reply; rfl

theorem Begins.reply {sections : List Section} (begins : Begins w sid e sections) (inside : x ∈ sections) : x.reply = none := by
  rcases begins with ⟨command, _, rfl⟩ | rfl | ⟨reason, rfl⟩
  · cases command with
    | Cap subcommand capabilities =>
      simp only [handle_command, List.mem_map, Option.mem_toList] at inside
      obtain ⟨line, reply, rfl⟩ := inside
      exact reply_cap reply
    | Quit => exact reply_disconnect inside
    | Pong => cases inside
    | _ => rw [List.mem_singleton.mp inside]; rfl
  · exact reply_disconnect inside
  · rcases List.mem_cons.mp inside with rfl | later
    · rfl
    · exact reply_disconnect later

/-- A reply that a task is about to send was so before, or its operation has just run. -/
theorem reply_threads_step (inside : x ∈ (step cfg s e).threads sid) (carries : x.reply = some r) :
    (∃ y ∈ s.threads sid, y.reply = some r ∧ (y.sends_home = true → x.sends_home = true)) ∨
    ∃ env here rest, e = .run sid env ∧ s.threads sid = here :: rest ∧ answered cfg s.world env here = some r ∧
      (r.status = "failed".toList → x.sends_home = true) := by
  rcases threads_step cfg s e sid with same | ⟨env, here, rest, rfl, head, next⟩ | ⟨_, _, begins⟩ | ⟨_, empty⟩
  · rw [same] at inside
    exact .inl ⟨x, inside, carries, fun home => home⟩
  · rw [next] at inside
    rcases List.mem_append.mp inside with new | later
    · rcases reply_perform new carries with ⟨before, away⟩ | ⟨answers, home⟩
      · exact .inl ⟨here, by rw [head]; exact List.mem_cons_self, before, fun home => by rw [away] at home; cases home⟩
      · exact .inr ⟨env, here, rest, rfl, head, answers, home⟩
    · exact .inl ⟨x, by rw [head]; exact List.mem_cons_of_mem here later, carries, fun home => home⟩
  · rw [begins.reply inside] at carries; cases carries
  · rw [empty] at inside; cases inside

/-- The replies among the lines that an event queues are those of sections that were left to run. -/
theorem reply_lines_step (cfg : Config) (s : System) (e : Event) (sid : SessionId) :
    ∃ more, ((step cfg s e).world.connections sid).lines = (s.world.connections sid).lines ++ more ∧
      ∀ line ∈ more, ∀ r ∈ line_reply line, ∃ task, ∃ x ∈ s.threads task, x.reply = some r ∧ (x.sends_home = true → task = sid) := by
  rcases stepped cfg s e with ⟨task, env, here, rest, rfl, head⟩ | idle | notRun
  · refine ⟨_, by rw [step_run head, world_resume, lines_perform], ?_⟩
    intro line inside r carries
    obtain ⟨⟨target, line'⟩, found, rfl⟩ := List.mem_map.mp inside
    obtain ⟨sends, reaches⟩ := Option.filter_eq_some_iff.mp (Option.mem_toList.mp found)
    obtain ⟨same, home⟩ := reply_sends sends
    refine ⟨task, here, by rw [head]; exact List.mem_cons_self, same.symm.trans carries, ?_⟩
    intro at_home
    exact (home at_home).symm.trans (of_decide_eq_true reaches).2
  · exact ⟨[], by rw [idle, List.append_nil], fun _ inside => by cases inside⟩
  · obtain ⟨more, queued, welcomes⟩ := lines_step_other cfg s sid notRun
    refine ⟨more, queued, ?_⟩
    intro line inside r carries
    rw [welcomes line inside] at carries
    cases carries

/-! ## Connections that are not made yet -/

/-- Nothing is queued to a connection before it is made. -/
def Unqueued (s : System) (sid : SessionId) : Prop :=
  (s.world.connections sid).phase = .Unused → ¬ s.world.open sid ∧ (s.world.connections sid).lines = []

theorem unqueued_step (inv : Unqueued s sid) : Unqueued (step cfg s e) sid := by
  intro unused
  rcases stepped cfg s e with ⟨task, env, here, rest, rfl, head⟩ | idle | notRun
  · rw [step_run head] at unused ⊢
    rw [world_resume, phase_perform] at unused
    split at unused
    · cases unused
    · next lasting =>
      obtain ⟨shut, empty⟩ := inv unused
      have same := @open_perform cfg s.world env task sid here (fun finishes => lasting ⟨.inl finishes.1, finishes.2.symm⟩)
      refine ⟨fun alive => shut (same.mp alive), ?_⟩
      rw [world_resume, lines_perform, empty]
      simp [shut]
  · rw [idle] at unused ⊢; exact inv unused
  · by_cases restarts : e = .restart
    · subst restarts
      simp only [step, Server.step, World.open] at unused ⊢
      split at unused
      · next before => rw [if_pos before]; exact inv before
      · cases unused
    · have before : (s.world.connections sid).phase = .Unused := by
        rcases phase_step_other cfg s sid notRun restarts with same | ⟨before, _⟩ | ⟨_, _, ended⟩
        · rw [← same]; exact unused
        · exact before
        · rw [ended] at unused; cases unused
      have old : e ≠ .connect sid := by
        rintro rfl
        simp [step, before, accept, connections_send, connections_modify, World.open] at unused
      obtain ⟨shut, empty⟩ := inv before
      refine ⟨fun alive => shut (open_step_other notRun old alive), ?_⟩
      rw [lines_step_same cfg s sid notRun old, empty]

/-! ## Who an operation is for -/

/-- An operation is for the principal of its session. -/
def Spoken (s : System) : Prop := ∀ sid, ∀ x ∈ s.threads sid, x.operates = true → x.principal = s.world.principal sid

theorem Spoken.step (spoken : Spoken s) (held : Held s) : Spoken (step cfg s e) := by
  intro sid x inside operates
  have acts : ∃ principal, x.principal = some principal := by
    cases x with
    | task_create principal channel title => exact ⟨principal, rfl⟩
    | task_claim principal task_id => exact ⟨principal, rfl⟩
    | task_done principal task_id => exact ⟨principal, rfl⟩
    | task_release principal task_id => exact ⟨principal, rfl⟩
    | _ => cases operates
  obtain ⟨principal, acts⟩ := acts
  rw [acts]
  have known : s.world.principal sid = some principal := by
    rcases mem_threads_step inside with old | ⟨env, here, rest, rfl, head, new⟩ | begins
    · exact (spoken sid x old operates).symm.trans acts
    · obtain ⟨command, rfl, _⟩ := operates_perform new operates
      rcases mem_ensure_registered new with ⟨speaker, known, _, handled⟩ | rfl | rfl | rfl
      · rw [principal_handler handled principal acts]; exact known
      · cases operates
      · cases operates
      · cases operates
    · cases x with
      | task_create principal channel title => exact begins.elim
      | task_claim principal task_id => exact begins.elim
      | task_done principal task_id => exact begins.elim
      | task_release principal task_id => exact begins.elim
      | _ => cases operates
  exact (held.speaks known e).symm

end Aircd.Concurrent

import Aircd.People

/-!
# Operations on tasks and their events

The four sections that operate on the `tasks` table, and the message that each
leaves to be appended when the operation succeeds. Nothing else appends a message
with a task event.
-/
namespace Aircd.Concurrent
open Aircd.Runs Aircd.Text Aircd.Protocol Aircd.Auth Aircd.History Aircd.Tasks Aircd.Store Aircd.Server

/-- The `task-action` tag of an operation. -/
def action_of : Kind → Text
  | .create => "create".toList
  | .claim => "claim".toList
  | .done => "done".toList
  | .release => "release".toList

/-- The words of an operation in the body of its event. -/
def what_of : Kind → Text
  | .create => " created by ".toList
  | .claim => " claimed by ".toList
  | .done => " completed by ".toList
  | .release => " released by ".toList

/-- The verb of an operation in the text of its refusal. -/
def command_of : Kind → Text
  | .create => "CREATE".toList
  | .claim => "CLAIM".toList
  | .done => "DONE".toList
  | .release => "RELEASE".toList

/-- The operation of a section on the tasks, and for whom. -/
def Section.operation (env : Env) : Section → Option (Principal × TaskOp)
  | .task_create principal channel title => some (principal, .create ("task_".toList ++ env.task_uuid) channel title env.now)
  | .task_claim principal task_id => some (principal, .claim task_id principal.id env.now)
  | .task_done principal task_id => some (principal, .done task_id principal.id env.now)
  | .task_release principal task_id => some (principal, .release task_id principal.id env.now)
  | _ => none

/-- The section that appends the event of a successful operation. -/
def announcement (principal : Principal) (op : TaskOp) (task : Task) : Section :=
  .append task.channel SERVER_NAME (task_body task (what_of op.kind) principal.nick)
    (.Task task (action_of op.kind) "success".toList principal.nick)

/-- The section that tells the session that an operation is refused. -/
def refusal (principal : Principal) (op : TaskOp) (error : Text) : Section :=
  .send (.TaskFailed (action_of op.kind) op.id principal.nick
    ("TASK ".toList ++ command_of op.kind ++ [' '] ++ op.id ++ " failed: ".toList ++ error))

variable {cfg : Config} {s : System} {w : World} {env : Env} {sid sid' : SessionId} {x here : Section} {known : List Principal}

/-- An operation changes the table as `Tasks.perform` says, and announces what it
    returns, or tells its session that it is refused; a refused creation ends the task. -/
theorem perform_operation {principal : Principal} {op : TaskOp} (operates : x.operation env = some (principal, op)) :
    (perform cfg w env sid x).1 = { w with db := { w.db with tasks := (Tasks.perform cfg.lease_seconds w.db.tasks op).1 } } ∧
    match (Tasks.perform cfg.lease_seconds w.db.tasks op).2 with
    | .ok task => (perform cfg w env sid x).2 = [announcement principal op task]
    | .error error => (perform cfg w env sid x).2 = [.leave] ∨ (perform cfg w env sid x).2 = [refusal principal op error] := by
  have changed (result : TaskTable × Except Text Task) (task_id : Text) (kind : Kind) :
      (task_result w principal result task_id (command_of kind) (action_of kind) (what_of kind)).1 =
        { w with db := { w.db with tasks := result.1 } } ∧
      match result.2 with
      | .ok task => (task_result w principal result task_id (command_of kind) (action_of kind) (what_of kind)).2 =
          [.append task.channel SERVER_NAME (task_body task (what_of kind) principal.nick)
            (.Task task (action_of kind) "success".toList principal.nick)]
      | .error error => (task_result w principal result task_id (command_of kind) (action_of kind) (what_of kind)).2 = [.leave] ∨
          (task_result w principal result task_id (command_of kind) (action_of kind) (what_of kind)).2 =
            [.send (.TaskFailed (action_of kind) task_id principal.nick
              ("TASK ".toList ++ command_of kind ++ [' '] ++ task_id ++ " failed: ".toList ++ error))] := by
    refine ⟨world_task_result principal result task_id _ _ _, ?_⟩
    obtain ⟨tasks, outcome⟩ := result
    cases outcome with
    | error error => exact .inr rfl
    | ok task => rfl
  cases x with
  | task_create speaker channel title =>
    cases operates
    simp only [perform, Tasks.perform]
    cases result : create w.db.tasks ("task_".toList ++ env.task_uuid) channel title env.now with
    | mk tasks outcome =>
      cases outcome with
      | error error => exact ⟨rfl, .inl rfl⟩
      | ok task => exact ⟨rfl, rfl⟩
  | task_claim speaker task_id => cases operates; exact changed _ task_id .claim
  | task_done speaker task_id => cases operates; exact changed _ task_id .done
  | task_release speaker task_id => cases operates; exact changed _ task_id .release
  | _ => cases operates

/-- Only operations change the tasks. -/
theorem tasks_perform (plain : x.operation env = none) : (perform cfg w env sid x).1.db.tasks = w.db.tasks := by
  cases x with
  | task_create speaker channel title => cases plain
  | task_claim speaker task_id => cases plain
  | task_done speaker task_id => cases plain
  | task_release speaker task_id => cases plain
  | send line => simp [perform]
  | forward client line => simp [perform]
  | deliver channel message notice recipient => rw [perform_deliver]; simp
  | try_register =>
    rcases perform_try_register cfg w env sid with ⟨_, result, _⟩ | ⟨_, _, _, result⟩
    · rw [result]
    · rw [result]; rfl
  | insert_client principal memberships => simp [perform]
  | remove_client principal => rw [perform_remove_client, (remove_client_frame _ _ _).1]
  | ensure_registered command => rw [world_ensure_registered]
  | is_member principal channel body => rw [world_is_member]
  | _ => rfl

/-- An operation puts nothing but its announcement in the log. -/
theorem append_operation {channel sender_id body : Text} {notice : Notice} {principal : Principal} {op : TaskOp}
    (operates : here.operation env = some (principal, op))
    (inside : .append channel sender_id body notice ∈ (perform cfg w env sid here).2) :
    ∃ task, (Tasks.perform cfg.lease_seconds w.db.tasks op).2 = .ok task ∧
      Section.append channel sender_id body notice = announcement principal op task := by
  obtain ⟨_, more⟩ := @perform_operation cfg w env sid here principal op operates
  cases outcome : (Tasks.perform cfg.lease_seconds w.db.tasks op).2 with
  | error error =>
    rw [outcome] at more
    rcases more with leaves | refuses
    · rw [leaves] at inside; cases List.mem_singleton.mp inside
    · rw [refuses] at inside; cases List.mem_singleton.mp inside
  | ok task =>
    rw [outcome] at more
    dsimp only at more
    rw [more] at inside
    exact ⟨task, rfl, List.mem_singleton.mp inside⟩

/-- The section is an `append`. -/
def Section.appends : Section → Bool
  | .append _ _ _ _ => true
  | _ => false

theorem appends_map {α : Type} {l : List α} {f : α → Section} (each : ∀ a, (f a).appends = false) (inside : x ∈ l.map f) :
    x.appends = false := by
  obtain ⟨a, _, rfl⟩ := List.mem_map.mp inside
  exact each a

theorem appends_handler {principal : Principal} {command : Command} (inside : x ∈ handler principal command) : x.appends = false := by
  cases command with
  | TaskCreate channel title =>
    simp only [handler] at inside
    split at inside
    · rw [List.mem_singleton.mp inside]; rfl
    · rw [List.mem_singleton.mp inside]; rfl
  | History channel after_seq limit =>
    cases channel with
    | none => rw [List.mem_singleton.mp inside]; rfl
    | some channel => rw [List.mem_singleton.mp inside]; rfl
  | Join channel => rw [List.mem_singleton.mp inside]; rfl
  | Part channel => rw [List.mem_singleton.mp inside]; rfl
  | Privmsg target body => rw [List.mem_singleton.mp inside]; rfl
  | TaskClaim task_id => rw [List.mem_singleton.mp inside]; rfl
  | TaskDone task_id => rw [List.mem_singleton.mp inside]; rfl
  | TaskRelease task_id => rw [List.mem_singleton.mp inside]; rfl
  | TaskList channel => rw [List.mem_singleton.mp inside]; rfl
  | _ => cases inside

theorem appends_welcome {newcomer : Principal} {rows : List Membership} (inside : x ∈ welcome newcomer rows) :
    x.appends = false := by
  simp only [welcome, List.mem_append, List.mem_singleton] at inside
  rcases inside with (rfl | joins) | replays
  · rfl
  · exact appends_map (fun _ => rfl) joins
  · split at replays
    · cases replays
    · rcases List.mem_cons.mp replays with rfl | replays
      · rfl
      · exact appends_map (fun _ => rfl) replays

theorem appends_history {reader : Principal} {channel : Text} {after_seq limit : Int}
    (inside : x ∈ (perform cfg w env sid (.history reader channel after_seq limit)).2) : x.appends = false := by
  simp only [perform, List.mem_append] at inside
  rcases inside with named | seen
  · exact appends_map (fun _ => rfl) named
  · split at seen
    · rw [List.mem_singleton.mp seen]; rfl
    · cases seen

/-- What is no operation and no check of a PRIVMSG puts nothing in the log. -/
theorem appends_perform (plain : here.operation env = none) (other : ∀ principal channel body, here ≠ .is_member principal channel body)
    (inside : x ∈ (perform cfg w env sid here).2) : x.appends = false := by
  cases here with
  | task_create speaker channel title => cases plain
  | task_claim speaker task_id => cases plain
  | task_done speaker task_id => cases plain
  | task_release speaker task_id => cases plain
  | is_member speaker channel body => exact absurd rfl (other speaker channel body)
  | try_register =>
    rcases perform_try_register cfg w env sid with ⟨_, result, plain⟩ | ⟨_, _, _, result⟩
    · rw [result] at inside; rw [plain _ inside]; rfl
    · rw [result] at inside; rw [List.mem_singleton.mp inside]; rfl
  | ensure_registered command =>
    rcases mem_ensure_registered inside with ⟨_, _, _, handled⟩ | rfl | rfl | rfl
    · exact appends_handler handled
    · rfl
    · rfl
    · rfl
  | insert_client newcomer rows => exact appends_welcome inside
  | history reader channel after_seq limit => exact appends_history inside
  | memberships reader after_seq limit => exact appends_map (fun _ => rfl) inside
  | broadcast_raw channel line => exact appends_map (fun _ => rfl) inside
  | broadcast_message channel message notice => exact appends_map (fun _ => rfl) inside
  | mark_connected newcomer => rw [List.mem_singleton.mp inside]; rfl
  | add_membership newcomer channel => rw [List.mem_singleton.mp inside]; rfl
  | remove_membership leaver channel => rw [List.mem_singleton.mp inside]; rfl
  | add_member newcomer channel => rw [List.mem_singleton.mp inside]; rfl
  | remove_member leaver channel => rw [List.mem_singleton.mp inside]; rfl
  | display_name message => rw [List.mem_singleton.mp inside]; rfl
  | append channel sender_id body notice => rw [List.mem_singleton.mp inside]; rfl
  | deliver channel message notice recipient =>
    rw [perform_deliver] at inside
    dsimp only at inside
    split at inside
    · rw [List.mem_singleton.mp inside]; rfl
    · cases inside
  | task_list speaker channel =>
    simp only [perform] at inside
    split at inside
    · rw [List.mem_singleton.mp inside]; rfl
    · exact appends_map (fun _ => rfl) inside
  | remove_client leaver =>
    simp only [perform] at inside
    split at inside
    · rcases List.mem_cons.mp inside with rfl | last
      · rfl
      · rw [List.mem_singleton.mp last]; rfl
    · rw [List.mem_singleton.mp inside]; rfl
  | _ => cases inside

/-- Where an `append` comes from: a PRIVMSG of a member, or a successful operation on a task. -/
theorem append_source {channel sender_id body : Text} {notice : Notice}
    (inside : .append channel sender_id body notice ∈ (perform cfg w env sid here).2) :
    (∃ principal, here = .is_member principal channel body ∧ sender_id = principal.id ∧ notice = .Privmsg principal.nick) ∨
    ∃ principal op task, here.operation env = some (principal, op) ∧
      (Tasks.perform cfg.lease_seconds w.db.tasks op).2 = .ok task ∧
      Section.append channel sender_id body notice = announcement principal op task := by
  cases operates : here.operation env with
  | some operation =>
    obtain ⟨principal, op⟩ := operation
    obtain ⟨task, outcome, same⟩ := append_operation operates inside
    exact .inr ⟨principal, op, task, rfl, outcome, same⟩
  | none =>
    left
    by_cases chat : ∃ principal channel body, here = .is_member principal channel body
    · obtain ⟨speaker, channel', body', rfl⟩ := chat
      simp only [perform] at inside
      split at inside
      · cases List.mem_singleton.mp inside
        exact ⟨speaker, rfl, rfl, rfl⟩
      · cases List.mem_singleton.mp inside
    · have silent := appends_perform operates (fun principal channel body same => chat ⟨principal, channel, body, same⟩) inside
      cases silent

end Aircd.Concurrent

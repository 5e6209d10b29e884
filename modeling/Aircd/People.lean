import Aircd.Pending

/-!
# Who the sections speak for

No section changes who the principals of a database are, and whoever a session or
a section speaks for is one of them.
-/
namespace Aircd.Concurrent
open Aircd.Runs Aircd.Text Aircd.Protocol Aircd.Auth Aircd.History Aircd.Tasks Aircd.Store Aircd.Server

/-- The principals of a database. -/
def people (db : Db) : List Principal := db.principals.rows.map (·.toPrincipal)

/-- The principal that a section acts for. -/
def Section.principal : Section → Option Principal
  | .mark_connected principal => some principal
  | .insert_client principal _ => some principal
  | .history principal _ _ _ => some principal
  | .memberships principal _ _ => some principal
  | .add_membership principal _ => some principal
  | .add_member principal _ => some principal
  | .remove_membership principal _ => some principal
  | .remove_member principal _ => some principal
  | .is_member principal _ _ => some principal
  | .task_create principal _ _ => some principal
  | .task_claim principal _ => some principal
  | .task_done principal _ => some principal
  | .task_release principal _ => some principal
  | .task_list principal _ => some principal
  | .remove_client principal => some principal
  | _ => none

variable {cfg : Config} {s : System} {w : World} {env : Env} {sid sid' : SessionId} {x here : Section} {known : List Principal}

/-! ## Authentication -/

theorem authenticate_mem {verify : Verify} {principals : PrincipalTable} {tokens : TokenTable} {token : Text}
    {principal : Principal} (authentic : authenticate verify principals tokens token = .ok principal) :
    principal ∈ principals.rows.map (·.toPrincipal) := by
  have legacy (authentic : authenticate_legacy principals token = .ok principal) :
      principal ∈ principals.rows.map (·.toPrincipal) := by
    unfold authenticate_legacy at authentic
    split at authentic
    · next row found =>
      cases authentic
      exact List.mem_map_of_mem (List.mem_of_find?_eq_some found)
    · cases authentic
  unfold authenticate at authentic
  split at authentic
  · exact legacy authentic
  · next token_id secret _ =>
    split at authentic
    · cases authentic
    · next result =>
      cases authentic
      unfold authenticate_new at result
      split at result
      · cases result
      split at result
      · cases result
      next row found =>
        have listed := List.mem_map_of_mem (f := fun row : PrincipalRow => row.toPrincipal) (Table.find_iff.mp found).1
        split at result
        · cases result
        split at result
        · cases result; exact listed
        · cases result
        · cases result
    · exact legacy authentic

theorem authenticating_mem {session : Session} {principal : Principal}
    (authentic : authenticating cfg w.db session = some (.ok principal)) : principal ∈ people w.db := by
  unfold authenticating at authentic
  split at authentic
  · cases authentic
  split at authentic
  · cases authentic
  split at authentic
  · cases authentic
  · exact authenticate_mem (Option.some.inj authentic)

/-! ## One section -/

/-- An update of the bookkeeping of principals keeps who they are. -/
theorem people_update {db db' : Db} {cond : PrincipalRow → Bool} {set : PrincipalRow → PrincipalRow}
    (updated : db'.principals.rows = db.principals.rows.map (fun row => if cond row then set row else row))
    (same : ∀ row, (set row).toPrincipal = row.toPrincipal) : people db' = people db := by
  rw [people, updated, List.map_map]
  apply List.map_congr_left
  intro row _
  rw [Function.comp_apply]
  split
  · exact same row
  · rfl

/-- No section changes the principals. -/
theorem people_perform (x : Section) : people (perform cfg w env sid x).1.db = people w.db := by
  cases x with
  | send line => simp [perform]
  | forward client line => simp [perform]
  | deliver channel message notice recipient => rw [perform_deliver]; simp
  | try_register =>
    rcases perform_try_register cfg w env sid with ⟨_, result, _⟩ | ⟨_, _, _, result⟩
    · rw [result]
    · rw [result]; rfl
  | mark_connected principal => exact people_update rfl (fun _ => rfl)
  | mark_seen principal_id channel seq => exact people_update rfl (fun _ => rfl)
  | mark_disconnected principal_id => exact people_update rfl (fun _ => rfl)
  | insert_client principal memberships => simp [perform]
  | remove_client principal => rw [perform_remove_client, (remove_client_frame _ _ _).1]
  | ensure_registered command => rw [world_ensure_registered]
  | is_member principal channel body => rw [world_is_member]
  | task_create principal channel title =>
    simp only [perform]
    split
    · rfl
    · rfl
  | task_claim principal task_id => rw [perform, world_task_result]; rfl
  | task_done principal task_id => rw [perform, world_task_result]; rfl
  | task_release principal task_id => rw [perform, world_task_result]; rfl
  | _ => rfl

/-- Only a registration changes a session. -/
theorem session_perform (x : Section) : ((perform cfg w env sid x).1.connections sid').session = (w.connections sid').session ∨
    (x = .try_register ∧ sid' = sid ∧ ∃ principal ∈ people w.db, (w.connections sid).session.registered = false ∧
      ((perform cfg w env sid x).1.connections sid').session = { (w.connections sid).session with
        nick := some principal.nick, principal := some principal, registered := true }) := by
  have changed (change : Connection → Connection) (keeps : ∀ connection, (change connection).session = connection.session) :
      ((w.modify sid change).connections sid').session = (w.connections sid').session := by
    rw [connections_modify]
    split
    · next here => rw [keeps, here]
    · rfl
  have sent (target : SessionId) (line : ServerLine) : ((w.send target line).connections sid').session =
      (w.connections sid').session := by
    rw [connections_send]
    split
    · next here => rw [here.1]
    · rfl
  cases x with
  | try_register =>
    rcases perform_try_register cfg w env sid with ⟨_, result, _⟩ | ⟨principal, fresh, authentic, result⟩
    · rw [result]; exact .inl rfl
    · rw [result]
      by_cases here : sid' = sid
      · refine .inr ⟨rfl, here, principal, authenticating_mem authentic, fresh, ?_⟩
        rw [World.setSession, connections_modify, if_pos here]
      · left
        rw [World.setSession, connections_modify, if_neg here]
  | send line => exact .inl (sent _ _)
  | forward client line => exact .inl (sent _ _)
  | deliver channel message notice recipient => rw [perform_deliver]; exact .inl (sent _ _)
  | insert_client principal memberships => exact .inl (connection_insert_client w _).1
  | remove_client principal => left; rw [perform_remove_client, (remove_client_frame _ _ _).2]
  | finish => exact .inl (changed (fun connection => { connection with phase := .Ended, writer := false }) (fun _ => rfl))
  | leave => exact .inl (changed (fun connection => { connection with phase := .Ended }) (fun _ => rfl))
  | ensure_registered command => left; rw [world_ensure_registered]
  | is_member principal channel body => left; rw [world_is_member]
  | task_create principal channel title =>
    left
    simp only [perform]
    split
    · rfl
    · rfl
  | task_claim principal task_id => left; rw [perform, world_task_result]
  | task_done principal task_id => left; rw [perform, world_task_result]
  | task_release principal task_id => left; rw [perform, world_task_result]
  | _ => exact .inl rfl

theorem principal_perform {x : Section} {principal : Principal} (speaks : (perform cfg w env sid x).1.principal sid' = some principal) :
    w.principal sid' = some principal ∨ principal ∈ people w.db := by
  rcases @session_perform cfg w env sid sid' x with same | ⟨_, _, known, listed, _, session⟩
  · rw [World.principal, same] at speaks
    exact .inl speaks
  · rw [World.principal, session] at speaks
    cases speaks
    exact .inr listed

theorem principal_handler {principal : Principal} {command : Command} (inside : x ∈ handler principal command) :
    ∀ other ∈ x.principal, other = principal := by
  have single {y : Section} (same : handler principal command = [y]) (acts : ∀ other ∈ y.principal, other = principal) :
      ∀ other ∈ x.principal, other = principal := by
    rw [same] at inside
    rw [List.mem_singleton.mp inside]
    exact acts
  cases command with
  | TaskCreate channel title =>
    by_cases untitled : (trim title).isEmpty = true
    · exact single (if_pos untitled) (by simp [Section.principal])
    · exact single (if_neg untitled) (by simp [Section.principal])
  | History channel after_seq limit =>
    cases channel with
    | none => exact single rfl (by simp [Section.principal])
    | some channel => exact single rfl (by simp [Section.principal])
  | Join channel => exact single rfl (by simp [Section.principal])
  | Part channel => exact single rfl (by simp [Section.principal])
  | Privmsg target body => exact single rfl (by simp [Section.principal])
  | TaskClaim task_id => exact single rfl (by simp [Section.principal])
  | TaskDone task_id => exact single rfl (by simp [Section.principal])
  | TaskRelease task_id => exact single rfl (by simp [Section.principal])
  | TaskList channel => exact single rfl (by simp [Section.principal])
  | _ => cases inside

/-- Behind `ensure_registered` runs the handler for the principal of the session, whose handle is this session. -/
theorem mem_ensure_registered {command : Command} (inside : x ∈ (perform cfg w env sid (.ensure_registered command)).2) :
    (∃ principal, w.principal sid = some principal ∧ w.inner.clients principal.id = some ⟨sid⟩ ∧ x ∈ handler principal command) ∨
    x = .leave ∨ x = .send .NotRegistered ∨ x = .send (.Error "Session replaced by a newer connection".toList) := by
  simp only [perform] at inside
  split at inside
  · split at inside
    · exact .inr (.inl (List.mem_singleton.mp inside))
    · next principal known =>
      split at inside
      · next current =>
        obtain ⟨client, found, same⟩ := (Option.any_eq_true _ _).mp current
        refine .inl ⟨principal, known, ?_, inside⟩
        rw [found, ← of_decide_eq_true same]
      · rcases List.mem_cons.mp inside with rfl | last
        · exact .inr (.inr (.inr rfl))
        · exact .inr (.inl (List.mem_singleton.mp last))
  · exact .inr (.inr (.inl (List.mem_singleton.mp inside)))

theorem principal_task_result {principal : Principal} {result : TaskTable × Except Text Task}
    {task_id command action what : Text} (inside : x ∈ (task_result w principal result task_id command action what).2) :
    x.principal = none := by
  obtain ⟨tasks, outcome⟩ := result
  cases outcome with
  | error reason => rw [List.mem_singleton.mp inside]; rfl
  | ok task => rw [List.mem_singleton.mp inside]; rfl

/-- A section acts for the principal of the section before it, of the session, or of an authentication. -/
theorem section_principal_perform {principal : Principal} (inside : x ∈ (perform cfg w env sid here).2)
    (acts : principal ∈ x.principal) :
    here.principal = some principal ∨ w.principal sid = some principal ∨ principal ∈ people w.db := by
  have mapped {α : Type} {l : List α} {f : α → Section} {who : Option Principal} (inside : x ∈ l.map f)
      (each : ∀ a, (f a).principal = who) : who = some principal := by
    obtain ⟨a, _, rfl⟩ := List.mem_map.mp inside
    rw [each] at acts
    exact acts
  cases here with
  | try_register =>
    rcases perform_try_register cfg w env sid with ⟨_, result, plain⟩ | ⟨newcomer, _, authentic, result⟩
    · rw [result] at inside
      rw [plain x inside] at acts
      cases acts
    · rw [result] at inside
      rw [List.mem_singleton.mp inside] at acts
      cases acts
      exact .inr (.inr (authenticating_mem authentic))
  | ensure_registered command =>
    rcases mem_ensure_registered inside with ⟨speaker, known, _, handled⟩ | rfl | rfl | rfl
    · rw [principal_handler handled principal acts]
      exact .inr (.inl known)
    · cases acts
    · cases acts
    · cases acts
  | mark_connected newcomer => rw [List.mem_singleton.mp inside] at acts; exact .inl acts
  | insert_client newcomer rows =>
    simp only [perform, welcome, List.mem_append, List.mem_singleton] at inside
    rcases inside with (rfl | joins) | replays
    · cases acts
    · cases @mapped _ _ _ none joins (fun _ => rfl)
    · split at replays
      · cases replays
      · rcases List.mem_cons.mp replays with rfl | replays
        · cases acts
        · exact .inl (mapped replays (fun _ => rfl))
  | history reader channel after_seq limit =>
    simp only [perform, List.mem_append] at inside
    rcases inside with named | seen
    · cases @mapped _ _ _ none named (fun _ => rfl)
    · split at seen
      · rw [List.mem_singleton.mp seen] at acts; cases acts
      · cases seen
  | memberships reader after_seq limit => exact .inl (mapped inside (fun _ => rfl))
  | add_membership newcomer channel => rw [List.mem_singleton.mp inside] at acts; exact .inl acts
  | remove_membership leaver channel => rw [List.mem_singleton.mp inside] at acts; exact .inl acts
  | add_member newcomer channel => rw [List.mem_singleton.mp inside] at acts; cases acts
  | remove_member leaver channel => rw [List.mem_singleton.mp inside] at acts; cases acts
  | display_name message => rw [List.mem_singleton.mp inside] at acts; cases acts
  | broadcast_raw channel line => cases @mapped _ _ _ none inside (fun _ => rfl)
  | broadcast_message channel message notice => cases @mapped _ _ _ none inside (fun _ => rfl)
  | append channel sender_id body notice => rw [List.mem_singleton.mp inside] at acts; cases acts
  | is_member speaker channel body =>
    simp only [perform] at inside
    split at inside
    · rw [List.mem_singleton.mp inside] at acts; cases acts
    · rw [List.mem_singleton.mp inside] at acts; cases acts
  | deliver channel message notice recipient =>
    rw [perform_deliver] at inside
    dsimp only at inside
    split at inside
    · rw [List.mem_singleton.mp inside] at acts; cases acts
    · cases inside
  | task_create speaker channel title =>
    simp only [perform] at inside
    split at inside
    · rw [List.mem_singleton.mp inside] at acts; cases acts
    · rw [List.mem_singleton.mp inside] at acts; cases acts
  | task_claim speaker task_id => rw [principal_task_result inside] at acts; cases acts
  | task_done speaker task_id => rw [principal_task_result inside] at acts; cases acts
  | task_release speaker task_id => rw [principal_task_result inside] at acts; cases acts
  | task_list speaker channel =>
    simp only [perform] at inside
    split at inside
    · rw [List.mem_singleton.mp inside] at acts; cases acts
    · cases @mapped _ _ _ none inside (fun _ => rfl)
  | remove_client leaver =>
    simp only [perform] at inside
    split at inside
    · rcases List.mem_cons.mp inside with rfl | last
      · cases acts
      · rw [List.mem_singleton.mp last] at acts; cases acts
    · rw [List.mem_singleton.mp inside] at acts; cases acts
  | _ => cases inside

/-! ## Whole runs -/

/-- Everyone is one of the principals of the database, who stay the same. -/
structure Introduced (known : List Principal) (s : System) : Prop where
  people : people s.world.db = known
  sessions : ∀ sid, ∀ principal ∈ s.world.principal sid, principal ∈ known
  sections : ∀ sid, ∀ x ∈ s.threads sid, ∀ principal ∈ x.principal, principal ∈ known

/-- Only sections change the database. -/
theorem db_step_other (cfg : Config) (s : System) {e : Event} (notRun : ∀ sid env, e ≠ .run sid env) :
    (step cfg s e).world.db = s.world.db := by
  have started (w : World) (sid : SessionId) (command : Command) : (handle_command w sid command).1.db = w.db := by
    cases command with
    | Pass token => exact db_setSession w sid _
    | Nick nick => exact db_setSession w sid _
    | _ => rfl
  cases e with
  | run sid env => exact absurd rfl (notRun sid env)
  | connect sid =>
    simp only [step]
    split
    · rw [accept, db_send, db_modify]
    · rfl
  | receive sid command =>
    simp only [step]
    split
    · exact started _ _ _
    · rfl
  | eof sid =>
    simp only [step]
    split
    · rfl
    · rfl
  | shutdown sid =>
    simp only [step]
    split
    · rfl
    split
    · rfl
    · rfl
  | read_error sid =>
    simp only [step]
    split
    · rfl
    · rfl
  | writer_end sid => rfl
  | restart => rfl

theorem people_step (cfg : Config) (s : System) (e : Event) : people (step cfg s e).world.db = people s.world.db := by
  rcases stepped cfg s e with ⟨sid, env, here, rest, rfl, head⟩ | idle | notRun
  · rw [step_run head]; exact people_perform here
  · rw [idle]
  · rw [db_step_other cfg s notRun]

theorem principal_disconnect {principal : Principal} (inside : x ∈ disconnect w sid) (acts : principal ∈ x.principal) :
    principal ∈ w.principal sid := by
  unfold disconnect at inside
  split at inside
  · rw [List.mem_singleton.mp inside] at acts; cases acts
  · next leaver known =>
    rw [List.mem_singleton.mp inside] at acts
    cases acts
    exact known

/-- A task begins with sections of its session alone. -/
theorem Begins.principal {e : Event} {sections : List Section} {principal : Principal} (begins : Begins w sid e sections)
    (inside : x ∈ sections) (acts : principal ∈ x.principal) : principal ∈ w.principal sid := by
  rcases begins with ⟨command, _, rfl⟩ | rfl | ⟨reason, rfl⟩
  · cases command with
    | Quit => exact principal_disconnect inside acts
    | Cap subcommand capabilities =>
      obtain ⟨line, _, rfl⟩ := List.mem_map.mp inside
      cases acts
    | Pong => cases inside
    | _ => rw [List.mem_singleton.mp inside] at acts; cases acts
  · exact principal_disconnect inside acts
  · rcases List.mem_cons.mp inside with rfl | later
    · cases acts
    · exact principal_disconnect later acts

/-- Nobody speaks for a session before its registration. -/
theorem speaks_step {e : Event} {principal : Principal} (inv : Introduced known s)
    (speaks : principal ∈ (step cfg s e).world.principal sid) : principal ∈ known := by
  rcases stepped cfg s e with ⟨task, env, here, rest, rfl, head⟩ | idle | notRun
  · rw [step_run head] at speaks
    rcases principal_perform speaks with before | listed
    · exact inv.sessions sid principal before
    · exact inv.people ▸ listed
  · rw [idle] at speaks; exact inv.sessions sid principal speaks
  · by_cases restarts : e = .restart
    · subst restarts
      rw [Concurrent.step, World.principal, (connections_restart sid).1] at speaks
      exact inv.sessions sid principal speaks
    · rw [(step_other cfg s notRun restarts).1.principal] at speaks
      exact inv.sessions sid principal speaks

theorem Introduced.step {e : Event} (inv : Introduced known s) : Introduced known (step cfg s e) := by
  refine ⟨(people_step cfg s e).trans inv.people, fun sid principal speaks => speaks_step inv speaks, ?_⟩
  intro sid x inside principal acts
  rcases threads_step cfg s e sid with same | ⟨env, here, rest, rfl, head, next⟩ | ⟨_, _, begins⟩ | ⟨_, empty⟩
  · rw [same] at inside
    exact inv.sections sid x inside principal acts
  · rw [next] at inside
    rcases List.mem_append.mp inside with new | later
    · rcases section_principal_perform new acts with before | speaks | listed
      · exact inv.sections sid here (by rw [head]; exact List.mem_cons_self) principal before
      · exact inv.sessions sid principal speaks
      · exact inv.people ▸ listed
    · exact inv.sections sid x (by rw [head]; exact List.mem_cons_of_mem here later) principal acts
  · exact inv.sessions sid principal (begins.principal inside acts)
  · rw [empty] at inside; cases inside

theorem introduced_run (cfg : Config) (db : Db) (events : List Event) :
    Introduced (people db) (run (step cfg) (start db) events) := by
  apply run_invariant (fun _ _ inv => inv.step) events
  refine ⟨rfl, ?_, ?_⟩
  · intro sid principal speaks; cases speaks
  · intro sid x inside; cases inside

end Aircd.Concurrent

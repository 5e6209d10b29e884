import Aircd.People

/-!
# Connection status

A registration updates `principals` and then inserts its handle; a disconnection
removes the handle and then updates `principals`. When the second half of a
disconnection comes after the first half of a newer registration, it overtakes it.
-/
namespace Aircd.Concurrent
open Aircd.Runs Aircd.Text Aircd.Protocol Aircd.Auth Aircd.History Aircd.Tasks Aircd.Store Aircd.Server

/-- `principals.disconnected_at`. -/
def disconnected_at (db : Db) (p : Text) : Option Int := (db.principals.find p).bind (·.disconnected_at)

/-- The principal whose registration or disconnection a section is a part of. -/
def Section.connects : Section → Option Text
  | .mark_connected principal => some principal.id
  | .insert_client principal _ => some principal.id
  | .remove_client principal => some principal.id
  | .mark_disconnected principal_id => some principal_id
  | _ => none

/-- No registration and no disconnection of the principal is in progress. -/
def Quiet (s : System) (p : Text) : Prop := ∀ sid, ∀ x ∈ s.threads sid, x.connects ≠ some p

/-- A registration of the principal is about to insert its handle. -/
def Inserting (s : System) (p : Text) : Prop :=
  ∃ sid principal rows, Section.insert_client principal rows ∈ s.threads sid ∧ principal.id = p

/-- A disconnection of the principal is about to update `principals`. -/
def Marking (s : System) (p : Text) : Prop := ∃ sid, Section.mark_disconnected p ∈ s.threads sid

/-- The section that an event runs. -/
def ran (s : System) : Event → Option Section
  | .run sid _ => (s.threads sid).head?
  | _ => none

/-- The system, with the principals that have registered in this lifetime of the
    server, and with those whose last update as disconnected came when a newer
    registration had updated it as connected. -/
structure Overseen where
  system : System
  registered : Text → Bool
  overtaken : Text → Prop

def oversee (cfg : Config) (o : Overseen) (e : Event) : Overseen where
  system := step cfg o.system e
  registered p :=
    match e, ran o.system e with
    | .restart, _ => false
    | _, some (.mark_connected principal) => decide (principal.id = p) || o.registered p
    | _, _ => o.registered p
  overtaken p :=
    match ran o.system e with
    | some (.mark_connected principal) => principal.id ≠ p ∧ o.overtaken p
    | some (.mark_disconnected id) =>
      if id = p then (o.system.world.inner.clients p).isSome ∨ Inserting o.system p else o.overtaken p
    | _ => o.overtaken p

def launch (db : Db) : Overseen := ⟨start db, fun _ => false, fun _ => False⟩

/-- The status of every registered principal says whether it has a handle, while
    no registration and no disconnection of it is in progress. -/
def Truthful (o : Overseen) : Prop :=
  ∀ p, o.registered p = true → Quiet o.system p →
    (disconnected_at o.system.world.db p = none ↔ (o.system.world.inner.clients p).isSome)

/-- No such principal is overtaken. -/
def InStep (o : Overseen) : Prop := ∀ p, o.registered p = true → Quiet o.system p → ¬ o.overtaken p

variable {cfg : Config} {s : System} {w : World} {env : Env} {sid sid' : SessionId} {x here : Section} {p : Text}
  {known : List Principal} {o : Overseen} {e : Event}

/-! ## What the sections do to the status -/

/-- An update of another principal, or of other columns, leaves the status. -/
theorem disconnected_at_update {db db' : Db} {id : Text} {set : PrincipalRow → PrincipalRow}
    {keeps : ∀ row, (set row).id = row.id}
    (updated : db'.principals = db.principals.update (fun row => decide (row.id = id)) set keeps)
    (same : id = p → ∀ row, (set row).disconnected_at = row.disconnected_at) :
    disconnected_at db' p = disconnected_at db p := by
  rw [disconnected_at, disconnected_at, updated, Table.find_update]
  cases found : db.principals.find p with
  | none => rfl
  | some row =>
    have self : row.id = p := (Table.find_iff.mp found).2
    by_cases here : id = p
    · by_cases selected : row.id = id
      · simp [selected, same here]
      · simp [selected]
    · have other : row.id ≠ id := fun selected => here (selected.symm.trans self)
      simp [other]

/-- Only two sections change the status. -/
theorem disconnected_at_perform : disconnected_at (perform cfg w env sid x).1.db p =
    match x with
    | .mark_connected principal => if principal.id = p then none else disconnected_at w.db p
    | .mark_disconnected id => if id = p then (w.db.principals.find p).map (fun _ => env.now) else disconnected_at w.db p
    | _ => disconnected_at w.db p := by
  have still {db : Db} (same : db.principals = w.db.principals) : disconnected_at db p = disconnected_at w.db p := by
    rw [disconnected_at, disconnected_at, same]
  cases x with
  | mark_connected principal =>
    dsimp only
    split
    · next here =>
      simp only [perform, mark_connected_and_memberships, disconnected_at, Table.find_update]
      cases found : w.db.principals.find p with
      | none => rfl
      | some row =>
        have self : row.id = principal.id := (Table.find_iff.mp found).2.trans here.symm
        simp [self]
    · next other =>
      exact @disconnected_at_update p w.db _ principal.id
        (fun row => { row with connected_at := some env.now, disconnected_at := none }) (fun _ => rfl) rfl
        (fun here => absurd here other)
  | mark_disconnected id =>
    dsimp only
    split
    · next here =>
      simp only [perform, Store.mark_disconnected, disconnected_at, Table.find_update]
      cases found : w.db.principals.find p with
      | none => rfl
      | some row =>
        have self : row.id = id := (Table.find_iff.mp found).2.trans here.symm
        simp [self]
    · next other =>
      exact @disconnected_at_update p w.db _ id (fun row => { row with disconnected_at := some env.now }) (fun _ => rfl) rfl
        (fun here => absurd here other)
  | mark_seen id channel seq =>
    exact @disconnected_at_update p w.db _ id (fun row => { row with last_seen_seq := max row.last_seen_seq seq })
      (fun _ => rfl) rfl (fun _ _ => rfl)
  | send line => exact still (by simp [perform])
  | forward client line => exact still (by simp [perform])
  | deliver channel message notice recipient => rw [perform_deliver]; exact still (by simp)
  | try_register =>
    rcases perform_try_register cfg w env sid with ⟨_, result, _⟩ | ⟨_, _, _, result⟩
    · rw [result]
    · rw [result]; rfl
  | insert_client principal memberships => exact still (by simp [perform])
  | remove_client principal => exact still (by rw [perform_remove_client, (remove_client_frame _ _ _).1])
  | ensure_registered command => rw [world_ensure_registered]
  | is_member principal channel body => rw [world_is_member]
  | task_create principal channel title =>
    simp only [perform]
    split
    · rfl
    · rfl
  | task_claim principal task_id => rw [perform, world_task_result]; rfl
  | task_done principal task_id => rw [perform, world_task_result]; rfl
  | task_release principal task_id => rw [perform, world_task_result]; rfl
  | _ => rfl

/-- The sections with which a session ends, by its own end or by an error. -/
def Section.ends : Section → Bool
  | .remove_client _ => true
  | .mark_disconnected _ => true
  | .finish => true
  | .leave => true
  | _ => false

/-- The sections that operate on the tasks. -/
def Section.operates : Section → Bool
  | .task_create _ _ _ => true
  | .task_claim _ _ => true
  | .task_done _ _ => true
  | .task_release _ _ => true
  | _ => false

theorem handler_open (principal : Principal) (command : Command) : ∀ x ∈ handler principal command, x.ends = false := by
  intro x inside
  cases command with
  | TaskCreate channel title =>
    simp only [handler] at inside
    split at inside
    · rw [List.mem_singleton.mp inside]; rfl
    · rw [List.mem_singleton.mp inside]; rfl
  | History channel after_seq limit =>
    cases channel with
    | none => rw [List.mem_singleton.mp inside]; rfl
    | some channel => rw [List.mem_singleton.mp inside]; rfl
  | Join channel => rw [List.mem_singleton.mp inside]; rfl
  | Part channel => rw [List.mem_singleton.mp inside]; rfl
  | Privmsg target body => rw [List.mem_singleton.mp inside]; rfl
  | TaskClaim task_id => rw [List.mem_singleton.mp inside]; rfl
  | TaskDone task_id => rw [List.mem_singleton.mp inside]; rfl
  | TaskRelease task_id => rw [List.mem_singleton.mp inside]; rfl
  | TaskList channel => rw [List.mem_singleton.mp inside]; rfl
  | _ => cases inside

theorem task_result_open (principal : Principal) (result : TaskTable × Except Text Task) (task_id command action what : Text) :
    ∀ x ∈ (task_result w principal result task_id command action what).2, (x.operates || x.ends) = false := by
  obtain ⟨tasks, outcome⟩ := result
  intro x inside
  cases outcome with
  | error reason => rw [List.mem_singleton.mp inside]; rfl
  | ok task => rw [List.mem_singleton.mp inside]; rfl

/-- Three kinds of sections lead to an operation on a task or towards the end of a session. -/
theorem final_perform (inside : x ∈ (perform cfg w env sid here).2) (final : (x.operates || x.ends) = true) :
    (∃ principal, here = .remove_client principal) ∨ (∃ command, here = .ensure_registered command) ∨
      ∃ principal channel title, here = .task_create principal channel title := by
  have none {more : List Section} {outcome : Prop} (plain : ∀ x ∈ more, (x.operates || x.ends) = false) (inside : x ∈ more) : outcome := by
    rw [plain x inside] at final
    cases final
  have one {y : Section} (plain : (y.operates || y.ends) = false) : ∀ x ∈ [y], (x.operates || x.ends) = false := by
    intro x inside
    rw [List.mem_singleton.mp inside, plain]
  cases here with
  | remove_client principal => exact .inl ⟨principal, rfl⟩
  | ensure_registered command => exact .inr (.inl ⟨command, rfl⟩)
  | task_create principal channel title => exact .inr (.inr ⟨principal, channel, title, rfl⟩)
  | try_register =>
    rcases perform_try_register cfg w env sid with ⟨more, result, plain⟩ | ⟨principal, _, _, result⟩
    · rw [result] at inside
      exact none (fun x inside => by rw [plain x inside]; rfl) inside
    · rw [result] at inside
      exact none (one rfl) inside
  | mark_connected principal => exact none (one rfl) inside
  | insert_client principal memberships =>
    refine none ?_ inside
    intro x inside
    simp only [perform, welcome, List.mem_append, List.mem_singleton, List.mem_map] at inside
    rcases inside with (rfl | ⟨membership, _, rfl⟩) | replays
    · rfl
    · rfl
    · split at replays
      · cases replays
      · rcases List.mem_cons.mp replays with rfl | later
        · rfl
        · obtain ⟨membership, _, rfl⟩ := List.mem_map.mp later
          rfl
  | history principal channel after_seq limit =>
    refine none ?_ inside
    intro x inside
    simp only [perform, List.mem_append, List.mem_map] at inside
    rcases inside with ⟨message, _, rfl⟩ | seen
    · rfl
    · split at seen
      · rw [List.mem_singleton.mp seen]; rfl
      · cases seen
  | display_name message => exact none (one rfl) inside
  | memberships principal after_seq limit =>
    obtain ⟨membership, _, rfl⟩ := List.mem_map.mp inside
    cases final
  | add_membership principal channel => exact none (one rfl) inside
  | add_member principal channel => exact none (one rfl) inside
  | remove_membership principal channel => exact none (one rfl) inside
  | remove_member principal channel => exact none (one rfl) inside
  | broadcast_raw channel line =>
    obtain ⟨recipient, _, rfl⟩ := List.mem_map.mp inside
    cases final
  | is_member principal channel body =>
    simp only [perform] at inside
    split at inside
    · exact none (one rfl) inside
    · exact none (one rfl) inside
  | append channel sender_id body notice => exact none (one rfl) inside
  | broadcast_message channel message notice =>
    obtain ⟨recipient, _, rfl⟩ := List.mem_map.mp inside
    cases final
  | deliver channel message notice recipient =>
    rw [perform_deliver] at inside
    dsimp only at inside
    split at inside
    · exact none (one rfl) inside
    · cases inside
  | task_claim principal task_id => exact none (task_result_open _ _ _ _ _ _) inside
  | task_done principal task_id => exact none (task_result_open _ _ _ _ _ _) inside
  | task_release principal task_id => exact none (task_result_open _ _ _ _ _ _) inside
  | task_list principal channel =>
    simp only [perform] at inside
    split at inside
    · exact none (one rfl) inside
    · obtain ⟨task, _, rfl⟩ := List.mem_map.mp inside
      cases final
  | _ => cases inside

/-- What stands behind the guard of a command. -/
theorem perform_ensure_registered_cases (cfg : Config) (w : World) (env : Env) (sid : SessionId) (command : Command) :
    (∃ principal, (perform cfg w env sid (.ensure_registered command)).2 = handler principal command) ∨
    (∃ line, (perform cfg w env sid (.ensure_registered command)).2 = [.send line]) ∨
    (perform cfg w env sid (.ensure_registered command)).2 = [.leave] ∨
    ∃ line, (perform cfg w env sid (.ensure_registered command)).2 = [.send line, .leave] := by
  simp only [perform]
  split
  · split
    · exact .inr (.inr (.inl rfl))
    · next principal _ =>
      split
      · exact .inl ⟨principal, rfl⟩
      · exact .inr (.inr (.inr ⟨_, rfl⟩))
  · exact .inr (.inl ⟨_, rfl⟩)

theorem perform_task_create_cases (cfg : Config) (w : World) (env : Env) (sid : SessionId) (principal : Principal)
    (channel title : Text) :
    (perform cfg w env sid (.task_create principal channel title)).2 = [.leave] ∨
    ∃ channel' body notice, (perform cfg w env sid (.task_create principal channel title)).2 =
      [.append channel' SERVER_NAME body notice] := by
  simp only [perform]
  split
  · exact .inl rfl
  · exact .inr ⟨_, _, _, rfl⟩

theorem perform_remove_client_cases (cfg : Config) (w : World) (env : Env) (sid : SessionId) (principal : Principal) :
    (w.inner.clients principal.id = some ⟨sid⟩ ∧
      (perform cfg w env sid (.remove_client principal)).2 = [.mark_disconnected principal.id, .finish]) ∨
    (w.inner.clients principal.id ≠ some ⟨sid⟩ ∧
      (perform cfg w env sid (.remove_client principal)).2 = [.finish]) := by
  simp only [perform, Server.remove_client]
  cases found : w.inner.clients principal.id with
  | none => exact .inr ⟨by simp, by simp⟩
  | some client =>
    obtain ⟨owner⟩ := client
    by_cases mine : owner = sid
    · exact .inl ⟨by rw [mine], by simp [mine]⟩
    · exact .inr ⟨by simp [mine], by simp [mine]⟩

/-- A disconnection goes on to its second half once it has removed its handle. -/
theorem marking_perform (inside : .mark_disconnected p ∈ (perform cfg w env sid here).2) :
    ∃ principal, here = .remove_client principal ∧ principal.id = p ∧ w.inner.clients p = some ⟨sid⟩ := by
  rcases final_perform inside rfl with ⟨principal, rfl⟩ | ⟨command, rfl⟩ | ⟨principal, channel, title, rfl⟩
  · rcases perform_remove_client_cases cfg w env sid principal with ⟨mine, next⟩ | ⟨_, next⟩
    · rw [next] at inside
      rcases List.mem_cons.mp inside with same | later
      · cases same
        exact ⟨principal, rfl, rfl, mine⟩
      · cases List.mem_singleton.mp later
    · rw [next] at inside
      cases List.mem_singleton.mp inside
  · rcases perform_ensure_registered_cases cfg w env sid command with ⟨speaker, next⟩ | ⟨line, next⟩ | next | ⟨line, next⟩
    · rw [next] at inside
      cases handler_open speaker command _ inside
    · simp [next] at inside
    · simp [next] at inside
    · simp [next] at inside
  · rcases perform_task_create_cases cfg w env sid principal channel title with next | ⟨_, _, _, next⟩
    · simp [next] at inside
    · simp [next] at inside

/-! ## What an event does to the status -/

/-- The principal has a handle, or a registration is about to insert one. -/
def Present (s : System) (p : Text) : Prop := (s.world.inner.clients p).isSome ∨ Inserting s p

/-- What an event does to the status of one principal. -/
inductive Turn (o o' : Overseen) (p : Text) : Prop where
  | same (registered : o'.registered p = o.registered p) (overtaken : o'.overtaken p ↔ o.overtaken p)
      (status : disconnected_at o'.system.world.db p = disconnected_at o.system.world.db p)
      (present : Present o'.system p ↔ Present o.system p) (marking : Marking o'.system p ↔ Marking o.system p)
  | connected (overtaken : ¬ o'.overtaken p) (status : disconnected_at o'.system.world.db p = none)
      (present : Present o'.system p)
  | removed (registered : o'.registered p = o.registered p) (overtaken : o'.overtaken p ↔ o.overtaken p)
      (status : disconnected_at o'.system.world.db p = disconnected_at o.system.world.db p)
      (present : Present o.system p) (marking : Marking o'.system p)
  | marked (registered : o'.registered p = o.registered p) (overtaken : o'.overtaken p ↔ Present o.system p)
      (status : o.registered p = true → (disconnected_at o'.system.world.db p).isSome)
      (present : Present o'.system p ↔ Present o.system p)
  | restarted (registered : o'.registered p = false)

/-- The status of a principal that was overtaken is wrong for as long as it has a
    handle; that of any other is right, up to what its calls have left to do. -/
def Fits (o : Overseen) (p : Text) : Prop :=
  o.registered p = true →
    (o.overtaken p → (disconnected_at o.system.world.db p).isSome ∧ (Present o.system p ∨ Marking o.system p)) ∧
    (¬ o.overtaken p → (Present o.system p → disconnected_at o.system.world.db p = none) ∧
      (¬ Present o.system p → ¬ Marking o.system p → (disconnected_at o.system.world.db p).isSome))

theorem Fits.turn {o' : Overseen} (fits : Fits o p) (turn : Turn o o' p) : Fits o' p := by
  intro registered
  cases turn with
  | same registered' overtaken status present marking =>
    rw [overtaken, status, present, marking]
    exact fits (registered' ▸ registered)
  | connected overtaken status present =>
    exact ⟨fun late => absurd late overtaken, fun _ => ⟨fun _ => status, fun absent => absurd present absent⟩⟩
  | removed registered' overtaken status present marking =>
    rw [overtaken, status]
    obtain ⟨late, early⟩ := fits (registered' ▸ registered)
    exact ⟨fun h => ⟨(late h).1, .inr marking⟩, fun h => ⟨fun _ => (early h).1 present, fun _ none => absurd marking none⟩⟩
  | marked registered' overtaken status present =>
    have recorded := status (registered' ▸ registered)
    rw [overtaken, present]
    exact ⟨fun here => ⟨recorded, .inl here⟩, fun absent => ⟨fun here => absurd here absent, fun _ _ => recorded⟩⟩
  | restarted registered' => rw [registered'] at registered; cases registered

/-- A principal whose calls are all over has a right status exactly when it was not overtaken. -/
theorem Fits.truthful_iff (fits : Fits o p) (registered : o.registered p = true) (quiet : Quiet o.system p) :
    (disconnected_at o.system.world.db p = none ↔ (o.system.world.inner.clients p).isSome) ↔ ¬ o.overtaken p := by
  have notMarking : ¬ Marking o.system p := fun ⟨sid, inside⟩ => quiet sid _ inside rfl
  have present : Present o.system p ↔ (o.system.world.inner.clients p).isSome := by
    refine or_iff_left ?_
    rintro ⟨sid, principal, rows, inside, rfl⟩
    exact quiet sid _ inside rfl
  obtain ⟨late, early⟩ := fits registered
  rw [present] at late early
  by_cases overtaken : o.overtaken p
  · obtain ⟨recorded, stays⟩ := late overtaken
    have handle := stays.resolve_right notMarking
    have wrong : disconnected_at o.system.world.db p ≠ none := Option.isSome_iff_ne_none.mp recorded
    simp [overtaken, handle, wrong]
  · obtain ⟨connected, gone⟩ := early overtaken
    simp only [overtaken, not_false_eq_true, iff_true]
    refine ⟨?_, connected⟩
    intro free
    by_contra absent
    have recorded := gone absent notMarking
    rw [free] at recorded
    cases recorded

/-! ### Every event has one of these turns -/

/-- The task that runs its first section keeps the others, and puts new ones before them. -/
theorem mem_run_iff {rest : List Section} (head : s.threads sid = here :: rest) (other : x ≠ here) :
    x ∈ (step cfg s (.run sid env)).threads sid' ↔
      x ∈ s.threads sid' ∨ (sid' = sid ∧ x ∈ (perform cfg s.world env sid here).2) := by
  rw [step_run head, threads_resume]
  by_cases mine : sid' = sid
  · subst mine
    rw [if_pos rfl, head, List.mem_append, List.mem_cons, or_iff_right other]
    simp [or_comm]
  · rw [if_neg mine]
    simp [mine]

/-- What is in a task after an event that runs no section was there before, or begins the task. -/
theorem mem_other_iff (notRun : ∀ sid env, e ≠ .run sid env) (lasting : e ≠ .restart) (stale : ¬ x.fresh) :
    x ∈ (step cfg s e).threads sid ↔ x ∈ s.threads sid := by
  rcases threads_step cfg s e sid with same | ⟨env, _, _, runs, _⟩ | ⟨empty, _, begins⟩ | ⟨restarts, _⟩
  · rw [same]
  · exact absurd runs (notRun sid env)
  · rw [empty]
    exact ⟨fun inside => absurd (begins.fresh inside) stale, fun inside => by cases inside⟩
  · exact absurd restarts lasting

theorem turn_other (notRun : ∀ sid env, e ≠ .run sid env) (lasting : e ≠ .restart) : Turn o (oversee cfg o e) p := by
  have nothing : ran o.system e = none := by
    cases e with
    | run sid env => exact absurd rfl (notRun sid env)
    | _ => rfl
  have clients : (step cfg o.system e).world.inner.clients = o.system.world.inner.clients := by
    rw [(step_other cfg o.system notRun lasting).1.inner]
  have stays {x : Section} (stale : ¬ x.fresh) (sid : SessionId) :
      x ∈ (step cfg o.system e).threads sid ↔ x ∈ o.system.threads sid := mem_other_iff notRun lasting stale
  refine .same ?_ ?_ ?_ ?_ ?_
  · simp only [oversee, nothing]
  · simp only [oversee, nothing]
  · simp only [oversee]
    rw [db_step_other cfg o.system notRun]
  · simp only [oversee, Present, Inserting]
    rw [clients]
    refine or_congr_right (exists_congr (fun sid => exists_congr (fun principal => exists_congr (fun rows => ?_))))
    exact and_congr_left (fun _ => @stays (.insert_client principal rows) id sid)
  · simp only [oversee, Marking]
    exact exists_congr (fun sid => @stays (.mark_disconnected p) id sid)

section
variable {rest : List Section} (head : o.system.threads sid = here :: rest)
include head

/-- A section that is no part of a registration or disconnection of the principal. -/
theorem turn_aside (connected : ∀ principal, here = .mark_connected principal → principal.id ≠ p)
    (inserted : ∀ principal rows, here = .insert_client principal rows → principal.id ≠ p)
    (removed : ∀ principal, here = .remove_client principal → principal.id = p →
      o.system.world.inner.clients p ≠ some ⟨sid⟩)
    (marked : here ≠ .mark_disconnected p) : Turn o (oversee cfg o (.run sid env)) p := by
  have clients : (step cfg o.system (.run sid env)).world.inner.clients p = o.system.world.inner.clients p := by
    rw [step_run head, world_resume, clients_perform]
    cases here with
    | insert_client principal rows => exact if_neg (fun same => inserted principal rows rfl same.symm)
    | remove_client principal =>
      exact if_neg (fun both => removed principal rfl both.1.symm both.2)
    | _ => rfl
  refine .same ?_ ?_ ?_ ?_ ?_
  · simp only [oversee, ran, head, List.head?_cons]
    cases here with
    | mark_connected principal => simp [connected principal rfl]
    | _ => rfl
  · simp only [oversee, ran, head, List.head?_cons]
    cases here with
    | mark_connected principal => exact and_iff_right (connected principal rfl)
    | mark_disconnected id =>
      have other : id ≠ p := by
        rintro rfl
        exact marked rfl
      exact iff_of_eq (if_neg other)
    | _ => rfl
  · simp only [oversee]
    rw [step_run head, world_resume, disconnected_at_perform]
    cases here with
    | mark_connected principal => exact if_neg (connected principal rfl)
    | mark_disconnected id =>
      have other : id ≠ p := by
        rintro rfl
        exact marked rfl
      exact if_neg other
    | _ => rfl
  · simp only [oversee, Present, Inserting]
    rw [clients]
    refine or_congr_right (exists_congr (fun sid' => exists_congr (fun principal => exists_congr (fun rows => ?_))))
    refine and_congr_left (fun self => ?_)
    rw [mem_run_iff head (fun same => inserted principal rows same.symm self)]
    refine or_iff_left ?_
    rintro ⟨_, new⟩
    exact connected principal (leads_perform new).1 self
  · simp only [oversee, Marking]
    refine exists_congr (fun sid' => ?_)
    rw [mem_run_iff head (fun same => marked same.symm)]
    refine or_iff_left ?_
    rintro ⟨_, new⟩
    obtain ⟨principal, removes, self, mine⟩ := marking_perform new
    exact removed principal removes self mine

theorem turn_run (listed : o.registered p = true → (o.system.world.db.principals.find p).isSome) :
    Turn o (oversee cfg o (.run sid env)) p := by
  have aside := @turn_aside cfg env sid here p o rest head
  by_cases own : here.connects = some p
  · cases here with
    | mark_connected principal =>
      obtain rfl : principal.id = p := Option.some.inj own
      refine .connected ?_ ?_ (.inr ⟨sid, principal, memberships o.system.world.db principal.id, ?_, rfl⟩)
      · simp [oversee, ran, head]
      · simp only [oversee]
        rw [step_run head, world_resume, disconnected_at_perform]
        exact if_pos rfl
      · simp only [oversee]
        exact (mem_run_iff head (by simp)).mpr (.inr ⟨rfl, List.mem_singleton_self _⟩)
    | insert_client principal rows =>
      obtain rfl : principal.id = p := Option.some.inj own
      have handle : (oversee cfg o (.run sid env)).system.world.inner.clients principal.id = some ⟨sid⟩ := by
        simp only [oversee]
        rw [step_run head, world_resume, clients_perform]
        exact if_pos rfl
      refine .same ?_ ?_ ?_ ?_ ?_
      · simp [oversee, ran, head]
      · simp [oversee, ran, head]
      · simp only [oversee]
        rw [step_run head, world_resume, disconnected_at_perform]
      · refine iff_of_true (.inl (by rw [handle]; rfl)) (.inr ⟨sid, principal, rows, ?_, rfl⟩)
        rw [head]
        exact List.mem_cons_self
      · simp only [oversee, Marking]
        refine exists_congr (fun sid' => ?_)
        rw [mem_run_iff head (by simp)]
        refine or_iff_left ?_
        rintro ⟨_, new⟩
        obtain ⟨_, removes, _⟩ := marking_perform new
        cases removes
    | remove_client principal =>
      obtain rfl : principal.id = p := Option.some.inj own
      rcases perform_remove_client_cases cfg o.system.world env sid principal with ⟨mine, next⟩ | ⟨other, _⟩
      · refine .removed ?_ ?_ ?_ (.inl (by rw [mine]; rfl)) ⟨sid, ?_⟩
        · simp [oversee, ran, head]
        · simp [oversee, ran, head]
        · simp only [oversee]
          rw [step_run head, world_resume, disconnected_at_perform]
        · simp only [oversee]
          refine (mem_run_iff head (by simp)).mpr (.inr ⟨rfl, ?_⟩)
          rw [next]
          exact List.mem_cons_self
      · exact aside (fun _ same => by cases same) (fun _ _ same => by cases same) (fun _ _ _ => other)
          (fun same => by cases same)
    | mark_disconnected id =>
      obtain rfl : id = p := Option.some.inj own
      have clients : (oversee cfg o (.run sid env)).system.world.inner.clients id = o.system.world.inner.clients id := by
        simp only [oversee]
        rw [step_run head, world_resume, clients_perform]
      refine .marked ?_ ?_ ?_ ?_
      · simp [oversee, ran, head]
      · simp [oversee, ran, head, Present]
      · intro registered
        simp only [oversee]
        rw [step_run head, world_resume, disconnected_at_perform]
        simpa using listed registered
      · rw [Present, Present, clients]
        refine or_congr_right (exists_congr (fun sid' => exists_congr (fun principal => exists_congr (fun rows => ?_))))
        refine and_congr_left (fun _ => ?_)
        simp only [oversee]
        rw [mem_run_iff head (by simp)]
        refine or_iff_left ?_
        rintro ⟨_, new⟩
        cases new
    | _ => cases own
  · refine aside ?_ ?_ ?_ ?_
    · rintro principal rfl self
      exact own (congrArg some self)
    · rintro principal rows rfl self
      exact own (congrArg some self)
    · rintro principal rfl self
      exact absurd (congrArg some self) own
    · rintro rfl
      exact own rfl

end

/-! ## Whole runs -/

structure Accounted (known : List Principal) (o : Overseen) : Prop where
  introduced : Introduced known o.system
  listed : ∀ p, o.registered p = true → ∃ principal ∈ known, principal.id = p
  fits : ∀ p, Fits o p

theorem Accounted.row (inv : Accounted known o) (registered : o.registered p = true) :
    (o.system.world.db.principals.find p).isSome := by
  obtain ⟨principal, inside, rfl⟩ := inv.listed p registered
  rw [← inv.introduced.people] at inside
  obtain ⟨row, stored, rfl⟩ := List.mem_map.mp inside
  exact Table.find_isSome_iff.mpr ⟨row, stored, rfl⟩

theorem Accounted.listed_step (inv : Accounted known o) (registered : (oversee cfg o e).registered p = true) :
    ∃ principal ∈ known, principal.id = p := by
  cases e with
  | run sid env =>
    cases head : o.system.threads sid with
    | nil =>
      simp only [oversee, ran, head, List.head?_nil] at registered
      exact inv.listed p registered
    | cons here rest =>
      simp only [oversee, ran, head, List.head?_cons] at registered
      cases here with
      | mark_connected principal =>
        simp only [Bool.or_eq_true, decide_eq_true_eq] at registered
        rcases registered with self | before
        · exact ⟨principal, inv.introduced.sections sid _ (by rw [head]; exact List.mem_cons_self) principal rfl, self⟩
        · exact inv.listed p before
      | _ => exact inv.listed p registered
  | restart => cases registered
  | _ => exact inv.listed p registered

theorem Accounted.step (inv : Accounted known o) : Accounted known (oversee cfg o e) := by
  refine ⟨inv.introduced.step, fun p registered => inv.listed_step registered, ?_⟩
  intro p
  refine (inv.fits p).turn ?_
  by_cases runs : ∃ sid env, e = .run sid env
  · obtain ⟨sid, env, rfl⟩ := runs
    cases head : o.system.threads sid with
    | nil =>
      have idle : step cfg o.system (.run sid env) = o.system := step_run_idle head
      refine .same ?_ ?_ ?_ ?_ ?_
      · simp only [oversee, ran, head, List.head?_nil]
      · simp only [oversee, ran, head, List.head?_nil]
      · simp only [oversee, idle]
      · simp only [oversee, idle]
      · simp only [oversee, idle]
    | cons here rest => exact turn_run head inv.row
  · by_cases restarts : e = .restart
    · subst restarts
      exact .restarted rfl
    · exact turn_other (fun sid env same => runs ⟨sid, env, same⟩) restarts

theorem accounted_run (cfg : Config) (db : Db) (events : List Event) :
    Accounted (people db) (run (oversee cfg) (launch db) events) := by
  apply run_invariant (fun _ _ inv => inv.step) events
  refine ⟨introduced_run cfg db [], ?_, ?_⟩
  · intro p registered; cases registered
  · intro p registered; cases registered

/-- Overseeing a run does not change it. -/
theorem system_oversee (cfg : Config) (events : List Event) (o : Overseen) :
    (run (oversee cfg) o events).system = run (step cfg) o.system events := by
  induction events generalizing o with
  | nil => rfl
  | cons e rest ih => exact ih (oversee cfg o e)

/-- The status of every registered principal is right throughout a run exactly when
    none is overtaken whenever its registrations and disconnections are over. -/
theorem status_truthful_iff (cfg : Config) (db : Db) (events : List Event) :
    Always (oversee cfg) Truthful (launch db) events ↔ Always (oversee cfg) InStep (launch db) events := by
  rw [always_iff_run, always_iff_run]
  refine forall_congr' (fun before => forall_congr' (fun after => imp_congr_right (fun _ => ?_)))
  have inv := accounted_run cfg db before
  exact forall_congr' (fun p => forall_congr' (fun registered => forall_congr' (fun quiet =>
    (inv.fits p).truthful_iff registered quiet)))

/-! ### A disconnection that overtakes a registration -/

/-- Alice's first session has removed its handle; her second one registers; then
    the first one marks her as disconnected. -/
def reconnection : List Event :=
  arrival 0 "alice".toList "a".toList ++ sections 0 3 0 ++ [.eof 0] ++ sections 0 1 0 ++
    arrival 1 "alice".toList "a".toList ++ sections 1 3 0 ++ sections 0 2 0

def without_channels : Db := ⟨alice_and_bob, Table.empty, Table.empty, Messages.empty, Table.empty⟩

def reconnected : Overseen := run (oversee plain) (launch without_channels) reconnection

theorem quiet_reconnected (p : Text) : Quiet reconnected.system p := by
  intro sid x inside
  rw [reconnected, system_oversee, launch, idle_of_two (by decide +kernel) (by decide +kernel)] at inside
  cases inside

/-- Alice has a handle, and is marked as disconnected. -/
theorem status_not_truthful : ¬ ∀ events, Always (oversee plain) Truthful (launch without_channels) events := by
  intro always
  have wrong := always_iff_run.mp (always reconnection) reconnection [] (List.append_nil _).symm "alice".toList
    (by decide +kernel) (quiet_reconnected _)
  have handle : (reconnected.system.world.inner.clients "alice".toList).isSome = true := by decide +kernel
  have status : disconnected_at reconnected.system.world.db "alice".toList = some 0 := by decide +kernel
  have none := wrong.mpr handle
  rw [← reconnected, status] at none
  cases none

end Aircd.Concurrent

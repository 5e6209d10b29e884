import Aircd.People
import Aircd.Handoff
import Aircd.Work

/-!
# Handlers come to their end

No handler waits for another one: a section performs in whatever world the tasks
of the others have made, and it leaves only sections of a lower rank. So a task
that keeps getting turns does all that it has to do.
-/
namespace Aircd.Concurrent
open Aircd.Text Aircd.Protocol Aircd.Auth Aircd.History Aircd.Tasks Aircd.Store Aircd.Server

/-- How long a chain of sections can follow from one. -/
def Section.rank : Section → Nat
  | .send _ => 0
  | .try_register => 5
  | .mark_connected _ => 4
  | .insert_client _ _ => 3
  | .history _ _ _ _ => 2
  | .display_name _ => 1
  | .mark_seen _ _ _ => 0
  | .ensure_registered _ => 5
  | .memberships _ _ _ => 3
  | .add_membership _ _ => 3
  | .add_member _ _ => 2
  | .remove_membership _ _ => 3
  | .remove_member _ _ => 2
  | .broadcast_raw _ _ => 1
  | .forward _ _ => 0
  | .is_member _ _ _ => 4
  | .append _ _ _ _ => 3
  | .broadcast_message _ _ _ => 2
  | .deliver _ _ _ _ => 1
  | .task_create _ _ _ => 4
  | .task_claim _ _ => 4
  | .task_done _ _ => 4
  | .task_release _ _ => 4
  | .task_list _ _ => 1
  | .remove_client _ => 1
  | .mark_disconnected _ => 0
  | .finish => 0
  | .leave => 0

variable {cfg : Config} {w : World} {env : Env} {sid : SessionId}

theorem rank_handler {principal : Principal} {command : Command} {y : Section} (inside : y ∈ handler principal command) :
    y.rank < 5 := by
  cases command with
  | History channel after_seq limit =>
    cases channel with
    | none => rw [List.mem_singleton.mp inside]; simp [Section.rank]
    | some channel => rw [List.mem_singleton.mp inside]; simp [Section.rank]
  | TaskCreate channel title =>
    simp only [handler] at inside
    split at inside
    · rw [List.mem_singleton.mp inside]; simp [Section.rank]
    · rw [List.mem_singleton.mp inside]; simp [Section.rank]
  | Join channel => rw [List.mem_singleton.mp inside]; simp [Section.rank]
  | Part channel => rw [List.mem_singleton.mp inside]; simp [Section.rank]
  | Privmsg target body => rw [List.mem_singleton.mp inside]; simp [Section.rank]
  | TaskClaim task_id => rw [List.mem_singleton.mp inside]; simp [Section.rank]
  | TaskDone task_id => rw [List.mem_singleton.mp inside]; simp [Section.rank]
  | TaskRelease task_id => rw [List.mem_singleton.mp inside]; simp [Section.rank]
  | TaskList channel => rw [List.mem_singleton.mp inside]; simp [Section.rank]
  | _ => cases inside

theorem rank_task_result {principal : Principal} {result : TaskTable × Except Text Task} {task_id command action what : Text}
    {y : Section} (inside : y ∈ (task_result w principal result task_id command action what).2) : y.rank < 4 := by
  obtain ⟨tasks, outcome⟩ := result
  cases outcome with
  | error reason => rw [List.mem_singleton.mp inside]; simp [Section.rank]
  | ok task => rw [List.mem_singleton.mp inside]; simp [Section.rank]

theorem rank_welcome {principal : Principal} {memberships : List Membership} {y : Section}
    (inside : y ∈ welcome principal memberships) : y.rank < 3 := by
  simp only [welcome, List.mem_append, List.mem_singleton, List.mem_map] at inside
  rcases inside with (rfl | ⟨membership, _, rfl⟩) | replays
  · simp [Section.rank]
  · simp [Section.rank]
  · split at replays
    · cases replays
    · rcases List.mem_cons.mp replays with rfl | later
      · simp [Section.rank]
      · obtain ⟨membership, _, rfl⟩ := List.mem_map.mp later
        simp [Section.rank]

/-- A section leaves only sections of a lower rank, whatever it finds. -/
theorem ranked_perform (cfg : Config) (env : Env) (sid : SessionId) (w : World) (x : Section) :
    ∀ y ∈ (perform cfg w env sid x).2, y.rank < x.rank := by
  intro y inside
  cases x with
  | try_register =>
    rcases perform_try_register cfg w env sid with ⟨more, result, plain⟩ | ⟨_, _, _, result⟩
    · rw [result] at inside
      rw [plain y inside]; simp [Section.rank]
    · rw [result] at inside
      rw [List.mem_singleton.mp inside]; simp [Section.rank]
  | mark_connected principal => rw [List.mem_singleton.mp inside]; simp [Section.rank]
  | insert_client principal memberships => exact rank_welcome inside
  | history principal channel after_seq limit =>
    simp only [perform, List.mem_append, List.mem_map] at inside
    rcases inside with ⟨message, _, rfl⟩ | seen
    · simp [Section.rank]
    · split at seen
      · rw [List.mem_singleton.mp seen]; simp [Section.rank]
      · cases seen
  | display_name message => rw [List.mem_singleton.mp inside]; simp [Section.rank]
  | ensure_registered command =>
    rcases mem_ensure_registered inside with ⟨principal, _, _, handled⟩ | rfl | rfl | rfl
    · exact rank_handler handled
    · simp [Section.rank]
    · simp [Section.rank]
    · simp [Section.rank]
  | memberships principal after_seq limit =>
    obtain ⟨membership, _, rfl⟩ := List.mem_map.mp inside
    simp [Section.rank]
  | add_membership principal channel => rw [List.mem_singleton.mp inside]; simp [Section.rank]
  | add_member principal channel => rw [List.mem_singleton.mp inside]; simp [Section.rank]
  | remove_membership principal channel => rw [List.mem_singleton.mp inside]; simp [Section.rank]
  | remove_member principal channel => rw [List.mem_singleton.mp inside]; simp [Section.rank]
  | broadcast_raw channel line =>
    obtain ⟨recipient, _, rfl⟩ := List.mem_map.mp inside
    simp [Section.rank]
  | is_member principal channel body =>
    simp only [perform] at inside
    split at inside
    · rw [List.mem_singleton.mp inside]; simp [Section.rank]
    · rw [List.mem_singleton.mp inside]; simp [Section.rank]
  | append channel sender_id body notice => rw [List.mem_singleton.mp inside]; simp [Section.rank]
  | broadcast_message channel message notice =>
    obtain ⟨recipient, _, rfl⟩ := List.mem_map.mp inside
    simp [Section.rank]
  | deliver channel message notice recipient =>
    rw [perform_deliver] at inside
    dsimp only at inside
    split at inside
    · rw [List.mem_singleton.mp inside]; simp [Section.rank]
    · cases inside
  | task_create principal channel title =>
    simp only [perform] at inside
    split at inside
    · rw [List.mem_singleton.mp inside]; simp [Section.rank]
    · rw [List.mem_singleton.mp inside]; simp [Section.rank]
  | task_claim principal task_id => exact rank_task_result inside
  | task_done principal task_id => exact rank_task_result inside
  | task_release principal task_id => exact rank_task_result inside
  | task_list principal channel =>
    simp only [perform] at inside
    split at inside
    · rw [List.mem_singleton.mp inside]; simp [Section.rank]
    · obtain ⟨task, _, rfl⟩ := List.mem_map.mp inside; simp [Section.rank]
  | remove_client principal =>
    simp only [perform] at inside
    split at inside
    · rcases List.mem_cons.mp inside with rfl | later
      · simp [Section.rank]
      · rw [List.mem_singleton.mp later]; simp [Section.rank]
    · rw [List.mem_singleton.mp inside]; simp [Section.rank]
  | _ => cases inside

/-! ## Schedules without end -/

/-- The state after the first `n` events. -/
def state (cfg : Config) (s : System) (schedule : Nat → Event) : Nat → System
  | 0 => s
  | n + 1 => step cfg (state cfg s schedule n) (schedule n)

variable {s : System} {schedule : Nat → Event}

/-- The moments in which a task gets its turns. -/
def turn_of (schedule : Nat → Event) (sid : SessionId) (n : Nat) : Prop := ∃ env, schedule n = .run sid env

/-- A section in the world and the moment of a turn. -/
def section_in (cfg : Config) (sid : SessionId) (surroundings : World × Env) (x : Section) : (World × Env) × List Section :=
  ((((perform cfg surroundings.1 surroundings.2 sid x).1), surroundings.2), (perform cfg surroundings.1 surroundings.2 sid x).2)

theorem ranked_section_in (cfg : Config) (sid : SessionId) : Work.Ranked (section_in cfg sid) Section.rank :=
  fun surroundings x => ranked_perform cfg surroundings.2 sid surroundings.1 x

theorem served (lasting : ∀ n, schedule n ≠ .restart) (fair : ∀ n, ∃ m, n ≤ m ∧ turn_of schedule sid m) :
    Work.Served (section_in cfg sid) (turn_of schedule sid) (fun n => (state cfg s schedule n).threads sid) := by
  refine ⟨?_, ?_, fair⟩
  · rintro n ⟨env, turn⟩ busy
    obtain ⟨here, rest, head⟩ := List.exists_cons_of_ne_nil busy
    refine ⟨((state cfg s schedule n).world, env), here, rest, head, ?_⟩
    simp only [state]
    rw [turn, step_run head, threads_resume, if_pos rfl]
    rfl
  · intro n other busy
    simp only [state]
    rcases threads_step cfg (state cfg s schedule n) (schedule n) sid with
      same | ⟨env, _, _, turn, _, _⟩ | ⟨empty, _, _⟩ | ⟨restarts, _⟩
    · exact same
    · exact absurd ⟨env, turn⟩ other
    · exact absurd empty busy
    · exact absurd restarts (lasting n)

/-- No handler is stuck, starved or endless: whatever the other sessions do, a
    session whose task keeps getting turns performs every section that it has left
    and comes back to where it waits. -/
theorem handlers_finish (cfg : Config) (s : System) (schedule : Nat → Event) (sid : SessionId)
    (lasting : ∀ n, schedule n ≠ .restart) (fair : ∀ n, ∃ m, n ≤ m ∧ turn_of schedule sid m) (n : Nat) :
    (∀ x ∈ (state cfg s schedule n).threads sid, ∃ m, n ≤ m ∧ turn_of schedule sid m ∧
      ∃ rest, (state cfg s schedule m).threads sid = x :: rest) ∧
    ∃ m, n ≤ m ∧ (state cfg s schedule m).threads sid = [] := by
  have serves := @served cfg sid s schedule lasting fair
  constructor
  · intro x listed
    exact Work.gets_performed (ranked_section_in cfg sid) serves listed
  · have all : (state cfg s schedule n).threads sid = (state cfg s schedule n).threads sid ++ [] := (List.append_nil _).symm
    exact Work.reaches_rest (ranked_section_in cfg sid) serves _ [] all

/-- Alice speaks while Bob registers again, and their tasks take turns. -/
def in_turn (n : Nat) : Event := if n = 0 then hello 0 else .run (n % 2) (moment n)

theorem in_turn_fair (sid : Nat) (two : sid < 2) (n : Nat) : ∃ m, n ≤ m ∧ turn_of in_turn sid m := by
  refine ⟨2 * (n + 1) + sid, by omega, moment (2 * (n + 1) + sid), ?_⟩
  rw [in_turn, if_neg (by omega)]
  have turn : (2 * (n + 1) + sid) % 2 = sid := by omega
  rw [turn]

/-- The broadcast to the channel and the replay to Bob both come to their end. -/
theorem broadcast_and_replay_finish :
    (state plain reconnecting in_turn 1).threads 0 = [.ensure_registered (.Privmsg "#c".toList "hello".toList)] ∧
    (state plain reconnecting in_turn 1).threads 1 = [.mark_connected ⟨"bob".toList, "bob".toList, none⟩] ∧
    (∃ m, 1 ≤ m ∧ (state plain reconnecting in_turn m).threads 0 = []) ∧
    ∃ m, 1 ≤ m ∧ (state plain reconnecting in_turn m).threads 1 = [] := by
  have lasting : ∀ n, in_turn n ≠ .restart := by
    intro n restarts
    rw [in_turn] at restarts
    split at restarts
    · cases restarts
    · cases restarts
  exact ⟨rfl, rfl, (handlers_finish plain reconnecting in_turn 0 lasting (in_turn_fair 0 (by decide)) 1).2,
    (handlers_finish plain reconnecting in_turn 1 lasting (in_turn_fair 1 (by decide)) 1).2⟩

end Aircd.Concurrent

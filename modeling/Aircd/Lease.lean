import Aircd.Tasks
import Mathlib.Algebra.Group.Int.Defs

/-!
# Exclusive leases

The lease length that `Server::new` admits, and how long a claim with it keeps
the others away. The end of a lease is a sum that may wrap around.
-/
namespace Aircd.Tasks
open Aircd.Runs Aircd.Text

/-- The lease length that `Server::new` takes from `AIRCD_TASK_LEASE_SECONDS`. -/
def lease_seconds (value : Option Text) : Int :=
  ((value.bind parseI64).filter (fun value => decide (0 < value))).getD 300

/-- The task is done, or held by the principal with the lease. -/
def HeldUntil (tasks : TaskTable) (id principal_id : Text) (lease : Int) : Prop :=
  ∃ row, tasks.find id = some row ∧ (row.status = .Done ∨
    row.status = .Claimed ∧ row.claimed_by = some principal_id ∧ row.lease_expires_at = some lease)

/-- The holder does not release the task, and claims of it come from `now` up to the end of the lease. -/
def Within (id principal_id : Text) (now lease : Int) : TaskOp → Prop
  | .create _ _ _ _ => True
  | .claim id' _ time => id' = id → now ≤ time ∧ time ≤ lease
  | .done _ _ _ => True
  | .release id' principal_id' _ => ¬ (id' = id ∧ principal_id' = principal_id)

/-- A claim of the task at `now` succeeds with a lease that ends no earlier, and whatever the store is asked
    for meanwhile, every claim up to the end of the lease is refused unless the holder releases the task. -/
def Exclusive (lease_seconds : Int) (tasks : TaskTable) (id principal_id : Text) (now : Int) : Prop :=
  ∃ task lease, (claim lease_seconds tasks id principal_id now).2 = .ok task ∧ task.lease_expires_at = some lease ∧
    now ≤ lease ∧ ∀ ops, (∀ op ∈ ops, Within id principal_id now lease op) →
      ∀ principal_id' time, now ≤ time → time ≤ lease → ∃ refusal,
        (claim lease_seconds (run (step lease_seconds) ⟨(claim lease_seconds tasks id principal_id now).1, []⟩ ops).tasks
          id principal_id' time).2 = .error refusal

variable {tasks : TaskTable} {id principal_id : Text} {now lease : Int}

theorem lease_seconds_bounds (value : Option Text) : 0 < lease_seconds value ∧ lease_seconds value ≤ i64Max := by
  unfold lease_seconds
  cases parsed : value.bind parseI64 with
  | none => simp [i64Max]
  | some seconds =>
    obtain ⟨text, _, parses⟩ := Option.bind_eq_some_iff.mp parsed
    have small : seconds ≤ i64Max := by
      exact (parseI64_bounds parses).2
    by_cases positive : 0 < seconds
    · simp [Option.filter, positive, small]
    · simp [Option.filter, positive, i64Max]

theorem wrapI64_of_lt {n : Int} (low : 0 ≤ n) (high : n < 2 ^ 63) : wrapI64 n = n := by
  simp only [wrapI64, i64Min]
  omega

theorem wrapI64_of_ge {n : Int} (low : 2 ^ 63 ≤ n) (high : n < 2 ^ 64) : wrapI64 n = n - 2 ^ 64 := by
  simp only [wrapI64, i64Min]
  omega

/-- While the lease lasts, no claim of the task can find its guard true. -/
theorem HeldUntil.refuses (held : HeldUntil tasks id principal_id lease) {principal_id' : Text} {seconds time : Int}
    (early : time ≤ lease) : ∃ refusal, claim seconds tasks id principal_id' time = (tasks, .error refusal) := by
  obtain ⟨row, found, state⟩ := held
  rcases transition_cases tasks id (claimable id time) (claimed principal_id' (wrapI64 (time + seconds)) time)
    (fun _ => rfl) "task is already claimed or done".toList (fun row => claimable_id row) with refused | ⟨other, found', guard, _⟩
  · exact ⟨_, refused⟩
  · obtain rfl : row = other := Option.some.inj (found.symm.trans found')
    rcases state with finished | ⟨status, _, ends⟩
    · simp [claimable, finished] at guard
    · simp [claimable, status, ends] at guard
      omega

/-- No operation within the lease takes the task from its holder. -/
theorem HeldUntil.step (held : HeldUntil tasks id principal_id lease) {seconds : Int} {op : TaskOp}
    (within : Within id principal_id now lease op) : HeldUntil (perform seconds tasks op).1 id principal_id lease := by
  rcases perform_cases seconds tasks op with ⟨refusal, result⟩ | ⟨after, _, allowed, _, stored⟩
  · rw [result]
    exact held
  by_cases here : op.id = id
  · obtain ⟨row, found, state⟩ := held
    subst here
    rw [found] at allowed
    have found' := stored op.id
    rw [if_pos rfl] at found'
    refine ⟨after, found', ?_⟩
    cases op with
    | create id' channel title time => cases allowed.1
    | claim id' principal_id' time =>
      obtain ⟨_, same, guard, _⟩ := allowed
      obtain rfl := Option.some.inj same
      have early := (within rfl).2
      rcases state with finished | ⟨status, _, ends⟩
      · simp [claimable, finished] at guard
      · simp [claimable, status, ends] at guard
        omega
    | done id' principal_id' time =>
      obtain ⟨_, _, _, rfl⟩ := allowed
      exact .inl rfl
    | release id' principal_id' time =>
      obtain ⟨_, same, guard, _⟩ := allowed
      obtain rfl := Option.some.inj same
      obtain ⟨_, holder, claimed⟩ := held_iff.mp guard
      rcases state with finished | ⟨_, holder', _⟩
      · rw [finished] at claimed
        cases claimed
      · rw [holder] at holder'
        exact absurd ⟨rfl, Option.some.inj holder'⟩ within
  · obtain ⟨row, found, state⟩ := held
    refine ⟨row, ?_, state⟩
    rw [stored id, if_neg here]
    exact found

theorem HeldUntil.run (seconds : Int) : ∀ (ops : List TaskOp) {store : Store},
    HeldUntil store.tasks id principal_id lease → (∀ op ∈ ops, Within id principal_id now lease op) →
    HeldUntil (Runs.run (Tasks.step seconds) store ops).tasks id principal_id lease
  | [], _, held, _ => held
  | op :: rest, store, held, within => by
    have next : (Tasks.step seconds store op).tasks = (perform seconds store.tasks op).1 := by
      rw [Tasks.step]
      split
      · next result => rw [result]
      · next result => rw [result]
    have held' : HeldUntil (Tasks.step seconds store op).tasks id principal_id lease := by
      rw [next]
      exact held.step (within op (by simp))
    exact HeldUntil.run seconds rest held' (fun op' later => within op' (by simp [later]))

/-- An open task is claimed. -/
theorem claim_open {row : TaskRow} (found : tasks.find id = some row) (opened : row.status = .Open) (seconds : Int) :
    ∃ task, (claim seconds tasks id principal_id now).2 = .ok task ∧
      task.lease_expires_at = some (wrapI64 (now + seconds)) ∧
      HeldUntil (claim seconds tasks id principal_id now).1 id principal_id (wrapI64 (now + seconds)) := by
  have guard : claimable id now row = true := by
    simp [claimable, (Table.find_iff.mp found).2, opened]
  obtain ⟨ok, stored⟩ := transition_selected (claimed principal_id (wrapI64 (now + seconds)) now) (fun _ => rfl)
    "task is already claimed or done".toList (fun row => claimable_id row) found guard
  have here := stored id
  rw [if_pos rfl] at here
  exact ⟨_, ok, rfl, _, here, .inr ⟨rfl, rfl, rfl⟩⟩

/-- The lease of an open task is exclusive exactly when its end does not wrap around. -/
theorem lease_exclusive_iff (value : Option Text) {row : TaskRow} (found : tasks.find id = some row)
    (opened : row.status = .Open) (clock : 0 ≤ now ∧ now ≤ i64Max) :
    Exclusive (lease_seconds value) tasks id principal_id now ↔ now + lease_seconds value ≤ i64Max := by
  obtain ⟨positive, admitted⟩ := lease_seconds_bounds value
  obtain ⟨task, ok, lease, held⟩ := @claim_open tasks id principal_id now row found opened (lease_seconds value)
  simp only [i64Max] at clock admitted ⊢
  constructor
  · rintro ⟨task', lease', ok', stored, later, _⟩
    by_contra overflow
    have wrapped := @wrapI64_of_ge (now + lease_seconds value) (by omega) (by omega)
    obtain rfl : task = task' := Except.ok.inj (ok.symm.trans ok')
    rw [lease, wrapped] at stored
    have ends := Option.some.inj stored
    omega
  · intro fits
    have ends := @wrapI64_of_lt (now + lease_seconds value) (by omega) (by omega)
    rw [ends] at lease held
    refine ⟨task, _, ok, lease, by omega, ?_⟩
    intro ops within principal_id' time _ early
    have claimed : HeldUntil (Store.mk (claim (lease_seconds value) tasks id principal_id now).1 []).tasks id principal_id
        (now + lease_seconds value) := held
    have still := HeldUntil.run (lease_seconds value) ops claimed within
    obtain ⟨refusal, refused⟩ := still.refuses early
    exact ⟨refusal, by rw [refused]⟩

/-- One open task. -/
def open_task : TaskTable := (create Table.empty "t".toList "#c".toList "Title".toList 0).1

theorem default_lease_exclusive : Exclusive (lease_seconds none) open_task "t".toList "alice".toList 1700000000 :=
  (@lease_exclusive_iff open_task "t".toList "alice".toList 1700000000 none
    ⟨⟨"t".toList, "#c".toList, "Title".toList, .Open, none, none⟩, 0, 0⟩ (by decide) rfl (by decide)).mpr (by decide)

/-- With the largest lease that is admitted, a task claimed at one second is claimed again in the same second. -/
theorem largest_lease_shared :
    ¬ Exclusive (lease_seconds (some "9223372036854775807".toList)) open_task "t".toList "alice".toList 1 ∧
    let tasks := (claim (lease_seconds (some "9223372036854775807".toList)) open_task "t".toList "alice".toList 1).1
    ((claim (lease_seconds (some "9223372036854775807".toList)) tasks "t".toList "bob".toList 1).2.toOption.bind
      (·.claimed_by)) = some "bob".toList := by
  constructor
  · rintro ⟨task, lease, ok, stored, later, _⟩
    have wrapped : ((claim (lease_seconds (some "9223372036854775807".toList)) open_task "t".toList "alice".toList
        1).2.toOption.bind (·.lease_expires_at)) = some (-9223372036854775808) := by decide
    rw [ok] at wrapped
    have ends := Option.some.inj (stored.symm.trans wrapped)
    omega
  · decide

end Aircd.Tasks

import Aircd.Runs
import Aircd.Table
import Aircd.Text
import Mathlib.Computability.Language
import Mathlib.Data.List.Chain
import Mathlib.Data.List.Sort

/-!
# Tasks and leases

The `tasks` table and the operations on it, `tasks.rs`. Every operation is one
critical section of the database, so a run of any number of principals is a
list of operations in the order in which they took the lock; the clock reading
of each was taken before, so the readings of a run stand in no order.
-/
namespace Aircd.Tasks
open Aircd.Runs Aircd.Text
open scoped Computability

inductive TaskStatus where
  | Open
  | Claimed
  | Done
  deriving DecidableEq, Repr

structure Task where
  id : Text
  channel : Text
  title : Text
  status : TaskStatus
  claimed_by : Option Text
  lease_expires_at : Option Int
  deriving DecidableEq, Repr

structure TaskRow extends Task where
  created_at : Int
  updated_at : Int
  deriving DecidableEq, Repr

abbrev TaskTable := Table (fun row : TaskRow => row.id)

/-- The number of rows that the condition of an `UPDATE` selects. -/
def changed (tasks : TaskTable) (cond : TaskRow → Bool) : Nat := tasks.rows.countP cond

def get_locked (tasks : TaskTable) (task_id : Text) : Except Text Task :=
  match tasks.find task_id with
  | some row => .ok row.toTask
  | none => .error "load task".toList

/-- The primary key refuses a second row under one id. -/
def create (tasks : TaskTable) (id channel title : Text) (now : Int) : TaskTable × Except Text Task :=
  let row : TaskRow := ⟨⟨id, channel, title, .Open, none, none⟩, now, now⟩
  if (tasks.find id).isSome then (tasks, .error "insert task".toList)
  else (tasks.insert row, .ok row.toTask)

def claimable (task_id : Text) (now : Int) (row : TaskRow) : Bool :=
  decide (row.id = task_id) && decide (row.status ≠ .Done) &&
    (decide (row.status = .Open) || row.lease_expires_at.all (fun lease => decide (lease < now)))

def held (task_id principal_id : Text) (row : TaskRow) : Bool :=
  decide (row.id = task_id) && decide (row.claimed_by = some principal_id) && decide (row.status = .Claimed)

def claimed (principal_id : Text) (lease_expires_at now : Int) (row : TaskRow) : TaskRow :=
  { row with
    status := .Claimed, claimed_by := some principal_id, lease_expires_at := some lease_expires_at, updated_at := now }

def completed (now : Int) (row : TaskRow) : TaskRow := { row with status := .Done, updated_at := now }

def released (now : Int) (row : TaskRow) : TaskRow :=
  { row with status := .Open, claimed_by := none, lease_expires_at := none, updated_at := now }

/-- An `UPDATE` of the row under an id with the check on the number of rows that it changed. -/
def transition (tasks : TaskTable) (task_id : Text) (cond : TaskRow → Bool) (set : TaskRow → TaskRow)
    (keeps : ∀ row, (set row).id = row.id) (refusal : Text) : TaskTable × Except Text Task :=
  let updated := tasks.update cond set keeps
  if changed tasks cond ≠ 1 then (updated, .error refusal) else (updated, get_locked updated task_id)

def claim (lease_seconds : Int) (tasks : TaskTable) (task_id principal_id : Text) (now : Int) :
    TaskTable × Except Text Task :=
  transition tasks task_id (claimable task_id now) (claimed principal_id (wrapI64 (now + lease_seconds)) now)
    (fun _ => rfl) "task is already claimed or done".toList

def done (tasks : TaskTable) (task_id principal_id : Text) (now : Int) : TaskTable × Except Text Task :=
  transition tasks task_id (held task_id principal_id) (completed now) (fun _ => rfl)
    "task is not claimed by this principal".toList

def release (tasks : TaskTable) (task_id principal_id : Text) (now : Int) : TaskTable × Except Text Task :=
  transition tasks task_id (held task_id principal_id) (released now) (fun _ => rfl)
    "task is not claimed by this principal".toList

/-- `SELECT .. WHERE channel = ?1 AND status != 'done' ORDER BY created_at ASC`. -/
def list (tasks : TaskTable) (channel : Text) : List Task :=
  ((tasks.rows.filter (fun row => decide (row.channel = channel) && decide (row.status ≠ .Done))).insertionSort
    (fun a b => a.created_at ≤ b.created_at)).map (·.toTask)

/-! ## What one operation does to the row of its task -/

private theorem countP_le_one {α : Type} {l : List α} {p : α → Bool}
    (atMost : ∀ a ∈ l, ∀ b ∈ l, p a = true → p b = true → a = b) (distinct : l.Nodup) : l.countP p ≤ 1 := by
  induction l with
  | nil => simp
  | cons first rest ih =>
    have tail := ih (fun a ha b hb => atMost a (by simp [ha]) b (by simp [hb])) (List.nodup_cons.mp distinct).2
    by_cases here : p first = true
    · have none : rest.countP p = 0 := by
        rw [List.countP_eq_zero]
        intro other inside selected
        have same := atMost first (by simp) other (by simp [inside]) here selected
        exact (List.nodup_cons.mp distinct).1 (same ▸ inside)
      simp [none, here]
    · simpa [List.countP_cons, here] using tail

private theorem find_after_update {tasks : TaskTable} {task_id : Text} {cond : TaskRow → Bool} {set : TaskRow → TaskRow}
    (keeps : ∀ row, (set row).id = row.id) {row : TaskRow} (byId : ∀ row, cond row = true → row.id = task_id)
    (found : tasks.find task_id = some row) (here : cond row = true) (id : Text) :
    (tasks.update cond set keeps).find id = if task_id = id then some (set row) else tasks.find id := by
  rw [Table.find_update]
  by_cases same : task_id = id
  · subst same
    rw [found, Option.map_some, if_pos here, if_pos rfl]
  · rw [if_neg same]
    cases other : tasks.find id with
    | none => rfl
    | some row' =>
      have unselected : ¬ cond row' = true := by
        intro selected
        exact same ((byId row' selected).symm.trans (Table.find_iff.mp other).2)
      rw [Option.map_some, if_neg unselected]

/-- A row that a condition for one id selects is changed, and returned. -/
theorem transition_selected {tasks : TaskTable} {task_id : Text} {cond : TaskRow → Bool} (set : TaskRow → TaskRow)
    (keeps : ∀ row, (set row).id = row.id) (refusal : Text) (byId : ∀ row, cond row = true → row.id = task_id)
    {row : TaskRow} (found : tasks.find task_id = some row) (here : cond row = true) :
    (transition tasks task_id cond set keeps refusal).2 = .ok (set row).toTask ∧
    ∀ id, (transition tasks task_id cond set keeps refusal).1.find id =
      if task_id = id then some (set row) else tasks.find id := by
  have once : changed tasks cond = 1 := by
    have some : 0 < tasks.rows.countP cond := List.countP_pos_iff.mpr ⟨row, (Table.find_iff.mp found).1, here⟩
    have one : tasks.rows.countP cond ≤ 1 := by
      apply countP_le_one _ tasks.distinct.of_map
      intro a ha b hb ca cb
      exact Table.eq_of_key ha hb ((byId a ca).trans (byId b cb).symm)
    simp only [changed]; omega
  have after := find_after_update keeps byId found here
  constructor
  · simp [transition, once, get_locked, after]
  · intro id
    simp [transition, once, after]

/-- A condition that asks for one id selects the row under that id, which is
    then changed and returned, or nothing, and then the table stays. -/
theorem transition_cases (tasks : TaskTable) (task_id : Text) (cond : TaskRow → Bool) (set : TaskRow → TaskRow)
    (keeps : ∀ row, (set row).id = row.id) (refusal : Text) (byId : ∀ row, cond row = true → row.id = task_id) :
    transition tasks task_id cond set keeps refusal = (tasks, .error refusal) ∨
    ∃ row, tasks.find task_id = some row ∧ cond row = true ∧
      (transition tasks task_id cond set keeps refusal).2 = .ok (set row).toTask ∧
      ∀ id, (transition tasks task_id cond set keeps refusal).1.find id =
        if task_id = id then some (set row) else tasks.find id := by
  by_cases selected : ∃ row, tasks.find task_id = some row ∧ cond row = true
  · obtain ⟨row, found, here⟩ := selected
    exact .inr ⟨row, found, here, transition_selected set keeps refusal byId found here⟩
  · left
    have untouched : ∀ row ∈ tasks.rows, ¬ cond row = true := by
      intro row inside here
      exact selected ⟨row, Table.find_iff.mpr ⟨inside, byId row here⟩, here⟩
    have zero : changed tasks cond = 0 := List.countP_eq_zero.mpr untouched
    have same : tasks.update cond set keeps = tasks := by
      apply Table.ext
      simp only [Table.update]
      conv_rhs => rw [← List.map_id tasks.rows]
      apply List.map_congr_left
      intro row inside
      simp [untouched row inside]
    simp [transition, zero, same]

/-! ## Runs of the store -/

inductive TaskOp where
  | create (id channel title : Text) (now : Int)
  | claim (id principal_id : Text) (now : Int)
  | done (id principal_id : Text) (now : Int)
  | release (id principal_id : Text) (now : Int)
  deriving DecidableEq, Repr

inductive Kind where
  | create
  | claim
  | done
  | release
  deriving DecidableEq, Repr

namespace TaskOp

def id : TaskOp → Text
  | .create id _ _ _ => id
  | .claim id _ _ => id
  | .done id _ _ => id
  | .release id _ _ => id

def kind : TaskOp → Kind
  | .create _ _ _ _ => .create
  | .claim _ _ _ => .claim
  | .done _ _ _ => .done
  | .release _ _ _ => .release

/-- Who issued the operation; creation records nobody. -/
def principal : TaskOp → Option Text
  | .create _ _ _ _ => none
  | .claim _ principal_id _ => some principal_id
  | .done _ principal_id _ => some principal_id
  | .release _ principal_id _ => some principal_id

def now : TaskOp → Int
  | .create _ _ _ now => now
  | .claim _ _ now => now
  | .done _ _ now => now
  | .release _ _ now => now

end TaskOp

def perform (lease_seconds : Int) (tasks : TaskTable) : TaskOp → TaskTable × Except Text Task
  | .create id channel title now => create tasks id channel title now
  | .claim id principal_id now => claim lease_seconds tasks id principal_id now
  | .done id principal_id now => done tasks id principal_id now
  | .release id principal_id now => release tasks id principal_id now

/-- A successful operation with the row that it returned. -/
structure Success where
  op : TaskOp
  task : Task

/-- The table, with the successful operations so far in commit order. -/
structure Store where
  tasks : TaskTable
  log : List Success

def Store.empty : Store := ⟨Table.empty, []⟩

def step (lease_seconds : Int) (store : Store) (op : TaskOp) : Store :=
  match perform lease_seconds store.tasks op with
  | (tasks, .ok task) => ⟨tasks, store.log ++ [⟨op, task⟩]⟩
  | (tasks, .error _) => ⟨tasks, store.log⟩

/-- The successful operations on one task, in commit order. -/
def Store.history (store : Store) (id : Text) : List Success := store.log.filter (fun s => decide (s.op.id = id))

/-- The words that leave a task open: creation, then blocks of claims each closed by a release. -/
def openWords : Language Kind := {[.create]} * ({[.claim]} * {[.claim]}∗ * {[.release]})∗
/-- The words that leave a task claimed. -/
def claimedWords : Language Kind := openWords * ({[.claim]} * {[.claim]}∗)
/-- The words that leave a task done. -/
def doneWords : Language Kind := claimedWords * {[.done]}
/-- Creation, then blocks of one or more claims and a release, then perhaps one
    or more claims, then perhaps one completion directly after a claim. -/
def lifecycle : Language Kind := openWords + claimedWords + doneWords

/-- What two consecutive successful operations on one task satisfy: a release or
    a completion is issued by the principal of the claim just before it, and a
    claim right after a claim comes later than the lease that the first one stored. -/
def Follows (before after : Success) : Prop :=
  match after.op.kind with
  | .create => False
  | .claim => before.op.kind = .claim →
      ∃ lease, before.task.lease_expires_at = some lease ∧ lease < after.op.now
  | .done => before.op.kind = .claim ∧ before.op.principal = after.op.principal
  | .release => before.op.kind = .claim ∧ before.op.principal = after.op.principal

/-- An open row has no holder and no lease, a claimed row has both. -/
def RowOk (task : Task) : Prop :=
  match task.status with
  | .Open => task.claimed_by = none ∧ task.lease_expires_at = none
  | .Claimed => task.claimed_by.isSome ∧ task.lease_expires_at.isSome
  | .Done => True

def wordsOf : TaskStatus → Language Kind
  | .Open => openWords
  | .Claimed => claimedWords
  | .Done => doneWords

/-- The last operation on a claimed task is the claim that set its holder and
    its lease; the last one on an open task is not a claim. -/
def LastOp (task : Task) (history : List Success) : Prop :=
  match task.status with
  | .Open => ∀ last ∈ history.getLast?, last.op.kind ≠ .claim
  | .Claimed => ∃ last ∈ history.getLast?, last.op.kind = .claim ∧ last.op.principal = task.claimed_by ∧
      last.task.lease_expires_at = task.lease_expires_at
  | .Done => True

/-- What ties the row of a task to the operations that succeeded on it. -/
structure Tracks (task : Task) (history : List Success) : Prop where
  row : RowOk task
  word : history.map (·.op.kind) ∈ wordsOf task.status
  chain : history.IsChain Follows
  last : LastOp task history

def Tracked (history : List Success) : Option TaskRow → Prop
  | none => history = []
  | some row => Tracks row.toTask history

def Invariant (store : Store) : Prop := ∀ id, Tracked (store.history id) (store.tasks.find id)

theorem openWords_create : [Kind.create] ∈ openWords :=
  Language.mem_mul.mpr ⟨[.create], rfl, [], Language.nil_mem_kstar _, rfl⟩

theorem claim_of_open {w : List Kind} (h : w ∈ openWords) : w ++ [.claim] ∈ claimedWords :=
  Language.mem_mul.mpr ⟨w, h, [.claim], Language.mem_mul.mpr ⟨[.claim], rfl, [], Language.nil_mem_kstar _, rfl⟩, rfl⟩

private theorem kstar_snoc {l : Language Kind} {w v : List Kind} (hw : w ∈ l∗) (hv : v ∈ l) : w ++ v ∈ l∗ := by
  have within : l∗ * l ≤ l∗ := kstar_mul_le_kstar
  exact within (Language.mem_mul.mpr ⟨w, hw, v, hv, rfl⟩)

theorem claim_of_claimed {w : List Kind} (h : w ∈ claimedWords) : w ++ [.claim] ∈ claimedWords := by
  obtain ⟨before, open', claims, claims', rfl⟩ := Language.mem_mul.mp h
  obtain ⟨first, isFirst, rest, isRest, rfl⟩ := Language.mem_mul.mp claims'
  have one : [Kind.claim] ∈ ({[.claim]} : Language Kind) := rfl
  rw [List.append_assoc, List.append_assoc]
  exact Language.mem_mul.mpr ⟨before, open', _,
    Language.mem_mul.mpr ⟨first, isFirst, rest ++ [.claim], kstar_snoc isRest one, rfl⟩, rfl⟩

theorem release_of_claimed {w : List Kind} (h : w ∈ claimedWords) : w ++ [.release] ∈ openWords := by
  obtain ⟨before, open', claims, claims', rfl⟩ := Language.mem_mul.mp h
  obtain ⟨created, isCreated, blocks, isBlocks, rfl⟩ := Language.mem_mul.mp open'
  rw [List.append_assoc, List.append_assoc]
  refine Language.mem_mul.mpr ⟨created, isCreated, _, kstar_snoc isBlocks ?_, rfl⟩
  exact Language.mem_mul.mpr ⟨claims, claims', [.release], rfl, rfl⟩

theorem done_of_claimed {w : List Kind} (h : w ∈ claimedWords) : w ++ [.done] ∈ doneWords :=
  Language.mem_mul.mpr ⟨w, h, [.done], rfl, rfl⟩

/-- What a successful operation makes of the row that it finds under its id. -/
def Allowed (lease_seconds : Int) (before : Option TaskRow) (op : TaskOp) (after : TaskRow) : Prop :=
  match op with
  | .create id channel title now => before = none ∧ after = ⟨⟨id, channel, title, .Open, none, none⟩, now, now⟩
  | .claim id principal_id now => ∃ row, before = some row ∧ claimable id now row = true ∧
      after = claimed principal_id (wrapI64 (now + lease_seconds)) now row
  | .done id principal_id now => ∃ row, before = some row ∧ held id principal_id row = true ∧ after = completed now row
  | .release id principal_id now =>
      ∃ row, before = some row ∧ held id principal_id row = true ∧ after = released now row

theorem claimable_id {task_id : Text} {now : Int} (row : TaskRow) (h : claimable task_id now row = true) :
    row.id = task_id := by
  simp only [claimable, Bool.and_eq_true, decide_eq_true_eq] at h
  exact h.1.1

theorem held_iff {task_id principal_id : Text} {row : TaskRow} :
    held task_id principal_id row = true ↔
      row.id = task_id ∧ row.claimed_by = some principal_id ∧ row.status = .Claimed := by
  simp [held, and_assoc]

/-- Everything that one operation can do: it is refused and the table stays, or
    it stores one row under its id, as its guard allows, and returns it. -/
theorem perform_cases (lease_seconds : Int) (tasks : TaskTable) (op : TaskOp) :
    (∃ refusal, perform lease_seconds tasks op = (tasks, .error refusal)) ∨
    (∃ after : TaskRow, after.id = op.id ∧ Allowed lease_seconds (tasks.find op.id) op after ∧
      (perform lease_seconds tasks op).2 = .ok after.toTask ∧
      ∀ id, (perform lease_seconds tasks op).1.find id = if op.id = id then some after else tasks.find id) := by
  cases op with
  | create id channel title now =>
    cases found : tasks.find id with
    | some row => exact .inl ⟨"insert task".toList, by simp [perform, create, found]⟩
    | none =>
      have result : perform lease_seconds tasks (.create id channel title now) =
          (tasks.insert ⟨⟨id, channel, title, .Open, none, none⟩, now, now⟩,
            .ok ⟨id, channel, title, .Open, none, none⟩) := by
        simp only [perform, create, found, Option.isSome_none, Bool.false_eq_true, if_false]
      refine .inr ⟨⟨⟨id, channel, title, .Open, none, none⟩, now, now⟩, rfl, ⟨found, rfl⟩, by rw [result], ?_⟩
      rw [result]
      exact Table.find_insert_absent found
  | claim id principal_id now =>
    rcases transition_cases tasks id (claimable id now) (claimed principal_id (wrapI64 (now + lease_seconds)) now)
      (fun _ => rfl) _ (fun row => claimable_id row) with refused | ⟨row, found, here, returned, stored⟩
    · exact .inl ⟨_, refused⟩
    · exact .inr ⟨claimed _ _ _ row, (Table.find_iff.mp found).2, ⟨row, found, here, rfl⟩, returned, stored⟩
  | done id principal_id now =>
    rcases transition_cases tasks id (held id principal_id) (completed now) (fun _ => rfl) _
      (fun row h => (held_iff.mp h).1) with refused | ⟨row, found, here, returned, stored⟩
    · exact .inl ⟨_, refused⟩
    · exact .inr ⟨completed _ row, (Table.find_iff.mp found).2, ⟨row, found, here, rfl⟩, returned, stored⟩
  | release id principal_id now =>
    rcases transition_cases tasks id (held id principal_id) (released now) (fun _ => rfl) _
      (fun row h => (held_iff.mp h).1) with refused | ⟨row, found, here, returned, stored⟩
    · exact .inl ⟨_, refused⟩
    · exact .inr ⟨released _ row, (Table.find_iff.mp found).2, ⟨row, found, here, rfl⟩, returned, stored⟩

/-- A refused operation leaves the table as it is. -/
theorem perform_unchanged {lease_seconds : Int} {tasks : TaskTable} {op : TaskOp} {refusal : Text}
    (refused : (perform lease_seconds tasks op).2 = .error refusal) : (perform lease_seconds tasks op).1 = tasks := by
  rcases perform_cases lease_seconds tasks op with ⟨_, result⟩ | ⟨_, _, _, returned, _⟩
  · rw [result]
  · rw [refused] at returned; cases returned

/-- What an operation returns is the row under its id in the table that it leaves. -/
theorem perform_returned {lease_seconds : Int} {tasks : TaskTable} {op : TaskOp} {task : Task}
    (returned : (perform lease_seconds tasks op).2 = .ok task) :
    ∃ row ∈ (perform lease_seconds tasks op).1.rows, row.id = op.id ∧ row.toTask = task := by
  rcases perform_cases lease_seconds tasks op with ⟨refusal, result⟩ | ⟨after, _, _, result, stored⟩
  · rw [result] at returned; cases returned
  · rw [result] at returned
    have found := stored op.id
    rw [if_pos rfl] at found
    obtain ⟨listed, same⟩ := Table.find_iff.mp found
    exact ⟨after, listed, same, Except.ok.inj returned⟩

/-- No operation changes the id, the channel or the title of a task. -/
theorem perform_row {lease_seconds : Int} {tasks : TaskTable} {op : TaskOp} {row : TaskRow}
    (inside : row ∈ (perform lease_seconds tasks op).1.rows) :
    (∃ old ∈ tasks.rows, row.id = old.id ∧ row.channel = old.channel ∧ row.title = old.title) ∨
      ∃ now, op = .create row.id row.channel row.title now := by
  rcases perform_cases lease_seconds tasks op with ⟨refusal, result⟩ | ⟨after, _, allowed, _, stored⟩
  · rw [result] at inside
    exact .inl ⟨row, inside, rfl, rfl, rfl⟩
  · have found := stored row.id
    rw [Table.find_iff.mpr ⟨inside, rfl⟩] at found
    split at found
    · obtain rfl := Option.some.inj found
      cases op with
      | create id channel title now => obtain ⟨_, rfl⟩ := allowed; exact .inr ⟨now, rfl⟩
      | claim id principal_id now =>
        obtain ⟨old, known, _, rfl⟩ := allowed
        exact .inl ⟨old, (Table.find_iff.mp known).1, rfl, rfl, rfl⟩
      | done id principal_id now =>
        obtain ⟨old, known, _, rfl⟩ := allowed
        exact .inl ⟨old, (Table.find_iff.mp known).1, rfl, rfl, rfl⟩
      | release id principal_id now =>
        obtain ⟨old, known, _, rfl⟩ := allowed
        exact .inl ⟨old, (Table.find_iff.mp known).1, rfl, rfl, rfl⟩
    · exact .inl ⟨row, (Table.find_iff.mp found.symm).1, rfl, rfl, rfl⟩

/-- The texts with which an operation is refused. -/
def refusals : List Text :=
  ["insert task".toList, "load task".toList, "task is already claimed or done".toList,
    "task is not claimed by this principal".toList]

theorem perform_refused {lease_seconds : Int} {tasks : TaskTable} {op : TaskOp} {refusal : Text}
    (refused : (perform lease_seconds tasks op).2 = .error refusal) : refusal ∈ refusals := by
  have updated {task_id : Text} {cond : TaskRow → Bool} {set : TaskRow → TaskRow} {keeps : ∀ row, (set row).id = row.id}
      {text : Text} (refused : (transition tasks task_id cond set keeps text).2 = .error refusal)
      (listed : text ∈ refusals) : refusal ∈ refusals := by
    unfold transition get_locked at refused
    dsimp only at refused
    split at refused
    · exact Except.error.inj refused ▸ listed
    · dsimp only at refused
      split at refused
      · cases refused
      · rw [← Except.error.inj refused]; simp [refusals]
  cases op with
  | create id channel title now =>
    simp only [perform, create] at refused
    split at refused
    · rw [← Except.error.inj refused]; simp [refusals]
    · cases refused
  | claim id principal_id now => exact updated refused (by simp [refusals])
  | done id principal_id now => exact updated refused (by simp [refusals])
  | release id principal_id now => exact updated refused (by simp [refusals])

theorem history_other {store : Store} {success : Success} {id : Text} (other : success.op.id ≠ id) (tasks : TaskTable) :
    Store.history ⟨tasks, store.log ++ [success]⟩ id = store.history id := by
  simp [Store.history, List.filter_append, other]

theorem history_self (store : Store) (success : Success) (tasks : TaskTable) :
    Store.history ⟨tasks, store.log ++ [success]⟩ success.op.id = store.history success.op.id ++ [success] := by
  simp [Store.history, List.filter_append]

/-- The step lemma: a task that tracks its history still does after one more success on it. -/
private theorem tracks_step {lease_seconds : Int} {before : Option TaskRow} {op : TaskOp} {after : TaskRow}
    {history : List Success} (allowed : Allowed lease_seconds before op after) (tracked : Tracked history before) :
    Tracks after.toTask (history ++ [⟨op, after.toTask⟩]) := by
  have extend {row : TaskRow} (old : Tracks row.toTask history)
      (follows : ∀ last ∈ history.getLast?, Follows last ⟨op, after.toTask⟩) :
      (history ++ [(⟨op, after.toTask⟩ : Success)]).IsChain Follows := by
    rw [List.isChain_append]
    refine ⟨old.chain, List.isChain_singleton _, ?_⟩
    intro last isLast new isNew
    have same : (⟨op, after.toTask⟩ : Success) = new := by simpa using isNew
    exact same ▸ follows last isLast
  cases op with
  | create id channel title now =>
    obtain ⟨rfl, rfl⟩ := allowed
    have empty : history = [] := tracked
    subst empty
    exact ⟨⟨rfl, rfl⟩, openWords_create, List.isChain_singleton _, by simp [LastOp, TaskOp.kind]⟩
  | claim id principal_id now =>
    obtain ⟨row, rfl, guard, rfl⟩ := allowed
    have old : Tracks row.toTask history := tracked
    have last := old.last
    have word := old.word
    have some := old.row
    simp only [claimable, Bool.and_eq_true, Bool.or_eq_true, decide_eq_true_eq] at guard
    obtain ⟨⟨_, unfinished⟩, free⟩ := guard
    refine ⟨⟨rfl, rfl⟩, ?_, extend old ?_, by simp [LastOp, claimed, TaskOp.kind, TaskOp.principal]⟩
    · rw [List.map_append, List.map_singleton]
      cases status : row.status with
      | Open => rw [status] at word; exact claim_of_open word
      | Claimed => rw [status] at word; exact claim_of_claimed word
      | Done => exact absurd status unfinished
    · -- The guard of a claim on a claimed row is that its lease has run out.
      intro previous isLast wasClaim
      cases status : row.status with
      | Done => exact absurd status unfinished
      | Open =>
        simp only [LastOp, status] at last
        exact absurd wasClaim (last previous isLast)
      | Claimed =>
        simp only [LastOp, status] at last
        obtain ⟨holder, isHolder, _, _, lease⟩ := last
        obtain rfl : holder = previous := Option.some.inj (isHolder.symm.trans isLast)
        simp only [RowOk, status] at some
        obtain ⟨value, stored⟩ := Option.isSome_iff_exists.mp some.2
        rcases free with opened | expired
        · rw [status] at opened; exact TaskStatus.noConfusion opened
        · rw [stored] at expired lease
          exact ⟨value, lease, by simpa [TaskOp.now] using expired⟩
  | done id principal_id now =>
    obtain ⟨row, rfl, guard, rfl⟩ := allowed
    have old : Tracks row.toTask history := tracked
    have last := old.last
    have word := old.word
    obtain ⟨_, holder, status⟩ := held_iff.mp guard
    simp only [LastOp, status] at last
    rw [status] at word
    refine ⟨trivial, ?_, extend old ?_, trivial⟩
    · rw [List.map_append, List.map_singleton]
      exact done_of_claimed word
    · intro previous isLast
      obtain ⟨claim', isClaim, kind, principal, _⟩ := last
      obtain rfl : claim' = previous := Option.some.inj (isClaim.symm.trans isLast)
      exact ⟨kind, principal.trans holder⟩
  | release id principal_id now =>
    obtain ⟨row, rfl, guard, rfl⟩ := allowed
    have old : Tracks row.toTask history := tracked
    have last := old.last
    have word := old.word
    obtain ⟨_, holder, status⟩ := held_iff.mp guard
    simp only [LastOp, status] at last
    rw [status] at word
    refine ⟨⟨rfl, rfl⟩, ?_, extend old ?_, by simp [LastOp, released, TaskOp.kind]⟩
    · rw [List.map_append, List.map_singleton]
      exact release_of_claimed word
    · intro previous isLast
      obtain ⟨claim', isClaim, kind, principal, _⟩ := last
      obtain rfl : claim' = previous := Option.some.inj (isClaim.symm.trans isLast)
      exact ⟨kind, principal.trans holder⟩

theorem invariant_step (lease_seconds : Int) (store : Store) (op : TaskOp) (inv : Invariant store) :
    Invariant (step lease_seconds store op) := by
  rcases perform_cases lease_seconds store.tasks op with ⟨refusal, result⟩ | ⟨after, sameId, allowed, returned, stored⟩
  · have same : step lease_seconds store op = store := by simp [step, result]
    rw [same]
    exact inv
  · have next : step lease_seconds store op =
        ⟨(perform lease_seconds store.tasks op).1, store.log ++ [⟨op, after.toTask⟩]⟩ := by
      rw [step]
      split
      · next tasks task result => rw [result] at returned ⊢; simpa using returned
      · next tasks refusal result => rw [result] at returned; cases returned
    intro id
    rw [next]
    show Tracked _ ((perform lease_seconds store.tasks op).1.find id)
    rw [stored id]
    by_cases here : op.id = id
    · subst here
      rw [if_pos rfl, history_self]
      exact tracks_step allowed (inv op.id)
    · rw [if_neg here, history_other here]
      exact inv id

/-- What the rows and the histories of every run satisfy: see
    `lifecycle`, `Follows` and `RowOk`; a refused operation leaves every row as it was. -/
theorem task_lifecycle (lease_seconds : Int) (ops : List TaskOp) :
    let store := run (step lease_seconds) Store.empty ops
    (∀ row ∈ store.tasks.rows, RowOk row.toTask ∧
      (store.history row.id).map (·.op.kind) ∈ lifecycle ∧ (store.history row.id).IsChain Follows) ∧
    ∀ op refusal, (perform lease_seconds store.tasks op).2 = .error refusal →
      (perform lease_seconds store.tasks op).1 = store.tasks := by
  intro store
  have inv : Invariant store := run_invariant (fun s op => invariant_step lease_seconds s op) ops (fun _ => rfl)
  refine ⟨?_, ?_⟩
  · intro row inside
    have tracked := inv row.id
    rw [Table.find_iff.mpr ⟨inside, rfl⟩] at tracked
    refine ⟨tracked.row, ?_, tracked.chain⟩
    have word := tracked.word
    cases status : row.status with
    | Open => rw [status] at word; exact .inl (.inl word)
    | Claimed => rw [status] at word; exact .inl (.inr word)
    | Done => rw [status] at word; exact .inr word
  · intro op refusal refused
    exact perform_unchanged refused

end Aircd.Tasks

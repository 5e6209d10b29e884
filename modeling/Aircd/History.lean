import Aircd.Text
import Mathlib.Algebra.Order.Ring.Int

/-! The `messages` table and the queries on it, `history.rs`. -/
namespace Aircd.History

structure StoredMessage where
  seq : Int
  msg_id : Text
  channel : Text
  sender_id : Text
  body : Text
  created_at : Int
  deriving DecidableEq, Repr

/-- The table in the order of its key. AUTOINCREMENT gives each row the number
    after `sequence`, the largest one ever given. -/
structure Messages where
  rows : List StoredMessage
  sequence : Int
  sorted : rows.Pairwise (fun a b => a.seq < b.seq)
  numbered : ∀ m ∈ rows, 0 < m.seq ∧ m.seq ≤ sequence
  started : 0 ≤ sequence

def Messages.empty : Messages := ⟨[], 0, by simp, by simp, by decide⟩

/-- The row that the next insertion stores. -/
def next (table : Messages) (channel sender_id body msg_id : Text) (created_at : Int) : StoredMessage :=
  ⟨table.sequence + 1, msg_id, channel, sender_id, body, created_at⟩

/-- The `msg_id` is a fresh UUID, so that the index on it refuses no row. -/
def append (table : Messages) (channel sender_id body msg_id : Text) (created_at : Int) : Messages where
  rows := table.rows ++ [next table channel sender_id body msg_id created_at]
  sequence := table.sequence + 1
  sorted := by
    rw [List.pairwise_append]
    refine ⟨table.sorted, by simp, ?_⟩
    intro m inside new single
    rw [List.mem_singleton.mp single]
    have := (table.numbered m inside).2
    simp only [next]
    omega
  numbered := by
    intro m inside
    have := table.started
    rcases List.mem_append.mp inside with old | new
    · have := table.numbered m old
      omega
    · rw [List.mem_singleton.mp new]
      simp only [next]
      omega
  started := by have := table.started; omega

/-- `SELECT .. WHERE channel = ?1 AND seq > ?2 ORDER BY seq ASC`, before the limit. -/
def stored_after (table : Messages) (channel : Text) (after_seq : Int) : List StoredMessage :=
  table.rows.filter (fun m => decide (m.channel = channel) && decide (after_seq < m.seq))

def after (table : Messages) (channel : Text) (after_seq limit : Int) : List StoredMessage :=
  (stored_after table channel after_seq).take (max 1 (min limit 500)).toNat

/-- `SELECT COALESCE(MAX(seq), 0) FROM messages WHERE channel = ?1`. -/
def max_seq (table : Messages) (channel : Text) : Int :=
  ((table.rows.filter (fun m => decide (m.channel = channel))).map (·.seq)).foldl max 0

variable {table : Messages} {channel : Text} {k : Int} {m : StoredMessage}

theorem mem_append {sender_id body msg_id : Text} {created_at : Int} :
    m ∈ (append table channel sender_id body msg_id created_at).rows ↔
      m ∈ table.rows ∨ m = next table channel sender_id body msg_id created_at := by
  simp [append]

/-- A new row comes after every row stored before. -/
theorem lt_next {sender_id body msg_id : Text} {created_at : Int} (inside : m ∈ table.rows) :
    m.seq < (next table channel sender_id body msg_id created_at).seq := by
  have := (table.numbered m inside).2
  simp only [next]
  omega

/-- The key determines the row. -/
theorem eq_of_seq {a b : StoredMessage} (ha : a ∈ table.rows) (hb : b ∈ table.rows) (same : a.seq = b.seq) :
    a = b := by
  obtain ⟨i, hi, rfl⟩ := List.getElem_of_mem ha
  obtain ⟨j, hj, rfl⟩ := List.getElem_of_mem hb
  rcases Nat.lt_trichotomy i j with lt | rfl | gt
  · have := List.pairwise_iff_getElem.mp table.sorted i j hi hj lt
    omega
  · rfl
  · have := List.pairwise_iff_getElem.mp table.sorted j i hj hi gt
    omega

theorem mem_stored_after :
    m ∈ stored_after table channel k ↔ m ∈ table.rows ∧ m.channel = channel ∧ k < m.seq := by
  simp [stored_after]

theorem after_initial {limit : Int} : after table channel k limit <+: stored_after table channel k :=
  List.take_prefix _ _

theorem mem_of_mem_after {limit : Int} (inside : m ∈ after table channel k limit) :
    m ∈ table.rows ∧ m.channel = channel ∧ k < m.seq :=
  mem_stored_after.mp (after_initial.subset inside)

/-- A query whose limit is not exceeded returns every message after the cursor. -/
theorem after_complete {limit : Int} (positive : 1 ≤ limit) (small : limit ≤ 500)
    (few : ((stored_after table channel k).length : Int) ≤ limit) :
    after table channel k limit = stored_after table channel k := by
  apply List.take_of_length_le
  omega

/-- A page is empty only when nothing is stored after the cursor. -/
theorem after_nonempty (limit : Int) (inside : m ∈ table.rows) (here : m.channel = channel) (late : k < m.seq) :
    ∃ first, first ∈ after table channel k limit := by
  have stored : m ∈ stored_after table channel k := mem_stored_after.mpr ⟨inside, here, late⟩
  unfold after
  cases page : stored_after table channel k with
  | nil => rw [page] at stored; cases stored
  | cons first rest =>
    obtain ⟨n, size⟩ : ∃ n, (max 1 (min limit 500)).toNat = n + 1 := ⟨(max 1 (min limit 500)).toNat - 1, by omega⟩
    exact ⟨first, by rw [size]; simp⟩

theorem stored_after_sorted : (stored_after table channel k).Pairwise (fun a b => a.seq < b.seq) :=
  table.sorted.filter _

/-- A page leaves no message out before its last one. -/
theorem after_no_gap {limit : Int} {last : StoredMessage} (page : last ∈ after table channel k limit)
    (inside : m ∈ table.rows) (here : m.channel = channel) (late : k < m.seq) (early : m.seq ≤ last.seq) :
    m ∈ after table channel k limit := by
  have stored : m ∈ stored_after table channel k := mem_stored_after.mpr ⟨inside, here, late⟩
  have initial : after table channel k limit <+: stored_after table channel k := after_initial
  obtain ⟨rest, split⟩ := initial
  rw [← split] at stored
  rcases List.mem_append.mp stored with listed | beyond
  · exact listed
  · have order : (stored_after table channel k).Pairwise (fun a b => a.seq < b.seq) := stored_after_sorted
    rw [← split, List.pairwise_append] at order
    have := order.2.2 last page m beyond
    omega

theorem le_foldl_max (l : List Int) (start : Int) : start ≤ l.foldl max start ∧ ∀ n ∈ l, n ≤ l.foldl max start := by
  induction l generalizing start with
  | nil => simp
  | cons first rest ih =>
    obtain ⟨base, later⟩ := ih (max start first)
    refine ⟨by simp only [List.foldl_cons]; omega, ?_⟩
    intro n inside
    rcases List.mem_cons.mp inside with rfl | tail
    · simp only [List.foldl_cons]; omega
    · exact later n tail

theorem foldl_max_mem (l : List Int) (start : Int) : l.foldl max start = start ∨ l.foldl max start ∈ l := by
  induction l generalizing start with
  | nil => simp
  | cons first rest ih =>
    simp only [List.foldl_cons]
    rcases ih (max start first) with same | inside
    · rcases le_total start first with le | le
      · right; rw [same, max_eq_right le]; simp
      · left; rw [same, max_eq_left le]
    · exact .inr (List.mem_cons_of_mem _ inside)

theorem le_max_seq (inside : m ∈ table.rows) (here : m.channel = channel) : m.seq ≤ max_seq table channel := by
  apply (le_foldl_max _ 0).2
  exact List.mem_map.mpr ⟨m, by simp [inside, here], rfl⟩

theorem max_seq_le_sequence : max_seq table channel ≤ table.sequence := by
  have attained := foldl_max_mem ((table.rows.filter (fun m => decide (m.channel = channel))).map (·.seq)) 0
  rcases attained with zero | inside
  · rw [max_seq, zero]; exact table.started
  · obtain ⟨m, listed, same⟩ := List.mem_map.mp inside
    rw [max_seq, ← same]
    exact (table.numbered m (List.mem_filter.mp listed).1).2

end Aircd.History

import Aircd.Runs
import Mathlib.Order.Basic
import Mathlib.Data.List.Sort

/-!
# Reading a growing log page by page

A log keeps its rows in the order of their keys and grows at its end. A reader
asks for a page of the rows after its cursor, moves the cursor to the last row
of the page, and asks again. Rows may be stored between the pages.
-/
namespace Aircd.Paging
open Aircd.Runs
universe u v
variable {Row : Type u} {Key : Type v} [LinearOrder Key] (key : Row → Key)

def beyond (rows : List Row) (k : Key) : List Row := rows.filter (fun row => decide (k < key row))

/-- Where the next page starts. -/
def cursor_after (page : List Row) (k : Key) : Key := (page.getLast?.map key).getD k

structure Reading (Row : Type u) (Key : Type v) where
  rows : List Row
  cursor : Key
  pages : List (List Row)

inductive Event (Row : Type u) where
  | store (row : Row)
  | page (size : Nat)

def step (s : Reading Row Key) : Event Row → Reading Row Key
  | .store row => { s with rows := s.rows ++ [row] }
  | .page size =>
    { s with
      cursor := cursor_after key ((beyond key s.rows s.cursor).take size) s.cursor
      pages := s.pages ++ [(beyond key s.rows s.cursor).take size] }

/-- A row is stored after all others, and no page is asked to be empty. -/
def Fair (s : Reading Row Key) : Event Row → Prop
  | .store row => ∀ stored ∈ s.rows, key stored < key row
  | .page size => 0 < size

variable {key} {rows : List Row} {k : Key}

theorem mem_beyond {row : Row} : row ∈ beyond key rows k ↔ row ∈ rows ∧ k < key row := by
  simp [beyond]

theorem beyond_sorted (sorted : rows.Pairwise (fun a b => key a < key b)) :
    (beyond key rows k).Pairwise (fun a b => key a < key b) :=
  sorted.filter _

/-- A row that is stored last is read last, or is not asked for. -/
theorem beyond_store (row : Row) :
    beyond key (rows ++ [row]) k = beyond key rows k ++ if k < key row then [row] else [] := by
  by_cases late : k < key row <;> simp [beyond, late]

/-- Moving the cursor to a row leaves out exactly the rows up to it. -/
theorem beyond_of_split {before after : List Row} {last : Row} (sorted : rows.Pairwise (fun a b => key a < key b))
    (split : beyond key rows k = before ++ [last] ++ after) : beyond key rows (key last) = after := by
  have order : (before ++ [last] ++ after).Pairwise (fun a b => key a < key b) := split ▸ beyond_sorted sorted
  have late : k < key last := (mem_beyond.mp (split ▸ by simp : last ∈ beyond key rows k)).2
  have narrow : beyond key rows (key last) = beyond key (beyond key rows k) (key last) := by
    rw [beyond, beyond, beyond, List.filter_filter]
    apply List.filter_congr
    intro row _
    by_cases beyond_last : key last < key row
    · simp [beyond_last, late.trans beyond_last]
    · simp [beyond_last]
  rw [List.pairwise_append, List.pairwise_append] at order
  obtain ⟨⟨_, _, earlier⟩, _, later⟩ := order
  have kept : beyond key after (key last) = after := by
    apply List.filter_eq_self.mpr
    intro row inside
    exact decide_eq_true (later last (by simp) row inside)
  have left : beyond key (before ++ [last]) (key last) = [] := by
    apply List.filter_eq_nil_iff.mpr
    intro row inside
    rw [decide_eq_true_eq, not_lt]
    rcases List.mem_append.mp inside with here | here
    · exact (earlier row here last (by simp)).le
    · rw [List.mem_singleton.mp here]
  rw [narrow, split, beyond, List.filter_append]
  show beyond key (before ++ [last]) (key last) ++ beyond key after (key last) = after
  rw [left, kept, List.nil_append]

/-- A page and the rows after its last one are the rows that were asked for. -/
theorem beyond_page (sorted : rows.Pairwise (fun a b => key a < key b)) (size : Nat) :
    beyond key rows k =
      (beyond key rows k).take size ++ beyond key rows (cursor_after key ((beyond key rows k).take size) k) := by
  rcases List.eq_nil_or_concat ((beyond key rows k).take size) with empty | ⟨before, last, page⟩
  · rw [empty]
    simp [cursor_after]
  · have split : beyond key rows k = before ++ [last] ++ (beyond key rows k).drop size := by
      rw [← List.concat_eq_append, ← page, List.take_append_drop]
    have moved : cursor_after key ((beyond key rows k).take size) k = key last := by
      rw [page]
      simp [cursor_after]
    rw [moved, beyond_of_split sorted split, List.take_append_drop]

theorem page_empty {size : Nat} (positive : 0 < size) : (beyond key rows k).take size = [] ↔ beyond key rows k = [] := by
  rw [List.take_eq_nil_iff]
  constructor
  · rintro (zero | empty)
    · omega
    · exact empty
  · exact .inr

variable (key) in
/-- What the pages have read so far, with what is still to be read, is all that was asked for. -/
structure Exact (start : Key) (s : Reading Row Key) : Prop where
  sorted : s.rows.Pairwise (fun a b => key a < key b)
  split : beyond key s.rows start = s.pages.flatten ++ beyond key s.rows s.cursor
  reached : s.cursor = start ∨ start < s.cursor ∧ ∃ row ∈ s.rows, key row = s.cursor

theorem Exact.store {start : Key} {s : Reading Row Key} (exact : Exact key start s) {row : Row}
    (last : ∀ stored ∈ s.rows, key stored < key row) : Exact key start (step key s (.store row)) where
  sorted := by
    refine List.pairwise_append.mpr ⟨exact.sorted, by simp, ?_⟩
    intro stored inside new single
    rw [List.mem_singleton.mp single]
    exact last stored inside
  split := by
    show beyond key (s.rows ++ [row]) start = s.pages.flatten ++ beyond key (s.rows ++ [row]) s.cursor
    have same : start < key row ↔ s.cursor < key row := by
      rcases exact.reached with here | ⟨above, stored, inside, here⟩
      · rw [here]
      · have late : s.cursor < key row := here ▸ last stored inside
        exact ⟨fun _ => late, fun _ => above.trans late⟩
    simp only [beyond_store, same]
    rw [exact.split, List.append_assoc]
  reached := by
    rcases exact.reached with here | ⟨above, stored, inside, here⟩
    · exact .inl here
    · exact .inr ⟨above, stored, List.mem_append_left _ inside, here⟩

theorem Exact.page {start : Key} {s : Reading Row Key} (exact : Exact key start s) (size : Nat) :
    Exact key start (step key s (.page size)) where
  sorted := exact.sorted
  split := by
    show beyond key s.rows start = (s.pages ++ [(beyond key s.rows s.cursor).take size]).flatten ++
      beyond key s.rows (cursor_after key ((beyond key s.rows s.cursor).take size) s.cursor)
    rw [List.flatten_append, List.append_assoc, List.flatten_singleton, ← beyond_page exact.sorted, exact.split]
  reached := by
    show cursor_after key ((beyond key s.rows s.cursor).take size) s.cursor = start ∨
      start < cursor_after key ((beyond key s.rows s.cursor).take size) s.cursor ∧
        ∃ row ∈ s.rows, key row = cursor_after key ((beyond key s.rows s.cursor).take size) s.cursor
    rcases List.eq_nil_or_concat ((beyond key s.rows s.cursor).take size) with empty | ⟨before, last, page⟩
    · rw [empty]
      exact exact.reached
    · have moved : cursor_after key ((beyond key s.rows s.cursor).take size) s.cursor = key last := by
        simp [page, cursor_after]
      have read : last ∈ beyond key s.rows s.cursor := List.mem_of_mem_take (by rw [page]; simp)
      obtain ⟨stored, late⟩ := mem_beyond.mp read
      right
      rw [moved]
      refine ⟨?_, last, stored, rfl⟩
      rcases exact.reached with here | ⟨above, _⟩
      · exact here ▸ late
      · exact above.trans late

theorem exact_start (sorted : rows.Pairwise (fun a b => key a < key b)) (start : Key) :
    Exact key start ⟨rows, start, []⟩ :=
  ⟨sorted, rfl, .inl rfl⟩

theorem exact_run {start : Key} {s : Reading Row Key} (events : List (Event Row)) (exact : Exact key start s)
    (fair : AllSteps (step key) (Fair key) s events) : Exact key start (run (step key) s events) := by
  refine run_invariant_of ?_ events exact fair
  intro s e exact fair
  cases e with
  | store row => exact exact.store fair
  | page size => exact exact.page size

/-- The pages of an exact reading are in order, and hold nothing that was not asked for. -/
theorem Exact.pages_sorted {start : Key} {s : Reading Row Key} (exact : Exact key start s) :
    s.pages.flatten.Pairwise (fun a b => key a < key b) := by
  have order : (beyond key s.rows start).Pairwise (fun a b => key a < key b) := beyond_sorted exact.sorted
  rw [exact.split, List.pairwise_append] at order
  exact order.1

theorem Exact.mem_pages {start : Key} {s : Reading Row Key} (exact : Exact key start s) {row : Row}
    (read : row ∈ s.pages.flatten) : row ∈ s.rows ∧ start < key row :=
  mem_beyond.mp (exact.split ▸ List.mem_append_left _ read)

/-- The next page is empty exactly when all that was asked for has been read. -/
theorem Exact.page_empty {start : Key} {s : Reading Row Key} (exact : Exact key start s) {size : Nat}
    (positive : 0 < size) :
    (beyond key s.rows s.cursor).take size = [] ↔ s.pages.flatten = beyond key s.rows start := by
  rw [Paging.page_empty positive, exact.split, List.self_eq_append_right]

end Aircd.Paging

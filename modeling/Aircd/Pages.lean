import Aircd.History
import Aircd.Paging

/-!
# Paging through the history of a channel

A client reads `HistoryStore::after` again and again, each time after the last
message of the page before, while messages are stored in any channel.
-/
namespace Aircd.Pages
open Aircd.Runs Aircd.Text Aircd.History

structure Client where
  table : Messages
  after_seq : Int
  pages : List (List StoredMessage)

inductive Event where
  | append (channel sender_id body msg_id : Text) (created_at : Int)
  | after (limit : Int)

def step (channel : Text) (s : Client) : Event → Client
  | .append name sender_id body msg_id created_at => { s with table := append s.table name sender_id body msg_id created_at }
  | .after limit =>
    { s with
      after_seq := (((after s.table channel s.after_seq limit).getLast?).map (·.seq)).getD s.after_seq
      pages := s.pages ++ [after s.table channel s.after_seq limit] }

/-- A client that has read nothing yet. -/
def started (table : Messages) (after_seq : Int) : Client := ⟨table, after_seq, []⟩

/-- The messages of a channel, as the log that its pages are read from. -/
def log (table : Messages) (channel : Text) : List StoredMessage := table.rows.filter (fun m => decide (m.channel = channel))

def reading (channel : Text) (s : Client) : Paging.Reading StoredMessage Int := ⟨log s.table channel, s.after_seq, s.pages⟩

def page_size (limit : Int) : Nat := (max 1 (min limit 500)).toNat

variable {table : Messages} {channel : Text}

theorem page_size_pos (limit : Int) : 0 < page_size limit := by
  simp only [page_size]
  omega

theorem stored_after_eq (after_seq : Int) :
    stored_after table channel after_seq = Paging.beyond (·.seq) (log table channel) after_seq := by
  rw [stored_after, Paging.beyond, log, List.filter_filter]
  apply List.filter_congr
  intro m _
  rw [Bool.and_comm]

theorem after_eq (after_seq limit : Int) :
    after table channel after_seq limit = (Paging.beyond (·.seq) (log table channel) after_seq).take (page_size limit) := by
  rw [after, stored_after_eq, page_size]

theorem log_sorted : (log table channel).Pairwise (fun a b => a.seq < b.seq) := table.sorted.filter _

/-- A stored message is one more of its channel, and of no other. -/
theorem log_append (name sender_id body msg_id : Text) (created_at : Int) :
    log (append table name sender_id body msg_id created_at) channel =
      log table channel ++ if name = channel then [next table name sender_id body msg_id created_at] else [] := by
  by_cases here : name = channel <;> simp [log, append, next, here]

/-- A step of the client is a step of the reading of its channel, or leaves that alone. -/
theorem reading_step (channel : Text) (s : Client) (e : Event) :
    (∃ fair, Paging.Fair (·.seq) (reading channel s) fair ∧
      reading channel (step channel s e) = Paging.step (·.seq) (reading channel s) fair) ∨
    reading channel (step channel s e) = reading channel s := by
  cases e with
  | append name sender_id body msg_id created_at =>
    by_cases here : name = channel
    · refine .inl ⟨.store (next s.table name sender_id body msg_id created_at), ?_, ?_⟩
      · intro stored inside
        exact lt_next (List.mem_filter.mp inside).1
      · simp [reading, step, Paging.step, log_append, here]
    · right
      simp [reading, step, log_append, here]
  | after limit =>
    refine .inl ⟨.page (page_size limit), page_size_pos limit, ?_⟩
    simp only [reading, step, Paging.step, after_eq, Paging.cursor_after]

theorem exact_run (start : Int) (events : List Event) :
    Paging.Exact (·.seq) start (reading channel (run (step channel) (started table start) events)) := by
  have keeps : ∀ s e, Paging.Exact (·.seq) start (reading channel s) →
      Paging.Exact (·.seq) start (reading channel (step channel s e)) := by
    intro s e exact
    rcases reading_step channel s e with ⟨fair, allowed, same⟩ | same
    · rw [same]
      exact Paging.exact_run [fair] exact ⟨allowed, trivial⟩
    · rw [same]
      exact exact
  exact run_invariant keeps events (Paging.exact_start log_sorted start)

/-- Paging is complete: whatever limits are asked for and whatever is stored between the pages, the
    pages are in order, hold messages of the channel alone, and the next one is empty exactly when
    they are all that is stored after the start. -/
theorem paging_complete (table : Messages) (channel : Text) (start : Int) (events : List Event) :
    let s := run (step channel) (started table start) events
    s.pages.flatten.Pairwise (fun a b => a.seq < b.seq) ∧
    (∀ m ∈ s.pages.flatten, m ∈ s.table.rows ∧ m.channel = channel ∧ start < m.seq) ∧
    ∀ limit, after s.table channel s.after_seq limit = [] ↔
      s.pages.flatten = s.table.rows.filter (fun m => decide (m.channel = channel) && decide (start < m.seq)) := by
  intro s
  have exact : Paging.Exact (·.seq) start (reading channel s) := exact_run start events
  refine ⟨exact.pages_sorted, ?_, ?_⟩
  · intro m read
    have ⟨stored, late⟩ := exact.mem_pages read
    obtain ⟨inside, here⟩ := List.mem_filter.mp stored
    exact ⟨inside, of_decide_eq_true here, late⟩
  · intro limit
    rw [after_eq]
    have all : s.table.rows.filter (fun m => decide (m.channel = channel) && decide (start < m.seq)) =
        Paging.beyond (·.seq) (log s.table channel) start := stored_after_eq start
    rw [all]
    exact exact.page_empty (page_size_pos limit)

end Aircd.Pages

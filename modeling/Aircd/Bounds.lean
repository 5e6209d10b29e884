import Aircd.TaskEvents

/-!
# The cursors of memberships

A cursor is written by a JOIN, a broadcast and a replay, and each of them writes
0 or the number of a message of the channel. The largest number of a channel is
therefore not below any cursor that ever was, and a JOIN after a PART starts there.
-/
namespace Aircd.Concurrent
open Aircd.Runs Aircd.Text Aircd.Auth Aircd.History Aircd.Tasks Aircd.Store Aircd.Server

variable {cfg : Config} {s : System} {w : World} {env : Env} {sid : SessionId} {x : Section} {e : Event} {p c : Text} {k k' : Int}

/-- 0, or the number of a message of the channel. -/
def SeqOf (log : Messages) (c : Text) (k : Int) : Prop := k = 0 ∨ ∃ m ∈ log.rows, m.channel = c ∧ m.seq = k

theorem SeqOf.mono {log log' : Messages} (seq : SeqOf log c k) (grows : ∀ m ∈ log.rows, m ∈ log'.rows) : SeqOf log' c k := by
  rcases seq with zero | ⟨m, stored, here, same⟩
  · exact .inl zero
  · exact .inr ⟨m, grows m stored, here, same⟩

/-- The cursor of a new membership is one, and none is above it. -/
theorem seqOf_max_seq (log : Messages) (c : Text) : SeqOf log c (max_seq log c) := by
  rcases foldl_max_mem ((log.rows.filter (fun m : StoredMessage => decide (m.channel = c))).map (·.seq)) 0 with zero | inside
  · exact .inl zero
  · obtain ⟨m, listed, same⟩ := List.mem_map.mp inside
    obtain ⟨stored, here⟩ := List.mem_filter.mp listed
    exact .inr ⟨m, stored, of_decide_eq_true here, same⟩

theorem SeqOf.le_max_seq {log : Messages} (seq : SeqOf log c k) : k ≤ max_seq log c := by
  rcases seq with rfl | ⟨m, stored, here, rfl⟩
  · exact (le_foldl_max _ 0).1
  · exact History.le_max_seq stored here

/-- What a section can make of a cursor. -/
theorem cursor_perform_cases (logged : x.Logged w.db.messages) (after : cursor (perform cfg w env sid x).1.db p c = some k') :
    (∃ k, cursor w.db p c = some k ∧ k ≤ k' ∧ (k' = k ∨ SeqOf w.db.messages c k')) ∨
    (cursor w.db p c = none ∧ k' = max_seq w.db.messages c) := by
  rw [cursor_perform] at after
  cases x with
  | mark_seen id channel seq =>
    obtain ⟨k, before, seen⟩ := Option.map_eq_some_iff.mp after
    refine .inl ⟨k, before, ?_⟩
    split at seen
    · next here =>
      obtain ⟨m, stored, same, rfl⟩ := logged
      rcases le_total k m.seq with late | early
      · refine ⟨by omega, .inr (.inr ⟨m, stored, same.trans here.2.symm, by omega⟩)⟩
      · exact ⟨by omega, .inl (by omega)⟩
    · exact ⟨by omega, .inl (by omega)⟩
  | add_membership principal channel =>
    dsimp only at after
    split at after
    · next fresh =>
      obtain ⟨absent, rfl, rfl⟩ := fresh
      cases after
      exact .inr ⟨absent, rfl⟩
    · exact .inl ⟨k', after, le_refl k', .inl rfl⟩
  | remove_membership principal channel =>
    dsimp only at after
    split at after
    · cases after
    · exact .inl ⟨k', after, le_refl k', .inl rfl⟩
  | _ => exact .inl ⟨k', after, le_refl k', .inl rfl⟩

/-- What an event can make of a cursor. -/
theorem cursor_step_cases (inv : Logged s) (after : cursor (step cfg s e).world.db p c = some k') :
    (∃ k, cursor s.world.db p c = some k ∧ k ≤ k' ∧ (k' = k ∨ SeqOf s.world.db.messages c k')) ∨
    (cursor s.world.db p c = none ∧ k' = max_seq s.world.db.messages c) := by
  rcases stepped cfg s e with ⟨sid, env, here, rest, rfl, head⟩ | idle | notRun
  · rw [step_run head] at after
    exact cursor_perform_cases (inv.tasks sid here (by rw [head]; exact List.mem_cons_self)) after
  · rw [idle] at after
    exact .inl ⟨k', after, le_refl k', .inl rfl⟩
  · rw [db_step_other cfg s notRun] at after
    exact .inl ⟨k', after, le_refl k', .inl rfl⟩

/-- Every cursor is the number of a message of its channel. -/
structure Seen (s : System) : Prop where
  logged : Logged s
  seqs : ∀ p c k, cursor s.world.db p c = some k → SeqOf s.world.db.messages c k

theorem Seen.step (inv : Seen s) : Seen (step cfg s e) := by
  refine ⟨inv.logged.step, ?_⟩
  intro p c k' after
  have grows (m : StoredMessage) (stored : m ∈ s.world.db.messages.rows) : m ∈ (Concurrent.step cfg s e).world.db.messages.rows :=
    rows_step stored
  rcases cursor_step_cases inv.logged after with ⟨k, before, _, rfl | seq⟩ | ⟨_, rfl⟩
  · exact (inv.seqs p c k' before).mono grows
  · exact seq.mono grows
  · exact (seqOf_max_seq _ c).mono grows

/-- No cursor of the membership, now or later, is below `k`. -/
structure Floor (p c : Text) (k : Int) (s : System) : Prop where
  seen : Seen s
  seq : SeqOf s.world.db.messages c k
  above : ∀ k', cursor s.world.db p c = some k' → k ≤ k'

theorem Floor.step (inv : Floor p c k s) : Floor p c k (step cfg s e) := by
  refine ⟨inv.seen.step, inv.seq.mono (fun m stored => rows_step stored), ?_⟩
  intro k' after
  rcases cursor_step_cases inv.seen.logged after with ⟨between, before, up, _⟩ | ⟨_, rfl⟩
  · have := inv.above between before
    omega
  · exact inv.seq.le_max_seq

/-- A server with an empty membership table. -/
def unjoined (principals : PrincipalTable) (principal_tokens : TokenTable) (messages : Messages) (tasks : TaskTable) : System :=
  start ⟨principals, principal_tokens, Table.empty, messages, tasks⟩

/-- In every reached state a cursor is 0 or the number of a message of its channel,
    and no later cursor of the same principal in the same channel is below it,
    whether the membership has been there throughout or was created again. -/
theorem cursors_sound (cfg : Config) (principals : PrincipalTable) (principal_tokens : TokenTable) (messages : Messages)
    (tasks : TaskTable) (events later : List Event) (p c : Text) :
    let s := run (step cfg) (unjoined principals principal_tokens messages tasks) events
    let s' := run (step cfg) s later
    (∀ k, cursor s.world.db p c = some k → k = 0 ∨ ∃ m ∈ s.world.db.messages.rows, m.channel = c ∧ m.seq = k) ∧
    ∀ k k', cursor s.world.db p c = some k → cursor s'.world.db p c = some k' → k ≤ k' := by
  intro s s'
  have seen : Seen s := by
    apply run_invariant (fun _ _ inv => inv.step) events
    exact ⟨logged_run cfg _ [], fun p c k found => by cases found⟩
  refine ⟨fun k found => seen.seqs p c k found, ?_⟩
  intro k k' before after
  have floor : Floor p c k s := by
    refine ⟨seen, seen.seqs p c k before, ?_⟩
    intro same found
    rw [before] at found
    cases found
    exact le_refl k
  have later : Floor p c k s' := run_invariant (fun _ _ inv => inv.step) later floor
  exact later.above k' after

end Aircd.Concurrent

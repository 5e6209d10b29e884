import Aircd.Cursors

/-!
# Explicit history

`CHATHISTORY` and `HISTORY` read from a number of the client's choice, in one
channel or in all of its memberships, and move the cursors to the ends of the
pages. Here is when they move none over a message that was not sent.
-/
namespace Aircd.Server
open Aircd.Text Aircd.Protocol Aircd.Auth Aircd.History Aircd.Tasks Aircd.Store

/-- The channels that a history command reads. -/
def read_channels (w : World) (principal : Principal) : Option Text → List Text
  | some channel => [normalize_channel channel]
  | none => (memberships w.db principal.id).map (·.channel)

/-- The messages that a command queues to its session. -/
def sent_by (cfg : Config) (w : World) (env : Env) (sid : SessionId) (command : Command) : List StoredMessage :=
  ((handle_command cfg w env sid command).1.enqueued sid).drop (w.enqueued sid).length

/-- Whatever a command moves a cursor of the principal over, it has sent. -/
def HidesNothing (cfg : Config) (w : World) (env : Env) (sid : SessionId) (id : Text) (command : Command) : Prop :=
  ∀ c k k', cursor w.db id c = some k → cursor (handle_command cfg w env sid command).1.db id c = some k' →
    ∀ m ∈ w.db.messages.rows, m.channel = c → k < m.seq → m.seq ≤ k' → m ∈ sent_by cfg w env sid command

/-- Where the page of a channel goes beyond its cursor, the session can be written to, and the number that
    the page is read from leaves out no message after the cursor. -/
def ReadsOn (w : World) (sid : SessionId) (principal : Principal) (channel : Option Text) (after_seq limit : Int) : Prop :=
  ∀ c ∈ read_channels w principal channel, ∀ k, cursor w.db principal.id c = some k →
    (∃ m ∈ after w.db.messages c after_seq limit, k < m.seq) →
      w.open sid ∧ ∀ m ∈ w.db.messages.rows, m.channel = c → k < m.seq → after_seq < m.seq

variable {cfg : Config} {w w' : World} {env : Env} {sid : SessionId} {principal : Principal} {channel : Option Text}
  {after_seq limit : Int}

/-! ## What is read -/

/-- The pages of the channels go to the session when it can be written to, and the cursors to their ends. -/
structure Reads (w w' : World) (sid : SessionId) (id : Text) (channels : List Text) (after_seq limit : Int) : Prop where
  messages : w'.db.messages = w.db.messages
  opens : w'.open sid ↔ w.open sid
  enqueued : w'.enqueued sid = w.enqueued sid ++
    if w.open sid then channels.flatMap (fun c => after w.db.messages c after_seq limit) else []
  cursors : ∀ c k, cursor w.db id c = some k → cursor w'.db id c =
    if c ∈ channels ∧ after_seq < page_max after_seq (after w.db.messages c after_seq limit) then
      some (max k (page_max after_seq (after w.db.messages c after_seq limit)))
    else some k

theorem reads_channel (w : World) (sid : SessionId) (principal : Principal) (after_seq limit : Int) (channel : Text) :
    Reads w (replay_channel w sid principal after_seq limit channel) sid principal.id [channel] after_seq limit := by
  obtain ⟨db, _, opens, _, enqueued⟩ := replayed_lines sid (after w.db.messages channel after_seq limit) w
  have queued := enqueued sid
  have lines : (if sid = sid ∧ w.open sid then w.enqueued sid ++ after w.db.messages channel after_seq limit
      else w.enqueued sid) = w.enqueued sid ++
        if w.open sid then [channel].flatMap (fun c => after w.db.messages c after_seq limit) else [] := by
    by_cases alive : w.open sid <;> simp [alive]
  rw [lines] at queued
  unfold replay_channel
  dsimp only
  by_cases moves : after_seq < page_max after_seq (after w.db.messages channel after_seq limit)
  · rw [if_pos moves]
    refine ⟨by simp [db], opens sid, queued, ?_⟩
    intro c k before
    rw [cursor_mark_seen, db, before, Option.map_some]
    by_cases here : c = channel
    · subst here
      simp [moves]
    · simp [here]
  · rw [if_neg moves]
    refine ⟨by rw [db], opens sid, queued, ?_⟩
    intro c k before
    rw [db, before, if_neg]
    rintro ⟨inside, moves'⟩
    rw [List.mem_singleton.mp inside] at moves'
    exact moves moves'

theorem reads_history (channels : List Text) (w : World) (sid : SessionId) (principal : Principal) (after_seq limit : Int)
    (distinct : channels.Nodup) :
    Reads w (replay_history w sid principal channels after_seq limit) sid principal.id channels after_seq limit := by
  induction channels generalizing w with
  | nil => exact ⟨rfl, Iff.rfl, by simp [replay_history], fun c k before => by simpa [replay_history] using before⟩
  | cons first rest ih =>
    obtain ⟨alone, distinct⟩ := List.nodup_cons.mp distinct
    have head := reads_channel w sid principal after_seq limit first
    have tail := ih (replay_channel w sid principal after_seq limit first) distinct
    have whole : replay_history w sid principal (first :: rest) after_seq limit =
        replay_history (replay_channel w sid principal after_seq limit first) sid principal rest after_seq limit := rfl
    rw [whole]
    refine ⟨tail.messages.trans head.messages, tail.opens.trans head.opens, ?_, ?_⟩
    · rw [tail.enqueued, head.enqueued, head.messages]
      simp only [head.opens]
      by_cases alive : w.open sid <;> simp [alive]
    · intro c k before
      by_cases here : c = first
      · subst here
        have middle := head.cursors c k before
        split at middle
        · next moves => rw [tail.cursors c _ middle, if_neg (fun both => alone both.1), if_pos ⟨by simp, moves.2⟩]
        · next stays =>
          rw [tail.cursors c _ middle, if_neg (fun both => alone both.1), if_neg]
          exact fun both => stays ⟨by simp, both.2⟩
      · have middle := head.cursors c k before
        rw [if_neg (by simp [here])] at middle
        rw [tail.cursors c k middle, head.messages]
        simp [here]

/-! ## A page -/

/-- The end of a page that has a message after the cursor, and no end of another one. -/
theorem page_max_iff {table : Messages} {c : Text} {k : Int} :
    (after_seq < page_max after_seq (after table c after_seq limit) ∧ k < page_max after_seq (after table c after_seq limit)) ↔
      ∃ m ∈ after table c after_seq limit, k < m.seq := by
  constructor
  · rintro ⟨moves, beyond⟩
    rcases page_max_attained after_seq (after table c after_seq limit) with same | ⟨last, page, same⟩
    · omega
    · exact ⟨last, page, by omega⟩
  · rintro ⟨m, page, beyond⟩
    have below := (le_page_max after_seq (after table c after_seq limit)).2 m page
    have late := (mem_of_mem_after page).2.2
    omega

theorem read_channels_nodup (w : World) (principal : Principal) (channel : Option Text) :
    (read_channels w principal channel).Nodup := by
  cases channel with
  | none => exact memberships_nodup
  | some channel => exact List.nodup_singleton _

theorem handle_history (here : current w sid = some principal) :
    (handle_command cfg w env sid (.History channel after_seq limit)).1 =
      replay_history w sid principal (read_channels w principal channel) after_seq limit := by
  rcases @with_registered_cases w sid (fun w principal =>
      (replay_history w sid principal (read_channels w principal channel) after_seq limit, .ok false)) with
    ⟨other, acts, handled⟩ | ⟨nobody, _⟩
  · obtain rfl : principal = other := Option.some.inj (here.symm.trans acts)
    have unfolded : handle_command cfg w env sid (.History channel after_seq limit) =
        with_registered w sid (fun w principal =>
          (replay_history w sid principal (read_channels w principal channel) after_seq limit, .ok false)) := by
      cases channel <;> rfl
    rw [unfolded, handled]
  · rw [here] at nobody
    cases nobody

/-- An explicit read moves no cursor over a message that it did not send exactly when every page that goes
    beyond its cursor is read on from there, and is sent. -/
theorem hides_nothing_iff (cfg : Config) (env : Env) (here : current w sid = some principal) (channel : Option Text)
    (after_seq limit : Int) :
    HidesNothing cfg w env sid principal.id (.History channel after_seq limit) ↔
      ReadsOn w sid principal channel after_seq limit := by
  have reads := reads_history (read_channels w principal channel) w sid principal after_seq limit
    (read_channels_nodup w principal channel)
  have sent : sent_by cfg w env sid (.History channel after_seq limit) = if w.open sid then
      (read_channels w principal channel).flatMap (fun c => after w.db.messages c after_seq limit) else [] := by
    rw [sent_by, handle_history here, reads.enqueued, List.drop_left]
  constructor
  · intro hides c asked k before beyond
    obtain ⟨moves, above⟩ := page_max_iff.mpr beyond
    have moved := reads.cursors c k before
    rw [if_pos ⟨asked, moves⟩, ← @handle_history cfg w env sid principal channel after_seq limit here] at moved
    have told (m : StoredMessage) (stored : m ∈ w.db.messages.rows) (of : m.channel = c) (late : k < m.seq)
        (early : m.seq ≤ page_max after_seq (after w.db.messages c after_seq limit)) :
        w.open sid ∧ after_seq < m.seq := by
      have sent' := hides c k _ before moved m stored of late (le_max_of_le_right early)
      rw [sent] at sent'
      split at sent'
      · next alive =>
        obtain ⟨c', _, page⟩ := List.mem_flatMap.mp sent'
        exact ⟨alive, (mem_of_mem_after page).2.2⟩
      · cases sent'
    obtain ⟨last, page, late⟩ := beyond
    have below := (le_page_max after_seq (after w.db.messages c after_seq limit)).2 last page
    obtain ⟨stored, of, _⟩ := mem_of_mem_after page
    refine ⟨(told last stored of late below).1, ?_⟩
    intro m stored of late
    by_cases early : m.seq ≤ page_max after_seq (after w.db.messages c after_seq limit)
    · exact (told m stored of late early).2
    · omega
  · intro readsOn c k k' before moved m stored of late early
    rw [handle_history here, reads.cursors c k before] at moved
    rw [sent]
    split at moved
    · next asked =>
      obtain rfl := Option.some.inj moved
      have above : k < page_max after_seq (after w.db.messages c after_seq limit) := by omega
      have beyond := page_max_iff.mp ⟨asked.2, above⟩
      obtain ⟨alive, onward⟩ := readsOn c asked.1 k before beyond
      rw [if_pos alive]
      refine List.mem_flatMap.mpr ⟨c, asked.1, ?_⟩
      rcases page_max_attained after_seq (after w.db.messages c after_seq limit) with same | ⟨last, page, same⟩
      · omega
      · exact after_no_gap page stored of (onward m stored of late) (by omega)
    · obtain rfl := Option.some.inj moved
      omega

/-! ### A late page -/

/-- Bob is back after 202 messages, of which the replay has sent him 200. -/
def back : World :=
  (Runs.run (observe plain) (initial alice_and_bob Table.empty Messages.empty Table.empty) (absence 202)).world

def late_page : Command := .History (some "#c".toList) 201 100

theorem hides_nothing_iff_back :
    HidesNothing plain back (moment 0) 2 "bob".toList late_page ↔
      ReadsOn back 2 ⟨"bob".toList, "bob".toList, none⟩ (some "#c".toList) 201 100 := by
  have here : current back 2 = some ⟨"bob".toList, "bob".toList, none⟩ := by decide +kernel
  exact hides_nothing_iff plain (moment 0) here (some "#c".toList) 201 100

theorem late_page_moves :
    cursor back.db "bob".toList "#c".toList = some 200 ∧
    cursor (handle_command plain back (moment 0) 2 late_page).1.db "bob".toList "#c".toList = some 202 ∧
    ⟨201, "msg_200".toList, "#c".toList, "alice".toList, "hi".toList, 0⟩ ∈ back.db.messages.rows ∧
    sent_by plain back (moment 0) 2 late_page = [⟨202, "msg_201".toList, "#c".toList, "alice".toList, "hi".toList, 0⟩] := by
  decide +kernel

/-- The page after message 201 moves the cursor from 200 over that message, which he was never sent. -/
theorem late_page_hides : ¬ HidesNothing plain back (moment 0) 2 "bob".toList late_page := by
  intro hides
  obtain ⟨before, moved, stored, sent⟩ := late_page_moves
  have told := hides "#c".toList 200 202 before moved _ stored rfl (by decide) (by decide)
  rw [sent] at told
  cases List.mem_singleton.mp told

end Aircd.Server

import Aircd.Pending

/-!
# Handoffs

A session takes over the delivery of a channel at a registration, which replays
what was stored after the cursor that it read, and at a JOIN, which starts from
the present end of the log. Other tasks append and deliver messages meanwhile. A
message is owed to the session while some task still has a section to run that
will queue it.
-/
namespace Aircd.Concurrent
open Aircd.Runs Aircd.Text Aircd.Auth Aircd.History Aircd.Store Aircd.Server

/-- The message that a section is about to send to the recipients of its channel. -/
def Section.message : Section → Option StoredMessage
  | .broadcast_message _ message _ => some message
  | .deliver _ message _ _ => some message
  | _ => none

/-- No task has a message left to send to a recipient. -/
def Finished (s : System) (m : StoredMessage) : Prop := ∀ sid, ∀ x ∈ s.threads sid, x.message ≠ some m

/-- The session that takes over, its principal, the channel and the cursor from which it takes over. -/
structure Takeover where
  sid : SessionId
  principal_id : Text
  channel : Text
  after_seq : Int

namespace Takeover

/-- A section of any task that will queue the message to the session, if the session is in the snapshot. -/
def Delivers (t : Takeover) (m : StoredMessage) : Section → Prop
  | .broadcast_message channel message _ => channel = t.channel ∧ message = m
  | .deliver _ message _ recipient => message = m ∧ recipient.2.session_id = t.sid
  | _ => False

/-- A section of the task of the session itself that leads to a replay of the message. -/
def Replays (t : Takeover) (m : StoredMessage) : Section → Prop
  | .insert_client principal memberships => principal.id = t.principal_id ∧ ⟨t.channel, t.after_seq⟩ ∈ memberships
  | .history _ channel after_seq limit => channel = t.channel ∧ after_seq = t.after_seq ∧ limit = 200
  | .display_name message => message = m
  | .send line => line.stored = some m
  | _ => False

/-- Queued to the session or on its way in the task of its sender. -/
def Live (t : Takeover) (s : System) (m : StoredMessage) : Prop :=
  m ∈ s.world.enqueued t.sid ∨ ∃ sid, ∃ x ∈ s.threads sid, t.Delivers m x

def Owed (t : Takeover) (s : System) (m : StoredMessage) : Prop :=
  t.Live s m ∨ ∃ x ∈ s.threads t.sid, t.Replays m x

/-- The registration has read the memberships, and its handle is yet to be inserted. -/
def Waits (t : Takeover) (s : System) : Prop :=
  ∃ principal memberships, Section.insert_client principal memberships ∈ s.threads t.sid ∧
    principal.id = t.principal_id ∧ ⟨t.channel, t.after_seq⟩ ∈ memberships

/-- The snapshots of the channel contain the session. -/
def Routes (t : Takeover) (w : World) : Prop :=
  w.inner.clients t.principal_id = some ⟨t.sid⟩ ∧ t.principal_id ∈ members w.inner t.channel

/-- The sections that take the session or its principal out of the channel: the
    registration of another session of the principal, the end of the session, and a PART. -/
def disturbs (t : Takeover) (sid : SessionId) : Section → Bool
  | .insert_client principal _ => decide (principal.id = t.principal_id) && decide (sid ≠ t.sid)
  | .remove_client _ => decide (sid = t.sid)
  | .finish => decide (sid = t.sid)
  | .remove_membership principal channel => decide (principal.id = t.principal_id) && decide (channel = t.channel)
  | .remove_member principal channel => decide (principal.id = t.principal_id) && decide (channel = t.channel)
  | _ => false

/-- The event leaves the session the current one of its principal, in the channel and with an open queue. -/
def undisturbed (t : Takeover) (s : System) : Event → Bool
  | .run sid _ => (s.threads sid).head?.all (fun here => !t.disturbs sid here)
  | .connect sid => decide (sid ≠ t.sid)
  | .writer_end sid => decide (sid ≠ t.sid)
  | .restart => false
  | _ => true

/-- A history query from the cursor of the takeover finds at most 200 messages. -/
def few (t : Takeover) (s : System) : Event → Bool
  | .run sid _ => (s.threads sid).head?.all (fun here => match here with
    | .history _ channel after_seq _ => decide (sid = t.sid → channel = t.channel → after_seq = t.after_seq →
        (stored_after s.world.db.messages channel after_seq).length ≤ 200)
    | _ => true)
  | _ => true

variable {t : Takeover} {cfg : Config} {s : System} {w : World} {env : Env} {sid : SessionId} {m : StoredMessage}

/-- The task that runs its first section keeps the others, and the other tasks keep all. -/
theorem mem_threads_run {here x : Section} {rest : List Section} {sid' : SessionId} (w' : World) (more : List Section)
    (head : s.threads sid = here :: rest) (inside : x ∈ s.threads sid') :
    (sid' = sid ∧ x = here) ∨ x ∈ (s.resume sid (w', more ++ rest)).threads sid' := by
  rw [threads_resume]
  by_cases same : sid' = sid
  · subst same
    rw [head] at inside
    rcases List.mem_cons.mp inside with rfl | later
    · exact .inl ⟨rfl, rfl⟩
    · right; rw [if_pos rfl]; exact List.mem_append_right _ later
  · right; rw [if_neg same]; exact inside

theorem mem_threads_more {x : Section} {rest more : List Section} {w' : World} (inside : x ∈ more) :
    x ∈ (s.resume sid (w', more ++ rest)).threads sid := by
  rw [threads_resume, if_pos rfl]
  exact List.mem_append_left _ inside

/-- What a section queues to the session with an open queue is queued. -/
theorem mem_enqueued_perform {x : Section} (alive : w.open t.sid) (queues : x.queues sid = some (t.sid, m)) :
    m ∈ (perform cfg w env sid x).1.enqueued t.sid := by
  rw [enqueued_perform, queues]
  simp [alive, Option.filter]

/-- A message on its way stays so when a section runs, if its snapshot finds the session. -/
theorem Live.run {here : Section} {rest : List Section} (head : s.threads sid = here :: rest)
    (alive : s.world.open t.sid) (live : t.Live s m)
    (routes : ∀ notice, here = .broadcast_message t.channel m notice → t.Routes s.world) :
    t.Live (step cfg s (.run sid env)) m := by
  rw [step_run head]
  rcases live with old | ⟨sid', x, pending, delivers⟩
  · left
    rw [world_resume, enqueued_perform]
    exact List.mem_append_left _ old
  · rcases mem_threads_run (perform cfg s.world env sid here).1 (perform cfg s.world env sid here).2
      head pending with ⟨rfl, rfl⟩ | kept
    · cases x with
      | broadcast_message channel message notice =>
        obtain ⟨rfl, rfl⟩ := delivers
        obtain ⟨client, listed⟩ := routes notice rfl
        refine .inr ⟨sid', .deliver t.channel message notice (t.principal_id, ⟨t.sid⟩), mem_threads_more ?_, rfl, rfl⟩
        exact List.mem_map.mpr ⟨_, mem_recipients.mpr ⟨listed, client⟩, rfl⟩
      | deliver channel message notice recipient =>
        obtain ⟨rfl, here⟩ := delivers
        exact .inl (mem_enqueued_perform alive (by simp [Section.queues, here]))
      | _ => exact delivers.elim
    · exact .inr ⟨sid', x, kept, delivers⟩

/-- A message that is owed stays owed when a section runs: a snapshot that misses
    the session comes before its registration queries the history. -/
theorem Owed.run {here : Section} {rest : List Section} (head : s.threads sid = here :: rest)
    (alive : s.world.open t.sid) (attached : t.Waits s ∨ t.Routes s.world) (owed : t.Owed s m)
    (stored : m ∈ s.world.db.messages.rows) (inside : m.channel = t.channel) (late : t.after_seq < m.seq)
    (short : t.few s (.run sid env) = true) : t.Owed (step cfg s (.run sid env)) m := by
  have replayed : ∀ x ∈ s.threads t.sid, t.Replays m x → t.Owed (step cfg s (.run sid env)) m := by
    intro x pending replays
    rw [step_run head]
    rcases mem_threads_run (perform cfg s.world env sid here).1 (perform cfg s.world env sid here).2
      head pending with ⟨rfl, rfl⟩ | kept
    · cases x with
      | insert_client principal memberships =>
        obtain ⟨_, listed⟩ := replays
        refine .inr ⟨.history principal t.channel t.after_seq 200, mem_threads_more ?_, rfl, rfl, rfl⟩
        have some : memberships.isEmpty = false := by
          cases memberships with
          | nil => cases listed
          | cons _ _ => rfl
        simp only [perform, welcome, some, Bool.false_eq_true, if_false, List.mem_append, List.mem_cons, List.mem_map]
        exact .inr (.inr ⟨_, listed, rfl⟩)
      | history principal channel after_seq limit =>
        obtain ⟨rfl, rfl, rfl⟩ := replays
        simp only [few, head, List.head?_cons, Option.all_some, decide_eq_true_eq, forall_const] at short
        refine .inr ⟨.display_name m, mem_threads_more ?_, rfl⟩
        simp only [perform, List.mem_append, List.mem_map]
        refine .inl ⟨m, ?_, rfl⟩
        rw [after_complete (by decide) (by decide) (by exact_mod_cast short)]
        exact mem_stored_after.mpr ⟨stored, inside, late⟩
      | display_name message =>
        obtain rfl := replays
        exact .inr ⟨_, mem_threads_more (List.mem_singleton_self _), rfl⟩
      | send line =>
        have carried : line.stored = some m := replays
        exact .inl (.inl (mem_enqueued_perform alive (by simp [Section.queues, carried])))
      | _ => exact replays.elim
    · exact .inr ⟨x, kept, replays⟩
  rcases owed with live | ⟨x, pending, replays⟩
  · rcases attached with ⟨principal, memberships, waiting, self, listed⟩ | routes
    · exact replayed _ waiting ⟨self, listed⟩
    · exact .inl (live.run head alive (fun _ _ => routes))
  · exact replayed x pending replays

/-- The session stays the current one of its principal while nothing disturbs it. -/
theorem client_run {here : Section} (client : w.inner.clients t.principal_id = some ⟨t.sid⟩)
    (calm : t.disturbs sid here = false) : (perform cfg w env sid here).1.inner.clients t.principal_id = some ⟨t.sid⟩ := by
  rw [clients_perform]
  cases here with
  | insert_client principal memberships =>
    simp only [disturbs, Bool.and_eq_false_iff, decide_eq_false_iff_not, not_not] at calm
    dsimp only
    split
    · next self =>
      rcases calm with other | same
      · exact absurd self.symm other
      · rw [same]
    · exact client
  | remove_client principal =>
    have other : sid ≠ t.sid := of_decide_eq_false calm
    dsimp only
    rw [if_neg, client]
    rintro ⟨_, found⟩
    rw [client] at found
    cases found
    exact other rfl
  | _ => exact client

theorem Routes.run {here : Section} (routes : t.Routes w) (calm : t.disturbs sid here = false) :
    t.Routes (perform cfg w env sid here).1 := by
  refine ⟨client_run routes.1 calm, members_perform routes.2 ?_⟩
  rintro principal rfl self
  simp [disturbs, self] at calm

/-- What holds from the moment the registration has read the cursor of the channel. -/
structure TakingOver (t : Takeover) (s : System) : Prop where
  alive : s.world.open t.sid
  attached : t.Waits s ∨ t.Routes s.world
  owed : ∀ m ∈ s.world.db.messages.rows, m.channel = t.channel → t.after_seq < m.seq → t.Owed s m

/-- A row of the log after a section was there before, or the section appended it. -/
theorem mem_rows_run {here : Section} {rest : List Section} (head : s.threads sid = here :: rest)
    (inside : m ∈ (step cfg s (.run sid env)).world.db.messages.rows) :
    m ∈ s.world.db.messages.rows ∨
      ∃ notice, Section.broadcast_message m.channel m notice ∈ (step cfg s (.run sid env)).threads sid := by
  rw [step_run head] at inside ⊢
  by_cases appends : ∃ channel sender_id body notice, here = .append channel sender_id body notice
  · obtain ⟨channel, sender_id, body, notice, rfl⟩ := appends
    rcases mem_append.mp inside with old | rfl
    · exact .inl old
    · exact .inr ⟨notice, mem_threads_more (List.mem_singleton_self _)⟩
  · left
    rw [world_resume, messages_perform (fun channel sender_id body notice same =>
      appends ⟨channel, sender_id, body, notice, same⟩)] at inside
    exact inside

theorem undisturbed_run {here : Section} {rest : List Section} (head : s.threads sid = here :: rest)
    (calm : t.undisturbed s (.run sid env) = true) : t.disturbs sid here = false := by
  simpa [undisturbed, head] using calm

theorem alive_run {here : Section} (alive : w.open t.sid) (calm : t.disturbs sid here = false) :
    (perform cfg w env sid here).1.open t.sid := by
  refine (open_perform ?_).mpr alive
  rintro ⟨rfl, same⟩
  simp [disturbs, same] at calm

theorem Live.of_other {e : Event} (notRun : ∀ sid env, e ≠ .run sid env) (lasting : e ≠ .restart) (live : t.Live s m) :
    t.Live (step cfg s e) m := by
  obtain ⟨calm, kept, _⟩ := step_other cfg s notRun lasting
  rcases live with old | ⟨sid, x, pending, delivers⟩
  · left; rw [calm.enqueued]; exact old
  · exact .inr ⟨sid, x, by rw [kept sid (List.ne_nil_of_mem pending)]; exact pending, delivers⟩

theorem undisturbed_other {e : Event} (calm : t.undisturbed s e = true) :
    e ≠ .restart ∧ e ≠ .writer_end t.sid ∧ e ≠ .connect t.sid := by
  refine ⟨?_, ?_, ?_⟩
  · rintro rfl; cases calm
  · rintro rfl; simp [undisturbed] at calm
  · rintro rfl; simp [undisturbed] at calm

theorem TakingOver.step {e : Event} (inv : t.TakingOver s) (calm : t.undisturbed s e = true) (short : t.few s e = true) :
    t.TakingOver (step cfg s e) := by
  obtain ⟨lasting, open', _⟩ := undisturbed_other calm
  rcases stepped cfg s e with ⟨sid, env, here, rest, rfl, head⟩ | idle | notRun
  · have peace := undisturbed_run head calm
    refine ⟨?_, ?_, ?_⟩
    · rw [step_run head]; exact alive_run inv.alive peace
    · rcases inv.attached with ⟨principal, memberships, waiting, self, listed⟩ | routes
      · rw [step_run head]
        rcases mem_threads_run (perform cfg s.world env sid here).1
          (perform cfg s.world env sid here).2 head waiting with ⟨same, rfl⟩ | kept
        · right
          refine ⟨?_, ?_⟩
          · rw [world_resume, clients_perform]
            dsimp only
            rw [if_pos self.symm, same]
          · exact (mem_members_insert_client sid _).mpr (.inr ⟨self.symm, List.mem_map.mpr ⟨_, listed, rfl⟩⟩)
        · exact .inl ⟨principal, memberships, kept, self, listed⟩
      · right
        rw [step_run head]
        exact routes.run peace
    · intro m inside channel late
      rcases mem_rows_run head inside with old | ⟨notice, pending⟩
      · exact (inv.owed m old channel late).run head inv.alive inv.attached old channel late short
      · exact .inl (.inr ⟨sid, _, pending, channel, rfl⟩)
  · rw [idle]; exact inv
  · obtain ⟨world, kept, opens⟩ := step_other cfg s notRun lasting
    refine ⟨opens t.sid open' inv.alive, ?_, ?_⟩
    · rcases inv.attached with ⟨principal, memberships, waiting, self, listed⟩ | routes
      · exact .inl ⟨principal, memberships, by rw [kept t.sid (List.ne_nil_of_mem waiting)]; exact waiting, self, listed⟩
      · right; rw [Routes, world.inner]; exact routes
    · intro m inside channel late
      rw [world.messages] at inside
      rcases inv.owed m inside channel late with live | ⟨x, pending, replays⟩
      · exact .inl (live.of_other notRun lasting)
      · exact .inr ⟨x, by rw [kept t.sid (List.ne_nil_of_mem pending)]; exact pending, replays⟩

/-- What holds once the session is in the snapshots and has been replayed what it missed. -/
structure TakenOver (t : Takeover) (s : System) : Prop where
  alive : s.world.open t.sid
  routes : t.Routes s.world
  live : ∀ m ∈ s.world.db.messages.rows, m.channel = t.channel → t.after_seq < m.seq → t.Live s m

theorem TakingOver.finished (inv : t.TakingOver s) (idle : s.threads t.sid = []) : t.TakenOver s := by
  refine ⟨inv.alive, ?_, ?_⟩
  · rcases inv.attached with ⟨_, _, waiting, _⟩ | routes
    · rw [idle] at waiting; cases waiting
    · exact routes
  · intro m inside channel late
    rcases inv.owed m inside channel late with live | ⟨x, pending, _⟩
    · exact live
    · rw [idle] at pending; cases pending

theorem TakenOver.step {e : Event} (inv : t.TakenOver s) (calm : t.undisturbed s e = true) : t.TakenOver (step cfg s e) := by
  obtain ⟨lasting, open', _⟩ := undisturbed_other calm
  rcases stepped cfg s e with ⟨sid, env, here, rest, rfl, head⟩ | idle | notRun
  · have peace := undisturbed_run head calm
    refine ⟨?_, ?_, ?_⟩
    · rw [step_run head]; exact alive_run inv.alive peace
    · rw [step_run head]; exact inv.routes.run peace
    · intro m inside channel late
      rcases mem_rows_run head inside with old | ⟨notice, pending⟩
      · exact (inv.live m old channel late).run head inv.alive (fun _ _ => inv.routes)
      · exact .inr ⟨sid, _, pending, channel, rfl⟩
  · rw [idle]; exact inv
  · obtain ⟨world, _, opens⟩ := step_other cfg s notRun lasting
    refine ⟨opens t.sid open' inv.alive, by rw [Routes, world.inner]; exact inv.routes, ?_⟩
    intro m inside channel late
    rw [world.messages] at inside
    exact (inv.live m inside channel late).of_other notRun lasting

/-- The handler of a live message has finished only if the message is queued. -/
theorem Live.finished (live : t.Live s m) (finished : Finished s m) : m ∈ s.world.enqueued t.sid := by
  rcases live with queued | ⟨sid, x, pending, delivers⟩
  · exact queued
  · cases x with
    | broadcast_message channel message notice => exact absurd (by rw [Section.message, delivers.2]) (finished sid _ pending)
    | deliver channel message notice recipient => exact absurd (by rw [Section.message, delivers.1]) (finished sid _ pending)
    | _ => exact delivers.elim

end Takeover

/-! ## Registration -/

/-- The events that the handoff allows: nothing takes the session out of the
    channel, and the history query after its cursor is not cut at 200 messages. -/
def Handoff (t : Takeover) (s : System) (e : Event) : Prop := t.undisturbed s e = true ∧ t.few s e = true
instance (t : Takeover) (s : System) (e : Event) : Decidable (Handoff t s e) := inferInstanceAs (Decidable (_ ∧ _))

/-- A registration with an open queue loses nothing. From any state in which a session
    is about to read its memberships, however the sections of all tasks are interleaved:
    if the queue is open and its writer does not end, then once the registration has
    finished, every message after the cursor that it read is queued to the session when
    the handler of the message has finished. -/
theorem reconnect_handoff (cfg : Config) (s : System) (sid : SessionId) (principal : Principal) (channel : Text)
    (after_seq : Int) (env : Env) (first later : List Event)
    (registering : s.threads sid = [.mark_connected principal]) (alive : s.world.open sid)
    (read : cursor s.world.db principal.id channel = some after_seq)
    (steps : AllSteps (step cfg) (Handoff ⟨sid, principal.id, channel, after_seq⟩) (step cfg s (.run sid env)) (first ++ later))
    (registered : (run (step cfg) (step cfg s (.run sid env)) first).threads sid = []) :
    let s' := run (step cfg) (step cfg s (.run sid env)) (first ++ later)
    ∀ m ∈ s'.world.db.messages.rows, m.channel = channel → after_seq < m.seq → Finished s' m →
      m ∈ s'.world.enqueued sid := by
  intro s' m inside here late finished
  obtain ⟨firstSteps, laterSteps⟩ := allSteps_append.mp steps
  have listed : ⟨channel, after_seq⟩ ∈ memberships s.world.db principal.id := mem_memberships.mpr read
  have waiting : Section.insert_client principal (memberships s.world.db principal.id) ∈
      (step cfg s (.run sid env)).threads sid := by
    rw [step_run registering]
    exact Takeover.mem_threads_more (List.mem_singleton_self _)
  have began : Takeover.TakingOver ⟨sid, principal.id, channel, after_seq⟩ (step cfg s (.run sid env)) := by
    refine ⟨?_, .inl ⟨_, _, waiting, rfl, listed⟩, fun m _ _ _ => .inr ⟨_, waiting, rfl, listed⟩⟩
    rw [step_run registering]
    exact Takeover.alive_run (t := ⟨sid, principal.id, channel, after_seq⟩) alive rfl
  have middle : Takeover.TakenOver ⟨sid, principal.id, channel, after_seq⟩
      (run (step cfg) (step cfg s (.run sid env)) first) :=
    (run_invariant_of (fun _ _ inv met => inv.step met.1 met.2) first began firstSteps).finished registered
  have final : Takeover.TakenOver ⟨sid, principal.id, channel, after_seq⟩ s' := by
    show Takeover.TakenOver _ (run (step cfg) (step cfg s (.run sid env)) (first ++ later))
    rw [run_append]
    exact run_invariant_of (fun _ _ inv met => inv.step met.1) later middle laterSteps
  exact (final.live m inside here late).finished finished

/-- Bob is about to read his memberships, and Alice is in the channel too. -/
def reconnecting : System :=
  run (step plain) (start both_in_c)
    (arrival 0 "alice".toList "a".toList ++ sections 0 10 0 ++ arrival 1 "bob".toList "b".toList)

/-- Alice's message is stored before Bob's handle is inserted and sent after his registration has finished. -/
theorem reconnect_handoff_overlapping :
    let s' := run (step plain) (step plain reconnecting (.run 1 (moment 0)))
      (([hello 0] ++ sections 0 3 1 ++ sections 1 10 0) ++ sections 0 8 0)
    ∀ m ∈ s'.world.db.messages.rows, m.channel = "#c".toList → 0 < m.seq → Finished s' m → m ∈ s'.world.enqueued 1 :=
  reconnect_handoff plain reconnecting 1 ⟨"bob".toList, "bob".toList, none⟩ "#c".toList 0 (moment 0)
    ([hello 0] ++ sections 0 3 1 ++ sections 1 10 0) (sections 0 8 0) rfl (by decide +kernel) (by decide +kernel)
    (by decide +kernel) (by rfl)

/-- Alice's message waits for Bob, and the writer of his new connection ends before he reads his memberships. -/
def about_to_replay : List Event :=
  arrival 0 "alice".toList "a".toList ++ sections 0 10 0 ++ [hello 0] ++ sections 0 10 1 ++
    arrival 1 "bob".toList "b".toList ++ [.writer_end 1]

def unwritten : System := run (step plain) (start both_in_c) about_to_replay

def unwritten_replayed : System := run (step plain) (step plain unwritten (.run 1 (moment 0))) (sections 1 10 0)

theorem idle_unwritten_replayed (sid : SessionId) : unwritten_replayed.threads sid = [] := by
  have all : unwritten_replayed =
      run (step plain) (start both_in_c) (about_to_replay ++ (.run 1 (moment 0) :: sections 1 10 0)) := by
    rw [run_append, run_cons, unwritten_replayed, unwritten]
  rw [all]
  exact idle_of_two (by decide +kernel) (by decide +kernel) sid

/-- The replay queues nothing to a writer that has ended, and marks the page as seen all the same. -/
theorem reconnect_handoff_unwritten :
    let t : Takeover := ⟨1, "bob".toList, "#c".toList, 0⟩
    unwritten.threads 1 = [.mark_connected ⟨"bob".toList, "bob".toList, none⟩] ∧
    cursor unwritten.world.db "bob".toList "#c".toList = some 0 ∧
    AllSteps (step plain) (Handoff t) (step plain unwritten (.run 1 (moment 0))) (sections 1 10 0) ∧
    unwritten_replayed.threads 1 = [] ∧ t.Routes unwritten_replayed.world ∧
    ∃ m ∈ unwritten_replayed.world.db.messages.rows, m.channel = "#c".toList ∧ 0 < m.seq ∧ Finished unwritten_replayed m ∧
      m ∉ unwritten_replayed.world.enqueued 1 ∧
      ∃ seen, cursor unwritten_replayed.world.db "bob".toList "#c".toList = some seen ∧ m.seq ≤ seen := by
  intro t
  refine ⟨by decide +kernel, by decide +kernel, by decide +kernel, idle_unwritten_replayed 1,
    ⟨by decide +kernel, by decide +kernel⟩,
    hello_there, by decide +kernel, rfl, by decide, ?_,
    by decide +kernel, 1, by decide +kernel, by decide⟩
  intro sid x inside
  rw [idle_unwritten_replayed] at inside
  cases inside

/-! ## JOIN -/

namespace Takeover

/-- The principal queries no history of the channel. -/
def unread (t : Takeover) (s : System) : Event → Bool
  | .run sid _ => (s.threads sid).head?.all (fun here => match here with
    | .history principal channel _ _ => !(decide (principal.id = t.principal_id) && decide (channel = t.channel))
    | _ => true)
  | _ => true

/-- A snapshot for a message after the cursor finds the principal in the channel. -/
def listed (t : Takeover) (s : System) : Event → Bool
  | .run sid _ => (s.threads sid).head?.all (fun here => match here with
    | .broadcast_message channel message _ => decide (channel = t.channel → t.after_seq < message.seq →
        t.principal_id ∈ members s.world.inner t.channel)
    | _ => true)
  | _ => true

variable {t : Takeover} {cfg : Config} {s : System} {sid : SessionId} {m : StoredMessage}

/-- What holds from the moment the membership is created, while the queue of the session is open. -/
structure Joining (t : Takeover) (s : System) : Prop where
  alive : s.world.open t.sid
  client : s.world.inner.clients t.principal_id = some ⟨t.sid⟩
  live : ∀ m ∈ s.world.db.messages.rows, m.channel = t.channel → t.after_seq < m.seq → t.Live s m

theorem Joining.step {e : Event} (inv : t.Joining s) (calm : t.undisturbed s e = true) (inserted : t.listed s e = true) :
    t.Joining (step cfg s e) := by
  obtain ⟨lasting, open', _⟩ := undisturbed_other calm
  rcases stepped cfg s e with ⟨sid, env, here, rest, rfl, head⟩ | idle | notRun
  · have peace := undisturbed_run head calm
    refine ⟨?_, ?_, ?_⟩
    · rw [step_run head]; exact alive_run inv.alive peace
    · rw [step_run head]; exact client_run inv.client peace
    · intro m inside channel late
      rcases mem_rows_run head inside with old | ⟨notice, pending⟩
      · refine (inv.live m old channel late).run head inv.alive ?_
        rintro notice rfl
        simp only [listed, head, List.head?_cons, Option.all_some, decide_eq_true_eq, forall_const] at inserted
        exact ⟨inv.client, inserted late⟩
      · exact .inr ⟨sid, _, pending, channel, rfl⟩
  · rw [idle]; exact inv
  · obtain ⟨world, _, opens⟩ := step_other cfg s notRun lasting
    refine ⟨opens t.sid open' inv.alive, by rw [world.inner]; exact inv.client, ?_⟩
    intro m inside channel late
    rw [world.messages] at inside
    exact (inv.live m inside channel late).of_other notRun lasting

/-- A section that moves the cursor of the membership no further than where it was created. -/
def Behind (t : Takeover) : Section → Prop
  | .mark_seen principal_id channel seq => principal_id = t.principal_id → channel = t.channel → seq ≤ t.after_seq
  | .deliver channel message _ recipient => recipient.1 = t.principal_id → channel = t.channel →
      recipient.2.session_id = t.sid ∨ message.seq ≤ t.after_seq
  | _ => True

theorem behind_of_fresh {x : Section} (begins : x.fresh) : t.Behind x := by
  cases x with
  | mark_seen principal_id channel seq => exact begins.elim
  | deliver channel message notice recipient => exact begins.elim
  | _ => trivial

/-- What holds when the queue of the session is closed: its cursor stays. -/
structure Shut (t : Takeover) (s : System) : Prop where
  dead : ¬ s.world.open t.sid
  client : s.world.inner.clients t.principal_id = some ⟨t.sid⟩
  seen : ∃ seen, cursor s.world.db t.principal_id t.channel = some seen ∧ seen ≤ t.after_seq
  pending : ∀ sid, ∀ x ∈ s.threads sid, t.Behind x

theorem Shut.step {e : Event} (inv : t.Shut s) (calm : t.undisturbed s e = true) (quiet : t.unread s e = true) :
    t.Shut (step cfg s e) := by
  obtain ⟨lasting, _, known⟩ := undisturbed_other calm
  rcases stepped cfg s e with ⟨sid, env, here, rest, rfl, head⟩ | idle | notRun
  · have peace := undisturbed_run head calm
    have behind := inv.pending sid here (by rw [head]; exact List.mem_cons_self)
    refine ⟨?_, ?_, ?_, ?_⟩
    · rw [step_run head]
      intro alive
      refine inv.dead ((open_perform ?_).mp alive)
      rintro ⟨rfl, same⟩
      simp [disturbs, same] at peace
    · rw [step_run head]; exact client_run inv.client peace
    · obtain ⟨seen, found, least⟩ := inv.seen
      rw [step_run head, world_resume, cursor_perform]
      cases here with
      | mark_seen id channel seq =>
        dsimp only
        rw [found, Option.map_some]
        split
        · next same => exact ⟨_, rfl, by have := behind same.1.symm same.2.symm; omega⟩
        · exact ⟨_, rfl, least⟩
      | add_membership principal channel =>
        dsimp only
        rw [if_neg]
        · exact ⟨seen, found, least⟩
        · rintro ⟨absent, self, same⟩
          rw [self, same, found] at absent; cases absent
      | remove_membership principal channel =>
        dsimp only
        rw [if_neg]
        · exact ⟨seen, found, least⟩
        · rintro ⟨self, same⟩
          simp [disturbs, self, same] at peace
      | _ => exact ⟨seen, found, least⟩
    · intro sid' x inside
      rcases mem_threads_step inside with old | ⟨env', here', rest', same, head', new⟩ | begins
      · exact inv.pending sid' x old
      · cases same
        rw [head] at head'
        cases head'
        have source := leads_perform new
        cases x with
        | mark_seen principal_id channel seq =>
          rintro rfl rfl
          rcases source with ⟨message, notice, recipient, rfl, self, rfl, alive⟩ | ⟨principal, after_seq, limit, rfl, self, _⟩
          · rcases behind self.symm rfl with same | early
            · rw [same] at alive; exact absurd alive inv.dead
            · exact early
          · simp [unread, head, self] at quiet
        | deliver channel message notice recipient =>
          rintro self rfl
          obtain ⟨rfl, listed⟩ := source
          obtain ⟨p, h⟩ := recipient
          have client := (mem_recipients.mp listed).2
          obtain rfl : p = t.principal_id := self
          rw [inv.client] at client
          cases client
          exact .inl rfl
        | _ => trivial
      · exact behind_of_fresh begins
  · rw [idle]; exact inv
  · obtain ⟨world, _, _⟩ := step_other cfg s notRun lasting
    refine ⟨fun alive => inv.dead (open_step_other notRun known alive), by rw [world.inner]; exact inv.client, ?_, ?_⟩
    · obtain ⟨seen, found, least⟩ := inv.seen
      exact ⟨seen, by rw [cursor, world.memberships]; exact found, least⟩
    · intro sid' x inside
      rcases mem_threads_step inside with old | ⟨env, _, _, same, _, _⟩ | begins
      · exact inv.pending sid' x old
      · exact absurd same (notRun sid' env)
      · exact behind_of_fresh begins

end Takeover

/-- The events that the JOIN meets: nothing takes the session out of the channel,
    and its principal asks for no history of it. -/
def Met (t : Takeover) (s : System) (e : Event) : Prop := t.undisturbed s e = true ∧ t.unread s e = true
instance (t : Takeover) (s : System) (e : Event) : Decidable (Met t s e) := inferInstanceAs (Decidable (_ ∧ _))

/-- A JOIN loses nothing in the runs in which no sender takes the snapshot for a
    message after the recorded cursor before the member is inserted. -/
theorem join_handoff (cfg : Config) (db : Db) (earlier : List Event) (sid : SessionId) (principal : Principal)
    (channel : Text) (env : Env) (later : List Event) :
    let s := run (step cfg) (start db) earlier
    let t : Takeover := ⟨sid, principal.id, channel, max_seq s.world.db.messages channel⟩
    let s' := run (step cfg) (step cfg s (.run sid env)) later
    s.threads sid = [.add_membership principal channel] → s.world.inner.clients principal.id = some ⟨sid⟩ →
    cursor s.world.db principal.id channel = none →
    AllSteps (step cfg) (Met t) (step cfg s (.run sid env)) later →
    AllSteps (step cfg) (fun s e => t.listed s e = true) (step cfg s (.run sid env)) later →
    ∀ m ∈ s'.world.db.messages.rows, m.channel = channel → t.after_seq < m.seq → Finished s' m →
      m ∈ s'.world.enqueued sid ∨ ∀ seen, cursor s'.world.db principal.id channel = some seen → seen < m.seq := by
  intro s t s' joining current absent met inserted m inside here late finished
  have logged : Logged s := logged_run cfg db earlier
  have joined : step cfg s (.run sid env) =
      s.resume sid ({ s.world with db := add_membership s.world.db env.now principal.id channel },
        [.add_member principal channel] ++ []) := step_run joining
  by_cases alive : s.world.open sid
  · have began : t.Joining (step cfg s (.run sid env)) := by
      rw [joined]
      refine ⟨alive, current, ?_⟩
      intro m inside here late
      have bound : m.seq ≤ max_seq s.world.db.messages channel := le_max_seq inside here
      exact absurd late (not_lt.mpr bound)
    have both := allSteps_and met inserted
    have final : t.Joining s' := run_invariant_of (fun _ _ inv step => inv.step step.1.1 step.2) later began both
    exact .inl ((final.live m inside here late).finished finished)
  · have began : t.Shut (step cfg s (.run sid env)) := by
      rw [joined]
      refine ⟨alive, current, ⟨_, ?_, le_refl _⟩, ?_⟩
      · exact (cursor_add_membership env.now).trans (if_pos ⟨absent, rfl, rfl⟩)
      · intro sid' x pending
        rw [threads_resume] at pending
        split at pending
        · rw [List.mem_singleton.mp pending]; trivial
        · have stored := logged.tasks sid' x pending
          cases x with
          | mark_seen principal_id channel seq =>
            rintro _ rfl
            obtain ⟨message, inside, here, rfl⟩ := stored
            exact le_max_seq inside here
          | deliver channel message notice recipient =>
            rintro _ rfl
            exact .inr (le_max_seq stored.1 stored.2)
          | _ => trivial
    have final : t.Shut s' := run_invariant_of (fun _ _ inv step => inv.step step.1 step.2) later began met
    right
    intro seen found
    obtain ⟨seen', found', least⟩ := final.seen
    have same : cursor s'.world.db principal.id channel = some seen' := found'
    rw [found] at same
    cases same
    exact lt_of_le_of_lt least late

/-! ### A JOIN that overlaps a message -/

/-- Alice is a member of a channel, and Bob is not. -/
def alice_in_c : Db :=
  ⟨alice_and_bob, Table.empty, ⟨[⟨"alice".toList, "#c".toList, 0, 0⟩], by decide⟩, Messages.empty, Table.empty⟩

/-- Alice and Bob are connected, and the task of Bob's JOIN is about to create his membership. -/
def about_to_join : List Event :=
  arrival 0 "alice".toList "a".toList ++ sections 0 10 0 ++ arrival 1 "bob".toList "b".toList ++ sections 1 10 0 ++
    [.receive 1 (.Join "#c".toList)] ++ sections 1 1 0

def joining : System := run (step plain) (start alice_in_c) about_to_join

theorem join_handoff_ordered :
    let s' := run (step plain) (step plain joining (.run 1 (moment 0)))
      (sections 1 1 0 ++ [hello 0] ++ sections 0 10 1 ++ sections 1 5 0)
    ∀ m ∈ s'.world.db.messages.rows, m.channel = "#c".toList → max_seq joining.world.db.messages "#c".toList < m.seq →
      Finished s' m →
      m ∈ s'.world.enqueued 1 ∨ ∀ seen, cursor s'.world.db "bob".toList "#c".toList = some seen → seen < m.seq :=
  join_handoff plain alice_in_c about_to_join 1 ⟨"bob".toList, "bob".toList, none⟩ "#c".toList (moment 0)
    (sections 1 1 0 ++ [hello 0] ++ sections 0 10 1 ++ sections 1 5 0) (by decide +kernel) (by decide +kernel)
    (by decide +kernel) (by decide +kernel) (by decide +kernel)

/-- Alice's whole first message comes between the two steps of Bob's JOIN, and her
    second one follows his insertion. -/
def overlapping : List Event := [hello 0] ++ sections 0 10 1 ++ sections 1 5 0 ++ [hello 0] ++ sections 0 10 2

def overlapped : System := run (step plain) (step plain joining (.run 1 (moment 0))) overlapping

theorem idle_overlapped (sid : SessionId) : overlapped.threads sid = [] := by
  have all : overlapped = run (step plain) (start alice_in_c) (about_to_join ++ (.run 1 (moment 0) :: overlapping)) := by
    rw [run_append, run_cons, overlapped, joining]
  rw [all]
  exact idle_of_two (by decide +kernel) (by decide +kernel) sid

/-- The first message is lost: it is not queued to Bob, and his cursor is past it. -/
theorem join_handoff_loses :
    let t : Takeover := ⟨1, "bob".toList, "#c".toList, max_seq joining.world.db.messages "#c".toList⟩
    joining.threads 1 = [.add_membership ⟨"bob".toList, "bob".toList, none⟩ "#c".toList] ∧
    joining.world.inner.clients "bob".toList = some ⟨1⟩ ∧ cursor joining.world.db "bob".toList "#c".toList = none ∧
    AllSteps (step plain) (Met t) (step plain joining (.run 1 (moment 0))) overlapping ∧
    ∃ m ∈ overlapped.world.db.messages.rows, m.channel = "#c".toList ∧ t.after_seq < m.seq ∧ Finished overlapped m ∧
      m ∉ overlapped.world.enqueued 1 ∧
      ∃ seen, cursor overlapped.world.db "bob".toList "#c".toList = some seen ∧ m.seq ≤ seen := by
  intro t
  refine ⟨by decide +kernel, by decide +kernel, by decide +kernel, by decide +kernel,
    hello_there, by decide +kernel, rfl, by decide +kernel, ?_,
    by decide +kernel, 2, by decide +kernel, by decide⟩
  intro sid x inside
  rw [idle_overlapped] at inside
  cases inside

end Aircd.Concurrent

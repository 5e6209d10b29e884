import Aircd.Status

/-!
# How sessions end

`handle_stream` returns after its `disconnect`, or before it when a read or a
command fails. In the first case nothing of the session stays in the routing; in
the second case its handle does, if it was the current one.
-/
namespace Aircd.Concurrent
open Aircd.Runs Aircd.Text Aircd.Protocol Aircd.Auth Aircd.History Aircd.Tasks Aircd.Store Aircd.Server

/-- The handle of the session is the current one of its principal. -/
def holds (w : World) (sid : SessionId) : Bool :=
  (w.principal sid).any (fun principal => decide (w.inner.clients principal.id = some ⟨sid⟩))

/-- The principal of the session has a handle. -/
def taken (w : World) (sid : SessionId) : Bool :=
  (w.principal sid).any (fun principal => (w.inner.clients principal.id).isSome)

/-- The event is the update with which the session's own `disconnect` sets
    `disconnected_at` of its principal. -/
def records (s s' : System) (e : Event) (sid : SessionId) : Bool :=
  match e, ran s e with
  | .run sid' _, some (.mark_disconnected _) =>
    decide (sid' = sid) &&
      (s'.world.principal sid).any (fun principal => (disconnected_at s'.world.db principal.id).isSome)
  | _, _ => false

/-- The system, with the sessions that were the current ones of their principals and
    have neither been replaced nor set `disconnected_at` since. -/
structure Attended where
  system : System
  owed : SessionId → Bool

def attend (cfg : Config) (o : Attended) (e : Event) : Attended where
  system := step cfg o.system e
  owed sid :=
    match e with
    | .restart => false
    | _ =>
      if holds (step cfg o.system e).world sid then true
      else if holds o.system.world sid && taken (step cfg o.system e).world sid then false
      else if records o.system (step cfg o.system e) e sid then false
      else o.owed sid

def unattended (db : Db) : Attended := ⟨start db, fun _ => false⟩

/-- After the end of a session no handle is its own, a broadcast finds none, and
    `disconnected_at` was set if the session was a current one. -/
structure CleanedUp (o : Attended) (sid : SessionId) : Prop where
  removed : ∀ p, o.system.world.inner.clients p ≠ some ⟨sid⟩
  unheard : ∀ c, ∀ recipient ∈ recipients_with_ids o.system.world.inner c, recipient.2.session_id ≠ sid
  recorded : o.owed sid = false

def AllCleanedUp (o : Attended) : Prop := ∀ sid, (o.system.world.connections sid).phase = .Ended → CleanedUp o sid

/-- The session whose `handle_stream` returns at an event without its `disconnect`. -/
def leaves (s : System) : Event → Option SessionId
  | .read_error sid => if s.idle sid then some sid else none
  | .run sid _ => if (s.threads sid).head? = some .leave then some sid else none
  | _ => none

/-- A session that returns so is not the current one of its principal. -/
def Orderly (o : Attended) (e : Event) : Prop := ∀ sid, leaves o.system e = some sid → holds o.system.world sid = false

/-- The session has no handle. -/
def Gone (w : World) (sid : SessionId) : Prop := ∀ p, w.inner.clients p ≠ some ⟨sid⟩

/-- What a task has left to do once its session ends. -/
inductive Ending (w : World) (sid : SessionId) : List Section → Prop where
  | removing {principal : Principal} (known : w.principal sid = some principal) : Ending w sid [.remove_client principal]
  | marking {principal : Principal} (known : w.principal sid = some principal) (gone : Gone w sid) :
      Ending w sid [.mark_disconnected principal.id, .finish]
  | finishing (gone : Gone w sid) : Ending w sid [.finish]
  | leaving : Ending w sid [.leave]
  | told {line : ServerLine} {rest : List Section} (later : Ending w sid rest) : Ending w sid (.send line :: rest)

/-- The sections beside which a task has nothing else. -/
def Section.single : Section → Bool
  | .ensure_registered _ => true
  | x => x.operates

structure Held (s : System) : Prop where
  known : ∀ sid, (s.world.connections sid).session.registered = (s.world.principal sid).isSome
  owned : ∀ p h, s.world.inner.clients p = some h → ∃ principal, s.world.principal h.session_id = some principal ∧ principal.id = p
  joins : ∀ sid principal, .mark_connected principal ∈ s.threads sid ∨ (∃ rows, .insert_client principal rows ∈ s.threads sid) →
    s.world.principal sid = some principal
  single : ∀ sid, ∀ x ∈ s.threads sid, x.single = true → s.threads sid = [x]
  ends : ∀ sid, ∀ x ∈ s.threads sid, x.ends = true → Ending s.world sid (s.threads sid)
  stopped : ∀ sid, (s.world.connections sid).phase ≠ .Running → s.threads sid = []

variable {cfg : Config} {s : System} {w w' : World} {env : Env} {sid sid' : SessionId} {x here : Section} {p : Text}
  {known : List Principal} {o : Attended} {e : Event}

theorem holds_iff : holds w sid = true ↔ ∃ principal, w.principal sid = some principal ∧ w.inner.clients principal.id = some ⟨sid⟩ := by
  rw [holds, Option.any_eq_true]
  simp only [decide_eq_true_eq]

theorem Ending.mono {sections : List Section} (ending : Ending w sid sections)
    (stays : ∀ principal, w.principal sid = some principal → w'.principal sid = some principal)
    (gone : Gone w sid → Gone w' sid) : Ending w' sid sections := by
  induction ending with
  | removing known => exact .removing (stays _ known)
  | marking known absent => exact .marking (stays _ known) (gone absent)
  | finishing absent => exact .finishing (gone absent)
  | leaving => exact .leaving
  | told _ ih => exact .told ih

/-! ## Phases -/

/-- Only the two ends of `handle_stream` change the phase of a connection. -/
theorem phase_perform (x : Section) : ((perform cfg w env sid x).1.connections sid').phase =
    if (x = .finish ∨ x = .leave) ∧ sid' = sid then .Ended else (w.connections sid').phase := by
  have changed (change : Connection → Connection) (target : SessionId)
      (keeps : ∀ connection, (change connection).phase = connection.phase) :
      ((w.modify target change).connections sid').phase = (w.connections sid').phase := by
    rw [connections_modify]
    split
    · next here => rw [keeps, here]
    · rfl
  have sent (target : SessionId) (line : ServerLine) : ((w.send target line).connections sid').phase =
      (w.connections sid').phase := by
    rw [connections_send]
    split
    · next here => rw [here.1]
    · rfl
  cases x with
  | finish => simp [perform, connections_modify, apply_ite Connection.phase]
  | leave => simp [perform, Server.leave, connections_modify, apply_ite Connection.phase]
  | send line => simp [perform, sent]
  | forward client line => simp [perform, sent]
  | deliver channel message notice recipient => simp [perform_deliver, sent]
  | try_register =>
    rcases perform_try_register cfg w env sid with ⟨_, result, _⟩ | ⟨_, _, _, result⟩
    · simp [result]
    · rw [result]
      simp [World.setSession, changed]
  | insert_client principal rows =>
    rw [if_neg (by simp)]
    simp only [perform, Server.insert_client]
    split
    · rfl
    · rw [connections_modify]
      split
      · next here => rw [here]
      · rfl
  | append channel sender_id body notice => simp [perform, append_message]
  | remove_client principal => rw [perform_remove_client, (remove_client_frame _ _ _).2]; simp
  | ensure_registered command => rw [world_ensure_registered]; simp
  | is_member principal channel body => rw [world_is_member]; simp
  | task_create principal channel title =>
    simp only [perform]
    split
    · simp
    · simp
  | task_claim principal task_id => rw [perform, world_task_result]; simp
  | task_done principal task_id => rw [perform, world_task_result]; simp
  | task_release principal task_id => rw [perform, world_task_result]; simp
  | _ => simp [perform]

/-! ## What every reachable state satisfies -/

theorem known_step (known : ∀ sid, (s.world.connections sid).session.registered = (s.world.principal sid).isSome)
    (sid : SessionId) : ((step cfg s e).world.connections sid).session.registered =
      ((step cfg s e).world.principal sid).isSome := by
  rcases stepped cfg s e with ⟨task, env, here, rest, rfl, head⟩ | idle | notRun
  · rw [step_run head, world_resume]
    rcases @session_perform cfg s.world env task sid here with same | ⟨_, _, _, _, _, session⟩
    · rw [World.principal, same]; exact known sid
    · rw [World.principal, session]; rfl
  · rw [idle]; exact known sid
  · by_cases restarts : e = .restart
    · subst restarts
      rw [World.principal, Concurrent.step, (@connections_restart cfg s.world sid).1]
      exact known sid
    · have calm := (step_other cfg s notRun restarts).1
      rw [calm.registered, calm.principal]
      exact known sid

/-- A session keeps its principal. -/
theorem Held.speaks {principal : Principal} (inv : Held s) (speaks : s.world.principal sid = some principal) (e : Event) :
    (step cfg s e).world.principal sid = some principal := by
  rcases stepped cfg s e with ⟨task, env, here, rest, rfl, head⟩ | idle | notRun
  · rw [step_run head, world_resume]
    rcases @session_perform cfg s.world env task sid here with same | ⟨_, rfl, _, _, fresh, _⟩
    · rw [World.principal, same]; exact speaks
    · have registered := inv.known sid
      rw [speaks, fresh] at registered
      cases registered
  · rw [idle]; exact speaks
  · by_cases restarts : e = .restart
    · subst restarts
      rw [World.principal, Concurrent.step, (@connections_restart cfg s.world sid).1]
      exact speaks
    · rw [(step_other cfg s notRun restarts).1.principal]
      exact speaks

/-- A session without a handle gets one only by its own registration. -/
theorem gone_step (gone : Gone s.world sid)
    (settled : ∀ env principal rows rest, e = .run sid env → s.threads sid ≠ .insert_client principal rows :: rest) :
    Gone (step cfg s e).world sid := by
  intro p found
  rcases stepped cfg s e with ⟨task, env, here, rest, rfl, head⟩ | idle | notRun
  · rw [step_run head, world_resume, clients_perform] at found
    cases here with
    | insert_client principal rows =>
      dsimp only at found
      split at found
      · cases found
        exact settled env principal rows rest rfl head
      · exact gone p found
    | remove_client principal =>
      dsimp only at found
      split at found
      · cases found
      · exact gone p found
    | _ => exact gone p found
  · rw [idle] at found; exact gone p found
  · by_cases restarts : e = .restart
    · subst restarts; cases found
    · rw [(step_other cfg s notRun restarts).1.inner] at found
      exact gone p found

theorem Held.owned_step (inv : Held s) (p : Text) (h : ClientHandle) (found : (step cfg s e).world.inner.clients p = some h) :
    ∃ principal, (step cfg s e).world.principal h.session_id = some principal ∧ principal.id = p := by
  have old (before : s.world.inner.clients p = some h) :
      ∃ principal, (step cfg s e).world.principal h.session_id = some principal ∧ principal.id = p := by
    obtain ⟨principal, speaks, self⟩ := inv.owned p h before
    exact ⟨principal, inv.speaks speaks e, self⟩
  rcases stepped cfg s e with ⟨task, env, here, rest, rfl, head⟩ | idle | notRun
  · rw [step_run head, world_resume, clients_perform] at found
    cases here with
    | insert_client principal rows =>
      dsimp only at found
      split at found
      · next self =>
        cases found
        have pending := inv.joins task principal (.inr ⟨rows, by rw [head]; exact List.mem_cons_self⟩)
        exact ⟨principal, inv.speaks pending _, self.symm⟩
      · exact old found
    | remove_client principal =>
      dsimp only at found
      split at found
      · cases found
      · exact old found
    | _ => exact old found
  · rw [idle] at found; exact old found
  · by_cases restarts : e = .restart
    · subst restarts; cases found
    · rw [(step_other cfg s notRun restarts).1.inner] at found
      exact old found

theorem Held.joins_step {principal : Principal} (inv : Held s)
    (joins : .mark_connected principal ∈ (step cfg s e).threads sid ∨
      (∃ rows, .insert_client principal rows ∈ (step cfg s e).threads sid)) :
    (step cfg s e).world.principal sid = some principal := by
  have before (pending : .mark_connected principal ∈ s.threads sid ∨ (∃ rows, .insert_client principal rows ∈ s.threads sid)) :
      (step cfg s e).world.principal sid = some principal := inv.speaks (inv.joins sid principal pending) e
  rcases joins with inside | ⟨rows, inside⟩
  · rcases mem_threads_step inside with old | ⟨env, here, rest, rfl, head, new⟩ | begins
    · exact before (.inl old)
    · obtain rfl : here = .try_register := leads_perform new
      rcases perform_try_register cfg s.world env sid with ⟨more, result, plain⟩ | ⟨newcomer, _, _, result⟩
      · rw [result] at new
        cases plain _ new
      · rw [result] at new
        cases List.mem_singleton.mp new
        rw [step_run head, world_resume, result]
        simp [World.principal, World.setSession, connections_modify]
    · exact begins.elim
  · rcases mem_threads_step inside with old | ⟨env, here, rest, rfl, head, new⟩ | begins
    · exact before (.inr ⟨rows, old⟩)
    · obtain ⟨rfl, _⟩ := leads_perform new
      exact before (.inl (by rw [head]; exact List.mem_cons_self))
    · exact begins.elim

theorem single_disconnect (inside : x ∈ disconnect w sid) : x.single = false := by
  unfold disconnect at inside
  split at inside
  · rw [List.mem_singleton.mp inside]; rfl
  · rw [List.mem_singleton.mp inside]; rfl

theorem Begins.single {sections : List Section} (begins : Begins w sid e sections) (inside : x ∈ sections)
    (single : x.single = true) : sections = [x] := by
  rcases begins with ⟨command, _, rfl⟩ | rfl | ⟨reason, rfl⟩
  · cases command with
    | Quit => rw [single_disconnect inside] at single; cases single
    | Cap subcommand capabilities =>
      obtain ⟨line, _, rfl⟩ := List.mem_map.mp inside
      cases single
    | Pong => cases inside
    | _ => rw [List.mem_singleton.mp inside]; rfl
  · rw [single_disconnect inside] at single; cases single
  · rcases List.mem_cons.mp inside with rfl | later
    · cases single
    · rw [single_disconnect later] at single; cases single

/-- A handler begins with one section. -/
theorem handler_single {principal : Principal} {command : Command} (inside : x ∈ handler principal command) :
    handler principal command = [x] := by
  have one {y : Section} (same : handler principal command = [y]) : handler principal command = [x] := by
    rw [same] at inside ⊢
    rw [List.mem_singleton.mp inside]
  cases command with
  | TaskCreate channel title =>
    by_cases untitled : (trim title).isEmpty = true
    · exact one (if_pos untitled)
    · exact one (if_neg untitled)
  | History channel after_seq limit =>
    cases channel with
    | none => exact one rfl
    | some channel => exact one rfl
  | Join channel => exact one rfl
  | Part channel => exact one rfl
  | Privmsg target body => exact one rfl
  | TaskClaim task_id => exact one rfl
  | TaskDone task_id => exact one rfl
  | TaskRelease task_id => exact one rfl
  | TaskList channel => exact one rfl
  | _ => cases inside

/-- The operation on a task is all that the guard of its command leads to. -/
theorem operates_perform (inside : x ∈ (perform cfg w env sid here).2) (operates : x.operates = true) :
    ∃ command, here = .ensure_registered command ∧ (perform cfg w env sid here).2 = [x] := by
  have none {y : Section} (plain : y.operates = false) (same : x = y) : False := by
    rw [same, plain] at operates
    cases operates
  rcases final_perform inside (by rw [operates]; rfl) with ⟨leaver, rfl⟩ | ⟨command, rfl⟩ | ⟨principal, channel, title, rfl⟩
  · rcases perform_remove_client_cases cfg w env sid leaver with ⟨_, next⟩ | ⟨_, next⟩
    · rw [next] at inside
      rcases List.mem_cons.mp inside with same | last
      · exact (none rfl same).elim
      · exact (none rfl (List.mem_singleton.mp last)).elim
    · rw [next] at inside
      exact (none rfl (List.mem_singleton.mp inside)).elim
  · refine ⟨command, rfl, ?_⟩
    rcases perform_ensure_registered_cases cfg w env sid command with ⟨speaker, next⟩ | ⟨line, next⟩ | next | ⟨line, next⟩
    · rw [next] at inside ⊢
      exact handler_single inside
    · rw [next] at inside
      exact (none rfl (List.mem_singleton.mp inside)).elim
    · rw [next] at inside
      exact (none rfl (List.mem_singleton.mp inside)).elim
    · rw [next] at inside
      rcases List.mem_cons.mp inside with same | last
      · exact (none rfl same).elim
      · exact (none rfl (List.mem_singleton.mp last)).elim
  · rcases perform_task_create_cases cfg w env sid principal channel title with next | ⟨_, _, _, next⟩
    · rw [next] at inside
      exact (none rfl (List.mem_singleton.mp inside)).elim
    · rw [next] at inside
      exact (none rfl (List.mem_singleton.mp inside)).elim

theorem Held.single_step (inv : Held s) (inside : x ∈ (step cfg s e).threads sid) (single : x.single = true) :
    (step cfg s e).threads sid = [x] := by
  rcases threads_step cfg s e sid with same | ⟨env, here, rest, rfl, head, next⟩ | ⟨_, _, begins⟩ | ⟨_, empty⟩
  · rw [same] at inside ⊢
    exact inv.single sid x inside single
  · rw [next] at inside ⊢
    rcases List.mem_append.mp inside with new | old
    · have operates : x.operates = true := by
        cases x with
        | ensure_registered command => exact (leads_perform new).elim
        | _ => exact single
      obtain ⟨command, rfl, only⟩ := operates_perform new operates
      have alone := inv.single sid (.ensure_registered command) (by rw [head]; exact List.mem_cons_self) rfl
      rw [head] at alone
      rw [only, (List.cons.inj alone).2]
      rfl
    · have alone := inv.single sid x (by rw [head]; exact List.mem_cons_of_mem here old) single
      rw [head] at alone
      rw [(List.cons.inj alone).2] at old
      cases old
  · exact begins.single inside single
  · rw [empty] at inside; cases inside

/-! ### Endings -/

theorem Held.ending_disconnect (inv : Held s) : Ending s.world sid (disconnect s.world sid) := by
  unfold disconnect
  cases speaks : s.world.principal sid with
  | none =>
    refine .finishing ?_
    intro p found
    obtain ⟨principal, known, _⟩ := inv.owned p _ found
    rw [speaks] at known
    cases known
  | some principal => exact .removing speaks

theorem Held.ending_begins {sections : List Section} (inv : Held s) (begins : Begins s.world sid e sections)
    (inside : x ∈ sections) (ends : x.ends = true) : Ending s.world sid sections := by
  rcases begins with ⟨command, _, rfl⟩ | rfl | ⟨reason, rfl⟩
  · cases command with
    | Quit => exact inv.ending_disconnect
    | Cap subcommand capabilities =>
      obtain ⟨line, _, rfl⟩ := List.mem_map.mp inside
      cases ends
    | Pong => cases inside
    | _ => rw [List.mem_singleton.mp inside] at ends; cases ends
  · exact inv.ending_disconnect
  · exact .told inv.ending_disconnect

theorem Held.ends_step (inv : Held s) (inside : x ∈ (step cfg s e).threads sid) (ends : x.ends = true) :
    Ending (step cfg s e).world sid ((step cfg s e).threads sid) := by
  have later {sections : List Section} (ending : Ending s.world sid sections) (aside : ∀ principal rows rest,
      s.threads sid ≠ .insert_client principal rows :: rest) : Ending (step cfg s e).world sid sections :=
    ending.mono (fun principal speaks => inv.speaks speaks e)
      (fun gone => gone_step gone (fun _ principal rows rest _ => aside principal rows rest))
  rcases threads_step cfg s e sid with same | ⟨env, here, rest, rfl, head, next⟩ | ⟨empty, _, begins⟩ | ⟨_, empty⟩
  · rw [same] at inside ⊢
    refine later (inv.ends sid x inside ends) ?_
    intro principal rows rest head
    have ending := inv.ends sid x inside ends
    rw [head] at ending
    cases ending
  · rw [next] at inside ⊢
    rcases List.mem_append.mp inside with new | old
    · have final : (x.operates || x.ends) = true := by rw [ends, Bool.or_true]
      have pending : here ∈ s.threads sid := by rw [head]; exact List.mem_cons_self
      have aside (alone : s.threads sid = [here]) : rest = [] := by
        rw [head] at alone
        exact (List.cons.inj alone).2
      rcases final_perform new final with ⟨principal, rfl⟩ | ⟨command, rfl⟩ | ⟨principal, channel, title, rfl⟩
      · have ending := inv.ends sid _ pending rfl
        rw [head] at ending
        cases ending with
        | removing known =>
          have gone : Gone (step cfg s (.run sid env)).world sid := by
            intro p found
            obtain ⟨owner, speaks, rfl⟩ := inv.owned_step p _ found
            rw [inv.speaks known _] at speaks
            cases speaks
            rw [step_run head, world_resume, clients_perform] at found
            dsimp only at found
            split at found
            · cases found
            · next kept => exact kept ⟨rfl, found⟩
          rcases perform_remove_client_cases cfg s.world env sid principal with ⟨_, more⟩ | ⟨_, more⟩
          · rw [more]
            exact .marking (inv.speaks known _) gone
          · rw [more]
            exact .finishing gone
      · rw [aside (inv.single sid _ pending rfl), List.append_nil]
        rcases perform_ensure_registered_cases cfg s.world env sid command with
          ⟨speaker, more⟩ | ⟨line, more⟩ | more | ⟨line, more⟩
        · rw [more] at new
          rw [handler_open speaker command x new] at ends
          cases ends
        · rw [more] at new
          rw [List.mem_singleton.mp new] at ends
          cases ends
        · rw [more]
          exact .leaving
        · rw [more]
          exact .told .leaving
      · rw [aside (inv.single sid _ pending rfl), List.append_nil]
        rcases perform_task_create_cases cfg s.world env sid principal channel title with more | ⟨_, _, _, more⟩
        · rw [more]
          exact .leaving
        · rw [more] at new
          rw [List.mem_singleton.mp new] at ends
          cases ends
    · have ending := inv.ends sid x (by rw [head]; exact List.mem_cons_of_mem here old) ends
      have keep {sections : List Section} (ending : Ending s.world sid sections)
          (other : ∀ principal rows, here ≠ .insert_client principal rows) :
          Ending (step cfg s (.run sid env)).world sid sections := by
        refine later ending ?_
        intro principal rows rest' same
        rw [head] at same
        exact other principal rows (List.cons.inj same).1
      rw [head] at ending
      cases ending with
      | removing known => cases old
      | marking known gone => exact keep (.finishing gone) (fun _ _ same => by cases same)
      | finishing gone => cases old
      | leaving => cases old
      | told rest => exact keep rest (fun _ _ same => by cases same)
  · exact later (inv.ending_begins begins inside ends) (fun _ _ _ head => by rw [empty] at head; cases head)
  · rw [empty] at inside; cases inside

/-- Without a section, a connection changes its phase when it is made and when a read fails. -/
theorem phase_step_other (cfg : Config) (s : System) (sid : SessionId) (notRun : ∀ sid env, e ≠ .run sid env)
    (lasting : e ≠ .restart) :
    ((step cfg s e).world.connections sid).phase = (s.world.connections sid).phase ∨
    ((s.world.connections sid).phase = .Unused ∧ ((step cfg s e).world.connections sid).phase = .Running) ∨
    (leaves s e = some sid ∧ (step cfg s e).threads sid = [] ∧ ((step cfg s e).world.connections sid).phase = .Ended) := by
  have changed (task : SessionId) (change : Connection → Connection)
      (keeps : ∀ connection, (change connection).phase = connection.phase) :
      ((s.world.modify task change).connections sid).phase = (s.world.connections sid).phase := by
    rw [connections_modify]
    split
    · next here => rw [keeps, here]
    · rfl
  cases e with
  | run sid env => exact absurd rfl (notRun sid env)
  | restart => exact absurd rfl lasting
  | connect task =>
    simp only [step]
    split
    · next unused =>
      by_cases here : sid = task
      · refine .inr (.inl ⟨by rw [here]; exact unused, ?_⟩)
        simp [accept, connections_send, connections_modify, here, World.open]
      · left
        rw [accept, connections_send, if_neg (fun both => here both.1), connections_modify, if_neg here]
    · exact .inl rfl
  | receive task command =>
    left
    simp only [step]
    split
    · cases command with
      | Pass token => exact changed task (fun connection => { connection with session := _ }) (fun _ => rfl)
      | Nick nick => exact changed task (fun connection => { connection with session := _ }) (fun _ => rfl)
      | _ => rfl
    · rfl
  | eof task =>
    left
    simp only [step]
    split
    · rfl
    · rfl
  | shutdown task =>
    left
    simp only [step]
    split
    · rfl
    · split
      · rfl
      · rfl
  | read_error task =>
    simp only [step, leaves]
    split
    · next idle =>
      by_cases here : sid = task
      · subst here
        simp only [System.idle, Bool.and_eq_true, List.isEmpty_iff] at idle
        exact .inr (.inr ⟨rfl, idle.2, by simp [Server.leave, connections_modify]⟩)
      · left
        simp [Server.leave, connections_modify, here]
    · exact .inl rfl
  | writer_end task =>
    exact .inl (changed task (fun connection => { connection with writer := false }) (fun _ => rfl))

/-- The last section of a session is the last one of its task. -/
theorem Held.last {rest : List Section} (inv : Held s) (head : s.threads sid = here :: rest)
    (returns : here = .finish ∨ here = .leave) : rest = [] ∧ (here = .finish → Gone s.world sid) := by
  have pending : here ∈ s.threads sid := by rw [head]; exact List.mem_cons_self
  have ends : here.ends = true := by
    rcases returns with rfl | rfl
    · rfl
    · rfl
  have ending := inv.ends sid here pending ends
  rw [head] at ending
  cases ending with
  | removing _ => rcases returns with same | same <;> cases same
  | marking _ _ => rcases returns with same | same <;> cases same
  | finishing gone => exact ⟨rfl, fun _ => gone⟩
  | leaving => exact ⟨rfl, fun same => by cases same⟩
  | told _ => rcases returns with same | same <;> cases same

/-- Nothing is left to do once `handle_stream` has returned. -/
theorem Held.stopped_step (inv : Held s) (stopped : ((step cfg s e).world.connections sid).phase ≠ .Running) :
    (step cfg s e).threads sid = [] := by
  by_cases runs : ∃ sid env, e = .run sid env
  · obtain ⟨task, env, rfl⟩ := runs
    cases head : s.threads task with
    | nil =>
      rw [step_run_idle head] at stopped ⊢
      exact inv.stopped sid stopped
    | cons here rest =>
      rw [step_run head] at stopped ⊢
      rw [world_resume, phase_perform] at stopped
      rw [threads_resume]
      by_cases returns : (here = .finish ∨ here = .leave) ∧ sid = task
      · rw [if_pos returns.2, (inv.last head returns.1).1]
        rcases returns.1 with rfl | rfl
        · rfl
        · rfl
      · rw [if_neg returns] at stopped
        have idle := inv.stopped sid stopped
        rw [if_neg, idle]
        rintro rfl
        rw [head] at idle
        cases idle
  · by_cases restarts : e = .restart
    · subst restarts; rfl
    · have notRun : ∀ sid env, e ≠ .run sid env := fun sid env same => runs ⟨sid, env, same⟩
      rcases phase_step_other cfg s sid notRun restarts with same | ⟨_, running⟩ | ⟨_, empty, _⟩
      · rw [same] at stopped
        rcases threads_step cfg s e sid with kept | ⟨env, _, _, run, _⟩ | ⟨_, alive, _⟩ | ⟨restart, _⟩
        · rw [kept]; exact inv.stopped sid stopped
        · exact absurd run (notRun sid env)
        · exact absurd alive stopped
        · exact absurd restart restarts
      · exact absurd running stopped
      · exact empty

theorem Held.step (inv : Held s) : Held (step cfg s e) where
  known := known_step inv.known
  owned := inv.owned_step
  joins _ _ := inv.joins_step
  single _ _ := inv.single_step
  ends _ _ := inv.ends_step
  stopped _ := inv.stopped_step

theorem held_start (db : Db) : Held (start db) where
  known _ := rfl
  owned p h found := by cases found
  joins sid principal pending := by
    rcases pending with inside | ⟨rows, inside⟩
    · cases inside
    · cases inside
  single sid x inside := by cases inside
  ends sid x inside := by cases inside
  stopped sid _ := rfl

/-! ## What is owed -/

/-- A session that is owed its update has its handle, or is about to run the
    update, or has returned without its `disconnect`. -/
structure Tended (known : List Principal) (o : Attended) : Prop where
  introduced : Introduced known o.system
  held : Held o.system
  owed : ∀ sid, o.owed sid = true → holds o.system.world sid = true ∨ (∃ id, .mark_disconnected id ∈ o.system.threads sid) ∨
    (o.system.world.connections sid).phase = .Ended

theorem holds_eq_false (w : World) (sid : SessionId) (gone : Gone w sid) : holds w sid = false := by
  rw [Bool.eq_false_iff]
  intro current
  obtain ⟨principal, _, found⟩ := holds_iff.mp current
  exact gone principal.id found

theorem Held.gone_iff (inv : Held s) : Gone s.world sid ↔ holds s.world sid = false := by
  refine ⟨holds_eq_false _ _, ?_⟩
  intro absent p found
  obtain ⟨principal, speaks, rfl⟩ := inv.owned p _ found
  rw [holds_iff.mpr ⟨principal, speaks, found⟩] at absent
  cases absent

/-- A session that loses its handle to nobody has removed it itself. -/
theorem Held.lost (inv : Held s) (lasting : e ≠ .restart) (before : holds s.world sid = true)
    (after : holds (Concurrent.step cfg s e).world sid = false) (free : taken (Concurrent.step cfg s e).world sid = false) :
    ∃ id, .mark_disconnected id ∈ (Concurrent.step cfg s e).threads sid := by
  obtain ⟨principal, speaks, found⟩ := holds_iff.mp before
  have none : (Concurrent.step cfg s e).world.inner.clients principal.id = none := by
    rw [taken, inv.speaks speaks e] at free
    simpa using free
  rcases stepped cfg s e with ⟨task, env, here, rest, rfl, head⟩ | idle | notRun
  · rw [step_run head, world_resume, clients_perform] at none
    cases here with
    | insert_client newcomer rows =>
      dsimp only at none
      split at none
      · cases none
      · rw [found] at none; cases none
    | remove_client leaver =>
      dsimp only at none
      split at none
      · next mine =>
        rw [found] at mine
        obtain ⟨same, owner⟩ := mine
        cases owner
        rw [same] at found
        refine ⟨leaver.id, ?_⟩
        rcases perform_remove_client_cases cfg s.world env sid leaver with ⟨_, more⟩ | ⟨other, _⟩
        · rw [step_run head, threads_resume, if_pos rfl, more]
          exact List.mem_cons_self
        · exact absurd found other
      · rw [found] at none; cases none
    | _ => rw [found] at none; cases none
  · rw [idle, found] at none; cases none
  · rw [(step_other cfg s notRun lasting).1.inner, found] at none
    cases none

/-- The update of a session is recorded. -/
theorem Tended.records_run (inv : Tended known o) {id : Text} {rest : List Section}
    (head : o.system.threads sid = .mark_disconnected id :: rest) :
    records o.system (Concurrent.step cfg o.system (.run sid env)) (.run sid env) sid = true := by
  have ending := inv.held.ends sid _ (by rw [head]; exact List.mem_cons_self) rfl
  rw [head] at ending
  cases ending with
  | @marking principal speaks _ =>
    have stays := @Held.speaks cfg o.system sid principal inv.held speaks (.run sid env)
    have listed := inv.introduced.sessions sid principal speaks
    rw [← inv.introduced.people] at listed
    obtain ⟨row, stored, same⟩ := List.mem_map.mp listed
    have found : (o.system.world.db.principals.find principal.id).isSome :=
      Table.find_isSome_iff.mpr ⟨row, stored, by rw [← same]⟩
    simp only [Concurrent.records, ran, head, List.head?_cons, decide_true, Bool.true_and, stays, Option.any_some]
    rw [step_run head, world_resume, disconnected_at_perform]
    simpa using found

theorem ended_step (ended : (s.world.connections sid).phase = .Ended) :
    ((step cfg s e).world.connections sid).phase = .Ended := by
  rcases stepped cfg s e with ⟨task, env, here, rest, rfl, head⟩ | idle | notRun
  · rw [step_run head, world_resume, phase_perform, ended]
    exact ite_self _
  · rw [idle]; exact ended
  · by_cases restarts : e = .restart
    · subst restarts
      simp [Concurrent.step, Server.step, ended]
    · rcases phase_step_other cfg s sid notRun restarts with
        same | ⟨unused, _⟩ | ⟨_, _, ends⟩
      · rw [same, ended]
      · rw [ended] at unused; cases unused
      · exact ends

theorem Tended.owed_step (inv : Tended known o) (owed : (attend cfg o e).owed sid = true) :
    holds (attend cfg o e).system.world sid = true ∨ (∃ id, .mark_disconnected id ∈ (attend cfg o e).system.threads sid) ∨
      ((attend cfg o e).system.world.connections sid).phase = .Ended := by
  by_cases restarts : e = .restart
  · subst restarts; cases owed
  have due : (if holds (step cfg o.system e).world sid then true
      else if holds o.system.world sid && taken (step cfg o.system e).world sid then false
      else if records o.system (step cfg o.system e) e sid then false
      else o.owed sid) = true := by
    cases e with
    | restart => exact absurd rfl restarts
    | _ => exact owed
  by_cases after : holds (step cfg o.system e).world sid = true
  · exact .inl after
  rw [if_neg after] at due
  split at due
  · cases due
  next kept =>
    split at due
    · cases due
    next unrecorded =>
      simp only [Bool.and_eq_true, not_and, Bool.not_eq_true] at kept after unrecorded
      rcases inv.owed sid due with current | ⟨id, pending⟩ | ended
      · exact .inr (.inl (inv.held.lost restarts current after (kept current)))
      · refine .inr (.inl ⟨id, ?_⟩)
        rcases stepped cfg o.system e with ⟨task, env, here, rest, rfl, head⟩ | idle | notRun
        · by_cases own : task = sid
          · subst own
            refine (mem_run_iff head ?_).mpr (.inl pending)
            rintro rfl
            rw [inv.records_run head] at unrecorded
            cases unrecorded
          · rw [attend, step_run head, threads_resume, if_neg (Ne.symm own)]
            exact pending
        · rw [attend, idle]; exact pending
        · exact (mem_other_iff notRun restarts
            (show ¬ (Section.mark_disconnected id).fresh from fun fresh => fresh)).mpr pending
      · exact .inr (.inr (ended_step ended))

theorem Tended.step (inv : Tended known o) : Tended known (attend cfg o e) where
  introduced := inv.introduced.step
  held := inv.held.step
  owed _ := inv.owed_step

/-! ## Every end -/

/-- How a connection comes to its end. -/
theorem ended_cases (ended : ((step cfg s e).world.connections sid).phase = .Ended) :
    (s.world.connections sid).phase = .Ended ∨ e = .restart ∨
    (∃ env rest, e = .run sid env ∧ s.threads sid = .finish :: rest) ∨ leaves s e = some sid := by
  rcases stepped cfg s e with ⟨task, env, here, rest, rfl, head⟩ | idle | notRun
  · rw [step_run head, world_resume, phase_perform] at ended
    split at ended
    · next returns =>
      obtain ⟨rfl | rfl, rfl⟩ := returns
      · exact .inr (.inr (.inl ⟨env, rest, rfl, head⟩))
      · refine .inr (.inr (.inr ?_))
        simp [leaves, head]
    · exact .inl ended
  · rw [idle] at ended; exact .inl ended
  · by_cases restarts : e = .restart
    · exact .inr (.inl restarts)
    · rcases phase_step_other cfg s sid notRun restarts with
        same | ⟨_, running⟩ | ⟨leaves, _⟩
      · rw [same] at ended; exact .inl ended
      · rw [ended] at running; cases running
      · exact .inr (.inr (.inr leaves))

/-- A session that has no handle and is owed nothing gets neither while it does not register. -/
theorem cleanedUp_attend (gone : Gone o.system.world sid) (unowed : o.owed sid = false)
    (settled : ∀ env principal rows rest, e = .run sid env → o.system.threads sid ≠ .insert_client principal rows :: rest) :
    CleanedUp (attend cfg o e) sid := by
  have gone' : Gone (attend cfg o e).system.world sid := gone_step gone settled
  have absent' : holds (step cfg o.system e).world sid = false := holds_eq_false _ _ gone'
  refine ⟨gone', ?_, ?_⟩
  · intro c recipient listed same
    obtain ⟨p, client⟩ := recipient
    have found := (mem_recipients.mp listed).2
    obtain ⟨owner⟩ := client
    cases same
    exact gone' p found
  · cases e with
    | restart => rfl
    | _ => simp [attend, absent', holds_eq_false _ _ gone, unowed]

theorem Tended.keeps (inv : Tended known o) (clean : AllCleanedUp o) (orderly : Orderly o e) :
    AllCleanedUp (attend cfg o e) := by
  intro sid ended
  by_cases before : (o.system.world.connections sid).phase = .Ended
  · have idle := inv.held.stopped sid (by rw [before]; simp)
    exact cleanedUp_attend (clean sid before).removed (clean sid before).recorded
      (fun _ _ _ _ _ head => by rw [idle] at head; cases head)
  have unowed (absent : holds o.system.world sid = false) (unmarked : ∀ id, .mark_disconnected id ∉ o.system.threads sid) :
      o.owed sid = false := by
    rw [Bool.eq_false_iff]
    intro owed
    rcases inv.owed sid owed with current | ⟨id, pending⟩ | stopped
    · rw [absent] at current; cases current
    · exact unmarked id pending
    · exact before stopped
  rcases ended_cases ended with stopped | rfl | ⟨env, rest, rfl, head⟩ | leaving
  · exact absurd stopped before
  · refine ⟨?_, ?_, rfl⟩
    · intro p found; cases found
    · intro c recipient listed; cases listed
  · obtain ⟨rfl, gone⟩ := inv.held.last head (.inl rfl)
    have absent := holds_eq_false _ _ (gone rfl)
    refine cleanedUp_attend (gone rfl) (unowed absent (fun id pending => ?_)) (fun _ _ _ _ _ other => ?_)
    · rw [head] at pending
      cases List.mem_singleton.mp pending
    · rw [head] at other
      cases other
  · have absent := orderly sid leaving
    have short : o.system.threads sid = [] ∨ o.system.threads sid = [.leave] := by
      cases e with
      | read_error task =>
        simp only [leaves] at leaving
        split at leaving
        · next idle =>
          cases leaving
          simp only [System.idle, Bool.and_eq_true, List.isEmpty_iff] at idle
          exact .inl idle.2
        · cases leaving
      | run task env =>
        simp only [leaves] at leaving
        split at leaving
        · next head =>
          cases leaving
          cases sections : o.system.threads sid with
          | nil => exact .inl rfl
          | cons here rest =>
            rw [sections] at head
            cases head
            rw [(inv.held.last sections (.inr rfl)).1]
            exact .inr rfl
        · cases leaving
      | _ => cases leaving
    refine cleanedUp_attend (inv.held.gone_iff.mpr absent) (unowed absent (fun id pending => ?_)) (fun _ _ _ _ _ other => ?_)
    · rcases short with empty | last
      · rw [empty] at pending; cases pending
      · rw [last] at pending; cases List.mem_singleton.mp pending
    · rcases short with empty | last
      · rw [empty] at other; cases other
      · rw [last] at other; cases other

/-- A session that returns without its `disconnect` leaves its handle. -/
theorem handle_left (leaving : leaves s e = some sid) (current : s.world.inner.clients p = some ⟨sid⟩) :
    ((step cfg s e).world.connections sid).phase = .Ended ∧ (step cfg s e).world.inner.clients p = some ⟨sid⟩ := by
  cases e with
  | read_error task =>
    simp only [leaves] at leaving
    split at leaving
    · next idle =>
      cases leaving
      rw [step, if_pos idle]
      exact ⟨by simp [Server.leave, connections_modify], current⟩
    · cases leaving
  | run task env =>
    simp only [leaves] at leaving
    split at leaving
    · next first =>
      cases leaving
      cases head : s.threads sid with
      | nil => rw [head] at first; cases first
      | cons here rest =>
        rw [head] at first
        cases first
        rw [step_run head, world_resume, phase_perform, clients_perform]
        exact ⟨if_pos ⟨.inr rfl, rfl⟩, current⟩
    · cases leaving
  | _ => cases leaving

theorem breaks_attend (disorderly : ¬ Orderly o e) : ¬ AllCleanedUp (attend cfg o e) := by
  intro clean
  apply disorderly
  intro sid leaving
  rw [Bool.eq_false_iff]
  intro current
  obtain ⟨principal, _, found⟩ := holds_iff.mp current
  obtain ⟨ended, kept⟩ := @handle_left cfg o.system sid principal.id e leaving found
  exact (clean sid ended).removed principal.id kept

/-- Every session that has ended is cleaned up, throughout a run, exactly when none
    returns by a failed read or command while its handle is the current one. -/
theorem ends_clean_iff (cfg : Config) (db : Db) (events : List Event) :
    Always (attend cfg) AllCleanedUp (unattended db) events ↔ AllSteps (attend cfg) Orderly (unattended db) events := by
  have inv : Tended (people db) (unattended db) :=
    ⟨introduced_run cfg db [], held_start db, fun _ owed => by cases owed⟩
  have fresh : AllCleanedUp (unattended db) := by
    intro sid ended
    cases ended
  exact always_iff_allSteps (fun _ _ inv _ => inv.step) (fun _ _ inv clean _ orderly => inv.keeps clean orderly)
    (fun _ _ _ _ _ disorderly => breaks_attend disorderly) events inv fresh (fun _ _ => trivial)

/-- The read of alice's registered session fails. -/
def reset : List Event := arrival 0 "alice".toList "a".toList ++ sections 0 3 0 ++ [.read_error 0]

theorem ends_unclean : ¬ ∀ events, Always (attend plain) AllCleanedUp (unattended without_channels) events := by
  intro always
  have clean := always_iff_run.mp (always reset) reset [] (List.append_nil _).symm 0 (by decide +kernel)
  exact clean.removed "alice".toList (by decide +kernel)

end Aircd.Concurrent

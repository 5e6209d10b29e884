import Aircd.Server

/-!
# What one event does

The frame of every operation of the server, and from it the effects of one
event (`step_effect`): most events leave the routing, the cursors, the log and
the messages that were queued as they are, and the others are few.
-/
namespace Aircd.Server
open Aircd.Text Aircd.Protocol Aircd.Auth Aircd.History Aircd.Tasks Aircd.Store

/-- The stored messages that were queued to a session, in order. -/
def World.enqueued (w : World) (sid : SessionId) : List StoredMessage := (w.connections sid).lines.filterMap (·.stored)

/-- The principal of a session. -/
def World.principal (w : World) (sid : SessionId) : Option Principal := (w.connections sid).session.principal

/-- The writer task of a session still receives. -/
def World.open (w : World) (sid : SessionId) : Prop := (w.connections sid).writer = true
instance (w : World) (sid : SessionId) : Decidable (w.open sid) := inferInstanceAs (Decidable (_ = _))

section
variable (w : World) (sid sid' : SessionId)

@[simp] theorem inner_modify (change : Connection → Connection) : (w.modify sid change).inner = w.inner := rfl
@[simp] theorem db_modify (change : Connection → Connection) : (w.modify sid change).db = w.db := rfl
@[simp] theorem inner_setSession (session : Session) : (w.setSession sid session).inner = w.inner := rfl
@[simp] theorem db_setSession (session : Session) : (w.setSession sid session).db = w.db := rfl

theorem connections_modify (change : Connection → Connection) :
    (w.modify sid change).connections sid' = if sid' = sid then change (w.connections sid) else w.connections sid' := by
  simp [World.modify, Function.update_apply]

theorem connections_send (line : ServerLine) :
    (w.send sid line).connections sid' =
      if sid' = sid ∧ w.open sid then
        { w.connections sid with lines := (w.connections sid).lines ++ [line] } else w.connections sid' := by
  by_cases alive : (w.connections sid).writer
  · simp [World.send, World.tx_send, World.open, alive, connections_modify]
  · simp [World.send, World.tx_send, World.open, alive]

@[simp] theorem inner_send (line : ServerLine) : (w.send sid line).inner = w.inner := by
  by_cases alive : (w.connections sid).writer
  · simp [World.send, World.tx_send, alive]
  · simp [World.send, World.tx_send, alive]

@[simp] theorem db_send (line : ServerLine) : (w.send sid line).db = w.db := by
  by_cases alive : (w.connections sid).writer
  · simp [World.send, World.tx_send, alive]
  · simp [World.send, World.tx_send, alive]

@[simp] theorem principal_send (line : ServerLine) : (w.send sid line).principal sid' = w.principal sid' := by
  simp only [World.principal, connections_send]
  by_cases here : sid' = sid ∧ w.open sid
  · rw [if_pos here, here.1]
  · rw [if_neg here]

@[simp] theorem open_send (line : ServerLine) : (w.send sid line).open sid' ↔ w.open sid' := by
  have same : ((w.send sid line).connections sid').writer = (w.connections sid').writer := by
    rw [connections_send]
    by_cases here : sid' = sid ∧ w.open sid
    · rw [if_pos here, here.1]
    · rw [if_neg here]
  rw [World.open, World.open, same]

theorem enqueued_send (line : ServerLine) :
    (w.send sid line).enqueued sid' =
      if sid' = sid ∧ w.open sid then w.enqueued sid ++ line.stored.toList else w.enqueued sid' := by
  simp only [World.enqueued, connections_send]
  by_cases here : sid' = sid ∧ w.open sid
  · rw [if_pos here, if_pos here, List.filterMap_append]
    cases carried : line.stored with
    | none => simp [carried]
    | some m => simp [carried]
  · rw [if_neg here, if_neg here]

theorem tx_send_eq (line : ServerLine) :
    w.tx_send sid line = (w.send sid line, decide (w.open sid)) := by
  by_cases alive : (w.connections sid).writer
  · simp [World.send, World.tx_send, World.open, alive]
  · simp [World.send, World.tx_send, World.open, alive]

end

/-- Nothing of the routing, the memberships, the log, the queued messages and
    the principals of the sessions changes. -/
structure Calm (w w' : World) : Prop where
  inner : w'.inner = w.inner
  memberships : w'.db.channel_memberships = w.db.channel_memberships
  messages : w'.db.messages = w.db.messages
  enqueued : ∀ sid, w'.enqueued sid = w.enqueued sid
  principal : ∀ sid, w'.principal sid = w.principal sid
  registered : ∀ sid, (w'.connections sid).session.registered = (w.connections sid).session.registered

namespace Calm
variable {w w' w'' : World} {sid : SessionId}

theorem refl (w : World) : Calm w w := ⟨rfl, rfl, rfl, fun _ => rfl, fun _ => rfl, fun _ => rfl⟩

theorem trans (first : Calm w w') (second : Calm w' w'') : Calm w w'' where
  inner := second.inner.trans first.inner
  memberships := second.memberships.trans first.memberships
  messages := second.messages.trans first.messages
  enqueued sid := (second.enqueued sid).trans (first.enqueued sid)
  principal sid := (second.principal sid).trans (first.principal sid)
  registered sid := (second.registered sid).trans (first.registered sid)

/-- A change of one connection that keeps its lines and who it is. -/
theorem modify {change : Connection → Connection} (lines : (change (w.connections sid)).lines = (w.connections sid).lines)
    (principal : (change (w.connections sid)).session.principal = (w.connections sid).session.principal)
    (registered : (change (w.connections sid)).session.registered = (w.connections sid).session.registered) :
    Calm w (w.modify sid change) where
  inner := rfl
  memberships := rfl
  messages := rfl
  enqueued sid' := by
    rw [World.enqueued, World.enqueued, connections_modify]
    by_cases here : sid' = sid
    · rw [if_pos here, lines, here]
    · rw [if_neg here]
  principal sid' := by
    rw [World.principal, World.principal, connections_modify]
    by_cases here : sid' = sid
    · rw [if_pos here, principal, here]
    · rw [if_neg here]
  registered sid' := by
    rw [connections_modify]
    by_cases here : sid' = sid
    · rw [if_pos here, registered, here]
    · rw [if_neg here]

theorem send {line : ServerLine} (plain : line.stored = none) : Calm w (w.send sid line) where
  inner := inner_send w sid line
  memberships := by rw [db_send]
  messages := by rw [db_send]
  enqueued sid' := by
    rw [enqueued_send]
    by_cases here : sid' = sid ∧ w.open sid
    · rw [if_pos here, plain, here.1]; simp
    · rw [if_neg here]
  principal sid' := principal_send w sid sid' line
  registered sid' := by
    rw [connections_send]
    by_cases here : sid' = sid ∧ w.open sid
    · rw [if_pos here, here.1]
    · rw [if_neg here]

theorem setSession {session : Session} (principal : session.principal = w.principal sid)
    (registered : session.registered = (w.connections sid).session.registered) : Calm w (w.setSession sid session) :=
  modify rfl principal registered

theorem leave : Calm w (leave w sid) := modify rfl rfl rfl

theorem accept : Calm w (accept w sid) := (modify rfl rfl rfl).trans (send rfl)

theorem writer_end : Calm w (w.modify sid (fun connection => { connection with writer := false })) := modify rfl rfl rfl

theorem foldl {α : Type} {f : World → α → World} (each : ∀ w x, Calm w (f w x)) (l : List α) (w : World) :
    Calm w (l.foldl f w) := by
  induction l generalizing w with
  | nil => exact refl w
  | cons x rest ih => exact (each w x).trans (ih (f w x))

theorem broadcast_raw {channel : Text} {line : ServerLine} (plain : line.stored = none) :
    Calm w (broadcast_raw w channel line) :=
  foldl (fun _ _ => send plain) _ w

end Calm

/-- A restart leaves what the connections were sent and who they were. -/
theorem connections_restart {cfg : Config} {w : World} (sid : SessionId) :
    ((step cfg w .restart).connections sid).session = (w.connections sid).session ∧
    ((step cfg w .restart).connections sid).lines = (w.connections sid).lines := by
  simp only [step]
  split
  · exact ⟨rfl, rfl⟩
  · exact ⟨rfl, rfl⟩

/-! ## Registration -/

/-- The world in which `try_register` has inserted the handle and the channels. -/
def inserted (w : World) (env : Env) (sid : SessionId) (principal : Principal) : World :=
  insert_client
    { w.setSession sid { (w.connections sid).session with
        nick := some principal.nick, principal := some principal, registered := true } with
      db := (mark_connected_and_memberships w.db env.now principal.id).1 }
    sid principal.id ((memberships w.db principal.id).map (·.channel))

/-- The lines that greet the session change nothing; the replays follow. -/
theorem register_replays (w : World) (env : Env) (sid : SessionId) (principal : Principal) :
    ∃ greeted, Calm (inserted w env sid principal) greeted ∧
      (∀ sid', greeted.open sid' ↔ (inserted w env sid principal).open sid') ∧
      register w env sid principal = (memberships w.db principal.id).foldl (fun w membership =>
        replay_channel w sid principal membership.last_seen_seq 200 membership.channel) greeted := by
  have joined (l : List Text) (w : World) :
      Calm w (l.foldl (fun w channel => w.send sid (.Join principal.nick channel)) w) ∧
        ∀ sid', (l.foldl (fun w channel => w.send sid (.Join principal.nick channel)) w).open sid' ↔ w.open sid' := by
    refine ⟨Calm.foldl (fun _ _ => Calm.send rfl) l w, ?_⟩
    intro sid'
    induction l generalizing w with
    | nil => rfl
    | cons channel rest ih => rw [List.foldl_cons, ih, open_send]
  have sent : Calm (inserted w env sid principal)
      ((inserted w env sid principal).send sid (.Registered principal.nick principal.team)) := Calm.send rfl
  have welcome := joined ((memberships w.db principal.id).map (·.channel))
    ((inserted w env sid principal).send sid (.Registered principal.nick principal.team))
  have calm := sent.trans welcome.1
  have opens (sid' : SessionId) := (welcome.2 sid').trans (open_send _ sid sid' _)
  by_cases alone : (memberships w.db principal.id).isEmpty = true
  · refine ⟨_, calm, opens, ?_⟩
    have empty : memberships w.db principal.id = [] := by simpa using alone
    unfold register inserted
    simp [mark_connected_and_memberships, empty]
  · refine ⟨World.send _ sid (.Replaying principal.nick (memberships w.db principal.id).length),
      calm.trans (Calm.send rfl), fun sid' => (open_send _ sid sid' _).trans (opens sid'), ?_⟩
    unfold register
    show (if (memberships w.db principal.id).isEmpty = true then _ else _) = _
    rw [if_neg alone]
    rfl

/-! ## Handlers behind `ensure_registered` -/

variable {cfg : Config} {w : World} {env : Env} {sid : SessionId}

/-- Either the session is the current one of its principal and the handler runs
    on the world as it is, or nothing but a line to the session happens. -/
theorem with_registered_cases (handler : World → Principal → World × Except Text Bool) :
    (∃ principal, current w sid = some principal ∧ with_registered w sid handler = handler w principal) ∨
    (current w sid = none ∧ Calm w (with_registered w sid handler).1 ∧
      (with_registered w sid handler).2 ≠ .ok true) := by
  unfold with_registered ensure_registered current
  by_cases registered : (w.connections sid).session.registered = true
  · rw [if_pos registered, if_pos registered]
    cases known : (w.connections sid).session.principal with
    | none => exact .inr ⟨rfl, Calm.refl w, by simp⟩
    | some principal =>
      by_cases active : (w.inner.clients principal.id).any (fun client => decide (client.session_id = sid)) = true
      · left
        exact ⟨principal, by simp [Option.filter, active], by simp only [if_pos active, known]⟩
      · right
        simp only [if_neg active]
        exact ⟨by simp [Option.filter, active], Calm.send rfl, by simp⟩
  · rw [if_neg registered, if_neg registered]
    exact .inr ⟨rfl, Calm.send rfl, by simp⟩

theorem current_iff {principal : Principal} :
    current w sid = some principal ↔ (w.connections sid).session.registered = true ∧
      w.principal sid = some principal ∧ w.inner.clients principal.id = some ⟨sid⟩ := by
  unfold current World.principal
  by_cases registered : (w.connections sid).session.registered = true
  · simp only [registered, if_true, true_and, Option.filter_eq_some_iff]
    refine and_congr_right (fun _ => ?_)
    cases found : w.inner.clients principal.id with
    | none => simp
    | some client => cases client; simp
  · simp [registered]

/-! ## The events that matter -/

/-- The session with what its command presents for registration. -/
def presented (session : Session) : Command → Option Session
  | .Pass token => some { session with pass_token := some token }
  | .Nick nick => some { session with nick := some nick }
  | .User _ => some session
  | _ => none

/-- The session and the principal that an event registers. -/
def registers (cfg : Config) (w : World) : Event → Option (SessionId × Principal)
  | .command sid command _ =>
    if running w sid then
      match (presented (w.connections sid).session command).bind (authenticating cfg w.db) with
      | some (.ok principal) => some (sid, principal)
      | _ => none
    else none
  | _ => none

/-- The channel of the message that a command of a registered principal stores. -/
def stores (cfg : Config) (db : Db) (env : Env) (principal : Principal) : Command → Option Text
  | .Privmsg target _ =>
    if is_member db principal.id (normalize_channel target) then some (normalize_channel target) else none
  | .TaskCreate channel title =>
    if (trim title).isEmpty ∨ (db.tasks.find ("task_".toList ++ env.task_uuid)).isSome then none
    else some (normalize_channel channel)
  | .TaskClaim task_id =>
    ((claim cfg.lease_seconds db.tasks task_id principal.id env.now).2.toOption).map (·.channel)
  | .TaskDone task_id => ((done db.tasks task_id principal.id env.now).2.toOption).map (·.channel)
  | .TaskRelease task_id => ((release db.tasks task_id principal.id env.now).2.toOption).map (·.channel)
  | _ => none

/-- The channel of the message that an event stores. -/
def posts (cfg : Config) (w : World) : Event → Option Text
  | .command sid command env =>
    if running w sid then (current w sid).bind (fun principal => stores cfg w.db env principal command) else none
  | _ => none

/-- The world after a message is stored and sent to the recipients of its channel. -/
def posted (w : World) (tasks : TaskTable) (env : Env) (channel sender_id body : Text) (line : StoredMessage → ServerLine) :
    World :=
  let (w, m) := append_message { w with db := { w.db with tasks := tasks } } env channel sender_id body
  broadcast_message w channel (line m) m.seq

/-- Everything that one event can do. -/
inductive Effect (cfg : Config) (w : World) (e : Event) : World → Prop where
  | calm {w' : World} (unregistered : registers cfg w e = none) (silent : posts cfg w e = none)
      (same : Calm w w') : Effect cfg w e w'
  | registered {sid : SessionId} {principal : Principal} {env : Env} {session : Session}
      (registration : registers cfg w e = some (sid, principal)) (silent : posts cfg w e = none)
      (fresh : session.registered = false)
      (before : (w.connections sid).session.registered = false)
      (unknown : session.principal = w.principal sid) :
      Effect cfg w e (register (w.setSession sid session) env sid principal)
  | joined {principal : Principal} {env : Env} {channel : Text}
      (unregistered : registers cfg w e = none) (silent : posts cfg w e = none) :
      Effect cfg w e (join w env principal channel)
  | parted {principal : Principal} {channel : Text}
      (unregistered : registers cfg w e = none) (silent : posts cfg w e = none) :
      Effect cfg w e (part w principal channel)
  | posted {env : Env} {tasks : TaskTable} {channel sender_id body : Text} (line : StoredMessage → ServerLine)
      (unregistered : registers cfg w e = none) (posting : posts cfg w e = some channel)
      (carries : ∀ m, (line m).stored = some m) : Effect cfg w e (posted w tasks env channel sender_id body line)
  | replayed {sid : SessionId} {principal : Principal} {channels : List Text} {channel : Option Text}
      {after_seq limit : Int} {env : Env} (explicit : e = .command sid (.History channel after_seq limit) env)
      (silent : posts cfg w e = none) (unregistered : registers cfg w e = none)
      (registered : current w sid = some principal) :
      Effect cfg w e (replay_history w sid principal channels after_seq limit)
  | left {w' : World} {sid : SessionId} {principal : Principal} {before : World}
      (unregistered : registers cfg w e = none) (silent : posts cfg w e = none)
      (same : Calm w before) (after : Calm (remove_client before sid principal.id).1 w') : Effect cfg w e w'
  | restarted (same : e = .restart) : Effect cfg w e (step cfg w .restart)

/-! ### Every event has one of these effects -/

private theorem calm_outcome (result : World × Except Text Bool) :
    Calm w result.1 → result.2 ≠ .ok true → Calm w (match result with
      | (w, .ok false) => w
      | (w, .ok true) => finish w env sid
      | (w, .error _) => leave w sid) := by
  intro calm stays
  obtain ⟨w', outcome⟩ := result
  cases outcome with
  | error _ => exact calm.trans Calm.leave
  | ok quit =>
    cases quit with
    | false => exact calm
    | true => exact absurd rfl stays

theorem finish_cases (w : World) (env : Env) (sid : SessionId) :
    Calm w (finish w env sid) ∨ ∃ principal : Principal, Calm (remove_client w sid principal.id).1 (finish w env sid) := by
  unfold finish disconnect
  cases known : (w.connections sid).session.principal with
  | none => exact .inl (Calm.modify rfl rfl rfl)
  | some principal =>
    right
    refine ⟨principal, ?_⟩
    dsimp only
    obtain ⟨w', removed⟩ := remove_client w sid principal.id
    cases removed with
    | false => exact Calm.modify rfl rfl rfl
    | true =>
      have marked : Calm w' { w' with db := mark_disconnected w'.db env.now principal.id } :=
        ⟨rfl, rfl, rfl, fun _ => rfl, fun _ => rfl, fun _ => rfl⟩
      exact marked.trans (Calm.modify rfl rfl rfl)

private theorem finish_effect {e : Event} {before : World} (unregistered : registers cfg w e = none)
    (silent : posts cfg w e = none) (same : Calm w before) : Effect cfg w e (finish before env sid) := by
  rcases finish_cases before env sid with calm | ⟨principal, after⟩
  · exact .calm unregistered silent (same.trans calm)
  · exact .left unregistered silent same after

theorem cap_reply_plain {nick subcommand : Text} {capabilities : List Text} {line : ServerLine}
    (reply : cap_reply nick subcommand capabilities = some line) : line.stored = none := by
  unfold cap_reply at reply
  dsimp only at reply
  split at reply
  · cases reply; rfl
  · split at reply
    · cases reply; rfl
    · split at reply
      · cases reply; rfl
      · split at reply
        · cases reply
        · cases reply; rfl

theorem cap_calm (subcommand : Text) (capabilities : List Text) : Calm w (cap w sid subcommand capabilities) := by
  unfold cap
  split
  · exact Calm.refl w
  · next line reply => exact Calm.send (cap_reply_plain reply)

theorem task_list_calm (principal : Principal) (channel : Text) : Calm w (task_list w sid principal channel) := by
  unfold task_list
  dsimp only
  split
  · exact Calm.send rfl
  · exact Calm.foldl (fun _ _ => Calm.send rfl) _ w

/-- A refused task operation tells its session; a successful one posts to the channel of the task. -/
private theorem task_action_effect {e : Event} {principal : Principal} {result : TaskTable × Except Text Task}
    {task_id command action what : Text} (unregistered : registers cfg w e = none)
    (posting : posts cfg w e = result.2.toOption.map (·.channel)) :
    Effect cfg w e (task_action w env sid principal result task_id command action what) := by
  obtain ⟨tasks, outcome⟩ := result
  cases outcome with
  | error reason =>
    have stored : Calm w { w with db := { w.db with tasks := tasks } } :=
      ⟨rfl, rfl, rfl, fun _ => rfl, fun _ => rfl, fun _ => rfl⟩
    exact .calm unregistered posting (stored.trans (Calm.send rfl))
  | ok task =>
    simp only [task_action, broadcast_task_event]
    exact .posted (fun m => .TaskEvent m task action "success".toList principal.nick) unregistered posting (fun _ => rfl)

/-- The step of a command whose handler is behind `ensure_registered`. -/
private theorem registered_effect {command : Command} {handler : World → Principal → World × Except Text Bool}
    (alive : running w sid) (handled : handle_command cfg w env sid command = with_registered w sid handler)
    (unregistered : registers cfg w (.command sid command env) = none)
    (each : ∀ principal, current w sid = some principal →
      posts cfg w (.command sid command env) = stores cfg w.db env principal command →
      Effect cfg w (.command sid command env) (match handler w principal with
        | (w, .ok false) => w
        | (w, .ok true) => finish w env sid
        | (w, .error _) => leave w sid)) :
    Effect cfg w (.command sid command env) (step cfg w (.command sid command env)) := by
  rw [step, if_pos alive, handled]
  rcases with_registered_cases handler with ⟨principal, isCurrent, result⟩ | ⟨notCurrent, calm, stays⟩
  · rw [result]
    exact each principal isCurrent (by simp [posts, alive, isCurrent])
  · exact .calm unregistered (by simp [posts, notCurrent]) (calm_outcome _ calm stays)

/-- The step of a command that presents something for registration. -/
private theorem presented_effect {command : Command} {session : Session} (alive : running w sid)
    (presents : presented (w.connections sid).session command = some session)
    (kept : session.principal = w.principal sid ∧ session.registered = (w.connections sid).session.registered)
    (handled : handle_command cfg w env sid command = (try_register cfg (w.setSession sid session) env sid, .ok false))
    (silent : posts cfg w (.command sid command env) = none) :
    Effect cfg w (.command sid command env) (step cfg w (.command sid command env)) := by
  have here : ((w.setSession sid session).connections sid).session = session := by
    simp [World.setSession, connections_modify]
  have same : Calm w (w.setSession sid session) := Calm.setSession kept.1 kept.2
  rw [step, if_pos alive, handled]
  unfold try_register
  rw [here, db_setSession]
  cases result : authenticating cfg w.db session with
  | none => exact .calm (by simp [registers, presents, result]) silent same
  | some outcome =>
    cases outcome with
    | error reason => exact .calm (by simp [registers, presents, result]) silent (same.trans (Calm.send rfl))
    | ok principal =>
      have fresh : session.registered = false := by
        unfold authenticating at result
        by_cases registered : session.registered = true
        · rw [if_pos registered] at result; cases result
        · simpa using registered
      exact .registered (by simp [registers, alive, presents, result]) silent fresh (by rw [← kept.2, fresh]) kept.1

/-- A command of a session that runs. -/
theorem command_effect (alive : running w sid) (command : Command) :
    Effect cfg w (.command sid command env) (step cfg w (.command sid command env)) := by
  cases command with
  | Pass token => exact presented_effect alive rfl ⟨rfl, rfl⟩ rfl (by simp [posts, stores])
  | Nick nick => exact presented_effect alive rfl ⟨rfl, rfl⟩ rfl (by simp [posts, stores])
  | User user =>
    have same : w.setSession sid (w.connections sid).session = w := by
      simp [World.setSession, World.modify]
    exact presented_effect alive rfl ⟨rfl, rfl⟩ (by rw [same]; rfl) (by simp [posts, stores])
  | Ping token =>
    rw [step, if_pos alive]
    exact .calm (by simp [registers, presented]) (by simp [posts, stores]) (Calm.send rfl)
  | Pong =>
    rw [step, if_pos alive]
    exact .calm (by simp [registers, presented]) (by simp [posts, stores]) (Calm.refl w)
  | Cap subcommand capabilities =>
    rw [step, if_pos alive]
    exact .calm (by simp [registers, presented]) (by simp [posts, stores]) (cap_calm subcommand capabilities)
  | Quit =>
    rw [step, if_pos alive]
    exact finish_effect (by simp [registers, presented]) (by simp [posts, stores]) (Calm.refl w)
  | Unknown name =>
    rw [step, if_pos alive]
    exact .calm (by simp [registers, presented]) (by simp [posts, stores]) (Calm.send rfl)
  | Join channel =>
    refine registered_effect alive rfl (by simp [registers, presented]) ?_
    intro principal _ posting
    exact .joined (by simp [registers, presented]) posting
  | Part channel =>
    refine registered_effect alive rfl (by simp [registers, presented]) ?_
    intro principal _ posting
    exact .parted (by simp [registers, presented]) posting
  | Privmsg target body =>
    refine registered_effect alive rfl (by simp [registers, presented]) ?_
    intro principal _ posting
    by_cases member : is_member w.db principal.id (normalize_channel target) = true
    · simp only [privmsg, if_pos member]
      exact .posted (fun m => .Message m principal.nick false) (by simp [registers, presented])
        (by rw [posting]; simp [stores, member]) (fun _ => rfl)
    · simp only [privmsg, if_neg member]
      exact .calm (by simp [registers, presented]) (by rw [posting]; simp [stores, member]) (Calm.send rfl)
  | History channel after_seq limit =>
    refine registered_effect alive rfl (by simp [registers, presented]) ?_
    intro principal isCurrent posting
    exact .replayed rfl posting (by simp [registers, presented]) isCurrent
  | TaskCreate channel title =>
    refine registered_effect alive rfl (by simp [registers, presented]) ?_
    intro principal _ posting
    simp only [stores] at posting
    by_cases untitled : (trim title).isEmpty = true
    · simp only [task_create, if_pos untitled]
      exact .calm (by simp [registers, presented]) (by rw [posting, if_pos (.inl untitled)]) (Calm.send rfl)
    · by_cases taken : (w.db.tasks.find ("task_".toList ++ env.task_uuid)).isSome = true
      · simp only [task_create, if_neg untitled, create, if_pos taken]
        exact .calm (by simp [registers, presented]) (by rw [posting, if_pos (.inr taken)]) (Calm.modify rfl rfl rfl)
      · simp only [task_create, if_neg untitled, create, if_neg taken, broadcast_task_event]
        exact .posted (fun m => .TaskEvent m _ _ _ principal.nick) (by simp [registers, presented])
          (by rw [posting, if_neg (not_or.mpr ⟨untitled, taken⟩)]) (fun _ => rfl)
  | TaskClaim task_id =>
    refine registered_effect alive rfl (by simp [registers, presented]) ?_
    intro principal _ posting
    exact task_action_effect (by simp [registers, presented]) posting
  | TaskDone task_id =>
    refine registered_effect alive rfl (by simp [registers, presented]) ?_
    intro principal _ posting
    exact task_action_effect (by simp [registers, presented]) posting
  | TaskRelease task_id =>
    refine registered_effect alive rfl (by simp [registers, presented]) ?_
    intro principal _ posting
    exact task_action_effect (by simp [registers, presented]) posting
  | TaskList channel =>
    refine registered_effect alive rfl (by simp [registers, presented]) ?_
    intro principal _ posting
    exact .calm (by simp [registers, presented]) posting (task_list_calm principal _)

theorem step_effect (cfg : Config) (w : World) (e : Event) : Effect cfg w e (step cfg w e) := by
  cases e with
  | connect sid =>
    refine .calm rfl rfl ?_
    rw [step]
    split
    · exact Calm.accept
    · exact Calm.refl w
  | eof sid env =>
    rw [step]
    split
    · exact finish_effect rfl rfl (Calm.refl w)
    · exact .calm rfl rfl (Calm.refl w)
  | shutdown sid env =>
    rw [step]
    split
    · cases (w.connections sid).shutdown with
      | nil => exact .calm rfl rfl (Calm.refl w)
      | cons reason _ => exact finish_effect rfl rfl (Calm.send rfl)
    · exact .calm rfl rfl (Calm.refl w)
  | read_error sid =>
    refine .calm rfl rfl ?_
    rw [step]
    split
    · exact Calm.leave
    · exact Calm.refl w
  | writer_end sid =>
    rw [step]
    exact .calm rfl rfl Calm.writer_end
  | restart => exact .restarted rfl
  | command sid command env =>
    by_cases alive : running w sid
    · exact command_effect alive command
    · rw [step, if_neg alive]
      exact .calm (by simp [registers, alive]) (by simp [posts, alive]) (Calm.refl w)

end Aircd.Server

import Aircd.Cursors

/-!
# Who has authority

A session acts on the server only while it is registered and its handle is the
current one of its principal. Every other session can do no more than queue lines
to itself and change what it presents for its own registration.
-/
namespace Aircd.Server
open Aircd.Text Aircd.Runs Aircd.Protocol Aircd.Auth Aircd.Store

/-- The session is not registered, or its handle is not the current one of its principal. -/
def Powerless (w : World) (sid : SessionId) : Prop :=
  (w.connections sid).session.registered = false ∨
    ∃ principal, w.principal sid = some principal ∧ w.inner.clients principal.id ≠ some ⟨sid⟩

/-- The command completes the registration of the session. -/
def Authenticates (cfg : Config) (w : World) (sid : SessionId) (command : Command) : Prop :=
  ∃ principal, (presented (w.connections sid).session command).bind (authenticating cfg w.db) = some (.ok principal)

/-- The database, the routing and every connection but one are as they were. -/
structure Untouched (w : World) (sid : SessionId) (w' : World) : Prop where
  db : w'.db = w.db
  inner : w'.inner = w.inner
  others : ∀ other, other ≠ sid → w'.connections other = w.connections other

variable {cfg : Config} {w w' w'' : World} {sid sid' : SessionId} {env : Env}

namespace Untouched

theorem refl (w : World) (sid : SessionId) : Untouched w sid w := ⟨rfl, rfl, fun _ _ => rfl⟩

theorem trans (first : Untouched w sid w') (second : Untouched w' sid w'') : Untouched w sid w'' where
  db := second.db.trans first.db
  inner := second.inner.trans first.inner
  others other apart := (second.others other apart).trans (first.others other apart)

theorem modify (change : Connection → Connection) : Untouched w sid (w.modify sid change) where
  db := rfl
  inner := rfl
  others other apart := by rw [connections_modify, if_neg apart]

theorem setSession (session : Session) : Untouched w sid (w.setSession sid session) := modify _

theorem send (line : ServerLine) : Untouched w sid (w.send sid line) where
  db := db_send w sid line
  inner := inner_send w sid line
  others other apart := by rw [connections_send, if_neg (fun both => apart both.1)]

theorem cap (subcommand : Text) (capabilities : List Text) : Untouched w sid (cap w sid subcommand capabilities) := by
  unfold Server.cap
  split
  · exact refl w sid
  · exact send _

end Untouched

theorem Powerless.not_current (powerless : Powerless w sid) : current w sid = none := by
  cases acts : current w sid with
  | none => rfl
  | some principal =>
    obtain ⟨registered, known, active⟩ := current_iff.mp acts
    rcases powerless with fresh | ⟨owner, known', elsewhere⟩
    · rw [fresh] at registered; cases registered
    · rw [known] at known'
      obtain rfl := Option.some.inj known'
      exact absurd active elsewhere

/-- The guard refuses a powerless session, and tells it so. -/
theorem Powerless.with_registered (powerless : Powerless w sid) (handler : World → Principal → World × Except Text Bool) :
    Untouched w sid (with_registered w sid handler).1 := by
  have passive := powerless.not_current
  unfold Server.with_registered ensure_registered
  unfold current at passive
  by_cases registered : (w.connections sid).session.registered = true
  · simp only [if_pos registered] at passive ⊢
    cases known : (w.connections sid).session.principal with
    | none => exact Untouched.refl w sid
    | some principal =>
      rw [known] at passive
      have inactive : ¬ (w.inner.clients principal.id).any (fun client => decide (client.session_id = sid)) = true := by
        simpa [Option.filter] using passive
      simp only [if_neg inactive]
      exact Untouched.send _
  · simp only [if_neg registered]
    exact Untouched.send _

/-- What a session presents without completing its registration stays with it. -/
theorem untouched_try_register {session : Session}
    (refused : ∀ principal, authenticating cfg w.db session ≠ some (.ok principal)) :
    Untouched w sid (try_register cfg (w.setSession sid session) env sid) := by
  have here : ((w.setSession sid session).connections sid).session = session := by
    simp [World.setSession, connections_modify]
  have presents : Untouched w sid (w.setSession sid session) := Untouched.setSession session
  unfold try_register
  rw [here, db_setSession]
  cases outcome : authenticating cfg w.db session with
  | none => exact presents
  | some result =>
    cases result with
    | error reason => exact presents.trans (Untouched.send _)
    | ok principal => exact absurd outcome (refused principal)

/-- A command of a powerless session changes nothing beyond the session itself,
    unless it completes its registration. -/
theorem Powerless.handle_command (powerless : Powerless w sid) (command : Command)
    (refused : ¬ Authenticates cfg w sid command) : Untouched w sid (handle_command cfg w env sid command).1 := by
  cases command with
  | Pass token => exact untouched_try_register (fun principal accepted => refused ⟨principal, accepted⟩)
  | Nick nick => exact untouched_try_register (fun principal accepted => refused ⟨principal, accepted⟩)
  | User user =>
    have same : w.setSession sid (w.connections sid).session = w := by simp [World.setSession, World.modify]
    have kept : Untouched w sid (try_register cfg (w.setSession sid (w.connections sid).session) env sid) :=
      untouched_try_register (fun principal accepted => refused ⟨principal, accepted⟩)
    rwa [same] at kept
  | Ping token => exact Untouched.send _
  | Pong => exact Untouched.refl w sid
  | Cap subcommand capabilities => exact Untouched.cap subcommand capabilities
  | Join channel => exact powerless.with_registered _
  | Part channel => exact powerless.with_registered _
  | Privmsg target body => exact powerless.with_registered _
  | History channel after_seq limit => exact powerless.with_registered _
  | TaskCreate channel title => exact powerless.with_registered _
  | TaskClaim task_id => exact powerless.with_registered _
  | TaskDone task_id => exact powerless.with_registered _
  | TaskRelease task_id => exact powerless.with_registered _
  | TaskList channel => exact powerless.with_registered _
  | Quit => exact Untouched.refl w sid
  | Unknown name => exact Untouched.send _

/-- A session has a principal exactly when it is registered. -/
def Known (w : World) : Prop := ∀ sid, (w.connections sid).session.registered = (w.principal sid).isSome

/-- The disconnect of a powerless session removes no handle but its own. -/
theorem Powerless.disconnect (powerless : Powerless w sid) (known : Known w) : Untouched w sid (disconnect w env sid) := by
  unfold Server.disconnect
  cases speaker : (w.connections sid).session.principal with
  | none => exact Untouched.refl w sid
  | some principal =>
    have inactive : (w.inner.clients principal.id).any (fun client => decide (client.session_id = sid)) = false := by
      rcases powerless with fresh | ⟨owner, known', elsewhere⟩
      · have nobody := known sid
        rw [fresh, World.principal, speaker] at nobody
        cases nobody
      · rw [World.principal, speaker] at known'
        obtain rfl := Option.some.inj known'
        cases found : w.inner.clients principal.id with
        | none => rfl
        | some client =>
          have other : client.session_id ≠ sid := fun same => elsewhere (by rw [found]; cases client; cases same; rfl)
          simp [other]
    simp only [remove_client, inactive]
    exact Untouched.refl w sid

/-! ## Who a session is -/

/-- Who the session is, with whether it is registered. -/
def identity (w : World) (sid : SessionId) : Bool × Option Principal :=
  ((w.connections sid).session.registered, w.principal sid)

theorem Calm.identity (calm : Calm w w') (sid : SessionId) : identity w' sid = identity w sid :=
  Prod.ext (calm.registered sid) (calm.principal sid)

theorem identity_replay_history (who : SessionId) (principal : Principal) (channels : List Text) (after_seq limit : Int)
    (w : World) (sid : SessionId) :
    identity (replay_history w who principal channels after_seq limit) sid = identity w sid := by
  induction channels generalizing w with
  | nil => rfl
  | cons channel rest ih =>
    have page := replay_channel_spec w who principal ⟨channel, after_seq⟩ limit
    have first : identity (replay_channel w who principal after_seq limit channel) sid = identity w sid :=
      Prod.ext (page.registered sid) (page.principal sid)
    exact (ih _).trans first

/-- One event changes who a session is only by registering it. -/
theorem identity_effect {e : Event} (effect : Effect cfg w e w') (sid : SessionId) :
    identity w' sid = identity w sid ∨
      ((w.connections sid).session.registered = false ∧ ∃ principal, identity w' sid = (true, some principal)) := by
  cases effect with
  | calm _ _ same => exact .inl (same.identity sid)
  | @registered who principal env session _ _ fresh before unknown =>
    have spec := register_spec (w.setSession who session) env who principal
    have presents : Calm w (w.setSession who session) := Calm.setSession unknown (by rw [fresh, before])
    by_cases here : sid = who
    · subst here
      refine .inr ⟨before, principal, Prod.ext ?_ ?_⟩
      · exact (spec.registered sid).trans (if_pos rfl)
      · exact (spec.principal sid).trans (if_pos rfl)
    · refine .inl (Eq.trans (Prod.ext ?_ ?_) (presents.identity sid))
      · exact (spec.registered sid).trans (if_neg here)
      · exact (spec.principal sid).trans (if_neg here)
  | @joined principal env channel =>
    have routing : identity { w with
        db := add_membership w.db env.now principal.id channel
        inner := add_member w.inner principal.id channel } sid = identity w sid := rfl
    have told : Calm _ (join w env principal channel) := Calm.broadcast_raw rfl
    exact .inl ((told.identity sid).trans routing)
  | @parted principal channel =>
    have routing : identity { w with
        db := remove_membership w.db principal.id channel
        inner := remove_member w.inner principal.id channel } sid = identity w sid := rfl
    have told : Calm _ (part w principal channel) := Calm.broadcast_raw rfl
    exact .inl ((told.identity sid).trans routing)
  | @posted env tasks channel sender_id body line _ _ carries =>
    have spec : Posted w (Server.posted w tasks env channel sender_id body line) channel _ := posted_spec carries
    exact .inl (Prod.ext (spec.registered sid) (spec.principal sid))
  | replayed => exact .inl (identity_replay_history _ _ _ _ _ w sid)
  | @left _ who principal before _ _ same after =>
    have removed : identity (remove_client before who principal.id).1 sid = identity before sid := by
      unfold remove_client
      split
      · rfl
      · rfl
    exact .inl ((after.identity sid).trans (removed.trans (same.identity sid)))
  | restarted =>
    have kept := (@connections_restart cfg w sid).1
    exact .inl (Prod.ext (congrArg Session.registered kept) (congrArg Session.principal kept))

theorem Known.step (known : Known w) (e : Event) : Known (step cfg w e) := by
  intro sid
  rcases identity_effect (step_effect cfg w e) sid with same | ⟨_, principal, registered⟩
  · obtain ⟨flag, who⟩ := Prod.mk.inj same
    rw [flag, who]
    exact known sid
  · obtain ⟨flag, who⟩ := Prod.mk.inj registered
    rw [flag, who]
    rfl

/-- A registered session stays who it is. -/
theorem registered_step {principal : Principal} (registered : identity w sid = (true, some principal)) (e : Event) :
    identity (step cfg w e) sid = (true, some principal) := by
  rcases identity_effect (step_effect cfg w e) sid with same | ⟨fresh, _⟩
  · exact same.trans registered
  · rw [(Prod.mk.inj registered).1] at fresh
    cases fresh

theorem ensure_registered_iff : (ensure_registered w sid).2 = .ok true ↔ ∃ principal, current w sid = some principal := by
  unfold ensure_registered current
  by_cases registered : (w.connections sid).session.registered = true
  · simp only [if_pos registered]
    cases known : (w.connections sid).session.principal with
    | none => simp
    | some principal =>
      by_cases active : (w.inner.clients principal.id).any (fun client => decide (client.session_id = sid)) = true
      · simp [Option.filter, active]
      · simp [Option.filter, active]
  · simp only [if_neg registered]
    simp

/-- In every reached state a session without authority leaves the tables, the routing
    and the other sessions alone, by its commands (short of completing its own
    registration) and by its disconnect; a registered session stays the principal
    it is; and one session at most passes the guard for a principal. -/
theorem only_current_acts (cfg : Config) (db : Db) (events : List Event) :
    let w := run (step cfg) (start db) events
    (∀ sid, Powerless w sid →
      (∀ command env, ¬ Authenticates cfg w sid command → Untouched w sid (handle_command cfg w env sid command).1) ∧
      ∀ env, Untouched w sid (disconnect w env sid)) ∧
    (∀ sid principal, (w.connections sid).session.registered = true → w.principal sid = some principal →
      ∀ later, let w' := run (step cfg) w later
        (w'.connections sid).session.registered = true ∧ w'.principal sid = some principal) ∧
    (∀ sid sid' principal principal', (ensure_registered w sid).2 = .ok true → (ensure_registered w sid').2 = .ok true →
      w.principal sid = some principal → w.principal sid' = some principal' → principal.id = principal'.id → sid = sid') := by
  intro w
  have known : Known w := run_invariant (fun _ e inv => inv.step e) events (fun _ => rfl)
  refine ⟨?_, ?_, ?_⟩
  · intro sid powerless
    exact ⟨fun command env refused => powerless.handle_command command refused, fun env => powerless.disconnect known⟩
  · intro sid principal registered speaker later w'
    have stays : identity w' sid = (true, some principal) :=
      @run_invariant _ _ (step cfg) (fun w => identity w sid = (true, some principal))
        (fun _ e inv => registered_step inv e) later _ (Prod.ext registered speaker)
    exact Prod.mk.inj stays
  · intro sid sid' principal principal' passes passes' speaker speaker' same
    obtain ⟨owner, acts⟩ := ensure_registered_iff.mp passes
    obtain ⟨owner', acts'⟩ := ensure_registered_iff.mp passes'
    obtain ⟨_, speaks, active⟩ := current_iff.mp acts
    obtain ⟨_, speaks', active'⟩ := current_iff.mp acts'
    rw [speaker] at speaks
    rw [speaker'] at speaks'
    cases speaks
    cases speaks'
    rw [same, active'] at active
    cases active
    rfl

end Aircd.Server

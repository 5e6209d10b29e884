import Aircd.Sections
import Aircd.Work

/-!
# One command at a time

The server of whole commands is the server of sections whose tasks nobody
interrupts: the sections that a command leads to, performed one after the other
on their own, do to the world what its handler does.
-/
namespace Aircd.Concurrent
open Aircd.Text Aircd.Protocol Aircd.Auth Aircd.History Aircd.Tasks Aircd.Store Aircd.Server Aircd.Work

/-- A section, with the session and the moment first. -/
def alone (cfg : Config) (env : Env) (sid : SessionId) (w : World) (here : Section) : World × List Section :=
  perform cfg w env sid here

/-- The task of a session performs these sections alone, in one moment. -/
abbrev Does (cfg : Config) (env : Env) (sid : SessionId) : World → List Section → World → Prop :=
  Finishes (alone cfg env sid)

/-- What the loop of `handle_stream` makes of the result of a command. -/
def conclude (env : Env) (sid : SessionId) : World × Except Text Bool → World
  | (w, .ok false) => w
  | (w, .ok true) => Server.finish w env sid
  | (w, .error _) => Server.leave w sid

variable {cfg : Config} {env : Env} {sid : SessionId}

/-! ## The loops -/

theorem does_send (w : World) (line : ServerLine) : Does cfg env sid w [.send line] (w.send sid line) :=
  .first (.nothing _)

theorem does_sends {Element : Type} (line : Element → ServerLine) (elements : List Element) (w : World) :
    Does cfg env sid w (elements.map (fun x => .send (line x))) (elements.foldl (fun w x => w.send sid (line x)) w) :=
  finishes_foldl (fun w x => does_send w (line x)) elements w

theorem does_broadcast_raw (w : World) (channel : Text) (line : ServerLine) :
    Does cfg env sid w [.broadcast_raw channel line] (Server.broadcast_raw w channel line) :=
  finishes_one (finishes_foldl (fun _ _ => .first (.nothing _)) _ w)

theorem does_deliver (w : World) (channel : Text) (message : StoredMessage) (notice : Notice) (recipient : Text × ClientHandle) :
    Does cfg env sid w [.deliver channel message notice recipient]
      (Server.deliver w channel (notice.line message) message.seq recipient) := by
  apply finishes_one
  rw [alone, perform_deliver, Server.deliver, tx_send_eq]
  by_cases alive : w.open recipient.2.session_id
  · simp only [alive, ↓reduceIte]
    exact .first (.nothing _)
  · simp only [alive, ↓reduceIte]
    exact .nothing _

theorem does_broadcast_message (w : World) (channel : Text) (message : StoredMessage) (notice : Notice) :
    Does cfg env sid w [.broadcast_message channel message notice]
      (Server.broadcast_message w channel (notice.line message) message.seq) :=
  finishes_one (finishes_foldl (fun w recipient => does_deliver w channel message notice recipient) _ w)

theorem does_append (w : World) (channel sender_id body : Text) (notice : Notice) :
    Does cfg env sid w [.append channel sender_id body notice]
      (Server.broadcast_message (append_message w env channel sender_id body).1 channel
        (notice.line (append_message w env channel sender_id body).2) (append_message w env channel sender_id body).2.seq) :=
  finishes_one (does_broadcast_message _ channel _ notice)

/-- A turn of the loop of `replay_history`. The names are read while the lines
    are sent, which changes no row of the database. -/
theorem does_history (w : World) (principal : Principal) (channel : Text) (after_seq limit : Int) :
    Does cfg env sid w [.history principal channel after_seq limit]
      (replay_channel w sid principal after_seq limit channel) := by
  have named (w : World) (message : StoredMessage) : Does cfg env sid w [.display_name message]
      (w.send sid (.Message message (Store.display_name w.db message.sender_id) true)) := .first (.first (.nothing _))
  apply finishes_one
  refine finishes_append (finishes_foldl named _ w) ?_
  simp only [replay_channel]
  split
  · exact .first (.nothing _)
  · exact .nothing _

/-! ## The handlers -/

theorem does_insert_client (w : World) (principal : Principal) (memberships : List Membership) :
    Does cfg env sid w [.insert_client principal memberships]
      (let w := Server.insert_client w sid principal.id (memberships.map (·.channel))
        let w := w.send sid (.Registered principal.nick principal.team)
        let w := (memberships.map (·.channel)).foldl (fun w channel => w.send sid (.Join principal.nick channel)) w
        if memberships.isEmpty then w
        else memberships.foldl (fun w membership =>
            replay_history w sid principal [membership.channel] membership.last_seen_seq 200)
          (w.send sid (.Replaying principal.nick memberships.length))) := by
  apply finishes_one
  refine finishes_append (finishes_append (does_send _ _)
    (does_sends (fun membership : Membership => .Join principal.nick membership.channel) memberships _)) ?_
  simp only [List.foldl_map]
  by_cases none : memberships.isEmpty = true
  · simp only [none, ↓reduceIte]
    exact .nothing _
  · simp only [none]
    exact finishes_cons (does_send _ _)
      (finishes_foldl (fun w membership => does_history w principal membership.channel membership.last_seen_seq 200) _ _)

theorem does_try_register (w : World) : Does cfg env sid w [.try_register] (Server.try_register cfg w env sid) := by
  apply finishes_one
  simp only [alone, perform, Server.try_register]
  cases authenticating cfg w.db (w.connections sid).session with
  | none => exact .nothing _
  | some outcome =>
    cases outcome with
    | error reason => exact .first (.nothing _)
    | ok principal => exact .first (does_insert_client _ principal _)

theorem does_join (w : World) (principal : Principal) (channel : Text) :
    Does cfg env sid w [.add_membership principal channel] (Server.join w env principal channel) :=
  finishes_one (finishes_one (does_broadcast_raw _ channel _))

theorem does_part (w : World) (principal : Principal) (channel : Text) :
    Does cfg env sid w [.remove_membership principal channel] (Server.part w principal channel) :=
  finishes_one (finishes_one (does_broadcast_raw _ channel _))

theorem does_privmsg (w : World) (principal : Principal) (channel body : Text) :
    Does cfg env sid w [.is_member principal channel body] (Server.privmsg w env sid principal channel body) := by
  apply finishes_one
  simp only [alone, perform, Server.privmsg]
  split
  · exact does_append w channel principal.id body _
  · exact does_send w _

theorem does_task_create (w : World) (principal : Principal) (channel title : Text) :
    Does cfg env sid w (handler principal (.TaskCreate channel title))
      (conclude env sid (Server.task_create w env sid principal (normalize_channel channel) title)) := by
  simp only [handler, Server.task_create]
  split
  · exact does_send w _
  · apply finishes_one
    simp only [alone, perform]
    obtain ⟨tasks, outcome⟩ := create w.db.tasks ("task_".toList ++ env.task_uuid) (normalize_channel channel) (trim title) env.now
    cases outcome with
    | error reason => exact .first (.nothing _)
    | ok task => exact does_append _ _ _ _ _

/-- The common end of the three operations on a task. -/
theorem does_task_result (w : World) (principal : Principal) (result : TaskTable × Except Text Task)
    (task_id command action what : Text) :
    Does cfg env sid (task_result w principal result task_id command action what).1
      (task_result w principal result task_id command action what).2
      (task_action w env sid principal result task_id command action what) := by
  obtain ⟨tasks, outcome⟩ := result
  cases outcome with
  | error reason => exact does_send _ _
  | ok task => exact does_append _ _ _ _ _

theorem does_task_list (w : World) (principal : Principal) (channel : Text) :
    Does cfg env sid w [.task_list principal channel] (Server.task_list w sid principal channel) := by
  apply finishes_one
  simp only [alone, perform, Server.task_list]
  split
  · exact does_send w _
  · exact does_sends (fun task => .TaskRow principal.nick task) _ w

/-- What a command does behind `ensure_registered`. -/
theorem does_registered {command : Command} {handles : World → Principal → World × Except Text Bool}
    (each : ∀ w principal, Does cfg env sid w (handler principal command) (conclude env sid (handles w principal)))
    (w : World) : Does cfg env sid w [.ensure_registered command] (conclude env sid (with_registered w sid handles)) := by
  apply finishes_one
  simp only [alone, perform, with_registered, Server.ensure_registered, World.principal]
  split
  · cases identity : (w.connections sid).session.principal with
    | none => exact .first (.nothing _)
    | some principal =>
      by_cases current : (w.inner.clients principal.id).any (fun client => decide (client.session_id = sid)) = true
      · simp only [current, ↓reduceIte, identity]
        exact each w principal
      · simp only [current]
        exact .first (.first (.nothing _))
  · exact does_send w _

theorem does_disconnect (w : World) : Does cfg env sid w (disconnect w sid) (Server.finish w env sid) := by
  simp only [disconnect, Server.finish, Server.disconnect, World.principal]
  cases (w.connections sid).session.principal with
  | none => exact .first (.nothing _)
  | some principal =>
    apply finishes_one
    simp only [alone, perform]
    obtain ⟨w', removed⟩ := Server.remove_client w sid principal.id
    cases removed with
    | true => exact .first (.first (.nothing _))
    | false => exact .first (.nothing _)

/-- A command leads to the sections that together do what its handler does. -/
theorem does_command (w : World) (command : Command) :
    Does cfg env sid (handle_command w sid command).1 (handle_command w sid command).2
      (conclude env sid (Server.handle_command cfg w env sid command)) := by
  cases command with
  | Pass token => exact does_try_register _
  | Nick nick => exact does_try_register _
  | User user => exact does_try_register w
  | Ping token => exact does_send w _
  | Pong => exact .nothing w
  | Cap subcommand capabilities =>
    simp only [handle_command, Server.handle_command, conclude, Server.cap]
    cases cap_reply ((w.connections sid).session.nick.getD ['*']) subcommand capabilities with
    | none => exact .nothing w
    | some line => exact does_send w line
  | Join channel => exact does_registered (fun w principal => does_join w principal _) w
  | Part channel => exact does_registered (fun w principal => does_part w principal _) w
  | Privmsg target body => exact does_registered (fun w principal => does_privmsg w principal _ body) w
  | History channel after_seq limit =>
    refine does_registered (fun w principal => ?_) w
    cases channel with
    | some channel => exact does_history w principal _ after_seq limit
    | none =>
      apply finishes_one
      simp only [conclude, replay_history, List.foldl_map]
      exact finishes_foldl (fun w membership => does_history w principal membership.channel after_seq limit) _ w
  | TaskCreate channel title => exact does_registered (fun w principal => does_task_create w principal channel title) w
  | TaskClaim task_id => exact does_registered (fun w principal => finishes_one (does_task_result w principal _ task_id _ _ _)) w
  | TaskDone task_id => exact does_registered (fun w principal => finishes_one (does_task_result w principal _ task_id _ _ _)) w
  | TaskRelease task_id => exact does_registered (fun w principal => finishes_one (does_task_result w principal _ task_id _ _ _)) w
  | TaskList channel => exact does_registered (fun w principal => does_task_list w principal _) w
  | Quit => exact does_disconnect w
  | Unknown name => exact does_send w _

/-! ## Runs -/

/-- The event of the server of sections that begins what one of the server of whole commands does. -/
def beginning : Server.Event → Event
  | .connect sid => .connect sid
  | .command sid command _ => .receive sid command
  | .eof sid _ => .eof sid
  | .shutdown sid _ => .shutdown sid
  | .read_error sid => .read_error sid
  | .writer_end sid => .writer_end sid
  | .restart => .restart

def Event.is_turn : Event → Bool
  | .run _ _ => true
  | _ => false

/-- Nobody has anything left to do. -/
def quiet (w : World) : System := ⟨w, fun _ => []⟩

@[simp] theorem world_quiet (w : World) : (quiet w).world = w := rfl
@[simp] theorem threads_quiet (w : World) : (quiet w).threads sid = [] := rfl

theorem idle_quiet {w : World} : (quiet w).idle sid = true ↔ running w sid := by
  simp only [System.idle, threads_quiet, List.isEmpty_nil, Bool.and_true]
  exact decide_eq_true_iff

/-- The turns in which one task, on its own, does what it has to do. -/
theorem does_in_turns {w w' : World} {work : List Section} (does : Does cfg env sid w work w') :
    ∃ n, Runs.run (step cfg) ((quiet w).resume sid (w, work)) (List.replicate n (.run sid env)) = quiet w' := by
  induction does with
  | nothing w => exact ⟨0, by simp [quiet, System.resume]⟩
  | @first w w' here rest later ih =>
    obtain ⟨n, ends⟩ := ih
    refine ⟨n + 1, ?_⟩
    have head : ((quiet w).resume sid (w, here :: rest)).threads sid = here :: rest := by simp
    have turn : step cfg ((quiet w).resume sid (w, here :: rest)) (.run sid env) =
        (quiet (alone cfg env sid w here).1).resume sid
          ((alone cfg env sid w here).1, (alone cfg env sid w here).2 ++ rest) := by
      rw [step_run head]
      simp [quiet, System.resume, alone]
    rw [List.replicate_succ, Runs.run_cons, turn, ends]

/-- An event of the server of whole commands, on a server whose tasks all wait. -/
theorem event_in_turns (cfg : Config) (w : World) (e : Server.Event) :
    ∃ n sid env, Runs.run (step cfg) (quiet w) (beginning e :: List.replicate n (.run sid env)) =
      quiet (Server.step cfg w e) := by
  have once {e : Event} {w' : World} (same : step cfg (quiet w) e = quiet w') :
      ∃ n sid env, Runs.run (step cfg) (quiet w) (e :: List.replicate n (.run sid env)) = quiet w' :=
    ⟨0, 0, moment 0, same⟩
  have works {e : Event} {sid : SessionId} {env : Env} {next : World × List Section} {w' : World}
      (begins : step cfg (quiet w) e = (quiet w).resume sid next) (does : Does cfg env sid next.1 next.2 w') :
      ∃ n sid env, Runs.run (step cfg) (quiet w) (e :: List.replicate n (.run sid env)) = quiet w' := by
    obtain ⟨n, ends⟩ := does_in_turns does
    refine ⟨n, sid, env, ?_⟩
    rw [Runs.run_cons, begins]
    exact ends
  cases e with
  | connect sid =>
    apply once
    by_cases unused : (w.connections sid).phase = .Unused
    · simp only [beginning, step, Server.step, world_quiet, unused, ↓reduceIte]
      rfl
    · simp only [beginning, step, Server.step, world_quiet, unused, ↓reduceIte]
  | command sid command env =>
    by_cases up : running w sid
    · have concluded : Server.step cfg w (.command sid command env) =
          conclude env sid (Server.handle_command cfg w env sid command) := by
        simp only [Server.step, up, ↓reduceIte]
        rfl
      rw [concluded]
      refine works ?_ (does_command w command)
      simp only [beginning, step, idle_quiet, up, ↓reduceIte, world_quiet]
    · apply once
      simp only [beginning, step, idle_quiet, Server.step, up, ↓reduceIte]
  | eof sid env =>
    by_cases up : running w sid
    · simp only [Server.step, up, ↓reduceIte]
      refine @works _ sid env (w, disconnect w sid) _ ?_ (does_disconnect w)
      simp only [beginning, step, idle_quiet, up, ↓reduceIte, world_quiet]
    · apply once
      simp only [beginning, step, idle_quiet, Server.step, up, ↓reduceIte]
  | shutdown sid env =>
    cases reasons : (w.connections sid).shutdown with
    | nil =>
      apply once
      simp only [beginning, step, Server.step, world_quiet, reasons, ite_self]
    | cons reason later =>
      by_cases up : running w sid
      · have same : disconnect (w.send sid (.Error reason)) sid = disconnect w sid := by
          rw [disconnect, disconnect, principal_send]
        have closes : Does cfg env sid (w.send sid (.Error reason)) (disconnect w sid)
            (Server.finish (w.send sid (.Error reason)) env sid) := same ▸ does_disconnect (w.send sid (.Error reason))
        simp only [Server.step, up, ↓reduceIte, reasons]
        refine @works _ sid env (w, .send (.Error reason) :: disconnect w sid) _ ?_
          (finishes_cons (does_send w (.Error reason)) closes)
        simp only [beginning, step, idle_quiet, up, ↓reduceIte, world_quiet, reasons]
      · apply once
        simp only [beginning, step, idle_quiet, Server.step, up, ↓reduceIte, world_quiet, reasons]
  | read_error sid =>
    apply once
    by_cases up : running w sid
    · simp only [beginning, step, idle_quiet, Server.step, up, ↓reduceIte, world_quiet]
      rfl
    · simp only [beginning, step, idle_quiet, Server.step, up, ↓reduceIte]
  | writer_end sid => exact once rfl
  | restart => exact once rfl

/-- Every run of the server of whole commands is a run of the server of sections,
    on the same lines and the same ends of connections in the same order. -/
theorem serial_runs_interleave (cfg : Config) (w : World) (events : List Server.Event) :
    ∃ schedule : List Event, schedule.filter (fun e => !e.is_turn) = events.map beginning ∧
      Runs.run (step cfg) (quiet w) schedule = quiet (Runs.run (Server.step cfg) w events) := by
  induction events generalizing w with
  | nil => exact ⟨[], rfl, rfl⟩
  | cons e rest ih =>
    obtain ⟨n, sid, env, here⟩ := event_in_turns cfg w e
    obtain ⟨schedule, inputs, later⟩ := ih (Server.step cfg w e)
    refine ⟨beginning e :: List.replicate n (.run sid env) ++ schedule, ?_, ?_⟩
    · have input : (beginning e).is_turn = false := by
        cases e with
        | _ => rfl
      have turns : (List.replicate n (Event.run sid env)).filter (fun e => !e.is_turn) = [] := by simp [Event.is_turn]
      simp only [List.cons_append, List.filter_cons, List.filter_append, input, turns, inputs, Bool.not_false, ↓reduceIte,
        List.nil_append, List.map_cons]
    · rw [Runs.run_append, here, Runs.run_cons]
      exact later

end Aircd.Concurrent

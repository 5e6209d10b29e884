import Aircd.LineBreaks

/-!
# Lines that their content splits

Every line that the server queues is one line as long as no text with a CR goes
into a line that echoes it: the token of a PING, the body of a PRIVMSG and the
title of a task are taken from a trailing parameter and written as they are, and
so are the ids of principals where a task is listed or a session is replaced.
-/
namespace Aircd.Concurrent
open Aircd.Runs Aircd.Text Aircd.Utf8 Aircd.Protocol Aircd.Auth Aircd.History Aircd.Tasks Aircd.Store Aircd.Server

/-- The trailing parameter that an event takes over for a line. -/
def trailing (s : System) : Event → Option Text
  | .receive sid (.Ping token) => if s.idle sid then some token else none
  | .run sid _ => (s.threads sid).head?.bind Section.trailing
  | _ => none

/-- The texts with ids of principals that an event takes over for a line. -/
def shown (s : System) : Event → List Text
  | .shutdown sid => if s.idle sid then (s.world.connections sid).shutdown.take 1 else []
  | .run sid _ => (s.threads sid).head?.toList.flatMap (·.holders s.world)
  | _ => []

/-- The event takes no text that breaks a line into one. -/
def Unsplit (s : System) (e : Event) : Prop := (∀ text ∈ trailing s e, '\r' ∉ text) ∧ ∀ text ∈ shown s e, Unbroken text

instance (s : System) (e : Event) : Decidable (Unsplit s e) := inferInstanceAs (Decidable (_ ∧ _))

/-- What an event brings with it: a framed command, or a UUID. -/
def Event.Framed : Event → Prop
  | .receive _ command => command.Framed
  | .run _ env => Unbroken env.task_uuid
  | _ => True

/-- Every text that the server has and that a line can show fits in a line, with
    the names of the senders as they were at the start. -/
structure Clean (names : Text → Text) (s : System) : Prop where
  named : Store.display_name s.world.db = names
  people : ∀ principal ∈ people s.world.db, Presentable principal
  introduced : Introduced (Concurrent.people s.world.db) s
  stored : Stored names s.world.db
  nicks : ∀ sid, ∀ nick ∈ (s.world.connections sid).session.nick, Unbroken nick
  sections : ∀ sid, ∀ x ∈ s.threads sid, x.Framed names
  lines : ∀ sid, ∀ line ∈ (s.world.connections sid).lines, Unbroken line.rest

variable {cfg : Config} {s : System} {w : World} {env : Env} {sid sid' : SessionId} {x here : Section}
  {names : Text → Text} {e : Event}

/-! ## One event -/

theorem Unsplit.whole {rest : List Section} (unsplit : Unsplit s (.run sid env)) (head : s.threads sid = here :: rest) :
    here.Whole s.world := by
  refine ⟨fun text taken => unsplit.1 text ?_, fun holder listed => unsplit.2 holder ?_⟩
  · simpa [trailing, head] using taken
  · simpa [shown, head] using listed

/-- The nick of a session is one that it sent or that of its principal. -/
theorem nick_step (cfg : Config) (s : System) (e : Event) (sid : SessionId) :
    ((step cfg s e).world.connections sid).session.nick = (s.world.connections sid).session.nick ∨
    (∃ nick, e = .receive sid (.Nick nick) ∧ ((step cfg s e).world.connections sid).session.nick = some nick) ∨
    ∃ principal ∈ people s.world.db, ((step cfg s e).world.connections sid).session.nick = some principal.nick := by
  have changed (task : SessionId) (change : Connection → Connection)
      (keeps : ∀ connection, (change connection).session.nick = connection.session.nick) :
      ((s.world.modify task change).connections sid).session.nick = (s.world.connections sid).session.nick := by
    rw [connections_modify]
    split
    · next here => rw [keeps, here]
    · rfl
  cases e with
  | run task env =>
    cases head : s.threads task with
    | nil => rw [step_run_idle head]; exact .inl rfl
    | cons here rest =>
      rw [step_run head]
      rcases @session_perform cfg s.world env task sid here with same | ⟨_, _, principal, listed, _, session⟩
      · exact .inl (congrArg Session.nick same)
      · exact .inr (.inr ⟨principal, listed, congrArg Session.nick session⟩)
  | restart => exact .inl (congrArg Session.nick (@connections_restart cfg _ sid).1)
  | connect task =>
    left
    simp only [step]
    split
    · have begun := changed task (fun connection => { connection with phase := .Running, writer := true }) (fun _ => rfl)
      rw [accept, connections_send]
      split
      · next here => rw [here.1] at begun ⊢; exact begun
      · exact begun
    · rfl
  | receive task command =>
    simp only [step]
    split
    · cases command with
      | Pass token =>
        left
        simp only [world_resume, handle_command, World.setSession, connections_modify]
        split
        · next here => rw [here]
        · rfl
      | Nick nick =>
        simp only [world_resume, handle_command, World.setSession, connections_modify]
        split
        · next here => exact .inr (.inl ⟨nick, by rw [here], rfl⟩)
        · exact .inl rfl
      | _ => exact .inl rfl
    · exact .inl rfl
  | eof task =>
    left
    simp only [step]
    split
    · rfl
    · rfl
  | shutdown task =>
    left
    simp only [step]
    split
    · rfl
    split
    · rfl
    · rfl
  | read_error task =>
    left
    simp only [step]
    split
    · exact changed task (fun connection => { connection with phase := .Ended }) (fun _ => rfl)
    · rfl
  | writer_end task => exact .inl (changed task (fun connection => { connection with writer := false }) (fun _ => rfl))

/-- Only a section queues anything but the line that welcomes a connection. -/
theorem unbroken_lines_step (inv : Clean names s) {line : ServerLine}
    (inside : line ∈ ((step cfg s e).world.connections sid).lines) : Unbroken line.rest := by
  rcases stepped cfg s e with ⟨task, env, here, rest, rfl, head⟩ | idle | notRun
  · have framed := inv.sections task here (by rw [head]; exact List.mem_cons_self)
    rw [step_run head, world_resume, lines_perform] at inside
    rcases List.mem_append.mp inside with before | new
    · exact inv.lines sid line before
    · obtain ⟨sent, found, rfl⟩ := List.mem_map.mp new
      have sends := (Option.filter_eq_some_iff.mp (Option.mem_toList.mp found)).1
      cases here with
      | send line => cases sends; exact framed
      | forward client line => cases sends; exact framed
      | deliver channel message notice recipient => cases sends; exact framed
      | _ => cases sends
  · rw [idle] at inside; exact inv.lines sid line inside
  · obtain ⟨more, queued, welcomes⟩ := lines_step_other cfg s sid notRun
    rw [queued] at inside
    rcases List.mem_append.mp inside with before | new
    · exact inv.lines sid line before
    · rw [welcomes line new]
      decide

/-- The sections that an event leaves are framed. -/
theorem framed_step (inv : Clean names s) (framed : e.Framed) (unsplit : Unsplit s e)
    (inside : x ∈ (step cfg s e).threads sid) : x.Framed names := by
  have old (inside : x ∈ s.threads sid) : x.Framed names := inv.sections sid x inside
  have resumed {task : SessionId} {next : World × List Section} (inside : x ∈ (s.resume task next).threads sid)
      (begins : x ∈ next.2 → x.Framed names) : x.Framed names := by
    rw [threads_resume] at inside
    split at inside
    · exact begins inside
    · exact old inside
  cases e with
  | run task env =>
    cases head : s.threads task with
    | nil => rw [step_run_idle head] at inside; exact old inside
    | cons here rest =>
      have pending : here ∈ s.threads task := by rw [head]; exact List.mem_cons_self
      rw [step_run head] at inside
      apply resumed inside
      intro more
      rcases List.mem_append.mp more with new | later
      · have whole := unsplit.whole head
        obtain ⟨rfl, people, introduced, stored, _, sections, _⟩ := inv
        exact framed_perform (sections task here pending) whole framed stored people (introduced.sections task here pending)
          (introduced.sessions task) new
      · exact inv.sections task x (by rw [head]; exact List.mem_cons_of_mem here later)
  | connect task =>
    simp only [step] at inside
    split at inside
    · exact old inside
    · exact old inside
  | receive task command =>
    simp only [step] at inside
    split at inside
    · next idle =>
      apply resumed inside
      apply framed_handle_command framed ?_ (inv.nicks task)
      rintro token rfl
      exact unsplit.1 token (if_pos idle)
    · exact old inside
  | eof task =>
    simp only [step] at inside
    split at inside
    · exact resumed inside framed_disconnect
    · exact old inside
  | shutdown task =>
    simp only [step] at inside
    split at inside
    · exact old inside
    · next reason _ pending =>
      split at inside
      · next idle =>
        apply resumed inside
        intro begins
        rcases List.mem_cons.mp begins with rfl | later
        · exact unbroken_format_line.mpr ⟨by decide, by decide, unsplit.2 reason (by simp [shown, idle, pending])⟩
        · exact framed_disconnect later
      · exact old inside
  | read_error task =>
    simp only [step] at inside
    split at inside
    · exact old inside
    · exact old inside
  | writer_end task => exact old inside
  | restart => cases inside

theorem stored_step (inv : Clean names s) (framed : e.Framed) (unsplit : Unsplit s e) :
    Stored names (step cfg s e).world.db := by
  rcases stepped cfg s e with ⟨task, env, here, rest, rfl, head⟩ | idle | notRun
  · have pending : here ∈ s.threads task := by rw [head]; exact List.mem_cons_self
    rw [step_run head]
    exact inv.stored.perform (inv.sections task here pending) (unsplit.whole head) framed
  · rw [idle]; exact inv.stored
  · rw [db_step_other cfg s notRun]
    exact inv.stored

theorem Clean.step (inv : Clean names s) (framed : e.Framed) (unsplit : Unsplit s e) : Clean names (step cfg s e) where
  named := (display_name_people (people_step cfg s e)).trans inv.named
  people := by rw [people_step]; exact inv.people
  introduced := by rw [people_step]; exact inv.introduced.step
  stored := stored_step inv framed unsplit
  nicks sid nick known := by
    rcases nick_step cfg s e sid with same | ⟨sent, rfl, now⟩ | ⟨principal, listed, now⟩
    · rw [same] at known; exact inv.nicks sid nick known
    · rw [now] at known; cases known; exact framed
    · rw [now] at known; cases known; exact (inv.people principal listed).1
  sections _ _ inside := framed_step inv framed unsplit inside
  lines _ _ inside := unbroken_lines_step inv inside

/-! ## Whole runs -/

theorem clean_start {db : Db} (people : ∀ principal ∈ Concurrent.people db, Presentable principal)
    (stored : Stored (Store.display_name db) db) : Clean (Store.display_name db) (start db) where
  named := rfl
  people := people
  introduced := introduced_run plain db []
  stored := stored
  nicks _ _ known := by cases known
  sections _ _ inside := by cases inside
  lines _ _ inside := by cases inside

/-- In every run whose commands are read from streams of UTF-8, with principals and
    stored texts that fit in a line, no line that is queued can be split as long as no
    event takes a text with a line break into one. -/
theorem lines_unsplit (cfg : Config) (db : Db) (streams : SessionId → Text) (events : List Event)
    (people : ∀ principal ∈ Concurrent.people db, Unbroken principal.nick ∧ ∀ team ∈ principal.team, Unbroken team)
    (stored : Stored (Store.display_name db) db)
    (sent : ∀ sid command, .receive sid command ∈ events → some command ∈ commands (encode (streams sid)))
    (uuids : ∀ sid env, .run sid env ∈ events → Unbroken env.task_uuid)
    (unsplit : AllSteps (step cfg) Unsplit (start db) events) :
    ∀ sid, ∀ line ∈ ((run (step cfg) (start db) events).world.connections sid).lines, Unbroken line.text := by
  have framed : ∀ e ∈ events, e.Framed := by
    intro e inside
    cases e with
    | receive sid command => exact framed_of_mem_commands (sent sid command inside)
    | run sid env => exact uuids sid env inside
    | _ => trivial
  have allowed := allSteps_and (@allSteps_of_forall _ _ (step cfg) Event.Framed events (start db) framed) unsplit
  have kept (s : System) (e : Event) (inv : Clean (Store.display_name db) s) (both : e.Framed ∧ Unsplit s e) :
      Clean (Store.display_name db) (Concurrent.step cfg s e) := inv.step both.1 both.2
  have clean := run_invariant_of kept events (clean_start people stored) allowed
  intro sid line inside
  exact unbroken_text (clean.lines sid line inside)

/-! ### Two people in one channel -/

def spoken (body : Text) : Text := "PASS a\nNICK alice\nPRIVMSG #c :".toList ++ body ++ ['\n']

/-- What alice and bob send. -/
def streams (body : Text) (sid : SessionId) : Text :=
  if sid = 0 then spoken body else "PASS b\nNICK bob\n".toList

/-- Alice sends a message to bob. -/
def exchange (body : Text) : List Event :=
  arrival 0 "alice".toList "a".toList ++ sections 0 10 0 ++ arrival 1 "bob".toList "b".toList ++ sections 1 10 0 ++
    [.receive 0 (.Privmsg "#c".toList body)] ++ sections 0 8 1

theorem people_both_in_c : ∀ principal ∈ people both_in_c, Unbroken principal.nick ∧ ∀ team ∈ principal.team, Unbroken team := by
  decide

theorem stored_both_in_c : Stored (Store.display_name both_in_c) both_in_c where
  messages _ inside := by cases inside
  memberships := by decide
  tasks _ inside := by cases inside

/-- The events of the exchange are read from the two streams. -/
theorem sent_exchange {body : Text} (read : commands (encode (spoken body)) =
      [some (.Pass "a".toList), some (.Nick "alice".toList), some (.Privmsg "#c".toList body)]) :
    (∀ sid command, .receive sid command ∈ exchange body → some command ∈ commands (encode (streams body sid))) ∧
    ∀ sid env, .run sid env ∈ exchange body → Unbroken env.task_uuid := by
  have alice : commands (encode (streams body 0)) = _ := read
  have bob : commands (encode (streams body 1)) = [some (.Pass "b".toList), some (.Nick "bob".toList)] := by
    show commands (encode "PASS b\nNICK bob\n".toList) = _
    decide +kernel
  constructor
  · intro sid command inside
    simp only [exchange, arrival, sections, List.mem_append, List.mem_cons, List.mem_replicate, List.not_mem_nil,
      reduceCtorEq, Event.receive.injEq, or_false, false_or, and_false] at inside
    rcases inside with ((⟨rfl, rfl⟩ | ⟨rfl, rfl⟩) | (⟨rfl, rfl⟩ | ⟨rfl, rfl⟩)) | ⟨rfl, rfl⟩
    · rw [alice]; exact List.mem_cons_self
    · rw [alice]; exact List.mem_cons_of_mem _ List.mem_cons_self
    · rw [bob]; exact List.mem_cons_self
    · rw [bob]; exact List.mem_cons_of_mem _ List.mem_cons_self
    · rw [alice]; exact List.mem_cons_of_mem _ (List.mem_cons_of_mem _ List.mem_cons_self)
  · intro sid env inside
    simp only [exchange, arrival, sections, List.mem_append, List.mem_cons, List.mem_replicate, List.not_mem_nil,
      reduceCtorEq, Event.run.injEq, or_false, false_or] at inside
    have digits : Unbroken (moment 0).task_uuid ∧ Unbroken (moment 1).task_uuid := by decide
    rcases inside with ((((⟨_, _, rfl⟩ | ⟨_, _, rfl⟩) | ⟨_, _, rfl⟩) | ⟨_, _, rfl⟩ | ⟨_, _, rfl⟩) | ⟨_, _, rfl⟩) | ⟨_, _, rfl⟩
    · exact digits.1
    · exact digits.1
    · exact digits.1
    · exact digits.1
    · exact digits.1
    · exact digits.1
    · exact digits.2

/-- The line that bob hears. -/
theorem heard_hello :
    ∃ line ∈ ((run (step plain) (start both_in_c) (exchange "hello".toList)).world.connections 1).lines,
      line.text = "@seq=1;msg-id=msg_1;time=0 :alice PRIVMSG #c :hello".toList := by
  decide +kernel

theorem lines_unsplit_hello :
    ∃ line ∈ ((run (step plain) (start both_in_c) (exchange "hello".toList)).world.connections 1).lines,
      line.text = "@seq=1;msg-id=msg_1;time=0 :alice PRIVMSG #c :hello".toList ∧ Unbroken line.text := by
  obtain ⟨sent, uuids⟩ := @sent_exchange "hello".toList (by decide +kernel)
  obtain ⟨line, inside, text⟩ := heard_hello
  exact ⟨line, inside, text, lines_unsplit plain both_in_c (streams "hello".toList) (exchange "hello".toList) people_both_in_c
    stored_both_in_c sent uuids (by decide +kernel) 1 line inside⟩

/-- A body with a CR. -/
def forging : Text := "hi\r:aircd ERROR :bye".toList

theorem lines_split :
    (∀ principal ∈ people both_in_c, Unbroken principal.nick ∧ ∀ team ∈ principal.team, Unbroken team) ∧
    Stored (Store.display_name both_in_c) both_in_c ∧
    (∀ sid command, .receive sid command ∈ exchange forging → some command ∈ commands (encode (streams forging sid))) ∧
    ∃ line ∈ ((run (step plain) (start both_in_c) (exchange forging)).world.connections 1).lines, ¬ Unbroken line.text := by
  obtain ⟨sent, _⟩ := @sent_exchange forging (by decide +kernel)
  exact ⟨people_both_in_c, stored_both_in_c, sent, by decide +kernel⟩

end Aircd.Concurrent

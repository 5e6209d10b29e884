import Aircd.Endings
import Aircd.Outbox
import Aircd.TaskEvents

/-!
# The events of a task in the log

A handler commits a transition of a task in one section and appends its event to
the log in another. The log of a task tells its transitions in the order in which
they were committed exactly when every event is appended before those of later
transitions of the same task.
-/
namespace Aircd.Concurrent
open Aircd.Runs Aircd.Text Aircd.Protocol Aircd.Auth Aircd.History Aircd.Tasks Aircd.Store Aircd.Server

/-- A successful operation on a task, with its place among all of them, for whom it
    was and the row that it returned. -/
structure Transition where
  number : Nat
  principal : Principal
  op : TaskOp
  task : Task
  deriving DecidableEq

namespace Transition

/-- The body of its event. -/
def text (t : Transition) : Text := task_body t.task (what_of t.op.kind) t.principal.nick

/-- The section that appends its event. -/
def announcement (t : Transition) : Section := Concurrent.announcement t.principal t.op t.task

/-- What its event tells about the task: its status and its holder. -/
def tells (t : Transition) : TaskStatus × Option Text :=
  match t.op.kind with
  | .create => (.Open, none)
  | .claim => (.Claimed, some t.principal.id)
  | .done => (.Done, some t.principal.id)
  | .release => (.Open, none)

end Transition

/-- The sections that append the event of a transition. -/
def Section.announces : Section → Bool
  | .append _ _ _ (.Task _ _ _ _) => true
  | _ => false

/-- The system, with the transitions in the order in which they were committed, those
    whose event is not appended yet, by the session that has to do it, and the
    transition whose event is stored under a seq. -/
structure Ledger where
  system : System
  committed : List Transition
  outstanding : List (SessionId × Transition)
  announced : Int → Option Transition

/-- The transition that an event commits, and in which session. -/
def commits (cfg : Config) (l : Ledger) : Event → Option (SessionId × Transition)
  | .run sid env =>
    ((l.system.threads sid).head?.bind (·.operation env)).bind (fun acts =>
      (Tasks.perform cfg.lease_seconds l.system.world.db.tasks acts.2).2.toOption.map
        (fun task => (sid, ⟨l.committed.length, acts.1, acts.2, task⟩)))
  | _ => none

/-- The session that appends the event of a transition. -/
def announcing (s : System) : Event → Option SessionId
  | .run sid _ => if (s.threads sid).head?.any (·.announces) then some sid else none
  | _ => none

/-- The transition whose event a session has to append. -/
def Ledger.due (l : Ledger) (sid : SessionId) : Option Transition :=
  (l.outstanding.find? (fun entry => decide (entry.1 = sid))).map Prod.snd

/-- The transitions of a task whose event is not appended yet, in order. -/
def Ledger.waiting (l : Ledger) (task_id : Text) : List Transition :=
  (l.outstanding.map Prod.snd).filter (fun t => decide (t.task.id = task_id))

def enter (cfg : Config) (l : Ledger) (e : Event) : Ledger where
  system := step cfg l.system e
  committed := l.committed ++ ((commits cfg l e).map Prod.snd).toList
  outstanding :=
    match e with
    | .restart => []
    | _ => l.outstanding.filter (fun entry => decide (announcing l.system e ≠ some entry.1)) ++ (commits cfg l e).toList
  announced seq :=
    match announcing l.system e with
    | some sid => if seq = l.system.world.db.messages.sequence + 1 then l.due sid else l.announced seq
    | none => l.announced seq

def opened (db : Db) : Ledger := ⟨start db, [], [], fun _ => none⟩

/-- The transitions of a task, in the order in which they were committed. -/
def Ledger.history (l : Ledger) (task_id : Text) : List Transition :=
  l.committed.filter (fun t => decide (t.task.id = task_id))

/-- The transitions of a task that the log tells, in the order of their seqs. -/
def Ledger.events (l : Ledger) (task_id : Text) : List Transition :=
  l.system.world.db.messages.rows.filterMap (fun m => (l.announced m.seq).filter (fun t => decide (t.task.id = task_id)))

/-- The status and the holder of a task. -/
def standing (db : Db) (task_id : Text) : Option (TaskStatus × Option Text) :=
  (db.tasks.find task_id).map (fun row => (row.status, row.claimed_by))

/-- The log of every task lists its transitions as they were committed, in events of
    its channel that say so, and folding it gives the status and the holder. -/
structure TellsTruth (db : Db) (l : Ledger) : Prop where
  listed : ∀ task_id, l.events task_id = l.history task_id
  folded : ∀ task_id, (l.events task_id).foldl (fun _ t => some t.tells) (standing db task_id) =
    standing l.system.world.db task_id
  worded : ∀ m ∈ l.system.world.db.messages.rows, ∀ t ∈ l.announced m.seq,
    m.sender_id = SERVER_NAME ∧ m.channel = t.task.channel ∧ m.body = t.text
  placed : ∀ task_id, ∀ t ∈ l.events task_id, ∃ row, l.system.world.db.tasks.find task_id = some row ∧
    row.channel = t.task.channel

/-- No event of a transition is left to append. -/
def Settled (s : System) : Prop := ∀ sid, ∀ x ∈ s.threads sid, x.announces = false

/-- The event that is appended is that of the oldest transition of its task that
    waits for it, and the server stops only when none waits. -/
def InTurn (l : Ledger) (e : Event) : Prop :=
  (∀ sid, announcing l.system e = some sid → ∀ t ∈ l.due sid, (l.waiting t.task.id).head? = some t) ∧
    (e = .restart → l.outstanding = [])

variable {cfg : Config} {s : System} {w : World} {env : Env} {sid sid' : SessionId} {x here : Section}
  {l : Ledger} {e : Event} {t : Transition} {task_id : Text}

/-! ## What the sections do to the tasks and to the log -/

/-- What the state of a task is after an operation on it, and that it stays in its channel. -/
theorem standing_perform {lease_seconds : Int} {db : Db} {principal : Principal} {op : TaskOp} {task : Task}
    (own : ∀ id ∈ op.principal, id = principal.id)
    (succeeds : (Tasks.perform lease_seconds db.tasks op).2 = .ok task) (number : Nat) :
    standing { db with tasks := (Tasks.perform lease_seconds db.tasks op).1 } task.id =
      some (Transition.tells ⟨number, principal, op, task⟩) ∧
    (∀ id, id ≠ task.id → (Tasks.perform lease_seconds db.tasks op).1.find id = db.tasks.find id) ∧
    (∃ row, (Tasks.perform lease_seconds db.tasks op).1.find task.id = some row ∧ row.channel = task.channel) ∧
    ∀ row, db.tasks.find task.id = some row → row.channel = task.channel := by
  rcases perform_cases lease_seconds db.tasks op with ⟨refusal, refused⟩ | ⟨after, self, allowed, returned, stored⟩
  · rw [refused] at succeeds; cases succeeds
  rw [succeeds] at returned
  cases returned
  have found : (Tasks.perform lease_seconds db.tasks op).1.find after.id = some after := by
    rw [stored, if_pos self.symm]
  refine ⟨?_, ?_, ⟨after, found, rfl⟩, ?_⟩
  · rw [standing]
    simp only [found, Option.map_some]
    cases op with
    | create id channel title now => obtain ⟨_, rfl⟩ := allowed; rfl
    | claim id principal_id now =>
      obtain ⟨row, _, _, rfl⟩ := allowed
      simp [claimed, Transition.tells, TaskOp.kind, ← own principal_id rfl]
    | done id principal_id now =>
      obtain ⟨row, _, guard, rfl⟩ := allowed
      simp [completed, Transition.tells, TaskOp.kind, ← own principal_id rfl, (held_iff.mp guard).2.1]
    | release id principal_id now => obtain ⟨row, _, _, rfl⟩ := allowed; rfl
  · intro id other
    rw [stored, if_neg (fun same => other (same.symm.trans self.symm))]
  · intro row before
    rw [self] at before
    cases op with
    | create id channel title now => obtain ⟨absent, _⟩ := allowed; rw [absent] at before; cases before
    | claim id principal_id now =>
      obtain ⟨row', here, _, rfl⟩ := allowed
      rw [before] at here
      cases here
      rfl
    | done id principal_id now =>
      obtain ⟨row', here, _, rfl⟩ := allowed
      rw [before] at here
      cases here
      rfl
    | release id principal_id now =>
      obtain ⟨row', here, _, rfl⟩ := allowed
      rw [before] at here
      cases here
      rfl

theorem operation_own {principal : Principal} {op : TaskOp} (operates : x.operation env = some (principal, op)) :
    ∀ id ∈ op.principal, id = principal.id := by
  cases x with
  | task_create speaker channel title => cases operates; intro id mine; cases mine
  | task_claim speaker id' => cases operates; intro id mine; cases mine; rfl
  | task_done speaker id' => cases operates; intro id mine; cases mine; rfl
  | task_release speaker id' => cases operates; intro id mine; cases mine; rfl
  | _ => cases operates

theorem operates_of_operation {acts : Principal × TaskOp} (operates : x.operation env = some acts) : x.operates = true := by
  cases x with
  | task_create speaker channel title => rfl
  | task_claim speaker id => rfl
  | task_done speaker id => rfl
  | task_release speaker id => rfl
  | _ => cases operates

theorem announces_announcement (t : Transition) : t.announcement.announces = true := rfl

/-- Only a successful operation leads to the event of a transition. -/
theorem announces_perform (inside : x ∈ (perform cfg w env sid here).2) (announces : x.announces = true) :
    ∃ principal op task, here.operation env = some (principal, op) ∧
      (Tasks.perform cfg.lease_seconds w.db.tasks op).2 = .ok task ∧ x = announcement principal op task := by
  cases x with
  | append channel sender_id body notice =>
    rcases append_source inside with ⟨speaker, _, _, rfl⟩ | source
    · cases announces
    · exact source
  | _ => cases announces

/-- A section that operates on no task and appends no event keeps the tasks, and a
    message that it stores has a seq of its own. -/
theorem quiet_perform (x : Section) : (perform cfg w env sid x).1.db.messages.rows = w.db.messages.rows ∨
    ∃ m, (perform cfg w env sid x).1.db.messages.rows = w.db.messages.rows ++ [m] ∧ m.seq = w.db.messages.sequence + 1 := by
  cases x with
  | append channel sender_id body notice => exact .inr ⟨_, rfl, rfl⟩
  | _ => exact .inl (by rw [messages_perform (by simp)])

/-! ## What every reachable ledger satisfies -/

structure Kept (db : Db) (l : Ledger) : Prop where
  held : Held l.system
  waits : ∀ entry ∈ l.outstanding, l.system.threads entry.1 = [entry.2.announcement]
  owed : ∀ sid, ∀ x ∈ l.system.threads sid, x.announces = true → ∃ t, (sid, t) ∈ l.outstanding
  sessions : (l.outstanding.map Prod.fst).Nodup
  numbers : (l.outstanding.map (fun entry => entry.2.number)).Nodup
  below : ∀ entry ∈ l.outstanding, entry.2.number < l.committed.length
  numbered : ∀ seq t, l.announced seq = some t → seq ≤ l.system.world.db.messages.sequence
  worded : ∀ m ∈ l.system.world.db.messages.rows, ∀ t ∈ l.announced m.seq,
    m.sender_id = SERVER_NAME ∧ m.channel = t.task.channel ∧ m.body = t.text
  folded : ∀ task_id, (l.history task_id).foldl (fun _ t => some t.tells) (standing db task_id) =
    standing l.system.world.db task_id
  placed : ∀ task_id, ∀ t ∈ l.history task_id, ∃ row, l.system.world.db.tasks.find task_id = some row ∧
    row.channel = t.task.channel

/-- A session has one event to append at most. -/
theorem outstanding_split (sessions : (l.outstanding.map Prod.fst).Nodup) (listed : (sid, t) ∈ l.outstanding) :
    ∃ before after, l.outstanding = before ++ (sid, t) :: after ∧ (∀ entry ∈ before, entry.1 ≠ sid) ∧
      ∀ entry ∈ after, entry.1 ≠ sid := by
  obtain ⟨before, after, split⟩ := List.append_of_mem listed
  rw [split, List.map_append, List.map_cons, List.nodup_append] at sessions
  obtain ⟨_, later, apart⟩ := sessions
  refine ⟨before, after, split, ?_, ?_⟩
  · intro entry inside
    exact apart entry.1 (List.mem_map_of_mem inside) sid List.mem_cons_self
  · intro entry inside same
    have listed' : entry.1 ∈ after.map Prod.fst := List.mem_map_of_mem inside
    rw [same] at listed'
    exact (List.nodup_cons.mp later).1 listed'

theorem Kept.due_eq {db : Db} (kept : Kept db l) (listed : (sid, t) ∈ l.outstanding) : l.due sid = some t := by
  obtain ⟨before, after, split, earlier, _⟩ := outstanding_split kept.sessions listed
  have none : before.find? (fun entry => decide (entry.1 = sid)) = none := by
    rw [List.find?_eq_none]
    intro entry inside same
    exact earlier entry inside (of_decide_eq_true same)
  rw [Ledger.due, split, List.find?_append, none]
  simp

/-- What an event does to the ledger. -/
inductive Turned (cfg : Config) (l : Ledger) (e : Event) : Prop where
  | committed (sid : SessionId) (env : Env) (here : Section) (rest : List Section) (principal : Principal) (op : TaskOp) (task : Task)
      (runs : e = .run sid env) (head : l.system.threads sid = here :: rest) (operates : here.operation env = some (principal, op))
      (succeeds : (Tasks.perform cfg.lease_seconds l.system.world.db.tasks op).2 = .ok task)
      (commits : commits cfg l e = some (sid, ⟨l.committed.length, principal, op, task⟩))
      (silent : announcing l.system e = none)
  | announced (sid : SessionId) (env : Env) (t : Transition) (runs : e = .run sid env) (listed : (sid, t) ∈ l.outstanding)
      (commits : commits cfg l e = none) (announces : announcing l.system e = some sid)
  | restarted (restarts : e = .restart)
  | other (lasting : e ≠ .restart) (commits : commits cfg l e = none) (silent : announcing l.system e = none)
      (tasks : (step cfg l.system e).world.db.tasks = l.system.world.db.tasks)
      (log : (step cfg l.system e).world.db.messages.rows = l.system.world.db.messages.rows ∨
        ∃ m, (step cfg l.system e).world.db.messages.rows = l.system.world.db.messages.rows ++ [m] ∧
          m.seq = l.system.world.db.messages.sequence + 1)

theorem Kept.turned {db : Db} (kept : Kept db l) (cfg : Config) (e : Event) : Turned cfg l e := by
  by_cases restarts : e = .restart
  · exact .restarted restarts
  by_cases runs : ∃ sid env, e = .run sid env
  · obtain ⟨sid, env, rfl⟩ := runs
    cases head : l.system.threads sid with
    | nil =>
      refine .other (by simp) (by simp [commits, head]) (by simp [announcing, head]) ?_ (.inl ?_)
      · rw [step_run_idle head]
      · rw [step_run_idle head]
    | cons here rest =>
      by_cases announces : here.announces = true
      · obtain ⟨t, listed⟩ := kept.owed sid here (by rw [head]; exact List.mem_cons_self) announces
        have plain : here.operation env = none := by
          cases here with
          | append channel sender_id body notice => rfl
          | _ => cases announces
        exact .announced sid env t rfl listed (by simp [commits, head, plain]) (by simp [announcing, head, announces])
      · have silent : announcing l.system (.run sid env) = none := by simp [announcing, head, announces]
        have log := @quiet_perform cfg l.system.world env sid here
        cases acts : here.operation env with
        | none =>
          refine .other (by simp) (by simp [commits, head, acts]) silent ?_ ?_
          · rw [step_run head, world_resume, tasks_perform acts]
          · rw [step_run head, world_resume]
            exact log
        | some act =>
          obtain ⟨principal, op⟩ := act
          cases outcome : (Tasks.perform cfg.lease_seconds l.system.world.db.tasks op).2 with
          | ok task =>
            exact .committed sid env here rest principal op task rfl head acts outcome
              (by simp [commits, head, acts, outcome, Except.toOption]) silent
          | error refusal =>
            refine .other (by simp) (by simp [commits, head, acts, outcome, Except.toOption]) silent ?_ ?_
            · rw [step_run head, world_resume, (perform_operation acts).1]
              exact perform_unchanged outcome
            · rw [step_run head, world_resume]
              exact log
  · have notRun : ∀ sid env, e ≠ .run sid env := fun sid env same => runs ⟨sid, env, same⟩
    have same := db_step_other cfg l.system notRun
    refine .other restarts ?_ ?_ (by rw [same]) (.inl (by rw [same]))
    · cases e with
      | run sid env => exact absurd rfl (notRun sid env)
      | _ => rfl
    · cases e with
      | run sid env => exact absurd rfl (notRun sid env)
      | _ => rfl

theorem sequence_step (cfg : Config) (s : System) (e : Event) :
    s.world.db.messages.sequence ≤ (step cfg s e).world.db.messages.sequence := by
  rcases stepped cfg s e with ⟨sid, env, here, rest, rfl, head⟩ | idle | notRun
  · rw [step_run head, world_resume]
    by_cases appends : ∃ channel sender_id body notice, here = .append channel sender_id body notice
    · obtain ⟨channel, sender_id, body, notice, rfl⟩ := appends
      exact Int.le_add_of_nonneg_right (by decide)
    · rw [messages_perform (fun channel sender_id body notice same => appends ⟨channel, sender_id, body, notice, same⟩)]
  · rw [idle]
  · rw [db_step_other cfg s notRun]

/-! ### The three lists of a task -/

def Ledger.box (l : Ledger) (task_id : Text) : Outbox Transition := ⟨l.history task_id, l.events task_id, l.waiting task_id⟩

/-- The log of a task grows only by its events. -/
theorem events_silent {db : Db} (kept : Kept db l) (silent : announcing l.system e = none)
    (log : (step cfg l.system e).world.db.messages.rows = l.system.world.db.messages.rows ∨
      ∃ m, (step cfg l.system e).world.db.messages.rows = l.system.world.db.messages.rows ++ [m] ∧
        m.seq = l.system.world.db.messages.sequence + 1) : (enter cfg l e).events task_id = l.events task_id := by
  rcases log with same | ⟨m, more, seq⟩
  · simp only [Ledger.events, enter, silent, same]
  · have unknown : l.announced m.seq = none := by
      cases known : l.announced m.seq with
      | none => rfl
      | some t =>
        have := kept.numbered m.seq t known
        omega
    simp only [Ledger.events, enter, silent, more, List.filterMap_append]
    simp [unknown]

theorem rows_announced {db : Db} (kept : Kept db l) (listed : (sid, t) ∈ l.outstanding) (env : Env) :
    (step cfg l.system (.run sid env)).world.db.messages.rows =
      l.system.world.db.messages.rows ++ [next l.system.world.db.messages t.task.channel SERVER_NAME t.text
        ("msg_".toList ++ env.message_uuid) env.created_at] := by
  have head := kept.waits _ listed
  rw [step_run head]
  rfl

theorem events_announced {db : Db} (kept : Kept db l) (listed : (sid, t) ∈ l.outstanding)
    (announces : announcing l.system (.run sid env) = some sid) :
    (enter cfg l (.run sid env)).events task_id =
      l.events task_id ++ if t.task.id = task_id then [t] else [] := by
  have rows := @rows_announced cfg sid l t db kept listed env
  simp only [Ledger.events, enter, announces, rows, List.filterMap_append, kept.due_eq listed]
  congr 1
  · apply List.filterMap_congr
    intro m stored
    have := (l.system.world.db.messages.numbered m stored).2
    rw [if_neg (by omega)]
  · simp only [List.filterMap_cons, List.filterMap_nil, next, if_pos]
    by_cases here : t.task.id = task_id
    · simp [here, Option.filter]
    · simp [here, Option.filter]

theorem outstanding_announced {db : Db} (kept : Kept db l) (listed : (sid, t) ∈ l.outstanding)
    (commits : commits cfg l (.run sid env) = none) (announces : announcing l.system (.run sid env) = some sid) :
    ∃ before after, l.outstanding = before ++ (sid, t) :: after ∧
      (enter cfg l (.run sid env)).outstanding = before ++ after ∧ ∀ entry ∈ before ++ after, entry.1 ≠ sid := by
  obtain ⟨before, after, split, earlier, later⟩ := outstanding_split kept.sessions listed
  refine ⟨before, after, split, ?_, fun entry inside => (List.mem_append.mp inside).elim (earlier entry) (later entry)⟩
  have keeps {part : List (SessionId × Transition)} (apart : ∀ entry ∈ part, entry.1 ≠ sid) :
      part.filter (fun entry => decide (some sid ≠ some entry.1)) = part := by
    rw [List.filter_eq_self]
    intro entry inside
    simpa using Ne.symm (apart entry inside)
  simp only [enter, commits, announces, split, List.filter_append, List.filter_cons, Option.toList_none, List.append_nil,
    keeps earlier, keeps later]
  simp

theorem outstanding_silent (silent : announcing l.system e = none) (lasting : e ≠ .restart) :
    (enter cfg l e).outstanding = l.outstanding ++ (commits cfg l e).toList := by
  have all : l.outstanding.filter (fun entry => decide ((none : Option SessionId) ≠ some entry.1)) = l.outstanding := by
    rw [List.filter_eq_self]
    simp
  cases e with
  | restart => exact absurd rfl lasting
  | _ => simp only [enter, silent, all]

theorem box_committed {db : Db} {rest : List Section} {principal : Principal} {op : TaskOp} {task : Task} (kept : Kept db l)
    (head : l.system.threads sid = here :: rest) (operates : here.operation env = some (principal, op))
    (committed : commits cfg l (.run sid env) = some (sid, ⟨l.committed.length, principal, op, task⟩))
    (silent : announcing l.system (.run sid env) = none) :
    (enter cfg l (.run sid env)).box task_id =
      if task.id = task_id then
        ⟨l.history task_id ++ [⟨l.committed.length, principal, op, task⟩], l.events task_id,
          l.waiting task_id ++ [⟨l.committed.length, principal, op, task⟩]⟩
      else l.box task_id := by
  have log : (step cfg l.system (.run sid env)).world.db.messages.rows = l.system.world.db.messages.rows := by
    rw [step_run head, world_resume, (perform_operation operates).1]
  have same : (enter cfg l (.run sid env)).events task_id = l.events task_id := events_silent kept silent (.inl log)
  have outstanding := @outstanding_silent cfg l (.run sid env) silent (by simp)
  have all : (enter cfg l (.run sid env)).committed = l.committed ++ [⟨l.committed.length, principal, op, task⟩] := by
    simp [enter, committed]
  rw [Ledger.box, same]
  by_cases own : task.id = task_id
  · simp [Ledger.history, Ledger.waiting, outstanding, all, committed, own]
  · simp [Ledger.box, Ledger.history, Ledger.waiting, outstanding, all, committed, own]

theorem box_announced {db : Db} (kept : Kept db l) (listed : (sid, t) ∈ l.outstanding)
    (silent : commits cfg l (.run sid env) = none) (announces : announcing l.system (.run sid env) = some sid) :
    (t.task.id = task_id → ∃ before after, l.waiting task_id = before ++ t :: after ∧
      (enter cfg l (.run sid env)).box task_id = ⟨l.history task_id, l.events task_id ++ [t], before ++ after⟩) ∧
    (t.task.id ≠ task_id → (enter cfg l (.run sid env)).box task_id = l.box task_id) := by
  have events := @events_announced cfg env sid l t task_id db kept listed announces
  obtain ⟨before, after, split, left, _⟩ := outstanding_announced kept listed silent announces
  have history : (enter cfg l (.run sid env)).history task_id = l.history task_id := by
    simp [Ledger.history, enter, silent]
  refine ⟨?_, ?_⟩
  · intro own
    rw [if_pos own] at events
    refine ⟨(before.map Prod.snd).filter (fun t => decide (t.task.id = task_id)),
      (after.map Prod.snd).filter (fun t => decide (t.task.id = task_id)), ?_, ?_⟩
    · simp [Ledger.waiting, split, own]
    · rw [Ledger.box, history, events]
      simp [Ledger.waiting, left]
  · intro other
    rw [if_neg other, List.append_nil] at events
    rw [Ledger.box, Ledger.box, history, events]
    simp [Ledger.waiting, left, split, other]

theorem box_restart {db : Db} (kept : Kept db l) :
    (enter cfg l .restart).box task_id = ⟨l.history task_id, l.events task_id, []⟩ := by
  have events : (enter cfg l .restart).events task_id = l.events task_id := events_silent kept rfl (.inl rfl)
  rw [Ledger.box, events]
  simp [Ledger.history, Ledger.waiting, enter, commits]

theorem box_other {db : Db} (kept : Kept db l) (lasting : e ≠ .restart) (committed : commits cfg l e = none)
    (silent : announcing l.system e = none)
    (log : (step cfg l.system e).world.db.messages.rows = l.system.world.db.messages.rows ∨
      ∃ m, (step cfg l.system e).world.db.messages.rows = l.system.world.db.messages.rows ++ [m] ∧
        m.seq = l.system.world.db.messages.sequence + 1) : (enter cfg l e).box task_id = l.box task_id := by
  have all : (enter cfg l e).committed = l.committed := by simp [enter, committed]
  rw [Ledger.box, Ledger.box, events_silent kept silent log]
  simp [Ledger.history, Ledger.waiting, outstanding_silent silent lasting, all, committed]

theorem Kept.move {db : Db} (kept : Kept db l) (turned : Turned cfg l e) (task_id : Text) :
    Outbox.Move (l.box task_id) ((enter cfg l e).box task_id) := by
  cases turned with
  | committed sid env here rest principal op task runs head operates succeeds committed silent =>
    subst runs
    rw [box_committed kept head operates committed silent]
    split
    · exact .commit _
    · exact .same
  | announced sid env t runs listed silent announces =>
    subst runs
    obtain ⟨mine, others⟩ := @box_announced cfg env sid l t task_id db kept listed silent announces
    by_cases own : t.task.id = task_id
    · obtain ⟨before, after, waits, box⟩ := mine own
      rw [box]
      exact .publish waits
    · rw [others own]
      exact .same
  | restarted restarts =>
    subst restarts
    rw [box_restart kept]
    exact .drop
  | other lasting committed silent tasks log =>
    rw [box_other kept lasting committed silent log]
    exact .same

theorem Kept.distinct {db : Db} (kept : Kept db l) (task_id : Text) : (l.waiting task_id).Nodup := by
  have all : (l.outstanding.map Prod.snd).Nodup := by
    apply List.Nodup.of_map (fun t => t.number)
    rw [List.map_map]
    exact kept.numbers
  exact all.filter _

/-- An event in turn keeps every task's log true so far. -/
theorem Kept.keeps {db : Db} (kept : Kept db l) (turned : Turned cfg l e)
    (faithful : ∀ task_id, (l.box task_id).Faithful) (inTurn : InTurn l e) (task_id : Text) :
    ((enter cfg l e).box task_id).Faithful := by
  cases turned with
  | committed sid env here rest principal op task runs head operates succeeds committed silent =>
    subst runs
    rw [box_committed kept head operates committed silent]
    split
    · exact (faithful task_id).commit _
    · exact faithful task_id
  | announced sid env t runs listed silent announces =>
    subst runs
    obtain ⟨mine, others⟩ := @box_announced cfg env sid l t task_id db kept listed silent announces
    by_cases own : t.task.id = task_id
    · obtain ⟨before, after, waits, box⟩ := mine own
      have first := inTurn.1 sid announces t (kept.due_eq listed)
      have alone : before = [] := by
        have distinct := kept.distinct task_id
        rw [own, waits] at first
        rw [waits] at distinct
        cases before with
        | nil => rfl
        | cons other before =>
          obtain rfl : other = t := Option.some.inj first
          exact absurd (List.mem_append_right _ List.mem_cons_self) (List.nodup_cons.mp distinct).1
      rw [box, alone]
      rw [alone] at waits
      exact (faithful task_id).publish waits
    · rw [others own]
      exact faithful task_id
  | restarted restarts =>
    subst restarts
    have none : l.outstanding = [] := inTurn.2 rfl
    have waiting : l.waiting task_id = [] := by simp [Ledger.waiting, none]
    rw [box_restart kept, ← waiting]
    exact faithful task_id
  | other lasting committed silent tasks log =>
    rw [box_other kept lasting committed silent log]
    exact faithful task_id

/-- An event out of turn makes the log of its task wrong for good. -/
theorem Kept.loses {db : Db} (kept : Kept db l) (turned : Turned cfg l e)
    (faithful : ∀ task_id, (l.box task_id).Faithful) (outOfTurn : ¬ InTurn l e) :
    ∃ task_id, ((enter cfg l e).box task_id).Lost := by
  have quiet (silent : announcing l.system e = none) (lasting : e ≠ .restart) : InTurn l e :=
    ⟨fun sid announces => by (rw [silent] at announces; cases announces), fun restarts => absurd restarts lasting⟩
  cases turned with
  | committed sid env here rest principal op task runs head operates succeeds committed silent =>
    exact absurd (quiet silent (by rw [runs]; simp)) outOfTurn
  | announced sid env t runs listed silent announces =>
    subst runs
    obtain ⟨before, after, waits, box⟩ := (@box_announced cfg env sid l t t.task.id db kept listed silent announces).1 rfl
    refine ⟨t.task.id, ?_⟩
    rw [box]
    cases before with
    | nil =>
      refine absurd ⟨?_, fun restarts => by cases restarts⟩ outOfTurn
      intro sid' same t' due
      rw [announces] at same
      cases same
      rw [kept.due_eq listed] at due
      cases due
      rw [waits]
      rfl
    | cons first before => exact (faithful t.task.id).lost_publish waits (kept.distinct t.task.id)
  | restarted restarts =>
    subst restarts
    cases left : l.outstanding with
    | nil =>
      refine absurd ⟨?_, fun _ => left⟩ outOfTurn
      intro sid announces
      cases announces
    | cons entry rest =>
      refine ⟨entry.2.task.id, ?_⟩
      rw [box_restart kept]
      refine (faithful entry.2.task.id).lost_drop ?_
      simp [Ledger.box, Ledger.waiting, left]
  | other lasting committed silent tasks log => exact absurd (quiet silent lasting) outOfTurn

/-! ### One event keeps them -/

section
variable {db : Db} (kept : Kept db l)
include kept

theorem Kept.waits_step (turned : Turned cfg l e) (entry : SessionId × Transition) (listed : entry ∈ (enter cfg l e).outstanding) :
    (enter cfg l e).system.threads entry.1 = [entry.2.announcement] := by
  cases turned with
  | committed sid env here rest principal op task runs head operates succeeds committed silent =>
    subst runs
    rw [outstanding_silent silent (by simp), committed] at listed
    show (step cfg l.system (.run sid env)).threads entry.1 = _
    rw [step_run head, threads_resume]
    rcases List.mem_append.mp listed with old | new
    · have before := kept.waits entry old
      rw [if_neg, before]
      intro same
      rw [same, head] at before
      obtain rfl := (List.cons.inj before).1
      cases operates
    · obtain rfl := List.mem_singleton.mp new
      have alone := kept.held.single sid here (by rw [head]; exact List.mem_cons_self) (by
        have acts := operates_of_operation operates
        cases here with
        | ensure_registered command => rfl
        | _ => exact acts)
      have more := (@perform_operation cfg l.system.world env sid here principal op operates).2
      rw [succeeds] at more
      dsimp only at more
      rw [head] at alone
      rw [if_pos rfl, more, (List.cons.inj alone).2]
      rfl
  | announced sid env t runs listed' silent announces =>
    subst runs
    obtain ⟨before, after, split, left, apart⟩ := outstanding_announced kept listed' silent announces
    rw [left] at listed
    have old : entry ∈ l.outstanding := by
      rw [split]
      rcases List.mem_append.mp listed with first | second
      · exact List.mem_append_left _ first
      · exact List.mem_append_right _ (List.mem_cons_of_mem _ second)
    show (step cfg l.system (.run sid env)).threads entry.1 = _
    rw [step_run (kept.waits _ listed'), threads_resume, if_neg (apart entry listed)]
    exact kept.waits entry old
  | restarted restarts => subst restarts; cases listed
  | other lasting committed silent tasks log =>
    rw [outstanding_silent silent lasting, committed, Option.toList_none, List.append_nil] at listed
    have before := kept.waits entry listed
    rcases threads_step cfg l.system e entry.1 with same | ⟨env, here, rest, rfl, head, _⟩ | ⟨empty, _⟩ | ⟨restarts, _⟩
    · exact same.trans before
    · rw [before] at head
      obtain ⟨rfl, _⟩ := List.cons.inj head
      simp [announcing, before, announces_announcement] at silent
    · rw [empty] at before; cases before
    · exact absurd restarts lasting

theorem Kept.owed_step (turned : Turned cfg l e) (inside : x ∈ (enter cfg l e).system.threads sid)
    (announces : x.announces = true) : ∃ t, (sid, t) ∈ (enter cfg l e).outstanding := by
  have stale : ¬ x.fresh := by
    intro begins
    cases x with
    | append _ _ _ _ => exact begins
    | _ => cases announces
  -- What a section leads to is the event of the transition that it commits.
  have committing {env : Env} {here : Section} {rest : List Section} (head : l.system.threads sid = here :: rest)
      (new : x ∈ (perform cfg l.system.world env sid here).2) : ∃ t, commits cfg l (.run sid env) = some (sid, t) := by
    obtain ⟨principal, op, task, operates, succeeds, _⟩ := announces_perform new announces
    exact ⟨⟨l.committed.length, principal, op, task⟩, by simp [commits, head, operates, succeeds, Except.toOption]⟩
  cases turned with
  | committed task env _ _ principal op _ runs _ _ _ committed silent =>
    have outstanding := @outstanding_silent cfg l e silent (by rw [runs]; simp)
    rw [outstanding, committed]
    rcases mem_threads_step inside with old | ⟨env', here', rest', same, head', new⟩ | begins
    · obtain ⟨t, listed⟩ := kept.owed sid x old announces
      exact ⟨t, List.mem_append_left _ listed⟩
    · rw [runs] at same
      cases same
      exact ⟨_, List.mem_append_right _ (List.mem_singleton_self _)⟩
    · exact absurd begins stale
  | announced task env t runs listed silent announced =>
    subst runs
    obtain ⟨before, after, split, left, _⟩ := outstanding_announced kept listed silent announced
    have head := kept.waits _ listed
    rw [left]
    have after_run : x ∈ (step cfg l.system (.run task env)).threads sid := inside
    rw [step_run head, threads_resume] at after_run
    by_cases own : sid = task
    · subst own
      rw [if_pos rfl, List.append_nil] at after_run
      obtain ⟨_, committed⟩ := committing head after_run
      rw [silent] at committed; cases committed
    · rw [if_neg own] at after_run
      obtain ⟨t', listed'⟩ := kept.owed sid x after_run announces
      refine ⟨t', ?_⟩
      rw [split] at listed'
      rcases List.mem_append.mp listed' with first | later
      · exact List.mem_append_left _ first
      · rcases List.mem_cons.mp later with same | second
        · cases same; exact absurd rfl own
        · exact List.mem_append_right _ second
  | restarted restarts => subst restarts; cases inside
  | other lasting committed silent tasks log =>
    rw [outstanding_silent silent lasting, committed, Option.toList_none, List.append_nil]
    rcases mem_threads_step inside with old | ⟨env', here', rest', same, head', new⟩ | begins
    · exact kept.owed sid x old announces
    · subst same
      obtain ⟨_, commits⟩ := committing head' new
      rw [committed] at commits; cases commits
    · exact absurd begins stale

theorem Kept.outstanding_step (turned : Turned cfg l e) :
    ((enter cfg l e).outstanding.map Prod.fst).Nodup ∧
    ((enter cfg l e).outstanding.map (fun entry => entry.2.number)).Nodup ∧
    ∀ entry ∈ (enter cfg l e).outstanding, entry.2.number < (enter cfg l e).committed.length := by
  have longer : l.committed.length ≤ (enter cfg l e).committed.length := by simp [enter]
  cases turned with
  | committed sid env here rest principal op task runs head operates succeeds committed silent =>
    have length : (enter cfg l e).committed.length = l.committed.length + 1 := by simp [enter, committed]
    rw [outstanding_silent silent (by rw [runs]; simp), committed, length]
    simp only [Option.toList_some, List.map_append, List.map_cons, List.map_nil]
    refine ⟨?_, ?_, ?_⟩
    · rw [List.nodup_append]
      refine ⟨kept.sessions, List.nodup_singleton _, ?_⟩
      intro task' inside other single
      rw [List.mem_singleton.mp single]
      rintro rfl
      obtain ⟨entry, listed, same⟩ := List.mem_map.mp inside
      have before := kept.waits entry listed
      rw [same, head] at before
      obtain rfl := (List.cons.inj before).1
      cases operates
    · rw [List.nodup_append]
      refine ⟨kept.numbers, List.nodup_singleton _, ?_⟩
      intro number inside other single
      rw [List.mem_singleton.mp single]
      obtain ⟨entry, listed, same⟩ := List.mem_map.mp inside
      have := kept.below entry listed
      omega
    · intro entry inside
      rcases List.mem_append.mp inside with old | new
      · have := kept.below entry old
        omega
      · rw [List.mem_singleton.mp new]
        exact Nat.lt_succ_self _
  | announced sid env t runs listed silent announces =>
    subst runs
    obtain ⟨before, after, split, left, _⟩ := outstanding_announced kept listed silent announces
    have fewer : (before ++ after).Sublist l.outstanding := by
      rw [split]
      exact (List.Sublist.refl before).append (List.sublist_cons_self _ after)
    rw [left]
    refine ⟨kept.sessions.sublist (fewer.map _), kept.numbers.sublist (fewer.map _), ?_⟩
    intro entry inside
    exact lt_of_lt_of_le (kept.below entry (fewer.subset inside)) longer
  | restarted restarts =>
    subst restarts
    exact ⟨List.nodup_nil, List.nodup_nil, fun entry inside => by cases inside⟩
  | other lasting committed silent tasks log =>
    rw [outstanding_silent silent lasting, committed, Option.toList_none, List.append_nil]
    exact ⟨kept.sessions, kept.numbers, fun entry inside => lt_of_lt_of_le (kept.below entry inside) longer⟩

theorem Kept.numbered_step (turned : Turned cfg l e) (seq : Int) (known : (enter cfg l e).announced seq = some t) :
    seq ≤ (enter cfg l e).system.world.db.messages.sequence := by
  have grows : l.system.world.db.messages.sequence ≤ (enter cfg l e).system.world.db.messages.sequence :=
    sequence_step cfg l.system e
  have old (known : l.announced seq = some t) : seq ≤ (enter cfg l e).system.world.db.messages.sequence :=
    (kept.numbered seq t known).trans grows
  cases turned with
  | announced sid env t' runs listed silent announces =>
    subst runs
    simp only [enter, announces] at known
    split at known
    · next here =>
      simp only [enter]
      rw [step_run (kept.waits _ listed), here]
      exact le_refl _
    · exact old known
  | committed sid env _ _ _ _ _ _ _ _ _ _ silent => simp only [enter, silent] at known; exact old known
  | restarted restarts => subst restarts; exact old known
  | other _ _ silent _ _ => simp only [enter, silent] at known; exact old known

theorem Kept.worded_step (turned : Turned cfg l e) (m : StoredMessage) (stored : m ∈ (enter cfg l e).system.world.db.messages.rows)
    (t : Transition) (known : t ∈ (enter cfg l e).announced m.seq) :
    m.sender_id = SERVER_NAME ∧ m.channel = t.task.channel ∧ m.body = t.text := by
  have unknown {m : StoredMessage} (seq : m.seq = l.system.world.db.messages.sequence + 1)
      (known : t ∈ l.announced m.seq) : False := by
    have := kept.numbered m.seq t known
    omega
  have plain (silent : announcing l.system e = none) (log : (step cfg l.system e).world.db.messages.rows =
      l.system.world.db.messages.rows ∨ ∃ m, (step cfg l.system e).world.db.messages.rows =
        l.system.world.db.messages.rows ++ [m] ∧ m.seq = l.system.world.db.messages.sequence + 1) :
      m.sender_id = SERVER_NAME ∧ m.channel = t.task.channel ∧ m.body = t.text := by
    simp only [enter, silent] at known stored
    rcases log with same | ⟨new, more, seq⟩
    · rw [same] at stored
      exact kept.worded m stored t known
    · rw [more] at stored
      rcases List.mem_append.mp stored with old | last
      · exact kept.worded m old t known
      · rw [List.mem_singleton.mp last] at known
        exact (unknown seq known).elim
  cases turned with
  | announced sid env t' runs listed silent announces =>
    subst runs
    simp only [enter, announces, kept.due_eq listed] at known stored
    rw [rows_announced kept listed env] at stored
    rcases List.mem_append.mp stored with old | new
    · have := (l.system.world.db.messages.numbered m old).2
      rw [if_neg (by omega)] at known
      exact kept.worded m old t known
    · rw [List.mem_singleton.mp new] at known ⊢
      simp only [next, if_pos, Option.mem_def, Option.some.injEq] at known
      subst known
      exact ⟨rfl, rfl, rfl⟩
  | committed sid env here rest principal op task runs head operates succeeds committed silent =>
    subst runs
    refine plain silent (.inl ?_)
    rw [step_run head, world_resume, (perform_operation operates).1]
  | restarted restarts => subst restarts; exact plain rfl (.inl rfl)
  | other _ _ silent _ log => exact plain silent log

/-- The tasks change with the list of transitions. -/
theorem Kept.tasks_step (turned : Turned cfg l e) :
    (∀ task_id, ((enter cfg l e).history task_id).foldl (fun _ t => some t.tells) (standing db task_id) =
      standing (enter cfg l e).system.world.db task_id) ∧
    ∀ task_id, ∀ t ∈ (enter cfg l e).history task_id, ∃ row, (enter cfg l e).system.world.db.tasks.find task_id = some row ∧
      row.channel = t.task.channel := by
  have still (tasks : (enter cfg l e).system.world.db.tasks = l.system.world.db.tasks) (committed : commits cfg l e = none) :
      (∀ task_id, ((enter cfg l e).history task_id).foldl (fun _ t => some t.tells) (standing db task_id) =
        standing (enter cfg l e).system.world.db task_id) ∧
      ∀ task_id, ∀ t ∈ (enter cfg l e).history task_id, ∃ row, (enter cfg l e).system.world.db.tasks.find task_id = some row ∧
        row.channel = t.task.channel := by
    have same (task_id : Text) : (enter cfg l e).history task_id = l.history task_id := by
      simp [Ledger.history, enter, committed]
    simp only [same, standing, tasks]
    exact ⟨kept.folded, kept.placed⟩
  cases turned with
  | committed sid env here rest principal op task runs head operates succeeds committed silent =>
    subst runs
    obtain ⟨tells, others, ⟨row, found, channel⟩, before⟩ :=
      standing_perform (operation_own operates) succeeds l.committed.length
    have tasks : (enter cfg l (.run sid env)).system.world.db.tasks =
        (Tasks.perform cfg.lease_seconds l.system.world.db.tasks op).1 := by
      simp only [enter]
      rw [step_run head, world_resume, (perform_operation operates).1]
    have history (task_id : Text) : (enter cfg l (.run sid env)).history task_id =
        l.history task_id ++ if task.id = task_id then [⟨l.committed.length, principal, op, task⟩] else [] := by
      by_cases own : task.id = task_id
      · simp [Ledger.history, enter, committed, own]
      · simp [Ledger.history, enter, committed, own]
    refine ⟨?_, ?_⟩
    · intro task_id
      rw [history, List.foldl_append, kept.folded]
      by_cases own : task.id = task_id
      · subst own
        rw [if_pos rfl, List.foldl_cons, List.foldl_nil, ← tells]
        simp only [standing, tasks]
      · rw [if_neg own, List.foldl_nil]
        simp only [standing, tasks, others task_id (Ne.symm own)]
    · intro task_id t inside
      rw [history] at inside
      rw [tasks]
      rcases List.mem_append.mp inside with old | new
      · obtain ⟨row', found', channel'⟩ := kept.placed task_id t old
        by_cases own : task.id = task_id
        · subst own
          exact ⟨row, found, channel.trans ((before row' found').symm.trans channel')⟩
        · exact ⟨row', by rw [others task_id (Ne.symm own), found'], channel'⟩
      · split at new
        · next own =>
          subst own
          rw [List.mem_singleton.mp new]
          exact ⟨row, found, channel⟩
        · cases new
  | announced sid env t runs listed silent announces =>
    subst runs
    refine still ?_ silent
    simp only [enter]
    rw [step_run (kept.waits _ listed)]
    rfl
  | restarted restarts => subst restarts; exact still rfl rfl
  | other lasting committed silent tasks log => exact still tasks committed

end

theorem Kept.step {db : Db} (kept : Kept db l) (cfg : Config) (e : Event) : Kept db (enter cfg l e) := by
  have turned := kept.turned cfg e
  obtain ⟨sessions, numbers, below⟩ := kept.outstanding_step turned
  obtain ⟨folded, placed⟩ := kept.tasks_step turned
  exact ⟨kept.held.step, kept.waits_step turned, fun _ _ => kept.owed_step turned, sessions, numbers, below,
    fun seq _ => kept.numbered_step turned seq, kept.worded_step turned, folded, placed⟩

theorem kept_opened (db : Db) : Kept db (opened db) where
  held := held_start db
  waits entry inside := by cases inside
  owed sid x inside := by cases inside
  sessions := List.nodup_nil
  numbers := List.nodup_nil
  below entry inside := by cases inside
  numbered seq t known := by cases known
  worded m stored t known := by cases known
  folded task_id := rfl
  placed task_id t inside := by cases inside

/-! ## Whole runs -/

/-- Once no event of a transition is left to append, the log tells the truth about
    every task exactly when every event of the run was in turn. -/
theorem log_truthful_iff (cfg : Config) (db : Db) (events : List Event)
    (settled : Settled (run (enter cfg) (opened db) events).system) :
    TellsTruth db (run (enter cfg) (opened db) events) ↔ AllSteps (enter cfg) InTurn (opened db) events := by
  have kept : Kept db (run (enter cfg) (opened db) events) :=
    run_invariant (fun _ e inv => inv.step cfg e) events (kept_opened db)
  have done (task_id : Text) : (run (enter cfg) (opened db) events).waiting task_id = [] := by
    cases left : (run (enter cfg) (opened db) events).outstanding with
    | nil => simp [Ledger.waiting, left]
    | cons entry rest =>
      have busy := kept.waits entry (by rw [left]; exact List.mem_cons_self)
      have quiet := settled entry.1 entry.2.announcement (by rw [busy]; exact List.mem_singleton_self _)
      rw [announces_announcement] at quiet
      cases quiet
  have faithful : ∀ task_id, ((opened db).box task_id).Faithful := by
    intro task_id
    simp [Ledger.box, Outbox.Faithful, Ledger.history, Ledger.events, Ledger.waiting, opened]
  rcases @good_or_lost _ _ (enter cfg) (Kept db) (fun l => ∀ task_id, (l.box task_id).Faithful)
      (fun l => ∃ task_id, (l.box task_id).Lost) InTurn (fun _ e inv => inv.step cfg e)
      (fun l e inv good met => inv.keeps (inv.turned cfg e) good met)
      (fun l e inv good out => inv.loses (inv.turned cfg e) good out)
      (fun l e inv lost => lost.imp (fun task_id here => here.move (inv.move (inv.turned cfg e) task_id)))
      events (opened db) (kept_opened db) faithful with ⟨all, good⟩ | ⟨notAll, task_id, lost⟩
  · refine iff_of_true ?_ all
    have listed (task_id : Text) : (run (enter cfg) (opened db) events).events task_id =
        (run (enter cfg) (opened db) events).history task_id := (good task_id).done (done task_id)
    refine ⟨listed, ?_, kept.worded, ?_⟩
    · intro task_id
      rw [listed, kept.folded]
    · intro task_id t inside
      rw [listed] at inside
      exact kept.placed task_id t inside
  · exact iff_of_false (fun truth => lost.unequal (truth.listed task_id)) notAll

/-! ### Two handlers in order, and out of order -/

theorem system_enter (cfg : Config) (events : List Event) (l : Ledger) :
    (run (enter cfg) l events).system = run (step cfg) l.system events := by
  induction events generalizing l with
  | nil => rfl
  | cons e rest ih => exact ih (enter cfg l e)

/-- Alice and Bob have registered, and Alice has created a task and claimed it. -/
def task_claimed : List Event :=
  arrival 0 "alice".toList "a".toList ++ sections 0 3 0 ++ arrival 1 "bob".toList "b".toList ++ sections 1 3 0 ++
  [.receive 0 (.TaskCreate "#c".toList "t".toList)] ++ sections 0 4 1 ++
  [.receive 0 (.TaskClaim "task_1".toList)] ++ sections 0 4 2

/-- Alice releases the task and Bob claims it, one after the other. -/
def handed_over : List Event :=
  task_claimed ++ [.receive 0 (.TaskRelease "task_1".toList)] ++ sections 0 4 3 ++
  [.receive 1 (.TaskClaim "task_1".toList)] ++ sections 1 4 4

theorem settled_handed_over : Settled (run (enter plain) (opened without_channels) handed_over).system := by
  intro sid x inside
  rw [system_enter, opened, idle_of_two (by decide +kernel) (by decide +kernel)] at inside
  cases inside

theorem log_truthful_handed_over :
    TellsTruth without_channels (run (enter plain) (opened without_channels) handed_over) ↔
      AllSteps (enter plain) InTurn (opened without_channels) handed_over :=
  log_truthful_iff plain without_channels handed_over settled_handed_over

/-- Bob's claim follows Alice's release in the table, and its event comes first in the log. -/
def overtaken : List Event :=
  task_claimed ++ [.receive 0 (.TaskRelease "task_1".toList)] ++ sections 0 2 3 ++
  [.receive 1 (.TaskClaim "task_1".toList)] ++ sections 1 4 4 ++ sections 0 2 5

theorem settled_overtaken : Settled (run (enter plain) (opened without_channels) overtaken).system := by
  intro sid x inside
  rw [system_enter, opened, idle_of_two (by decide +kernel) (by decide +kernel)] at inside
  cases inside

/-- The log says that the task is open, while Bob holds it. -/
theorem log_not_truthful : ¬ ∀ events, Settled (run (enter plain) (opened without_channels) events).system →
    TellsTruth without_channels (run (enter plain) (opened without_channels) events) := by
  intro always
  have folded := (always overtaken settled_overtaken).folded "task_1".toList
  revert folded
  decide +kernel

end Aircd.Concurrent

import Aircd.Connecting
import Aircd.Fidelity
import Aircd.Keys
import Aircd.Resuming

/-!
# A client that comes back

Both loops of the client on all that a session is sent: the one of `_do_connect`
skips what comes ahead of the 001 line, and the reader loop queues what comes
behind it, which includes every message after the cursor of the principal.
-/
namespace Aircd.Client
open Aircd.Runs Aircd.Text Aircd.Utf8 Aircd.Daemon Aircd.Protocol Aircd.Auth Aircd.History Aircd.Store
open Aircd.Server (Config Env ServerLine SessionId format_line format_message_tags metadata replay_tag task_tags title_tag)
open Aircd.Concurrent (System Linked)

/-- A message that stays one when it is sent to a target. -/
def Whole (target : Text) (stored : StoredMessage) : Prop :=
  Target target ∧ stored.body ≠ [] ∧ first_line stored.body = stored.body
instance (target : Text) (stored : StoredMessage) : Decidable (Whole target stored) := inferInstanceAs (Decidable (_ ∧ _ ∧ _))

/-- A line whose stored message stays one. -/
def Addressed : ServerLine → Prop
  | .Message message _ _ => Whole message.channel message
  | .TaskEvent message task _ _ _ => Whole task.channel message
  | _ => True
instance : (line : ServerLine) → Decidable (Addressed line)
  | .Message message _ _ => inferInstanceAs (Decidable (Whole message.channel message))
  | .TaskEvent message task _ _ _ => inferInstanceAs (Decidable (Whole task.channel message))
  | .Welcome => .isTrue trivial
  | .Error _ => .isTrue trivial
  | .Pong _ => .isTrue trivial
  | .UnknownCommand _ => .isTrue trivial
  | .Cap _ _ _ => .isTrue trivial
  | .InvalidCap _ _ => .isTrue trivial
  | .PasswordIncorrect => .isTrue trivial
  | .NotRegistered => .isTrue trivial
  | .Registered _ _ => .isTrue trivial
  | .Replaying _ _ => .isTrue trivial
  | .Join _ _ => .isTrue trivial
  | .Part _ _ => .isTrue trivial
  | .NotOnChannel _ _ => .isTrue trivial
  | .TaskFailed _ _ _ _ => .isTrue trivial
  | .TitleRequired _ => .isTrue trivial
  | .TaskRow _ _ => .isTrue trivial
  | .NoTasks _ _ => .isTrue trivial

variable {line : ServerLine} {stored : StoredMessage} {target : Text}

/-! ## One line -/

/-- What the client makes of the line of a whole message. -/
theorem received_whole (legible : Legible line) (carried : line.stored = some stored) (whole : Whole target stored)
    (verb : Conversation (word line)) (rest : line.rest = ':' :: sender line ++ ' ' :: (word line ++ ' ' :: (target ++ ' ' :: ':' :: stored.body)))
    {more : List (Text × Text)} (tags : line.tags = metadata stored ++ more) :
    ∃ msg, received line = some msg ∧ msg.seq = some stored.seq ∧ msg.tag "msg-id".toList = stored.msg_id ∧
      msg.content = stored.body := by
  obtain ⟨named, nonempty, same⟩ := whole
  obtain ⟨parsed, parses, command, params, dictionary⟩ := parse_legible legible rest
  have first : first_line (target ++ ' ' :: ':' :: stored.body) = target ++ ' ' :: ':' :: stored.body := by
    have colon : first_line ([':'] ++ stored.body) = [':'] ++ first_line stored.body :=
      first_line_behind (by decide) rfl (by decide)
    rw [first_line_append (no_line_feed named.1.2)]
    show target ++ ' ' :: first_line ([':'] ++ stored.body) = _
    rw [colon, same]
    rfl
  have plain : PlainKeys (line.tags.map Prod.fst) := by
    rcases plain_tags line with none | plain
    · rw [none] at tags
      simp [metadata] at tags
    · exact plain
  obtain ⟨unchanged, solid⟩ := words_solid (word line) (word_listed line)
  rw [first, split_params_addressed solid named nonempty] at params
  have read : received line = message_of (first_line line.text) parsed := by
    rw [received_clean legible.1, readline_legible legible, Option.bind_some, message, parses, Option.bind_some]
  have made : message_of (first_line line.text) parsed = some ⟨(parsed.tags.get "seq".toList).bind pythonInt, target,
      extract_nick parsed.source, stored.body, first_line line.text, parsed.tags, is_replay parsed.tags⟩ := by
    rw [message_of, params]
    dsimp only
    rw [command]
    exact if_pos verb
  refine ⟨_, read.trans made, ?_, ?_, rfl⟩
  · have carries : parsed.tags.get "seq".toList = some (decimal stored.seq) := by
      rw [dictionary plain]
      exact Dict.get_iff.mpr (by simp [dict, tags, metadata])
    rw [carries, Option.bind_some, pythonInt_decimal]
  · exact tag_of_stored carried ((received_eq legible.2.1).symm.trans (read.trans made))

theorem received_addressed (legible : Legible line) (addressed : Addressed line) (carried : line.stored = some stored) :
    ∃ msg, received line = some msg ∧ msg.seq = some stored.seq ∧ msg.tag "msg-id".toList = stored.msg_id ∧
      msg.content = stored.body := by
  cases line with
  | Message message nick replay =>
    cases carried
    have rest : (ServerLine.Message stored nick replay).rest = ':' :: nick ++
        ' ' :: ("PRIVMSG".toList ++ ' ' :: (stored.channel ++ ' ' :: ':' :: stored.body)) := by
      simp [ServerLine.rest, format_line]
    exact received_whole legible rfl addressed (.inl rfl) rest rfl
  | TaskEvent message task action status actor =>
    cases carried
    have rest : (ServerLine.TaskEvent stored task action status actor).rest = ':' :: SERVER_NAME ++
        ' ' :: ("NOTICE".toList ++ ' ' :: (task.channel ++ ' ' :: ':' :: stored.body)) := by
      simp [ServerLine.rest, format_line]
    have tags : (ServerLine.TaskEvent stored task action status actor).tags =
        metadata stored ++ (task_tags task.id action status actor ++ title_tag task.title) := by
      rw [← List.append_assoc]
      rfl
    exact received_whole legible rfl addressed (.inr rfl) rest tags
  | _ => cases carried

/-! ## Both loops -/

theorem terminated_all {lines : List ServerLine} (clean : ∀ line ∈ lines, '\n' ∉ line.text) :
    Lines.terminated 10 (lines.flatMap ReaderLoop.written) = lines.map (fun line => encode (line.text ++ ['\r'])) := by
  induction lines with
  | nil => rfl
  | cons line lines ih =>
    obtain ⟨first, later⟩ := List.forall_mem_cons.mp clean
    rw [List.flatMap_cons, terminated_written first, ih later, List.map_cons]

/-- The turn of the reader loop on a line that has arrived. -/
def reading (bytes : List UInt8) : ReaderLoop.Event := .line bytes true true

theorem reads_legible {lines : List ServerLine} (legible : ∀ line ∈ lines, Legible line) (auto_reconnect : Bool) (queue : List Message) :
    (run ReaderLoop.step ⟨auto_reconnect, false, .running, queue⟩
      ((lines.map (fun line => encode (line.text ++ ['\r']))).map reading)).message_queue = queue ++ lines.filterMap received := by
  induction lines generalizing queue with
  | nil => exact (List.append_nil queue).symm
  | cons line lines ih =>
    obtain ⟨first, later⟩ := List.forall_mem_cons.mp legible
    obtain ⟨more, rest⟩ := rest_words line
    obtain ⟨parsed, parses, command, _⟩ := parse_legible first rest
    have unasked : parsed.command ≠ "PING".toList := by
      intro ping
      have listed := word_listed line
      rw [← command, ping] at listed
      revert listed
      decide
    have read : received line = message_of (first_line line.text) parsed := by
      rw [received_clean first.1, readline_legible first, Option.bind_some, message, parses, Option.bind_some]
    have turn : ReaderLoop.step ⟨auto_reconnect, false, .running, queue⟩ (reading (encode (line.text ++ ['\r']))) =
        ⟨auto_reconnect, false, .running, queue ++ (received line).toList⟩ := by
      simp only [ReaderLoop.step, reading, ReaderLoop.turn, readline_legible first, parses, if_neg unasked, read]
      rfl
    rw [List.map_cons, List.map_cons, run_cons, turn, ih later]
    cases heard : received line with
    | none => rw [List.filterMap_cons_none heard, Option.toList_none, List.append_nil]
    | some msg => rw [List.filterMap_cons_some heard, Option.toList_some, List.append_assoc, List.singleton_append]

/-- The server once a session has read its memberships, and then some events. -/
def continued (cfg : Config) (l : Linked) (sid : SessionId) (env : Env) (events : List Concurrent.Event) : System :=
  run (Concurrent.step cfg) (Concurrent.step cfg l.system (.run sid env)) events

/-- A client that has connected again misses nothing. Take the moment when its session is about to read the cursors
of its principal, and any interleaving from there that leaves the session current and in the channel: once the
registration has finished, both loops of the client come through all that is written, and its queue holds every
message of the channel after the cursor whose handler has finished, also those that overtook the 001 line. -/
theorem catches_up (cfg : Config) (db : Db) (earlier : List Concurrent.Event) (sid : SessionId) (token name : Text) (more : List UInt8)
    (events : List Linked.Event) (principal : Principal) (channel : Text) (after_seq : Int) (env : Env)
    (first later : List Concurrent.Event) (auto_reconnect : Bool)
    (unused : ((run (Concurrent.step cfg) (Concurrent.start db) earlier).world.connections sid).phase = .Unused)
    (pass : (Call.pass (.ofText token)).Proper) (user : (Call.user (.ofText name)).Proper)
    (known : authenticate cfg.verify db.principals db.principal_tokens token = .ok principal) (named : Target principal.nick)
    (registering : (linked cfg db earlier sid token name more events).system.threads sid = [.mark_connected principal])
    (alive : (linked cfg db earlier sid token name more events).system.world.open sid)
    (read : cursor (linked cfg db earlier sid token name more events).system.world.db principal.id channel = some after_seq)
    (steps : AllSteps (Concurrent.step cfg) (Concurrent.Handoff ⟨sid, principal.id, channel, after_seq⟩)
      (continued cfg (linked cfg db earlier sid token name more events) sid env []) (first ++ later))
    (registered : (continued cfg (linked cfg db earlier sid token name more events) sid env first).threads sid = [])
    (legible : ∀ line ∈ ((continued cfg (linked cfg db earlier sid token name more events) sid env
      (first ++ later)).world.connections sid).lines, Legible line ∧ Addressed line) :
    ∃ rest, register (Lines.terminated 10 (downstream (continued cfg (linked cfg db earlier sid token name more events) sid env
        (first ++ later)) sid)) = ([], .registered (some principal.nick) rest) ∧
      ∀ m ∈ (continued cfg (linked cfg db earlier sid token name more events) sid env (first ++ later)).world.db.messages.rows,
        m.channel = channel → after_seq < m.seq →
        Concurrent.Finished (continued cfg (linked cfg db earlier sid token name more events) sid env (first ++ later)) m →
          ∃ msg ∈ (run ReaderLoop.step (ReaderLoop.start auto_reconnect) (rest.map reading)).message_queue,
            msg.seq = some m.seq ∧ msg.tag "msg-id".toList = m.msg_id ∧ msg.content = m.body := by
  have inv : Concurrent.Introducing cfg (.ok principal) token name (heard more) sid
      (linked cfg db earlier sid token name more events) := by
    rw [linked, heard_calls pass user, ← known]
    exact Concurrent.introducing_run (Concurrent.before_run cfg db token earlier) unused name (heard more) events
  have preface := inv.meeting.authenticated registering alive
  obtain ⟨front, behind, lines, loud, caught⟩ := Concurrent.resumed inv.around.reached inv.around.aloud registering alive read steps registered
  obtain ⟨every, addressed⟩ := forall₂_and.mp legible
  have final : ((continued cfg (linked cfg db earlier sid token name more events) sid env (first ++ later)).world.connections sid).lines =
      Concurrent.preface ++ front ++ .Registered principal.nick principal.team :: behind := by rw [← preface]; exact lines
  have skipped : ∀ line ∈ Concurrent.preface ++ front, Skipped line := by
    intro line inside
    rcases List.mem_append.mp inside with before | ahead
    · exact skipped_preface line before
    · refine skipped_on_channel (loud line ahead) (every line ?_)
      rw [final]
      exact List.mem_append_left _ inside
  have welcome : Legible (.Registered principal.nick principal.team) := by
    apply every
    rw [final]
    exact List.mem_append_right _ List.mem_cons_self
  have inside (line : ServerLine) (here : line ∈ behind) :
      line ∈ ((continued cfg (linked cfg db earlier sid token name more events) sid env (first ++ later)).world.connections sid).lines := by
    rw [final]
    exact List.mem_append_right _ (List.mem_cons_of_mem _ here)
  refine ⟨behind.map (fun line => encode (line.text ++ ['\r'])), ?_, ?_⟩
  · rw [downstream, final, List.flatMap_append, register_all_skipped skipped, List.flatMap_cons, terminated_written welcome.1,
      register_welcomed named welcome, terminated_all (fun line here => (every line (inside line here)).1)]
  · intro m stored here late finished
    obtain ⟨line, sent, carried⟩ := List.mem_filterMap.mp (caught m stored here late finished)
    obtain ⟨msg, heard, seq, tag, content⟩ :=
      received_addressed (every line (inside line sent)) (addressed line (inside line sent)) carried
    refine ⟨msg, ?_, seq, tag, content⟩
    rw [ReaderLoop.start, reads_legible (fun line here => every line (inside line here)), List.nil_append]
    exact List.mem_filterMap.mpr ⟨line, sent, heard⟩

/-! ### A message overtakes Bob's 001 line -/

def alice_present : List Concurrent.Event :=
  Concurrent.arrival 0 "alice".toList "a".toList ++ Concurrent.sections 0 10 0

/-- Bob's task comes to the section that reads his cursors. -/
def bob_turns : List Linked.Event := (List.replicate 4 [.arrive, .system (.run 1 (Server.moment 0))]).flatten

def bob_returning : Linked := linked Server.plain Concurrent.both_in_c alice_present 1 "b".toList "bob".toList [] bob_turns

/-- Alice speaks when Bob's handle is inserted and his 001 line not sent. -/
def overtaking : List Concurrent.Event :=
  Concurrent.sections 1 1 0 ++ [Concurrent.hello 0] ++ Concurrent.sections 0 10 1 ++ Concurrent.sections 1 10 0

theorem bob_returning_eq : bob_returning = run (Linked.step Server.plain 1) (Concurrent.meet Server.plain
    (run (Concurrent.step Server.plain) (Concurrent.start Concurrent.both_in_c) alice_present) 1
      (Concurrent.introduction "b".toList "bob".toList)) bob_turns := by
  rw [bob_returning, linked, heard_calls (by decide) (by decide)]
  rfl

theorem bob_catches_up : ∃ rest,
    register (Lines.terminated 10 (downstream (continued Server.plain bob_returning 1 (Server.moment 0) overtaking) 1)) =
      ([], .registered (some "bob".toList) rest) ∧
    ∀ m ∈ (continued Server.plain bob_returning 1 (Server.moment 0) overtaking).world.db.messages.rows,
      m.channel = "#c".toList → 0 < m.seq →
      Concurrent.Finished (continued Server.plain bob_returning 1 (Server.moment 0) overtaking) m →
        ∃ msg ∈ (run ReaderLoop.step (ReaderLoop.start true) (rest.map reading)).message_queue,
          msg.seq = some m.seq ∧ msg.tag "msg-id".toList = m.msg_id ∧ msg.content = m.body := by
  have bob : bob_returning.system.threads 1 = [.mark_connected ⟨"bob".toList, "bob".toList, none⟩] ∧
      bob_returning.system.world.open 1 ∧ cursor bob_returning.system.world.db "bob".toList "#c".toList = some 0 := by
    rw [bob_returning_eq]
    decide +kernel
  have steps : AllSteps (Concurrent.step Server.plain) (Concurrent.Handoff ⟨1, "bob".toList, "#c".toList, 0⟩)
      (continued Server.plain bob_returning 1 (Server.moment 0) []) (overtaking ++ []) := by
    rw [bob_returning_eq]
    decide +kernel
  have registered : (continued Server.plain bob_returning 1 (Server.moment 0) overtaking).threads 1 = [] := by
    rw [bob_returning_eq]
    decide +kernel
  have legible : ∀ line ∈ ((continued Server.plain bob_returning 1 (Server.moment 0) (overtaking ++ [])).world.connections 1).lines,
      Legible line ∧ Addressed line := by
    rw [bob_returning_eq]
    decide +kernel
  exact catches_up Server.plain Concurrent.both_in_c alice_present 1 "b".toList "bob".toList [] bob_turns
    ⟨"bob".toList, "bob".toList, none⟩ "#c".toList 0 (Server.moment 0) overtaking [] true (by decide +kernel) (by decide) (by decide)
    (by decide) (by decide) bob.1 bob.2.1 bob.2.2 steps registered legible

end Aircd.Client

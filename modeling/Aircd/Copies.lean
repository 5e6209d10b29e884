import Aircd.TaskEvents
import Aircd.Received

/-!
# Live lines and replays

Every line that carries a stored message is signed as its row says: the replay
with the display name of the sender, the live line with the nick of the principal
that sent it or, for a task event, with the name of the server. The client makes
the same of both.
-/
namespace Aircd.Concurrent
open Aircd.Runs Aircd.Text Aircd.Protocol Aircd.Auth Aircd.History Aircd.Tasks Aircd.Store Aircd.Server
open Aircd.Client (CopiesAgree received chat_copies_agree task_copies_agree)

variable {cfg : Config} {s : System} {w : World} {env : Env} {sid sid' : SessionId} {x here : Section} {known : List Principal}

/-- The name of a sender among the principals. -/
def name_of (known : List Principal) (id : Text) : Text :=
  if id = SERVER_NAME then SERVER_NAME else ((known.find? (fun principal => decide (principal.id = id))).map (·.nick)).getD id

theorem display_name_eq (db : Db) (id : Text) : display_name db id = name_of (people db) id := by
  unfold display_name name_of people Table.find
  rw [List.find?_map, Option.map_map]
  rfl

theorem name_of_known {db : Db} {principal : Principal} (listed : principal ∈ people db) (unreserved : principal.id ≠ SERVER_NAME) :
    name_of (people db) principal.id = principal.nick := by
  rw [← display_name_eq, display_name, if_neg unreserved]
  obtain ⟨row, inside, rfl⟩ := List.mem_map.mp listed
  rw [Table.find_iff.mpr ⟨inside, rfl⟩]
  rfl

/-- A notice is signed by the sender of the message that it is sent for. -/
def Notice.Signed (known : List Principal) (sender_id channel : Text) : Notice → Prop
  | .Privmsg nick => ∃ principal ∈ known, principal.id = sender_id ∧ principal.nick = nick
  | .Task task _ _ _ => sender_id = SERVER_NAME ∧ channel = task.channel

/-- A line that carries a message is signed as its row says. -/
def LineSigned (known : List Principal) : ServerLine → Prop
  | .Message message sender true => sender = name_of known message.sender_id
  | .Message message sender false => (Notice.Privmsg sender).Signed known message.sender_id message.channel
  | .TaskEvent message task action status actor => (Notice.Task task action status actor).Signed known message.sender_id message.channel
  | _ => True

def Section.Signed (known : List Principal) : Section → Prop
  | .send line => LineSigned known line
  | .forward _ line => LineSigned known line
  | .broadcast_raw _ line => LineSigned known line
  | .append channel sender_id _ notice => notice.Signed known sender_id channel
  | .broadcast_message _ message notice => notice.Signed known message.sender_id message.channel
  | .deliver _ message notice _ => notice.Signed known message.sender_id message.channel
  | _ => True

theorem signed_line {message : StoredMessage} {notice : Notice} (signed : notice.Signed known message.sender_id message.channel) :
    LineSigned known (notice.line message) := by
  cases notice with
  | Privmsg nick => exact signed
  | Task task action status actor => exact signed

theorem signed_plain {line : ServerLine} (plain : line.stored = none) : LineSigned known line := by
  cases line with
  | Message message sender replay => cases plain
  | TaskEvent message task action status actor => cases plain
  | _ => trivial

/-- What a section sends was signed in it. -/
theorem signed_sends {line : ServerLine} (signed : here.Signed known) (sends : here.sends sid = some (sid', line)) :
    LineSigned known line := by
  cases here with
  | send line' => cases sends; exact signed
  | forward client line' => cases sends; exact signed
  | deliver channel message notice recipient => cases sends; exact signed_line signed
  | _ => cases sends

theorem signed_fresh (begins : x.fresh) : x.Signed known := by
  cases x with
  | send line => exact signed_plain (stored_of_off_channel begins.1)
  | append _ _ _ _ => exact begins.elim
  | broadcast_message _ _ _ => exact begins.elim
  | deliver _ _ _ _ => exact begins.elim
  | forward _ _ => exact begins.elim
  | broadcast_raw _ _ => exact begins.elim
  | _ => trivial

/-- What a section leads to is signed, when whoever it acts for is known. -/
theorem signed_perform (inv : people w.db = known) (acts : ∀ principal ∈ here.principal, principal ∈ known)
    (signed : here.Signed known) (inside : x ∈ (perform cfg w env sid here).2) : x.Signed known := by
  have source := leads_perform inside
  cases x with
  | send line =>
    rcases source with ⟨off, _⟩ | ⟨message, rfl, rfl⟩ | ⟨_, _, rfl, rfl | ⟨_, rfl⟩⟩
    · exact signed_plain (stored_of_off_channel off)
    · rw [display_name_eq, inv]
      exact rfl
    · trivial
    · trivial
  | broadcast_raw channel line =>
    obtain ⟨_, ⟨_, rfl⟩ | ⟨_, rfl⟩⟩ := source
    · trivial
    · trivial
  | forward client line =>
    obtain ⟨_, _, rfl, _⟩ := source
    exact signed
  | broadcast_message channel message notice =>
    obtain ⟨sender_id, body, rfl, rfl⟩ := source
    exact signed
  | deliver channel message notice recipient =>
    obtain ⟨rfl, _⟩ := source
    exact signed
  | append channel sender_id body notice =>
    rcases append_source inside with ⟨principal, rfl, rfl, rfl⟩ | ⟨principal, op, task, _, _, same⟩
    · exact ⟨principal, acts principal rfl, rfl, rfl⟩
    · cases same
      exact ⟨rfl, rfl⟩
  | _ => trivial

/-- The sections and the lines of every session are signed. -/
structure AllSigned (known : List Principal) (s : System) : Prop where
  introduced : Introduced known s
  sections : ∀ sid, ∀ x ∈ s.threads sid, x.Signed known
  lines : ∀ sid, ∀ line ∈ (s.world.connections sid).lines, LineSigned known line

theorem AllSigned.step {e : Event} (inv : AllSigned known s) : AllSigned known (step cfg s e) := by
  refine ⟨inv.introduced.step, ?_, ?_⟩
  · intro sid x inside
    rcases mem_threads_step inside with old | ⟨env, here, rest, rfl, head, new⟩ | begins
    · exact inv.sections sid x old
    · have pending : here ∈ s.threads sid := by rw [head]; exact List.mem_cons_self
      exact signed_perform inv.introduced.people (inv.introduced.sections sid here pending) (inv.sections sid here pending) new
    · exact signed_fresh begins
  · intro sid line inside
    rcases stepped cfg s e with ⟨task, env, here, rest, rfl, head⟩ | idle | notRun
    · rw [step_run head, world_resume, lines_perform] at inside
      rcases List.mem_append.mp inside with old | new
      · exact inv.lines sid line old
      · obtain ⟨⟨target, sent⟩, queued, rfl⟩ := List.mem_map.mp new
        have sends := (Option.filter_eq_some_iff.mp (Option.mem_toList.mp queued)).1
        exact signed_sends (inv.sections task here (by rw [head]; exact List.mem_cons_self)) sends
    · rw [idle] at inside; exact inv.lines sid line inside
    · obtain ⟨more, lines, welcome⟩ := lines_step_other cfg s sid notRun
      rw [lines] at inside
      rcases List.mem_append.mp inside with old | new
      · exact inv.lines sid line old
      · rw [welcome line new]
        trivial

theorem signed_run (cfg : Config) (db : Db) (events : List Event) : AllSigned (people db) (run (step cfg) (start db) events) := by
  apply run_invariant (fun _ _ inv => inv.step) events
  refine ⟨introduced_run cfg db [], ?_, ?_⟩
  · intro sid x inside; cases inside
  · intro sid line inside; cases inside

/-- The line that is sent when a message is stored. -/
def Live (message : StoredMessage) (line : ServerLine) : Prop :=
  (∃ nick, line = .Message message nick false) ∨ ∃ task action status actor, line = .TaskEvent message task action status actor

/-- In every run, the client makes the same of a live line and of any replay of the same row. -/
theorem copies_agree (cfg : Config) (db : Db) (events : List Event) (unreserved : ∀ principal ∈ people db, principal.id ≠ SERVER_NAME)
    (sid sid' : SessionId) (live : ServerLine) (message message' : StoredMessage) (sender : Text) (isLive : Live message live)
    (queued : live ∈ ((run (step cfg) (start db) events).world.connections sid).lines)
    (replayed : .Message message' sender true ∈ ((run (step cfg) (start db) events).world.connections sid').lines)
    (row : message'.seq = message.seq) (fits : Client.Fits live) (fits' : Client.Fits (.Message message' sender true)) :
    CopiesAgree (received live) (received (.Message message' sender true)) := by
  have inv := signed_run cfg db events
  have logged := logged_run cfg db events
  have stored {sid : SessionId} {line : ServerLine} {m : StoredMessage} (carried : line.stored = some m)
      (inside : line ∈ ((run (step cfg) (start db) events).world.connections sid).lines) :
      m ∈ (run (step cfg) (start db) events).world.db.messages.rows :=
    logged.queues sid m (List.mem_filterMap.mpr ⟨line, inside, carried⟩)
  have carried : live.stored = some message := by
    rcases isLive with ⟨nick, rfl⟩ | ⟨task, action, status, actor, rfl⟩
    · rfl
    · rfl
  have same : message' = message := eq_of_seq (stored rfl replayed) (stored carried queued) row
  subst same
  have name : sender = name_of (people db) message'.sender_id := inv.lines sid' _ replayed
  have signed := inv.lines sid live queued
  rcases isLive with ⟨nick, rfl⟩ | ⟨task, action, status, actor, rfl⟩
  · obtain ⟨principal, listed, id, rfl⟩ := signed
    rw [← id, name_of_known listed (unreserved principal listed)] at name
    subst name
    exact chat_copies_agree fits fits'
  · obtain ⟨id, channel⟩ := signed
    have server : sender = SERVER_NAME := by rw [name, id, name_of, if_pos rfl]
    subst server
    exact task_copies_agree channel fits fits'

/-- Alice sends a message and asks for it again. -/
def echo : List Event :=
  arrival 0 "alice".toList "a".toList ++ sections 0 12 0 ++ [hello 0] ++ sections 0 8 1 ++
  [.receive 0 (.History (some "#c".toList) 0 10)] ++ sections 0 8 0

theorem copies_agree_echo :
    CopiesAgree (received (.Message hello_there "alice".toList false)) (received (.Message hello_there "alice".toList true)) :=
  copies_agree plain both_in_c echo (by decide) 0 0 (.Message hello_there "alice".toList false) hello_there hello_there "alice".toList
    (.inl ⟨_, rfl⟩) (by decide +kernel) (by decide +kernel) rfl (by decide +kernel) (by decide +kernel)

end Aircd.Concurrent

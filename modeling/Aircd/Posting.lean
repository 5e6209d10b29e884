import Aircd.Outsiders

/-!
# What becomes of a message

While commands are handled one at a time, a PRIVMSG of a member stores one row and
sends one line to the current session of every member, the sender included, and to
nobody else; the cursors of those members follow, and nothing else changes.
-/
namespace Aircd.Server
open Aircd.Text Aircd.Runs Aircd.Protocol Aircd.Auth Aircd.History Aircd.Tasks Aircd.Store

/-- The session is the current one of a member of the channel, and its queue is open. -/
def Attends (w : World) (c : Text) (sid : SessionId) : Prop :=
  ∃ p, is_member w.db p c = true ∧ w.inner.clients p = some ⟨sid⟩ ∧ w.open sid

/-- The principal is a member of the channel, and its current session has an open queue. -/
def listens (w : World) (c p : Text) : Bool :=
  is_member w.db p c && (w.inner.clients p).any (fun client => decide (w.open client.session_id))

/-- The message is stored in the channel, its line is sent once to the current session of each member, whose cursors
    move up to it, and all else stays. -/
structure Published (w w' : World) (c : Text) (m : StoredMessage) (line : ServerLine) : Prop where
  log : w'.db.messages.rows = w.db.messages.rows ++ [m]
  sequence : w'.db.messages.sequence = m.seq
  told : ∀ sid, Attends w c sid →
    w'.connections sid = { w.connections sid with lines := (w.connections sid).lines ++ [line] }
  untold : ∀ sid, ¬ Attends w c sid → w'.connections sid = w.connections sid
  memberships : w'.db.channel_memberships.rows = w.db.channel_memberships.rows.map (fun row =>
    if row.channel = c ∧ listens w c row.principal_id then { row with last_seen_seq := max row.last_seen_seq m.seq } else row)
  principals : w'.db.principals.rows = w.db.principals.rows.map (fun row =>
    if listens w c row.id then { row with last_seen_seq := max row.last_seen_seq m.seq } else row)
  tokens : w'.db.principal_tokens = w.db.principal_tokens
  tasks : w'.db.tasks = w.db.tasks
  routing : w'.inner = w.inner

variable {w : World} {c : Text} {m : StoredMessage} {sid : SessionId}

/-! ## A broadcast -/

/-- Two updates of a table that set the same. -/
theorem map_twice {Row : Type} (rows : List Row) {set : Row → Row} {first second : Row → Bool}
    (again : ∀ row, set (set row) = set row) (stable : ∀ row, second (set row) = second row) :
    (rows.map (fun row => if first row then set row else row)).map (fun row => if second row then set row else row) =
      rows.map (fun row => if first row || second row then set row else row) := by
  rw [List.map_map]
  apply List.map_congr_left
  intro row _
  by_cases here : first row
  · by_cases there : second row
    · simp [here, there, stable, again]
    · simp [here, there, stable]
  · simp [here]

/-- What a broadcast to the recipients leaves of the routing, of the database and of a connection. -/
structure Sent (w w' : World) (c : Text) (line : ServerLine) (seq : Int) (recipients : List (Text × ClientHandle)) : Prop where
  inner : w'.inner = w.inner
  messages : w'.db.messages = w.db.messages
  tokens : w'.db.principal_tokens = w.db.principal_tokens
  tasks : w'.db.tasks = w.db.tasks
  memberships : w'.db.channel_memberships.rows = w.db.channel_memberships.rows.map (fun row =>
    if recipients.any (fun recipient => decide (recipient.1 = row.principal_id ∧ row.channel = c ∧ w.open recipient.2.session_id))
    then { row with last_seen_seq := max row.last_seen_seq seq } else row)
  principals : w'.db.principals.rows = w.db.principals.rows.map (fun row =>
    if recipients.any (fun recipient => decide (recipient.1 = row.id ∧ w.open recipient.2.session_id))
    then { row with last_seen_seq := max row.last_seen_seq seq } else row)
  connections : ∀ sid, w'.connections sid = { w.connections sid with
    lines := (w.connections sid).lines ++
      if w.open sid then List.replicate (recipients.countP (fun recipient => decide (recipient.2.session_id = sid))) line else [] }

theorem sent_deliver (line : ServerLine) (seq : Int) (recipient : Text × ClientHandle) :
    Sent w (deliver w c line seq recipient) c line seq [recipient] := by
  by_cases alive : w.open recipient.2.session_id
  · rw [deliver_open line seq recipient alive]
    refine ⟨inner_send w _ line, rfl, rfl, rfl, ?_, ?_, ?_⟩
    · apply List.map_congr_left
      intro row _
      have self : recipient.1 = row.principal_id ↔ row.principal_id = recipient.1 := eq_comm
      simp [alive, self]
    · apply List.map_congr_left
      intro row _
      have self : recipient.1 = row.id ↔ row.id = recipient.1 := eq_comm
      simp [alive, self]
    · intro sid
      show (w.send recipient.2.session_id line).connections sid = _
      rw [connections_send]
      by_cases here : sid = recipient.2.session_id
      · subst here
        simp [alive]
      · simp [here, Ne.symm here]
  · rw [deliver_closed line seq recipient alive]
    refine ⟨rfl, rfl, rfl, rfl, ?_, ?_, ?_⟩
    · simp [alive]
    · simp [alive]
    · intro sid
      by_cases here : recipient.2.session_id = sid
      · subst here
        simp [alive]
      · simp [here]

/-- Each session among the recipients is sent the line as often as it is among them. -/
theorem sent_broadcast (line : ServerLine) (seq : Int) (recipients : List (Text × ClientHandle)) (w : World) :
    Sent w (recipients.foldl (fun w recipient => deliver w c line seq recipient) w) c line seq recipients := by
  induction recipients generalizing w with
  | nil => exact ⟨rfl, rfl, rfl, rfl, by simp, by simp, by simp⟩
  | cons first rest ih =>
    have one := @sent_deliver w c line seq first
    have more := ih (deliver w c line seq first)
    rw [List.foldl_cons]
    refine ⟨more.inner.trans one.inner, more.messages.trans one.messages, more.tokens.trans one.tokens,
      more.tasks.trans one.tasks, ?_, ?_, ?_⟩
    · rw [more.memberships, one.memberships, map_twice _ (by intro row; simp) (by intro row; rfl)]
      simp only [open_deliver, List.any_cons, List.any_nil, Bool.or_false]
      congr!
    · rw [more.principals, one.principals, map_twice _ (by intro row; simp) (by intro row; rfl)]
      simp only [open_deliver, List.any_cons, List.any_nil, Bool.or_false]
      congr!
    · intro sid
      have opens := @open_deliver w c sid line seq first
      rw [more.connections, one.connections]
      by_cases alive : w.open sid
      · by_cases here : first.2.session_id = sid
        · simp [alive, opens.mpr alive, here, List.replicate_succ]
        · simp [alive, opens.mpr alive, here]
      · simp [alive, mt opens.mp alive]

/-- No session is among the recipients twice. -/
theorem recipients_once (held : Held w) (sid : SessionId) :
    (recipients_with_ids w.inner c).countP (fun recipient => decide (recipient.2.session_id = sid)) ≤ 1 := by
  have sessions : ((recipients_with_ids w.inner c).map (fun recipient => recipient.2.session_id)).Nodup := by
    apply List.Nodup.map_on
    · rintro ⟨p, h⟩ one ⟨p', h'⟩ two same
      obtain rfl : p = p' := held.unique (mem_recipients.mp one).2 (mem_recipients.mp two).2 same
      have found := (mem_recipients.mp one).2
      rw [(mem_recipients.mp two).2] at found
      cases found
      rfl
    · exact (recipients_ids_nodup w.inner).of_map
  have count := List.nodup_iff_count_le_one.mp sessions sid
  rw [List.count, List.countP_map] at count
  exact count

/-- A session attends a channel when the routing finds it there. -/
theorem attends_iff (routed : Routed w) : Attends w c sid ↔
    w.open sid ∧ ∃ recipient ∈ recipients_with_ids w.inner c, recipient.2.session_id = sid := by
  constructor
  · rintro ⟨p, member, handle, alive⟩
    refine ⟨alive, (p, ⟨sid⟩), mem_recipients.mpr ⟨?_, handle⟩, rfl⟩
    exact routed.listed p c (is_member_iff.mp member) (by rw [handle]; rfl)
  · rintro ⟨alive, ⟨p, h⟩, listed, rfl⟩
    obtain ⟨member, handle⟩ := mem_recipients.mp listed
    exact ⟨p, is_member_iff.mpr (routed.backed p c member), handle, alive⟩

/-- A member listens when the broadcast reaches it. -/
theorem listens_iff (routed : Routed w) {p : Text} : listens w c p = true ↔
    ∃ recipient ∈ recipients_with_ids w.inner c, recipient.1 = p ∧ w.open recipient.2.session_id := by
  rw [listens, Bool.and_eq_true, Option.any_eq_true]
  constructor
  · rintro ⟨member, client, handle, alive⟩
    refine ⟨(p, client), mem_recipients.mpr ⟨?_, handle⟩, rfl, of_decide_eq_true alive⟩
    exact routed.listed p c (is_member_iff.mp member) (by rw [handle]; rfl)
  · rintro ⟨⟨p, client⟩, listed, rfl, alive⟩
    obtain ⟨member, handle⟩ := mem_recipients.mp listed
    exact ⟨is_member_iff.mpr (routed.backed p c member), client, handle, decide_eq_true alive⟩

theorem any_recipient (routed : Routed w) (p : Text) :
    (recipients_with_ids w.inner c).any (fun recipient => decide (recipient.1 = p ∧ w.open recipient.2.session_id)) = listens w c p := by
  rw [Bool.eq_iff_iff, listens_iff routed, List.any_eq_true]
  simp only [decide_eq_true_eq]

/-- Storing a message and broadcasting its line in a state where the routing and the
    memberships agree. -/
theorem published (routed : Routed w) (held : Held w) (env : Env) (c sender_id body : Text) (line : ServerLine) :
    Published w (broadcast_message (append_message w env c sender_id body).1 c line (append_message w env c sender_id body).2.seq)
      c (append_message w env c sender_id body).2 line := by
  have sent : Sent (append_message w env c sender_id body).1
      (broadcast_message (append_message w env c sender_id body).1 c line (append_message w env c sender_id body).2.seq) c line
      (append_message w env c sender_id body).2.seq (recipients_with_ids w.inner c) := sent_broadcast line _ _ _
  have opens (sid : SessionId) : (append_message w env c sender_id body).1.open sid ↔ w.open sid := Iff.rfl
  refine ⟨congrArg Messages.rows sent.messages, congrArg Messages.sequence sent.messages, ?_, ?_, ?_, ?_, sent.tokens, sent.tasks,
    sent.inner⟩
  · intro sid attends
    obtain ⟨alive, recipient, listed, here⟩ := (attends_iff routed).mp attends
    have some : 0 < (recipients_with_ids w.inner c).countP (fun recipient => decide (recipient.2.session_id = sid)) :=
      List.countP_pos_iff.mpr ⟨recipient, listed, decide_eq_true here⟩
    have once := @recipients_once w c held sid
    have one : (recipients_with_ids w.inner c).countP (fun recipient => decide (recipient.2.session_id = sid)) = 1 := by omega
    rw [sent.connections, if_pos ((opens sid).mpr alive), one]
    rfl
  · intro sid absent
    have whole := sent.connections sid
    by_cases alive : w.open sid
    · have none : (recipients_with_ids w.inner c).countP (fun recipient => decide (recipient.2.session_id = sid)) = 0 := by
        rw [List.countP_eq_zero]
        intro recipient listed here
        exact absent ((attends_iff routed).mpr ⟨alive, recipient, listed, of_decide_eq_true here⟩)
      rw [none, List.replicate_zero, ite_self, List.append_nil] at whole
      exact whole
    · rw [if_neg (mt (opens sid).mp alive), List.append_nil] at whole
      exact whole
  · rw [sent.memberships]
    apply List.map_congr_left
    intro row _
    by_cases here : row.channel = c
    · simp only [here, true_and, opens, any_recipient routed]
    · simp [here]
  · rw [sent.principals]
    simp only [opens, any_recipient routed]
    rfl

/-- In every reached state a PRIVMSG of a current session to a channel of its principal
    is stored as one row under the id of the principal, and its line is sent to the
    current session of every member once, and to no other session; to another channel
    it is answered with a 442 line, and does nothing else. -/
theorem privmsg_reaches_members (cfg : Config) (db : Db) (events : List Event) (sid : SessionId) (principal : Principal)
    (target body : Text) (env : Env) (acts : current (run (step cfg) (start db) events) sid = some principal) :
    let w := run (step cfg) (start db) events
    let w' := (handle_command cfg w env sid (.Privmsg target body)).1
    let message := next w.db.messages (normalize_channel target) principal.id body ("msg_".toList ++ env.message_uuid) env.created_at
    (is_member w.db principal.id (normalize_channel target) = true →
      Published w w' (normalize_channel target) message (.Message message principal.nick false)) ∧
    (is_member w.db principal.id (normalize_channel target) = false →
      w' = w.send sid (.NotOnChannel principal.nick (normalize_channel target))) := by
  intro w w' message
  obtain ⟨routed, held⟩ := reachable_held cfg db events
  have handled : w' = privmsg w env sid principal (normalize_channel target) body := by
    show (handle_command cfg w env sid (.Privmsg target body)).1 = _
    rw [handle_command, with_registered_current acts]
  rw [handled, privmsg]
  constructor
  · intro member
    rw [if_pos member]
    exact published routed held env (normalize_channel target) principal.id body (.Message message principal.nick false)
  · intro outside
    rw [outside]
    rfl

/-- Alice and Bob are members of `#c`, and Carol is not. -/
def gathered_db : Db :=
  ⟨⟨[person "alice".toList "a".toList, person "bob".toList "b".toList, person "carol".toList "c".toList], by decide⟩,
    Table.empty, ⟨[⟨"bob".toList, "#c".toList, 0, 0⟩, ⟨"alice".toList, "#c".toList, 0, 0⟩], by decide⟩, Messages.empty, Table.empty⟩

def gathering : List Event :=
  arrival 0 "alice".toList "a".toList ++ arrival 1 "bob".toList "b".toList ++ arrival 2 "carol".toList "c".toList

def gathered : World := run (step plain) (start gathered_db) gathering

/-- Bob hears what Alice says in the channel, Carol does not, and is answered that she is not there when she speaks. -/
theorem alice_greets :
    let w' := (handle_command plain gathered (moment 1) 0 (.Privmsg "#c".toList "hello".toList)).1
    let message : StoredMessage := ⟨1, "msg_1".toList, "#c".toList, "alice".toList, "hello".toList, 0⟩
    Published gathered w' "#c".toList message (.Message message "alice".toList false) ∧
    (w'.connections 1).lines = (gathered.connections 1).lines ++ [.Message message "alice".toList false] ∧
    w'.connections 2 = gathered.connections 2 ∧
    (handle_command plain gathered (moment 1) 2 (.Privmsg "#c".toList "hello".toList)).1 =
      gathered.send 2 (.NotOnChannel "carol".toList "#c".toList) := by
  have said := (privmsg_reaches_members plain gathered_db gathering 0 ⟨"alice".toList, "alice".toList, none⟩ "#c".toList
    "hello".toList (moment 1) (by decide)).1 (by decide)
  have refused := (privmsg_reaches_members plain gathered_db gathering 2 ⟨"carol".toList, "carol".toList, none⟩ "#c".toList
    "hello".toList (moment 1) (by decide)).2 (by decide)
  have bob : Attends gathered "#c".toList 1 := ⟨"bob".toList, by decide, by decide, by decide⟩
  have carol : ¬ Attends gathered "#c".toList 2 := by
    rw [gathered, attends_iff (reachable_held plain gathered_db gathering).1]
    decide
  have told := congrArg Connection.lines (said.told 1 bob)
  exact ⟨said, told, said.untold 2 carol, refused⟩

end Aircd.Server

import Aircd.Endings
import Aircd.Flow

/-!
# Who hears a channel

A line that tells what happens in a channel, as it happens, reaches only sessions
of principals that have been members of the channel; and a message reaches only
those that its channel listed at some moment after it was stored. What a session
asks for with CHATHISTORY, and the replay of its registration, come as replays.
-/
namespace Aircd.Concurrent
open Aircd.Runs Aircd.Text Aircd.Protocol Aircd.Auth Aircd.History Aircd.Tasks Aircd.Store Aircd.Server

/-- The channel of a line that tells what happens in it. -/
def live_channel : ServerLine → Option Text
  | .Message message _ false => some message.channel
  | .TaskEvent message _ _ _ _ => some message.channel
  | .Join _ channel => some channel
  | .Part _ channel => some channel
  | _ => none

/-- The principal was a member of the channel in one of these states. -/
def Joined (past : Set System) (p c : Text) : Prop := ∃ t ∈ past, (cursor t.world.db p c).isSome = true

/-- The channel of the message listed the principal in one of these states, when the message was stored. -/
def Listed (past : Set System) (p : Text) (m : StoredMessage) : Prop :=
  ∃ t ∈ past, m ∈ t.world.db.messages.rows ∧ p ∈ members t.world.inner m.channel

/-- The session is of a principal to whom the line may be told. -/
def MayHear (past : Set System) (w : World) (sid : SessionId) (line : ServerLine) : Prop :=
  ∀ c, live_channel line = some c → ∃ principal, w.principal sid = some principal ∧ Joined past principal.id c ∧
    ∀ m, line.stored = some m → Listed past principal.id m

def Section.Discreet (past : Set System) (w : World) (sid : SessionId) : Section → Prop
  | .insert_client principal rows => ∀ row ∈ rows, Joined past principal.id row.channel
  | .add_member principal channel => Joined past principal.id channel
  | .send line => MayHear past w sid line
  | .forward client line => MayHear past w client.session_id line
  | .broadcast_raw channel line => ∀ c, live_channel line = some c → c = channel
  | .deliver _ message notice recipient => MayHear past w recipient.2.session_id (notice.line message)
  | _ => True

variable {cfg : Config} {s : System} {w w' : World} {env : Env} {sid sid' : SessionId} {x here : Section} {e : Event}
  {past past' : Set System} {p c : Text} {m : StoredMessage} {line : ServerLine}

theorem Joined.mono (sub : past ⊆ past') (joined : Joined past p c) : Joined past' p c := by
  obtain ⟨t, inside, member⟩ := joined
  exact ⟨t, sub inside, member⟩

theorem Listed.mono (sub : past ⊆ past') (listed : Listed past p m) : Listed past' p m := by
  obtain ⟨t, inside, there⟩ := listed
  exact ⟨t, sub inside, there⟩

theorem MayHear.mono (sub : past ⊆ past')
    (stays : ∀ principal, w.principal sid = some principal → w'.principal sid = some principal)
    (may : MayHear past w sid line) : MayHear past' w' sid line := by
  intro c live
  obtain ⟨principal, speaks, joined, listed⟩ := may c live
  exact ⟨principal, stays principal speaks, joined.mono sub, fun m carried => (listed m carried).mono sub⟩

theorem mayHear_quiet (quiet : live_channel line = none) : MayHear past w sid line := by
  intro c live
  rw [quiet] at live
  cases live

theorem live_channel_off (off : on_channel line = false) : live_channel line = none := by
  cases line with
  | Message message sender replay => cases off
  | TaskEvent message task action status actor => cases off
  | Join nick channel => cases off
  | Part nick channel => cases off
  | _ => rfl

theorem live_channel_notice (notice : Notice) : live_channel (notice.line m) = some m.channel := by
  cases notice with
  | Privmsg nick => rfl
  | Task task action status actor => rfl

theorem Section.Discreet.mono (sub : past ⊆ past')
    (stays : ∀ sid principal, w.principal sid = some principal → w'.principal sid = some principal)
    (discreet : x.Discreet past w sid) : x.Discreet past' w' sid := by
  cases x with
  | insert_client principal rows => exact fun row inside => (discreet row inside).mono sub
  | add_member principal channel => exact Joined.mono sub discreet
  | send line => exact MayHear.mono sub (stays sid) discreet
  | forward client line => exact MayHear.mono sub (stays _) discreet
  | broadcast_raw channel line => exact discreet
  | deliver channel message notice recipient => exact MayHear.mono sub (stays _) discreet
  | _ => trivial

theorem discreet_fresh (begins : x.fresh) : x.Discreet past w sid := by
  cases x with
  | send line => exact mayHear_quiet (live_channel_off begins.1)
  | insert_client principal rows => exact begins.elim
  | add_member principal channel => exact begins.elim
  | forward client line => exact begins.elim
  | broadcast_raw channel line => exact begins.elim
  | deliver channel message notice recipient => exact begins.elim
  | _ => trivial

/-- What a session hears it is sent by a section that may send it. -/
theorem discreet_sends (discreet : here.Discreet past w sid) (sends : here.sends sid = some (sid', line)) :
    MayHear past w sid' line := by
  cases here with
  | send line' => cases sends; exact discreet
  | forward client line' => cases sends; exact discreet
  | deliver channel message notice recipient => cases sends; exact discreet
  | _ => cases sends

/-- Only two sections list a principal in a channel. -/
theorem members_source (inside : p ∈ members (perform cfg w env sid here).1.inner c) :
    p ∈ members w.inner c ∨ (∃ principal, here = .add_member principal c ∧ principal.id = p) ∨
      ∃ principal rows, here = .insert_client principal rows ∧ principal.id = p ∧ ∃ row ∈ rows, row.channel = c := by
  cases here with
  | insert_client principal rows =>
    rcases (mem_members_insert_client sid _).mp inside with before | ⟨same, listed⟩
    · exact .inl before
    · obtain ⟨row, among, channel⟩ := List.mem_map.mp listed
      exact .inr (.inr ⟨principal, rows, rfl, same.symm, row, among, channel⟩)
  | add_member principal channel =>
    rcases mem_members_add_member.mp inside with before | ⟨same, channel⟩
    · exact .inl before
    · subst channel
      exact .inr (.inl ⟨principal, rfl, same.symm⟩)
  | remove_member principal channel => exact .inl (mem_members_remove_member.mp inside).1
  | remove_client principal =>
    rw [perform_remove_client] at inside
    unfold Server.remove_client at inside
    split at inside
    · exact .inl inside
    · exact .inl inside
  | send line => left; simpa [perform] using inside
  | forward client line => left; simpa [perform] using inside
  | deliver channel message notice recipient => left; rw [perform_deliver] at inside; simpa using inside
  | try_register =>
    left
    rcases perform_try_register cfg w env sid with ⟨_, result, _⟩ | ⟨_, _, _, result⟩
    · rw [result] at inside; exact inside
    · rw [result] at inside; exact inside
  | finish => exact .inl inside
  | mark_seen principal_id channel seq => exact .inl inside
  | add_membership principal channel => exact .inl inside
  | remove_membership principal channel => exact .inl inside
  | append channel sender_id body notice => exact .inl inside
  | _ => left; rw [(calm_perform rfl).1.inner] at inside; exact inside

/-! ## Whole runs -/

structure Private (past : Set System) (s : System) : Prop where
  held : Held s
  logged : Logged s
  members : ∀ p c, p ∈ members s.world.inner c → Joined past p c
  sections : ∀ sid, ∀ x ∈ s.threads sid, x.Discreet past s.world sid
  lines : ∀ sid, ∀ line ∈ (s.world.connections sid).lines, MayHear past s.world sid line

/-- Whoever has a handle and is listed in a channel may hear what is told there. -/
theorem Private.listener {client : ClientHandle} (inv : Private past s) (listed : (p, client) ∈ recipients_with_ids s.world.inner c) :
    ∃ principal, s.world.principal client.session_id = some principal ∧ principal.id = p ∧ Joined past p c ∧
      p ∈ Server.members s.world.inner c := by
  obtain ⟨member, handle⟩ := mem_recipients.mp listed
  obtain ⟨principal, speaks, self⟩ := inv.held.owned p client handle
  exact ⟨principal, speaks, self, inv.members p c member, member⟩

/-- What a section puts before the rest of its task is as discreet as the section. -/
theorem Private.perform {rest : List Section} (inv : Private past s) (now : s ∈ past) (head : s.threads sid = here :: rest)
    (inside : x ∈ (perform cfg s.world env sid here).2) (other : ∀ principal channel, x ≠ .add_member principal channel) :
    x.Discreet past s.world sid := by
  have pending : here ∈ s.threads sid := by rw [head]; exact List.mem_cons_self
  have source := leads_perform inside
  cases x with
  | send line =>
    rcases source with ⟨off, _⟩ | ⟨message, rfl, rfl⟩ | ⟨principal, rows, rfl, _⟩
    · exact mayHear_quiet (live_channel_off off)
    · exact mayHear_quiet rfl
    · simp only [Concurrent.perform, welcome, List.mem_append, List.mem_singleton, List.mem_map] at inside
      rcases inside with (same | ⟨row, among, same⟩) | replays
      · cases same
        exact mayHear_quiet rfl
      · cases same
        intro c live
        cases live
        refine ⟨principal, inv.held.joins sid principal (.inr ⟨rows, pending⟩), ?_, fun m carried => by cases carried⟩
        exact inv.sections sid _ pending row among
      · split at replays
        · cases replays
        · rcases List.mem_cons.mp replays with same | later
          · cases same
            exact mayHear_quiet rfl
          · obtain ⟨row, _, same⟩ := List.mem_map.mp later
            cases same
  | insert_client principal rows =>
    obtain ⟨rfl, rfl⟩ := source
    intro row among
    exact ⟨s, now, by rw [mem_memberships.mp among]; rfl⟩
  | add_member principal channel => exact absurd rfl (other principal channel)
  | broadcast_raw channel line =>
    obtain ⟨principal, ⟨_, rfl⟩ | ⟨_, rfl⟩⟩ := source
    · intro c live; cases live; rfl
    · intro c live; cases live; rfl
  | forward client line =>
    obtain ⟨channel, p, rfl, listed⟩ := source
    intro c live
    have own : c = channel := inv.sections sid _ pending c live
    subst own
    obtain ⟨principal, speaks, rfl, joined, _⟩ := inv.listener listed
    have plain : line.stored = none := inv.logged.tasks sid _ pending
    exact ⟨principal, speaks, joined, fun m carried => by rw [plain] at carried; cases carried⟩
  | deliver channel message notice recipient =>
    obtain ⟨rfl, listed⟩ := source
    obtain ⟨stored, own⟩ := inv.logged.tasks sid _ pending
    obtain ⟨principal, speaks, self, joined, member⟩ := inv.listener listed
    intro c live
    rw [live_channel_notice] at live
    cases live
    refine ⟨principal, speaks, by rw [self, own]; exact joined, fun m carried => ?_⟩
    rw [stored_line] at carried
    cases carried
    exact ⟨s, now, stored, by rw [self, own]; exact member⟩
  | _ => trivial

theorem Private.step (inv : Private past s) (now : s ∈ past) : Private (insert (step cfg s e) past) (step cfg s e) := by
  have sub : past ⊆ insert (Concurrent.step cfg s e) past := Set.subset_insert _ _
  have stays (sid : SessionId) (principal : Principal) (speaks : s.world.principal sid = some principal) :
      (Concurrent.step cfg s e).world.principal sid = some principal := inv.held.speaks speaks e
  refine ⟨inv.held.step, inv.logged.step, ?_, ?_, ?_⟩
  · intro p c inside
    rcases stepped cfg s e with ⟨sid, env, here, rest, rfl, head⟩ | idle | notRun
    · have pending : here ∈ s.threads sid := by rw [head]; exact List.mem_cons_self
      rw [step_run head, world_resume] at inside
      rcases members_source inside with before | ⟨principal, rfl, rfl⟩ | ⟨principal, rows, rfl, rfl, row, among, rfl⟩
      · exact (inv.members p c before).mono sub
      · exact Joined.mono sub (inv.sections sid _ pending)
      · exact Joined.mono sub (inv.sections sid _ pending row among)
    · rw [idle] at inside
      exact (inv.members p c inside).mono sub
    · by_cases restarts : e = .restart
      · subst restarts
        simp [Concurrent.step, Server.step, ServerInner.default, Server.members] at inside
      · rw [(step_other cfg s notRun restarts).1.inner] at inside
        exact (inv.members p c inside).mono sub
  · intro sid x inside
    rcases mem_threads_step inside with old | ⟨env, here, rest, rfl, head, new⟩ | begins
    · exact (inv.sections sid x old).mono sub stays
    · by_cases adds : ∃ principal channel, x = .add_member principal channel
      · obtain ⟨principal, channel, rfl⟩ := adds
        obtain rfl : here = .add_membership principal channel := leads_perform new
        refine ⟨_, Set.mem_insert _ _, ?_⟩
        rw [step_run head, world_resume, cursor_perform]
        dsimp only
        split
        · rfl
        · next known => simpa [Option.isSome_iff_ne_none] using known
      · exact (inv.perform now head new (fun principal channel same => adds ⟨principal, channel, same⟩)).mono sub stays
    · exact discreet_fresh begins
  · intro sid line inside
    rcases stepped cfg s e with ⟨task, env, here, rest, rfl, head⟩ | idle | notRun
    · rw [step_run head, world_resume, lines_perform] at inside
      rcases List.mem_append.mp inside with old | new
      · exact (inv.lines sid line old).mono sub (stays sid)
      · obtain ⟨⟨target, sent⟩, queued, rfl⟩ := List.mem_map.mp new
        obtain ⟨sends, mine⟩ := Option.filter_eq_some_iff.mp (Option.mem_toList.mp queued)
        obtain ⟨_, rfl⟩ := of_decide_eq_true mine
        have may := discreet_sends (inv.sections task here (by rw [head]; exact List.mem_cons_self)) sends
        exact may.mono sub (stays target)
    · rw [idle] at inside
      exact (inv.lines sid line inside).mono sub (stays sid)
    · obtain ⟨more, lines, welcome⟩ := lines_step_other cfg s sid notRun
      rw [lines] at inside
      rcases List.mem_append.mp inside with old | new
      · exact (inv.lines sid line old).mono sub (stays sid)
      · rw [welcome line new]
        exact mayHear_quiet rfl

/-- In every run, what a session is told of a channel as it happens, it is told as the
    session of a principal that was a member of the channel at some moment; and a
    message it is told so only when its channel listed the principal at some moment
    after the message was stored. -/
theorem heard_by_members (cfg : Config) (db : Db) (events : List Event) (sid : SessionId) (line : ServerLine) (c : Text)
    (queued : line ∈ ((run (step cfg) (start db) events).world.connections sid).lines) (live : live_channel line = some c) :
    ∃ principal, (run (step cfg) (start db) events).world.principal sid = some principal ∧
      (∃ before, before <+: events ∧ (cursor (run (step cfg) (start db) before).world.db principal.id c).isSome = true) ∧
      ∀ m, line.stored = some m → ∃ before, before <+: events ∧
        m ∈ (run (step cfg) (start db) before).world.db.messages.rows ∧
        principal.id ∈ members (run (step cfg) (start db) before).world.inner m.channel := by
  have first : Private {start db} (start db) := by
    refine ⟨held_start db, logged_run cfg db [], ?_, ?_, ?_⟩
    · intro p c inside; simp [start, Server.start, ServerInner.default, members] at inside
    · intro sid x inside; cases inside
    · intro sid line inside; cases inside
  have inv : Private (visited (step cfg) (start db) events) (run (step cfg) (start db) events) :=
    run_invariant_past first (fun past t e now inv => inv.step now) events
  obtain ⟨principal, speaks, ⟨_, ⟨before, initial, rfl⟩, member⟩, listed⟩ := inv.lines sid line queued c live
  refine ⟨principal, speaks, ⟨before, initial, member⟩, fun m carried => ?_⟩
  obtain ⟨_, ⟨before', initial', rfl⟩, stored, named⟩ := listed m carried
  exact ⟨before', initial', stored, named⟩

/-- Alice hears herself in the channel. -/
def said_aloud : List Event :=
  arrival 0 "alice".toList "a".toList ++ sections 0 12 0 ++ [hello 0] ++ sections 0 8 1

theorem heard_by_alice :
    ∃ principal, (run (step plain) (start both_in_c) said_aloud).world.principal 0 = some principal ∧
      (∃ before, before <+: said_aloud ∧ (cursor (run (step plain) (start both_in_c) before).world.db principal.id "#c".toList).isSome = true) ∧
      ∀ m, (ServerLine.Message hello_there "alice".toList false).stored = some m → ∃ before, before <+: said_aloud ∧
        m ∈ (run (step plain) (start both_in_c) before).world.db.messages.rows ∧
        principal.id ∈ members (run (step plain) (start both_in_c) before).world.inner m.channel :=
  heard_by_members plain both_in_c said_aloud 0 (.Message hello_there "alice".toList false) "#c".toList (by decide +kernel) rfl

/-! ## How often -/

/-- The line tells the message with the seq as it happens. -/
def tells (seq : Int) : ServerLine → Bool
  | .Message message _ false => decide (message.seq = seq)
  | .TaskEvent message _ _ _ _ => decide (message.seq = seq)
  | _ => false

/-- The section has the message with the seq to send to the session. -/
def Section.owes (target : SessionId) (seq : Int) : Section → Bool
  | .broadcast_message _ message _ => decide (message.seq = seq)
  | .deliver _ message _ recipient => decide (message.seq = seq ∧ recipient.2.session_id = target)
  | _ => false

/-- The section tells no message with a line that it has ready. -/
def Section.hushed (seq : Int) : Section → Bool
  | .send line => !tells seq line
  | .forward _ line => !tells seq line
  | .broadcast_raw _ line => !tells seq line
  | _ => true

/-- How often a session was told the message. -/
def told (w : World) (target : SessionId) (seq : Int) : Nat := (w.connections target).lines.countP (tells seq)

/-- One task at most has the message to send to the session, once, or has sent it. -/
structure Once (target : SessionId) (seq : Int) (s : System) : Prop where
  held : Held s
  hushed : ∀ sid, ∀ x ∈ s.threads sid, x.hushed seq = true
  unborn : s.world.db.messages.sequence < seq → (∀ sid, (s.threads sid).countP (·.owes target seq) = 0) ∧ told s.world target seq = 0
  single : ∃ task, (∀ sid, sid ≠ task → (s.threads sid).countP (·.owes target seq) = 0) ∧
    (s.threads task).countP (·.owes target seq) + told s.world target seq ≤ 1

variable {target : SessionId} {seq : Int}

theorem tells_plain (plain : line.stored = none) : tells seq line = false := by
  cases line with
  | Message message sender replay => cases plain
  | TaskEvent message task action status actor => cases plain
  | _ => rfl

theorem tells_off (off : on_channel line = false) : tells seq line = false := tells_plain (stored_of_off_channel off)

theorem hushed_fresh (begins : x.fresh) : x.hushed seq = true := by
  cases x with
  | send line => simp [Section.hushed, tells_off begins.1]
  | forward client line => exact begins.elim
  | broadcast_raw channel line => exact begins.elim
  | _ => rfl

theorem owes_fresh (begins : x.fresh) : x.owes target seq = false := by
  cases x with
  | broadcast_message channel message notice => exact begins.elim
  | deliver channel message notice recipient => exact begins.elim
  | _ => rfl

theorem hushed_perform (hushed : here.hushed seq = true) (inside : x ∈ (perform cfg w env sid here).2) : x.hushed seq = true := by
  have source := leads_perform inside
  cases x with
  | send line =>
    rcases source with ⟨off, _⟩ | ⟨message, _, rfl⟩ | ⟨_, _, _, rfl | ⟨_, rfl⟩⟩
    · simp [Section.hushed, tells_off off]
    · rfl
    · rfl
    · rfl
  | broadcast_raw channel line =>
    obtain ⟨_, ⟨_, rfl⟩ | ⟨_, rfl⟩⟩ := source
    · rfl
    · rfl
  | forward client line =>
    obtain ⟨_, _, rfl, _⟩ := source
    exact hushed
  | _ => rfl

/-- A session is the handle of one principal at most. -/
theorem recipients_countP (held : Held s) (c : Text) :
    (recipients_with_ids s.world.inner c).countP (fun recipient => decide (recipient.2.session_id = target)) ≤ 1 := by
  have same {p p' : Text} {client client' : ClientHandle} (one : (p, client) ∈ recipients_with_ids s.world.inner c)
      (two : (p', client') ∈ recipients_with_ids s.world.inner c) (sessions : client.session_id = client'.session_id) : p = p' := by
    obtain ⟨principal, speaks, rfl⟩ := held.owned p client (mem_recipients.mp one).2
    obtain ⟨principal', speaks', rfl⟩ := held.owned p' client' (mem_recipients.mp two).2
    rw [sessions, speaks'] at speaks
    cases speaks
    rfl
  have apart := @recipients_ids_nodup c s.world.inner
  revert apart same
  generalize recipients_with_ids s.world.inner c = recipients
  intro same apart
  induction recipients with
  | nil => simp
  | cons first rest ih =>
    rw [List.map_cons, List.nodup_cons] at apart
    have later := ih (fun one two => same (List.mem_cons_of_mem _ one) (List.mem_cons_of_mem _ two)) apart.2
    by_cases here : first.2.session_id = target
    · have none : rest.countP (fun recipient => decide (recipient.2.session_id = target)) = 0 := by
        rw [List.countP_eq_zero]
        intro other inside there
        have id := @same first.1 other.1 first.2 other.2 List.mem_cons_self (List.mem_cons_of_mem _ inside)
          (here.trans (of_decide_eq_true there).symm)
        exact apart.1 (id ▸ List.mem_map_of_mem inside)
      simp [here, none]
    · simpa [List.countP_cons, here] using later

/-- What a session was told it stays told. -/
theorem told_perform (here : Section) : told w target seq ≤ told (perform cfg w env sid here).1 target seq := by
  rw [told, told, lines_perform, List.countP_append]
  exact Nat.le_add_right _ _

/-- Apart from an `append`, a section leaves to do and tells no more than it owes. -/
theorem owes_perform (held : Held s) (hushed : here.hushed seq = true)
    (other : ∀ channel sender_id body notice, here ≠ .append channel sender_id body notice) :
    (perform cfg s.world env sid here).2.countP (·.owes target seq) + told (perform cfg s.world env sid here).1 target seq ≤
      (if here.owes target seq then 1 else 0) + told s.world target seq := by
  have silent (plain : ∀ c m n, here ≠ .broadcast_message c m n) : (perform cfg s.world env sid here).2.countP (·.owes target seq) = 0 := by
    rw [List.countP_eq_zero]
    intro x inside owes
    have source := leads_perform inside
    cases x with
    | broadcast_message channel message notice =>
      obtain ⟨sender_id, body, rfl, _⟩ := source
      exact other _ _ _ _ rfl
    | deliver channel message notice recipient => exact plain _ _ _ source.1
    | _ => cases owes
  have lines : told (perform cfg s.world env sid here).1 target seq = told s.world target seq +
      (((here.sends sid).filter (fun sent => decide (s.world.open target ∧ sent.1 = target))).toList.map Prod.snd).countP (tells seq) := by
    rw [told, lines_perform, List.countP_append, told]
  have still (none : ∀ sent, here.sends sid = some sent → tells seq sent.2 = false) :
      told (perform cfg s.world env sid here).1 target seq = told s.world target seq := by
    rw [lines, Nat.add_eq_left, List.countP_eq_zero]
    intro line inside tell
    obtain ⟨sent, among, rfl⟩ := List.mem_map.mp inside
    rw [none sent (Option.filter_eq_some_iff.mp (Option.mem_toList.mp among)).1] at tell
    cases tell
  cases here with
  | broadcast_message channel message notice =>
    rw [still (fun sent sends => by cases sends)]
    by_cases own : message.seq = seq
    · have count : (recipients_with_ids s.world.inner channel).countP
          (fun recipient => decide (recipient.2.session_id = target)) ≤ 1 := recipients_countP held channel
      have delivers : (perform cfg s.world env sid (.broadcast_message channel message notice)).2.countP (·.owes target seq) =
          (recipients_with_ids s.world.inner channel).countP (fun recipient => decide (recipient.2.session_id = target)) := by
        rw [perform, List.countP_map]
        apply List.countP_congr
        intro recipient _
        simp [Section.owes, own]
      have due : Section.owes target seq (.broadcast_message channel message notice) = true := decide_eq_true own
      rw [delivers, due, if_pos rfl]
      omega
    · have none : (perform cfg s.world env sid (.broadcast_message channel message notice)).2.countP (·.owes target seq) = 0 := by
        rw [List.countP_eq_zero]
        intro x inside owes
        obtain ⟨recipient, _, rfl⟩ := List.mem_map.mp inside
        simp [Section.owes, own] at owes
      omega
  | deliver channel message notice recipient =>
    rw [silent (fun _ _ _ same => by cases same), lines, Nat.zero_add, Nat.add_comm]
    apply Nat.add_le_add_right
    by_cases mine : s.world.open target ∧ recipient.2.session_id = target
    · have one : (notice.line message :: []).countP (tells seq) ≤ if message.seq = seq then 1 else 0 := by
        cases notice with
        | Privmsg nick => simp [tells, Notice.line, List.countP_cons]
        | Task task action status actor => simp [tells, Notice.line, List.countP_cons]
      simpa [Section.sends, Section.owes, Option.filter, mine.1, mine.2] using one
    · simp [Section.sends, Option.filter, mine]
  | send line =>
    rw [silent (fun _ _ _ same => by cases same), still]
    · omega
    · intro sent sends
      cases sends
      simpa [Section.hushed] using hushed
  | forward client line =>
    rw [silent (fun _ _ _ same => by cases same), still]
    · omega
    · intro sent sends
      cases sends
      simpa [Section.hushed] using hushed
  | _ =>
    rw [silent (fun _ _ _ same => by cases same), still (fun sent sends => by cases sends)]
    omega

/-- An `append` owes the message that it stores, and tells nothing. -/
theorem owes_append (channel sender_id body : Text) (notice : Notice) :
    (perform cfg w env sid (.append channel sender_id body notice)).2.countP (·.owes target seq) =
      (if seq = w.db.messages.sequence + 1 then 1 else 0) ∧
    told (perform cfg w env sid (.append channel sender_id body notice)).1 target seq = told w target seq ∧
    (perform cfg w env sid (.append channel sender_id body notice)).1.db.messages.sequence = w.db.messages.sequence + 1 := by
  refine ⟨?_, rfl, rfl⟩
  simp [perform, append_message, Section.owes, next, List.countP_cons, eq_comm]

/-- How often a task has the message to send to the session. -/
def owed (s : System) (target : SessionId) (seq : Int) (task : SessionId) : Nat := (s.threads task).countP (·.owes target seq)

/-- No task owes more than before, and what is told besides was owed by one. -/
structure Spends (sid : SessionId) (owed owed' : SessionId → Nat) (told told' : Nat) : Prop where
  others : ∀ task, task ≠ sid → owed' task ≤ owed task
  spent : owed' sid + told' ≤ owed sid + told
  grows : told ≤ told'

theorem Spends.none {owed owed' : SessionId → Nat} {told told' : Nat} (spends : Spends sid owed owed' told told')
    (none : (∀ task, owed task = 0) ∧ told = 0) : (∀ task, owed' task = 0) ∧ told' = 0 := by
  have spent := spends.spent
  have mine := none.1 sid
  refine ⟨?_, by omega⟩
  intro task
  by_cases own : task = sid
  · subst own
    omega
  · have fewer := spends.others task own
    have before := none.1 task
    omega

theorem Spends.single {owed owed' : SessionId → Nat} {told told' : Nat} (spends : Spends sid owed owed' told told')
    (single : ∃ task, (∀ other, other ≠ task → owed other = 0) ∧ owed task + told ≤ 1) :
    ∃ task, (∀ other, other ≠ task → owed' other = 0) ∧ owed' task + told' ≤ 1 := by
  obtain ⟨task, rest, one⟩ := single
  have spent := spends.spent
  have grows := spends.grows
  by_cases own : sid = task
  · subst own
    refine ⟨sid, ?_, by omega⟩
    intro other apart
    have fewer := spends.others other apart
    have before := rest other apart
    omega
  · have mine := rest sid own
    refine ⟨task, ?_, ?_⟩
    · intro other apart
      by_cases here : other = sid
      · subst here
        omega
      · have fewer := spends.others other here
        have before := rest other apart
        omega
    · have fewer := spends.others task (Ne.symm own)
      omega

theorem hushed_step (hushed : ∀ sid, ∀ x ∈ s.threads sid, x.hushed seq = true) :
    ∀ sid, ∀ x ∈ (step cfg s e).threads sid, x.hushed seq = true := by
  intro sid x inside
  rcases mem_threads_step inside with old | ⟨env, here, rest, rfl, head, new⟩ | begins
  · exact hushed sid x old
  · exact hushed_perform (hushed sid here (by rw [head]; exact List.mem_cons_self)) new
  · exact hushed_fresh begins

theorem owed_head {rest : List Section} (head : s.threads sid = here :: rest) :
    owed s target seq sid = (if here.owes target seq then 1 else 0) + rest.countP (·.owes target seq) := by
  rw [owed, head, List.countP_cons, Nat.add_comm]

theorem owed_run {rest : List Section} (head : s.threads sid = here :: rest) (task : SessionId) :
    owed (step cfg s (.run sid env)) target seq task =
      if task = sid then (perform cfg s.world env sid here).2.countP (·.owes target seq) + rest.countP (·.owes target seq)
      else owed s target seq task := by
  rw [owed, step_run head, threads_resume]
  split
  · rw [List.countP_append]
  · rfl

/-- A section that stores nothing spends what its task owes. -/
theorem spends_run (inv : Once target seq s) {rest : List Section} (head : s.threads sid = here :: rest)
    (other : ∀ channel sender_id body notice, here ≠ .append channel sender_id body notice) :
    Spends sid (owed s target seq) (owed (step cfg s (.run sid env)) target seq) (told s.world target seq)
      (told (step cfg s (.run sid env)).world target seq) := by
  have hushed : here.hushed seq = true := inv.hushed sid here (by rw [head]; exact List.mem_cons_self)
  have bound := @owes_perform cfg s env sid here target seq inv.held hushed other
  have world : (step cfg s (.run sid env)).world = (perform cfg s.world env sid here).1 := by rw [step_run head, world_resume]
  rw [world]
  refine ⟨?_, ?_, told_perform here⟩
  · intro task apart
    rw [owed_run head, if_neg apart]
  · rw [owed_run head, if_pos rfl, owed_head head]
    omega

/-- An `append` of another message owes what it owed. -/
theorem spends_append {channel sender_id body : Text} {notice : Notice} {rest : List Section}
    (head : s.threads sid = .append channel sender_id body notice :: rest) (later : seq ≠ s.world.db.messages.sequence + 1) :
    Spends sid (owed s target seq) (owed (step cfg s (.run sid env)) target seq) (told s.world target seq)
      (told (step cfg s (.run sid env)).world target seq) := by
  obtain ⟨owes, tell, _⟩ := @owes_append cfg s.world env sid target seq channel sender_id body notice
  have due : Section.owes target seq (.append channel sender_id body notice) = false := rfl
  rw [if_neg later] at owes
  have world : (step cfg s (.run sid env)).world = (perform cfg s.world env sid (.append channel sender_id body notice)).1 := by
    rw [step_run head, world_resume]
  rw [world, tell]
  refine ⟨?_, ?_, le_rfl⟩
  · intro task apart
    rw [owed_run head, if_neg apart]
  · rw [owed_run head, if_pos rfl, owes, owed_head head, due, if_neg Bool.false_ne_true]

/-- No other event stores, tells or takes up a message. -/
theorem spends_other (notRun : ∀ sid env, e ≠ .run sid env) :
    Spends sid (owed s target seq) (owed (step cfg s e) target seq) (told s.world target seq) (told (step cfg s e).world target seq) := by
  have tell : told (step cfg s e).world target seq = told s.world target seq := by
    obtain ⟨more, lines, welcome⟩ := lines_step_other cfg s target notRun
    have none : more.countP (tells seq) = 0 := by
      rw [List.countP_eq_zero]
      intro line inside tell
      rw [welcome line inside] at tell
      cases tell
    rw [told, lines, List.countP_append, none, Nat.add_zero, told]
  have fewer (task : SessionId) : owed (step cfg s e) target seq task ≤ owed s target seq task := by
    rcases threads_step cfg s e task with same | ⟨env, _, _, turn, _, _⟩ | ⟨_, _, begins⟩ | ⟨_, empty⟩
    · rw [owed, owed, same]
    · exact absurd turn (notRun task env)
    · have none : owed (step cfg s e) target seq task = 0 := by
        rw [owed, List.countP_eq_zero]
        intro x inside owes
        rw [owes_fresh (begins.fresh inside)] at owes
        cases owes
      omega
    · rw [owed, empty]
      exact Nat.zero_le _
  rw [tell]
  exact ⟨fun task _ => fewer task, Nat.add_le_add_right (fewer sid) _, le_rfl⟩

/-- What spends what was owed keeps the invariant, where the message stays as unborn as it was. -/
theorem Once.of_spends (inv : Once target seq s)
    (spends : Spends sid (owed s target seq) (owed (step cfg s e) target seq) (told s.world target seq)
      (told (step cfg s e).world target seq))
    (unborn : (step cfg s e).world.db.messages.sequence < seq → s.world.db.messages.sequence < seq) :
    Once target seq (step cfg s e) where
  held := inv.held.step
  hushed := hushed_step inv.hushed
  unborn := fun later => spends.none (inv.unborn (unborn later))
  single := spends.single inv.single

/-- The task that stores the message is the one that owes it. -/
theorem Once.append (inv : Once target seq s) {channel sender_id body : Text} {notice : Notice} {rest : List Section}
    (head : s.threads sid = .append channel sender_id body notice :: rest) (born : seq = s.world.db.messages.sequence + 1) :
    Once target seq (step cfg s (.run sid env)) := by
  obtain ⟨owes, tell, sequence⟩ := @owes_append cfg s.world env sid target seq channel sender_id body notice
  obtain ⟨none, untold⟩ := inv.unborn (by omega)
  have mine : rest.countP (·.owes target seq) = 0 := by
    have all := none sid
    rw [head, List.countP_cons] at all
    omega
  have world : (step cfg s (.run sid env)).world = (perform cfg s.world env sid (.append channel sender_id body notice)).1 := by
    rw [step_run head, world_resume]
  rw [if_pos born] at owes
  refine ⟨inv.held.step, hushed_step inv.hushed, ?_, sid, ?_, ?_⟩
  · rw [world, sequence]
    omega
  · intro other apart
    have still : owed (step cfg s (.run sid env)) target seq other = owed s target seq other := by
      rw [owed_run head, if_neg apart]
    exact still.trans (none other)
  · have spent : owed (step cfg s (.run sid env)) target seq sid = 1 := by
      rw [owed_run head, if_pos rfl, owes, mine]
    rw [world, tell, untold]
    exact spent.le

theorem Once.step (inv : Once target seq s) : Once target seq (step cfg s e) := by
  rcases stepped cfg s e with ⟨sid, env, here, rest, rfl, head⟩ | idle | notRun
  · by_cases appends : ∃ channel sender_id body notice, here = .append channel sender_id body notice
    · obtain ⟨channel, sender_id, body, notice, rfl⟩ := appends
      by_cases born : seq = s.world.db.messages.sequence + 1
      · exact inv.append head born
      · refine inv.of_spends (spends_append head born) ?_
        have sequence := (@owes_append cfg s.world env sid target seq channel sender_id body notice).2.2
        rw [step_run head, world_resume, sequence]
        omega
    · have other : ∀ channel sender_id body notice, here ≠ .append channel sender_id body notice :=
        fun channel sender_id body notice same => appends ⟨channel, sender_id, body, notice, same⟩
      refine inv.of_spends (spends_run inv head other) ?_
      rw [step_run head, world_resume, messages_perform other]
      exact id
  · rw [idle]
    exact inv
  · refine inv.of_spends (@spends_other cfg s 0 e target seq notRun) ?_
    rw [db_step_other cfg s notRun]
    exact id

/-- In every run, no session is told the same message twice as it happens. -/
theorem told_once (cfg : Config) (db : Db) (events : List Event) (target : SessionId) (seq : Int) :
    told (run (step cfg) (start db) events).world target seq ≤ 1 := by
  have inv : Once target seq (run (step cfg) (start db) events) := by
    apply run_invariant (fun _ _ inv => inv.step) events
    refine ⟨held_start db, ?_, ?_, 0, ?_, ?_⟩
    · intro sid x inside; cases inside
    · intro _; exact ⟨fun _ => rfl, rfl⟩
    · intro sid _; rfl
    · exact Nat.zero_le 1
  obtain ⟨task, _, one⟩ := inv.single
  omega

end Aircd.Concurrent

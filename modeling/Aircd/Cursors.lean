import Aircd.Deliveries

/-!
# Messages below the cursor

`last_seen_seq` of a membership is one number, moved by the live broadcasts and
by the replay at registration, and a replay returns at most 200 messages. Here
is when no message is left behind below it.
-/
namespace Aircd.Server
open Aircd.Runs Aircd.Text Aircd.Protocol Aircd.Auth Aircd.History Aircd.Tasks Aircd.Store

/-- A stored message was queued to some session of a principal. -/
def Enqueued (w : World) (p : Text) (m : StoredMessage) : Prop :=
  ∃ sid principal, w.principal sid = some principal ∧ principal.id = p ∧ m ∈ w.enqueued sid

/-- The world with the cursor at which each membership was created. -/
structure Observed where
  world : World
  born : Text → Text → Int

/-- One event, and the cursors of the memberships that it creates. -/
def observe (cfg : Config) (s : Observed) (e : Event) : Observed where
  world := step cfg s.world e
  born p c := if cursor s.world.db p c = none then (cursor (step cfg s.world e).db p c).getD 0 else s.born p c

/-- No message between the creation and the cursor of a membership was left out. -/
def NoGap (s : Observed) : Prop :=
  ∀ p c seen, cursor s.world.db p c = some seen → ∀ m ∈ s.world.db.messages.rows, m.channel = c →
    s.born p c < m.seq → m.seq ≤ seen → Enqueued s.world p m

/-- Nothing is stored in a channel after the cursor of a membership of it. -/
def CaughtUp (w : World) (p c : Text) : Prop :=
  ∀ seen, cursor w.db p c = some seen → ∀ m ∈ w.db.messages.rows, m.channel = c → m.seq ≤ seen

/-- A principal registers on an open connection or with nothing to replay, and a
    message is posted only while the recipients it reaches have caught up. -/
def Careful (cfg : Config) (w : World) (e : Event) : Prop :=
  (∀ sid principal, registers cfg w e = some (sid, principal) → w.open sid ∨ ∀ c, CaughtUp w principal.id c) ∧
  (∀ c, posts cfg w e = some c →
    ∀ p h, (p, h) ∈ recipients_with_ids w.inner c → w.open h.session_id → CaughtUp w p c)

/-- An explicit `CHATHISTORY` or `HISTORY`. -/
def asks_history : Event → Bool
  | .command _ (.History _ _ _) _ => true
  | _ => false

/-- What every reachable world satisfies: a handle belongs to its principal, an
    unregistered session was sent no message, and a cursor is not below a message
    that was queued to its principal, nor above the log. -/
structure Sound (w : World) : Prop where
  routed : Routed w
  owned : ∀ p h, w.inner.clients p = some h → ∃ principal, w.principal h.session_id = some principal ∧ principal.id = p
  known : ∀ sid, (w.connections sid).session.registered = (w.principal sid).isSome
  unseen : ∀ sid, w.principal sid = none → w.enqueued sid = []
  logged : ∀ sid, ∀ m ∈ w.enqueued sid, m ∈ w.db.messages.rows
  seen : ∀ p m, Enqueued w p m → ∀ k, cursor w.db p m.channel = some k → m.seq ≤ k
  bounded : ∀ p c k, cursor w.db p c = some k → k ≤ w.db.messages.sequence

variable {cfg : Config} {w w' : World} {e : Event} {p c : Text} {m : StoredMessage}

/-! ## The invariant is kept -/

theorem enqueued_of_calm (calm : Calm w w') : Enqueued w' p m ↔ Enqueued w p m := by
  simp only [Enqueued, calm.principal, calm.enqueued]

theorem cursor_of_calm (calm : Calm w w') (p c : Text) : cursor w'.db p c = cursor w.db p c := by
  simp only [cursor, calm.memberships]

theorem Sound.of_calm (sound : Sound w) (calm : Calm w w') : Sound w' where
  routed := sound.routed.of_same (.of_calm calm)
  owned p h found := by
    rw [calm.inner] at found
    rw [calm.principal]
    exact sound.owned p h found
  known sid := by rw [calm.registered, calm.principal]; exact sound.known sid
  unseen sid nobody := by
    rw [calm.principal] at nobody
    rw [calm.enqueued]
    exact sound.unseen sid nobody
  logged sid m inside := by
    rw [calm.enqueued] at inside
    rw [calm.messages]
    exact sound.logged sid m inside
  seen p m queued k found := by
    rw [cursor_of_calm calm] at found
    exact sound.seen p m ((enqueued_of_calm calm).mp queued) k found
  bounded p c k found := by
    rw [cursor_of_calm calm] at found
    rw [calm.messages]
    exact sound.bounded p c k found

/-! ### Posting -/

section
variable {env : Env} {tasks : TaskTable} {channel sender_id body : Text} {line : StoredMessage → ServerLine}

/-- The message that a posting event stores. -/
def stored (w : World) (env : Env) (channel sender_id body : Text) : StoredMessage :=
  next w.db.messages channel sender_id body ("msg_".toList ++ env.message_uuid) env.created_at

/-- The principals that a message posted to a channel reaches. -/
def Reached (w : World) (c p : Text) : Prop := ∃ h, (p, h) ∈ recipients_with_ids w.inner c ∧ w.open h.session_id

/-- What posting does. -/
structure Posted (w w' : World) (channel : Text) (new : StoredMessage) : Prop where
  inner : w'.inner = w.inner
  rows : ∀ m, m ∈ w'.db.messages.rows ↔ m ∈ w.db.messages.rows ∨ m = new
  sequence : w'.db.messages.sequence = w.db.messages.sequence + 1
  principal : ∀ sid, w'.principal sid = w.principal sid
  registered : ∀ sid, (w'.connections sid).session.registered = (w.connections sid).session.registered
  enqueued : ∀ sid m, m ∈ w'.enqueued sid ↔ m ∈ w.enqueued sid ∨
    (m = new ∧ ∃ p h, (p, h) ∈ recipients_with_ids w.inner channel ∧ h.session_id = sid ∧ w.open sid)
  reached : ∀ p, Reached w channel p → cursor w'.db p channel = (cursor w.db p channel).map (fun k => max k new.seq)
  unreached : ∀ p c, ¬ (c = channel ∧ Reached w channel p) → cursor w'.db p c = cursor w.db p c

theorem posted_spec (carries : ∀ m, (line m).stored = some m) :
    Posted w (posted w tasks env channel sender_id body line) channel (stored w env channel sender_id body) := by
  have spec := broadcast_spec (recipients_with_ids w.inner channel)
    (append_message { w with db := { w.db with tasks := tasks } } env channel sender_id body).1
    (carries (stored w env channel sender_id body)) channel (stored w env channel sender_id body).seq
  have routing := SameRouting.broadcast_message (c := channel)
    (w := (append_message { w with db := { w.db with tasks := tasks } } env channel sender_id body).1)
    (line (stored w env channel sender_id body)) (stored w env channel sender_id body).seq
  have reaches (p : Text) : Reached w channel p ↔
      ∃ r ∈ recipients_with_ids w.inner channel, r.1 = p ∧ w.open r.2.session_id := by
    constructor
    · rintro ⟨h, inside, alive⟩; exact ⟨(p, h), inside, rfl, alive⟩
    · rintro ⟨⟨p', h⟩, inside, rfl, alive⟩; exact ⟨h, inside, alive⟩
  refine ⟨routing.inner, ?_, ?_, spec.principal, spec.registered, ?_, ?_, ?_⟩
  · intro m
    have log : (posted w tasks env channel sender_id body line).db.messages =
        append w.db.messages channel sender_id body ("msg_".toList ++ env.message_uuid) env.created_at := spec.messages
    rw [log]
    exact mem_append
  · exact congrArg Messages.sequence spec.messages
  · intro sid m
    refine (spec.enqueued sid m).trans (or_congr_right (and_congr_right (fun _ => ?_)))
    constructor
    · rintro ⟨alive, ⟨p, h⟩, inside, same⟩; exact ⟨p, h, inside, same, alive⟩
    · rintro ⟨p, h, inside, same, alive⟩; exact ⟨alive, (p, h), inside, same⟩
  · intro p reached
    exact spec.reached p ((reaches p).mp reached)
  · intro p c nowhere
    exact spec.unreached p c (fun both => nowhere ⟨both.1, (reaches p).mpr both.2⟩)

end

theorem reached_of_queued {channel : Text} {sid : SessionId} {p : Text} {h : ClientHandle}
    (inside : (p, h) ∈ recipients_with_ids w.inner channel) (same : h.session_id = sid) (alive : w.open sid) :
    Reached w channel p := ⟨h, inside, same ▸ alive⟩

/-- A cursor moves by posting only when its principal is reached, and then to the new message. -/
theorem Posted.cursor_cases {channel : Text} {new : StoredMessage} (spec : Posted w w' channel new) {k' : Int}
    (found : cursor w'.db p c = some k') :
    ∃ k, cursor w.db p c = some k ∧
      ((c = channel ∧ Reached w channel p ∧ k' = max k new.seq) ∨ (¬ (c = channel ∧ Reached w channel p) ∧ k' = k)) := by
  by_cases here : c = channel ∧ Reached w channel p
  · obtain ⟨rfl, reached⟩ := here
    rw [spec.reached p reached, Option.map_eq_some_iff] at found
    obtain ⟨k, before, rfl⟩ := found
    exact ⟨k, before, .inl ⟨rfl, reached, rfl⟩⟩
  · rw [spec.unreached p c here] at found
    exact ⟨k', found, .inr ⟨here, rfl⟩⟩

/-- What is queued to a principal after posting: what was, and the new message where it reaches. -/
theorem Posted.enqueued_iff {channel : Text} {new : StoredMessage} (spec : Posted w w' channel new) (sound : Sound w) :
    Enqueued w' p m ↔ Enqueued w p m ∨ (m = new ∧ Reached w channel p) := by
  constructor
  · rintro ⟨sid, principal, known, self, inside⟩
    rw [spec.principal] at known
    rcases (spec.enqueued sid m).mp inside with old | ⟨rfl, p', h, recipient, same, alive⟩
    · exact .inl ⟨sid, principal, known, self, old⟩
    · obtain ⟨owner, known', rfl⟩ := sound.owned p' h (mem_recipients.mp recipient).2
      rw [same, known] at known'
      obtain rfl := Option.some.inj known'
      exact .inr ⟨rfl, self ▸ reached_of_queued recipient same alive⟩
  · rintro (⟨sid, principal, known, self, inside⟩ | ⟨rfl, h, recipient, alive⟩)
    · exact ⟨sid, principal, by rw [spec.principal, known], self, (spec.enqueued sid m).mpr (.inl inside)⟩
    · obtain ⟨owner, known, self⟩ := sound.owned p h (mem_recipients.mp recipient).2
      exact ⟨h.session_id, owner, by rw [spec.principal, known], self,
        (spec.enqueued _ _).mpr (.inr ⟨rfl, p, h, recipient, rfl, alive⟩)⟩

theorem Sound.posted {channel : Text} {new : StoredMessage} (sound : Sound w) (routed : Routed w')
    (spec : Posted w w' channel new) (last : new.seq = w.db.messages.sequence + 1) (posted : new.channel = channel) :
    Sound w' where
  routed := routed
  owned p h found := by
    rw [spec.inner] at found
    rw [spec.principal]
    exact sound.owned p h found
  known sid := by rw [spec.registered, spec.principal]; exact sound.known sid
  unseen sid nobody := by
    rw [spec.principal] at nobody
    rw [List.eq_nil_iff_forall_not_mem]
    intro m inside
    rcases (spec.enqueued sid m).mp inside with old | ⟨_, p, h, recipient, rfl, _⟩
    · rw [sound.unseen sid nobody] at old; exact List.not_mem_nil old
    · obtain ⟨principal, known, _⟩ := sound.owned p h (mem_recipients.mp recipient).2
      rw [nobody] at known; cases known
  logged sid m inside := by
    rw [spec.rows]
    rcases (spec.enqueued sid m).mp inside with old | ⟨rfl, _⟩
    · exact .inl (sound.logged sid m old)
    · exact .inr rfl
  seen p m queued k' found := by
    obtain ⟨k, before, moved⟩ := spec.cursor_cases found
    rcases (spec.enqueued_iff sound).mp queued with old | ⟨rfl, reached⟩
    · have := sound.seen p m old k before
      rcases moved with ⟨_, _, rfl⟩ | ⟨_, rfl⟩
      · omega
      · exact this
    · rcases moved with ⟨_, _, rfl⟩ | ⟨nowhere, _⟩
      · omega
      · exact absurd ⟨posted, reached⟩ nowhere
  bounded p c k' found := by
    obtain ⟨k, before, moved⟩ := spec.cursor_cases found
    have := sound.bounded p c k before
    rw [spec.sequence]
    rcases moved with ⟨_, _, rfl⟩ | ⟨_, rfl⟩
    · omega
    · omega

/-! ### Registering -/

theorem Registered.enqueued_iff {sid : SessionId} {newcomer : Principal} (spec : Registered w w' sid newcomer)
    (sound : Sound w) (fresh : w.principal sid = none) :
    Enqueued w' p m ↔ Enqueued w p m ∨ (p = newcomer.id ∧ w.open sid ∧
      ∃ c seen, cursor w.db p c = some seen ∧ m ∈ after w.db.messages c seen 200) := by
  have nothing := sound.unseen sid fresh
  constructor
  · rintro ⟨sid', principal, known, rfl, inside⟩
    rw [spec.principal] at known
    rcases (spec.enqueued sid' m).mp inside with old | ⟨rfl, alive, page⟩
    · by_cases here : sid' = sid
      · rw [here, nothing] at old; exact absurd old List.not_mem_nil
      · rw [if_neg here] at known
        exact .inl ⟨sid', principal, known, rfl, old⟩
    · rw [if_pos rfl] at known
      obtain rfl := Option.some.inj known
      exact .inr ⟨rfl, alive, page⟩
  · rintro (⟨sid', principal, known, self, inside⟩ | ⟨rfl, alive, page⟩)
    · have other : sid' ≠ sid := by
        rintro rfl
        rw [fresh] at known; cases known
      exact ⟨sid', principal, by rw [spec.principal, if_neg other, known], self, (spec.enqueued sid' m).mpr (.inl inside)⟩
    · exact ⟨sid, newcomer, by rw [spec.principal, if_pos rfl], rfl, (spec.enqueued sid m).mpr (.inr ⟨rfl, alive, page⟩)⟩

/-- The cursor of a membership after a registration: that of the newcomer at the end of the page. -/
theorem Registered.cursor_cases {sid : SessionId} {newcomer : Principal} (spec : Registered w w' sid newcomer) {k' : Int}
    (found : cursor w'.db p c = some k') :
    ∃ k, cursor w.db p c = some k ∧
      ((p = newcomer.id ∧ k' = page_max k (after w.db.messages c k 200)) ∨ (p ≠ newcomer.id ∧ k' = k)) := by
  rw [spec.moved] at found
  by_cases self : p = newcomer.id
  · rw [if_pos self, Option.map_eq_some_iff] at found
    obtain ⟨k, before, rfl⟩ := found
    exact ⟨k, before, .inl ⟨self, rfl⟩⟩
  · rw [if_neg self] at found
    exact ⟨k', found, .inr ⟨self, rfl⟩⟩

theorem Sound.registered {sid : SessionId} {newcomer : Principal} (sound : Sound w) (routed : Routed w')
    (spec : Registered w w' sid newcomer) (fresh : w.principal sid = none) : Sound w' where
  routed := routed
  owned p h found := by
    rw [spec.clients] at found
    rw [spec.principal]
    by_cases self : p = newcomer.id
    · rw [if_pos self] at found
      obtain rfl := Option.some.inj found
      exact ⟨newcomer, if_pos rfl, self.symm⟩
    · rw [if_neg self] at found
      obtain ⟨principal, known, same⟩ := sound.owned p h found
      have other : h.session_id ≠ sid := by
        rintro rfl
        rw [fresh] at known; cases known
      exact ⟨principal, by rw [if_neg other, known], same⟩
  known sid' := by
    rw [spec.registered, spec.principal]
    by_cases here : sid' = sid
    · simp [here]
    · simp only [if_neg here]; exact sound.known sid'
  unseen sid' nobody := by
    rw [spec.principal] at nobody
    by_cases here : sid' = sid
    · rw [if_pos here] at nobody; cases nobody
    · rw [if_neg here] at nobody
      rw [List.eq_nil_iff_forall_not_mem]
      intro m inside
      rcases (spec.enqueued sid' m).mp inside with old | ⟨same, _⟩
      · rw [sound.unseen sid' nobody] at old; exact List.not_mem_nil old
      · exact here same
  logged sid' m inside := by
    rw [spec.messages]
    rcases (spec.enqueued sid' m).mp inside with old | ⟨_, _, c, k, _, page⟩
    · exact sound.logged sid' m old
    · exact (mem_of_mem_after page).1
  seen p m queued k' found := by
    obtain ⟨k, before, moved⟩ := spec.cursor_cases found
    rcases (spec.enqueued_iff sound fresh).mp queued with old | ⟨self, _, c, seen, cursor, page⟩
    · have := sound.seen p m old k before
      have := (le_page_max k (after w.db.messages m.channel k 200)).1
      rcases moved with ⟨_, rfl⟩ | ⟨_, rfl⟩
      · omega
      · omega
    · obtain ⟨_, here, _⟩ := mem_of_mem_after page
      subst here
      rw [before] at cursor
      obtain rfl := Option.some.inj cursor
      rcases moved with ⟨_, rfl⟩ | ⟨other, _⟩
      · exact (le_page_max _ _).2 m page
      · exact absurd self other
  bounded p c k' found := by
    obtain ⟨k, before, moved⟩ := spec.cursor_cases found
    have := sound.bounded p c k before
    rw [spec.messages]
    rcases moved with ⟨_, rfl⟩ | ⟨_, rfl⟩
    · rcases page_max_attained k (after w.db.messages c k 200) with same | ⟨m, inside, same⟩
      · rw [same]; exact this
      · rw [← same]; exact (w.db.messages.numbered m (mem_of_mem_after inside).1).2
    · exact this

/-! ### The other effects -/

theorem cursor_cases_join {principal : Principal} {channel : Text} {now k' : Int}
    (found : cursor (add_membership w.db now principal.id channel) p c = some k') :
    cursor w.db p c = some k' ∨ (cursor w.db p c = none ∧ p = principal.id ∧ c = channel ∧
      k' = max_seq w.db.messages c) := by
  rw [cursor_add_membership] at found
  split at found
  · next fresh =>
    obtain ⟨absent, rfl, rfl⟩ := fresh
    exact .inr ⟨absent, rfl, rfl, (Option.some.inj found).symm⟩
  · exact .inl found

theorem Sound.join {env : Env} {principal : Principal} {channel : Text} (sound : Sound w) :
    Sound (join w env principal channel) := by
  have base : Sound { w with
      db := add_membership w.db env.now principal.id channel, inner := add_member w.inner principal.id channel } :=
    { routed := sound.routed.joined
      owned := sound.owned
      known := sound.known
      unseen := sound.unseen
      logged := sound.logged
      seen := by
        intro p m queued k' found
        rcases cursor_cases_join found with old | ⟨_, _, _, rfl⟩
        · exact sound.seen p m queued k' old
        · obtain ⟨sid, _, _, _, inside⟩ := queued
          exact le_max_seq (sound.logged sid m inside) rfl
      bounded := by
        intro p c k' found
        rcases cursor_cases_join found with old | ⟨_, _, _, rfl⟩
        · exact sound.bounded p c k' old
        · exact max_seq_le_sequence }
  exact base.of_calm (Calm.broadcast_raw rfl)

theorem cursor_of_part {principal : Principal} {channel : Text} {k : Int}
    (found : cursor (remove_membership w.db principal.id channel) p c = some k) : cursor w.db p c = some k := by
  rw [cursor_remove_membership] at found
  split at found
  · cases found
  · exact found

theorem Sound.part {principal : Principal} {channel : Text} (sound : Sound w) : Sound (part w principal channel) := by
  have base : Sound { w with
      db := remove_membership w.db principal.id channel, inner := remove_member w.inner principal.id channel } :=
    { routed := sound.routed.parted
      owned := by
        intro p h found
        have found : (remove_member w.inner principal.id channel).clients p = some h := found
        rw [clients_remove_member] at found
        exact sound.owned p h found
      known := sound.known
      unseen := sound.unseen
      logged := sound.logged
      seen := fun p m queued k found => sound.seen p m queued k (cursor_of_part found)
      bounded := fun p c k found => sound.bounded p c k (cursor_of_part found) }
  exact base.of_calm (Calm.broadcast_raw rfl)

theorem Sound.remove_client {sid : SessionId} (sound : Sound w) : Sound (remove_client w sid p).1 := by
  have routed : Routed (Server.remove_client w sid p).1 := sound.routed.remove_client
  unfold Server.remove_client at *
  split
  · next removed =>
    rw [if_pos removed] at routed
    refine ⟨routed, ?_, sound.known, sound.unseen, sound.logged, sound.seen, sound.bounded⟩
    intro p' h found
    by_cases self : p' = p
    · subst self; simp at found
    · exact sound.owned p' h (by simpa [self] using found)
  · exact sound

theorem Sound.restart (sound : Sound w) : Sound (step cfg w .restart) where
  routed := sound.routed.effect (.restarted rfl)
  owned p h found := by simp [step, ServerInner.default] at found
  known sid := by
    rw [World.principal, (connections_restart sid).1]
    exact sound.known sid
  unseen sid nobody := by
    rw [World.principal, (connections_restart sid).1] at nobody
    rw [World.enqueued, (connections_restart sid).2]
    exact sound.unseen sid nobody
  logged sid m inside := by
    rw [World.enqueued, (connections_restart sid).2] at inside
    exact sound.logged sid m inside
  seen p m queued k found := by
    obtain ⟨sid, principal, known, self, inside⟩ := queued
    rw [World.principal, (connections_restart sid).1] at known
    rw [World.enqueued, (connections_restart sid).2] at inside
    exact sound.seen p m ⟨sid, principal, known, self, inside⟩ k found
  bounded := sound.bounded

theorem Sound.setSession {sid : SessionId} {session : Session} (sound : Sound w) (fresh : session.registered = false)
    (before : (w.connections sid).session.registered = false) (unknown : session.principal = w.principal sid) :
    Sound (w.setSession sid session) :=
  sound.of_calm (Calm.modify rfl unknown (fresh.trans before.symm))

theorem Sound.nobody {sid : SessionId} (sound : Sound w) (before : (w.connections sid).session.registered = false) :
    w.principal sid = none := by
  have known := sound.known sid
  rw [before] at known
  simpa using known.symm

theorem Sound.nobody_setSession {sid : SessionId} {session : Session} (sound : Sound w) (fresh : session.registered = false)
    (before : (w.connections sid).session.registered = false) (unknown : session.principal = w.principal sid) :
    (w.setSession sid session).principal sid = none :=
  (sound.setSession fresh before unknown).nobody (by simp [World.setSession, connections_modify, fresh])

/-- The step lemma: every event but an explicit history keeps the invariant. -/
theorem Sound.effect (sound : Sound w) (implicit : asks_history e = false) (effect : Effect cfg w e w') : Sound w' := by
  have routed := sound.routed.effect effect
  cases effect with
  | calm _ _ same => exact sound.of_calm same
  | registered _ _ fresh before unknown =>
    exact (sound.setSession fresh before unknown).registered routed (register_spec _ _ _ _)
      (sound.nobody_setSession fresh before unknown)
  | joined _ _ => exact sound.join
  | parted _ _ => exact sound.part
  | posted line _ _ carries => exact sound.posted routed (posted_spec carries) rfl rfl
  | replayed explicit _ _ _ => exact by rw [explicit] at implicit; cases implicit
  | left _ _ before after => exact ((sound.of_calm before).remove_client).of_calm after
  | restarted same => exact sound.restart

/-! ## What a step does to the cursors -/

/-- The cursors of the memberships that last, the log and the queued messages stay. -/
structure Still (w w' : World) : Prop where
  cursors : ∀ p c k k', cursor w.db p c = some k → cursor w'.db p c = some k' → k' = k
  messages : w'.db.messages = w.db.messages
  enqueued : ∀ p m, Enqueued w' p m ↔ Enqueued w p m

theorem Still.of_calm (calm : Calm w w') : Still w w' where
  cursors p c k k' before after := by
    rw [cursor_of_calm calm, before] at after
    exact (Option.some.inj after).symm
  messages := calm.messages
  enqueued _ _ := enqueued_of_calm calm

theorem Still.trans_calm {w'' : World} (still : Still w w') (calm : Calm w' w'') : Still w w'' where
  cursors p c k k' before after := by
    rw [cursor_of_calm calm] at after
    exact still.cursors p c k k' before after
  messages := calm.messages.trans still.messages
  enqueued p m := (enqueued_of_calm calm).trans (still.enqueued p m)

theorem db_remove_client (w : World) (sid : SessionId) (id : Text) :
    (remove_client w sid id).1.db = w.db ∧ (remove_client w sid id).1.connections = w.connections := by
  unfold remove_client
  split
  · exact ⟨rfl, rfl⟩
  · exact ⟨rfl, rfl⟩

/-- An event leaves the cursors as they are, registers a principal or posts a message. -/
inductive Moves (cfg : Config) (w : World) (e : Event) (w' : World) : Prop where
  | still (unregistered : registers cfg w e = none) (silent : posts cfg w e = none) (same : Still w w')
  | registered {before : World} {sid : SessionId} {newcomer : Principal}
      (registration : registers cfg w e = some (sid, newcomer)) (silent : posts cfg w e = none)
      (calm : Calm w before) (opens : before.open sid ↔ w.open sid) (nobody : before.principal sid = none)
      (sound : Sound before) (spec : Registered before w' sid newcomer)
  | posted {channel : Text} {new : StoredMessage}
      (unregistered : registers cfg w e = none) (posting : posts cfg w e = some channel)
      (spec : Posted w w' channel new) (last : new.seq = w.db.messages.sequence + 1) (here : new.channel = channel)

theorem Effect.moves (effect : Effect cfg w e w') (sound : Sound w) (implicit : asks_history e = false) : Moves cfg w e w' := by
  cases effect with
  | calm unregistered silent same => exact .still unregistered silent (.of_calm same)
  | @registered sid principal env session registration silent fresh before unknown =>
    have opens : (w.setSession sid session).open sid ↔ w.open sid := by
      simp [World.open, World.setSession, connections_modify]
    exact .registered registration silent (Calm.modify rfl unknown (fresh.trans before.symm)) opens
      (sound.nobody_setSession fresh before unknown) (sound.setSession fresh before unknown) (register_spec _ _ _ _)
  | @joined principal env channel unregistered silent =>
    have still : Still w { w with
        db := add_membership w.db env.now principal.id channel, inner := add_member w.inner principal.id channel } := by
      refine ⟨?_, rfl, fun _ _ => Iff.rfl⟩
      intro p c k k' before after
      rcases cursor_cases_join after with same | ⟨absent, _⟩
      · rw [before] at same; exact (Option.some.inj same).symm
      · rw [before] at absent; cases absent
    exact .still unregistered silent (still.trans_calm (Calm.broadcast_raw rfl))
  | @parted principal channel unregistered silent =>
    have still : Still w { w with
        db := remove_membership w.db principal.id channel, inner := remove_member w.inner principal.id channel } := by
      refine ⟨?_, rfl, fun _ _ => Iff.rfl⟩
      intro p c k k' before after
      have same := cursor_of_part after
      rw [before] at same; exact (Option.some.inj same).symm
    exact .still unregistered silent (still.trans_calm (Calm.broadcast_raw rfl))
  | posted line unregistered posting carries => exact .posted unregistered posting (posted_spec carries) rfl rfl
  | replayed explicit _ _ _ => exact by rw [explicit] at implicit; cases implicit
  | @left w' sid principal before unregistered silent calm calm' =>
    obtain ⟨db, connections⟩ := db_remove_client before sid principal.id
    have still : Still w (remove_client before sid principal.id).1 := by
      refine ⟨?_, by rw [db]; exact calm.messages, ?_⟩
      · intro p c k k' found found'
        rw [db] at found'
        exact (Still.of_calm calm).cursors p c k k' found found'
      · intro p m
        rw [← enqueued_of_calm calm]
        simp only [Enqueued, World.principal, World.enqueued, connections]
    exact .still unregistered silent (still.trans_calm calm')
  | restarted same =>
    subst same
    refine .still rfl rfl ⟨?_, rfl, ?_⟩
    · intro p c k k' before after
      exact Option.some.inj (after.symm.trans before)
    · intro p m
      simp only [Enqueued, World.principal, World.enqueued, (connections_restart _).1, (connections_restart _).2]

/-- A cursor never goes back while its membership lasts. -/
theorem Moves.cursor_mono (moves : Moves cfg w e w') {k k' : Int}
    (before : cursor w.db p c = some k) (after : cursor w'.db p c = some k') : k ≤ k' := by
  cases moves with
  | still _ _ same => rw [same.cursors p c k k' before after]
  | registered _ _ calm _ _ _ spec =>
    obtain ⟨k₀, before', moved⟩ := spec.cursor_cases after
    rw [cursor_of_calm calm, before] at before'
    obtain rfl := Option.some.inj before'
    rcases moved with ⟨_, rfl⟩ | ⟨_, rfl⟩
    · exact (le_page_max _ _).1
    · omega
  | posted _ _ spec _ _ =>
    obtain ⟨k₀, before', moved⟩ := spec.cursor_cases after
    rw [before] at before'
    obtain rfl := Option.some.inj before'
    rcases moved with ⟨_, _, rfl⟩ | ⟨_, rfl⟩
    · omega
    · omega

/-! ## Gaps -/

/-- A careful step closes what it moves a cursor over. -/
theorem Moves.keeps {born : Text → Text → Int} (moves : Moves cfg w e w') (sound : Sound w) (noGap : NoGap ⟨w, born⟩)
    (careful : Careful cfg w e) {k k' : Int} (before : cursor w.db p c = some k) (found : cursor w'.db p c = some k')
    (inside : m ∈ w'.db.messages.rows) (here : m.channel = c) (late : born p c < m.seq) (early : m.seq ≤ k') :
    Enqueued w' p m := by
  cases moves with
  | still _ _ same =>
    rw [same.cursors p c k k' before found] at early
    rw [same.messages] at inside
    exact (same.enqueued p m).mpr (noGap p c k before m inside here late early)
  | @registered w₀ sid newcomer registration _ calm opens nobody sound₀ spec =>
    rw [spec.messages, calm.messages] at inside
    rw [spec.enqueued_iff sound₀ nobody, enqueued_of_calm calm, opens]
    obtain ⟨k₀, before', moved⟩ := spec.cursor_cases found
    have same := before'
    rw [cursor_of_calm calm, before] at same
    obtain rfl := Option.some.inj same
    by_cases old : m.seq ≤ k
    · exact .inl (noGap p c k before m inside here late old)
    · right
      rcases moved with ⟨self, rfl⟩ | ⟨_, rfl⟩
      · subst self
        rcases page_max_attained k (after w₀.db.messages c k 200) with same | ⟨last, page, same⟩
        · omega
        · have paged := after_no_gap page (calm.messages ▸ inside) here (by omega) (by omega)
          rcases careful.1 sid newcomer registration with alive | caught
          · exact ⟨rfl, alive, c, k, before', paged⟩
          · exact absurd (caught c k before m inside here) old
      · exact absurd early old
  | @posted channel new _ posting spec last _ =>
    rw [spec.enqueued_iff sound]
    obtain ⟨k₀, before', moved⟩ := spec.cursor_cases found
    rw [before] at before'
    obtain rfl := Option.some.inj before'
    have limit := sound.bounded p c k before
    rcases (spec.rows m).mp inside with stored | rfl
    · left
      apply noGap p c k before m stored here late
      rcases moved with ⟨rfl, ⟨h, recipient, alive⟩, _⟩ | ⟨_, rfl⟩
      · exact careful.2 c posting p h recipient alive k before m stored here
      · exact early
    · right
      refine ⟨rfl, ?_⟩
      rcases moved with ⟨_, reached, _⟩ | ⟨_, rfl⟩
      · exact reached
      · omega

/-- A step that is not careful moves a cursor over a message that it does not queue. -/
theorem Moves.breaks (moves : Moves cfg w e w') (sound : Sound w) (careless : ¬ Careful cfg w e) :
    ∃ p c k k' m, cursor w.db p c = some k ∧ cursor w'.db p c = some k' ∧ m ∈ w'.db.messages.rows ∧ m.channel = c ∧
      k < m.seq ∧ m.seq ≤ k' ∧ ¬ Enqueued w' p m := by
  cases moves with
  | still unregistered silent _ =>
    refine absurd ⟨?_, ?_⟩ careless
    · intro sid principal registration
      rw [unregistered] at registration; cases registration
    · intro c posting
      rw [silent] at posting; cases posting
  | @registered w₀ sid newcomer registration silent calm opens nobody sound₀ spec =>
    have missed : ¬ w.open sid ∧ ∃ c, ¬ CaughtUp w newcomer.id c := by
      by_contra none
      refine careless ⟨?_, ?_⟩
      · intro sid' principal registration'
        rw [registration] at registration'
        obtain ⟨rfl, rfl⟩ := Prod.mk.inj (Option.some.inj registration')
        by_cases alive : w.open sid
        · exact .inl alive
        · right
          intro c
          by_contra behind
          exact none ⟨alive, c, behind⟩
      · intro c posting
        rw [silent] at posting; cases posting
    obtain ⟨dead, c, behind⟩ := missed
    simp only [CaughtUp, not_forall, not_le] at behind
    obtain ⟨k, before, m, inside, here, late⟩ := behind
    obtain ⟨first, page⟩ := after_nonempty 200 (calm.messages ▸ inside) here late
    obtain ⟨stored, channel, later⟩ := mem_of_mem_after page
    have before₀ : cursor w₀.db newcomer.id c = some k := by rw [cursor_of_calm calm, before]
    refine ⟨newcomer.id, c, k, page_max k (after w₀.db.messages c k 200), first, before, ?_, ?_, channel, later,
      (le_page_max _ _).2 first page, ?_⟩
    · rw [spec.moved, if_pos rfl, before₀]; rfl
    · rw [spec.messages]; exact stored
    · rw [spec.enqueued_iff sound₀ nobody]
      rintro (old | ⟨_, alive, _⟩)
      · have := sound₀.seen newcomer.id first old k (channel ▸ before₀)
        omega
      · exact dead (opens.mp alive)
  | @posted channel new unregistered posting spec last _ =>
    have missed : ∃ p, Reached w channel p ∧ ¬ CaughtUp w p channel := by
      by_contra none
      refine careless ⟨?_, ?_⟩
      · intro sid principal registration
        rw [unregistered] at registration; cases registration
      · intro c posting' p h recipient alive
        rw [posting] at posting'
        obtain rfl := Option.some.inj posting'
        by_contra behind
        exact none ⟨p, ⟨h, recipient, alive⟩, behind⟩
    obtain ⟨p, reached, behind⟩ := missed
    simp only [CaughtUp, not_forall, not_le] at behind
    obtain ⟨k, before, m, inside, here, late⟩ := behind
    have numbered := w.db.messages.numbered m inside
    refine ⟨p, channel, k, max k new.seq, m, before, ?_, (spec.rows m).mpr (.inl inside), here, late, by omega, ?_⟩
    · rw [spec.reached p reached, before]; rfl
    · rw [spec.enqueued_iff sound]
      rintro (old | ⟨rfl, _⟩)
      · have := sound.seen p m old k (here ▸ before)
        omega
      · omega

/-- Every membership was created with a cursor that is not above its present one. -/
def BornBelow (s : Observed) : Prop := ∀ p c k, cursor s.world.db p c = some k → s.born p c ≤ k

theorem sound_start (db : Db) (bounded : ∀ p c k, cursor db p c = some k → k ≤ db.messages.sequence) :
    Sound (start db) where
  routed := ⟨by simp [start, ServerInner.default, members], by simp [start, ServerInner.default]⟩
  owned := by simp [start, ServerInner.default]
  known _ := rfl
  unseen _ _ := rfl
  logged := by simp [start, World.enqueued, Connection.unused]
  seen := by simp [Enqueued, start, World.principal, Connection.unused]
  bounded := bounded

/-- The invariant of the runs without explicit history. -/
def Tracked (s : Observed) : Prop := Sound s.world ∧ BornBelow s

variable {s : Observed}

theorem Tracked.observe (inv : Tracked s) (implicit : asks_history e = false) : Tracked (observe cfg s e) := by
  have effect := step_effect cfg s.world e
  refine ⟨inv.1.effect implicit effect, ?_⟩
  intro p c k' after
  show (if cursor s.world.db p c = none then _ else _) ≤ k'
  have after : cursor (step cfg s.world e).db p c = some k' := after
  cases before : cursor s.world.db p c with
  | none => simp [after]
  | some k =>
    have mono := (effect.moves inv.1 implicit).cursor_mono before after
    have := inv.2 p c k before
    rw [if_neg (by simp)]
    omega

theorem NoGap.observe (inv : Tracked s) (implicit : asks_history e = false) (careful : Careful cfg s.world e)
    (noGap : NoGap s) : NoGap (observe cfg s e) := by
  intro p c k' after m inside here late early
  have late : (if cursor s.world.db p c = none then (cursor (step cfg s.world e).db p c).getD 0 else s.born p c) < m.seq :=
    late
  have after : cursor (step cfg s.world e).db p c = some k' := after
  cases before : cursor s.world.db p c with
  | none =>
    simp only [before, after, if_true, Option.getD_some] at late
    omega
  | some k =>
    simp only [before, reduceCtorEq, if_false] at late
    exact ((step_effect cfg s.world e).moves inv.1 implicit).keeps inv.1 noGap careful before after inside here late early

theorem gap_of_careless (inv : Tracked s) (implicit : asks_history e = false) (careless : ¬ Careful cfg s.world e) :
    ¬ NoGap (observe cfg s e) := by
  intro noGap
  obtain ⟨p, c, k, k', m, before, after, inside, here, late, early, missed⟩ :=
    ((step_effect cfg s.world e).moves inv.1 implicit).breaks inv.1 careless
  apply missed
  apply noGap p c k' after m inside here _ early
  show (if cursor s.world.db p c = none then _ else _) < m.seq
  have := inv.2 p c k before
  rw [before, if_neg (by simp)]
  omega

/-- A server with an empty membership table, about to observe the creation of its memberships. -/
def initial (principals : PrincipalTable) (principal_tokens : TokenTable) (messages : Messages) (tasks : TaskTable) :
    Observed :=
  ⟨start ⟨principals, principal_tokens, Table.empty, messages, tasks⟩, fun _ _ => 0⟩

theorem tracked_initial (principals : PrincipalTable) (principal_tokens : TokenTable) (messages : Messages)
    (tasks : TaskTable) : Tracked (initial principals principal_tokens messages tasks) := by
  have absent (p c : Text) : cursor (initial principals principal_tokens messages tasks).world.db p c = none := rfl
  refine ⟨sound_start _ ?_, ?_⟩
  · intro p c k found
    cases found
  · intro p c k found
    rw [absent] at found; cases found

/-- No message below a cursor was left out, throughout a run without explicit
    history, exactly when every step of it is careful. -/
theorem no_gap_iff_careful (cfg : Config) (principals : PrincipalTable) (principal_tokens : TokenTable) (messages : Messages)
    (tasks : TaskTable) (events : List Event) (implicit : ∀ e ∈ events, asks_history e = false) :
    Always (observe cfg) NoGap (initial principals principal_tokens messages tasks) events ↔
      AllSteps (observe cfg) (fun s e => Careful cfg s.world e) (initial principals principal_tokens messages tasks) events := by
  apply always_iff_allSteps (fun _ _ inv implicit => inv.observe implicit) _ _ events
    (tracked_initial principals principal_tokens messages tasks) _ implicit
  · intro s e inv noGap implicit careful
    exact noGap.observe inv implicit careful
  · intro s e inv _ implicit careless
    exact gap_of_careless inv implicit careless
  · intro p c k found
    cases found

/-! ### A long absence -/

def arrival (sid : SessionId) (name token : Text) : List Event :=
  [.connect sid, .command sid (.Pass token) (moment 0), .command sid (.Nick name) (moment 0)]

def greeting (n : Nat) : Event := .command 0 (.Privmsg "#c".toList "hi".toList) (moment n)

/-- Bob joins and leaves, Alice sends `n` messages, and Bob comes back. -/
def absence (n : Nat) : List Event :=
  arrival 0 "alice".toList "a".toList ++ [.command 0 (.Join "#c".toList) (moment 0)] ++
  arrival 1 "bob".toList "b".toList ++ [.command 1 (.Join "#c".toList) (moment 0), .eof 1 (moment 0)] ++
  (List.range n).map greeting ++ arrival 2 "bob".toList "b".toList

theorem no_gap_iff_careful_absence :
    Always (observe plain) NoGap (initial alice_and_bob Table.empty Messages.empty Table.empty) (absence 3) ↔
      AllSteps (observe plain) (fun s e => Careful plain s.world e)
        (initial alice_and_bob Table.empty Messages.empty Table.empty) (absence 3) :=
  no_gap_iff_careful plain alice_and_bob Table.empty Messages.empty Table.empty (absence 3) (by decide)

/-- Bob is connected again, his cursor is 200, and message 201 is stored. -/
theorem behind_after_absence :
    let w := (run (observe plain) (initial alice_and_bob Table.empty Messages.empty Table.empty) (absence 201)).world
    posts plain w (greeting 201) = some "#c".toList ∧ ("bob".toList, ⟨2⟩) ∈ recipients_with_ids w.inner "#c".toList ∧
    w.open 2 ∧ cursor w.db "bob".toList "#c".toList = some 200 ∧
    ⟨201, "msg_200".toList, "#c".toList, "alice".toList, "hi".toList, 0⟩ ∈ w.db.messages.rows := by
  decide +kernel

/-- Of 201 missed messages the replay returns 200, and the next message moves the cursor over the last one. -/
theorem gap_after_long_absence :
    (∀ e ∈ absence 201 ++ [greeting 201], asks_history e = false) ∧
    ¬ Always (observe plain) NoGap (initial alice_and_bob Table.empty Messages.empty Table.empty)
      (absence 201 ++ [greeting 201]) := by
  refine ⟨by decide +kernel, ?_⟩
  intro always
  have last := always_iff_run.mp always (absence 201 ++ [greeting 201]) [] (by simp)
  rw [run_append] at last
  refine gap_of_careless ?_ rfl ?_ last
  · have allowed : AllSteps (observe plain) (fun _ e => asks_history e = false)
        (initial alice_and_bob Table.empty Messages.empty Table.empty) (absence 201) :=
      allSteps_of_forall (by decide +kernel)
    exact run_invariant_of (fun s e inv implicit => inv.observe implicit) (absence 201) (tracked_initial _ _ _ _) allowed
  · intro careful
    obtain ⟨posting, recipient, alive, seen, inside⟩ := behind_after_absence
    have caught : (201 : Int) ≤ 200 := careful.2 _ posting _ _ recipient alive _ seen _ inside rfl
    omega

end Aircd.Server

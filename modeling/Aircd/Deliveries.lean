import Aircd.Routing

/-!
What a broadcast, a replay and a registration queue and what they mark as seen.
-/
namespace Aircd.Server
open Aircd.Text Aircd.Auth Aircd.History Aircd.Tasks Aircd.Store

variable {w : World} {p c c' : Text} {sid sid' : SessionId} {m m' : StoredMessage}

/-! ## Broadcasts -/

section
variable (line : ServerLine) (seq : Int) (recipient : Text × ClientHandle)

theorem deliver_open (alive : w.open recipient.2.session_id) :
    deliver w c line seq recipient =
      { w.send recipient.2.session_id line with db := mark_seen w.db recipient.1 c seq } := by
  unfold deliver
  rw [tx_send_eq]
  simp only [decide_eq_true alive, db_send]

theorem deliver_closed (dead : ¬ w.open recipient.2.session_id) : deliver w c line seq recipient = w := by
  unfold deliver
  rw [tx_send_eq]
  have dead' : (w.connections recipient.2.session_id).writer ≠ true := dead
  simp only [decide_eq_false dead, World.send, World.tx_send, if_neg dead']

@[simp] theorem messages_deliver : (deliver w c line seq recipient).db.messages = w.db.messages := by
  by_cases alive : w.open recipient.2.session_id
  · rw [deliver_open line seq recipient alive]; rfl
  · rw [deliver_closed line seq recipient alive]

@[simp] theorem principal_deliver : (deliver w c line seq recipient).principal sid = w.principal sid := by
  by_cases alive : w.open recipient.2.session_id
  · rw [deliver_open line seq recipient alive]; exact principal_send w _ sid line
  · rw [deliver_closed line seq recipient alive]

@[simp] theorem open_deliver : (deliver w c line seq recipient).open sid ↔ w.open sid := by
  by_cases alive : w.open recipient.2.session_id
  · rw [deliver_open line seq recipient alive]; exact open_send w _ sid line
  · rw [deliver_closed line seq recipient alive]

@[simp] theorem registered_deliver : ((deliver w c line seq recipient).connections sid).session.registered =
    (w.connections sid).session.registered := by
  by_cases alive : w.open recipient.2.session_id
  · rw [deliver_open line seq recipient alive]
    show ((w.send _ line).connections sid).session.registered = _
    rw [connections_send]
    split
    · next here => rw [here.1]
    · rfl
  · rw [deliver_closed line seq recipient alive]

theorem enqueued_deliver :
    (deliver w c line seq recipient).enqueued sid =
      if sid = recipient.2.session_id ∧ w.open sid then w.enqueued sid ++ line.stored.toList else w.enqueued sid := by
  by_cases alive : w.open recipient.2.session_id
  · rw [deliver_open line seq recipient alive]
    show (w.send _ line).enqueued sid = _
    rw [enqueued_send]
    by_cases here : sid = recipient.2.session_id
    · subst here; rw [if_pos ⟨rfl, alive⟩]
    · rw [if_neg (fun both => here both.1), if_neg (fun both => here both.1)]
  · rw [deliver_closed line seq recipient alive, if_neg]
    rintro ⟨rfl, here⟩
    exact alive here

theorem cursor_deliver :
    cursor (deliver w c line seq recipient).db p c' =
      if p = recipient.1 ∧ c' = c ∧ w.open recipient.2.session_id then (cursor w.db p c').map (fun seen => max seen seq)
      else cursor w.db p c' := by
  by_cases alive : w.open recipient.2.session_id
  · rw [deliver_open line seq recipient alive]
    show cursor (mark_seen w.db recipient.1 c seq) p c' = _
    rw [cursor_mark_seen]
    by_cases here : p = recipient.1 ∧ c' = c
    · simp [here, alive]
    · rw [if_neg (fun all => here ⟨all.1, all.2.1⟩)]
      simp [here]
  · rw [deliver_closed line seq recipient alive, if_neg (fun all => alive all.2.2)]

end

/-- What a broadcast to a list of recipients does: the log, the principals and
    the writers stay, the message reaches the recipients whose queue is open,
    and so does their cursor. -/
structure Broadcasted (w w' : World) (recipients : List (Text × ClientHandle)) (m : StoredMessage) (c : Text) (seq : Int) :
    Prop where
  messages : w'.db.messages = w.db.messages
  principal : ∀ sid, w'.principal sid = w.principal sid
  registered : ∀ sid, (w'.connections sid).session.registered = (w.connections sid).session.registered
  opens : ∀ sid, w'.open sid ↔ w.open sid
  enqueued : ∀ sid m', m' ∈ w'.enqueued sid ↔
    m' ∈ w.enqueued sid ∨ (m' = m ∧ w.open sid ∧ ∃ r ∈ recipients, r.2.session_id = sid)
  reached : ∀ p, (∃ r ∈ recipients, r.1 = p ∧ w.open r.2.session_id) →
    cursor w'.db p c = (cursor w.db p c).map (fun seen => max seen seq)
  unreached : ∀ p c', ¬ (c' = c ∧ ∃ r ∈ recipients, r.1 = p ∧ w.open r.2.session_id) →
    cursor w'.db p c' = cursor w.db p c'

theorem broadcast_spec (recipients : List (Text × ClientHandle)) (w : World) {line : ServerLine} (carries : line.stored = some m)
    (c : Text) (seq : Int) :
    Broadcasted w (recipients.foldl (fun w recipient => deliver w c line seq recipient) w) recipients m c seq := by
  induction recipients generalizing w with
  | nil => exact ⟨rfl, fun _ => rfl, fun _ => rfl, fun _ => Iff.rfl, by simp, by simp, fun _ _ _ => rfl⟩
  | cons first rest ih =>
    have tail := ih (deliver w c line seq first)
    rw [List.foldl_cons]
    refine ⟨?_, ?_, ?_, ?_, ?_, ?_, ?_⟩
    · rw [tail.messages, messages_deliver]
    · intro sid; rw [tail.principal, principal_deliver]
    · intro sid; rw [tail.registered, registered_deliver]
    · intro sid; rw [tail.opens, open_deliver]
    · intro sid m'
      rw [tail.enqueued, open_deliver, enqueued_deliver]
      by_cases here : sid = first.2.session_id ∧ w.open sid
      · rw [if_pos here, carries]
        simp only [Option.toList_some, List.mem_append, List.mem_singleton, List.exists_mem_cons_iff]
        constructor
        · rintro ((old | rfl) | ⟨rfl, alive, later⟩)
          · exact .inl old
          · exact .inr ⟨rfl, here.2, .inl here.1.symm⟩
          · exact .inr ⟨rfl, alive, .inr later⟩
        · rintro (old | ⟨rfl, _, _⟩)
          · exact .inl (.inl old)
          · exact .inl (.inr rfl)
      · rw [if_neg here]
        simp only [List.exists_mem_cons_iff]
        refine or_congr_right (and_congr_right (fun _ => and_congr_right (fun alive => ?_)))
        constructor
        · exact .inr
        · rintro (same | later)
          · exact absurd ⟨same.symm, alive⟩ here
          · exact later
    · rintro p ⟨r, inside, rfl, alive⟩
      by_cases later : ∃ r' ∈ rest, r'.1 = r.1 ∧ (deliver w c line seq first).open r'.2.session_id
      · rw [tail.reached r.1 later, cursor_deliver]
        split
        · cases cursor w.db r.1 c with
          | none => rfl
          | some seen => simp
        · rfl
      · rw [tail.unreached r.1 c (fun both => later both.2), cursor_deliver, if_pos]
        rcases List.mem_cons.mp inside with rfl | beyond
        · exact ⟨rfl, rfl, alive⟩
        · exact absurd ⟨r, beyond, rfl, (open_deliver line seq first).mpr alive⟩ later
    · intro p c' nowhere
      rw [tail.unreached p c', cursor_deliver, if_neg]
      · rintro ⟨rfl, rfl, alive⟩
        exact nowhere ⟨rfl, first, List.mem_cons_self, rfl, alive⟩
      · rintro ⟨rfl, r, inside, rfl, alive⟩
        exact nowhere ⟨rfl, r, List.mem_cons_of_mem _ inside, rfl, (open_deliver line seq first).mp alive⟩

/-! ## Replays -/

theorem le_page_max (after_seq : Int) (messages : List StoredMessage) :
    after_seq ≤ page_max after_seq messages ∧ ∀ m ∈ messages, m.seq ≤ page_max after_seq messages := by
  have same : page_max after_seq messages = (messages.map (·.seq)).foldl max after_seq := by
    rw [page_max, List.foldl_map]
  obtain ⟨base, later⟩ := le_foldl_max (messages.map (·.seq)) after_seq
  rw [same]
  exact ⟨base, fun m inside => later m.seq (List.mem_map_of_mem inside)⟩

/-- The largest seq of a page is the cursor it was read from or that of a message of it. -/
theorem page_max_attained (after_seq : Int) (messages : List StoredMessage) :
    page_max after_seq messages = after_seq ∨ ∃ m ∈ messages, m.seq = page_max after_seq messages := by
  have same : page_max after_seq messages = (messages.map (·.seq)).foldl max after_seq := by
    rw [page_max, List.foldl_map]
  rw [same]
  rcases foldl_max_mem (messages.map (·.seq)) after_seq with base | inside
  · exact .inl base
  · exact .inr (List.mem_map.mp inside)

/-- The lines of a page go to the session, one after the other. -/
theorem replayed_lines (sid : SessionId) (messages : List StoredMessage) (w : World) :
    let w' := messages.foldl
      (fun w message => w.send sid (.Message message (display_name w.db message.sender_id) true)) w
    w'.db = w.db ∧ (∀ sid', w'.principal sid' = w.principal sid') ∧ (∀ sid', w'.open sid' ↔ w.open sid') ∧
    (∀ sid', (w'.connections sid').session.registered = (w.connections sid').session.registered) ∧
    ∀ sid', w'.enqueued sid' = if sid' = sid ∧ w.open sid then w.enqueued sid ++ messages else w.enqueued sid' := by
  induction messages generalizing w with
  | nil =>
    refine ⟨rfl, fun _ => rfl, fun _ => Iff.rfl, fun _ => rfl, ?_⟩
    intro sid'
    by_cases here : sid' = sid ∧ w.open sid
    · simp [here]
    · simp [here]
  | cons message rest ih =>
    obtain ⟨db, principal, opens, registered, enqueued⟩ :=
      ih (w.send sid (.Message message (display_name w.db message.sender_id) true))
    simp only [List.foldl_cons]
    refine ⟨by rw [db, db_send], fun sid' => by rw [principal, principal_send], fun sid' => by rw [opens, open_send], ?_, ?_⟩
    · intro sid'
      rw [registered, connections_send]
      split
      · next here => rw [here.1]
      · rfl
    · intro sid'
      rw [enqueued, enqueued_send, enqueued_send]
      by_cases here : sid' = sid ∧ w.open sid
      · simp [here, ServerLine.stored]
      · rw [if_neg (fun both => here ⟨both.1, (open_send w sid sid _).mp both.2⟩), if_neg here, if_neg here]

/-- What the replay of memberships to one session does: the pages after their
    cursors are queued when the queue is open, and the cursors go to the ends of
    the pages in either case. -/
structure Replayed (w w' : World) (sid : SessionId) (id : Text) (replays : List Membership) (limit : Int) : Prop where
  messages : w'.db.messages = w.db.messages
  principal : ∀ sid', w'.principal sid' = w.principal sid'
  registered : ∀ sid', (w'.connections sid').session.registered = (w.connections sid').session.registered
  opens : ∀ sid', w'.open sid' ↔ w.open sid'
  enqueued : ∀ sid' m, m ∈ w'.enqueued sid' ↔ m ∈ w.enqueued sid' ∨ (sid' = sid ∧ w.open sid ∧
    ∃ r ∈ replays, m ∈ after w.db.messages r.channel r.last_seen_seq limit)
  seen : ∀ r ∈ replays, cursor w.db id r.channel = some r.last_seen_seq →
    cursor w'.db id r.channel = some (page_max r.last_seen_seq (after w.db.messages r.channel r.last_seen_seq limit))
  others : ∀ p c, ¬ (p = id ∧ ∃ r ∈ replays, r.channel = c) → cursor w'.db p c = cursor w.db p c

theorem replay_channel_spec (w : World) (sid : SessionId) (principal : Principal) (membership : Membership) (limit : Int) :
    Replayed w (replay_channel w sid principal membership.last_seen_seq limit membership.channel) sid principal.id
      [membership] limit := by
  obtain ⟨db, known, opens, registered, enqueued⟩ := replayed_lines sid
    (after w.db.messages membership.channel membership.last_seen_seq limit) w
  generalize page : after w.db.messages membership.channel membership.last_seen_seq limit = messages at *
  have least := (le_page_max membership.last_seen_seq messages).1
  have queued (sid' : SessionId) (m : StoredMessage) (w' : World) (same : w'.enqueued sid' =
      if sid' = sid ∧ w.open sid then w.enqueued sid ++ messages else w.enqueued sid') :
      m ∈ w'.enqueued sid' ↔ m ∈ w.enqueued sid' ∨ (sid' = sid ∧ w.open sid ∧
        ∃ r ∈ [membership], m ∈ after w.db.messages r.channel r.last_seen_seq limit) := by
    simp only [same, List.mem_singleton, exists_eq_left, page]
    by_cases here : sid' = sid ∧ w.open sid
    · rw [if_pos here, List.mem_append, here.1]; simp [here.2]
    · rw [if_neg here]
      constructor
      · exact .inl
      · rintro (old | ⟨same, alive, _⟩)
        · exact old
        · exact absurd ⟨same, alive⟩ here
  unfold replay_channel
  rw [page]
  dsimp only
  by_cases moves : membership.last_seen_seq < page_max membership.last_seen_seq messages
  · rw [if_pos moves]
    refine ⟨by simp [db], known, registered, opens, fun sid' m => queued sid' m _ (enqueued sid'), ?_, ?_⟩
    · intro r inside before
      rw [List.mem_singleton.mp inside] at before ⊢
      rw [cursor_mark_seen, db, before, page]
      simp [max_eq_right least]
    · intro p c elsewhere
      rw [cursor_mark_seen, db]
      have other : ¬ (p = principal.id ∧ c = membership.channel) :=
        fun same => elsewhere ⟨same.1, membership, List.mem_singleton_self _, same.2.symm⟩
      simp [other]
  · rw [if_neg moves]
    refine ⟨by rw [db], known, registered, opens, fun sid' m => queued sid' m _ (enqueued sid'), ?_, ?_⟩
    · intro r inside before
      rw [List.mem_singleton.mp inside] at before ⊢
      rw [db, before, page]
      congr 1
      omega
    · intro p c _
      rw [db]

theorem replay_spec (replays : List Membership) (w : World) (sid : SessionId) (principal : Principal) (limit : Int)
    (distinct : (replays.map (·.channel)).Nodup) :
    Replayed w (replays.foldl (fun w membership =>
      replay_channel w sid principal membership.last_seen_seq limit membership.channel) w) sid principal.id replays limit := by
  induction replays generalizing w with
  | nil => exact ⟨rfl, fun _ => rfl, fun _ => rfl, fun _ => Iff.rfl, by simp, by simp, fun _ _ _ => rfl⟩
  | cons first rest ih =>
    rw [List.map_cons, List.nodup_cons] at distinct
    have head := replay_channel_spec w sid principal first limit
    have tail := ih (replay_channel w sid principal first.last_seen_seq limit first.channel) distinct.2
    rw [List.foldl_cons]
    refine ⟨tail.messages.trans head.messages, fun sid' => (tail.principal sid').trans (head.principal sid'),
      fun sid' => (tail.registered sid').trans (head.registered sid'),
      fun sid' => (tail.opens sid').trans (head.opens sid'), ?_, ?_, ?_⟩
    · intro sid' m
      rw [tail.enqueued, head.enqueued, head.opens, head.messages]
      simp only [List.exists_mem_cons_iff, List.not_mem_nil, false_and, exists_false, or_false, or_assoc, ← and_or_left]
    · intro r inside before
      rcases List.mem_cons.mp inside with rfl | later
      · have final := head.seen r (List.mem_singleton_self r) before
        rw [tail.others principal.id r.channel, final]
        rintro ⟨_, r', inside', same⟩
        exact distinct.1 (List.mem_map.mpr ⟨r', inside', same⟩)
      · have apart : first.channel ≠ r.channel := by
          intro same
          exact distinct.1 (List.mem_map.mpr ⟨r, later, same.symm⟩)
        have kept := head.others principal.id r.channel (by simp [apart])
        rw [tail.seen r later (kept.trans before), head.messages]
    · intro p c elsewhere
      rw [tail.others p c, head.others p c]
      · rintro ⟨self, r, inside, same⟩
        rw [List.mem_singleton.mp inside] at same
        exact elsewhere ⟨self, first, List.mem_cons_self, same⟩
      · rintro ⟨self, r, inside, same⟩
        exact elsewhere ⟨self, r, List.mem_cons_of_mem _ inside, same⟩

/-! ## Registrations -/

section
variable (w) (env : Env) (principal : Principal)

@[simp] theorem db_inserted : (inserted w env sid principal).db = (mark_connected_and_memberships w.db env.now principal.id).1 := by
  simp [inserted]

/-- Inserting a handle tells at most one session to shut down and leaves its lines and the rest. -/
theorem connection_insert_client (channels : List Text) :
    ((insert_client w sid p channels).connections sid').session = (w.connections sid').session ∧
    ((insert_client w sid p channels).connections sid').lines = (w.connections sid').lines ∧
    ((insert_client w sid p channels).connections sid').writer = (w.connections sid').writer := by
  unfold insert_client
  cases w.inner.clients p with
  | none => exact ⟨rfl, rfl, rfl⟩
  | some old =>
    dsimp only
    rw [connections_modify]
    by_cases here : sid' = old.session_id
    · rw [if_pos here, here]; exact ⟨rfl, rfl, rfl⟩
    · rw [if_neg here]; exact ⟨rfl, rfl, rfl⟩

theorem session_inserted :
    ((inserted w env sid principal).connections sid').session =
      if sid' = sid then { (w.connections sid).session with
        nick := some principal.nick, principal := some principal, registered := true }
      else (w.connections sid').session := by
  rw [inserted, (connection_insert_client _ _).1]
  by_cases here : sid' = sid
  · simp [World.setSession, connections_modify, here]
  · simp [World.setSession, connections_modify, here]

@[simp] theorem enqueued_inserted : (inserted w env sid principal).enqueued sid' = w.enqueued sid' := by
  rw [World.enqueued, World.enqueued, inserted, (connection_insert_client _ _).2.1]
  by_cases here : sid' = sid
  · simp [World.setSession, connections_modify, here]
  · simp [World.setSession, connections_modify, here]

@[simp] theorem open_inserted : (inserted w env sid principal).open sid' ↔ w.open sid' := by
  rw [World.open, World.open, inserted, (connection_insert_client _ _).2.2]
  by_cases here : sid' = sid
  · simp [World.setSession, connections_modify, here]
  · simp [World.setSession, connections_modify, here]

theorem clients_inserted : (inserted w env sid principal).inner.clients p =
    if p = principal.id then some ⟨sid⟩ else w.inner.clients p := by
  rw [inserted, clients_insert_client]; rfl

end

/-- What a registration does. -/
structure Registered (w w' : World) (sid : SessionId) (newcomer : Principal) : Prop where
  messages : w'.db.messages = w.db.messages
  principal : ∀ sid', w'.principal sid' = if sid' = sid then some newcomer else w.principal sid'
  registered : ∀ sid', (w'.connections sid').session.registered =
    if sid' = sid then true else (w.connections sid').session.registered
  clients : ∀ p, w'.inner.clients p = if p = newcomer.id then some ⟨sid⟩ else w.inner.clients p
  enqueued : ∀ sid' m, m ∈ w'.enqueued sid' ↔ m ∈ w.enqueued sid' ∨ (sid' = sid ∧ w.open sid ∧
    ∃ c seen, cursor w.db newcomer.id c = some seen ∧ m ∈ after w.db.messages c seen 200)
  moved : ∀ p c, cursor w'.db p c =
    if p = newcomer.id then (cursor w.db p c).map (fun seen => page_max seen (after w.db.messages c seen 200))
    else cursor w.db p c

theorem register_spec (w : World) (env : Env) (sid : SessionId) (principal : Principal) :
    Registered w (register w env sid principal) sid principal := by
  obtain ⟨greeted, calm, opens, result⟩ := register_replays w env sid principal
  have replays := replay_spec (memberships w.db principal.id) greeted sid principal 200 memberships_nodup
  have routing := SameRouting.register (w := w) env sid principal
  have messages : greeted.db.messages = w.db.messages := by rw [calm.messages, db_inserted, messages_mark_connected]
  have before (p c : Text) : cursor greeted.db p c = cursor w.db p c := by
    rw [cursor, calm.memberships, db_inserted]; rfl
  refine ⟨?_, ?_, ?_, ?_, ?_, ?_⟩
  · rw [result, replays.messages, messages]
  · intro sid'
    rw [result, replays.principal, calm.principal, World.principal, session_inserted]
    split
    · rfl
    · rfl
  · intro sid'
    rw [result, replays.registered, calm.registered, session_inserted]
    split
    · rfl
    · rfl
  · intro p
    rw [routing.inner, clients_inserted]
  · intro sid' m
    rw [result, replays.enqueued, calm.enqueued, enqueued_inserted, opens, open_inserted, messages]
    refine or_congr_right (and_congr_right (fun _ => and_congr_right (fun _ => ?_)))
    constructor
    · rintro ⟨r, inside, listed⟩; exact ⟨r.channel, r.last_seen_seq, mem_memberships.mp inside, listed⟩
    · rintro ⟨c, seen, found, listed⟩; exact ⟨⟨c, seen⟩, mem_memberships.mpr found, listed⟩
  · intro p c
    rw [result]
    by_cases self : p = principal.id
    · subst self
      rw [if_pos rfl]
      cases found : cursor w.db principal.id c with
      | none =>
        rw [replays.others principal.id c, before, found]
        · rfl
        · rintro ⟨_, r, inside, rfl⟩
          rw [mem_memberships.mp inside] at found
          cases found
      | some seen =>
        have final := replays.seen ⟨c, seen⟩ (mem_memberships.mpr found) ((before _ _).trans found)
        rw [final, messages]; rfl
    · rw [if_neg self, replays.others p c (fun both => self both.1), before]

end Aircd.Server

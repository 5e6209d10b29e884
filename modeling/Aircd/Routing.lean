import Aircd.Effects

/-!
# The routing refines the memberships

The members that `inner.channels` lists are backed by rows of
`channel_memberships`, and it lists every member that is connected. Disconnected
principals may stay listed and may be missing, after a restart for one.
-/
namespace Aircd.Server
open Aircd.Runs Aircd.Auth Aircd.History Aircd.Tasks Aircd.Store

variable {w w' : World} {p p' c c' : Text} {h : ClientHandle}

@[simp] theorem clients_add_member (inner : ServerInner) : (add_member inner p c).clients = inner.clients := rfl

@[simp] theorem mem_members_add_member {inner : ServerInner} :
    p' ∈ members (add_member inner p c) c' ↔ p' ∈ members inner c' ∨ (p' = p ∧ c' = c) := by
  unfold members add_member
  by_cases same : c' = c
  · subst same
    cases inner.channels c' with
    | none => simp [HashSet.insert]
    | some set => simp [HashSet.insert, or_comm]
  · simp [same]

@[simp] theorem clients_remove_member (inner : ServerInner) : (remove_member inner p c).clients = inner.clients := by
  unfold remove_member
  cases inner.channels c with
  | none => rfl
  | some set => rfl

@[simp] theorem mem_members_remove_member {inner : ServerInner} :
    p' ∈ members (remove_member inner p c) c' ↔ p' ∈ members inner c' ∧ ¬ (p' = p ∧ c' = c) := by
  unfold members remove_member
  cases listed : inner.channels c with
  | none =>
    by_cases same : c' = c
    · subst same; simp [listed]
    · simp [same]
  | some set =>
    by_cases same : c' = c
    · subst same
      simp [listed, HashSet.remove, set.2.mem_erase_iff, and_comm]
    · simp [same]

/-- A recipient is a member that has a client. -/
theorem mem_recipients {inner : ServerInner} :
    (p, h) ∈ recipients_with_ids inner c ↔ p ∈ members inner c ∧ inner.clients p = some h := by
  unfold recipients_with_ids members
  cases inner.channels c with
  | none => simp
  | some set =>
    simp only [List.mem_filterMap, Option.map_eq_some_iff, Prod.mk.injEq, Option.map_some, Option.getD_some]
    constructor
    · rintro ⟨id, inside, client, found, rfl, rfl⟩; exact ⟨inside, found⟩
    · rintro ⟨inside, found⟩; exact ⟨p, inside, h, found, rfl, rfl⟩

/-- No principal is listed twice. -/
theorem recipients_ids_nodup (inner : ServerInner) : ((recipients_with_ids inner c).map Prod.fst).Nodup := by
  unfold recipients_with_ids
  cases inner.channels c with
  | none => simp
  | some set =>
    have sub : ((set.1.filterMap (fun id => (inner.clients id).map (fun client => (id, client)))).map Prod.fst).Sublist
        set.1 := by
      rw [List.map_filterMap]
      have same : (fun id => ((inner.clients id).map (fun client => (id, client))).map Prod.fst) =
          fun id => if (inner.clients id).isSome then some id else none := by
        funext id
        cases inner.clients id with
        | none => rfl
        | some client => rfl
      rw [same]
      induction set.1 with
      | nil => simp
      | cons id rest ih =>
        by_cases connected : (inner.clients id).isSome = true
        · simp [connected, ih]
        · simp only [List.filterMap_cons, connected, Bool.false_eq_true, if_false]
          exact ih.cons id
    exact set.2.sublist sub

/-! ## Registration -/

theorem clients_foldl_add_member (channels : List Text) (inner : ServerInner) :
    (channels.foldl (fun inner channel => add_member inner p channel) inner).clients = inner.clients := by
  induction channels generalizing inner with
  | nil => rfl
  | cons channel rest ih => rw [List.foldl_cons, ih, clients_add_member]

theorem mem_members_foldl_add_member (channels : List Text) (inner : ServerInner) :
    p' ∈ members (channels.foldl (fun inner channel => add_member inner p channel) inner) c ↔
      p' ∈ members inner c ∨ (p' = p ∧ c ∈ channels) := by
  induction channels generalizing inner with
  | nil => simp
  | cons channel rest ih =>
    rw [List.foldl_cons, ih, mem_members_add_member, List.mem_cons, and_or_left, or_assoc]

theorem clients_insert_client (sid : SessionId) (channels : List Text) :
    (insert_client w sid p channels).inner.clients p' = if p' = p then some ⟨sid⟩ else w.inner.clients p' := by
  unfold insert_client
  cases w.inner.clients p with
  | none => simp [clients_foldl_add_member, Function.update_apply]
  | some old => simp [clients_foldl_add_member, Function.update_apply]

theorem mem_members_insert_client (sid : SessionId) (channels : List Text) :
    p' ∈ members (insert_client w sid p channels).inner c ↔ p' ∈ members w.inner c ∨ (p' = p ∧ c ∈ channels) := by
  unfold insert_client
  cases w.inner.clients p with
  | none => simp only [mem_members_foldl_add_member]; rfl
  | some old => simp only [inner_modify, mem_members_foldl_add_member]; rfl

@[simp] theorem db_insert_client (sid : SessionId) (channels : List Text) : (insert_client w sid p channels).db = w.db := by
  unfold insert_client
  cases w.inner.clients p with
  | none => rfl
  | some old => rfl

/-! ## The invariant -/

/-- Memory implies a row, and a row of a connected principal implies memory. -/
structure Routed (w : World) : Prop where
  backed : ∀ p c, p ∈ members w.inner c → (cursor w.db p c).isSome
  listed : ∀ p c, (cursor w.db p c).isSome → (w.inner.clients p).isSome → p ∈ members w.inner c

/-- The routing is as it was, and so are the memberships but for their cursors. -/
structure SameRouting (w w' : World) : Prop where
  inner : w'.inner = w.inner
  rows : ∀ p c, (cursor w'.db p c).isSome = (cursor w.db p c).isSome

namespace SameRouting
variable {w'' : World}

theorem refl (w : World) : SameRouting w w := ⟨rfl, fun _ _ => rfl⟩

theorem trans (first : SameRouting w w') (second : SameRouting w' w'') : SameRouting w w'' :=
  ⟨second.inner.trans first.inner, fun p c => (second.rows p c).trans (first.rows p c)⟩

theorem foldl {α : Type} {f : World → α → World} (each : ∀ w x, SameRouting w (f w x)) (l : List α) (w : World) :
    SameRouting w (l.foldl f w) := by
  induction l generalizing w with
  | nil => exact refl w
  | cons x rest ih => exact (each w x).trans (ih (f w x))

theorem of_calm (calm : Calm w w') : SameRouting w w' :=
  ⟨calm.inner, fun p c => by simp only [cursor, calm.memberships]⟩

theorem mark_seen (seq : Int) : SameRouting w { w with db := mark_seen w.db p c seq } :=
  ⟨rfl, fun _ _ => by simp⟩

theorem deliver (line : ServerLine) (seq : Int) (recipient : Text × ClientHandle) :
    SameRouting w (deliver w c line seq recipient) := by
  have sent : SameRouting w (w.send recipient.2.session_id line) := ⟨by simp, fun _ _ => by simp⟩
  unfold Server.deliver
  rw [tx_send_eq]
  by_cases alive : w.open recipient.2.session_id
  · simp only [decide_eq_true alive]
    exact sent.trans (mark_seen seq)
  · simp only [decide_eq_false alive]
    exact sent

theorem broadcast_message (line : ServerLine) (seq : Int) : SameRouting w (broadcast_message w c line seq) :=
  foldl (fun _ recipient => deliver line seq recipient) _ w

theorem replay_channel (sid : SessionId) (principal : Principal) (after_seq limit : Int) (channel : Text) :
    SameRouting w (replay_channel w sid principal after_seq limit channel) := by
  have sent (messages : List StoredMessage) : SameRouting w (messages.foldl
      (fun w message => w.send sid (.Message message (display_name w.db message.sender_id) true)) w) :=
    foldl (fun w message => ⟨by simp, fun _ _ => by simp⟩) messages w
  unfold Server.replay_channel
  dsimp only
  split
  · exact (sent _).trans (mark_seen _)
  · exact sent _

theorem replay_history (sid : SessionId) (principal : Principal) (channels : List Text) (after_seq limit : Int) :
    SameRouting w (replay_history w sid principal channels after_seq limit) :=
  foldl (fun _ channel => replay_channel sid principal after_seq limit channel) channels w

/-- Registration changes the routing by its handle and its channels alone. -/
theorem register (env : Env) (sid : SessionId) (principal : Principal) :
    SameRouting (inserted w env sid principal) (register w env sid principal) := by
  obtain ⟨greeted, calm, _, result⟩ := register_replays w env sid principal
  rw [result]
  exact (of_calm calm).trans (foldl (fun _ (membership : Membership) =>
    replay_channel sid principal membership.last_seen_seq 200 membership.channel) _ greeted)

end SameRouting

theorem Routed.of_same (same : SameRouting w w') (inv : Routed w) : Routed w' where
  backed p c inside := by
    rw [same.rows]
    rw [same.inner] at inside
    exact inv.backed p c inside
  listed p c row connected := by
    rw [same.rows] at row
    rw [same.inner] at connected ⊢
    exact inv.listed p c row connected

theorem Routed.inserted {env : Env} {sid : SessionId} {principal : Principal} (inv : Routed w) :
    Routed (inserted w env sid principal) := by
  have rows (p c : Text) : cursor (Server.inserted w env sid principal).db p c = cursor w.db p c := by
    simp [Server.inserted]
  have channels (c : Text) : c ∈ (memberships w.db principal.id).map (·.channel) ↔
      (cursor w.db principal.id c).isSome := by
    simp only [List.mem_map, mem_memberships, Option.isSome_iff_exists]
    constructor
    · rintro ⟨membership, seen, rfl⟩; exact ⟨_, seen⟩
    · rintro ⟨seen, found⟩; exact ⟨⟨c, seen⟩, found, rfl⟩
  refine ⟨?_, ?_⟩
  · intro p c inside
    rw [rows]
    rcases mem_members_insert_client sid _ |>.mp inside with old | ⟨rfl, joined⟩
    · exact inv.backed p c old
    · exact (channels c).mp joined
  · intro p c row connected
    rw [rows] at row
    refine (mem_members_insert_client sid _).mpr ?_
    by_cases self : p = principal.id
    · subst self
      exact .inr ⟨rfl, (channels c).mpr row⟩
    · left
      apply inv.listed p c row
      simpa [Server.inserted, clients_insert_client, self] using connected

theorem Routed.joined {env : Env} {principal : Principal} {channel : Text} (inv : Routed w) :
    Routed { w with
      db := add_membership w.db env.now principal.id channel, inner := add_member w.inner principal.id channel } := by
  refine ⟨?_, ?_⟩
  · intro p c inside
    simp only [cursor_add_membership]
    rcases mem_members_add_member.mp inside with old | ⟨rfl, rfl⟩
    · have row := inv.backed p c old
      split
      · rfl
      · exact row
    · by_cases absent : cursor w.db principal.id c = none
      · simp [absent]
      · simpa [absent] using Option.isSome_iff_ne_none.mpr absent
  · intro p c row connected
    refine mem_members_add_member.mpr ?_
    by_cases self : p = principal.id ∧ c = channel
    · exact .inr self
    · left
      apply inv.listed p c _ connected
      simp only [cursor_add_membership] at row
      split at row
      · next fresh => exact absurd ⟨fresh.2.1.symm, fresh.2.2.symm⟩ self
      · exact row

theorem Routed.parted {principal : Principal} {channel : Text} (inv : Routed w) :
    Routed { w with
      db := remove_membership w.db principal.id channel, inner := remove_member w.inner principal.id channel } := by
  refine ⟨?_, ?_⟩
  · intro p c inside
    obtain ⟨old, other⟩ := mem_members_remove_member.mp inside
    rw [cursor_remove_membership, if_neg (fun same => other ⟨same.1.symm, same.2.symm⟩)]
    exact inv.backed p c old
  · intro p c row connected
    have connected : ((remove_member w.inner principal.id channel).clients p).isSome := connected
    rw [clients_remove_member] at connected
    rw [cursor_remove_membership] at row
    refine mem_members_remove_member.mpr ?_
    by_cases self : principal.id = p ∧ channel = c
    · rw [if_pos self] at row; simp at row
    · rw [if_neg self] at row
      exact ⟨inv.listed p c row connected, fun same => self ⟨same.1.symm, same.2.symm⟩⟩

theorem Routed.remove_client {sid : SessionId} (inv : Routed w) : Routed (remove_client w sid p).1 := by
  unfold Server.remove_client
  split
  · refine ⟨inv.backed, ?_⟩
    intro p' c row connected
    by_cases self : p' = p
    · subst self; simp at connected
    · exact inv.listed p' c row (by simpa [self] using connected)
  · exact inv

/-- The step lemma: every effect keeps the routing backed and complete. -/
theorem Routed.effect {cfg : Config} {e : Event} (inv : Routed w) (effect : Effect cfg w e w') : Routed w' := by
  cases effect with
  | calm _ _ same => exact inv.of_same (.of_calm same)
  | @registered sid principal env session _ _ _ _ _ =>
    have presented : Routed (w.setSession sid session) := ⟨inv.backed, inv.listed⟩
    exact presented.inserted.of_same (.register env sid principal)
  | joined _ _ => exact inv.joined.of_same (.of_calm (Calm.broadcast_raw rfl))
  | parted _ _ => exact inv.parted.of_same (.of_calm (Calm.broadcast_raw rfl))
  | posted line _ _ _ => exact Routed.of_same (.broadcast_message _ _) ⟨inv.backed, inv.listed⟩
  | replayed _ _ _ _ => exact inv.of_same (.replay_history _ _ _ _ _)
  | left _ _ before after => exact (inv.of_same (.of_calm before)).remove_client.of_same (.of_calm after)
  | restarted same => exact ⟨fun p c inside => by simp [Server.step, ServerInner.default, members] at inside,
      fun p c _ connected => by simp [Server.step, ServerInner.default] at connected⟩

/-- In every reachable state the recipients of a channel are the principals with
    a membership and a client, each once and with its current handle. -/
theorem recipients_refine_memberships (cfg : Config) (db : Db) (events : List Event) (channel : Text) :
    let w := run (step cfg) (start db) events
    (recipients_with_ids w.inner channel).Nodup ∧
    ((recipients_with_ids w.inner channel).map Prod.fst).Nodup ∧
    ∀ p h, (p, h) ∈ recipients_with_ids w.inner channel ↔
      (∃ row ∈ w.db.channel_memberships.rows, row.principal_id = p ∧ row.channel = channel) ∧
        w.inner.clients p = some h := by
  intro w
  have started : Routed (start db) := ⟨by simp [start, ServerInner.default, members], by simp [start, ServerInner.default]⟩
  have inv : Routed w := run_invariant (fun w e inv => inv.effect (step_effect cfg w e)) events started
  refine ⟨(recipients_ids_nodup w.inner).of_map, recipients_ids_nodup w.inner, ?_⟩
  intro p h
  rw [mem_recipients, ← cursor_isSome_iff]
  constructor
  · rintro ⟨inside, found⟩; exact ⟨inv.backed p channel inside, found⟩
  · rintro ⟨row, found⟩; exact ⟨inv.listed p channel row (by simp [found]), found⟩

end Aircd.Server

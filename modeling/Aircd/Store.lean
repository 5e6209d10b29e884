import Aircd.Auth
import Aircd.History
import Aircd.Tasks
import Mathlib.Data.Char
import Mathlib.Data.List.Lex

/-!
The database of `store.rs` and the statements that `server.rs` runs on it. Each
function here is one critical section of the database mutex.
-/
namespace Aircd.Store
open Aircd.Auth Aircd.History Aircd.Tasks

structure MembershipRow where
  principal_id : Text
  channel : Text
  joined_at : Int
  last_seen_seq : Int
  deriving DecidableEq, Repr

abbrev MembershipTable := Table (fun row : MembershipRow => (row.principal_id, row.channel))

/-- What `server.rs` reads of a membership. -/
structure Membership where
  channel : Text
  last_seen_seq : Int
  deriving DecidableEq, Repr

structure Db where
  principals : PrincipalTable
  principal_tokens : TokenTable
  channel_memberships : MembershipTable
  messages : Messages
  tasks : TaskTable

def SERVER_NAME : Text := "aircd".toList

def memberships (db : Db) (principal_id : Text) : List Membership :=
  ((db.channel_memberships.rows.filter (fun row => decide (row.principal_id = principal_id))).insertionSort
    (fun a b => a.channel ≤ b.channel)).map (fun row => ⟨row.channel, row.last_seen_seq⟩)

def mark_connected_and_memberships (db : Db) (now : Int) (principal_id : Text) : Db × List Membership :=
  ({ db with
      principals := db.principals.update (fun row => decide (row.id = principal_id))
        (fun row => { row with connected_at := some now, disconnected_at := none }) (fun _ => rfl) },
    memberships db principal_id)

/-- The `UPDATE` at the end of `disconnect`. -/
def mark_disconnected (db : Db) (now : Int) (principal_id : Text) : Db :=
  { db with
    principals := db.principals.update (fun row => decide (row.id = principal_id))
      (fun row => { row with disconnected_at := some now }) (fun _ => rfl) }

def add_membership (db : Db) (now : Int) (principal_id channel : Text) : Db :=
  { db with
    channel_memberships := db.channel_memberships.insert
      ⟨principal_id, channel, now, max_seq db.messages channel⟩ }

def remove_membership (db : Db) (principal_id channel : Text) : Db :=
  { db with
    channel_memberships := db.channel_memberships.delete
      (fun row => decide (row.principal_id = principal_id) && decide (row.channel = channel)) }

def is_member (db : Db) (principal_id channel : Text) : Bool :=
  decide (0 < db.channel_memberships.rows.countP
    (fun row => decide (row.principal_id = principal_id) && decide (row.channel = channel)))

def display_name (db : Db) (principal_id : Text) : Text :=
  if principal_id = SERVER_NAME then SERVER_NAME
  else ((db.principals.find principal_id).map (·.nick)).getD principal_id

def mark_seen (db : Db) (principal_id channel : Text) (seq : Int) : Db :=
  { db with
    principals := db.principals.update (fun row => decide (row.id = principal_id))
      (fun row => { row with last_seen_seq := max row.last_seen_seq seq }) (fun _ => rfl)
    channel_memberships := db.channel_memberships.update
      (fun row => decide (row.principal_id = principal_id) && decide (row.channel = channel))
      (fun row => { row with last_seen_seq := max row.last_seen_seq seq }) (fun _ => rfl) }

/-- The cursor of a durable membership. -/
def cursor (db : Db) (principal_id channel : Text) : Option Int :=
  (db.channel_memberships.find (principal_id, channel)).map (·.last_seen_seq)

variable {db : Db} {p p' c c' : Text}

theorem cursor_isSome_iff : (cursor db p c).isSome ↔ ∃ row ∈ db.channel_memberships.rows, row.principal_id = p ∧ row.channel = c := by
  simp [cursor, Table.find_isSome_iff]

theorem is_member_iff : is_member db p c = true ↔ (cursor db p c).isSome := by
  rw [cursor_isSome_iff]
  simp [is_member, List.countP_pos_iff]

theorem mem_memberships {m : Membership} : m ∈ memberships db p ↔ cursor db p m.channel = some m.last_seen_seq := by
  simp only [memberships, List.mem_map, List.mem_insertionSort, List.mem_filter, decide_eq_true_eq, cursor,
    Option.map_eq_some_iff, Table.find_iff, Prod.mk.injEq]
  constructor
  · rintro ⟨row, ⟨inside, rfl⟩, rfl⟩
    exact ⟨row, ⟨inside, rfl, rfl⟩, rfl⟩
  · rintro ⟨row, ⟨inside, rfl, here⟩, seen⟩
    exact ⟨row, ⟨inside, rfl⟩, by cases m; simp_all⟩

/-- A principal has one membership for each of its channels. -/
theorem memberships_nodup : ((memberships db p).map (·.channel)).Nodup := by
  rw [memberships, List.map_map]
  have perm := List.perm_insertionSort (fun a b : MembershipRow => a.channel ≤ b.channel)
    (db.channel_memberships.rows.filter (fun row => decide (row.principal_id = p)))
  have order := (perm.map (fun row => row.channel)).nodup_iff
  apply order.mpr
  apply List.Nodup.map_on
  · intro a ha b hb same
    simp only [List.mem_filter, decide_eq_true_eq] at ha hb
    exact Table.eq_of_key ha.1 hb.1 (by rw [ha.2, hb.2, same])
  · exact db.channel_memberships.distinct.of_map.filter _

@[simp] theorem cursor_mark_seen (seq : Int) :
    cursor (mark_seen db p c seq) p' c' =
      (cursor db p' c').map (fun seen => if p' = p ∧ c' = c then max seen seq else seen) := by
  simp only [cursor, mark_seen, Table.find_update, Option.map_map]
  cases found : db.channel_memberships.find (p', c') with
  | none => rfl
  | some row =>
    obtain ⟨_, same⟩ := Table.find_iff.mp found
    obtain ⟨rfl, rfl⟩ := Prod.mk.inj same
    by_cases here : row.principal_id = p ∧ row.channel = c
    · simp [here]
    · simp only [Option.map_some, Function.comp_apply, Bool.and_eq_true, decide_eq_true_eq, if_neg here]

theorem cursor_add_membership (now : Int) :
    cursor (add_membership db now p c) p' c' =
      if cursor db p c = none ∧ p = p' ∧ c = c' then some (max_seq db.messages c) else cursor db p' c' := by
  simp only [cursor, add_membership, Table.find_insert, Option.map_eq_none_iff, Prod.mk.injEq]
  by_cases fresh : db.channel_memberships.find (p, c) = none ∧ p = p' ∧ c = c'
  · obtain ⟨absent, rfl, rfl⟩ := fresh
    simp [absent]
  · simp [fresh]

theorem cursor_remove_membership :
    cursor (remove_membership db p c) p' c' = if p = p' ∧ c = c' then none else cursor db p' c' := by
  have same : remove_membership db p c = { db with channel_memberships := db.channel_memberships.erase (p, c) } := by
    simp [remove_membership, Table.erase, Prod.mk.injEq]
  rw [same]
  simp only [cursor, Table.find_erase, Prod.mk.injEq]
  by_cases here : p = p' ∧ c = c'
  · simp [here]
  · simp [here]

@[simp] theorem cursor_mark_connected (now : Int) :
    cursor (mark_connected_and_memberships db now p).1 p' c' = cursor db p' c' := rfl
@[simp] theorem cursor_mark_disconnected (now : Int) : cursor (mark_disconnected db now p) p' c' = cursor db p' c' := rfl
@[simp] theorem messages_mark_connected (now : Int) :
    (mark_connected_and_memberships db now p).1.messages = db.messages := rfl
@[simp] theorem messages_mark_disconnected (now : Int) : (mark_disconnected db now p).messages = db.messages := rfl
@[simp] theorem messages_add_membership (now : Int) : (add_membership db now p c).messages = db.messages := rfl
@[simp] theorem messages_remove_membership : (remove_membership db p c).messages = db.messages := rfl
@[simp] theorem messages_mark_seen (seq : Int) : (mark_seen db p c seq).messages = db.messages := rfl

end Aircd.Store

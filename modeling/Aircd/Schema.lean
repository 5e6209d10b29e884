import Aircd.Store
import Aircd.Scripts

/-!
The database file that `store::open` finds and the statements of `init` in
`store.rs`, each of which commits by itself. A file of an earlier vintage lacks
some of the tables, indexes and columns. `init` touches no row of `messages` and
`tasks`, whose rows are left out here.
-/
namespace Aircd.Schema
open Aircd.Auth Aircd.Store

def MIGRATED_LEGACY_LABEL : Text := "migrated-legacy".toList
def SEED_LABEL : Text := "seed".toList

inductive Object where
  | principals
  | channel_memberships
  | messages
  | tasks
  | principal_tokens
  | idx_principal_tokens_principal
  | idx_principal_tokens_principal_label
  deriving DecidableEq, Repr

/-- The columns of `principals` that were added later. -/
inductive Column where
  | last_seen_seq
  | connected_at
  | disconnected_at
  deriving DecidableEq, Repr

def COLUMNS : List Column := [.last_seen_seq, .connected_at, .disconnected_at]

namespace Column

/-- What a row has in the column; `none` is NULL. -/
def cell : Column → PrincipalRow → Option Int
  | .last_seen_seq, row => some row.last_seen_seq
  | .connected_at, row => row.connected_at
  | .disconnected_at, row => row.disconnected_at

/-- The `DEFAULT` of the column. -/
def default : Column → Option Int
  | .last_seen_seq => some 0
  | .connected_at => none
  | .disconnected_at => none

def fill : Column → PrincipalRow → PrincipalRow
  | .last_seen_seq, row => { row with last_seen_seq := 0 }
  | .connected_at, row => { row with connected_at := none }
  | .disconnected_at, row => { row with disconnected_at := none }

end Column

structure TokenEntry extends TokenRow where
  label : Option Text
  deriving DecidableEq, Repr

abbrev TokenEntries := Table (fun entry : TokenEntry => entry.token_id)

/-- The values of the index over principal and label, where NULL differs from NULL. -/
def labels (entries : List TokenEntry) : List (Text × Text) :=
  entries.filterMap (fun entry => entry.label.map (fun label => (entry.principal_id, label)))

structure Database where
  objects : List Object
  columns : List Column
  /-- Whether `channel_memberships` has the column `last_seen_seq`. -/
  membership_cursor : Bool
  principals : PrincipalTable
  channel_memberships : MembershipTable
  principal_tokens : TokenEntries
  unique_token : (principals.rows.map (fun row => row.token)).Nodup
  unique_label : .idx_principal_tokens_principal_label ∈ objects → (labels principal_tokens.rows).Nodup
  no_principals : .principals ∉ objects → principals.rows = [] ∧ columns = []
  no_memberships : .channel_memberships ∉ objects → channel_memberships.rows = [] ∧ membership_cursor = false
  no_tokens : .principal_tokens ∉ objects → principal_tokens.rows = []

/-- The rows of `principal_tokens` that belong to a principal. -/
def Database.token_rows (db : Database) (principal_id : Text) : List TokenEntry :=
  db.principal_tokens.rows.filter (fun entry => decide (entry.principal_id = principal_id))

/-- The arguments of `seed_principal`. -/
structure Seed where
  id : Text
  nick : Text
  token : Text
  team : Text
  deriving DecidableEq, Repr

def Seed.row (seed : Seed) : PrincipalRow where
  id := seed.id
  nick := seed.nick
  team := some seed.team
  token := seed.token
  last_seen_seq := 0
  connected_at := none
  disconnected_at := none

inductive Statement where
  | create (object : Object)
  | add_column (column : Column)
  | add_membership_cursor
  | seed_principal (seed : Seed)
  /-- The row that mirrors a seed which was inserted. -/
  | seed_token (id token : Text)
  | backfill_principal_tokens
  /-- The row for one principal that the backfill has selected. -/
  | migrated_legacy (principal_id plaintext : Text)
  deriving DecidableEq, Repr

/-- `CREATE TABLE IF NOT EXISTS` and `CREATE INDEX IF NOT EXISTS`. A table comes with all its columns. -/
def create (db : Database) (object : Object) : Except Text Database :=
  if object ∈ db.objects then .ok db
  else if sound : object = .idx_principal_tokens_principal_label → (labels db.principal_tokens.rows).Nodup then
    .ok { db with
      objects := object :: db.objects
      columns := if object = .principals then COLUMNS else db.columns
      membership_cursor := db.membership_cursor || decide (object = .channel_memberships)
      unique_label := by
        intro mem
        rcases List.mem_cons.mp mem with same | old
        · exact sound same.symm
        · exact db.unique_label old
      no_principals := by
        intro missing
        obtain ⟨other, old⟩ := not_or.mp (fun mem => missing (List.mem_cons.mpr mem))
        rw [if_neg (Ne.symm other)]
        exact db.no_principals old
      no_memberships := by
        intro missing
        obtain ⟨other, old⟩ := not_or.mp (fun mem => missing (List.mem_cons.mpr mem))
        rw [decide_eq_false (Ne.symm other), Bool.or_false]
        exact db.no_memberships old
      no_tokens := fun missing => db.no_tokens (fun mem => missing (List.mem_cons_of_mem object mem)) }
  else .error "initialize sqlite schema".toList

/-- One round of `migrate_principals`: `ALTER TABLE ADD COLUMN` when the column is missing. -/
def add_column (db : Database) (column : Column) : Except Text Database :=
  if column ∈ db.columns then .ok db
  else if present : .principals ∈ db.objects then
    .ok { db with
      columns := column :: db.columns
      principals := db.principals.update (fun _ => true) column.fill (by cases column <;> exact fun _ => rfl)
      unique_token := by
        have same : (fun row : PrincipalRow => row.token) ∘ column.fill = fun row => row.token := by
          cases column <;> rfl
        simp only [Table.update, if_true, List.map_map, same]
        exact db.unique_token
      no_principals := fun missing => absurd present missing }
  else .error "no such table: principals".toList

/-- `migrate_channel_memberships`. -/
def add_membership_cursor (db : Database) : Except Text Database :=
  if db.membership_cursor then .ok db
  else if present : .channel_memberships ∈ db.objects then
    .ok { db with
      membership_cursor := true
      channel_memberships := db.channel_memberships.update (fun _ => true)
        (fun row => { row with last_seen_seq := 0 }) (fun _ => rfl)
      no_memberships := fun missing => absurd present missing }
  else .error "no such table: channel_memberships".toList

/-- The row that `INSERT OR IGNORE` would add has the id or the token of a row already there. -/
def Taken (db : Database) (seed : Seed) : Prop := ∃ row ∈ db.principals.rows, row.id = seed.id ∨ row.token = seed.token

instance (db : Database) (seed : Seed) : Decidable (Taken db seed) := by unfold Taken; infer_instance

theorem rows_insert_seed {db : Database} {seed : Seed} (free : ¬ Taken db seed) :
    (db.principals.insert seed.row).rows = db.principals.rows ++ [seed.row] := by
  refine Table.rows_insert ?_
  rintro row inside same
  exact free ⟨row, inside, .inl same⟩

def seed_principal (db : Database) (seed : Seed) : Except Text (Database × List Statement) :=
  if present : .principals ∈ db.objects then
    if free : ¬ Taken db seed then
      .ok ({ db with
        principals := db.principals.insert seed.row
        unique_token := by
          rw [rows_insert_seed free, List.map_append]
          refine List.nodup_append.mpr ⟨db.unique_token, by simp, ?_⟩
          intro token mem new single same
          obtain ⟨row, inside, rfl⟩ := List.mem_map.mp mem
          rw [List.mem_singleton.mp single] at same
          exact free ⟨row, inside, .inr same⟩
        no_principals := fun missing => absurd present missing }, [.seed_token seed.id seed.token])
    else .ok (db, [])
  else .error "seed principal".toList

/-- `INSERT INTO principal_tokens`, with the constraints of the table. -/
def insert_token (db : Database) (entry : TokenEntry) : Option Database :=
  if ok : .principal_tokens ∈ db.objects ∧ (∀ old ∈ db.principal_tokens.rows, old.token_id ≠ entry.token_id) ∧
      (.idx_principal_tokens_principal_label ∈ db.objects → (labels (db.principal_tokens.rows ++ [entry])).Nodup) ∧
      ∃ row ∈ db.principals.rows, row.id = entry.principal_id then
    some { db with
      principal_tokens := db.principal_tokens.insert entry
      unique_label := by
        rw [Table.rows_insert ok.2.1]
        exact ok.2.2.1
      no_tokens := fun missing => absurd ok.1 missing }
  else none

/-- What `generate` and the hash draw from the random generators. -/
structure Draw where
  token_id : Text
  salt : Text

/-- `tokens::hash`, which makes a hash of a secret with a salt, or fails. -/
abbrev Hash := Text → Text → Except Text Text

/-- The end of `seed_principal` and the body of the backfill's loop. -/
def add_token (hash : Hash) (draw : Draw) (db : Database) (principal_id plaintext label : Text)
    (hashing inserting : String) : Except Text Database :=
  match hash draw.salt plaintext with
  | .error _ => .error hashing.toList
  | .ok token_hash =>
    match insert_token db ⟨⟨principal_id, draw.token_id, token_hash, none⟩, some label⟩ with
    | some db => .ok db
    | none => .error inserting.toList

/-- The principals without a row in `principal_tokens`. -/
def backfill_rows (db : Database) : List PrincipalRow :=
  db.principals.rows.filter (fun row => decide (db.token_rows row.id = []))

/-- The database after a statement, and the statements that follow from it. -/
def execute (hash : Hash) (draw : Draw) (db : Database) : Statement → Except Text (Database × List Statement)
  | .create object => (create db object).map (·, [])
  | .add_column column => (add_column db column).map (·, [])
  | .add_membership_cursor => (add_membership_cursor db).map (·, [])
  | .seed_principal seed => seed_principal db seed
  | .seed_token id token =>
    (add_token hash draw db id token SEED_LABEL "hash seed token" "seed principal_tokens row").map (·, [])
  | .backfill_principal_tokens =>
    if .principals ∈ db.objects ∧ .principal_tokens ∈ db.objects then
      .ok (db, (backfill_rows db).map (fun row => .migrated_legacy row.id row.token))
    else .error "prepare principal_tokens backfill query".toList
  | .migrated_legacy principal_id plaintext =>
    (add_token hash draw db principal_id plaintext MIGRATED_LEGACY_LABEL "hash legacy token for backfill"
      "insert migrated-legacy principal_tokens row").map (·, [])

def schema : List Statement :=
  [.create .principals, .create .channel_memberships, .create .messages, .create .tasks, .create .principal_tokens,
    .create .idx_principal_tokens_principal, .create .idx_principal_tokens_principal_label]

def migrate_principals : List Statement := COLUMNS.map .add_column

def migrate_channel_memberships : List Statement := [.add_membership_cursor]

def SEEDS : List Seed :=
  [⟨"human".toList, "human".toList, "human-token".toList, "demo".toList⟩,
    ⟨"agent-a".toList, "agent-a".toList, "agent-a-token".toList, "demo".toList⟩,
    ⟨"agent-b".toList, "agent-b".toList, "agent-b-token".toList, "demo".toList⟩,
    ⟨"agent-c".toList, "agent-c".toList, "agent-c-token".toList, "demo".toList⟩,
    ⟨"agent-1".toList, "agent-1".toList, "test-token-1".toList, "test".toList⟩,
    ⟨"agent-2".toList, "agent-2".toList, "test-token-2".toList, "test".toList⟩,
    ⟨"agent-3".toList, "agent-3".toList, "test-token-3".toList, "test".toList⟩]

/-- The statements of `init` before the backfill. -/
def preparation : List Statement :=
  schema ++ migrate_principals ++ migrate_channel_memberships ++ SEEDS.map .seed_principal

def init : List Statement := preparation ++ [.backfill_principal_tokens]

end Aircd.Schema

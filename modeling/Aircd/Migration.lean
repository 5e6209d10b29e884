import Aircd.Schema

/-!
# The migration of a database file

`init` may be cut off after any of its statements and started again. What a
statement leaves of the file that was found is `Grown`; the token rows that were
added are `Mirrored` from the principals; what is left to do is `Ahead`.
-/
namespace Aircd.Schema
open Aircd.Runs Aircd.Auth Aircd.Store Aircd.Scripts

variable {hash : Hash} {draw : Draw} {db₀ db db' db'' : Database} {more : List Statement}

/-! ### What a statement leaves -/

/-- A row of `principals` with the columns that it has been given since. -/
structure Carried (db db' : Database) (row row' : PrincipalRow) : Prop where
  principal : row'.toPrincipal = row.toPrincipal
  token : row'.token = row.token
  cells : ∀ column, Column.cell column row' =
    if column ∈ db.columns ∨ column ∉ db'.columns then Column.cell column row else Column.default column

/-- A row of `channel_memberships` with the column that it has been given since. -/
structure CarriedMembership (db db' : Database) (row row' : MembershipRow) : Prop where
  principal_id : row'.principal_id = row.principal_id
  channel : row'.channel = row.channel
  cursor : row'.last_seen_seq = if db.membership_cursor ∨ ¬ db'.membership_cursor then row.last_seen_seq else 0

structure Grown (db db' : Database) : Prop where
  objects : ∀ object ∈ db.objects, object ∈ db'.objects
  columns : ∀ column ∈ db.columns, column ∈ db'.columns
  membership_cursor : db.membership_cursor → db'.membership_cursor
  principals : ∀ row ∈ db.principals.rows, ∃ row' ∈ db'.principals.rows, Carried db db' row row'
  memberships : ∀ row ∈ db.channel_memberships.rows, ∃ row' ∈ db'.channel_memberships.rows, CarriedMembership db db' row row'
  tokens : db.principal_tokens.rows <+: db'.principal_tokens.rows

theorem Carried.refl {row : PrincipalRow} (same : db.columns = db'.columns) : Carried db db' row row :=
  ⟨rfl, rfl, fun column => by simp [same, em]⟩

theorem CarriedMembership.refl {row : MembershipRow} (same : db.membership_cursor = db'.membership_cursor) :
    CarriedMembership db db' row row :=
  ⟨rfl, rfl, by simp [same]⟩

theorem Carried.trans {row row' row'' : PrincipalRow} (first : Carried db db' row row') (second : Carried db' db'' row' row'')
    (grows : ∀ column ∈ db.columns, column ∈ db'.columns) (grows' : ∀ column ∈ db'.columns, column ∈ db''.columns) :
    Carried db db'' row row'' where
  principal := second.principal.trans first.principal
  token := second.token.trans first.token
  cells := by
    intro column
    rw [second.cells column, first.cells column]
    by_cases old : column ∈ db.columns
    · simp [old, grows column old]
    · by_cases middle : column ∈ db'.columns
      · simp [old, middle, grows' column middle]
      · simp [old, middle]

theorem CarriedMembership.trans {row row' row'' : MembershipRow} (first : CarriedMembership db db' row row')
    (second : CarriedMembership db' db'' row' row'') (grows : db.membership_cursor → db'.membership_cursor)
    (grows' : db'.membership_cursor → db''.membership_cursor) : CarriedMembership db db'' row row'' where
  principal_id := second.principal_id.trans first.principal_id
  channel := second.channel.trans first.channel
  cursor := by
    rw [second.cursor, first.cursor]
    by_cases old : db.membership_cursor
    · simp [old, grows old]
    · by_cases middle : db'.membership_cursor
      · simp [old, middle, grows' middle]
      · simp [old, middle]

theorem Grown.refl (db : Database) : Grown db db where
  objects := fun _ mem => mem
  columns := fun _ mem => mem
  membership_cursor := id
  principals := fun row mem => ⟨row, mem, Carried.refl rfl⟩
  memberships := fun row mem => ⟨row, mem, CarriedMembership.refl rfl⟩
  tokens := List.prefix_rfl

theorem Grown.trans (first : Grown db db') (second : Grown db' db'') : Grown db db'' where
  objects := fun object mem => second.objects object (first.objects object mem)
  columns := fun column mem => second.columns column (first.columns column mem)
  membership_cursor := fun has => second.membership_cursor (first.membership_cursor has)
  principals := by
    intro row mem
    obtain ⟨row', mem', carried⟩ := first.principals row mem
    obtain ⟨row'', mem'', carried'⟩ := second.principals row' mem'
    exact ⟨row'', mem'', carried.trans carried' first.columns second.columns⟩
  memberships := by
    intro row mem
    obtain ⟨row', mem', carried⟩ := first.memberships row mem
    obtain ⟨row'', mem'', carried'⟩ := second.memberships row' mem'
    exact ⟨row'', mem'', carried.trans carried' first.membership_cursor second.membership_cursor⟩
  tokens := first.tokens.trans second.tokens

/-! ### The statements -/

/-- What a statement of the preparation has to bring about. -/
def Done (db : Database) : Statement → Prop
  | .create object => object ∈ db.objects
  | .add_column column => column ∈ db.columns
  | .add_membership_cursor => db.membership_cursor
  | .seed_principal seed => .principals ∈ db.objects ∧ Taken db seed
  | _ => False

theorem Done.grown {statement : Statement} (done : Done db statement) (grown : Grown db db') : Done db' statement := by
  cases statement with
  | create object => exact grown.objects object done
  | add_column column => exact grown.columns column done
  | add_membership_cursor => exact grown.membership_cursor done
  | seed_principal seed =>
    obtain ⟨present, row, mem, same⟩ := done
    obtain ⟨row', mem', carried⟩ := grown.principals row mem
    refine ⟨grown.objects _ present, row', mem', ?_⟩
    have id : row'.id = row.id := congrArg Principal.id carried.principal
    rw [id, carried.token]
    exact same
  | seed_token | backfill_principal_tokens | migrated_legacy => exact done.elim

/-- What is done is not done again. -/
theorem execute_done {statement : Statement} (done : Done db statement) : execute hash draw db statement = .ok (db, []) := by
  cases statement with
  | create object =>
    have present : object ∈ db.objects := done
    simp [execute, create, present, Except.map]
  | add_column column =>
    have present : column ∈ db.columns := done
    simp [execute, add_column, present, Except.map]
  | add_membership_cursor =>
    have present : db.membership_cursor := done
    simp [execute, add_membership_cursor, present, Except.map]
  | seed_principal seed =>
    obtain ⟨present, taken⟩ := done
    simp [execute, seed_principal, present, taken]
  | seed_token | backfill_principal_tokens | migrated_legacy => exact done.elim

theorem create_spec {object : Object} (made : create db object = .ok db') :
    Grown db db' ∧ object ∈ db'.objects ∧ db'.principal_tokens = db.principal_tokens := by
  unfold create at made
  split at made
  · next present =>
    obtain rfl := Except.ok.inj made
    exact ⟨Grown.refl db, present, rfl⟩
  · next missing =>
    split at made
    · obtain rfl := Except.ok.inj made
      refine ⟨?_, List.mem_cons_self, rfl⟩
      refine ⟨fun _ mem => List.mem_cons_of_mem _ mem, ?_, ?_, ?_, ?_, List.prefix_rfl⟩
      · intro column mem
        by_cases table : object = .principals
        · subst table
          rw [(db.no_principals missing).2] at mem
          cases mem
        · simpa [table] using mem
      · intro has
        simp [has]
      · intro row mem
        by_cases table : object = .principals
        · subst table
          rw [(db.no_principals missing).1] at mem
          cases mem
        · exact ⟨row, mem, Carried.refl (by simp [table])⟩
      · intro row mem
        by_cases table : object = .channel_memberships
        · subst table
          rw [(db.no_memberships missing).1] at mem
          cases mem
        · exact ⟨row, mem, CarriedMembership.refl (by simp [table])⟩
    · cases made

theorem Column.cell_fill (column other : Column) (row : PrincipalRow) :
    cell other (fill column row) = if other = column then default column else cell other row := by
  cases column <;> cases other <;> rfl

theorem add_column_spec {column : Column} (made : add_column db column = .ok db') :
    Grown db db' ∧ column ∈ db'.columns ∧ db'.principal_tokens = db.principal_tokens := by
  unfold add_column at made
  split at made
  · next present =>
    obtain rfl := Except.ok.inj made
    exact ⟨Grown.refl db, present, rfl⟩
  · next missing =>
    split at made
    · obtain rfl := Except.ok.inj made
      refine ⟨?_, List.mem_cons_self, rfl⟩
      refine ⟨fun _ mem => mem, fun _ mem => List.mem_cons_of_mem _ mem, id, ?_,
        fun row mem => ⟨row, mem, CarriedMembership.refl rfl⟩, List.prefix_rfl⟩
      intro row mem
      refine ⟨column.fill row, List.mem_map.mpr ⟨row, mem, by simp⟩, by cases column <;> rfl, by cases column <;> rfl, ?_⟩
      intro other
      rw [Column.cell_fill]
      by_cases same : other = column
      · subst same
        simp [missing]
      · simp [same, em]
    · cases made

theorem add_membership_cursor_spec (made : add_membership_cursor db = .ok db') :
    Grown db db' ∧ db'.membership_cursor ∧ db'.principal_tokens = db.principal_tokens := by
  unfold add_membership_cursor at made
  split at made
  · next present =>
    obtain rfl := Except.ok.inj made
    exact ⟨Grown.refl db, present, rfl⟩
  · next missing =>
    split at made
    · obtain rfl := Except.ok.inj made
      refine ⟨?_, rfl, rfl⟩
      refine ⟨fun _ mem => mem, fun _ mem => mem, fun _ => rfl, fun row mem => ⟨row, mem, Carried.refl rfl⟩, ?_, List.prefix_rfl⟩
      intro row mem
      exact ⟨{ row with last_seen_seq := 0 }, List.mem_map.mpr ⟨row, mem, by simp⟩, rfl, rfl, by simp [missing]⟩
    · cases made

/-- A seed is passed over, or becomes a new principal whose token row is still to come. -/
theorem seed_principal_spec {seed : Seed} (made : seed_principal db seed = .ok (db', more)) :
    Grown db db' ∧ (.principals ∈ db'.objects ∧ Taken db' seed) ∧ db'.principal_tokens = db.principal_tokens ∧
      (more = [] ∨ more = [.seed_token seed.id seed.token] ∧ seed.row ∈ db'.principals.rows ∧
        ∀ row ∈ db.principals.rows, row.id ≠ seed.id) := by
  unfold seed_principal at made
  split at made
  · next present =>
    split at made
    · next free =>
      obtain ⟨rfl, rfl⟩ := Prod.mk.inj (Except.ok.inj made)
      have rows := rows_insert_seed free
      have new : seed.row ∈ (db.principals.insert seed.row).rows := by simp [rows]
      refine ⟨?_, ⟨present, seed.row, new, .inl rfl⟩, rfl, .inr ⟨rfl, new, ?_⟩⟩
      · refine ⟨fun _ mem => mem, fun _ mem => mem, id, ?_,
          fun row mem => ⟨row, mem, CarriedMembership.refl rfl⟩, List.prefix_rfl⟩
        intro row mem
        exact ⟨row, by simp only [rows]; exact List.mem_append_left _ mem, Carried.refl rfl⟩
      · intro row mem same
        exact free ⟨row, mem, .inl same⟩
    · next taken =>
      obtain ⟨rfl, rfl⟩ := Prod.mk.inj (Except.ok.inj made)
      exact ⟨Grown.refl db, ⟨present, not_not.mp taken⟩, rfl, .inl rfl⟩
  · cases made

/-- The row that was added has the hash of the plaintext; all else is as it was. -/
theorem add_token_spec {principal_id plaintext label : Text} {hashing inserting : String}
    (made : add_token hash draw db principal_id plaintext label hashing inserting = .ok db') :
    Grown db db' ∧ db'.principals = db.principals ∧ ∃ entry, db'.principal_tokens.rows = db.principal_tokens.rows ++ [entry] ∧
      entry.principal_id = principal_id ∧ ∃ salt, hash salt plaintext = .ok entry.token_hash := by
  unfold add_token at made
  split at made
  · cases made
  · next token_hash hashed =>
    split at made
    · next inserted =>
      obtain rfl := Except.ok.inj made
      unfold insert_token at inserted
      split at inserted
      · next ok =>
        obtain rfl := Option.some.inj inserted
        have rows := Table.rows_insert ok.2.1
        refine ⟨⟨fun _ mem => mem, fun _ mem => mem, id, fun row mem => ⟨row, mem, Carried.refl rfl⟩,
          fun row mem => ⟨row, mem, CarriedMembership.refl rfl⟩, ?_⟩, rfl, _, rows, rfl, draw.salt, hashed⟩
        simp only [rows]
        exact List.prefix_append _ _
      · cases inserted
    · cases made

/-! ### The token rows that were added -/

/-- The token rows that the file did not have. -/
def added (db₀ db : Database) : List TokenEntry := db.principal_tokens.rows.drop db₀.principal_tokens.rows.length

theorem Grown.rows_eq (grown : Grown db₀ db) : db.principal_tokens.rows = db₀.principal_tokens.rows ++ added db₀ db := by
  obtain ⟨new, rows⟩ := grown.tokens
  rw [added, ← rows, List.drop_left]

/-- The rows that were added are of different principals, which had none in the
    file, and each has the hash of its principal's token. -/
structure Mirrored (hash : Hash) (db₀ db : Database) : Prop where
  distinct : ((added db₀ db).map (fun entry => entry.principal_id)).Nodup
  without : ∀ entry ∈ added db₀ db, ∀ row ∈ db₀.principals.rows, row.id = entry.principal_id →
    db₀.token_rows row.id = []
  hashed : ∀ entry ∈ added db₀ db, ∃ row ∈ db.principals.rows, row.id = entry.principal_id ∧
    ∃ salt, hash salt row.token = .ok entry.token_hash

/-- A principal whose token row is still to come. -/
structure Lacking (db₀ db : Database) (id token : Text) : Prop where
  principal : ∃ row ∈ db.principals.rows, row.id = id ∧ row.token = token
  without : ∀ row ∈ db₀.principals.rows, row.id = id → db₀.token_rows row.id = []
  not_added : ∀ entry ∈ added db₀ db, entry.principal_id ≠ id

/-- What is kept of the file wherever `init` is cut off. -/
structure Kept (hash : Hash) (db₀ db : Database) : Prop where
  grown : Grown db₀ db
  mirrored : Mirrored hash db₀ db

theorem kept_self (hash : Hash) (db : Database) : Kept hash db db where
  grown := Grown.refl db
  mirrored := by
    have none : added db db = [] := List.drop_length
    exact ⟨by simp [none], by simp [none], by simp [none]⟩

/-- A statement that adds no token row. -/
theorem Kept.of_same_tokens (kept : Kept hash db₀ db) (grown : Grown db db') (same : db'.principal_tokens = db.principal_tokens) :
    Kept hash db₀ db' where
  grown := kept.grown.trans grown
  mirrored := by
    have rows : added db₀ db' = added db₀ db := by rw [added, added, same]
    refine ⟨rows ▸ kept.mirrored.distinct, rows ▸ kept.mirrored.without, ?_⟩
    intro entry mem
    obtain ⟨row, inside, id, salt, hashed⟩ := kept.mirrored.hashed entry (rows ▸ mem)
    obtain ⟨row', inside', carried⟩ := grown.principals row inside
    have id' : row'.id = row.id := congrArg Principal.id carried.principal
    exact ⟨row', inside', id'.trans id, salt, carried.token ▸ hashed⟩

/-- The row that a principal lacked is added. -/
theorem Kept.add_token {id token : Text} {entry : TokenEntry} (kept : Kept hash db₀ db) (lacking : Lacking db₀ db id token)
    (grown : Grown db db') (principals : db'.principals = db.principals)
    (rows : db'.principal_tokens.rows = db.principal_tokens.rows ++ [entry]) (owner : entry.principal_id = id)
    (hashed : ∃ salt, hash salt token = .ok entry.token_hash) :
    Kept hash db₀ db' ∧ added db₀ db' = added db₀ db ++ [entry] := by
  have grown' := kept.grown.trans grown
  have new : added db₀ db' = added db₀ db ++ [entry] := by
    have both := grown'.rows_eq
    rw [rows, kept.grown.rows_eq, List.append_assoc] at both
    exact (List.append_cancel_left both).symm
  refine ⟨⟨grown', ?_, ?_, ?_⟩, new⟩
  · rw [new, List.map_append]
    refine List.nodup_append.mpr ⟨kept.mirrored.distinct, by simp, ?_⟩
    intro id' mem other single same
    obtain ⟨old, inside, rfl⟩ := List.mem_map.mp mem
    rw [List.map_singleton, List.mem_singleton] at single
    exact lacking.not_added old inside ((same.trans single).trans owner)
  · intro entry' mem row inside id'
    rw [new, List.mem_append, List.mem_singleton] at mem
    rcases mem with old | rfl
    · exact kept.mirrored.without entry' old row inside id'
    · exact lacking.without row inside (id'.trans owner)
  · intro entry' mem
    rw [new, List.mem_append, List.mem_singleton] at mem
    rw [principals]
    rcases mem with old | rfl
    · exact kept.mirrored.hashed entry' old
    · obtain ⟨row, inside, id', rfl⟩ := lacking.principal
      exact ⟨row, inside, id'.trans owner.symm, hashed⟩

/-! ### What is still to be done -/

inductive Ahead (db₀ db : Database) : List Statement → Prop where
  | preparing {done rest : List Statement} (split : done ++ rest = preparation) (all : ∀ statement ∈ done, Done db statement) :
      Ahead db₀ db (rest ++ [.backfill_principal_tokens])
  | mirroring {done rest : List Statement} {id token : Text} (split : done ++ rest = preparation)
      (all : ∀ statement ∈ done, Done db statement) (lacking : Lacking db₀ db id token) :
      Ahead db₀ db (.seed_token id token :: (rest ++ [.backfill_principal_tokens]))
  | backfilling {pending : List PrincipalRow} (tables : .principals ∈ db.objects ∧ .principal_tokens ∈ db.objects)
      (all : ∀ statement ∈ preparation, Done db statement)
      (distinct : (pending.map (fun row => row.id)).Nodup)
      (exact : ∀ row, row ∈ pending ↔ row ∈ db.principals.rows ∧ db.token_rows row.id = []) :
      Ahead db₀ db (pending.map (fun row => .migrated_legacy row.id row.token))

theorem ahead_init (db₀ db : Database) : Ahead db₀ db init :=
  @Ahead.preparing db₀ db [] preparation rfl (fun _ mem => by cases mem)

theorem token_rows_nil {id : Text} : db.token_rows id = [] ↔ ∀ entry ∈ db.principal_tokens.rows, entry.principal_id ≠ id := by
  simp [Database.token_rows, List.filter_eq_nil_iff]

/-- A token row is one for its owner. -/
theorem token_rows_nil_added {entry : TokenEntry} {id : Text}
    (rows : db'.principal_tokens.rows = db.principal_tokens.rows ++ [entry]) :
    db'.token_rows id = [] ↔ db.token_rows id = [] ∧ entry.principal_id ≠ id := by
  simp only [token_rows_nil, rows, List.mem_append, List.mem_singleton]
  constructor
  · intro all
    exact ⟨fun old mem => all old (.inl mem), all entry (.inr rfl)⟩
  · rintro ⟨old, new⟩ entry' (mem | rfl)
    · exact old entry' mem
    · exact new

/-- A principal without token rows had none in the file, and none was added for it. -/
theorem Lacking.of_tokenless (kept : Kept hash db₀ db) {row : PrincipalRow} (inside : row ∈ db.principals.rows)
    (none : db.token_rows row.id = []) : Lacking db₀ db row.id row.token := by
  rw [token_rows_nil, kept.grown.rows_eq] at none
  refine ⟨⟨row, inside, rfl, rfl⟩, ?_, fun entry mem => none entry (List.mem_append_right _ mem)⟩
  intro old mem same
  rw [token_rows_nil, same]
  exact fun entry mem => none entry (List.mem_append_left _ mem)

theorem map_ok {made : Except Text Database} (result : made.map (·, []) = .ok (db', more)) : made = .ok db' ∧ more = [] := by
  cases made with
  | error error => cases result
  | ok db =>
    obtain ⟨rfl, rfl⟩ := Prod.mk.inj (Except.ok.inj result)
    exact ⟨rfl, rfl⟩

/-- A statement of the preparation is done, and at most a new principal's token row follows from it. -/
theorem prepare_spec {statement : Statement} (kept : Kept hash db₀ db) (prepares : statement ∈ preparation)
    (result : execute hash draw db statement = .ok (db', more)) :
    Kept hash db₀ db' ∧ Grown db db' ∧ Done db' statement ∧
      (more = [] ∨ ∃ id token, more = [.seed_token id token] ∧ Lacking db₀ db' id token) := by
  cases statement with
  | create object =>
    obtain ⟨made, none⟩ := map_ok result
    obtain ⟨grown, done, tokens⟩ := create_spec made
    exact ⟨kept.of_same_tokens grown tokens, grown, done, .inl none⟩
  | add_column column =>
    obtain ⟨made, none⟩ := map_ok result
    obtain ⟨grown, done, tokens⟩ := add_column_spec made
    exact ⟨kept.of_same_tokens grown tokens, grown, done, .inl none⟩
  | add_membership_cursor =>
    obtain ⟨made, none⟩ := map_ok result
    obtain ⟨grown, done, tokens⟩ := add_membership_cursor_spec made
    exact ⟨kept.of_same_tokens grown tokens, grown, done, .inl none⟩
  | seed_principal seed =>
    obtain ⟨grown, done, tokens, follows⟩ := seed_principal_spec result
    refine ⟨kept.of_same_tokens grown tokens, grown, done, follows.imp id ?_⟩
    rintro ⟨rfl, inside, fresh⟩
    refine ⟨seed.id, seed.token, rfl, ⟨seed.row, inside, rfl, rfl⟩, ?_, ?_⟩
    · intro old mem same
      obtain ⟨row, mem', carried⟩ := kept.grown.principals old mem
      exact absurd ((congrArg Principal.id carried.principal).trans same) (fresh row mem')
    · intro entry mem same
      rw [added, tokens, ← added] at mem
      obtain ⟨row, mem', id, _⟩ := kept.mirrored.hashed entry mem
      exact fresh row mem' (id.trans same)
  | seed_token | backfill_principal_tokens | migrated_legacy =>
    simp [preparation, schema, migrate_principals, migrate_channel_memberships, COLUMNS, SEEDS] at prepares

theorem ahead_step {statement : Statement} {rest : List Statement} (kept : Kept hash db₀ db)
    (ahead : Ahead db₀ db (statement :: rest)) (result : execute hash draw db statement = .ok (db', more)) :
    Kept hash db₀ db' ∧ Ahead db₀ db' (more ++ rest) := by
  generalize same : statement :: rest = todo at ahead
  cases ahead with
  | @preparing done left split all =>
    cases left with
    | nil =>
      -- the backfill selects the principals without token rows
      obtain ⟨rfl, rfl⟩ := List.cons.inj same
      rw [List.append_nil] at split
      rw [execute] at result
      split at result
      · next tables =>
        obtain ⟨rfl, rfl⟩ := Prod.mk.inj (Except.ok.inj result)
        refine ⟨kept, ?_⟩
        rw [List.append_nil]
        refine .backfilling tables (split ▸ all) ?_ ?_
        · exact db.principals.distinct.sublist (List.filter_sublist.map _)
        · intro row
          simp [backfill_rows]
      · cases result
    | cons next left =>
      rw [List.cons_append] at same
      obtain ⟨rfl, rfl⟩ := List.cons.inj same
      have prepares : statement ∈ preparation := by simp [← split]
      obtain ⟨kept', grown, here, follows⟩ := prepare_spec kept prepares result
      have split' : (done ++ [statement]) ++ left = preparation := by rw [← split, List.append_assoc]; rfl
      have all' : ∀ s ∈ done ++ [statement], Done db' s := by
        intro s mem
        rcases List.mem_append.mp mem with old | new
        · exact (all s old).grown grown
        · exact List.mem_singleton.mp new ▸ here
      refine ⟨kept', ?_⟩
      rcases follows with rfl | ⟨id, token, rfl, lacking⟩
      · exact .preparing split' all'
      · exact .mirroring split' all' lacking
  | @mirroring done left id token split all lacking =>
    obtain ⟨rfl, rfl⟩ := List.cons.inj same
    obtain ⟨made, rfl⟩ := map_ok result
    obtain ⟨grown, principals, entry, rows, owner, hashed⟩ := add_token_spec made
    obtain ⟨kept', _⟩ := kept.add_token lacking grown principals rows owner hashed
    exact ⟨kept', .preparing split (fun s mem => (all s mem).grown grown)⟩
  | @backfilling pending tables all distinct exact =>
    cases pending with
    | nil => cases same
    | cons row left =>
      rw [List.map_cons] at same
      obtain ⟨rfl, rfl⟩ := List.cons.inj same
      obtain ⟨made, rfl⟩ := map_ok result
      obtain ⟨grown, principals, entry, rows, owner, hashed⟩ := add_token_spec made
      obtain ⟨inside, none⟩ := (exact row).mp List.mem_cons_self
      obtain ⟨kept', _⟩ := kept.add_token (Lacking.of_tokenless kept inside none) grown principals rows owner hashed
      rw [List.map_cons, List.nodup_cons] at distinct
      refine ⟨kept', .backfilling (tables.imp (grown.objects _) (grown.objects _)) (fun s mem => (all s mem).grown grown)
        distinct.2 ?_⟩
      intro other
      rw [principals, token_rows_nil_added rows, owner, ← and_assoc, ← exact other, List.mem_cons]
      constructor
      · intro mem
        exact ⟨.inr mem, fun same => distinct.1 (same ▸ List.mem_map.mpr ⟨other, mem, rfl⟩)⟩
      · rintro ⟨rfl | mem, other_id⟩
        · exact absurd rfl other_id
        · exact mem

/-! ### The whole of `init` -/

theorem add_column_mem (column : Column) : .add_column column ∈ preparation := by
  cases column <;> simp [preparation, migrate_principals, COLUMNS]

/-- Where `init` has completed, every column is there, every principal has a token
    row and nothing is left to change. -/
theorem completed (ahead : Ahead db₀ db []) :
    (∀ column, column ∈ db.columns) ∧ db.membership_cursor ∧ (∀ row ∈ db.principals.rows, db.token_rows row.id ≠ []) ∧
      Settled (execute hash) init db := by
  generalize same : [] = todo at ahead
  cases ahead with
  | preparing => simp at same
  | mirroring => cases same
  | @backfilling pending tables all _ exact =>
    obtain rfl := List.map_eq_nil_iff.mp same.symm
    have every : ∀ row ∈ db.principals.rows, db.token_rows row.id ≠ [] :=
      fun row mem none => List.not_mem_nil ((exact row).mpr ⟨mem, none⟩)
    refine ⟨fun column => all (.add_column column) (add_column_mem column), all .add_membership_cursor (by decide), every, ?_⟩
    intro statement mem draw
    rcases List.mem_append.mp mem with prepares | last
    · exact execute_done (all statement prepares)
    · rw [List.mem_singleton.mp last]
      have none : backfill_rows db = [] := by
        rw [backfill_rows, List.filter_eq_nil_iff]
        intro row mem
        simpa using every row mem
      simp [execute, tables, none]

theorem kept_run {events : List (Event Draw)} {todo : List Statement}
    (runs : run (step (execute hash) init) ⟨db₀, none⟩ events = ⟨db, some todo⟩) : Kept hash db₀ db ∧ Ahead db₀ db todo := by
  have both := @run_sound _ _ _ _ (execute hash) init (Kept hash db₀) (Ahead db₀) (fun s _ => ahead_init db₀ s)
    (fun _ _ _ _ _ _ kept ahead result => ahead_step kept ahead result) events ⟨db₀, none⟩ (kept_self hash db₀)
    (fun _ none => by cases none)
  rw [runs] at both
  exact ⟨both.1, both.2 todo rfl⟩

/-- The memberships keep their cursors, or start at 0 where the file had none. -/
theorem memberships_migrate {events : List (Event Draw)}
    (completes : run (step (execute hash) init) ⟨db₀, none⟩ events = ⟨db, some []⟩) :
    ∀ row ∈ db₀.channel_memberships.rows, ∃ row' ∈ db.channel_memberships.rows,
      row'.principal_id = row.principal_id ∧ row'.channel = row.channel ∧
      row'.last_seen_seq = if db₀.membership_cursor then row.last_seen_seq else 0 := by
  intro row mem
  obtain ⟨kept, ahead⟩ := kept_run completes
  have column : db.membership_cursor := (@completed hash _ _ ahead).2.1
  obtain ⟨row', mem', carried⟩ := kept.grown.memberships row mem
  exact ⟨row', mem', carried.principal_id, carried.channel, by simpa [column] using carried.cursor⟩

theorem Kept.token_rows (kept : Kept hash db₀ db) (id : Text) :
    db.token_rows id = db₀.token_rows id ++ (added db₀ db).filter (fun entry => decide (entry.principal_id = id)) := by
  rw [Database.token_rows, kept.grown.rows_eq, List.filter_append, Database.token_rows]

/-- `init`, cut off any number of times and then completed, keeps the token rows
    of the principals that had some, gives every other principal one row, for the
    token that it has, keeps the principals and the memberships, and changes nothing
    from then on. -/
theorem init_migrates (hash : Hash) (verify : Verify)
    (agrees : ∀ salt secret token_hash, hash salt secret = .ok token_hash →
      ∀ other, verify other token_hash = .ok (decide (other = secret)))
    (db₀ db : Database) (events : List (Event Draw))
    (completes : run (step (execute hash) init) ⟨db₀, none⟩ events = ⟨db, some []⟩) :
    (∀ row ∈ db₀.principals.rows, db₀.token_rows row.id ≠ [] → db.token_rows row.id = db₀.token_rows row.id) ∧
    (∀ row ∈ db.principals.rows, db₀.token_rows row.id = [] → ∃ entry, db.token_rows row.id = [entry] ∧
      ∀ secret, verify secret entry.token_hash = .ok (decide (secret = row.token))) ∧
    (∀ row ∈ db₀.principals.rows, ∃ row' ∈ db.principals.rows, row'.id = row.id ∧ row'.nick = row.nick ∧
      row'.token = row.token ∧ row'.team = row.team ∧
      row'.last_seen_seq = if .last_seen_seq ∈ db₀.columns then row.last_seen_seq else 0) ∧
    (∀ row ∈ db₀.channel_memberships.rows, ∃ row' ∈ db.channel_memberships.rows,
      row'.principal_id = row.principal_id ∧ row'.channel = row.channel ∧
      row'.last_seen_seq = if db₀.membership_cursor then row.last_seen_seq else 0) ∧
    (∀ later, (run (step (execute hash) init) ⟨db, some []⟩ later).state = db) ∧
    ∀ draws : List Draw, draws.length = init.length →
      run (step (execute hash) init) ⟨db, some []⟩ (.start :: draws.map .statement) = ⟨db, some []⟩ := by
  obtain ⟨kept, ahead⟩ := kept_run completes
  obtain ⟨columns, _, every, settled⟩ := @completed hash _ _ ahead
  refine ⟨?_, ?_, ?_, memberships_migrate completes, ?_, fun draws enough => settled_completes settled enough _⟩
  · intro row mem some
    have none : (added db₀ db).filter (fun entry => decide (entry.principal_id = row.id)) = [] := by
      rw [List.filter_eq_nil_iff]
      intro entry inside same
      exact some (kept.mirrored.without entry inside row mem (of_decide_eq_true same).symm)
    rw [kept.token_rows, none, List.append_nil]
  · intro row mem none
    have rows := kept.token_rows row.id
    obtain ⟨entry, rest, shape⟩ := List.exists_cons_of_ne_nil (every row mem)
    rw [none, List.nil_append, shape] at rows
    have new : ∀ e ∈ entry :: rest, e ∈ added db₀ db ∧ e.principal_id = row.id := by
      intro e inside
      rw [rows] at inside
      simpa using inside
    have distinct : ((entry :: rest).map (fun entry => entry.principal_id)).Nodup :=
      rows ▸ kept.mirrored.distinct.sublist (List.filter_sublist.map _)
    have single : rest = [] := by
      cases rest with
      | nil => rfl
      | cons second rest =>
        have same : entry.principal_id = second.principal_id := by
          rw [(new entry (by simp)).2, (new second (by simp)).2]
        simp [same] at distinct
    subst single
    refine ⟨entry, shape, ?_⟩
    obtain ⟨inside, owner⟩ := new entry List.mem_cons_self
    obtain ⟨row', mem', id, salt, hashed⟩ := kept.mirrored.hashed entry inside
    obtain rfl := Table.eq_of_key mem' mem (id.trans owner)
    exact agrees salt row'.token entry.token_hash hashed
  · intro row mem
    obtain ⟨row', mem', carried⟩ := kept.grown.principals row mem
    obtain ⟨id, nick, team⟩ := Principal.mk.inj carried.principal
    refine ⟨row', mem', id, nick, carried.token, team, ?_⟩
    have cursor := carried.cells .last_seen_seq
    by_cases old : Column.last_seen_seq ∈ db₀.columns
    · simpa [Column.cell, old] using cursor
    · simpa [Column.cell, Column.default, old, columns .last_seen_seq] using cursor
  · exact fun later => settled_run settled later (fun list same => by cases same; simp)

/-- A file of the first vintage, where the token of `human` is not the seed's. -/
def rotated : Database where
  objects := [.principals]
  columns := []
  membership_cursor := false
  principals := ⟨[⟨⟨"human".toList, "human".toList, some "demo".toList⟩, "rotated-secret".toList, 0, none, none⟩], by decide⟩
  channel_memberships := Table.empty
  principal_tokens := Table.empty
  unique_token := by decide
  unique_label := by decide
  no_principals := by decide
  no_memberships := fun _ => ⟨rfl, rfl⟩
  no_tokens := fun _ => rfl

/-- The first `init` is cut off when `agent-a` is inserted and its token row is not; the second completes. -/
def interrupted : List (Event Draw) :=
  let draws (first count : Nat) : List (Event Draw) :=
    (List.range count).map (fun n => .statement ⟨List.replicate (first + n) 'x', []⟩)
  .start :: draws 0 13 ++ [.cut_off, .start] ++ draws 13 26

theorem rotated_migrates :
    let hash : Hash := fun _ secret => .ok secret
    let verify : Verify := fun secret token_hash => .ok (decide (secret = token_hash))
    ∃ db, run (step (execute hash) init) ⟨rotated, none⟩ interrupted = ⟨db, some []⟩ ∧
      ∃ entry, db.token_rows "human".toList = [entry] ∧
        ∀ secret, verify secret entry.token_hash = .ok (decide (secret = "rotated-secret".toList)) := by
  intro hash verify
  obtain ⟨db, completes⟩ : ∃ db, run (step (execute hash) init) ⟨rotated, none⟩ interrupted = ⟨db, some []⟩ := by
    have todo : (run (step (execute hash) init) ⟨rotated, none⟩ interrupted).todo = some [] := by decide +kernel
    exact ⟨(run (step (execute hash) init) ⟨rotated, none⟩ interrupted).state, by rw [← todo]⟩
  have agrees : ∀ salt secret token_hash, hash salt secret = .ok token_hash →
      ∀ other, verify other token_hash = .ok (decide (other = secret)) := by
    rintro salt secret token_hash hashed other
    obtain rfl : secret = token_hash := Except.ok.inj hashed
    rfl
  obtain ⟨_, others, principals, _⟩ := init_migrates hash verify agrees rotated db interrupted completes
  obtain ⟨row, mem, id, _, token, _⟩ := principals _ List.mem_cons_self
  have single := others row mem (by rw [id]; rfl)
  rw [id, token] at single
  exact ⟨db, completes, single⟩

end Aircd.Schema

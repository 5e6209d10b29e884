import Mathlib.Data.List.Nodup
import Mathlib.Data.List.Perm.Basic

/-!
# Rows under a key

Rows kept in insertion order, no two of them under one key: a relational table
with a primary key, or, with pairs for rows, a dictionary that iterates in
insertion order.
-/
namespace Aircd
universe u v w

/-- Rows in insertion order, each under its own key. -/
structure Table {Row : Type u} {Key : Type v} (key : Row → Key) where
  rows : List Row
  distinct : (rows.map key).Nodup

namespace Table
variable {Row : Type u} {Key : Type v} {key : Row → Key}

@[ext] theorem ext {t t' : Table key} (same : t.rows = t'.rows) : t = t' := by
  cases t; cases t'; cases same; rfl

instance [DecidableEq Row] : DecidableEq (Table key) := fun t t' =>
  decidable_of_iff (t.rows = t'.rows) ⟨ext, congrArg rows⟩

def empty : Table key := ⟨[], by simp⟩
@[simp] theorem rows_empty : (empty : Table key).rows = [] := rfl

theorem eq_of_key {t : Table key} {a b : Row} (ha : a ∈ t.rows) (hb : b ∈ t.rows) (same : key a = key b) :
    a = b :=
  List.inj_on_of_nodup_map t.distinct ha hb same

/-- `UPDATE`: the rows that `cond` selects are replaced by what `set` makes of
    them, which stays under the same key. -/
def update (t : Table key) (cond : Row → Bool) (set : Row → Row) (keeps : ∀ r, key (set r) = key r) : Table key where
  rows := t.rows.map (fun r => if cond r then set r else r)
  distinct := by
    have same : (t.rows.map (fun r => if cond r then set r else r)).map key = t.rows.map key := by
      rw [List.map_map]
      apply List.map_congr_left
      intro r _
      by_cases selected : cond r
      · simp [selected, keeps]
      · simp [selected]
    rw [same]
    exact t.distinct

/-- `DELETE`: the rows that `cond` selects go. -/
def delete (t : Table key) (cond : Row → Bool) : Table key where
  rows := t.rows.filter (fun r => !cond r)
  distinct := t.distinct.sublist (List.filter_sublist.map key)

theorem mem_delete {t : Table key} {cond : Row → Bool} {r : Row} :
    r ∈ (t.delete cond).rows ↔ r ∈ t.rows ∧ cond r = false := by
  simp [delete]

variable [DecidableEq Key]

/-- The row under a key. -/
def find (t : Table key) (k : Key) : Option Row := t.rows.find? (fun r => decide (key r = k))

/-- `INSERT OR IGNORE`: a row under a key already present changes nothing. -/
def insert (t : Table key) (row : Row) : Table key :=
  if absent : key row ∉ t.rows.map key then
    { rows := t.rows ++ [row]
      distinct := by
        rw [List.map_append, List.map_singleton]
        exact List.nodup_append.mpr ⟨t.distinct, by simp, by
          intro a inside b single same
          rw [List.mem_singleton.mp single] at same
          exact absent (same ▸ inside)⟩ }
  else t

theorem rows_insert {t : Table key} {row : Row} (fresh : ∀ old ∈ t.rows, key old ≠ key row) :
    (t.insert row).rows = t.rows ++ [row] := by
  have absent : key row ∉ t.rows.map key := by
    intro inside
    obtain ⟨old, mem, same⟩ := List.mem_map.mp inside
    exact fresh old mem same
  simp only [insert, dif_pos absent]

/-- The row takes the place of the one under its key, or goes to the end. -/
def set (t : Table key) (row : Row) : Table key :=
  if present : key row ∈ t.rows.map key then
    { rows := t.rows.map (fun r => if key r = key row then row else r)
      distinct := by
        have same : (t.rows.map (fun r => if key r = key row then row else r)).map key = t.rows.map key := by
          rw [List.map_map]
          apply List.map_congr_left
          intro r _
          by_cases here : key r = key row
          · simp [here]
          · simp [here]
        rw [same]
        exact t.distinct }
  else t.insert row

/-- The row under the key goes. -/
def erase (t : Table key) (k : Key) : Table key := t.delete (fun r => decide (key r = k))

theorem find_iff {t : Table key} {k : Key} {r : Row} : t.find k = some r ↔ r ∈ t.rows ∧ key r = k := by
  constructor
  · intro found
    exact ⟨List.mem_of_find?_eq_some found, by simpa using List.find?_some found⟩
  · rintro ⟨inside, rfl⟩
    cases found : t.find (key r) with
    | none =>
      have missing := List.find?_eq_none.mp found r inside
      simp at missing
    | some other =>
      have sameKey : key other = key r := by simpa using List.find?_some found
      rw [eq_of_key (List.mem_of_find?_eq_some found) inside sameKey]

theorem find_none_iff {t : Table key} {k : Key} : t.find k = none ↔ ∀ r ∈ t.rows, key r ≠ k := by
  simp [find, List.find?_eq_none]

theorem find_isSome_iff {t : Table key} {k : Key} : (t.find k).isSome ↔ ∃ r ∈ t.rows, key r = k := by
  rw [Option.isSome_iff_exists]
  exact exists_congr (fun r => find_iff)

theorem find_update (t : Table key) (cond : Row → Bool) (set : Row → Row) (keeps : ∀ r, key (set r) = key r) (k : Key) :
    (t.update cond set keeps).find k = (t.find k).map (fun r => if cond r then set r else r) := by
  have here : ∀ r, key (if cond r then set r else r) = key r := by
    intro r
    by_cases selected : cond r
    · simp [selected, keeps]
    · simp [selected]
  have sameTest : (fun r => decide (key r = k)) ∘ (fun r => if cond r then set r else r) = fun r => decide (key r = k) := by
    funext r
    simp only [Function.comp, here]
  simp only [find, update, List.find?_map, sameTest]

theorem mem_insert {t : Table key} {row r : Row} :
    r ∈ (t.insert row).rows ↔ r ∈ t.rows ∨ (r = row ∧ ∀ old ∈ t.rows, key old ≠ key row) := by
  by_cases absent : key row ∉ t.rows.map key
  · have fresh : ∀ old ∈ t.rows, key old ≠ key row := by
      intro old inside same
      exact absent (List.mem_map.mpr ⟨old, inside, same⟩)
    rw [rows_insert fresh, List.mem_append, List.mem_singleton]
    constructor
    · rintro (inside | rfl)
      · exact .inl inside
      · exact .inr ⟨rfl, fresh⟩
    · rintro (inside | ⟨same, _⟩)
      · exact .inl inside
      · exact .inr same
  · have rows : (t.insert row).rows = t.rows := by simp only [insert, dif_neg absent]
    obtain ⟨old, inside, same⟩ := List.mem_map.mp (not_not.mp absent)
    rw [rows]
    constructor
    · exact .inl
    · rintro (here | ⟨_, fresh⟩)
      · exact here
      · exact absurd same (fresh old inside)

theorem find_insert (t : Table key) (row : Row) (k : Key) :
    (t.insert row).find k = if t.find (key row) = none ∧ key row = k then some row else t.find k := by
  by_cases fresh : t.find (key row) = none ∧ key row = k
  · rw [if_pos fresh, find_iff, mem_insert]
    exact ⟨.inr ⟨rfl, find_none_iff.mp fresh.1⟩, fresh.2⟩
  · rw [if_neg fresh]
    apply Option.ext
    intro r
    rw [find_iff, find_iff, mem_insert]
    constructor
    · rintro ⟨inside | ⟨rfl, absent⟩, same⟩
      · exact ⟨inside, same⟩
      · exact absurd ⟨find_none_iff.mpr absent, same⟩ fresh
    · rintro ⟨inside, same⟩
      exact ⟨.inl inside, same⟩

theorem find_insert_absent {t : Table key} {row : Row} (absent : t.find (key row) = none) (k : Key) :
    (t.insert row).find k = if key row = k then some row else t.find k := by
  rw [find_insert]
  by_cases same : key row = k
  · rw [if_pos ⟨absent, same⟩, if_pos same]
  · rw [if_neg (fun both => same both.2), if_neg same]

theorem mem_set {t : Table key} {row r : Row} :
    r ∈ (t.set row).rows ↔ r = row ∨ (r ∈ t.rows ∧ key r ≠ key row) := by
  by_cases present : key row ∈ t.rows.map key
  · have rows : (t.set row).rows = t.rows.map (fun r => if key r = key row then row else r) := by
      simp only [set, dif_pos present]
    obtain ⟨old, inside, same⟩ := List.mem_map.mp present
    rw [rows, List.mem_map]
    constructor
    · rintro ⟨r', inside', rfl⟩
      by_cases here : key r' = key row
      · simp [here]
      · simp [here, inside']
    · rintro (rfl | ⟨inside', other⟩)
      · exact ⟨old, inside, by simp [same]⟩
      · exact ⟨r, inside', by simp [other]⟩
  · have rows : (t.set row).rows = (t.insert row).rows := by simp only [set, dif_neg present]
    have fresh : ∀ old ∈ t.rows, key old ≠ key row := by
      intro old inside same
      exact present (List.mem_map.mpr ⟨old, inside, same⟩)
    rw [rows, mem_insert]
    constructor
    · rintro (inside | ⟨rfl, _⟩)
      · exact .inr ⟨inside, fresh r inside⟩
      · exact .inl rfl
    · rintro (rfl | ⟨inside, _⟩)
      · exact .inr ⟨rfl, fresh⟩
      · exact .inl inside

theorem find_set (t : Table key) (row : Row) (k : Key) :
    (t.set row).find k = if key row = k then some row else t.find k := by
  by_cases here : key row = k
  · rw [if_pos here, find_iff, mem_set]
    exact ⟨.inl rfl, here⟩
  · rw [if_neg here]
    apply Option.ext
    intro r
    rw [find_iff, find_iff, mem_set]
    constructor
    · rintro ⟨rfl | ⟨inside, _⟩, same⟩
      · exact absurd same here
      · exact ⟨inside, same⟩
    · rintro ⟨inside, rfl⟩
      exact ⟨.inr ⟨inside, fun same => here same.symm⟩, rfl⟩

theorem mem_erase {t : Table key} {k : Key} {r : Row} : r ∈ (t.erase k).rows ↔ r ∈ t.rows ∧ key r ≠ k := by
  simp [erase, mem_delete]

/-- Without a row, a table has the others. -/
theorem rows_erase_perm {t : Table key} {r : Row} (inside : r ∈ t.rows) : (r :: (t.erase (key r)).rows).Perm t.rows := by
  rw [List.perm_ext_iff_of_nodup]
  · intro other
    rw [List.mem_cons, mem_erase]
    constructor
    · rintro (rfl | ⟨old, _⟩)
      · exact inside
      · exact old
    · intro old
      by_cases same : key other = key r
      · exact .inl (eq_of_key old inside same)
      · exact .inr ⟨old, same⟩
  · rw [List.nodup_cons]
    exact ⟨fun gone => (mem_erase.mp gone).2 rfl, List.Nodup.of_map key (t.erase (key r)).distinct⟩
  · exact List.Nodup.of_map key t.distinct

theorem find_erase (t : Table key) (k k' : Key) :
    (t.erase k).find k' = if k = k' then none else t.find k' := by
  by_cases here : k = k'
  · subst here
    rw [if_pos rfl, find_none_iff]
    intro r inside
    exact (mem_erase.mp inside).2
  · rw [if_neg here]
    apply Option.ext
    intro r
    rw [find_iff, find_iff, mem_erase]
    constructor
    · rintro ⟨⟨inside, _⟩, same⟩; exact ⟨inside, same⟩
    · rintro ⟨inside, rfl⟩; exact ⟨⟨inside, Ne.symm here⟩, rfl⟩

end Table

/-- A dictionary: pairs under their first component, in insertion order. -/
abbrev Dict (Key : Type v) (Value : Type w) := Table (Prod.fst : Key × Value → Key)

namespace Dict
variable {Key : Type v} {Value : Type w} [DecidableEq Key]

def get (d : Dict Key Value) (k : Key) : Option Value := (d.find k).map Prod.snd
def put (d : Dict Key Value) (k : Key) (value : Value) : Dict Key Value := Table.set d (k, value)

theorem get_iff {d : Dict Key Value} {k : Key} {value : Value} : get d k = some value ↔ (k, value) ∈ d.rows := by
  simp only [get, Option.map_eq_some_iff, Table.find_iff]
  constructor
  · rintro ⟨⟨k', value'⟩, ⟨inside, rfl⟩, rfl⟩; exact inside
  · intro inside; exact ⟨(k, value), ⟨inside, rfl⟩, rfl⟩

theorem get_put (d : Dict Key Value) (k k' : Key) (value : Value) :
    get (put d k value) k' = if k = k' then some value else get d k' := by
  simp only [get, put, Table.find_set]
  by_cases same : k = k'
  · simp [same]
  · simp [same]

theorem get_erase (d : Dict Key Value) (k k' : Key) :
    get (Table.erase d k) k' = if k = k' then none else get d k' := by
  simp only [get, Table.find_erase]
  by_cases same : k = k'
  · simp [same]
  · simp [same]

end Dict
end Aircd

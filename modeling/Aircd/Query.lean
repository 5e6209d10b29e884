import Aircd.Text
import Aircd.Utf8
import Mathlib.Data.List.SplitBy

/-!
# Query strings

`urlencode` of Python and how `parse_qs` reads what it prints.
-/
namespace Aircd.Query
open Aircd.Text Aircd.Utf8

/-! ## Printing -/

/-- The characters that are never quoted. -/
def unreserved (c : Char) : Bool := c.isAlphanum || c == '_' || c == '.' || c == '-' || c == '~'

def hex_digits : List Char := "0123456789ABCDEF".toList

def quote_byte (b : UInt8) : Text :=
  let c := Char.ofNat b.toNat
  if unreserved c then [c]
  else if c = ' ' then ['+']
  else ['%', hex_digits.getD (b.toNat / 16) '0', hex_digits.getD (b.toNat % 16) '0']

def quote_plus (t : Text) : Text := (encode t).flatMap quote_byte

def urlencode (params : List (Text × Text)) : Text :=
  join ['&'] (params.map (fun (name, value) => quote_plus name ++ '=' :: quote_plus value))

/-! ## Reading -/

/-- The byte that a percent sign and two hex digits stand for. -/
def byte_value (c high low : Char) : Option UInt8 := do
  if c = '%' then return UInt8.ofNat (16 * (← hexValue high) + (← hexValue low)) else none

/-- Any other percent sign stands for itself. -/
def unquote_to_bytes : Text → List UInt8
  | [] => []
  | c :: high :: low :: rest =>
    match byte_value c high low with
    | some b => b :: unquote_to_bytes rest
    | none => encode [c] ++ unquote_to_bytes (high :: low :: rest)
  | c :: rest => encode [c] ++ unquote_to_bytes rest

def ascii (c : Char) : Bool := decide (c.toNat < 0x80)

/-- Only the runs of ASCII are unquoted. -/
def unquote (t : Text) : Text :=
  (t.splitBy (fun c d => ascii c == ascii d)).flatMap (fun run =>
    if run.all ascii then decodeReplace (unquote_to_bytes run) else run)

def plus_to_space (t : Text) : Text := t.map (fun c => if c = '+' then ' ' else c)

/-- The pairs with a value. -/
def parse_qsl (query : Text) : List (Text × Text) :=
  (query.splitOn '&').filterMap (fun name_value =>
    match splitOnce ['='] name_value with
    | some (name, value) => if value.isEmpty then none else some (unquote (plus_to_space name), unquote (plus_to_space value))
    | none => none)

/-- `parse_qs(query).get(name, [default])[0]`. -/
def first_value (query name default : Text) : Text := ((parse_qsl query).lookup name).getD default

/-- `urlparse(path).query`, of a path that begins with a single slash. -/
def query_of (path : Text) : Text := ((path.takeWhile (fun c => c != '#')).dropWhile (fun c => c != '?')).drop 1

/-! ## The round trip -/

theorem unreserved_ascii {c : Char} (plain : unreserved c = true) : c.toNat < 0x80 ∧ c ≠ '%' ∧ c ≠ '+' := by
  refine ⟨?_, ?_, ?_⟩
  · have below {last : Char} (most : c ≤ last) (small : last.toNat < 0x80) : c.toNat < 0x80 := Nat.lt_of_le_of_lt most small
    have between {first last : Char} (inside : (decide (c.val ≥ first.val) && decide (c.val ≤ last.val)) = true) : c ≤ last :=
      of_decide_eq_true (Bool.and_eq_true_iff.mp inside).2
    simp only [unreserved, Bool.or_eq_true, beq_iff_eq] at plain
    rcases plain with (((alphanum | rfl) | rfl) | rfl) | rfl
    · rcases Bool.or_eq_true_iff.mp alphanum with alpha | digit
      · rcases Bool.or_eq_true_iff.mp alpha with upper | lower
        · exact @below 'Z' (of_decide_eq_true upper).2 (by decide)
        · exact below (@between 'a' 'z' lower) (by decide)
      · exact below (@between '0' '9' digit) (by decide)
    · decide
    · decide
    · decide
    · decide
  · rintro rfl
    exact absurd plain (by decide)
  · rintro rfl
    exact absurd plain (by decide)

theorem byte_value_digits (b : UInt8) :
    byte_value '%' (hex_digits.getD (b.toNat / 16) '0') (hex_digits.getD (b.toNat % 16) '0') = some b := by
  have digit : ∀ n : Nat, n < 16 → hexValue (hex_digits.getD n '0') = some n := by decide
  have bound := b.toNat_lt
  simp only [byte_value, if_true, digit (b.toNat / 16) (by omega), digit (b.toNat % 16) (by omega), Option.bind_eq_bind,
    Option.bind_some, Option.pure_def, Nat.div_add_mod, UInt8.ofNat_toNat]

theorem unquote_plain {c : Char} (other : c ≠ '%') (rest : Text) :
    unquote_to_bytes (c :: rest) = encode [c] ++ unquote_to_bytes rest := by
  match rest with
  | [] => rfl
  | [_] => rfl
  | high :: low :: rest =>
    have none : byte_value c high low = none := if_neg other
    rw [unquote_to_bytes, none]

theorem unquote_escaped (b : UInt8) (rest : Text) : unquote_to_bytes
    ('%' :: hex_digits.getD (b.toNat / 16) '0' :: hex_digits.getD (b.toNat % 16) '0' :: rest) = b :: unquote_to_bytes rest := by
  rw [unquote_to_bytes, byte_value_digits]

theorem unquote_quote_byte (b : UInt8) (rest : Text) :
    unquote_to_bytes (plus_to_space (quote_byte b) ++ rest) = b :: unquote_to_bytes rest := by
  have bound := b.toNat_lt
  have value : (Char.ofNat b.toNat).toNat = b.toNat := by
    rw [Char.ofNat, dif_pos (Or.inl (by omega))]
    rfl
  rw [quote_byte]
  split
  · next plain =>
    obtain ⟨below, percent, plus⟩ := unreserved_ascii plain
    rw [plus_to_space, List.map_singleton, if_neg plus, List.singleton_append, unquote_plain percent,
      encode_singleton below, value, UInt8.ofNat_toNat, List.singleton_append]
  · split
    · next space =>
      have same : b = 0x20 := by
        rw [space] at value
        exact UInt8.toNat_inj.mp value.symm
      rw [same]
      exact unquote_plain (by decide) rest
    · have digit : ∀ n : Nat, n < 16 → hex_digits.getD n '0' ≠ '+' := by decide
      have kept : plus_to_space ['%', hex_digits.getD (b.toNat / 16) '0', hex_digits.getD (b.toNat % 16) '0'] =
          ['%', hex_digits.getD (b.toNat / 16) '0', hex_digits.getD (b.toNat % 16) '0'] := by
        simp only [plus_to_space, List.map_cons, List.map_nil, if_neg (digit (b.toNat / 16) (by omega)),
          if_neg (digit (b.toNat % 16) (by omega))]
        rfl
      rw [kept]
      exact unquote_escaped b rest

theorem unquote_quoted (bytes : List UInt8) : unquote_to_bytes (plus_to_space (bytes.flatMap quote_byte)) = bytes := by
  induction bytes with
  | nil => rfl
  | cons b bytes ih =>
    have split : plus_to_space ((b :: bytes).flatMap quote_byte) =
        plus_to_space (quote_byte b) ++ plus_to_space (bytes.flatMap quote_byte) := by
      simp [plus_to_space]
    rw [split, unquote_quote_byte, ih]

/-- What a name or a value is printed with. -/
def Quoted (c : Char) : Prop := unreserved c = true ∨ c = '%' ∨ c = '+'

theorem quoted_of_mem {t : Text} {c : Char} (inside : c ∈ quote_plus t) : Quoted c := by
  obtain ⟨b, _, here⟩ := List.mem_flatMap.mp inside
  have bound := b.toNat_lt
  rw [quote_byte] at here
  split at here
  · next plain =>
    rw [List.mem_singleton.mp here]
    exact .inl plain
  · split at here
    · exact .inr (.inr (List.mem_singleton.mp here))
    · have digit : ∀ n : Nat, n < 16 → unreserved (hex_digits.getD n '0') = true := by decide
      simp only [List.mem_cons, List.not_mem_nil, or_false] at here
      rcases here with rfl | rfl | rfl
      · exact .inr (.inl rfl)
      · exact .inl (digit _ (by omega))
      · exact .inl (digit _ (by omega))

theorem quoted_ascii {c : Char} (quoted : Quoted c) : c.toNat < 0x80 := by
  rcases quoted with plain | rfl | rfl
  · exact (unreserved_ascii plain).1
  · decide
  · decide

theorem quoted_ne {c d : Char} (quoted : Quoted c) (other : (!unreserved d && d != '%' && d != '+') = true) : c ≠ d := by
  rintro rfl
  rcases quoted with plain | rfl | rfl
  · simp [plain] at other
  · exact absurd other (by decide)
  · exact absurd other (by decide)

theorem unquote_ascii {t : Text} (all : ∀ c ∈ t, ascii c = true) : unquote t = decodeReplace (unquote_to_bytes t) := by
  by_cases empty : t = []
  · subst empty
    rfl
  · have chain : t.IsChain (fun c d => (ascii c == ascii d) = true) := by
      apply List.Pairwise.isChain
      apply List.pairwise_of_forall_mem_list
      intro c first d second
      simp [all c first, all d second]
    rw [unquote, List.splitBy_of_isChain empty chain, List.flatMap_singleton, if_pos (List.all_eq_true.mpr all)]

/-- Every text is read back from what it is quoted as. -/
theorem unquote_quote_plus (t : Text) : unquote (plus_to_space (quote_plus t)) = t := by
  have all : ∀ c ∈ plus_to_space (quote_plus t), ascii c = true := by
    intro c inside
    obtain ⟨d, quoted, same⟩ := List.mem_map.mp inside
    split at same
    · rw [← same]
      rfl
    · rw [← same]
      exact decide_eq_true (quoted_ascii (quoted_of_mem quoted))
  rw [unquote_ascii all, quote_plus, unquote_quoted, decodeReplace, scan_encode, List.map_map]
  exact List.map_id t

theorem quote_plus_isEmpty (t : Text) : (quote_plus t).isEmpty = t.isEmpty := by
  have some (b : UInt8) : quote_byte b ≠ [] := by
    rw [quote_byte]
    split
    · exact List.cons_ne_nil _ _
    · split
      · exact List.cons_ne_nil _ _
      · exact List.cons_ne_nil _ _
  rw [← encode_isEmpty t, quote_plus]
  cases encode t with
  | nil => rfl
  | cons b bytes =>
    rw [List.flatMap_cons]
    simp [some b]

theorem field_of_quoted (name value : Text) : '&' ∉ quote_plus name ++ '=' :: quote_plus value ∧
    splitOnce ['='] (quote_plus name ++ '=' :: quote_plus value) = some (quote_plus name, quote_plus value) := by
  constructor
  · intro inside
    rcases List.mem_append.mp inside with here | here
    · exact quoted_ne (quoted_of_mem here) (by decide) rfl
    · rcases List.mem_cons.mp here with same | here
      · exact absurd same (by decide)
      · exact quoted_ne (quoted_of_mem here) (by decide) rfl
  · exact splitOnce_char (fun inside => quoted_ne (quoted_of_mem inside) (by decide) rfl)

/-- The parameters come back in order, except for the empty ones. -/
theorem parse_urlencode (params : List (Text × Text)) :
    parse_qsl (urlencode params) = params.filter (fun (_, value) => !value.isEmpty) := by
  by_cases empty : params = []
  · subst empty
    rfl
  have fields : (urlencode params).splitOn '&' = params.map (fun (name, value) => quote_plus name ++ '=' :: quote_plus value) := by
    apply splitOn_join
    · simpa using empty
    · intro field inside
      obtain ⟨⟨name, value⟩, _, rfl⟩ := List.mem_map.mp inside
      exact (field_of_quoted name value).1
  rw [parse_qsl, fields, List.filterMap_map]
  clear fields empty
  induction params with
  | nil => rfl
  | cons param params ih =>
    obtain ⟨name, value⟩ := param
    rw [List.filterMap_cons, ih, List.filter_cons]
    simp only [Function.comp_apply, (field_of_quoted name value).2, quote_plus_isEmpty, unquote_quote_plus]
    cases value.isEmpty <;> rfl

theorem mem_urlencode {params : List (Text × Text)} {c : Char} (inside : c ∈ urlencode params) :
    Quoted c ∨ c = '&' ∨ c = '=' := by
  rcases mem_join inside with between | ⟨field, listed, here⟩
  · exact .inr (.inl (List.mem_singleton.mp between))
  · obtain ⟨⟨name, value⟩, _, rfl⟩ := List.mem_map.mp listed
    rcases List.mem_append.mp here with first | later
    · exact .inl (quoted_of_mem first)
    · rcases List.mem_cons.mp later with same | second
      · exact .inr (.inr same)
      · exact .inl (quoted_of_mem second)

/-- The query of a path that the parameters are put behind. -/
theorem query_of_urlencode {path : Text} (clean : ∀ c ∈ path, c ≠ '?' ∧ c ≠ '#') (params : List (Text × Text)) :
    query_of (path ++ '?' :: urlencode params) = urlencode params := by
  have whole : ∀ c ∈ path ++ '?' :: urlencode params, (c != '#') = true := by
    intro c inside
    rw [bne_iff_ne]
    rcases List.mem_append.mp inside with here | here
    · exact (clean c here).2
    · rcases List.mem_cons.mp here with rfl | here
      · decide
      · rcases mem_urlencode here with quoted | rfl | rfl
        · exact quoted_ne quoted (by decide)
        · decide
        · decide
  have before : ∀ c ∈ path, (c != '?') = true := fun c inside => bne_iff_ne.mpr (clean c inside).1
  rw [query_of, List.takeWhile_eq_self_iff.mpr whole, List.dropWhile_append_of_pos before]
  rfl

end Aircd.Query

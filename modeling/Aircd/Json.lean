import Aircd.Text

/-!
# JSON

The documents that `json.dumps` of Python prints and how `json.loads` reads a
document: null, booleans, integers, strings, arrays and objects. Numbers with a
fraction or an exponent and escapes of half a surrogate pair have no value here.
-/
namespace Aircd.Json
open Aircd.Text

/-- An object keeps the pairs of the document in order, a key written twice included. -/
inductive Value where
  | null
  | bool (b : Bool)
  | int (n : Int)
  | str (t : Text)
  | arr (items : List Value)
  | obj (fields : List (Text × Value))

/-- `dict.get`: the last pair with the key counts. -/
def Value.get (value : Value) (key : Text) : Option Value :=
  match value with
  | .obj fields => fields.reverse.lookup key
  | _ => none

/-- An item of a dictionary as the source writes it. -/
def field (key : String) (value : Value) : Text × Value := (key.toList, value)

/-! ## Printing -/

/-- The characters that have an escape of their own, with the letter behind the backslash. -/
def short_escapes : List (Char × Char) :=
  [('\x22', '\x22'), ('\x5c', '\x5c'), ('\n', 'n'), ('\r', 'r'), ('\t', 't'), ('\x0c', 'f'), ('\x08', 'b')]

/-- A UTF-16 code unit with four hex digits. -/
def escape_unit (n : Nat) : Text :=
  ['\x5c', 'u', Nat.digitChar (n / 4096 % 16), Nat.digitChar (n / 256 % 16), Nat.digitChar (n / 16 % 16), Nat.digitChar (n % 16)]

/-- `ensure_ascii`: what is not printable ASCII is escaped, beyond the first plane as a surrogate pair. -/
def escape (c : Char) : Text :=
  match short_escapes.lookup c with
  | some letter => ['\x5c', letter]
  | none =>
    if 0x20 ≤ c.toNat ∧ c.toNat < 0x7F then [c]
    else if c.toNat < 0x10000 then escape_unit c.toNat
    else escape_unit (0xD800 + (c.toNat - 0x10000) / 1024) ++ escape_unit (0xDC00 + (c.toNat - 0x10000) % 1024)

def quoted (t : Text) : Text := '\x22' :: (t.flatMap escape ++ ['\x22'])

mutual

def dumps : Value → Text
  | .null => "null".toList
  | .bool true => "true".toList
  | .bool false => "false".toList
  | .int n => decimal n
  | .str t => quoted t
  | .arr items => '[' :: (join ", ".toList (dump_items items) ++ [']'])
  | .obj fields => '{' :: (join ", ".toList (dump_fields fields) ++ ['}'])

def dump_items : List Value → List Text
  | [] => []
  | v :: rest => dumps v :: dump_items rest

def dump_fields : List (Text × Value) → List Text
  | [] => []
  | (key, v) :: rest => (quoted key ++ ": ".toList ++ dumps v) :: dump_fields rest

end

/-! ## Reading -/

/-- What a string is written with: characters, and escaped code units. -/
inductive Piece where
  | char (c : Char)
  | unit (n : Nat)

/-- The value of four hex digits. -/
def unit_value (a b c d : Char) : Option Nat := do
  return (((← hexValue a) * 16 + (← hexValue b)) * 16 + (← hexValue c)) * 16 + (← hexValue d)

/-- The character of a short escape; a slash may be escaped too. -/
def unescape (letter : Char) : Option Char :=
  if letter = '/' then some '/' else (short_escapes.map Prod.swap).lookup letter

/-- The pieces up to the closing quote, and what is behind it. -/
def read_pieces : Text → Option (List Piece × Text)
  | [] => none
  | c :: rest =>
    if c = '\x22' then some ([], rest)
    else if c = '\x5c' then
      match rest with
      | [] => none
      | letter :: rest =>
        if letter = 'u' then
          match rest with
          | a :: b :: c :: d :: rest => do
            let n ← unit_value a b c d
            let (pieces, rest) ← read_pieces rest
            return (.unit n :: pieces, rest)
          | _ => none
        else do
          let c ← unescape letter
          let (pieces, rest) ← read_pieces rest
          return (.char c :: pieces, rest)
    else if c.toNat < 0x20 then none
    else do
      let (pieces, rest) ← read_pieces rest
      return (.char c :: pieces, rest)

def high_half (n : Nat) : Bool := decide (0xD800 ≤ n ∧ n < 0xDC00)
def low_half (n : Nat) : Bool := decide (0xDC00 ≤ n ∧ n < 0xE000)

/-- Two escaped halves of a surrogate pair are one character. -/
def assemble : List Piece → Option Text
  | [] => some []
  | .char c :: rest => do return c :: (← assemble rest)
  | .unit n :: rest =>
    if high_half n then
      match rest with
      | .unit m :: rest =>
        if low_half m then do
          return Char.ofNat (0x10000 + (n - 0xD800) * 1024 + (m - 0xDC00)) :: (← assemble rest)
        else none
      | _ => none
    else if low_half n then none
    else do return Char.ofNat n :: (← assemble rest)

/-- A string whose opening quote has been read. -/
def read_string (t : Text) : Option (Text × Text) := do
  let (pieces, rest) ← read_pieces t
  return (← assemble pieces, rest)

def blank (c : Char) : Bool := c == ' ' || c == '\t' || c == '\n' || c == '\r'

def skip (t : Text) : Text := t.dropWhile blank

/-- Digits, with no zero before others. -/
def read_digits : Text → Option (Int × Text)
  | '0' :: rest => some (0, rest)
  | t => do return (← digits (t.takeWhile Char.isDigit), t.dropWhile Char.isDigit)

def read_int : Text → Option (Int × Text)
  | '-' :: rest => do
    let (n, rest) ← read_digits rest
    return (-n, rest)
  | t => read_digits t

/-- A word that stands for a value, or an integer. -/
def read_atom (t : Text) : Option (Value × Text) :=
  if "null".toList <+: t then some (.null, t.drop 4)
  else if "true".toList <+: t then some (.bool true, t.drop 4)
  else if "false".toList <+: t then some (.bool false, t.drop 5)
  else do
    let (n, rest) ← read_int t
    return (.int n, rest)

mutual

/-- A value at the start of the text, and what is behind it. Each call leaves one less of the fuel. -/
def read_value : Nat → Text → Option (Value × Text)
  | 0, _ => none
  | fuel + 1, t =>
    match t with
    | '\x22' :: rest => do
      let (t, rest) ← read_string rest
      return (.str t, rest)
    | '[' :: rest =>
      match skip rest with
      | ']' :: rest => some (.arr [], rest)
      | rest => do
        let (items, rest) ← read_items fuel rest
        return (.arr items, rest)
    | '{' :: rest =>
      match skip rest with
      | '}' :: rest => some (.obj [], rest)
      | rest => do
        let (fields, rest) ← read_fields fuel rest
        return (.obj fields, rest)
    | t => read_atom t

def read_items : Nat → Text → Option (List Value × Text)
  | 0, _ => none
  | fuel + 1, t => do
    let (v, rest) ← read_value fuel t
    match skip rest with
    | ',' :: rest =>
      let (items, rest) ← read_items fuel (skip rest)
      return (v :: items, rest)
    | ']' :: rest => return ([v], rest)
    | _ => none

def read_fields : Nat → Text → Option (List (Text × Value) × Text)
  | 0, _ => none
  | fuel + 1, t =>
    match t with
    | '\x22' :: rest => do
      let (key, rest) ← read_string rest
      match skip rest with
      | ':' :: rest =>
        let (v, rest) ← read_value fuel (skip rest)
        match skip rest with
        | ',' :: rest =>
          let (fields, rest) ← read_fields fuel (skip rest)
          return ((key, v) :: fields, rest)
        | '}' :: rest => return ([(key, v)], rest)
        | _ => none
      | _ => none
    | _ => none

end

/-- A value with nothing but blanks around it. A value takes a character of the text at least, so that the
    length is fuel enough. -/
def loads (t : Text) : Option Value := do
  let (v, rest) ← read_value (t.length + 1) (skip t)
  if (skip rest).isEmpty then return v else none

/-! ## Strings -/

/-- The pieces that a character is read back from. -/
def written (c : Char) : List Piece :=
  if (short_escapes.lookup c).isSome ∨ 0x20 ≤ c.toNat ∧ c.toNat < 0x7F then [.char c]
  else if c.toNat < 0x10000 then [.unit c.toNat]
  else [.unit (0xD800 + (c.toNat - 0x10000) / 1024), .unit (0xDC00 + (c.toNat - 0x10000) % 1024)]

theorem unescape_short {c letter : Char} (short : short_escapes.lookup c = some letter) :
    unescape letter = some c ∧ letter ≠ 'u' ∧ 0x20 ≤ letter.toNat ∧ letter.toNat < 0x7F := by
  have inverse : ∀ pair ∈ short_escapes, unescape pair.2 = some pair.1 ∧ pair.2 ≠ 'u' ∧
      0x20 ≤ pair.2.toNat ∧ pair.2.toNat < 0x7F := by decide
  obtain ⟨before, after, split, _⟩ := List.lookup_eq_some_iff.mp short
  exact inverse (c, letter) (by rw [split]; simp)

theorem plain_of_not_short {c : Char} (long : short_escapes.lookup c = none) : c ≠ '\x22' ∧ c ≠ '\x5c' := by
  constructor
  · rintro rfl
    exact absurd long (by decide)
  · rintro rfl
    exact absurd long (by decide)

theorem hexValue_digitChar : ∀ {n : Nat}, n < 16 → hexValue (Nat.digitChar n) = some n := by decide

theorem unit_value_escape {n : Nat} (small : n < 0x10000) : unit_value (Nat.digitChar (n / 4096 % 16))
    (Nat.digitChar (n / 256 % 16)) (Nat.digitChar (n / 16 % 16)) (Nat.digitChar (n % 16)) = some n := by
  simp only [unit_value, hexValue_digitChar (Nat.mod_lt _ (show 0 < 16 by decide)), Option.bind_eq_bind, Option.bind_some,
    Option.pure_def, Option.some.injEq]
  omega

theorem read_pieces_quote (rest : Text) : read_pieces ('\x22' :: rest) = some ([], rest) := by
  rw [read_pieces.eq_def]
  exact if_pos rfl

theorem read_pieces_char {c : Char} (unquoted : c ≠ '\x22') (unslashed : c ≠ '\x5c') (visible : 0x20 ≤ c.toNat) (rest : Text) :
    read_pieces (c :: rest) = (read_pieces rest).map (fun (pieces, rest) => (.char c :: pieces, rest)) := by
  rw [read_pieces.eq_def]
  simp only [if_neg unquoted, if_neg unslashed, if_neg (Nat.not_lt.mpr visible)]
  cases read_pieces rest <;> rfl

theorem read_pieces_short {c letter : Char} (inverse : unescape letter = some c) (other : letter ≠ 'u') (rest : Text) :
    read_pieces ('\x5c' :: letter :: rest) = (read_pieces rest).map (fun (pieces, rest) => (.char c :: pieces, rest)) := by
  rw [read_pieces.eq_def]
  simp only [Char.reduceEq, if_false, if_true, if_neg other, inverse]
  cases read_pieces rest <;> rfl

theorem read_pieces_unit {n : Nat} (small : n < 0x10000) (rest : Text) : read_pieces (escape_unit n ++ rest) =
    (read_pieces rest).map (fun (pieces, rest) => (.unit n :: pieces, rest)) := by
  simp only [escape_unit, List.cons_append, List.nil_append]
  rw [read_pieces.eq_def]
  simp only [Char.reduceEq, if_false, if_true, unit_value_escape small]
  cases read_pieces rest <;> rfl

/-- How a character is written, and the pieces that this is read as. -/
inductive Written (c : Char) : Text → List Piece → Prop where
  | short (letter : Char) : unescape letter = some c → letter ≠ 'u' → 0x20 ≤ letter.toNat ∧ letter.toNat < 0x7F →
      Written c ['\x5c', letter] [.char c]
  | plain : c ≠ '\x22' → c ≠ '\x5c' → 0x20 ≤ c.toNat ∧ c.toNat < 0x7F → Written c [c] [.char c]
  | unit : c.toNat < 0x10000 → Written c (escape_unit c.toNat) [.unit c.toNat]
  | pair (n m : Nat) : high_half n = true → low_half m = true → c.toNat = 0x10000 + (n - 0xD800) * 1024 + (m - 0xDC00) →
      Written c (escape_unit n ++ escape_unit m) [.unit n, .unit m]

theorem escape_written (c : Char) : Written c (escape c) (written c) := by
  unfold escape written
  cases short : short_escapes.lookup c with
  | some letter =>
    obtain ⟨inverse, other, printable⟩ := unescape_short short
    simp only [Option.isSome_some, true_or, if_true]
    exact .short letter inverse other printable
  | none =>
    obtain ⟨unquoted, unslashed⟩ := plain_of_not_short short
    by_cases printable : 0x20 ≤ c.toNat ∧ c.toNat < 0x7F
    · simp only [printable, and_self, or_true, if_true]
      exact .plain unquoted unslashed printable
    · simp only [printable, Option.isSome_none, Bool.false_eq_true, or_self, if_false]
      by_cases first : c.toNat < 0x10000
      · rw [if_pos first, if_pos first]
        exact .unit first
      · rw [if_neg first, if_neg first]
        have bound : c.toNat < 0x110000 := by
          rcases c.valid with low | ⟨_, below⟩
          · exact Nat.lt_trans low (by decide)
          · exact below
        refine .pair _ _ ?_ ?_ ?_
        · simp only [high_half, decide_eq_true_eq]
          omega
        · simp only [low_half, decide_eq_true_eq]
          omega
        · omega

theorem read_pieces_escape (c : Char) (rest : Text) : read_pieces (escape c ++ rest) =
    (read_pieces rest).map (fun (pieces, rest) => (written c ++ pieces, rest)) := by
  have form := escape_written c
  generalize escape c = t, written c = pieces at form ⊢
  cases form with
  | short letter inverse other _ =>
    exact read_pieces_short inverse other rest
  | plain unquoted unslashed printable => exact read_pieces_char unquoted unslashed printable.1 rest
  | unit small => exact read_pieces_unit small rest
  | pair n m high low _ =>
    have first : n < 0x10000 := by
      simp only [high_half, decide_eq_true_eq] at high
      omega
    have second : m < 0x10000 := by
      simp only [low_half, decide_eq_true_eq] at low
      omega
    rw [List.append_assoc, read_pieces_unit first, read_pieces_unit second, Option.map_map]
    rfl

theorem assemble_written (c : Char) (pieces : List Piece) : assemble (written c ++ pieces) = (assemble pieces).map (c :: ·) := by
  have form := escape_written c
  generalize escape c = t, written c = first at form ⊢
  cases form with
  | short _ _ _ _ => cases here : assemble pieces <;> simp [assemble, here]
  | plain _ _ _ => cases here : assemble pieces <;> simp [assemble, here]
  | unit small =>
    have apart : high_half c.toNat = false ∧ low_half c.toNat = false := by
      simp only [high_half, low_half, decide_eq_false_iff_not]
      rcases c.valid with low | ⟨above, _⟩
      · have bound : c.toNat < 0xD800 := low
        omega
      · have bound : 0xDFFF < c.toNat := above
        omega
    rw [List.singleton_append, assemble.eq_def]
    simp only [apart, Bool.false_eq_true, if_false, Char.ofNat_toNat]
    cases assemble pieces <;> rfl
  | pair n m high low value =>
    cases here : assemble pieces <;> simp [assemble, here, high, low, ← value]

/-- A printed string is read back, whatever is behind it. -/
theorem read_string_quoted (t rest : Text) : read_string (t.flatMap escape ++ '\x22' :: rest) = some (t, rest) := by
  have pieces : read_pieces (t.flatMap escape ++ '\x22' :: rest) = some (t.flatMap written, rest) := by
    induction t with
    | nil => exact read_pieces_quote rest
    | cons c t ih => rw [List.flatMap_cons, List.append_assoc, read_pieces_escape, ih, List.flatMap_cons]; rfl
  have whole (t : Text) : assemble (t.flatMap written) = some t := by
    induction t with
    | nil => rfl
    | cons c t ih => rw [List.flatMap_cons, assemble_written, ih]; rfl
  simp only [read_string, pieces, whole, Option.bind_eq_bind, Option.bind_some, Option.pure_def]

/-! ## Integers -/

/-- No digit comes first. -/
def Ends (rest : Text) : Prop := ∀ c, rest.head? = some c → c.isDigit = false

theorem head_toDigits {n : Nat} (positive : 0 < n) : (Nat.toDigits 10 n).head? ≠ some '0' := by
  induction n using Nat.strongRecOn with
  | ind n ih =>
    by_cases small : n < 10
    · have digit : ∀ n : Nat, n < 10 → 0 < n → Nat.digitChar n ≠ '0' := by decide
      rw [Nat.toDigits_of_lt_base small]
      simpa using digit n small positive
    · rw [Nat.toDigits_of_base_le (by decide) (by omega), List.head?_append_of_ne_nil _ Nat.toDigits_ne_nil]
      exact ih (n / 10) (by omega) (by omega)

theorem read_digits_toDigits (n : Nat) {rest : Text} (ends : Ends rest) :
    read_digits (Nat.toDigits 10 n ++ rest) = some ((n : Int), rest) := by
  by_cases zero : n = 0
  · subst zero
    rfl
  · have all : ∀ c ∈ Nat.toDigits 10 n, c.isDigit = true := fun c inside =>
      Nat.isDigit_of_mem_toDigits (by decide) (by decide) inside
    have stop : rest.takeWhile Char.isDigit = [] ∧ rest.dropWhile Char.isDigit = rest := by
      cases rest with
      | nil => exact ⟨rfl, rfl⟩
      | cons c rest => simp [ends c rfl]
    have first := head_toDigits (Nat.pos_of_ne_zero zero)
    rw [read_digits, List.takeWhile_append_of_pos all, List.dropWhile_append_of_pos all, stop.1, stop.2, List.append_nil,
      digits_toDigits]
    · rfl
    · intro more same
      rw [← @List.head?_append_of_ne_nil _ _ rest Nat.toDigits_ne_nil, same] at first
      exact first rfl

theorem read_int_decimal (n : Int) {rest : Text} (ends : Ends rest) : read_int (decimal n ++ rest) = some (n, rest) := by
  rcases decimal_cases n with ⟨positive, printed⟩ | ⟨negative, printed⟩
  · rw [printed, read_int, read_digits_toDigits _ ends]
    · simp [Int.toNat_of_nonneg positive]
    · intro more same
      have inside : '-' ∈ Nat.toDigits 10 n.toNat := by
        obtain ⟨c, ds, here⟩ := List.exists_cons_of_ne_nil (@Nat.toDigits_ne_nil n.toNat 10)
        rw [here, List.cons_append] at same
        rw [here, (List.cons.inj same).1]
        exact List.mem_cons_self
      exact absurd (Nat.isDigit_of_mem_toDigits (by decide) (by decide) inside) (by decide)
  · rw [printed, List.cons_append, read_int, read_digits_toDigits _ ends]
    simp [Int.toNat_of_nonneg (show 0 ≤ -n by omega)]

/-! ## Documents -/

/-- What is behind a value that an array or an object has. -/
theorem ends_of_head {c : Char} (other : c.isDigit = false) (rest : Text) : Ends (c :: rest) := by
  intro first here
  cases here
  exact other

theorem decimal_cons (n : Int) : ∃ c t, decimal n = c :: t ∧ (c = '-' ∨ c.isDigit = true) := by
  have some : decimal n ≠ [] := by
    rcases decimal_cases n with ⟨_, printed⟩ | ⟨_, printed⟩
    · rw [printed]
      exact Nat.toDigits_ne_nil
    · rw [printed]
      exact List.cons_ne_nil _ _
  obtain ⟨c, t, split⟩ := List.exists_cons_of_ne_nil some
  exact ⟨c, t, split, mem_decimal (by rw [split]; exact List.mem_cons_self)⟩

/-- A value begins with no blank, and not as an array ends. -/
theorem dumps_cons (v : Value) : ∃ c t, dumps v = c :: t ∧ blank c = false ∧ c ≠ ']' := by
  cases v with
  | null => exact ⟨'n', "ull".toList, rfl, by decide⟩
  | bool b =>
    cases b with
    | false => exact ⟨'f', "alse".toList, rfl, by decide⟩
    | true => exact ⟨'t', "rue".toList, rfl, by decide⟩
  | int n =>
    obtain ⟨c, t, split, sign⟩ := decimal_cons n
    have other (d : Char) (apart : (d != '-' && !d.isDigit) = true) : c ≠ d := by
      rintro rfl
      rcases sign with rfl | digit
      · exact absurd apart (by decide)
      · simp [digit] at apart
    exact ⟨c, t, split, by simp [blank, other], other _ (by decide)⟩
  | str t => exact ⟨'\x22', _, rfl, by decide⟩
  | arr items => exact ⟨'[', _, rfl, by decide⟩
  | obj fields => exact ⟨'{', _, rfl, by decide⟩

theorem skip_visible {c : Char} (visible : blank c = false) (t : Text) : skip (c :: t) = c :: t := by
  simp [skip, visible]

theorem skip_space {c : Char} (visible : blank c = false) (t : Text) : skip (' ' :: c :: t) = c :: t := by
  rw [skip, List.dropWhile_cons_of_pos (by decide)]
  exact skip_visible visible t

theorem skip_dumps (v : Value) (t : Text) : skip (dumps v ++ t) = dumps v ++ t ∧ skip (' ' :: (dumps v ++ t)) = dumps v ++ t := by
  obtain ⟨c, more, split, visible, _⟩ := dumps_cons v
  rw [split, List.cons_append]
  exact ⟨skip_visible visible _, skip_space visible _⟩

theorem join_more (word next : Text) (rest : List Text) :
    join ", ".toList (word :: next :: rest) = word ++ ',' :: ' ' :: join ", ".toList (next :: rest) :=
  List.append_assoc _ _ _

theorem join_cons (word : Text) (rest : List Text) : ∃ more, join ", ".toList (word :: rest) = word ++ more := by
  cases rest with
  | nil => exact ⟨[], (List.append_nil word).symm⟩
  | cons next rest => exact ⟨_, List.append_assoc _ _ _⟩

mutual

/-- The fuel that a value takes. -/
def cost : Value → Nat
  | .arr items => cost_items items + 1
  | .obj fields => cost_fields fields + 1
  | _ => 1

def cost_items : List Value → Nat
  | [] => 0
  | v :: rest => max (cost v) (cost_items rest) + 1

def cost_fields : List (Text × Value) → Nat
  | [] => 0
  | (_, v) :: rest => max (cost v) (cost_fields rest) + 1

end

theorem length_join_cons (word : Text) (rest : List Text) : (join ", ".toList (word :: rest)).length =
    word.length + if rest.isEmpty then 0 else 2 + (join ", ".toList rest).length := by
  cases rest with
  | nil => rfl
  | cons next rest =>
    simp [join]
    omega

theorem cost_atom_le {v : Value} (atom : cost v = 1) : cost v ≤ (dumps v).length := by
  obtain ⟨c, t, split, _⟩ := dumps_cons v
  rw [split, atom, List.length_cons]
  omega

theorem cost_rest_le {here more : Nat} {word : Text} {rest : List Text} (first : here ≤ word.length)
    (later : more ≤ (join ", ".toList rest).length + 1) (none : rest = [] → more = 0) :
    max here more + 1 ≤ (join ", ".toList (word :: rest)).length + 1 := by
  rw [length_join_cons]
  cases rest with
  | nil =>
    rw [none rfl]
    simpa using first
  | cons next rest =>
    simp only [List.isEmpty_cons, Bool.false_eq_true, if_false]
    omega

mutual

theorem cost_le : ∀ v : Value, cost v ≤ (dumps v).length
  | .null => cost_atom_le rfl
  | .bool _ => cost_atom_le rfl
  | .int _ => cost_atom_le rfl
  | .str _ => cost_atom_le rfl
  | .arr items => by
    have bound := cost_items_le items
    simp only [cost, dumps, List.length_cons, List.length_append, List.length_nil]
    omega
  | .obj fields => by
    have bound := cost_fields_le fields
    simp only [cost, dumps, List.length_cons, List.length_append, List.length_nil]
    omega

theorem cost_items_le : ∀ items : List Value, cost_items items ≤ (join ", ".toList (dump_items items)).length + 1
  | [] => Nat.zero_le _
  | v :: rest => by
    refine cost_rest_le (cost_le v) (cost_items_le rest) ?_
    cases rest with
    | nil => exact fun _ => rfl
    | cons => exact fun none => absurd none (List.cons_ne_nil _ _)

theorem cost_fields_le : ∀ fields : List (Text × Value), cost_fields fields ≤ (join ", ".toList (dump_fields fields)).length + 1
  | [] => Nat.zero_le _
  | (key, v) :: rest => by
    have here : cost v ≤ (quoted key ++ ": ".toList ++ dumps v).length := by
      have bound := cost_le v
      rw [List.length_append]
      omega
    refine cost_rest_le here (cost_fields_le rest) ?_
    cases rest with
    | nil => exact fun _ => rfl
    | cons => exact fun none => absurd none (List.cons_ne_nil _ _)

end

/-! ## The round trip -/

theorem read_value_atom {c : Char} (fuel : Nat) (t : Text) (other : c ≠ '\x22' ∧ c ≠ '[' ∧ c ≠ '{') :
    read_value (fuel + 1) (c :: t) = read_atom (c :: t) := by
  rw [read_value]
  · intro rest same
    exact other.1 (List.cons.inj same).1
  · intro rest same
    exact other.2.1 (List.cons.inj same).1
  · intro rest same
    exact other.2.2 (List.cons.inj same).1

theorem read_atom_int (n : Int) {rest : Text} (ends : Ends rest) : read_atom (decimal n ++ rest) = some (.int n, rest) := by
  obtain ⟨c, t, split, sign⟩ := decimal_cons n
  have other (first : Char) (word : Text) (letter : first ≠ '-' ∧ first.isDigit = false) :
      ¬ first :: word <+: decimal n ++ rest := by
    rw [split]
    intro begins
    have same := (List.cons_prefix_cons.mp begins).1
    subst same
    rcases sign with rfl | digit
    · exact letter.1 rfl
    · rw [letter.2] at digit
      cases digit
  have null : ¬ "null".toList <+: decimal n ++ rest := other 'n' "ull".toList (by decide)
  have yes : ¬ "true".toList <+: decimal n ++ rest := other 't' "rue".toList (by decide)
  have no : ¬ "false".toList <+: decimal n ++ rest := other 'f' "alse".toList (by decide)
  rw [read_atom, if_neg null, if_neg yes, if_neg no, read_int_decimal n ends]
  rfl

theorem read_array {c : Char} {fuel : Nat} {t rest : Text} {items : List Value} (visible : blank c = false) (other : c ≠ ']')
    (read : read_items fuel (c :: t) = some (items, rest)) : read_value (fuel + 1) ('[' :: c :: t) = some (.arr items, rest) := by
  rw [read_value, skip_visible visible]
  split
  · next closed =>
    exact absurd (List.cons.inj closed).1 other
  · rw [read]
    rfl

theorem read_object {fuel : Nat} {t rest : Text} {fields : List (Text × Value)}
    (read : read_fields fuel ('\x22' :: t) = some (fields, rest)) :
    read_value (fuel + 1) ('{' :: '\x22' :: t) = some (.obj fields, rest) := by
  rw [read_value, skip_visible (by decide)]
  split
  · next closed =>
    exact absurd (List.cons.inj closed).1 (by decide)
  · rw [read]
    rfl

theorem read_last {fuel : Nat} {t rest : Text} {v : Value} (read : read_value fuel t = some (v, ']' :: rest)) :
    read_items (fuel + 1) t = some ([v], rest) := by
  have closed : skip (']' :: rest) = ']' :: rest := skip_visible (by decide) rest
  rw [read_items, read]
  simp only [Option.bind_eq_bind, Option.bind_some, closed]
  rfl

theorem read_more {fuel : Nat} {t more rest : Text} {v : Value} {items : List Value}
    (read : read_value fuel t = some (v, ',' :: more)) (later : read_items fuel (skip more) = some (items, rest)) :
    read_items (fuel + 1) t = some (v :: items, rest) := by
  have apart : skip (',' :: more) = ',' :: more := skip_visible (by decide) more
  rw [read_items, read]
  simp only [Option.bind_eq_bind, Option.bind_some, apart, later]
  rfl

theorem read_last_field {fuel : Nat} {key t rest : Text} {v : Value} (read : read_value fuel (skip t) = some (v, '}' :: rest)) :
    read_fields (fuel + 1) (quoted key ++ ':' :: t) = some ([(key, v)], rest) := by
  have closed : skip ('}' :: rest) = '}' :: rest := skip_visible (by decide) rest
  have colon : skip (':' :: t) = ':' :: t := skip_visible (by decide) t
  rw [quoted, List.cons_append, List.append_assoc, List.singleton_append, read_fields]
  simp only [read_string_quoted, Option.bind_eq_bind, Option.bind_some, colon, read, closed]
  rfl

theorem read_more_fields {fuel : Nat} {key t more rest : Text} {v : Value} {fields : List (Text × Value)}
    (read : read_value fuel (skip t) = some (v, ',' :: more)) (later : read_fields fuel (skip more) = some (fields, rest)) :
    read_fields (fuel + 1) (quoted key ++ ':' :: t) = some ((key, v) :: fields, rest) := by
  have apart : skip (',' :: more) = ',' :: more := skip_visible (by decide) more
  have colon : skip (':' :: t) = ':' :: t := skip_visible (by decide) t
  rw [quoted, List.cons_append, List.append_assoc, List.singleton_append, read_fields]
  simp only [read_string_quoted, Option.bind_eq_bind, Option.bind_some, colon, read, apart, later]
  rfl

mutual

theorem read_value_dumps : ∀ (v : Value) {fuel : Nat} {rest : Text}, cost v ≤ fuel → Ends rest →
    read_value fuel (dumps v ++ rest) = some (v, rest)
  | v, 0, _, short, _ => by
    cases v <;> simp [cost] at short
  | .null, fuel + 1, rest, _, _ => read_value_atom fuel _ (by decide)
  | .bool true, fuel + 1, rest, _, _ => read_value_atom fuel _ (by decide)
  | .bool false, fuel + 1, rest, _, _ => read_value_atom fuel _ (by decide)
  | .int n, fuel + 1, rest, _, ends => by
    obtain ⟨c, t, split, sign⟩ := decimal_cons n
    have other (d : Char) (apart : d ≠ '-' ∧ d.isDigit = false) : c ≠ d := by
      rintro rfl
      rcases sign with rfl | digit
      · exact apart.1 rfl
      · rw [apart.2] at digit
        cases digit
    rw [dumps, ← read_atom_int n ends, split, List.cons_append]
    exact read_value_atom fuel _ ⟨other _ (by decide), other _ (by decide), other _ (by decide)⟩
  | .str t, fuel + 1, rest, _, _ => by
    rw [dumps, quoted, List.cons_append, List.append_assoc, read_value]
    simp only [List.singleton_append, read_string_quoted]
    rfl
  | .arr [], fuel + 1, rest, _, _ => by
    have closed : skip (']' :: rest) = ']' :: rest := skip_visible (by decide) rest
    simp only [dumps, dump_items, join, List.nil_append, List.cons_append]
    rw [read_value, closed]
    rfl
  | .arr (v :: items), fuel + 1, rest, enough, _ => by
    have read := @read_items_dumps (v :: items) (List.cons_ne_nil _ _) fuel rest (by simpa [cost] using enough)
    obtain ⟨c, t, split, visible, other⟩ := dumps_cons v
    obtain ⟨more, joined⟩ := join_cons (dumps v) (dump_items items)
    rw [dump_items, joined, split] at read
    rw [dumps, List.cons_append, List.append_assoc, List.singleton_append, dump_items, joined, split]
    exact read_array visible other read
  | .obj [], fuel + 1, rest, _, _ => by
    have closed : skip ('}' :: rest) = '}' :: rest := skip_visible (by decide) rest
    simp only [dumps, dump_fields, join, List.nil_append, List.cons_append]
    rw [read_value, closed]
    rfl
  | .obj ((key, v) :: fields), fuel + 1, rest, enough, _ => by
    have read := @read_fields_dumps ((key, v) :: fields) (List.cons_ne_nil _ _) fuel rest (by simpa [cost] using enough)
    obtain ⟨more, joined⟩ := join_cons (quoted key ++ ": ".toList ++ dumps v) (dump_fields fields)
    rw [dump_fields, joined, quoted] at read
    rw [dumps, List.cons_append, List.append_assoc, List.singleton_append, dump_fields, joined, quoted]
    exact read_object read

theorem read_items_dumps : ∀ (items : List Value), items ≠ [] → ∀ {fuel : Nat} {rest : Text}, cost_items items ≤ fuel →
    read_items fuel (join ", ".toList (dump_items items) ++ ']' :: rest) = some (items, rest)
  | [], nonempty, _, _, _ => absurd rfl nonempty
  | v :: items, _, 0, rest, enough => by simp [cost_items] at enough
  | [v], _, fuel + 1, rest, enough =>
    read_last (read_value_dumps v (by simpa [cost_items] using enough) (ends_of_head (by decide) rest))
  | v :: w :: items, _, fuel + 1, rest, enough => by
    rw [cost_items] at enough
    have first := @read_value_dumps v fuel (',' :: ' ' :: (join ", ".toList (dump_items (w :: items)) ++ ']' :: rest))
      (by omega) (ends_of_head (by decide) _)
    have later := @read_items_dumps (w :: items) (List.cons_ne_nil _ _) fuel rest (by omega)
    obtain ⟨more, joined⟩ := join_cons (dumps w) (dump_items items)
    have spaced := (skip_dumps w (more ++ ']' :: rest)).2
    rw [← List.append_assoc, ← joined, ← dump_items] at spaced
    rw [← spaced] at later
    have read := read_more first later
    rw [dump_items, dump_items, join_more, ← dump_items, List.append_assoc]
    exact read

theorem read_fields_dumps : ∀ (fields : List (Text × Value)), fields ≠ [] → ∀ {fuel : Nat} {rest : Text},
    cost_fields fields ≤ fuel →
    read_fields fuel (join ", ".toList (dump_fields fields) ++ '}' :: rest) = some (fields, rest)
  | [], nonempty, _, _, _ => absurd rfl nonempty
  | (key, v) :: fields, _, 0, rest, enough => by simp [cost_fields] at enough
  | [(key, v)], _, fuel + 1, rest, enough => by
    have read := @read_value_dumps v fuel ('}' :: rest) (by simpa [cost_fields] using enough) (ends_of_head (by decide) rest)
    rw [← (skip_dumps v ('}' :: rest)).2] at read
    have closed := @read_last_field fuel key _ rest v read
    simp only [dump_fields, join, List.append_assoc]
    exact closed
  | (key, v) :: (key', w) :: fields, _, fuel + 1, rest, enough => by
    rw [cost_fields] at enough
    have first := @read_value_dumps v fuel (',' :: ' ' :: (join ", ".toList (dump_fields ((key', w) :: fields)) ++ '}' :: rest))
      (by omega) (ends_of_head (by decide) _)
    have later := @read_fields_dumps ((key', w) :: fields) (List.cons_ne_nil _ _) fuel rest (by omega)
    obtain ⟨more, joined⟩ := join_cons (quoted key' ++ ": ".toList ++ dumps w) (dump_fields fields)
    have spaced : skip (' ' :: (join ", ".toList (dump_fields ((key', w) :: fields)) ++ '}' :: rest)) =
        join ", ".toList (dump_fields ((key', w) :: fields)) ++ '}' :: rest := by
      rw [dump_fields, joined, quoted]
      exact skip_space (by decide) _
    rw [← (skip_dumps v _).2] at first
    rw [← spaced] at later
    have read := @read_more_fields fuel key _ _ rest v _ first later
    rw [dump_fields, dump_fields, join_more, ← dump_fields, List.append_assoc, List.append_assoc, List.append_assoc]
    exact read

end

/-- What is printed is read back. -/
theorem loads_dumps (v : Value) : loads (dumps v) = some v := by
  have read := @read_value_dumps v ((dumps v).length + 1) [] (Nat.le_succ_of_le (cost_le v)) (fun c none => by cases none)
  have skipped := (skip_dumps v []).1
  rw [List.append_nil] at read skipped
  simp only [loads, skipped, read]
  rfl

/-! ## What is printed -/

/-- Printable ASCII. -/
def Printable (c : Char) : Prop := 0x20 ≤ c.toNat ∧ c.toNat < 0x7F

instance (c : Char) : Decidable (Printable c) := inferInstanceAs (Decidable (_ ∧ _))

theorem printable_escape (c : Char) : ∀ d ∈ escape c, Printable d := by
  have unit (n : Nat) : ∀ d ∈ escape_unit n, Printable d := by
    have digit : ∀ n : Nat, n < 16 → Printable (Nat.digitChar n) := by decide
    have low (n : Nat) : Printable (Nat.digitChar (n % 16)) := digit _ (Nat.mod_lt _ (by decide))
    simp only [escape_unit, List.forall_mem_cons]
    exact ⟨by decide, by decide, low _, low _, low _, low _, by simp⟩
  have form := escape_written c
  generalize escape c = t, written c = pieces at form ⊢
  cases form with
  | short letter _ _ printable => simpa using ⟨by decide, printable⟩
  | plain _ _ printable => exact fun d inside => List.mem_singleton.mp inside ▸ printable
  | unit _ => exact unit _
  | pair n m _ _ _ =>
    intro d inside
    exact (List.mem_append.mp inside).elim (unit n d) (unit m d)

theorem printable_join {words : List Text} (all : ∀ word ∈ words, ∀ c ∈ word, Printable c) :
    ∀ c ∈ join ", ".toList words, Printable c := by
  intro c inside
  rcases mem_join inside with here | ⟨word, member, here⟩
  · have separator : ∀ c ∈ ", ".toList, Printable c := by simp [Printable]
    exact separator c here
  · exact all word member c here

theorem printable_decimal (n : Int) : ∀ c ∈ decimal n, Printable c := by
  intro c inside
  rcases mem_decimal inside with rfl | digit
  · decide
  · have range : '0' ≤ c ∧ c ≤ '9' := by simpa [Char.isDigit, Char.le_def] using digit
    have low : 48 ≤ c.toNat := range.1
    have high : c.toNat ≤ 57 := range.2
    exact ⟨by omega, by omega⟩

theorem printable_enclosed {first last : Char} {t : Text} (outside : Printable first ∧ Printable last)
    (inner : ∀ c ∈ t, Printable c) : ∀ c ∈ first :: (t ++ [last]), Printable c := by
  intro c inside
  rcases List.mem_cons.mp inside with rfl | inside
  · exact outside.1
  · rcases List.mem_append.mp inside with inside | inside
    · exact inner c inside
    · exact List.mem_singleton.mp inside ▸ outside.2

theorem printable_quoted (t : Text) : ∀ c ∈ quoted t, Printable c :=
  printable_enclosed (by decide) (fun c inside => by
    obtain ⟨d, _, here⟩ := List.mem_flatMap.mp inside
    exact printable_escape d c here)

mutual

/-- A printed value is one line of ASCII. -/
theorem printable_dumps : ∀ (v : Value), ∀ c ∈ dumps v, Printable c
  | .null => by simp [dumps, Printable]
  | .bool true => by simp [dumps, Printable]
  | .bool false => by simp [dumps, Printable]
  | .int n => printable_decimal n
  | .str t => printable_quoted t
  | .arr items => printable_enclosed (by decide) (printable_join (printable_items items))
  | .obj fields => printable_enclosed (by decide) (printable_join (printable_fields fields))

theorem printable_items : ∀ (items : List Value), ∀ word ∈ dump_items items, ∀ c ∈ word, Printable c
  | [] => by simp [dump_items]
  | v :: rest => by
    rw [dump_items, List.forall_mem_cons]
    exact ⟨printable_dumps v, printable_items rest⟩

theorem printable_fields : ∀ (fields : List (Text × Value)), ∀ word ∈ dump_fields fields, ∀ c ∈ word, Printable c
  | [] => by simp [dump_fields]
  | (key, v) :: rest => by
    rw [dump_fields, List.forall_mem_cons]
    refine ⟨?_, printable_fields rest⟩
    have colon : ∀ c ∈ ": ".toList, Printable c := by simp [Printable]
    simp only [List.forall_mem_append]
    exact ⟨⟨printable_quoted key, colon⟩, printable_dumps v⟩

end

end Aircd.Json

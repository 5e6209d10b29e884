import Aircd.Lines
import Mathlib.Data.List.DropRight
import Mathlib.Data.List.Infix

/-!
# Text

Strings as lists of Unicode scalar values, with the operations of the two
languages that the programs are written in. Rust trims and splits at the
White_Space property, Python at `str.isspace`, which has four more characters.
Numbers are printed in decimal and read back by both. Strings of Python with a
surrogate that stands alone are no texts: they are in `Aircd.Strings`, and where a
string of a Python program is a text here, it has none.
-/
namespace Aircd

/-- A string of Rust, or a string of Python in which no surrogate stands alone. -/
abbrev Text := List Char

instance : LawfulBEq Text := inferInstance

namespace Text

/-- `char::is_whitespace` of Rust: the White_Space property. -/
def rustSpace (c : Char) : Bool :=
  let n := c.toNat
  (9 ≤ n && n ≤ 13) || n == 0x20 || n == 0x85 || n == 0xA0 || n == 0x1680 || (0x2000 ≤ n && n ≤ 0x200A) ||
    n == 0x2028 || n == 0x2029 || n == 0x202F || n == 0x205F || n == 0x3000

/-- `str.isspace` of Python, which is also what `\s` matches and what `split` splits at. -/
def pythonSpace (c : Char) : Bool := rustSpace c || (0x1C ≤ c.toNat && c.toNat ≤ 0x1F)

/-- `str::trim`. -/
def trim (t : Text) : Text := (t.dropWhile rustSpace).rdropWhile rustSpace

/-- The maximal runs of other characters between the separators. -/
def words (separator : Char → Bool) (t : Text) : List Text :=
  (t.splitOnP separator).filter (fun word => !word.isEmpty)

/-- `str::split_whitespace`. -/
def splitWhitespace (t : Text) : List Text := words rustSpace t

/-- `str::split_once`, at the first occurrence of a nonempty separator. -/
def splitOnce (separator : Text) : Text → Option (Text × Text)
  | [] => none
  | c :: rest =>
    if separator.isPrefixOf (c :: rest) then some ([], (c :: rest).drop separator.length)
    else (splitOnce separator rest).map (fun (before, after) => (c :: before, after))

/-- `slice::join`. -/
def join (separator : Text) : List Text → Text
  | [] => []
  | [word] => word
  | word :: rest => word ++ separator ++ join separator rest

def asciiUpper (c : Char) : Char := if 'a' ≤ c ∧ c ≤ 'z' then Char.ofNat (c.toNat - 32) else c

/-- `str::to_ascii_uppercase`. -/
def toAsciiUppercase (t : Text) : Text := t.map asciiUpper

def digit (c : Char) : Option Int := if '0' ≤ c ∧ c ≤ '9' then some (c.toNat - 48 : Nat) else none

/-- The value of a hex digit. -/
def hexValue (c : Char) : Option Nat :=
  if '0' ≤ c ∧ c ≤ '9' then some (c.toNat - 48)
  else if 'a' ≤ c ∧ c ≤ 'f' then some (c.toNat - 87)
  else if 'A' ≤ c ∧ c ≤ 'F' then some (c.toNat - 55)
  else none

/-- Decimal digits, at least one. -/
def digits : Text → Option Int
  | [] => none
  | ds => ds.foldl (fun total c => do return (← total) * 10 + (← digit c)) (some 0)

def i64Min : Int := -9223372036854775808
def i64Max : Int := 9223372036854775807

/-- `str::parse::<i64>`: an optional sign, digits, and a value in range. -/
def parseI64 (t : Text) : Option Int := do
  let value ← match t with
    | '-' :: ds => (digits ds).map (fun n => -n)
    | '+' :: ds => digits ds
    | ds => digits ds
  if i64Min ≤ value ∧ value ≤ i64Max then some value else none

theorem parseI64_bounds {t : Text} {n : Int} (parses : parseI64 t = some n) : i64Min ≤ n ∧ n ≤ i64Max := by
  have inRange {value : Option Int} (parses : (value.bind fun value =>
      if i64Min ≤ value ∧ value ≤ i64Max then some value else none) = some n) : i64Min ≤ n ∧ n ≤ i64Max := by
    obtain ⟨number, _, checked⟩ := Option.bind_eq_some_iff.mp parses
    split at checked
    · next bounds =>
      obtain rfl := Option.some.inj checked
      exact bounds
    · cases checked
  unfold parseI64 at parses
  dsimp only at parses
  split at parses
  · exact inRange parses
  · exact inRange parses
  · exact inRange parses

/-- Addition of `i64` values in a release build: modulo 2^64. -/
def wrapI64 (n : Int) : Int := (n - i64Min) % 18446744073709551616 + i64Min

/-- Digits with single underscores between them. -/
def underscored (t : Text) : Option Int :=
  if t.head? = some '_' ∨ t.getLast? = some '_' ∨ ['_', '_'] <:+: t then none else digits (t.filter (fun c => c != '_'))

/-- `int` of Python. The whitespace that it leaves out at both ends is that of `trim`, without
    the four separators of `isspace`; the digits of other scripts, which it reads too, are left out here. -/
def pythonInt (t : Text) : Option Int :=
  match trim t with
  | '-' :: ds => (underscored ds).map (fun n => -n)
  | '+' :: ds => underscored ds
  | ds => underscored ds

/-- A number as both languages print it. -/
def decimal (n : Int) : Text := (toString n).toList

/-! ## Decimals -/

theorem decimal_cases (n : Int) : (0 ≤ n ∧ decimal n = Nat.toDigits 10 n.toNat) ∨
    (n < 0 ∧ decimal n = '-' :: Nat.toDigits 10 (-n).toNat) := by
  have printed : decimal n = n.repr.toList := rfl
  rw [printed, Int.repr_eq_if]
  split
  · left
    refine ⟨by omega, ?_⟩
    simp
  · right
    refine ⟨by omega, ?_⟩
    simp

private theorem digit_of_isDigit {c : Char} (here : c.isDigit = true) : digit c = some ((c.toNat - '0'.toNat : Nat) : Int) := by
  have range : '0' ≤ c ∧ c ≤ '9' := by simpa [Char.isDigit, Char.le_def] using here
  exact if_pos range

theorem digits_toDigits (n : Nat) : digits (Nat.toDigits 10 n) = some (n : Int) := by
  have fold (ds : Text) (start : Nat) (all : ∀ c ∈ ds, c.isDigit = true) :
      ds.foldl (fun total c => do return (← total) * 10 + (← digit c)) (some (start : Int)) =
        some ((Nat.ofDigitChars 10 ds start : Nat) : Int) := by
    induction ds generalizing start with
    | nil => rfl
    | cons c rest ih =>
      obtain ⟨here, later⟩ := List.forall_mem_cons.mp all
      have next : (do return (← some (start : Int)) * 10 + (← digit c) : Option Int) =
          some (((10 * start + (c.toNat - '0'.toNat) : Nat)) : Int) := by
        rw [digit_of_isDigit here]
        simp
        omega
      rw [List.foldl_cons, next, ih _ later, Nat.ofDigitChars_cons]
  have all : ∀ c ∈ Nat.toDigits 10 n, c.isDigit = true := fun c inside =>
    Nat.isDigit_of_mem_toDigits (by decide) (by decide) inside
  have read := fold (Nat.toDigits 10 n) 0 all
  rw [Nat.ofDigitChars_ten_toDigits] at read
  unfold digits
  split
  · next empty => exact absurd empty Nat.toDigits_ne_nil
  · exact read

/-- What a decimal is made of. -/
theorem mem_decimal {n : Int} {c : Char} (inside : c ∈ decimal n) : c = '-' ∨ c.isDigit = true := by
  rcases decimal_cases n with ⟨_, printed⟩ | ⟨_, printed⟩
  · rw [printed] at inside
    exact .inr (Nat.isDigit_of_mem_toDigits (by decide) (by decide) inside)
  · rw [printed] at inside
    rcases List.mem_cons.mp inside with rfl | digit
    · exact .inl rfl
    · exact .inr (Nat.isDigit_of_mem_toDigits (by decide) (by decide) digit)

theorem printable_of_mem_decimal {n : Int} {c : Char} (inside : c ∈ decimal n) :
    pythonSpace c = false ∧ c ≠ ';' ∧ c ≠ '\\' ∧ c ≠ '\r' ∧ c ≠ '\n' := by
  rcases mem_decimal inside with rfl | here
  · decide
  · have range : 48 ≤ c.toNat ∧ c.toNat ≤ 57 := by
      have bounds : '0' ≤ c ∧ c ≤ '9' := by simpa [Char.isDigit, Char.le_def] using here
      exact ⟨bounds.1, bounds.2⟩
    have apart (other : Char) (outside : other.toNat < 48 ∨ 57 < other.toNat) : c ≠ other := by
      rintro rfl
      omega
    refine ⟨?_, apart _ (by decide), apart _ (by decide), apart _ (by decide), apart _ (by decide)⟩
    simp only [pythonSpace, rustSpace, Bool.or_eq_false_iff, Bool.and_eq_false_iff, decide_eq_false_iff_not, beq_eq_false_iff_ne]
    omega

theorem underscored_toDigits (n : Nat) : underscored (Nat.toDigits 10 n) = some (n : Int) := by
  have clean : '_' ∉ Nat.toDigits 10 n := Nat.underscore_not_in_toDigits
  have same : (Nat.toDigits 10 n).filter (fun c => c != '_') = Nat.toDigits 10 n := by
    rw [List.filter_eq_self]
    intro c inside
    have other : c ≠ '_' := by
      rintro rfl
      exact clean inside
    simpa using other
  rw [underscored, if_neg, same, digits_toDigits]
  rintro (first | last | double)
  · exact clean (List.mem_of_head? first)
  · exact clean (List.mem_of_getLast? last)
  · exact clean (double.subset (by simp))

theorem trim_clean {t : Text} (clean : ∀ c ∈ t, rustSpace c = false) : trim t = t := by
  have left : t.dropWhile rustSpace = t := by
    rw [List.dropWhile_eq_self_iff]
    intro some
    simp [clean _ (List.getElem_mem some)]
  rw [trim, left, List.rdropWhile_eq_self_iff]
  intro some
  simp [clean _ (List.getLast_mem some)]

@[simp] theorem pythonInt_decimal (n : Int) : pythonInt (decimal n) = some n := by
  have visible : ∀ c ∈ decimal n, rustSpace c = false := by
    intro c inside
    have shown := (printable_of_mem_decimal inside).1
    rw [pythonSpace, Bool.or_eq_false_iff] at shown
    exact shown.1
  rw [pythonInt, trim_clean visible]
  rcases decimal_cases n with ⟨positive, printed⟩ | ⟨negative, printed⟩
  · rw [printed]
    have number := underscored_toDigits n.toNat
    rw [Int.toNat_of_nonneg positive] at number
    have all : ∀ c ∈ Nat.toDigits 10 n.toNat, c.isDigit = true := fun c inside =>
      Nat.isDigit_of_mem_toDigits (by decide) (by decide) inside
    split
    · next ds split =>
      have sign := all '-' (by rw [split]; exact List.mem_cons_self)
      cases sign
    · next ds split =>
      have sign := all '+' (by rw [split]; exact List.mem_cons_self)
      cases sign
    · exact number
  · rw [printed]
    have number := underscored_toDigits (-n).toNat
    rw [Int.toNat_of_nonneg (by omega)] at number
    simp [number]

/-! ## Trimming -/

/-- Trimming at the right stays right of a character that is kept. -/
theorem rdropWhile_append {p : Char → Bool} {before after : Text} {last : Char} (ends : before.getLast? = some last)
    (kept : p last = false) : (before ++ after).rdropWhile p = before ++ after.rdropWhile p := by
  obtain ⟨start, rfl⟩ := List.getLast?_eq_some_iff.mp ends
  rw [List.rdropWhile, List.rdropWhile, List.reverse_append, List.dropWhile_append]
  split
  · next none =>
    rw [List.isEmpty_iff] at none
    rw [none]
    simp [kept]
  · simp

/-- Trimming at the right stays in a text that is not all trimmed. -/
theorem rdropWhile_append_kept {p : Char → Bool} (before : Text) {after : Text} {c : Char} (inside : c ∈ after)
    (kept : p c = false) : (before ++ after).rdropWhile p = before ++ after.rdropWhile p := by
  have some : after.reverse.dropWhile p ≠ [] := by
    intro none
    have all := List.dropWhile_eq_nil_iff.mp none c (List.mem_reverse.mpr inside)
    rw [kept] at all
    cases all
  rw [List.rdropWhile, List.rdropWhile, List.reverse_append, List.dropWhile_append,
    if_neg (by rwa [List.isEmpty_iff]), List.reverse_append, List.reverse_reverse]

/-- A trimmed text begins with no blank. -/
theorem head_trim {t : Text} {c : Char} (some : (trim t).head? = some c) : rustSpace c = false := by
  obtain ⟨more, trimmed⟩ := List.head?_eq_some_iff.mp some
  obtain ⟨tail, whole⟩ : trim t <+: t.dropWhile rustSpace := List.rdropWhile_prefix _ _
  have first := List.head?_dropWhile_not rustSpace t
  rw [← whole, trimmed] at first
  simpa using first

theorem rdropWhile_trim (t : Text) : (trim t).rdropWhile rustSpace = trim t := List.rdropWhile_idempotent _ _

@[simp] theorem trim_trim (t : Text) : trim (trim t) = trim t := by
  cases trimmed : trim t with
  | nil => rfl
  | cons c rest =>
    have visible : rustSpace c = false := head_trim (by rw [trimmed]; rfl)
    rw [trim, List.dropWhile_cons_of_neg (by simp [visible]), ← trimmed, rdropWhile_trim]

/-- What is trimmed behind a text that begins with no blank keeps its own blanks. -/
theorem trim_behind {before after : Text} {first c : Char} (starts : before.head? = some first)
    (open' : rustSpace first = false) (some : (trim after).head? = some c) :
    trim (before ++ after) = before ++ (after.takeWhile rustSpace ++ trim after) := by
  obtain ⟨rest, rfl⟩ := List.head?_eq_some_iff.mp starts
  have parts : after.takeWhile rustSpace ++ after.dropWhile rustSpace = after := List.takeWhile_append_dropWhile
  have inside : c ∈ after.dropWhile rustSpace := (List.rdropWhile_prefix _ _).subset (List.mem_of_mem_head? some)
  rw [trim, List.cons_append, List.dropWhile_cons_of_neg (by simp [open']), ← List.cons_append]
  conv_lhs => rw [← parts]
  rw [← List.append_assoc, rdropWhile_append_kept _ inside (head_trim some), List.append_assoc]
  rfl

theorem trim_append {before after : Text} {first last : Char} (starts : before.head? = some first)
    (ends : before.getLast? = some last) (open' : rustSpace first = false) (close : rustSpace last = false) :
    trim (before ++ after) = before ++ after.rdropWhile rustSpace := by
  obtain ⟨rest, rfl⟩ := List.head?_eq_some_iff.mp starts
  rw [trim, List.cons_append, List.dropWhile_cons_of_neg (by simp [open']), ← List.cons_append,
    rdropWhile_append ends close]

/-! ## Splitting -/

theorem splitOnce_none_iff {separator t : Text} (some : separator ≠ []) :
    splitOnce separator t = none ↔ ¬ separator <:+: t := by
  induction t with
  | nil => simp [splitOnce, some]
  | cons c rest ih =>
    rw [splitOnce]
    split
    · next here =>
      simp only [reduceCtorEq, false_iff, not_not]
      exact (List.isPrefixOf_iff_prefix.mp here).isInfix
    · next elsewhere =>
      rw [Option.map_eq_none_iff, ih, List.infix_cons_iff, not_or]
      rw [List.isPrefixOf_iff_prefix] at elsewhere
      exact ⟨fun later => ⟨elsewhere, later⟩, And.right⟩

theorem splitOnce_here {separator : Text} (some : separator ≠ []) (after : Text) :
    splitOnce separator (separator ++ after) = Option.some ([], after) := by
  have here : separator.isPrefixOf (separator ++ after) = true := List.isPrefixOf_iff_prefix.mpr ⟨after, rfl⟩
  cases separator with
  | nil => exact absurd rfl some
  | cons c rest => rw [List.cons_append, splitOnce, ← List.cons_append, if_pos here, List.drop_left]

/-- Splitting goes on behind a text where no separator begins. -/
theorem splitOnce_behind {separator before rest : Text}
    (none : ∀ start tail, before = start ++ tail → tail ≠ [] → ¬ separator <+: tail ++ rest) :
    splitOnce separator (before ++ rest) = (splitOnce separator rest).map (fun (first, second) => (before ++ first, second)) := by
  induction before with
  | nil => simp
  | cons c before ih =>
    have elsewhere : ¬ separator.isPrefixOf (c :: (before ++ rest)) = true := by
      rw [List.isPrefixOf_iff_prefix]
      exact none [] (c :: before) rfl (by simp)
    have later := ih (fun start tail split some => none (c :: start) tail (by rw [split, List.cons_append]) some)
    rw [List.cons_append, splitOnce, if_neg elsewhere, later, Option.map_map]
    rfl

/-- Before its first `c` a text has no separator that begins with one. -/
theorem splitOnce_skip {c : Char} {separator before : Text} (clean : c ∉ before) (rest : Text) :
    splitOnce (c :: separator) (before ++ rest) =
      (splitOnce (c :: separator) rest).map (fun (first, second) => (before ++ first, second)) := by
  refine splitOnce_behind ?_
  rintro start tail rfl some begins
  obtain ⟨first, tail, rfl⟩ := List.exists_cons_of_ne_nil some
  rw [List.cons_append, List.cons_prefix_cons] at begins
  exact clean (by simp [begins.1])

theorem splitOnce_char {c : Char} {before after : Text} (none : c ∉ before) :
    splitOnce [c] (before ++ c :: after) = some (before, after) := by
  have here : splitOnce [c] (c :: after) = some ([], after) := splitOnce_here (List.cons_ne_nil c []) after
  rw [splitOnce_skip none, here]
  simp

/-- A text with no trailing parameter, before one that does not begin with the colon of one. -/
theorem splitOnce_colon_behind {before rest : Text} (none : ¬ [' ', ':'] <:+: before) (apart : rest.head? ≠ some ':') :
    splitOnce [' ', ':'] (before ++ rest) =
      (splitOnce [' ', ':'] rest).map (fun (first, second) => (before ++ first, second)) := by
  refine splitOnce_behind ?_
  rintro start tail rfl some begins
  obtain ⟨first, tail, rfl⟩ := List.exists_cons_of_ne_nil some
  rw [List.cons_append, List.cons_prefix_cons] at begins
  obtain ⟨rfl, next⟩ := begins
  cases tail with
  | nil =>
    obtain ⟨after, whole⟩ := next
    rw [List.nil_append] at whole
    exact apart (by rw [← whole]; rfl)
  | cons second tail =>
    rw [List.cons_append, List.cons_prefix_cons] at next
    exact none ⟨start, tail, by simp [← next.1]⟩

theorem splitOnce_colon {before after : Text} (none : ¬ [' ', ':'] <:+: before) :
    splitOnce [' ', ':'] (before ++ ' ' :: ':' :: after) = some (before, after) := by
  have here : splitOnce [' ', ':'] (' ' :: ':' :: after) = some ([], after) := splitOnce_here (List.cons_ne_nil ' ' [':']) after
  rw [splitOnce_colon_behind none (by simp), here]
  simp

/-- Parts without the separator are what splitting finds in them joined. -/
theorem splitOn_join {c : Char} : ∀ {parts : List Text}, parts ≠ [] → (∀ part ∈ parts, c ∉ part) → (join [c] parts).splitOn c = parts
  | [], nonempty, _ => absurd rfl nonempty
  | [part], _, clean => List.splitOn_eq_singleton (clean part (by simp))
  | part :: next :: rest, _, clean => by
    have first : c ∉ part := clean part (by simp)
    have later := @splitOn_join c (next :: rest) (by simp) (fun other inside => clean other (by simp [inside]))
    rw [join, List.append_assoc, List.singleton_append, List.splitOn_append_cons_self_of_not_mem first, later]
    simp

theorem mem_join {c : Char} {separator : Text} : ∀ {parts : List Text}, c ∈ join separator parts →
    c ∈ separator ∨ ∃ part ∈ parts, c ∈ part
  | [], inside => by cases inside
  | [part], inside => .inr ⟨part, by simp, inside⟩
  | part :: next :: rest, inside => by
    rw [join.eq_3 _ _ _ (by simp), List.mem_append, List.mem_append] at inside
    rcases inside with (here | between) | later
    · exact .inr ⟨part, by simp, here⟩
    · exact .inl between
    · rcases mem_join later with between | ⟨other, listed, here⟩
      · exact .inl between
      · exact .inr ⟨other, by simp [listed], here⟩

theorem clean_of_any {separator : Char → Bool} {word : Text} (none : word.any separator = false) :
    ∀ c ∈ word, separator c = false := by
  simpa using none

theorem words_append {separator : Char → Bool} {word rest : Text} {c : Char} (some : word ≠ [])
    (clean : ∀ c ∈ word, separator c = false) (here : separator c = true) :
    words separator (word ++ c :: rest) = word :: words separator rest := by
  rw [words, List.splitOnP_append_cons_of_forall_mem clean c here, List.filter_cons_of_pos (by simpa using some), words]

theorem words_single {separator : Char → Bool} {word : Text} (some : word ≠ []) (clean : ∀ c ∈ word, separator c = false) :
    words separator word = [word] := by
  rw [words, List.splitOnP_eq_singleton clean]
  simpa using some

@[simp] theorem words_nil (separator : Char → Bool) : words separator [] = [] := by simp [words]

theorem words_cons {separator : Char → Bool} {rest : Text} {c : Char} (here : separator c = true) :
    words separator (c :: rest) = words separator rest := by
  rw [words, ← List.nil_append (c :: rest), List.splitOnP_append_cons_of_forall_mem (by simp) c here]
  simp [words]

/-- Blanks before a text are before no word. -/
theorem words_blanks {separator : Char → Bool} {blanks : Text} (all : ∀ c ∈ blanks, separator c = true) (t : Text) :
    words separator (blanks ++ t) = words separator t := by
  induction blanks with
  | nil => rfl
  | cons c rest ih =>
    obtain ⟨here, later⟩ := List.forall_mem_cons.mp all
    rw [List.cons_append, words_cons here, ih later]

theorem words_join {separator : Char → Bool} {c : Char} (here : separator c = true) : ∀ {parts : List Text},
    (∀ word ∈ parts, word ≠ [] ∧ ∀ c ∈ word, separator c = false) → words separator (join [c] parts) = parts
  | [], _ => words_nil separator
  | [word], clean => words_single (clean word (by simp)).1 (clean word (by simp)).2
  | word :: next :: rest, clean => by
    have first := clean word (by simp)
    have later := @words_join separator c here (next :: rest) (fun other inside => clean other (by simp [inside]))
    rw [join.eq_3 _ _ _ (by simp), List.append_assoc, List.singleton_append, words_append first.1 first.2 here, later]

/-- A word has no separator in it. -/
theorem mem_words {separator : Char → Bool} {t word : Text} (inside : word ∈ words separator t) :
    word ≠ [] ∧ ∀ c ∈ word, separator c = false ∧ c ∈ t := by
  obtain ⟨part, some⟩ := List.mem_filter.mp inside
  exact ⟨by simpa using some, Lines.mem_splitOnP part⟩

end Text
end Aircd

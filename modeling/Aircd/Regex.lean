import Mathlib.Data.List.TakeDrop
import Mathlib.Data.List.TakeWhile

/-!
# Patterns with groups

Regular expressions that are a sequence of words, alternatives of words, and
repeated classes, some of them groups, with the backtracking semantics of a
regular expression engine: a repetition tries its lengths from the longest down,
or from the shortest up, and the first way that lets the rest match is taken.
`Matches` says the same without the order of preference.
-/
namespace Aircd.Regex
universe u v w
variable {α : Type u}

inductive Piece (α : Type u) where
  | word (letters : List α)
  | among (words : List (List α))
  /-- At least so many of a class, the most of them first if `greedy`. -/
  | repeated (least : Nat) (greedy : Bool) (within : α → Bool)

structure Item (α : Type u) where
  piece : Piece α
  group : Bool

abbrev Pattern (α : Type u) := List (Item α)

/-- A piece outside the groups. -/
def plain (piece : Piece α) : Item α := ⟨piece, false⟩
def group (piece : Piece α) : Item α := ⟨piece, true⟩

/-- One of a class. -/
def Piece.one (within : α → Bool) : Piece α := .repeated 1 true within

namespace Piece

variable [DecidableEq α] in
/-- The ways to match an initial part of a text, in the order in which they are tried. -/
def ways : Piece α → List α → List (List α × List α)
  | .word letters, t => if letters.isPrefixOf t then [(letters, t.drop letters.length)] else []
  | .among words, t => (words.filter (fun letters => letters.isPrefixOf t)).map (fun letters => (letters, t.drop letters.length))
  | .repeated least greedy within, t =>
    let lengths := List.range' least ((t.takeWhile within).length + 1 - least)
    (if greedy then lengths.reverse else lengths).map (fun n => (t.take n, t.drop n))

/-- The texts of a piece. -/
def Accepts : Piece α → List α → Prop
  | .word letters, t => t = letters
  | .among words, t => t ∈ words
  | .repeated least _ within, t => least ≤ t.length ∧ ∀ c ∈ t, within c = true

end Piece

section
variable [DecidableEq α]

/-- The groups of the first way to match an initial part of a text. -/
def matchHere : Pattern α → List α → Option (List (List α))
  | [], _ => some []
  | item :: rest, t => (item.piece.ways t).findSome? (fun way =>
    (matchHere rest way.2).map (fun groups => if item.group then way.1 :: groups else groups))

/-- The groups of the first match anywhere in a text. -/
def search (pattern : Pattern α) : List α → Option (List (List α))
  | [] => matchHere pattern []
  | c :: rest =>
    match matchHere pattern (c :: rest) with
    | some groups => some groups
    | none => search pattern rest

end

/-- The pattern takes the first text, with these groups, and leaves the second one. -/
inductive Matches : Pattern α → List α → List (List α) → List α → Prop where
  | nil (t : List α) : Matches [] t [] t
  | cons {item : Item α} {rest : Pattern α} {taken t left : List α} {groups : List (List α)}
      (accepts : item.piece.Accepts taken) (later : Matches rest t groups left) :
      Matches (item :: rest) (taken ++ t) (if item.group then taken :: groups else groups) left

theorem le_takeWhile_append {within : α → Bool} {taken left : List α} (all : ∀ c ∈ taken, within c = true) :
    taken.length ≤ ((taken ++ left).takeWhile within).length := by
  rw [List.takeWhile_append_of_pos all, List.length_append]
  omega

theorem take_of_le_takeWhile {within : α → Bool} {t : List α} {n : Nat} (short : n ≤ (t.takeWhile within).length) :
    (t.take n).length = n ∧ ∀ c ∈ t.take n, within c = true := by
  have parts : t.takeWhile within ++ t.dropWhile within = t := List.takeWhile_append_dropWhile
  have size : (t.takeWhile within).length ≤ t.length := (List.takeWhile_prefix within).length_le
  refine ⟨by rw [List.length_take]; omega, ?_⟩
  intro c inside
  rw [← parts, List.take_append_of_le_length short] at inside
  exact List.mem_takeWhile_imp (List.mem_of_mem_take inside)

variable [DecidableEq α] {piece : Piece α} {pattern : Pattern α} {t taken left : List α} {groups : List (List α)}

/-- The ways of a piece are the splits of the text after one of its texts. -/
theorem mem_ways : (taken, left) ∈ piece.ways t ↔ piece.Accepts taken ∧ t = taken ++ left := by
  cases piece with
  | word letters =>
    simp only [Piece.ways, Piece.Accepts]
    constructor
    · intro inside
      split at inside
      · next start =>
        obtain ⟨rest, rfl⟩ := List.isPrefixOf_iff_prefix.mp start
        obtain ⟨rfl, rfl⟩ := Prod.mk.inj (List.mem_singleton.mp inside)
        exact ⟨rfl, by rw [List.drop_left]⟩
      · cases inside
    · rintro ⟨rfl, rfl⟩
      rw [if_pos (List.isPrefixOf_iff_prefix.mpr (List.prefix_append _ _)), List.drop_left]
      exact List.mem_singleton_self _
  | among words =>
    simp only [Piece.ways, Piece.Accepts, List.mem_map, List.mem_filter, Prod.mk.injEq]
    constructor
    · rintro ⟨letters, ⟨listed, start⟩, rfl, rfl⟩
      obtain ⟨rest, rfl⟩ := List.isPrefixOf_iff_prefix.mp start
      exact ⟨listed, by rw [List.drop_left]⟩
    · rintro ⟨listed, rfl⟩
      exact ⟨taken, ⟨listed, List.isPrefixOf_iff_prefix.mpr (List.prefix_append _ _)⟩, rfl, by rw [List.drop_left]⟩
  | repeated least greedy within =>
    have lengths (n : Nat) : (n ∈ if greedy then (List.range' least ((t.takeWhile within).length + 1 - least)).reverse
        else List.range' least ((t.takeWhile within).length + 1 - least)) ↔
        least ≤ n ∧ n ≤ (t.takeWhile within).length := by
      have either : (n ∈ if greedy then (List.range' least ((t.takeWhile within).length + 1 - least)).reverse
          else List.range' least ((t.takeWhile within).length + 1 - least)) ↔
          n ∈ List.range' least ((t.takeWhile within).length + 1 - least) := by
        cases greedy with
        | true => simp
        | false => simp
      rw [either, List.mem_range'_1]
      omega
    simp only [Piece.ways, Piece.Accepts, List.mem_map, lengths, Prod.mk.injEq]
    constructor
    · rintro ⟨n, ⟨enough, short⟩, rfl, rfl⟩
      obtain ⟨size, all⟩ := take_of_le_takeWhile short
      exact ⟨⟨by omega, all⟩, (List.take_append_drop n t).symm⟩
    · rintro ⟨⟨enough, all⟩, rfl⟩
      exact ⟨taken.length, ⟨enough, le_takeWhile_append all⟩, List.take_left, List.drop_left⟩

theorem matchHere_sound (found : matchHere pattern t = some groups) : ∃ left, Matches pattern t groups left := by
  induction pattern generalizing t groups with
  | nil =>
    rw [matchHere, Option.some.injEq] at found
    rw [← found]
    exact ⟨t, .nil t⟩
  | cons item rest ih =>
    rw [matchHere, List.findSome?_eq_some_iff] at found
    obtain ⟨_, ⟨taken, t'⟩, _, ways, later, _⟩ := found
    obtain ⟨accepts, rfl⟩ := mem_ways.mp (by rw [ways]; simp : (taken, t') ∈ item.piece.ways t)
    obtain ⟨groups', found', rfl⟩ := Option.map_eq_some_iff.mp later
    obtain ⟨left, matched⟩ := ih found'
    exact ⟨left, .cons accepts matched⟩

/-- A text with a match has a first one. -/
theorem matchHere_complete (matched : Matches pattern t groups left) : ∃ groups', matchHere pattern t = some groups' := by
  induction matched with
  | nil t => exact ⟨[], rfl⟩
  | @cons item rest taken t left groups accepts _ ih =>
    obtain ⟨groups', found⟩ := ih
    rw [← Option.isSome_iff_exists, matchHere, List.findSome?_isSome_iff]
    exact ⟨(taken, t), mem_ways.mpr ⟨accepts, rfl⟩, by simp [found]⟩

/-- The groups of a match are found when every match has the same ones. -/
theorem matchHere_of_only (matched : Matches pattern t groups left)
    (only : ∀ groups' left', Matches pattern t groups' left' → groups' = groups) : matchHere pattern t = some groups := by
  obtain ⟨groups', found⟩ := matchHere_complete matched
  obtain ⟨left', matched'⟩ := matchHere_sound found
  rw [found, only groups' left' matched']

theorem matchHere_none_iff : matchHere pattern t = none ↔ ∀ groups left, ¬ Matches pattern t groups left := by
  constructor
  · intro none groups left matched
    obtain ⟨groups', found⟩ := matchHere_complete matched
    rw [none] at found; cases found
  · intro never
    cases found : matchHere pattern t with
    | none => rfl
    | some groups =>
      obtain ⟨left, matched⟩ := matchHere_sound found
      exact absurd matched (never groups left)

/-- A match that is found starts at the first place where there is one. -/
theorem search_sound (found : search pattern t = some groups) :
    ∃ before here left, t = before ++ here ∧ Matches pattern here groups left ∧
      ∀ start rest, before = start ++ rest → rest ≠ [] → ∀ groups left, ¬ Matches pattern (rest ++ here) groups left := by
  induction t with
  | nil =>
    obtain ⟨left, matched⟩ := matchHere_sound found
    refine ⟨[], [], left, rfl, matched, ?_⟩
    intro start rest split some
    exact absurd (List.append_eq_nil_iff.mp split.symm).2 some
  | cons c rest ih =>
    rw [search] at found
    cases first : matchHere pattern (c :: rest) with
    | some groups' =>
      rw [first] at found
      cases found
      obtain ⟨left, matched⟩ := matchHere_sound first
      refine ⟨[], c :: rest, left, rfl, matched, ?_⟩
      intro start rest split some
      exact absurd (List.append_eq_nil_iff.mp split.symm).2 some
    | none =>
      rw [first] at found
      obtain ⟨before, here, left, rfl, matched, earliest⟩ := ih found
      refine ⟨c :: before, here, left, rfl, matched, ?_⟩
      intro start rest split some
      cases start with
      | nil =>
        rw [List.nil_append] at split
        rw [← split]
        exact matchHere_none_iff.mp first
      | cons c' start =>
        rw [List.cons_append, List.cons.injEq] at split
        exact earliest start rest split.2 some

/-! ## Forced matches -/

/-- Where all others fail, the first way that lets the rest match is the only one. -/
theorem findSome_only {β : Type v} {γ : Type w} {f : β → Option γ} {a : β} : ∀ {l : List β}, a ∈ l →
    (∀ b ∈ l, b ≠ a → f b = none) → l.findSome? f = f a
  | [], inside, _ => by cases inside
  | b :: l, inside, others => by
    have rest (inside : a ∈ l) : l.findSome? f = f a :=
      findSome_only inside (fun b' listed => others b' (List.mem_cons_of_mem b listed))
    by_cases here : b = a
    · subst here
      cases found : f b with
      | some result => rw [List.findSome?_cons_of_isSome (by simp [found]), found]
      | none =>
        rw [List.findSome?_cons_of_isNone (by simp [found])]
        by_cases again : b ∈ l
        · rw [rest again, found]
        · rw [List.findSome?_eq_none_iff]
          intro b' listed
          exact others b' (List.mem_cons_of_mem b listed) (fun same => again (same ▸ listed))
    · have none := others b List.mem_cons_self here
      rw [List.findSome?_cons_of_isNone (by simp [none]), rest (List.mem_of_ne_of_mem (Ne.symm here) inside)]

theorem matchHere_word (letters t : List α) : matchHere (plain (.word letters) :: pattern) (letters ++ t) = matchHere pattern t := by
  have ways : (Piece.word letters).ways (letters ++ t) = [(letters, t)] := by
    simp [Piece.ways]
  rw [matchHere, plain, ways]
  simp

theorem matchHere_word_none {letters : List α} (other : ¬ letters <+: t) : matchHere (plain (.word letters) :: pattern) t = none := by
  have ways : (Piece.word letters).ways t = [] := by
    simp [Piece.ways, List.isPrefixOf_iff_prefix, other]
  rw [matchHere, plain, ways]
  rfl

/-- One length of a repeated class lets the rest match, if any does. -/
theorem matchHere_repeated {least : Nat} {greedy grouped : Bool} {within : α → Bool} {n : Nat} (enough : least ≤ n)
    (short : n ≤ (t.takeWhile within).length)
    (others : ∀ m, least ≤ m → m ≤ (t.takeWhile within).length → m ≠ n → matchHere pattern (t.drop m) = none) :
    matchHere (⟨.repeated least greedy within, grouped⟩ :: pattern) t =
      (matchHere pattern (t.drop n)).map (fun groups => if grouped then t.take n :: groups else groups) := by
  have listed : (t.take n, t.drop n) ∈ (Piece.repeated least greedy within).ways t := by
    obtain ⟨size, all⟩ := take_of_le_takeWhile short
    exact mem_ways.mpr ⟨⟨by omega, all⟩, (List.take_append_drop n t).symm⟩
  rw [matchHere]
  refine findSome_only listed ?_
  rintro ⟨taken, left⟩ way other
  obtain ⟨⟨long, all⟩, rfl⟩ := mem_ways.mp way
  have different : taken.length ≠ n := by
    rintro rfl
    rw [List.take_left, List.drop_left] at other
    exact other rfl
  have none := others taken.length long (le_takeWhile_append all) different
  rw [List.drop_left] at none
  rw [none]
  rfl

theorem matchHere_repeated_none {least : Nat} {greedy grouped : Bool} {within : α → Bool}
    (short : (t.takeWhile within).length < least) : matchHere (⟨.repeated least greedy within, grouped⟩ :: pattern) t = none := by
  rw [matchHere, List.findSome?_eq_none_iff]
  rintro ⟨taken, left⟩ way
  obtain ⟨⟨long, all⟩, rfl⟩ := mem_ways.mp way
  have most : taken.length ≤ ((taken ++ left).takeWhile within).length := le_takeWhile_append all
  omega

/-- A piece outside the groups matches at the end of a pattern without one. -/
theorem matchHere_plain (accepts : piece.Accepts taken) (left : List α) : matchHere [plain piece] (taken ++ left) = some [] := by
  have none {t left : List α} {groups : List (List α)} (matched : Matches [plain piece] t groups left) : groups = [] := by
    cases matched with
    | cons _ later =>
      cases later
      rfl
  have matched : Matches [plain piece] (taken ++ left) [] left := @Matches.cons _ (plain piece) _ taken left left [] accepts (.nil _)
  exact matchHere_of_only matched (fun _ _ other => none other)

/-- A greedy class at the end of a pattern takes all it can. -/
theorem matchHere_most {least : Nat} {within : α → Bool} (enough : least ≤ (t.takeWhile within).length) :
    matchHere [group (.repeated least true within)] t = some [t.takeWhile within] := by
  have longest : t.take (t.takeWhile within).length = t.takeWhile within :=
    (List.prefix_iff_eq_take.mp (List.takeWhile_prefix within)).symm
  have lengths : (t.takeWhile within).length + 1 - least = (t.takeWhile within).length - least + 1 := by omega
  have last : least + ((t.takeWhile within).length - least) = (t.takeWhile within).length := by omega
  rw [matchHere, group]
  simp only [Piece.ways, if_true, lengths, List.range'_1_concat, List.reverse_append, List.reverse_singleton, last]
  simp [matchHere, longest]

theorem matchHere_rest {within : α → Bool} : matchHere [group (.repeated 0 true within)] t = some [t.takeWhile within] :=
  matchHere_most (Nat.zero_le _)

/-! ## Where a search ends -/

theorem search_here (found : matchHere pattern t = some groups) : search pattern t = some groups := by
  cases t with
  | nil => exact found
  | cons c rest => rw [search, found]

/-- A search goes on behind a text where no match starts. -/
theorem search_behind {before here : List α}
    (none : ∀ start rest, before = start ++ rest → rest ≠ [] → matchHere pattern (rest ++ here) = none) :
    search pattern (before ++ here) = search pattern here := by
  induction before with
  | nil => rfl
  | cons c before ih =>
    have first : matchHere pattern (c :: (before ++ here)) = Option.none := none [] (c :: before) rfl (by simp)
    have later := ih (fun start rest split some => none (c :: start) rest (by rw [split]; rfl) some)
    rw [List.cons_append, search, first, later]

theorem search_none_iff : search pattern t = none ↔ ∀ before here, t = before ++ here → matchHere pattern here = none := by
  constructor
  · intro never
    induction t with
    | nil =>
      intro before here split
      rw [(List.append_eq_nil_iff.mp split.symm).2]
      exact never
    | cons c rest ih =>
      intro before here split
      rw [search] at never
      cases first : matchHere pattern (c :: rest) with
      | some groups' => rw [first] at never; cases never
      | none =>
        rw [first] at never
        cases before with
        | nil =>
          rw [List.nil_append] at split
          rw [← split]
          exact first
        | cons c' before =>
          rw [List.cons_append, List.cons.injEq] at split
          exact ih never before here split.2
  · intro never
    cases found : search pattern t with
    | none => rfl
    | some groups =>
      obtain ⟨before, here, left, split, matched, _⟩ := search_sound found
      exact absurd matched (matchHere_none_iff.mp (never before here split) groups left)

end Aircd.Regex

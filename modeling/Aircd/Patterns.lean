import Aircd.Requests

/-!
# The patterns of the reader loop on words

Where a text consists of words with one blank between them, each `\S+` of a
pattern is one of the words and each `\s+` is one of the blanks.
-/
namespace Aircd.Daemon
open Aircd.Regex Aircd.Text

variable {pattern : Pattern Char} {word t : Text}

/-- A word for Python. -/
def Solid (word : Text) : Prop := word ≠ [] ∧ ∀ c ∈ word, pythonSpace c = false
instance (word : Text) : Decidable (Solid word) := @instDecidableAnd _ _ _ (List.decidableBAll _ word)

/-- The text begins with no blank. -/
def Flush (t : Text) : Prop := ∀ c ∈ t.head?, pythonSpace c = false
instance (t : Text) : Decidable (Flush t) := Option.decidableForallMem t.head?

theorem flush_of_solid (solid : Solid word) (t : Text) : Flush (word ++ t) := by
  obtain ⟨c, rest, rfl⟩ := List.exists_cons_of_ne_nil solid.1
  intro first here
  cases here
  exact solid.2 c List.mem_cons_self

theorem takeWhile_flush {within : Char → Bool} (flush : ∀ c ∈ t.head?, within c = false) : t.takeWhile within = [] := by
  cases t with
  | nil => rfl
  | cons c rest => rw [List.takeWhile_cons_of_neg (by simp [flush c rfl])]

theorem matchHere_space (flush : Flush t) : matchHere (one_space :: pattern) (' ' :: t) = matchHere pattern t := by
  have one : (' ' :: t).takeWhile pythonSpace = [' '] := by
    rw [List.takeWhile_cons_of_pos (by decide), takeWhile_flush flush]
  have only := @matchHere_repeated _ _ pattern (' ' :: t) 1 true false pythonSpace 1 le_rfl (by rw [one]; rfl) (by
    intro m enough short other
    rw [one, List.length_singleton] at short
    omega)
  rw [one_space, plain, only]
  simp

theorem matchHere_no_space (flush : Flush t) : matchHere (one_space :: pattern) t = none :=
  matchHere_repeated_none (by rw [takeWhile_flush flush]; decide)

/-- A word is taken whole. -/
theorem matchHere_one_word (solid : Solid word) (flush : Flush t) :
    matchHere (one_word :: one_space :: pattern) (word ++ ' ' :: t) = (matchHere pattern t).map (fun groups => word :: groups) := by
  have whole : (word ++ ' ' :: t).takeWhile (fun c => !pythonSpace c) = word := by
    rw [List.takeWhile_append_of_pos (by simpa using solid.2), List.takeWhile_cons_of_neg (by decide), List.append_nil]
  have long : 1 ≤ word.length := List.length_pos_iff.mpr solid.1
  have only := @matchHere_repeated _ _ (one_space :: pattern) (word ++ ' ' :: t) 1 true true (fun c => !pythonSpace c)
    word.length long (by rw [whole]) (by
      intro m _ short other
      rw [whole] at short
      refine matchHere_no_space ?_
      have inside : m < word.length := by omega
      intro c here
      rw [List.drop_append_of_le_length short] at here
      obtain ⟨next, rest, later⟩ := List.exists_cons_of_ne_nil (List.ne_nil_of_length_pos (by
        rw [List.length_drop]
        omega : 0 < (word.drop m).length))
      rw [later] at here
      cases here
      exact solid.2 c (List.drop_subset m word (by rw [later]; exact List.mem_cons_self)))
  rw [one_word, group, only, List.drop_left, List.take_left, matchHere_space flush]
  rfl

/-- One of several words is taken where it stands whole. -/
theorem matchHere_among {words : List Text} (all : ∀ listed ∈ words, Solid listed) (solid : Solid word) (flush : Flush t) :
    matchHere (group (.among words) :: one_space :: pattern) (word ++ ' ' :: t) =
      if word ∈ words then (matchHere pattern t).map (fun groups => word :: groups) else none := by
  have elsewhere : ∀ way ∈ (Piece.among words).ways (word ++ ' ' :: t), way ≠ (word, ' ' :: t) →
      matchHere (one_space :: pattern) way.2 = none := by
    rintro ⟨letters, left⟩ way other
    obtain ⟨listed, whole⟩ := mem_ways.mp way
    refine matchHere_no_space ?_
    rcases List.append_eq_append_iff.mp whole with ⟨more, rfl, behind⟩ | ⟨more, rfl, rfl⟩
    · cases more with
      | nil => exact absurd (by simpa using behind.symm) other
      | cons c more =>
        obtain ⟨rfl, _⟩ := List.cons.inj behind
        have blank : pythonSpace ' ' = false := (all _ listed).2 ' ' (by simp)
        cases blank
    · cases more with
      | nil => exact absurd (by simp) other
      | cons c more =>
        intro first here
        cases here
        exact solid.2 c (by simp)
  rw [matchHere, group]
  by_cases listed : word ∈ words
  · have way : (word, ' ' :: t) ∈ (Piece.among words).ways (word ++ ' ' :: t) := mem_ways.mpr ⟨listed, rfl⟩
    rw [if_pos listed, findSome_only way (by
      intro way inside other
      rw [elsewhere way inside other]
      rfl), matchHere_space flush]
    rfl
  · rw [if_neg listed, List.findSome?_eq_none_iff]
    intro way inside
    rw [elsewhere way inside (by
      rintro rfl
      exact listed (mem_ways.mp inside).1)]
    rfl

/-! ## Notices of a task -/

/-- What the patterns for failures and successes find in a text of a task, two words and more. -/
theorem matchHere_failure {first second rest : Text} (solid : Solid first) (solid' : Solid second) (flush : Flush rest) :
    matchHere failure_pattern ("TASK ".toList ++ first ++ ' ' :: (second ++ ' ' :: rest)) =
      if first ∈ ["CLAIM".toList, "DONE".toList] then
        (matchHere [letters "failed", plain (.one (fun c => pythonSpace c || c == ':'))] rest).map (fun groups =>
          first :: second :: groups)
      else none := by
  have text : "TASK ".toList ++ first ++ ' ' :: (second ++ ' ' :: rest) =
      "TASK".toList ++ ' ' :: (first ++ ' ' :: (second ++ ' ' :: rest)) := by simp
  rw [text, failure_pattern, letters, matchHere_word, matchHere_space (flush_of_solid solid _),
    matchHere_among (by decide) solid (flush_of_solid solid' _), matchHere_one_word solid' flush, Option.map_map]
  rfl

theorem matchHere_success {first second rest : Text} (solid : Solid first) (solid' : Solid second) (flush : Flush rest) :
    matchHere success_pattern ("TASK ".toList ++ first ++ ' ' :: (second ++ ' ' :: rest)) =
      if second ∈ ["claimed".toList, "completed".toList] then
        (matchHere [letters "by", one_space, group (.repeated 1 false (fun c => !pythonSpace c)), letters ":"] rest).map
          (fun groups => first :: second :: groups)
      else none := by
  have text : "TASK ".toList ++ first ++ ' ' :: (second ++ ' ' :: rest) =
      "TASK".toList ++ ' ' :: (first ++ ' ' :: (second ++ ' ' :: rest)) := by simp
  rw [text, success_pattern, letters, matchHere_word, matchHere_space (flush_of_solid solid _),
    matchHere_one_word solid (flush_of_solid solid' _), matchHere_among (by decide) solid' flush]
  split
  · rw [Option.map_map]
    rfl
  · rfl

end Aircd.Daemon

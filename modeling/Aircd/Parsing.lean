import Aircd.Protocol

/-!
# What a parsed command is made of

The words of a line have no whitespace in them, and its trailing parameter is the
end of the trimmed line. Every text of a command is one of these.
-/
namespace Aircd.Protocol
open Aircd.Text

variable {line : Text}

/-- The words of a line before its trailing parameter, and the parameter. -/
def parts_of (line : Text) : List Text × Option Text :=
  let (head, trailing) := split_trailing ( strip_tags_and_prefix (trim line))
  (splitWhitespace head, trailing)

/-- The command of the words of a line and its trailing parameter. -/
def command_of (words : List Text) (trailing : Option Text) : Command :=
  let verb := toAsciiUppercase (words.head?.getD [])
  let parts := words.tail
  let first := parts.head?.getD []
  if verb = "PASS".toList then .Pass (join [' '] parts)
  else if verb = "NICK".toList then .Nick first
  else if verb = "USER".toList then .User first
  else if verb = "JOIN".toList then .Join first
  else if verb = "PART".toList then .Part first
  else if verb = "PRIVMSG".toList then .Privmsg first (trailing.getD (join [' '] parts.tail))
  else if verb = "PING".toList then .Ping (trailing.getD (join [' '] parts))
  else if verb = "PONG".toList then .Pong
  else if verb = "QUIT".toList then .Quit
  else if verb = "CAP".toList then
    .Cap (toAsciiUppercase first) (splitWhitespace (trailing.getD (join [' '] parts.tail)))
  else if verb = "CHATHISTORY".toList then parse_chathistory parts
  else if verb = "HISTORY".toList then .History (some first) (number parts[1]? 0) (number parts[2]? 100)
  else if verb = "TASK".toList then parse_task parts trailing
  else .Unknown verb

theorem parse_command_eq (line : Text) : parse_command line = command_of (parts_of line).1 (parts_of line).2 := rfl

/-- A word of a line, or the empty text that stands for a missing one. -/
def Word (line word : Text) : Prop := word = [] ∨ word ∈ (parts_of line).1

/-- The trailing parameter, or the words from some word on. -/
def Rest (line rest : Text) : Prop := ∃ n, rest = (parts_of line).2.getD (join [' '] ((parts_of line).1.drop n))

/-- Where the texts of a command come from. -/
def Parsed (line : Text) : Command → Prop
  | .Pass token => ∃ n, token = join [' '] ((parts_of line).1.drop n)
  | .Nick nick => Word line nick
  | .User user => Word line user
  | .Join channel => Word line channel
  | .Part channel => Word line channel
  | .Privmsg target body => Word line target ∧ Rest line body
  | .Ping token => Rest line token
  | .Pong => True
  | .Quit => True
  | .Cap subcommand capabilities => (∃ word, Word line word ∧ subcommand = toAsciiUppercase word) ∧
      ∃ rest, capabilities = splitWhitespace rest
  | .History channel _ _ => ∀ word ∈ channel, Word line word
  | .TaskCreate channel title => Word line channel ∧ Rest line title
  | .TaskClaim task_id => Word line task_id
  | .TaskDone task_id => Word line task_id
  | .TaskRelease task_id => Word line task_id
  | .TaskList channel => Word line channel
  | .Unknown name => (∃ word, Word line word ∧ name = toAsciiUppercase word) ∨ name = "TASK".toList ∨
      ∃ word, Word line word ∧ name = "TASK ".toList ++ toAsciiUppercase word

theorem word_of_option {word : Option Text} (listed : ∀ text ∈ word, text ∈ (parts_of line).1) : Word line (word.getD []) := by
  cases word with
  | none => exact .inl rfl
  | some text => exact .inr (listed text rfl)

theorem word_head (line : Text) : Word line ((parts_of line).1.head?.getD []) :=
  word_of_option (fun _ found => List.mem_of_mem_head? found)

theorem word_first (line : Text) : Word line ((parts_of line).1.tail.head?.getD []) :=
  word_of_option (fun _ found => List.mem_of_mem_tail (List.mem_of_mem_head? found))

theorem word_argument (line : Text) (n : Nat) : Word line ((parts_of line).1.tail[n]?.getD []) :=
  word_of_option (fun _ found => List.mem_of_mem_tail (List.mem_of_getElem? found))

theorem parsed_task (line : Text) : Parsed line (parse_task (parts_of line).1.tail (parts_of line).2) := by
  cases parts : (parts_of line).1.tail with
  | nil => exact .inr (.inl rfl)
  | cons part rest =>
    have argument : Word line ((part :: rest)[1]?.getD []) := parts ▸ word_argument line 1
    have action : Word line part := .inr (List.mem_of_mem_tail (parts ▸ List.mem_cons_self))
    have title : Rest line ((parts_of line).2.getD (join [' '] ((part :: rest).drop 2))) := by
      refine ⟨3, ?_⟩
      rw [← parts, ← List.drop_one, List.drop_drop]
    unfold parse_task
    dsimp only
    split
    · exact ⟨argument, title⟩
    split
    · exact argument
    split
    · exact argument
    split
    · exact argument
    split
    · exact argument
    · exact .inr (.inr ⟨part, action, rfl⟩)

theorem parsed_chathistory (line : Text) : Parsed line (parse_chathistory (parts_of line).1.tail) := by
  have listed (word : Option Text) (found : ∀ text ∈ word, text ∈ (parts_of line).1) : ∀ text ∈ word, Word line text :=
    fun text here => .inr (found text here)
  unfold parse_chathistory
  split
  · split
    · exact listed _ (fun _ found => List.mem_of_mem_tail (List.mem_of_getElem? found))
    · exact listed none (by simp)
  · exact listed _ (fun _ found => List.mem_of_mem_tail (List.mem_of_mem_head? found))

private theorem either {c : Prop} [Decidable c] {yes no : Command} (holds : Parsed line yes) (fails : Parsed line no) :
    Parsed line (if c then yes else no) := by
  split
  · exact holds
  · exact fails

/-- Every text of a command is a word of its line or the rest of it. -/
theorem parsed_command (line : Text) : Parsed line (parse_command line) := by
  have first := word_first line
  rw [parse_command_eq]
  unfold command_of
  dsimp only
  refine either ⟨1, by rw [List.drop_one]⟩ ?_
  refine either first ?_
  refine either first ?_
  refine either first ?_
  refine either first ?_
  refine either ⟨first, 2, by rw [← List.drop_one, ← List.drop_one, List.drop_drop]⟩ ?_
  refine either ⟨1, by rw [List.drop_one]⟩ ?_
  refine either trivial ?_
  refine either trivial ?_
  refine either ⟨⟨_, first, rfl⟩, _, rfl⟩ ?_
  refine either (parsed_chathistory line) ?_
  refine either (fun _ found => Option.some.inj found ▸ first) ?_
  refine either (parsed_task line) ?_
  exact .inl ⟨_, word_head line, rfl⟩

/-! ## Words and the rest -/

theorem suffix_of_splitOnce {separator : Text} : ∀ {t before after : Text}, splitOnce separator t = some (before, after) → after <:+ t
  | [], _, _, split => by cases split
  | c :: rest, before, after, split => by
    rw [splitOnce] at split
    split at split
    · cases split
      exact List.drop_suffix _ _
    · obtain ⟨⟨first, second⟩, found, same⟩ := Option.map_eq_some_iff.mp split
      cases same
      exact (suffix_of_splitOnce found).trans (List.suffix_cons c rest)

theorem stripped_suffix (line : Text) : strip_tags_and_prefix line <:+ line := by
  have shorter (t : Text) : ((splitOnce [' '] t).map Prod.snd).getD t <:+ t := by
    cases split : splitOnce [' '] t with
    | none => exact List.suffix_refl t
    | some parts => exact suffix_of_splitOnce split
  have either (c : Prop) [Decidable c] (t : Text) : (if c then ((splitOnce [' '] t).map Prod.snd).getD t else t) <:+ t := by
    split
    · exact shorter t
    · exact List.suffix_refl t
  exact (either _ _).trans (either _ _)

theorem unspaced_of_word {word : Text} {c : Char} (listed : Word line word) (inside : c ∈ word) : rustSpace c = false := by
  rcases listed with rfl | listed
  · cases inside
  · exact ((mem_words listed).2 c inside).1

theorem rest_cases {rest : Text} (made : Rest line rest) : rest <:+ trim line ∨
    ∃ words : List Text, rest = join [' '] words ∧ ∀ word ∈ words, word ≠ [] ∧ ∀ c ∈ word, rustSpace c = false := by
  obtain ⟨n, rfl⟩ := made
  cases split : splitOnce [' ', ':'] ( strip_tags_and_prefix (trim line)) with
  | none =>
    right
    have parts : parts_of line = (splitWhitespace ( strip_tags_and_prefix (trim line)), none) := by
      simp [parts_of, split_trailing, split]
    refine ⟨_, by rw [parts]; rfl, ?_⟩
    intro word listed
    have read := mem_words (List.mem_of_mem_drop listed)
    exact ⟨read.1, fun c inside => (read.2 c inside).1⟩
  | some pair =>
    left
    have parts : parts_of line = (splitWhitespace pair.1, some pair.2) := by
      simp [parts_of, split_trailing, split]
    rw [parts]
    exact (suffix_of_splitOnce split).trans (stripped_suffix _)

/-- A line break in the rest of a line is one inside the trimmed line. -/
theorem break_of_rest {rest : Text} {c : Char} (made : Rest line rest) (inside : c ∈ rest) (space : rustSpace c = true)
    (other : c ≠ ' ') : c ∈ trim line := by
  rcases rest_cases made with suffix | ⟨words, rfl, clean⟩
  · exact suffix.subset inside
  · rcases mem_join inside with separator | ⟨word, listed, here⟩
    · exact absurd (List.mem_singleton.mp separator) other
    · rw [(clean word listed).2 c here] at space
      cases space

theorem last_of_join {words : List Text} {c : Char} (clean : ∀ word ∈ words, word ≠ [] ∧ ∀ c ∈ word, rustSpace c = false)
    (last : (join [' '] words).getLast? = some c) : rustSpace c = false := by
  induction words with
  | nil => cases last
  | cons word rest ih =>
    obtain ⟨nonempty, unspaced⟩ := clean word List.mem_cons_self
    cases rest with
    | nil => exact unspaced c (List.mem_of_getLast? last)
    | cons next rest =>
      have more : join [' '] (next :: rest) ≠ [] := by
        have next_nonempty := (clean next (by simp)).1
        cases rest with
        | nil => simpa [join] using next_nonempty
        | cons _ _ => simp [join, next_nonempty]
      rw [join.eq_3 _ _ _ (by simp), List.getLast?_append_of_ne_nil _ more] at last
      exact ih (fun other listed => clean other (List.mem_cons_of_mem word listed)) last

/-- The rest of a line does not end with whitespace. -/
theorem last_of_rest {rest : Text} {c : Char} (made : Rest line rest) (last : rest.getLast? = some c) : rustSpace c = false := by
  rcases rest_cases made with suffix | ⟨words, rfl, clean⟩
  · obtain ⟨before, whole⟩ := suffix
    have nonempty : rest ≠ [] := by
      rintro rfl
      cases last
    have trimmed : (trim line).getLast? = some c := by
      rw [← whole, List.getLast?_append_of_ne_nil _ nonempty, last]
    have some : trim line ≠ [] := by
      intro empty
      rw [empty] at trimmed
      cases trimmed
    have kept : ¬ rustSpace ((trim line).getLast some) = true :=
      List.rdropWhile_last_not rustSpace (line.dropWhile rustSpace) some
    rw [List.getLast?_eq_some_getLast some, Option.some.injEq] at trimmed
    rw [trimmed] at kept
    exact Bool.eq_false_iff.mpr kept
  · exact last_of_join clean last

/-! ## A line of words -/

theorem no_colon_of_no_space {t : Text} (unspaced : ' ' ∉ t) : ¬ [' ', ':'] <:+: t := by
  intro inside
  exact unspaced (inside.subset List.mem_cons_self)

theorem space_of_rustSpace {t : Text} (unspaced : ∀ c ∈ t, rustSpace c = false) : ' ' ∉ t := by
  intro inside
  have space := unspaced ' ' inside
  revert space
  decide

/-- A line with words that neither tags nor a prefix come before, and its trailing parameter. -/
theorem split_trailing_of_words {head text : Text} {first : Char} (starts : head.head? = some first)
    (word : rustSpace first = false ∧ first ≠ '@' ∧ first ≠ ':') (alone : ¬ [' ', ':'] <:+: head) :
    split_trailing ( strip_tags_and_prefix (trim (head ++ ' ' :: ':' :: text))) =
      (head, some (text.rdropWhile rustSpace)) := by
  have trimmed : trim (head ++ ' ' :: ':' :: text) = head ++ ' ' :: ':' :: text.rdropWhile rustSpace := by
    have parts := @trim_append (head ++ [' ', ':']) text first ':' (by simp [starts]) (by simp) word.1 (by decide)
    simpa using parts
  have bare : strip_tags_and_prefix (trim (head ++ ' ' :: ':' :: text)) = head ++ ' ' :: ':' :: text.rdropWhile rustSpace := by
    obtain ⟨rest, rfl⟩ := List.head?_eq_some_iff.mp starts
    rw [trimmed]
    simp [ strip_tags_and_prefix, word]
  rw [bare, split_trailing, splitOnce_colon alone]

end Aircd.Protocol

import Aircd.Framing
import Aircd.Spelling

/-!
# What the client says and the server hears

Every line that `client.py` writes: those of `_do_connect`, the answer to a PING,
`close`, and the methods for channels, messages and tasks. The server reads a call
as the command that it stands for exactly when its arguments are words, and hold no
surrogate.
-/
namespace Aircd.Client
open Aircd.Text Aircd.Utf8 Aircd.Protocol
open Aircd.PyString (lit)
open Aircd.Server (lines commands one_command_iff)

/-- The calls that write a line, in the order of `client.py`. -/
inductive Call where
  | cap_ls
  | cap_req
  | pass (token : PyString)
  | nick (nick : PyString)
  | user (nick : PyString)
  | cap_end
  | pong (token : PyString)
  | quit
  | join (channel : PyString)
  | part (channel : PyString)
  | privmsg (target text : PyString)
  | history (channel : PyString) (after_seq limit : Int)
  | task_create (channel title : PyString)
  | task_claim (task_id : PyString)
  | task_done (task_id : PyString)
  | task_release (task_id : PyString)
  | task_list (channel : PyString)
  deriving DecidableEq

namespace Call

def line : Call → PyString
  | .cap_ls => lit "CAP LS 302"
  | .cap_req => lit "CAP REQ :message-tags"
  | .pass token => lit "PASS " ++ token
  | .nick name => lit "NICK " ++ name
  | .user name => lit "USER " ++ name ++ lit " 0 * :aircd agent"
  | .cap_end => lit "CAP END"
  | .pong token => lit "PONG :" ++ token
  | .quit => lit "QUIT :bye"
  | .join channel => lit "JOIN " ++ channel
  | .part channel => lit "PART " ++ channel
  | .privmsg target text => lit "PRIVMSG " ++ target ++ lit " :" ++ text
  | .history channel after_seq limit =>
    lit "CHATHISTORY AFTER " ++ channel ++ lit " " ++ .ofText (decimal after_seq) ++ lit " " ++ .ofText (decimal limit)
  | .task_create channel title => lit "TASK CREATE " ++ channel ++ lit " :" ++ title
  | .task_claim task_id => lit "TASK CLAIM " ++ task_id
  | .task_done task_id => lit "TASK DONE " ++ task_id
  | .task_release task_id => lit "TASK RELEASE " ++ task_id
  | .task_list channel => lit "TASK LIST " ++ channel

/-- What a call adds to the stream. -/
def bytes (call : Call) : List UInt8 := written call.line

/-- What a call asks the server for. -/
def command : Call → Command
  | .cap_ls => .Cap "LS".toList ["302".toList]
  | .cap_req => .Cap "REQ".toList ["message-tags".toList]
  | .pass token => .Pass token.text
  | .nick name => .Nick name.text
  | .user name => .User name.text
  | .cap_end => .Cap "END".toList []
  | .pong _ => .Pong
  | .quit => .Quit
  | .join channel => .Join channel.text
  | .part channel => .Part channel.text
  | .privmsg target text => .Privmsg target.text (text.text.rdropWhile rustSpace)
  | .history channel after_seq limit => .History (some channel.text) after_seq limit
  | .task_create channel title => .TaskCreate channel.text (title.text.rdropWhile rustSpace)
  | .task_claim task_id => .TaskClaim task_id.text
  | .task_done task_id => .TaskDone task_id.text
  | .task_release task_id => .TaskRelease task_id.text
  | .task_list channel => .TaskList channel.text

/-- One word, or none at all. -/
def Argument (word : Text) : Prop := word = [] ∨ IsWord word
instance (word : Text) : Decidable (Argument word) := inferInstanceAs (Decidable (_ ∨ _))

/-- Words with single spaces between them. -/
def Spaced (t : Text) : Prop := Text.join [' '] (splitWhitespace t) = t ∧ t.head? ≠ some ':' ∧ ¬ [' ', ':'] <:+: t
instance (t : Text) : Decidable (Spaced t) := inferInstanceAs (Decidable (_ ∧ _ ∧ _))

def InRange (n : Int) : Prop := i64Min ≤ n ∧ n ≤ i64Max
instance (n : Int) : Decidable (InRange n) := inferInstanceAs (Decidable (_ ∧ _))

/-- Arguments that stay one parameter each. -/
def Whole : Call → Prop
  | .pass token => Spaced token.text
  | .nick name => Argument name.text
  | .user name => IsWord name.text
  | .pong token => '\n' ∉ token.text
  | .join channel => Argument channel.text
  | .part channel => Argument channel.text
  | .privmsg target text => Argument target.text ∧ '\n' ∉ text.text
  | .history channel after_seq limit =>
    IsWord channel.text ∧ channel.text.head? = some '#' ∧ InRange after_seq ∧ InRange limit
  | .task_create channel title => Argument channel.text ∧ '\n' ∉ title.text
  | .task_claim task_id => Argument task_id.text
  | .task_done task_id => Argument task_id.text
  | .task_release task_id => Argument task_id.text
  | .task_list channel => Argument channel.text
  | _ => True

instance : (call : Call) → Decidable call.Whole
  | .pass token => inferInstanceAs (Decidable (Spaced token.text))
  | .nick name => inferInstanceAs (Decidable (Argument name.text))
  | .user name => inferInstanceAs (Decidable (IsWord name.text))
  | .pong token => inferInstanceAs (Decidable ('\n' ∉ token.text))
  | .join channel => inferInstanceAs (Decidable (Argument channel.text))
  | .part channel => inferInstanceAs (Decidable (Argument channel.text))
  | .privmsg target text => inferInstanceAs (Decidable (Argument target.text ∧ '\n' ∉ text.text))
  | .history channel after_seq limit =>
    inferInstanceAs (Decidable (IsWord channel.text ∧ channel.text.head? = some '#' ∧ InRange after_seq ∧ InRange limit))
  | .task_create channel title => inferInstanceAs (Decidable (Argument channel.text ∧ '\n' ∉ title.text))
  | .task_claim task_id => inferInstanceAs (Decidable (Argument task_id.text))
  | .task_done task_id => inferInstanceAs (Decidable (Argument task_id.text))
  | .task_release task_id => inferInstanceAs (Decidable (Argument task_id.text))
  | .task_list channel => inferInstanceAs (Decidable (Argument channel.text))
  | .cap_ls => .isTrue trivial
  | .cap_req => .isTrue trivial
  | .cap_end => .isTrue trivial
  | .quit => .isTrue trivial

/-- The strings of a call. -/
def arguments : Call → List PyString
  | .pass token => [token]
  | .nick name => [name]
  | .user name => [name]
  | .pong token => [token]
  | .join channel => [channel]
  | .part channel => [channel]
  | .privmsg target text => [target, text]
  | .history channel _ _ => [channel]
  | .task_create channel title => [channel, title]
  | .task_claim task_id => [task_id]
  | .task_done task_id => [task_id]
  | .task_release task_id => [task_id]
  | .task_list channel => [channel]
  | _ => []

/-- Arguments that can be encoded and stay one parameter each. -/
def Proper (call : Call) : Prop := (∀ argument ∈ call.arguments, argument.Encodable) ∧ call.Whole
instance (call : Call) : Decidable call.Proper := inferInstanceAs (Decidable (_ ∧ _))

theorem encodable_line (call : Call) : call.line.Encodable ↔ ∀ argument ∈ call.arguments, argument.Encodable := by
  cases call <;> simp [line, arguments]

end Call

/-! ## Lines of words -/

theorem words_split {separator : Char → Bool} {c : Char} (here : separator c = true) (before after : Text) :
    words separator (before ++ c :: after) = words separator before ++ words separator after := by
  rw [words, List.splitOnP_append_cons before after here, List.filter_append, words, words]

/-- Blanks behind a text are behind no word. -/
theorem words_behind {separator : Char → Bool} {blanks : Text} (all : ∀ c ∈ blanks, separator c = true) (t : Text) :
    words separator (t ++ blanks) = words separator t := by
  cases blanks with
  | nil => rw [List.append_nil]
  | cons blank more =>
    obtain ⟨here, later⟩ := List.forall_mem_cons.mp all
    have none := words_blanks later []
    rw [List.append_nil, words_nil] at none
    rw [words_split here, none, List.append_nil]

/-- Words with one blank between them are no longer than the text that they come from. -/
theorem length_join_words : ∀ t : Text, (Text.join [' '] (words rustSpace t)).length ≤ t.length
  | [] => by rw [words_nil]; exact le_rfl
  | c :: rest => by
    by_cases blank : rustSpace c = true
    · have later := length_join_words rest
      rw [words_cons blank, List.length_cons]
      omega
    · have parts : (c :: rest).takeWhile (fun c => !rustSpace c) ++ (c :: rest).dropWhile (fun c => !rustSpace c) = c :: rest :=
        List.takeWhile_append_dropWhile
      have begins : (c :: rest).takeWhile (fun c => !rustSpace c) ≠ [] := by simp [blank]
      have visible : ∀ c' ∈ (c :: rest).takeWhile (fun c => !rustSpace c), rustSpace c' = false := by
        intro c' inside
        simpa using List.mem_takeWhile_imp inside
      have shorter := congrArg List.length parts
      rw [List.length_append] at shorter
      rw [← parts]
      generalize (c :: rest).takeWhile (fun c => !rustSpace c) = word at begins visible shorter
      cases after : (c :: rest).dropWhile (fun c => !rustSpace c) with
      | nil =>
        rw [List.append_nil, words_single begins visible]
        exact le_rfl
      | cons space more =>
        have here : rustSpace space = true := by
          have stops := List.head?_dropWhile_not (fun c => !rustSpace c) (c :: rest)
          rw [after] at stops
          simpa using stops
        have less : more.length < (c :: rest).length := by
          rw [after, List.length_cons] at shorter
          omega
        have later := length_join_words more
        rw [words_append begins visible here, List.length_append, List.length_cons]
        cases read : words rustSpace more with
        | nil =>
          rw [Text.join]
          omega
        | cons next others =>
          rw [read] at later
          rw [Text.join.eq_3 _ _ _ (by simp), List.length_append, List.length_append, List.length_singleton]
          omega
termination_by t => t.length
decreasing_by
  · exact Nat.lt_succ_self _
  · exact less

/-- A line that begins with words. -/
def Opening (words : List Text) : Prop := words ≠ [] ∧ (∀ word ∈ words, IsWord word) ∧ (Text.join [' '] words).head? ≠ some '@'
instance (words : List Text) : Decidable (Opening words) := inferInstanceAs (Decidable (_ ∧ _ ∧ _))

variable {verb : List Text}

theorem Opening.starts (opening : Opening verb) : ∃ first, (Text.join [' '] verb).head? = some first ∧
    rustSpace first = false ∧ first ≠ '@' ∧ first ≠ ':' := by
  obtain ⟨some, all, untagged⟩ := opening
  obtain ⟨word, rest, rfl⟩ := List.exists_cons_of_ne_nil some
  obtain ⟨nonempty, visible, uncoloned⟩ := all word List.mem_cons_self
  rw [head_join nonempty rest] at untagged ⊢
  obtain ⟨first, more, rfl⟩ := List.exists_cons_of_ne_nil nonempty
  refine ⟨first, rfl, visible first List.mem_cons_self, ?_, ?_⟩
  · rintro rfl
    exact untagged rfl
  · rintro rfl
    exact uncoloned rfl

theorem Opening.snoc (opening : Opening verb) {word : Text} (isWord : IsWord word) : Opening (verb ++ [word]) := by
  obtain ⟨some, all, untagged⟩ := opening
  refine ⟨by simp, ?_, ?_⟩
  · intro other listed
    rcases List.mem_append.mp listed with old | new
    · exact all other old
    · rw [List.mem_singleton.mp new]
      exact isWord
  · obtain ⟨first, rest, rfl⟩ := List.exists_cons_of_ne_nil some
    have nonempty := (all first List.mem_cons_self).1
    rw [List.cons_append, head_join nonempty]
    rwa [head_join nonempty] at untagged

theorem join_snoc (some : verb ≠ []) (word : Text) :
    Text.join [' '] (verb ++ [word]) = Text.join [' '] verb ++ ' ' :: word := by
  induction verb with
  | nil => exact absurd rfl some
  | cons first rest ih =>
    cases rest with
    | nil => simp [Text.join]
    | cons next rest =>
      have later := ih (by simp)
      rw [List.cons_append, Text.join.eq_3 [' '] first (next :: rest ++ [word]) (by simp), later,
        Text.join.eq_3 [' '] first (next :: rest) (by simp)]
      simp only [List.append_assoc]

/-- A trailing parameter behind the words of a line, and behind blanks after them. -/
theorem parts_of_trailing (opening : Opening verb) {blanks : Text} (all : ∀ c ∈ blanks, c = ' ') (text : Text) :
    parts_of (Text.join [' '] verb ++ blanks ++ ' ' :: ':' :: text) = (verb, some (text.rdropWhile rustSpace)) := by
  obtain ⟨first, starts, word⟩ := opening.starts
  have unbroken : splitOnce [' ', ':'] blanks = none := by
    rw [splitOnce_none_iff (by simp)]
    intro inside
    have colon := all ':' (inside.subset (by simp))
    cases colon
  have apart : blanks.head? ≠ some ':' := by
    intro begins
    have colon := all ':' (List.mem_of_mem_head? begins)
    cases colon
  have alone : splitOnce [' ', ':'] (Text.join [' '] verb ++ blanks) = none := by
    rw [splitOnce_colon_behind ((splitOnce_none_iff (by simp)).mp (alone_join opening.2.1)) apart, unbroken]
    rfl
  have begins : (Text.join [' '] verb ++ blanks).head? = some first := by
    rw [List.head?_append, starts]
    rfl
  have split := @split_trailing_of_words _ text first begins word ((splitOnce_none_iff (by simp)).mp alone)
  have read : splitWhitespace (Text.join [' '] verb ++ blanks) = verb := by
    have spaces : ∀ c ∈ blanks, rustSpace c = true := by
      intro c inside
      rw [all c inside]
      decide
    rw [splitWhitespace, words_behind spaces]
    exact splitWhitespace_join opening.2.1
  rw [parts_of_eq, cut, split]
  dsimp only
  rw [read]

/-- A line without a trailing parameter is its words. -/
theorem parts_of_unbroken {line : Text} {first : Char} (starts : line.head? = some first)
    (word : rustSpace first = false ∧ first ≠ '@' ∧ first ≠ ':') (alone : ¬ [' ', ':'] <:+: line) :
    parts_of line = (splitWhitespace line, none) := by
  obtain ⟨visible, untagged, uncoloned⟩ := word
  obtain ⟨rest, rfl⟩ := List.head?_eq_some_iff.mp starts
  have trimmed : trim (first :: rest) = (first :: rest).rdropWhile rustSpace := by
    rw [trim, List.dropWhile_cons_of_neg (by simp [visible])]
  have whole : (first :: rest).rdropWhile rustSpace ++ (first :: rest).rtakeWhile rustSpace = first :: rest :=
    List.rdropWhile_append_rtakeWhile ..
  have blanks : ∀ c ∈ (first :: rest).rtakeWhile rustSpace, rustSpace c = true := fun c inside => List.mem_rtakeWhile_imp inside
  have initial : (first :: rest).rdropWhile rustSpace <+: first :: rest := List.rdropWhile_prefix _ _
  have begins : ∀ c, ((first :: rest).rdropWhile rustSpace).head? = some c → c = first := by
    intro c some
    obtain ⟨more, same⟩ := List.head?_eq_some_iff.mp some
    rw [same, List.cons_prefix_cons] at initial
    exact initial.1
  have unbroken : splitOnce [' ', ':'] ((first :: rest).rdropWhile rustSpace) = none := by
    rw [splitOnce_none_iff (by simp)]
    exact fun inside => alone (inside.trans initial.isInfix)
  have read : splitWhitespace (first :: rest) = splitWhitespace ((first :: rest).rdropWhile rustSpace) := by
    have swallowed := words_behind blanks ((first :: rest).rdropWhile rustSpace)
    rwa [whole] at swallowed
  rw [parts_of_eq, trimmed, stripped_bare (fun some => untagged (begins _ some).symm) (fun some => uncoloned (begins _ some).symm),
    cut, split_trailing, unbroken, read]

/-! ## Arguments -/

theorem visible_of_word {line word : Text} (read : Word line word) : ∀ c ∈ word, rustSpace c = false :=
  fun _ inside => unspaced_of_word read inside

/-- What a line reads as a word is an argument, unless a colon begins it. -/
theorem argument_or_colon {line word : Text} (read : Word line word) : Call.Argument word ∨ ∃ more, word = ':' :: more := by
  have visible := visible_of_word read
  cases word with
  | nil => exact .inl (.inl rfl)
  | cons c more =>
    by_cases colon : c = ':'
    · exact .inr ⟨more, by rw [colon]⟩
    · exact .inl (.inr ⟨by simp, visible, by simpa using colon⟩)

/-- A command with one argument, which is read as none when it is missing or begins with a colon. -/
theorem argument_iff (opening : Opening verb) {C : Text → Command} (read : ∀ word, command_of (verb ++ [word]) none = C word)
    (missing : ∀ trailing, command_of verb trailing = C []) (injective : ∀ word, C [] = C word → word = [])
    (parsed : ∀ line word, Parsed line (C word) → Word line word) (word : Text) :
    parse_command (Text.join [' '] verb ++ ' ' :: word) = C word ↔ Call.Argument word := by
  obtain ⟨first, starts, apart⟩ := opening.starts
  have begins (more : Text) : (Text.join [' '] verb ++ more).head? = some first := by
    rw [List.head?_append, starts]
    rfl
  constructor
  · intro parses
    rcases argument_or_colon (parsed _ _ (parses ▸ parsed_command _)) with argument | ⟨more, rfl⟩
    · exact argument
    · have trailing := @parts_of_trailing verb opening [] (by simp) more
      rw [List.append_nil] at trailing
      rw [parse_command_eq, trailing, missing] at parses
      exact absurd (injective _ parses) (by simp)
  · rintro (rfl | isWord)
    · have alone : splitOnce [' ', ':'] (Text.join [' '] verb ++ [' ']) = none := by
        rw [splitOnce_colon_behind ((splitOnce_none_iff (by simp)).mp (alone_join opening.2.1)) (by simp)]
        rfl
      have blank : splitWhitespace (Text.join [' '] verb ++ [' ']) = verb := by
        rw [splitWhitespace, words_behind (by simp; decide)]
        exact splitWhitespace_join opening.2.1
      rw [parse_command_eq, parts_of_unbroken (begins [' ']) apart ((splitOnce_none_iff (by simp)).mp alone), blank, missing]
    · have more := opening.snoc isWord
      have joined := join_snoc opening.1 word
      rw [parse_command_eq, ← joined, parts_of_unbroken (by rw [joined]; exact begins _) apart
        ((splitOnce_none_iff (by simp)).mp (alone_join more.2.1)), splitWhitespace_join more.2.1, read]

/-- A command with one argument and a text. -/
theorem argument_and_text_iff (opening : Opening verb) {C : Text → Text → Command}
    (read : ∀ word text, command_of (verb ++ [word]) (some text) = C word text)
    (missing : ∀ text, command_of verb (some text) = C [] text) (injective : ∀ word text text', C [] text = C word text' → word = [])
    (parsed : ∀ line word text, Parsed line (C word text) → Word line word) (word text : Text) :
    parse_command (Text.join [' '] verb ++ ' ' :: word ++ ' ' :: ':' :: text) = C word (text.rdropWhile rustSpace) ↔
      Call.Argument word := by
  constructor
  · intro parses
    rcases argument_or_colon (parsed _ _ _ (parses ▸ parsed_command _)) with argument | ⟨more, rfl⟩
    · exact argument
    · have trailing := @parts_of_trailing verb opening [] (by simp) (more ++ ' ' :: ':' :: text)
      rw [List.append_nil] at trailing
      rw [List.append_assoc, List.cons_append, List.cons_append, parse_command_eq, trailing, missing] at parses
      exact absurd (injective _ _ _ parses) (by simp)
  · rintro (rfl | isWord)
    · rw [parse_command_eq, parts_of_trailing opening (by simp) text, missing]
    · have trailing := @parts_of_trailing _ (opening.snoc isWord) [] (by simp) text
      rw [List.append_nil, join_snoc opening.1] at trailing
      rw [parse_command_eq, trailing, read]

/-! ## Numbers -/

theorem decimal_isWord (n : Int) : IsWord (decimal n) := by
  have visible : ∀ c ∈ decimal n, rustSpace c = false := by
    intro c inside
    have shown := (printable_of_mem_decimal inside).1
    rw [pythonSpace, Bool.or_eq_false_iff] at shown
    exact shown.1
  refine ⟨?_, visible, ?_⟩
  · intro none
    have number := pythonInt_decimal n
    rw [none] at number
    cases number
  · intro begins
    rcases mem_decimal (List.mem_of_mem_head? begins) with sign | digit
    · cases sign
    · cases digit

theorem parseI64_decimal (n : Int) : parseI64 (decimal n) = if Call.InRange n then some n else none := by
  rcases decimal_cases n with ⟨positive, printed⟩ | ⟨negative, printed⟩
  · rw [printed]
    have number := digits_toDigits n.toNat
    rw [Int.toNat_of_nonneg positive] at number
    have all : ∀ c ∈ Nat.toDigits 10 n.toNat, c.isDigit = true := fun c inside =>
      Nat.isDigit_of_mem_toDigits (by decide) (by decide) inside
    unfold parseI64
    split
    · next ds split =>
      have sign := all '-' (by rw [split]; exact List.mem_cons_self)
      cases sign
    · next ds split =>
      have sign := all '+' (by rw [split]; exact List.mem_cons_self)
      cases sign
    · rw [number]
      rfl
  · rw [printed]
    have number := digits_toDigits (-n).toNat
    rw [Int.toNat_of_nonneg (by omega)] at number
    simp [parseI64, number, Call.InRange]
    rfl

/-- A number is read back when it is in the range of the server's. -/
theorem number_iff {n default : Int} (bounded : Call.InRange default) : number (some (decimal n)) default = n ↔ Call.InRange n := by
  rw [number, Option.bind_some, parseI64_decimal]
  split
  · next inside => exact iff_of_true rfl inside
  · next outside => exact iff_of_false (fun same => outside (same ▸ bounded)) outside

namespace Call

/-! ## One call -/

theorem no_line_feed {word : Text} (argument : Argument word) : '\n' ∉ word := by
  rcases argument with rfl | ⟨_, visible, _⟩
  · exact List.not_mem_nil
  · intro inside
    have space := visible '\n' inside
    revert space
    decide

theorem unbroken_of_spaced {t : Text} (spaced : Spaced t) : '\n' ∉ t := by
  intro inside
  rw [← spaced.1] at inside
  rcases mem_join inside with between | ⟨word, listed, here⟩
  · cases List.mem_singleton.mp between
  · have visible := ((mem_words listed).2 '\n' here).1
    revert visible
    decide

/-- The first trailing parameter of a line that has one. -/
theorem first_colon (before after : Text) : ∃ first rest : Text,
    before ++ ' ' :: ':' :: after = first ++ ' ' :: ':' :: rest ∧ ¬ [' ', ':'] <:+: first := by
  by_cases broken : [' ', ':'] <:+: before
  · obtain ⟨start, stop, same⟩ := broken
    have shorter : start.length < before.length := by
      rw [← same]
      simp
    obtain ⟨first, rest, split, alone⟩ := first_colon start (stop ++ ' ' :: ':' :: after)
    exact ⟨first, rest, by rw [← split, ← same]; simp, alone⟩
  · exact ⟨before, after, rfl, broken⟩
termination_by before.length

theorem heard_pass (token : Text) : parse_command ("PASS ".toList ++ token) = .Pass token ↔ Spaced token := by
  have whole : "PASS ".toList ++ token = "PASS".toList ++ ' ' :: token := rfl
  have begins (more : Text) : ("PASS".toList ++ more).head? = some 'P' := rfl
  have unspaced : ' ' ∉ "PASS".toList := by decide
  rw [whole]
  by_cases broken : [' ', ':'] <:+: ' ' :: token
  · obtain ⟨start, stop, same⟩ := broken
    obtain ⟨first, rest, split, alone⟩ := first_colon start stop
    have parts : ' ' :: token = first ++ ' ' :: ':' :: rest := by
      rw [← split, ← same]
      simp
    have outside : ¬ Spaced token := by
      rintro ⟨_, uncoloned, unbroken⟩
      have inside : [' ', ':'] <:+: ' ' :: token := ⟨start, stop, same⟩
      rw [List.infix_cons_iff] at inside
      rcases inside with ⟨more, here⟩ | later
      · rw [List.cons_append, List.cons_append, List.nil_append, List.cons.injEq] at here
        exact uncoloned (by rw [← here.2]; rfl)
      · exact unbroken later
    refine iff_of_false ?_ outside
    intro parses
    have alone' : ¬ [' ', ':'] <:+: "PASS".toList ++ first := by
      rw [← splitOnce_none_iff (by simp), splitOnce_skip unspaced, (splitOnce_none_iff (by simp)).mpr alone]
      rfl
    have read : splitWhitespace ("PASS".toList ++ first) = "PASS".toList :: words rustSpace first := by
      cases first with
      | nil => rw [List.append_nil, words_nil]; exact words_single (by decide) (clean_of_any (by decide))
      | cons c more =>
        rw [List.cons_append, List.cons.injEq] at parts
        rw [splitWhitespace, ← parts.1, words_append (by decide) (clean_of_any (by decide)) (by decide), words_cons (by decide)]
    rw [parts, ← List.append_assoc, parse_command_eq, parts_of_eq, cut,
      split_trailing_of_words (begins first) (by decide) alone'] at parses
    dsimp only at parses
    rw [read] at parses
    have read_back : Text.join [' '] (words rustSpace first) = token := Command.Pass.inj parses
    have shorter := length_join_words first
    have lengths := congrArg List.length parts
    rw [List.length_append, List.length_cons, List.length_cons, List.length_cons] at lengths
    rw [read_back] at shorter
    omega
  · have read : splitWhitespace ("PASS".toList ++ ' ' :: token) = "PASS".toList :: splitWhitespace token :=
      words_append (by decide) (clean_of_any (by decide)) (by decide)
    have alone : ¬ [' ', ':'] <:+: "PASS".toList ++ ' ' :: token := by
      rw [← splitOnce_none_iff (by simp), splitOnce_skip unspaced, (splitOnce_none_iff (by simp)).mpr broken]
      rfl
    have parses : parse_command ("PASS".toList ++ ' ' :: token) = .Pass (Text.join [' '] (splitWhitespace token)) := by
      rw [parse_command_eq, parts_of_unbroken (begins _) (by decide) alone, read]
      rfl
    rw [parses, Command.Pass.injEq]
    constructor
    · intro same
      refine ⟨same, ?_, fun inside => broken (inside.trans (List.infix_cons List.infix_rfl))⟩
      intro colon
      obtain ⟨more, rfl⟩ := List.head?_eq_some_iff.mp colon
      exact broken ⟨[], more, rfl⟩
    · intro spaced
      exact spaced.1

theorem heard_user (name : Text) :
    parse_command ("USER ".toList ++ name ++ " 0 * :aircd agent".toList) = .User name ↔ IsWord name := by
  constructor
  · intro parses
    have word : Word _ name := parses ▸ parsed_command _
    rcases argument_or_colon word with (rfl | isWord) | ⟨more, rfl⟩
    · revert parses
      decide
    · exact isWord
    · have trailing := @parts_of_trailing ["USER".toList] (by decide) [] (by simp) (more ++ " 0 * :aircd agent".toList)
      have same : "USER ".toList ++ ':' :: more ++ " 0 * :aircd agent".toList =
          Text.join [' '] ["USER".toList] ++ [] ++ ' ' :: ':' :: (more ++ " 0 * :aircd agent".toList) := rfl
      rw [same, parse_command_eq, trailing] at parses
      cases parses
  · intro isWord
    have opening : Opening ["USER".toList, name, ['0'], ['*']] := by
      refine ⟨by simp, ?_, by rw [head_join (by decide)]; decide⟩
      intro word listed
      simp only [List.mem_cons, List.not_mem_nil, or_false] at listed
      rcases listed with rfl | rfl | rfl | rfl
      · decide
      · exact isWord
      · decide
      · decide
    have same : "USER ".toList ++ name ++ " 0 * :aircd agent".toList =
        Text.join [' '] ["USER".toList, name, ['0'], ['*']] ++ [] ++ ' ' :: ':' :: "aircd agent".toList := by
      simp [Text.join]
    rw [same, parse_command_eq, parts_of_trailing opening (by simp)]
    rfl

theorem chathistory_line (channel after_seq limit : Text) :
    "CHATHISTORY AFTER ".toList ++ channel ++ [' '] ++ after_seq ++ [' '] ++ limit =
      Text.join [' '] ["CHATHISTORY".toList, "AFTER".toList] ++ ' ' :: (channel ++ ' ' :: (after_seq ++ ' ' :: limit)) := by
  have words : "CHATHISTORY AFTER ".toList = Text.join [' '] ["CHATHISTORY".toList, "AFTER".toList] ++ [' '] := by decide
  rw [words]
  simp only [List.append_assoc, List.cons_append, List.nil_append]

/-- The line of `history`. -/
def history_line (channel : Text) (after_seq limit : Int) : Text :=
  "CHATHISTORY AFTER ".toList ++ channel ++ [' '] ++ decimal after_seq ++ [' '] ++ decimal limit

theorem heard_history (channel : Text) (after_seq limit : Int) :
    parse_command (history_line channel after_seq limit) = .History (some channel) after_seq limit ↔
      IsWord channel ∧ channel.head? = some '#' ∧ InRange after_seq ∧ InRange limit := by
  have numbers := decimal_isWord after_seq
  have numbers' := decimal_isWord limit
  have whole : history_line channel after_seq limit = Text.join [' '] ["CHATHISTORY".toList, "AFTER".toList] ++
      ' ' :: (channel ++ ' ' :: (decimal after_seq ++ ' ' :: decimal limit)) :=
    chathistory_line channel (decimal after_seq) (decimal limit)
  by_cases isWord : IsWord channel
  · have opening : Opening ["CHATHISTORY".toList, "AFTER".toList, channel, decimal after_seq, decimal limit] := by
      refine ⟨by simp, ?_, by rw [head_join (by decide)]; decide⟩
      intro word listed
      simp only [List.mem_cons, List.not_mem_nil, or_false] at listed
      rcases listed with rfl | rfl | rfl | rfl | rfl
      · decide
      · decide
      · exact isWord
      · exact numbers
      · exact numbers'
    have joined : Text.join [' '] ["CHATHISTORY".toList, "AFTER".toList, channel, decimal after_seq, decimal limit] =
        Text.join [' '] ["CHATHISTORY".toList, "AFTER".toList] ++
          ' ' :: (channel ++ ' ' :: (decimal after_seq ++ ' ' :: decimal limit)) := by
      simp only [Text.join, List.append_assoc, List.cons_append, List.nil_append]
    have read : parse_command (history_line channel after_seq limit) =
        parse_chathistory ["AFTER".toList, channel, decimal after_seq, decimal limit] := by
      rw [whole, ← joined, parse_command_eq, parts_of_plain opening.2.1 (by decide)]
      rfl
    by_cases named : channel.head? = some '#'
    · rw [read, chathistory_after_channel (by decide) named]
      have first := @number_iff after_seq 0 (by decide)
      have second := @number_iff limit 100 (by decide)
      simp [isWord, named, first, second]
    · rw [read, chathistory_after_number (by decide) (by simpa using named)]
      simp [named]
  · refine iff_of_false ?_ (fun proper => isWord proper.1)
    intro parses
    have parsed := parsed_command (history_line channel after_seq limit)
    rw [parses] at parsed
    rcases argument_or_colon (parsed channel rfl) with (rfl | good) | ⟨more, rfl⟩
    · have verbs : ∀ word ∈ ["CHATHISTORY".toList, "AFTER".toList], IsWord word := by decide
      have both : ∀ word ∈ [decimal after_seq, decimal limit], IsWord word := by
        intro word listed
        rcases List.mem_pair.mp listed with rfl | rfl
        · exact numbers
        · exact numbers'
      have parts : history_line [] after_seq limit = Text.join [' '] ["CHATHISTORY".toList, "AFTER".toList] ++
          ([' ', ' '] ++ Text.join [' '] [decimal after_seq, decimal limit]) := by
        rw [whole]
        simp only [Text.join, List.nil_append, List.cons_append, List.append_assoc]
      have alone : splitOnce [' ', ':'] (history_line [] after_seq limit) = none := by
        rw [parts, splitOnce_colon_behind ((splitOnce_none_iff (by simp)).mp (alone_join verbs)) (by simp),
          splitOnce_colon_behind (by decide) (by rw [head_join numbers.1]; exact numbers.2.2), alone_join both]
        rfl
      have read : splitWhitespace (history_line [] after_seq limit) =
          ["CHATHISTORY".toList, "AFTER".toList, decimal after_seq, decimal limit] := by
        rw [parts, List.cons_append, splitWhitespace, words_split (by decide), List.cons_append, words_cons (by decide), List.nil_append]
        exact congrArg₂ _ (splitWhitespace_join verbs) (splitWhitespace_join both)
      have unnamed : (decimal after_seq).head? ≠ some '#' := by
        intro hash
        rcases mem_decimal (List.mem_of_mem_head? hash) with sign | digit
        · cases sign
        · cases digit
      have none := @chathistory_after_number "AFTER".toList (by decide) [decimal after_seq, decimal limit] (by simpa using unnamed)
      rw [parse_command_eq, @parts_of_unbroken _ 'C' rfl (by decide) ((splitOnce_none_iff (by simp)).mp alone), read] at parses
      cases none.symm.trans parses
    · exact isWord good
    · have trailing := @parts_of_trailing ["CHATHISTORY".toList, "AFTER".toList] (by decide) [] (by simp)
        (more ++ ' ' :: (decimal after_seq ++ ' ' :: decimal limit))
      rw [List.append_nil] at trailing
      rw [whole, List.cons_append, parse_command_eq, trailing] at parses
      cases parses

theorem heard_argument (opening : Opening verb) {C : Text → Command} (read : ∀ word, command_of (verb ++ [word]) none = C word)
    (missing : ∀ trailing, command_of verb trailing = C []) (injective : ∀ word, C [] = C word → word = [])
    (parsed : ∀ line word, Parsed line (C word) → Word line word) (clean : '\n' ∉ Text.join [' '] verb) (word : Text) :
    '\n' ∉ Text.join [' '] verb ++ ' ' :: word ∧ parse_command (Text.join [' '] verb ++ ' ' :: word) = C word ↔ Argument word := by
  rw [argument_iff opening read missing injective parsed, and_iff_right_iff_imp]
  intro argument
  simp [clean, no_line_feed argument]

theorem heard_text (opening : Opening verb) {C : Text → Text → Command}
    (read : ∀ word text, command_of (verb ++ [word]) (some text) = C word text)
    (missing : ∀ text, command_of verb (some text) = C [] text) (injective : ∀ word text text', C [] text = C word text' → word = [])
    (parsed : ∀ line word text, Parsed line (C word text) → Word line word) (clean : '\n' ∉ Text.join [' '] verb)
    (word text : Text) :
    '\n' ∉ Text.join [' '] verb ++ ' ' :: word ++ [' ', ':'] ++ text ∧
      parse_command (Text.join [' '] verb ++ ' ' :: word ++ [' ', ':'] ++ text) = C word (text.rdropWhile rustSpace) ↔
    Argument word ∧ '\n' ∉ text := by
  have parts : Text.join [' '] verb ++ ' ' :: word ++ [' ', ':'] ++ text =
      Text.join [' '] verb ++ ' ' :: word ++ ' ' :: ':' :: text := by
    rw [List.append_assoc _ [' ', ':'] text]
    rfl
  rw [parts, argument_and_text_iff opening read missing injective parsed, and_comm, and_congr_right_iff]
  intro argument
  simp [clean, no_line_feed argument]

/-- The server reads the bytes of a call as the command of that call alone exactly when its arguments are proper. -/
theorem heard_iff (call : Call) : commands call.bytes = [some call.command] ↔ call.Proper := by
  rw [bytes, one_command_iff, encodable_line, Proper]
  refine and_congr_right (fun _ => ?_)
  cases call with
  | cap_ls => exact iff_of_true (by decide) trivial
  | cap_req => exact iff_of_true (by decide) trivial
  | pass token =>
    simp only [line, command, Whole, PyString.text_append, PyString.text_lit]
    refine Iff.trans (and_iff_right_of_imp ?_) (heard_pass token.text)
    intro parses
    show '\n' ∉ "PASS ".toList ++ token.text
    rw [List.mem_append, not_or]
    exact ⟨by decide, unbroken_of_spaced ((heard_pass token.text).mp parses)⟩
  | nick name =>
    simp only [line, command, Whole, PyString.text_append, PyString.text_lit]
    exact @heard_argument ["NICK".toList] (by decide) .Nick (fun _ => rfl) (fun _ => rfl)
      (fun _ same => (Command.Nick.inj same).symm) (fun _ _ parsed => parsed) (by decide) name.text
  | user name =>
    simp only [line, command, Whole, PyString.text_append, PyString.text_lit]
    refine Iff.trans (and_iff_right_of_imp ?_) (heard_user name.text)
    intro parses
    show '\n' ∉ "USER ".toList ++ name.text ++ " 0 * :aircd agent".toList
    rw [List.mem_append, List.mem_append, not_or, not_or]
    exact ⟨⟨by decide, no_line_feed (.inr ((heard_user name.text).mp parses))⟩, by decide⟩
  | cap_end => exact iff_of_true (by decide) trivial
  | pong token =>
    simp only [line, command, Whole, PyString.text_append, PyString.text_lit]
    have parts : "PONG :".toList ++ token.text = Text.join [' '] ["PONG".toList] ++ [] ++ ' ' :: ':' :: token.text := rfl
    have parses : parse_command ("PONG :".toList ++ token.text) = .Pong := by
      rw [parts, parse_command_eq, parts_of_trailing (by decide) (by simp)]
      rfl
    have clean : '\n' ∉ "PONG :".toList ++ token.text ↔ '\n' ∉ token.text := by
      rw [parts]
      simp [Text.join]
    rw [parses, clean]
    exact and_iff_left rfl
  | quit => exact iff_of_true (by decide) trivial
  | join channel =>
    simp only [line, command, Whole, PyString.text_append, PyString.text_lit]
    exact @heard_argument ["JOIN".toList] (by decide) .Join (fun _ => rfl) (fun _ => rfl)
      (fun _ same => (Command.Join.inj same).symm) (fun _ _ parsed => parsed) (by decide) channel.text
  | part channel =>
    simp only [line, command, Whole, PyString.text_append, PyString.text_lit]
    exact @heard_argument ["PART".toList] (by decide) .Part (fun _ => rfl) (fun _ => rfl)
      (fun _ same => (Command.Part.inj same).symm) (fun _ _ parsed => parsed) (by decide) channel.text
  | privmsg target text =>
    simp only [line, command, Whole, PyString.text_append, PyString.text_lit]
    exact @heard_text ["PRIVMSG".toList] (by decide) .Privmsg (fun _ _ => rfl) (fun _ => rfl)
      (fun _ _ _ same => (Command.Privmsg.inj same).1.symm) (fun _ _ _ parsed => parsed.1) (by decide) target.text text.text
  | history channel after_seq limit =>
    simp only [line, command, Whole, PyString.text_append, PyString.text_lit, PyString.text_ofText]
    refine Iff.trans (and_iff_right_of_imp ?_) (heard_history channel.text after_seq limit)
    intro parses
    have whole : history_line channel.text after_seq limit = Text.join [' '] ["CHATHISTORY".toList, "AFTER".toList] ++
        ' ' :: (channel.text ++ ' ' :: (decimal after_seq ++ ' ' :: decimal limit)) :=
      chathistory_line channel.text (decimal after_seq) (decimal limit)
    have words : '\n' ∉ Text.join [' '] ["CHATHISTORY".toList, "AFTER".toList] := by decide
    have clean := no_line_feed (.inr ((heard_history channel.text after_seq limit).mp parses).1)
    have first := no_line_feed (.inr (decimal_isWord after_seq))
    have second := no_line_feed (.inr (decimal_isWord limit))
    show '\n' ∉ history_line channel.text after_seq limit
    rw [whole]
    simp only [List.mem_append, List.mem_cons, words, clean, first, second, or_false]
    decide
  | task_create channel title =>
    simp only [line, command, Whole, PyString.text_append, PyString.text_lit]
    exact @heard_text ["TASK".toList, "CREATE".toList] (by decide) .TaskCreate (fun _ _ => rfl) (fun _ => rfl)
      (fun _ _ _ same => (Command.TaskCreate.inj same).1.symm) (fun _ _ _ parsed => parsed.1) (by decide) channel.text title.text
  | task_claim task_id =>
    simp only [line, command, Whole, PyString.text_append, PyString.text_lit]
    exact @heard_argument ["TASK".toList, "CLAIM".toList] (by decide) .TaskClaim (fun _ => rfl) (fun _ => rfl)
      (fun _ same => (Command.TaskClaim.inj same).symm) (fun _ _ parsed => parsed) (by decide) task_id.text
  | task_done task_id =>
    simp only [line, command, Whole, PyString.text_append, PyString.text_lit]
    exact @heard_argument ["TASK".toList, "DONE".toList] (by decide) .TaskDone (fun _ => rfl) (fun _ => rfl)
      (fun _ same => (Command.TaskDone.inj same).symm) (fun _ _ parsed => parsed) (by decide) task_id.text
  | task_release task_id =>
    simp only [line, command, Whole, PyString.text_append, PyString.text_lit]
    exact @heard_argument ["TASK".toList, "RELEASE".toList] (by decide) .TaskRelease (fun _ => rfl) (fun _ => rfl)
      (fun _ same => (Command.TaskRelease.inj same).symm) (fun _ _ parsed => parsed) (by decide) task_id.text
  | task_list channel =>
    simp only [line, command, Whole, PyString.text_append, PyString.text_lit]
    exact @heard_argument ["TASK".toList, "LIST".toList] (by decide) .TaskList (fun _ => rfl) (fun _ => rfl)
      (fun _ same => (Command.TaskList.inj same).symm) (fun _ _ parsed => parsed) (by decide) channel.text

/-! ## A stream of calls -/

/-- Commands of a stream that goes on behind the end of a line. -/
theorem commands_written_append (line : PyString) (rest : List UInt8) :
    commands (written line ++ rest) = commands (written line) ++ commands rest := by
  by_cases encodable : line.Encodable
  · have ended : written line = encode (line.text ++ ['\r']) ++ [10] := by
      have ends : encode ['\n'] = [10] := encode_singleton (by decide)
      rw [written, send_encodable encodable, Option.getD_some, ← ends, ← encode_append, List.append_assoc]
      rfl
    rw [commands, lines, ended, List.append_assoc, List.singleton_append, Lines.frames_ended, List.map_append, List.map_append]
    rfl
  · rw [written, send_unencodable encodable, Option.getD_none]
    rfl

/-- The calls come first among the commands of a stream, in their order. -/
theorem commands_calls (calls : List Call) (proper : ∀ call ∈ calls, call.Proper) (rest : List UInt8) :
    commands (calls.flatMap bytes ++ rest) = calls.map (fun call => some call.command) ++ commands rest := by
  induction calls with
  | nil => rfl
  | cons call calls ih =>
    obtain ⟨first, later⟩ := List.forall_mem_cons.mp proper
    rw [List.flatMap_cons, bytes, List.append_assoc, commands_written_append, ih later, ← bytes, (heard_iff call).mpr first]
    rfl

/-- What the server reads of everything that is written on one connection is the calls, in their order: nothing is
lost, added or run together. And a single call is read as itself only with proper arguments. -/
theorem calls_are_heard (calls : List Call) (proper : ∀ call ∈ calls, call.Proper) :
    commands (calls.flatMap bytes) = calls.map (fun call => some call.command) ∧
    ∀ call : Call, commands call.bytes = [some call.command] ↔ call.Proper := by
  refine ⟨?_, heard_iff⟩
  have whole := commands_calls calls proper []
  rw [List.append_nil] at whole
  exact whole.trans (List.append_nil _)

/-- A small session, with a token of two words and a text that looks like a trailing parameter. -/
theorem calls_are_heard_session :
    commands ([Call.pass (lit "a b"), .join (lit "#c"), .privmsg (lit "#c") (lit "TASK CLAIM :t1 "),
        .history (lit "#c") (-1) 50].flatMap bytes) =
      [some (.Pass "a b".toList), some (.Join "#c".toList), some (.Privmsg "#c".toList "TASK CLAIM :t1".toList),
        some (.History (some "#c".toList) (-1) 50)] :=
  (calls_are_heard [.pass (lit "a b"), .join (lit "#c"), .privmsg (lit "#c") (lit "TASK CLAIM :t1 "),
    .history (lit "#c") (-1) 50] (by decide)).1

end Call
end Aircd.Client

import Aircd.Parsing

/-!
# Two spellings of one line

Tags and a prefix may come before a command, and IRC lets the last parameter be
written with a colon. The parser strips the tags and the prefix of any line. Each
verb decides for itself whether it looks at what is written with a colon.
-/
namespace Aircd.Protocol
open Aircd.Text

/-! ## Tags and a prefix -/

/-- The words of a line that is stripped, and its trailing parameter. -/
def cut (line : Text) : List Text × Option Text :=
  let (head, trailing) := split_trailing line
  (splitWhitespace head, trailing)

theorem parts_of_eq (line : Text) : parts_of line = cut ( strip_tags_and_prefix (trim line)) := rfl

theorem cut_blanks {blanks line : Text} (all : ∀ c ∈ blanks, rustSpace c = true) (apart : line.head? ≠ some ':') :
    cut (blanks ++ line) = cut line := by
  have alone : ¬ [' ', ':'] <:+: blanks := by
    intro inside
    have colon := all ':' (inside.subset (by simp))
    revert colon
    decide
  simp only [cut, split_trailing, splitOnce_colon_behind alone apart, splitWhitespace]
  cases splitOnce [' ', ':'] line with
  | none => rw [Option.map_none, words_blanks all]
  | some parts => rw [Option.map_some, words_blanks all]

theorem stripped_bare {line : Text} (untagged : line.head? ≠ some '@') (unprefixed : line.head? ≠ some ':') :
    strip_tags_and_prefix line = line := by
  simp [ strip_tags_and_prefix, untagged, unprefixed]

theorem stripped_source {p : Text} (unspaced : ' ' ∉ p) (line : Text) :
    strip_tags_and_prefix (':' :: p ++ ' ' :: line) = line := by
  have found : splitOnce [' '] (':' :: p ++ ' ' :: line) = some (':' :: p, line) := splitOnce_char (by simp [unspaced])
  have begins : (':' :: p ++ ' ' :: line).head? = some ':' := rfl
  generalize ':' :: p ++ ' ' :: line = whole at found begins ⊢
  simp [ strip_tags_and_prefix, begins, found]

/-- Behind its tags a line is stripped as it would be alone. -/
theorem stripped_tags {t line : Text} (unspaced : ' ' ∉ t) (untagged : line.head? ≠ some '@') :
    strip_tags_and_prefix ('@' :: t ++ ' ' :: line) = strip_tags_and_prefix line := by
  have found : splitOnce [' '] ('@' :: t ++ ' ' :: line) = some ('@' :: t, line) := splitOnce_char (by simp [unspaced])
  have begins : ('@' :: t ++ ' ' :: line).head? = some '@' := rfl
  generalize '@' :: t ++ ' ' :: line = whole at found begins ⊢
  simp [ strip_tags_and_prefix, begins, found, untagged]

/-- Tags and a prefix change no command, whatever blanks and colons are in its line. -/
theorem tags_and_source_ignored {line t p : Text} {first : Char} (starts : (trim line).head? = some first)
    (word : first ≠ '@' ∧ first ≠ ':') (tags : ' ' ∉ t) (source : ' ' ∉ p) :
    parse_command ('@' :: t ++ ' ' :: line) = parse_command line ∧
    parse_command (':' :: p ++ ' ' :: line) = parse_command line ∧
    parse_command ('@' :: t ++ ' ' :: ':' :: p ++ ' ' :: line) = parse_command line := by
  have blanks : ∀ c ∈ line.takeWhile rustSpace, rustSpace c = true := fun c inside => List.mem_takeWhile_imp inside
  have bare : (trim line).head? ≠ some '@' ∧ (trim line).head? ≠ some ':' := by simpa [starts] using word
  have open' (c : Char) (other : (trim line).head? ≠ some c) (visible : rustSpace c = false) :
      (line.takeWhile rustSpace ++ trim line).head? ≠ some c := by
    cases before : line.takeWhile rustSpace with
    | nil => exact other
    | cons blank rest =>
      have here := blanks blank (by rw [before]; exact List.mem_cons_self)
      intro same
      rw [Option.some.inj same, visible] at here
      cases here
  have same : cut (line.takeWhile rustSpace ++ trim line) = parts_of line := by
    rw [cut_blanks blanks bare.2, parts_of_eq, stripped_bare bare.1 bare.2]
  have untagged := open' '@' bare.1 (by decide)
  have unprefixed := open' ':' bare.2 (by decide)
  have behind {before : Text} {c : Char} (begins : before.head? = some c) (visible : rustSpace c = false)
      (stripped : strip_tags_and_prefix (before ++ (line.takeWhile rustSpace ++ trim line)) =
        line.takeWhile rustSpace ++ trim line) : parse_command (before ++ line) = parse_command line := by
    rw [parse_command_eq, parse_command_eq, parts_of_eq, trim_behind begins visible starts, stripped, same]
  refine ⟨?_, ?_, ?_⟩
  · have tagged := @behind ('@' :: t ++ [' ']) '@' rfl (by decide) (by
      have stripped := stripped_tags tags untagged
      rw [stripped_bare untagged unprefixed] at stripped
      simpa using stripped)
    simpa using tagged
  · have prefixed := @behind (':' :: p ++ [' ']) ':' rfl (by decide) (by simpa using stripped_source source _)
    simpa using prefixed
  · have both := @behind ('@' :: t ++ ' ' :: ':' :: p ++ [' ']) '@' rfl (by decide) (by
      have stripped := @stripped_tags t (':' :: p ++ ' ' :: (line.takeWhile rustSpace ++ trim line)) tags (by simp)
      rw [stripped_source source] at stripped
      simpa using stripped)
    simpa using both

theorem tags_and_source_ignored_privmsg :
    parse_command "@seq=1;a=:x :alice   privmsg\t#c  : hello :world ".toList = .Privmsg "#c".toList " hello :world".toList := by
  have same := (@tags_and_source_ignored "  privmsg\t#c  : hello :world ".toList "seq=1;a=:x".toList "alice".toList 'p'
    (by decide) (by decide) (by decide) (by decide)).2.2
  have bare : parse_command "  privmsg\t#c  : hello :world ".toList = .Privmsg "#c".toList " hello :world".toList := by decide
  exact same.trans bare

/-! ## The last parameter -/

/-- What may stand between two spaces. -/
def IsWord (word : Text) : Prop := word ≠ [] ∧ (∀ c ∈ word, rustSpace c = false) ∧ word.head? ≠ some ':'
instance (word : Text) : Decidable (IsWord word) := @instDecidableAnd _ _ _ (@instDecidableAnd _ _ (List.decidableBAll _ word) _)

theorem head_join {word : Text} (some : word ≠ []) (rest : List Text) : (join [' '] (word :: rest)).head? = word.head? := by
  obtain ⟨c, more, rfl⟩ := List.exists_cons_of_ne_nil some
  cases rest with
  | nil => rfl
  | cons _ _ => rw [join.eq_3 _ _ _ (by simp)]; rfl

theorem alone_join : ∀ {list : List Text}, (∀ word ∈ list, IsWord word) → splitOnce [' ', ':'] (join [' '] list) = none
  | [], _ => rfl
  | [word], all => by
    rw [splitOnce_none_iff (by simp)]
    exact no_colon_of_no_space (space_of_rustSpace (all word (by simp)).2.1)
  | word :: next :: rest, all => by
    have later := @alone_join (next :: rest) (fun other inside => all other (by simp [inside]))
    have begins : (join [' '] (next :: rest)).head? = next.head? := head_join (all next (by simp)).1 rest
    have first : ¬ [' ', ':'] <:+: word ++ [' '] := by
      intro inside
      have before := no_colon_of_no_space (space_of_rustSpace (all word (by simp)).2.1)
      obtain ⟨start, stop, whole⟩ := inside
      rcases List.eq_nil_or_concat stop with rfl | ⟨stop, c, rfl⟩
      · have ends := congrArg List.getLast? whole
        simp at ends
      · rw [List.concat_eq_append, ← List.append_assoc] at whole
        exact before ⟨start, stop, (List.append_inj' whole rfl).1⟩
    rw [join.eq_3 _ _ _ (by simp), splitOnce_colon_behind first (by rw [begins]; exact (all next (by simp)).2.2), later]
    rfl

theorem splitWhitespace_join {list : List Text} (all : ∀ word ∈ list, IsWord word) :
    splitWhitespace (join [' '] list) = list :=
  words_join (by decide) (fun word inside => ⟨(all word inside).1, (all word inside).2.1⟩)

/-- The words of a line that are written plainly. -/
theorem parts_of_plain {verb : Text} {params : List Text} (all : ∀ word ∈ verb :: params, IsWord word)
    (untagged : verb.head? ≠ some '@') : parts_of (join [' '] (verb :: params)) = (verb :: params, none) := by
  obtain ⟨nonempty, visible, uncoloned⟩ := all verb List.mem_cons_self
  obtain ⟨first, more, rfl⟩ := List.exists_cons_of_ne_nil nonempty
  have begins : (join [' '] ((first :: more) :: params)).head? = some first := head_join nonempty params
  have some : join [' '] ((first :: more) :: params) ≠ [] := by
    intro none
    rw [none] at begins
    cases begins
  have ends := List.getLast?_eq_some_getLast some
  have trimmed := @trim_append _ [] _ _ begins ends (visible first List.mem_cons_self)
    (last_of_join (fun other inside => ⟨(all other inside).1, (all other inside).2.1⟩) ends)
  rw [List.append_nil, List.rdropWhile_nil, List.append_nil] at trimmed
  rw [parts_of_eq, trimmed, stripped_bare (by rw [begins]; exact untagged) (by rw [begins]; exact uncoloned), cut,
    split_trailing, alone_join all]
  dsimp only
  rw [splitWhitespace_join all]

/-- The words of a line whose last parameter is written with a colon. -/
theorem parts_of_colon {verb last : Text} {params : List Text} (all : ∀ word ∈ verb :: params, IsWord word)
    (untagged : verb.head? ≠ some '@') (word : IsWord last) :
    parts_of (join [' '] (verb :: params) ++ ' ' :: ':' :: last) = (verb :: params, some last) := by
  obtain ⟨nonempty, visible, uncoloned⟩ := all verb List.mem_cons_self
  obtain ⟨first, more, rfl⟩ := List.exists_cons_of_ne_nil nonempty
  have begins : (join [' '] ((first :: more) :: params)).head? = some first := head_join nonempty params
  have kept : last.rdropWhile rustSpace = last := by
    rw [List.rdropWhile_eq_self_iff]
    intro some
    simp [word.2.1 _ (List.getLast_mem some)]
  have split := @split_trailing_of_words _ last first begins
    ⟨visible first List.mem_cons_self, fun same => untagged (by rw [same]; rfl), fun same => uncoloned (by rw [same]; rfl)⟩
    ((splitOnce_none_iff (by simp)).mp (alone_join all))
  rw [parts_of_eq, cut, split, kept]
  dsimp only
  rw [splitWhitespace_join all]

/-! ### Where the two agree -/

/-- A number that comes first or second among the numbers of a command is read as the one that stands for a missing one. -/
def ReadsAsMissing (position : Nat) (last : Text) : Prop :=
  match position with
  | 0 => number (some last) 0 = 0
  | 1 => number (some last) 100 = 100
  | _ => True

instance (position : Nat) (last : Text) : Decidable (ReadsAsMissing position last) :=
  match position with
  | 0 => inferInstanceAs (Decidable (_ = _))
  | 1 => inferInstanceAs (Decidable (_ = _))
  | _ + 2 => inferInstanceAs (Decidable True)

/-- The parameters of CHATHISTORY before the last one decide what the last one is. -/
def ColonReadsChathistory (init : List Text) (last : Text) : Prop :=
  match init with
  | [] => toAsciiUppercase last = "AFTER".toList
  | word :: init =>
    if toAsciiUppercase word = "AFTER".toList then
      match init with
      | [] => last.head? ≠ some '#' ∧ ReadsAsMissing 0 last
      | channel :: rest =>
        if channel.head? = some '#' then ReadsAsMissing rest.length last else ReadsAsMissing (rest.length + 1) last
    else ReadsAsMissing init.length last

instance (init : List Text) (last : Text) : Decidable (ColonReadsChathistory init last) :=
  match init with
  | [] => inferInstanceAs (Decidable (_ = _))
  | [_] => inferInstanceAs (Decidable (ite _ (_ ∧ _) _))
  | _ :: _ :: _ => inferInstanceAs (Decidable (ite _ (ite _ _ _) _))

def ColonReadsTask (init : List Text) : Prop :=
  match init with
  | [] => False
  | action :: rest =>
    if toAsciiUppercase action = "CREATE".toList then rest.length = 1
    else if toAsciiUppercase action = "CLAIM".toList then rest ≠ []
    else if toAsciiUppercase action = "DONE".toList then rest ≠ []
    else if toAsciiUppercase action = "RELEASE".toList then rest ≠ []
    else if toAsciiUppercase action = "LIST".toList then rest ≠ []
    else True

instance (init : List Text) : Decidable (ColonReadsTask init) :=
  match init with
  | [] => inferInstanceAs (Decidable False)
  | _ :: _ => inferInstanceAs (Decidable (ite _ _ _))

/-- The verb reads the last parameter where it is written with a colon, or reads it in neither place. -/
def ColonReads (verb : Text) (init : List Text) (last : Text) : Prop :=
  if verb = "PASS".toList then False
  else if verb = "NICK".toList then init ≠ []
  else if verb = "USER".toList then init ≠ []
  else if verb = "JOIN".toList then init ≠ []
  else if verb = "PART".toList then init ≠ []
  else if verb = "PRIVMSG".toList then init.length = 1
  else if verb = "PING".toList then init = []
  else if verb = "PONG".toList then True
  else if verb = "QUIT".toList then True
  else if verb = "CAP".toList then init.length = 1
  else if verb = "CHATHISTORY".toList then ColonReadsChathistory init last
  else if verb = "HISTORY".toList then init ≠ [] ∧ ReadsAsMissing (init.length - 1) last
  else if verb = "TASK".toList then ColonReadsTask init
  else True

instance (verb : Text) (init : List Text) (last : Text) : Decidable (ColonReads verb init last) :=
  inferInstanceAs (Decidable (ite _ _ _))

theorem agrees_ite {c : Prop} [Decidable c] {yes yes' no no' : Command} {P Q : Prop} (holds : yes = yes' ↔ P)
    (fails : no = no' ↔ Q) : ((if c then yes else no) = if c then yes' else no') ↔ if c then P else Q := by
  split
  · exact holds
  · exact fails

/-! ### CHATHISTORY -/

/-- CHATHISTORY takes numbers behind its channel. -/
theorem chathistory_channel {word : Text} (other : toAsciiUppercase word ≠ "AFTER".toList) (rest : List Text) :
    parse_chathistory (word :: rest) = .History (some word) (number rest[0]? 0) (number rest[1]? 100) := by
  rw [parse_chathistory, if_neg (by simpa using other)]
  rfl

theorem chathistory_after_channel {word channel : Text} (after : toAsciiUppercase word = "AFTER".toList)
    (named : channel.head? = some '#') (rest : List Text) :
    parse_chathistory (word :: channel :: rest) = .History (some channel) (number rest[0]? 0) (number rest[1]? 100) := by
  rw [parse_chathistory, if_pos (by simpa using after), if_pos (by simpa using named)]
  rfl

/-- Behind AFTER, what does not begin like a channel is a number. -/
theorem chathistory_after_number {word : Text} (after : toAsciiUppercase word = "AFTER".toList) {rest : List Text}
    (unnamed : ∀ value ∈ rest.head?, value.head? ≠ some '#') :
    parse_chathistory (word :: rest) = .History none (number rest[0]? 0) (number rest[1]? 100) := by
  rw [parse_chathistory, if_pos (by simpa using after), if_neg]
  · rfl
  · cases rest with
    | nil => simp
    | cons value rest => simpa using unnamed value rfl

/-- Numbers in a row, the last one of which is left out. -/
theorem numbers_missing {channel : Option Text} {init : List Text} {last : Text} :
    Command.History channel (number (init ++ [last])[0]? 0) (number (init ++ [last])[1]? 100) =
      .History channel (number init[0]? 0) (number init[1]? 100) ↔ ReadsAsMissing init.length last := by
  match init with
  | [] => simp [ReadsAsMissing, number]
  | [_] => simp [ReadsAsMissing, number]
  | _ :: _ :: rest => simp [ReadsAsMissing]

theorem agrees_chathistory (init : List Text) (last : Text) :
    parse_chathistory (init ++ [last]) = parse_chathistory init ↔ ColonReadsChathistory init last := by
  cases init with
  | nil =>
    by_cases after : toAsciiUppercase last = "AFTER".toList
    · rw [List.nil_append, chathistory_after_number after (by simp)]
      exact iff_of_true rfl after
    · rw [List.nil_append, chathistory_channel after]
      exact iff_of_false (by simp [parse_chathistory]) after
  | cons word init =>
    simp only [List.cons_append, ColonReadsChathistory]
    by_cases after : toAsciiUppercase word = "AFTER".toList
    · rw [if_pos after]
      cases init with
      | nil =>
        rw [List.nil_append, @chathistory_after_number word after [] (by simp)]
        by_cases named : last.head? = some '#'
        · rw [chathistory_after_channel after named]
          simp [named]
        · rw [chathistory_after_number after (by simpa using named)]
          simp [named, ReadsAsMissing, number]
      | cons channel rest =>
        dsimp only
        by_cases named : channel.head? = some '#'
        · rw [if_pos named, List.cons_append, chathistory_after_channel after named, chathistory_after_channel after named]
          exact numbers_missing
        · rw [if_neg named, chathistory_after_number after (by simpa using named),
            chathistory_after_number after (by simpa using named)]
          exact @numbers_missing none (channel :: rest) last
    · rw [if_neg after, chathistory_channel after, chathistory_channel after]
      exact numbers_missing

/-! ### The other verbs -/

/-- HISTORY reads a missing channel as the empty one. -/
theorem agrees_history (init : List Text) {last : Text} (some : last ≠ []) :
    Command.History (.some ((init ++ [last]).head?.getD [])) (number (init ++ [last])[1]? 0) (number (init ++ [last])[2]? 100) =
      .History (.some (init.head?.getD [])) (number init[1]? 0) (number init[2]? 100) ↔
    init ≠ [] ∧ ReadsAsMissing (init.length - 1) last := by
  cases init with
  | nil => simp [some]
  | cons channel rest => simpa using @numbers_missing (.some channel) rest last

theorem length_join_last (init : List Text) (last : Text) : last.length ≤ (join [' '] (init ++ [last])).length := by
  induction init with
  | nil => exact le_rfl
  | cons word rest ih =>
    rw [List.cons_append, join.eq_3 _ _ _ (by simp), List.length_append]
    omega

theorem join_last {init : List Text} {last : Text} : join [' '] (init ++ [last]) = last ↔ init = [] := by
  constructor
  · intro same
    cases init with
    | nil => rfl
    | cons word rest =>
      have size := congrArg List.length same
      have longer := length_join_last rest last
      rw [List.cons_append, join.eq_3 _ _ _ (by simp), List.length_append, List.length_append, List.length_singleton] at size
      omega
  · rintro rfl
    rfl

theorem agrees_task (init : List Text) {last : Text} (nonempty : last ≠ []) :
    parse_task (init ++ [last]) none = parse_task init (some last) ↔ ColonReadsTask init := by
  cases init with
  | nil =>
    refine iff_of_false ?_ id
    show parse_task [last] none ≠ .Unknown "TASK".toList
    unfold parse_task
    dsimp only
    split
    · exact Command.noConfusion
    split
    · exact Command.noConfusion
    split
    · exact Command.noConfusion
    split
    · exact Command.noConfusion
    split
    · exact Command.noConfusion
    · intro same
      have size := congrArg List.length (Command.Unknown.inj same)
      simp at size
  | cons action rest =>
    have argument : (rest ++ [last])[0]?.getD [] = rest[0]?.getD [] ↔ rest ≠ [] := by
      cases rest with
      | nil => simpa using nonempty
      | cons _ _ => simp
    simp only [parse_task, ColonReadsTask, List.cons_append, List.getElem?_cons_succ]
    refine agrees_ite ?_ ?_
    · rw [Command.TaskCreate.injEq, argument]
      cases rest with
      | nil => simp
      | cons channel rest =>
        cases rest with
        | nil => simp [join]
        | cons second rest =>
          have longer := @join_last (second :: rest) last
          simpa using longer
    refine agrees_ite (by rw [Command.TaskClaim.injEq, argument]) ?_
    refine agrees_ite (by rw [Command.TaskDone.injEq, argument]) ?_
    refine agrees_ite (by rw [Command.TaskRelease.injEq, argument]) ?_
    refine agrees_ite (by rw [Command.TaskList.injEq, argument]) ?_
    exact iff_of_true rfl trivial

/-- The last parameter of a command may be written with a colon exactly when its verb reads it there, or does not read it. -/
theorem colon_agrees_iff {verb last : Text} {init : List Text} (words : ∀ word ∈ verb :: init ++ [last], IsWord word)
    (untagged : verb.head? ≠ some '@') :
    parse_command (join [' '] (verb :: init ++ [last])) = parse_command (join [' '] (verb :: init) ++ ' ' :: ':' :: last) ↔
      ColonReads (toAsciiUppercase verb) init last := by
  have before : ∀ word ∈ verb :: init, IsWord word := fun word inside => words word (List.mem_append_left _ inside)
  have word : IsWord last := words last (by simp)
  have argument : (init ++ [last]).head?.getD [] = init.head?.getD [] ↔ init ≠ [] := by
    cases init with
    | nil => simpa using word.1
    | cons _ _ => simp
  rw [parse_command_eq, parse_command_eq, parts_of_colon before untagged word, List.cons_append,
    parts_of_plain (by rwa [← List.cons_append]) untagged]
  simp only [command_of, ColonReads, List.head?_cons, Option.getD_some, List.tail_cons, Option.getD_none]
  refine agrees_ite ?_ ?_
  · refine iff_of_false ?_ id
    intro same
    have read := congrArg splitWhitespace (Command.Pass.inj same)
    have plain : splitWhitespace (join [' '] (init ++ [last])) = init ++ [last] :=
      splitWhitespace_join (fun other inside => words other (List.mem_cons_of_mem _ inside))
    rw [plain, splitWhitespace_join (fun other inside => before other (List.mem_cons_of_mem _ inside))] at read
    simp at read
  refine agrees_ite (by rw [Command.Nick.injEq, argument]) ?_
  refine agrees_ite (by rw [Command.User.injEq, argument]) ?_
  refine agrees_ite (by rw [Command.Join.injEq, argument]) ?_
  refine agrees_ite (by rw [Command.Part.injEq, argument]) ?_
  refine agrees_ite ?_ ?_
  · cases init with
    | nil => simp [word.1]
    | cons target rest =>
      have alone := @join_last rest last
      simpa using alone
  refine agrees_ite (by rw [Command.Ping.injEq, join_last]) ?_
  refine agrees_ite (iff_of_true rfl trivial) ?_
  refine agrees_ite (iff_of_true rfl trivial) ?_
  refine agrees_ite ?_ ?_
  · cases init with
    | nil => simp [toAsciiUppercase, word.1]
    | cons subcommand rest =>
      have several : splitWhitespace (join [' '] (rest ++ [last])) = rest ++ [last] := splitWhitespace_join (fun other inside =>
        words other (List.mem_cons_of_mem _ (List.mem_cons_of_mem _ inside)))
      have one : splitWhitespace last = [last] := words_single word.1 word.2.1
      simp [several, one]
  refine agrees_ite (agrees_chathistory init last) ?_
  refine agrees_ite (agrees_history init word.1) ?_
  refine agrees_ite (agrees_task init word.1) ?_
  exact iff_of_true rfl trivial

theorem colon_agrees_privmsg :
    parse_command "privmsg #demo hello".toList = parse_command "privmsg #demo :hello".toList :=
  (@colon_agrees_iff "privmsg".toList "hello".toList ["#demo".toList] (by decide) (by decide)).mpr (by decide)

/-- JOIN and NICK leave out what is written with a colon. -/
theorem colon_left_out :
    parse_command "JOIN #demo".toList ≠ parse_command "JOIN :#demo".toList ∧
    parse_command "NICK alice".toList ≠ parse_command "NICK :alice".toList ∧
    parse_command "JOIN :#demo".toList = .Join [] ∧ parse_command "NICK :alice".toList = .Nick [] := by
  decide

end Aircd.Protocol

import Aircd.Server
import Aircd.Spelling

/-!
# The channel of a command

The handlers normalize a channel after the line is parsed, so a channel may be
written without its '#'. CHATHISTORY AFTER alone looks at the '#' while it parses.
-/
namespace Aircd.Server
open Aircd.Text Aircd.Protocol

/-- A command with its channel as the handlers read it. -/
def normalized : Command → Command
  | .Join channel => .Join (normalize_channel channel)
  | .Part channel => .Part (normalize_channel channel)
  | .Privmsg target body => .Privmsg (normalize_channel target) body
  | .History channel after_seq limit => .History (channel.map normalize_channel) after_seq limit
  | .TaskCreate channel title => .TaskCreate (normalize_channel channel) title
  | .TaskList channel => .TaskList (normalize_channel channel)
  | command => command

@[simp] theorem normalize_channel_idem (channel : Text) :
    normalize_channel (normalize_channel channel) = normalize_channel channel := by
  by_cases named : (trim channel).head? = some '#'
  · simp [normalize_channel, named]
  · by_cases empty : trim channel = []
    · have demo : normalize_channel channel = "#demo".toList := by simp [normalize_channel, empty]
      rw [demo]
      decide
    · have hashed : normalize_channel channel = '#' :: trim channel := by simp [normalize_channel, named, empty]
      have trimmed : trim ('#' :: trim channel) = '#' :: trim channel := by
        have behind := @trim_append ['#'] (trim channel) '#' '#' rfl rfl (by decide) (by decide)
        rwa [rdropWhile_trim] at behind
      rw [hashed]
      simp [normalize_channel, trimmed]

/-- A command does what it does with its channel normalized. -/
theorem handle_normalized (cfg : Config) (w : World) (env : Env) (sid : SessionId) (command : Command) :
    handle_command cfg w env sid (normalized command) = handle_command cfg w env sid command := by
  cases command with
  | History channel after_seq limit =>
    cases channel with
    | none => rfl
    | some channel => simp [normalized, handle_command]
  | _ => simp [normalized, handle_command]

/-! ## Lines with a channel -/

/-- The forms of a command that takes a channel. -/
inductive Form where
  | Join
  | Part
  | Privmsg
  | History
  | ChathistoryAfter
  | Chathistory
  | TaskCreate
  | TaskList
  deriving DecidableEq

/-- The words before the channel. -/
def Form.words : Form → List Text
  | .Join => ["JOIN".toList]
  | .Part => ["PART".toList]
  | .Privmsg => ["PRIVMSG".toList]
  | .History => ["HISTORY".toList]
  | .ChathistoryAfter => ["CHATHISTORY".toList, "AFTER".toList]
  | .Chathistory => ["CHATHISTORY".toList]
  | .TaskCreate => ["TASK".toList, "CREATE".toList]
  | .TaskList => ["TASK".toList, "LIST".toList]

/-- Words with the blanks after each of them. -/
def written (parts : List (Text × Text)) : Text := parts.flatMap (fun part => part.1 ++ part.2)

/-- The words of the form, in any case, each with blanks after it. -/
def Form.Opens (form : Form) (parts : List (Text × Text)) : Prop :=
  parts.map (fun part => toAsciiUppercase part.1) = form.words ∧
    ∀ part ∈ parts, part.2 ≠ [] ∧ ∀ c ∈ part.2, rustSpace c = true

instance (form : Form) (parts : List (Text × Text)) : Decidable (form.Opens parts) :=
  @instDecidableAnd _ _ _ (@List.decidableBAll _ _ (fun part => @instDecidableAnd _ _ _ (List.decidableBAll _ part.2)) parts)

/-- Nothing, or what comes after a blank. -/
def Apart (rest : Text) : Prop := ∀ c ∈ rest.head?, rustSpace c = true
instance (rest : Text) : Decidable (Apart rest) := Option.decidableForallMem rest.head?

/-- The words after the channel, and the trailing parameter. -/
def arguments (rest : Text) : List Text × Option Text := cut (rest.rdropWhile rustSpace)

theorem not_colon {rest : Text} (apart : Apart rest) : rest.head? ≠ some ':' := by
  intro colon
  have blank := apart ':' colon
  revert blank
  decide

theorem apart_of_splitOnce {rest before after : Text} (apart : Apart rest)
    (split : splitOnce [' ', ':'] rest = some (before, after)) : Apart before := by
  cases rest with
  | nil => cases split
  | cons first rest =>
    rw [splitOnce] at split
    split at split
    · cases split
      intro c begins
      cases begins
    · obtain ⟨⟨more, _⟩, _, same⟩ := Option.map_eq_some_iff.mp split
      cases same
      intro c begins
      exact apart c begins

theorem cut_word {word rest : Text} (nonempty : word ≠ []) (unspaced : ∀ c ∈ word, rustSpace c = false) (apart : Apart rest) :
    cut (word ++ rest) = (word :: (cut rest).1, (cut rest).2) := by
  have first (more : Text) (apart : Apart more) : splitWhitespace (word ++ more) = word :: splitWhitespace more := by
    cases more with
    | nil => rw [List.append_nil, splitWhitespace, words_single nonempty unspaced, splitWhitespace, words_nil]
    | cons c more =>
      rw [splitWhitespace, words_append nonempty unspaced (apart c rfl), splitWhitespace, words_cons (apart c rfl)]
  have alone := no_colon_of_no_space (space_of_rustSpace unspaced)
  simp only [cut, split_trailing, splitOnce_colon_behind alone (not_colon apart)]
  cases split : splitOnce [' ', ':'] rest with
  | none => rw [Option.map_none, first rest apart]
  | some pair => rw [Option.map_some, first pair.1 (apart_of_splitOnce apart split)]

/-- A word of a line is no end of the tags or the prefix before it. -/
def Clean (word : Text) : Prop := word ≠ [] ∧ ∀ c ∈ word, rustSpace c = false ∧ c ≠ '@' ∧ c ≠ ':'
instance (word : Text) : Decidable (Clean word) := @instDecidableAnd _ _ _ (List.decidableBAll _ word)

theorem cut_written {x : Text} (begins : x.head? ≠ some ':') : ∀ {parts : List (Text × Text)},
    (∀ part ∈ parts, Clean part.1 ∧ part.2 ≠ [] ∧ ∀ c ∈ part.2, rustSpace c = true) →
    cut (written parts ++ x) = (parts.map Prod.fst ++ (cut x).1, (cut x).2)
  | [], _ => rfl
  | part :: parts, all => by
    obtain ⟨clean, some, blanks⟩ := all part List.mem_cons_self
    have later := @cut_written x begins parts (fun other inside => all other (List.mem_cons_of_mem _ inside))
    have line : written (part :: parts) ++ x = part.1 ++ (part.2 ++ (written parts ++ x)) := by simp [written]
    have apart : Apart (part.2 ++ (written parts ++ x)) := by
      obtain ⟨blank, more, blank_first⟩ := List.exists_cons_of_ne_nil some
      intro c first
      rw [blank_first] at first
      exact blanks c (by rw [blank_first]; simp_all)
    have visible : (written parts ++ x).head? ≠ Option.some ':' := by
      cases parts with
      | nil => exact begins
      | cons next rest =>
        obtain ⟨nonempty, letters⟩ := (all next (by simp)).1
        obtain ⟨c, more, word⟩ := List.exists_cons_of_ne_nil nonempty
        have letter := letters c (by simp [word])
        simp [written, word, letter]
    rw [line, cut_word clean.1 (fun c inside => (clean.2 c inside).1) apart, cut_blanks blanks visible, later]
    rfl

/-- The words of the form are clean in any case. -/
theorem clean_of_upper {word literal : Text} (same : toAsciiUppercase word = literal) (clean : Clean literal) : Clean word := by
  refine ⟨?_, ?_⟩
  · rintro rfl
    exact clean.1 same.symm
  · intro c inside
    have upper : asciiUpper c ∈ literal := same ▸ List.mem_map_of_mem inside
    unfold asciiUpper at upper
    split at upper
    · next small =>
      have range : 97 ≤ c.toNat ∧ c.toNat ≤ 122 := small
      refine ⟨?_, ?_, ?_⟩
      · simp only [rustSpace, Bool.or_eq_false_iff, Bool.and_eq_false_iff, decide_eq_false_iff_not, beq_eq_false_iff_ne]
        omega
      · rintro rfl
        revert range
        decide
      · rintro rfl
        revert range
        decide
    · exact clean.2 c upper

theorem clean_words : ∀ form : Form, ∀ word ∈ form.words, Clean word := by
  intro form
  cases form <;> decide

theorem clean_of_opens {form : Form} {parts : List (Text × Text)} (opens : form.Opens parts) :
    ∀ part ∈ parts, Clean part.1 ∧ part.2 ≠ [] ∧ ∀ c ∈ part.2, rustSpace c = true := by
  intro part inside
  have upper : toAsciiUppercase part.1 ∈ form.words :=
    opens.1 ▸ List.mem_map_of_mem (f := fun part : Text × Text => toAsciiUppercase part.1) inside
  exact ⟨clean_of_upper rfl (clean_words form _ upper), opens.2 part inside⟩

/-- The words of a line that the words of a form and another word begin. -/
theorem parts_of_written {form : Form} {parts : List (Text × Text)} {word rest : Text} (opens : form.Opens parts)
    (nonempty : word ≠ []) (unspaced : ∀ c ∈ word, rustSpace c = false) (begins : word.head? ≠ some ':') (apart : Apart rest) :
    parts_of (written parts ++ word ++ rest) = (parts.map Prod.fst ++ word :: (arguments rest).1, (arguments rest).2) := by
  have clean := clean_of_opens opens
  obtain ⟨first, starts, visible⟩ : ∃ first, (written parts ++ word).head? = some first ∧
      rustSpace first = false ∧ first ≠ '@' ∧ first ≠ ':' := by
    cases parts with
    | nil =>
      have none := opens.1
      cases form <;> cases none
    | cons part more =>
      obtain ⟨some, letters⟩ := (clean part List.mem_cons_self).1
      obtain ⟨c, letters_after, same⟩ := List.exists_cons_of_ne_nil some
      exact ⟨c, by simp [written, same], letters c (by simp [same])⟩
  have ends : (written parts ++ word).getLast? = some (word.getLast nonempty) := by
    rw [List.getLast?_append_of_ne_nil _ nonempty, List.getLast?_eq_some_getLast nonempty]
  have trimmed := @trim_append _ rest _ _ starts ends visible.1 (unspaced _ (List.getLast_mem nonempty))
  have head (x : Text) : (written parts ++ word ++ x).head? = some first := by
    obtain ⟨more, same⟩ := List.head?_eq_some_iff.mp starts
    rw [same]
    rfl
  have kept : Apart (rest.rdropWhile rustSpace) := by
    intro c first
    obtain ⟨tail, whole⟩ := List.rdropWhile_prefix rustSpace rest
    obtain ⟨more, same⟩ := List.head?_eq_some_iff.mp first
    rw [same] at whole
    exact apart c (by rw [← whole]; rfl)
  have colon : (word ++ rest.rdropWhile rustSpace).head? ≠ some ':' := by
    obtain ⟨c, more, rfl⟩ := List.exists_cons_of_ne_nil nonempty
    exact begins
  rw [parts_of_eq, trimmed, stripped_bare (by rw [head]; simp [visible]) (by rw [head]; simp [visible]), List.append_assoc,
    cut_written colon clean, cut_word nonempty unspaced kept]
  rfl

/-- The command of a form, its channel, the words after it and the trailing parameter. -/
def Form.command (form : Form) (channel : Text) (rest : List Text) (trailing : Option Text) : Command :=
  match form with
  | .Join => .Join channel
  | .Part => .Part channel
  | .Privmsg => .Privmsg channel (trailing.getD (Text.join [' '] rest))
  | .History => .History (some channel) (number rest[0]? 0) (number rest[1]? 100)
  | .ChathistoryAfter =>
    if channel.head? = some '#' then .History (some channel) (number rest[0]? 0) (number rest[1]? 100)
    else .History none (number (some channel) 0) (number rest[0]? 100)
  | .Chathistory => .History (some channel) (number rest[0]? 0) (number rest[1]? 100)
  | .TaskCreate => .TaskCreate channel (trailing.getD (Text.join [' '] rest))
  | .TaskList => .TaskList channel

theorem command_of_form {form : Form} {words : List Text} (same : words.map toAsciiUppercase = form.words) {channel : Text}
    (other : toAsciiUppercase channel ≠ "AFTER".toList) (rest : List Text) (trailing : Option Text) :
    command_of (words ++ channel :: rest) trailing = form.command channel rest trailing := by
  have one {literal : Text} (read : words.map toAsciiUppercase = [literal]) :
      ∃ verb, words = [verb] ∧ toAsciiUppercase verb = literal := by
    obtain ⟨verb, more, rfl, upper, none⟩ := List.map_eq_cons_iff.mp read
    rw [List.map_eq_nil_iff] at none
    exact ⟨verb, by rw [none], upper⟩
  have two {literal next : Text} (read : words.map toAsciiUppercase = [literal, next]) :
      ∃ verb action, words = [verb, action] ∧ toAsciiUppercase verb = literal ∧ toAsciiUppercase action = next := by
    obtain ⟨verb, more, rfl, upper, read⟩ := List.map_eq_cons_iff.mp read
    obtain ⟨action, more, rfl, upper_action, none⟩ := List.map_eq_cons_iff.mp read
    rw [List.map_eq_nil_iff] at none
    exact ⟨verb, action, by rw [none], upper, upper_action⟩
  cases form with
  | Join =>
    obtain ⟨verb, rfl, upper⟩ := one same
    simp [command_of, upper, Form.command]
  | Part =>
    obtain ⟨verb, rfl, upper⟩ := one same
    simp [command_of, upper, Form.command]
  | Privmsg =>
    obtain ⟨verb, rfl, upper⟩ := one same
    simp [command_of, upper, Form.command]
  | History =>
    obtain ⟨verb, rfl, upper⟩ := one same
    simp [command_of, upper, Form.command]
  | ChathistoryAfter =>
    obtain ⟨verb, action, rfl, upper, after⟩ := two same
    have read : command_of ([verb, action] ++ channel :: rest) trailing = parse_chathistory (action :: channel :: rest) := by
      simp [command_of, upper]
    rw [read, Form.command]
    split
    · next named => exact chathistory_after_channel after named rest
    · next unnamed => exact chathistory_after_number after (by simpa using unnamed)
  | Chathistory =>
    obtain ⟨verb, rfl, upper⟩ := one same
    have read : command_of ([verb] ++ channel :: rest) trailing = parse_chathistory (channel :: rest) := by
      simp [command_of, upper]
    rw [read, chathistory_channel other]
    rfl
  | TaskCreate =>
    obtain ⟨verb, action, rfl, upper, create⟩ := two same
    simp [command_of, upper, parse_task, create, Form.command]
  | TaskList =>
    obtain ⟨verb, action, rfl, upper, list⟩ := two same
    simp [command_of, upper, parse_task, list, Form.command]

/-- The command of a line of some form. -/
theorem command_of_line {form : Form} {parts : List (Text × Text)} {channel rest : Text} (opens : form.Opens parts)
    (nonempty : channel ≠ []) (unspaced : ∀ c ∈ channel, rustSpace c = false) (begins : channel.head? ≠ some ':')
    (other : toAsciiUppercase channel ≠ "AFTER".toList) (apart : Apart rest) :
    parse_command (written parts ++ channel ++ rest) = form.command channel (arguments rest).1 (arguments rest).2 := by
  have same : (parts.map Prod.fst).map toAsciiUppercase = form.words := by
    rw [← opens.1, List.map_map]
    rfl
  rw [parse_command_eq, parts_of_written opens nonempty unspaced begins apart]
  exact command_of_form same other _ _

/-- The '#' of a channel may be left out in every command but CHATHISTORY AFTER: the command is the same once its
channel is normalized, and it is handled alike. CHATHISTORY AFTER reads the channel as the number to begin after. -/
theorem hash_left_out {form : Form} {parts : List (Text × Text)} {w rest : Text} (opens : form.Opens parts)
    (nonempty : w ≠ []) (unspaced : ∀ c ∈ w, rustSpace c = false) (begins : w.head? ≠ some '#' ∧ w.head? ≠ some ':')
    (other : toAsciiUppercase w ≠ "AFTER".toList) (apart : Apart rest) :
    (form ≠ .ChathistoryAfter →
      normalized (parse_command (written parts ++ w ++ rest)) = parse_command (written parts ++ '#' :: w ++ rest) ∧
      ∀ cfg world env sid, handle_command cfg world env sid (parse_command (written parts ++ w ++ rest)) =
        handle_command cfg world env sid (parse_command (written parts ++ '#' :: w ++ rest))) ∧
    (form = .ChathistoryAfter →
      parse_command (written parts ++ w ++ rest) =
        .History none (number (some w) 0) (number (arguments rest).1[0]? 100) ∧
      parse_command (written parts ++ '#' :: w ++ rest) =
        .History (some ('#' :: w)) (number (arguments rest).1[0]? 0) (number (arguments rest).1[1]? 100)) := by
  have bare := command_of_line opens nonempty unspaced begins.2 other apart
  have unspaced_hashed : ∀ c ∈ '#' :: w, rustSpace c = false := by
    intro c inside
    rcases List.mem_cons.mp inside with rfl | inside
    · decide
    · exact unspaced c inside
  have other_hashed : toAsciiUppercase ('#' :: w) ≠ "AFTER".toList := by
    intro same
    cases same
  have hashed := @command_of_line form parts ('#' :: w) rest opens (by simp) unspaced_hashed (by simp) other_hashed apart
  have channel : normalize_channel w = '#' :: w := by
    have trimmed : trim w = w := by
      have ends := List.getLast?_eq_some_getLast nonempty
      have starts := List.head?_eq_some_head nonempty
      simpa using @trim_append w [] _ _ starts ends (unspaced _ (List.head_mem nonempty)) (unspaced _ (List.getLast_mem nonempty))
    simp [normalize_channel, trimmed, begins.1, nonempty]
  rw [bare, hashed]
  refine ⟨?_, ?_⟩
  · intro before
    have same : normalized (form.command w (arguments rest).1 (arguments rest).2) =
        form.command ('#' :: w) (arguments rest).1 (arguments rest).2 := by
      cases form with
      | ChathistoryAfter => exact absurd rfl before
      | _ => simp [Form.command, normalized, channel]
    refine ⟨same, fun cfg world env sid => ?_⟩
    rw [← same, handle_normalized]
  · rintro rfl
    simp [Form.command, begins.1]

theorem hash_left_out_join :
    normalized (parse_command "join  demo now".toList) = parse_command "join  #demo now".toList ∧
    parse_command "CHATHISTORY after demo 5".toList = .History none 0 5 := by
  have join := (@hash_left_out .Join [("join".toList, "  ".toList)] "demo".toList " now".toList (by decide) (by decide)
    (clean_of_any (by decide)) (by decide) (by decide) (by decide)).1 (by decide) |>.1
  have after := ((@hash_left_out .ChathistoryAfter [("CHATHISTORY".toList, " ".toList), ("after".toList, " ".toList)]
    "demo".toList " 5".toList (by decide) (by decide) (clean_of_any (by decide)) (by decide) (by decide) (by decide)).2 rfl).1
  have numbers : Command.History none (number (some "demo".toList) 0) (number (arguments " 5".toList).1[0]? 100) =
      .History none 0 5 := by decide
  exact ⟨join, after.trans numbers⟩

/-- Behind CHATHISTORY AFTER a channel without its '#' is the number to begin after. -/
theorem hash_needed :
    parse_command "CHATHISTORY AFTER demo 5".toList = .History none 0 5 ∧
    parse_command "CHATHISTORY AFTER #demo 5".toList = .History (some "#demo".toList) 5 100 ∧
    normalized (parse_command "CHATHISTORY AFTER demo 5".toList) ≠ parse_command "CHATHISTORY AFTER #demo 5".toList := by
  decide

end Aircd.Server

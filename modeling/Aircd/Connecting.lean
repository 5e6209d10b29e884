import Aircd.Handshake
import Aircd.Notices
import Aircd.Speaking

/-!
# The client connects

The registration loop of `_do_connect`, on whatever part of the server's bytes has
arrived while the server reads the first lines of the client.
-/
namespace Aircd.Client
open Aircd.Runs Aircd.Text Aircd.Utf8 Aircd.Daemon Aircd.Protocol Aircd.Auth Aircd.History Aircd.Store
open Aircd.Server (Config ServerLine SessionId format_line format_message_tags metadata replay_tag task_tags title_tag commands)
open Aircd.Concurrent (System Linked)

/-- The numerics with which a registration fails. -/
def REFUSALS : List Text := ["432".toList, "433".toList, "461".toList, "462".toList, "464".toList]

/-- What has become of the loop: it reads on, or has the first parameter of a 001 line and
    leaves the lines behind it, or raises an error. -/
inductive Registration where
  | waiting
  | registered (nick : Option Text) (rest : List (List UInt8))
  | failed
  deriving DecidableEq

/-- The loop of `_do_connect` on the lines that have arrived, with the answers it sends. -/
def register : List (List UInt8) → List Call × Registration
  | [] => ([], .waiting)
  | bytes :: rest =>
    match (readline bytes).bind parse_irc_line with
    | none => ([], .failed)
    | some parsed =>
      if parsed.command = "001".toList then ([], .registered parsed.params.head? rest)
      else if parsed.command = "PING".toList then
        (.pong (.ofText (parsed.params.getLast?.getD [])) :: (register rest).1, (register rest).2)
      else if parsed.command ∈ REFUSALS then ([], .failed)
      else register rest

/-- The calls of `_do_connect`. -/
def calls (token nick : Text) : List Call :=
  [.cap_ls, .cap_req, .pass (.ofText token), .nick (.ofText nick), .user (.ofText nick), .cap_end]

/-! ## The words of the server's lines -/

/-- The name in the prefix of a line. -/
def sender : ServerLine → Text
  | .Join nick _ => nick
  | .Part nick _ => nick
  | .Message _ nick _ => nick
  | _ => SERVER_NAME

/-- The command of a line. -/
def word : ServerLine → Text
  | .Error _ => "ERROR".toList
  | .Pong _ => "PONG".toList
  | .UnknownCommand _ => "421".toList
  | .Cap _ _ _ => "CAP".toList
  | .InvalidCap _ _ => "410".toList
  | .PasswordIncorrect => "464".toList
  | .NotRegistered => "451".toList
  | .Registered _ _ => "001".toList
  | .Join _ _ => "JOIN".toList
  | .Part _ _ => "PART".toList
  | .NotOnChannel _ _ => "442".toList
  | .Message _ _ _ => "PRIVMSG".toList
  | _ => "NOTICE".toList

/-- A line that is one for the client, with a prefix that ends where the name does. -/
def Legible (line : ServerLine) : Prop := '\n' ∉ line.text ∧ Fits line ∧ ' ' ∉ sender line
instance (line : ServerLine) : Decidable (Legible line) := inferInstanceAs (Decidable (_ ∧ _ ∧ _))

variable {line : ServerLine}

theorem rest_words (line : ServerLine) : ∃ more, line.rest = ':' :: sender line ++ ' ' :: (word line ++ ' ' :: more) := by
  cases line with
  | Join nick channel => exact ⟨channel, by simp [ServerLine.rest, sender, word]⟩
  | Part nick channel => exact ⟨channel, by simp [ServerLine.rest, sender, word]⟩
  | Message message nick replay =>
    exact ⟨message.channel ++ ' ' :: ':' :: message.body, by simp [ServerLine.rest, sender, word, format_line]⟩
  | _ => exact ⟨_, rfl⟩

/-- The tags of a line are none, or have keys that the client tells apart. -/
theorem plain_tags (line : ServerLine) : line.tags = [] ∨ PlainKeys (line.tags.map Prod.fst) := by
  cases line with
  | Message message nick replay => exact .inr (plain_metadata message replay)
  | TaskEvent message task action status actor => exact .inr (plain_task message task.id action status actor task.title)
  | TaskFailed action task_id actor body =>
    right
    show PlainKeys ["task-id".toList, "task-action".toList, "task-status".toList, "task-actor".toList]
    decide
  | _ => exact .inl rfl

/-- The commands of all lines. -/
def WORDS : List Text :=
  ["ERROR".toList, "PONG".toList, "421".toList, "CAP".toList, "410".toList, "464".toList, "451".toList, "001".toList,
    "JOIN".toList, "PART".toList, "442".toList, "PRIVMSG".toList, "NOTICE".toList]

theorem word_listed (line : ServerLine) : word line ∈ WORDS := by
  cases line with
  | _ => simp [word, WORDS]

theorem words_solid : ∀ verb ∈ WORDS, upper verb = verb ∧ Solid verb := by decide

theorem readline_legible (legible : Legible line) : readline (encode (line.text ++ ['\r'])) = some (first_line line.text) := by
  have short : ¬ LIMIT < (encode (line.text ++ ['\r'])).length := Nat.not_lt.mpr legible.2.1
  have whole : (line.text ++ ['\r']).takeWhile (fun c => c != '\n') = line.text ++ ['\r'] := by
    rw [List.takeWhile_eq_self_iff]
    intro c inside
    simp only [bne_iff_ne, ne_eq]
    rintro rfl
    simp [legible.1] at inside
  rw [readline, if_neg short, decoded, decodeReplace_encode, first_line, whole]

/-- A legible line is parsed as it was put together. -/
theorem parse_legible (legible : Legible line) {more : Text}
    (rest : line.rest = ':' :: sender line ++ ' ' :: (word line ++ ' ' :: more)) :
    ∃ parsed, parse_irc_line (first_line line.text) = some parsed ∧ parsed.command = word line ∧
      parsed.params = (split_params (word line ++ ' ' :: first_line more)).2 ∧
      ∀ plain : PlainKeys (line.tags.map Prod.fst), parsed.tags = dict line.tags plain := by
  obtain ⟨clean, _, unspaced⟩ := legible
  obtain ⟨unchanged, solid⟩ := words_solid (word line) (word_listed line)
  have clean_rest : '\n' ∉ line.rest := by
    intro inside
    apply clean
    rw [ServerLine.text]
    split
    · exact inside
    · exact List.mem_append_right _ inside
  have first : first_line line.rest = ':' :: sender line ++ ' ' :: (word line ++ ' ' :: first_line more) := by
    rw [rest] at clean_rest ⊢
    have clean_sender : '\n' ∉ ':' :: sender line := fun inside => clean_rest (List.mem_append_left _ inside)
    have clean_word : '\n' ∉ word line := no_line_feed solid.2
    rw [first_line_append clean_sender, first_line_append clean_word]
  have source : split_source (first_line line.rest) = some (sender line, word line ++ ' ' :: first_line more) := by
    rw [first, split_source_line unspaced]
  have split : (split_params (word line ++ ' ' :: first_line more)).1 = word line := by
    obtain ⟨params, same⟩ := split_params_word (first_line more)
    rw [same (word line) solid.1 solid.2, unchanged]
  rcases plain_tags line with none | plain
  · have text : line.text = line.rest := by rw [ServerLine.text, none]; rfl
    have untagged : (first_line line.rest).head? ≠ some '@' := by rw [first]; simp
    rw [text, parse_irc_line_untagged untagged, source]
    exact ⟨_, rfl, split, rfl, fun plain => absurd (by rw [none]; rfl) plain.1⟩
  · have tagged : line.tags.isEmpty = false := by
      rw [List.isEmpty_eq_false_iff]
      intro empty
      exact plain.1 (by rw [empty]; rfl)
    have text : first_line line.text = format_message_tags line.tags ++ ' ' :: first_line line.rest := by
      rw [ServerLine.text, tagged, if_neg (by simp), first_line_tagged plain]
    rw [text, parse_irc_line_tagged plain.separable, source]
    exact ⟨_, rfl, split, rfl, fun _ => rfl⟩

/-! ## The loop -/

variable {rest : List (List UInt8)}

theorem register_legible (legible : Legible line) (rest : List (List UInt8)) : ∃ nick,
    register (encode (line.text ++ ['\r']) :: rest) =
      if word line = "001".toList then ([], .registered nick rest) else if word line ∈ REFUSALS then ([], .failed) else register rest := by
  obtain ⟨more, words⟩ := rest_words line
  obtain ⟨parsed, parses, command, _⟩ := parse_legible legible words
  have silent : word line ≠ "PING".toList := by
    intro same
    have listed := word_listed line
    rw [same] at listed
    revert listed
    decide
  refine ⟨parsed.params.head?, ?_⟩
  rw [register, readline_legible legible, Option.bind_some, parses]
  simp only [command]
  rw [if_neg silent]

/-- A line that the loop skips. -/
def Skipped (line : ServerLine) : Prop := Legible line ∧ word line ≠ "001".toList ∧ word line ∉ REFUSALS

theorem register_skipped (skipped : Skipped line) (rest : List (List UInt8)) :
    register (encode (line.text ++ ['\r']) :: rest) = register rest := by
  obtain ⟨legible, unnumbered, unrefused⟩ := skipped
  obtain ⟨nick, result⟩ := register_legible legible rest
  rw [result, if_neg unnumbered, if_neg unrefused]

theorem register_incorrect (rest : List (List UInt8)) :
    register (encode ((ServerLine.PasswordIncorrect).text ++ ['\r']) :: rest) = ([], .failed) := by
  obtain ⟨nick, result⟩ := register_legible (show Legible .PasswordIncorrect by decide) rest
  rw [result, if_neg (by decide), if_pos (by decide)]

/-- The parameters of a line with a target and a text. -/
theorem split_params_addressed {verb target body : Text} (solid : Solid verb) (named : Target target) (nonempty : body ≠ []) :
    split_params (verb ++ ' ' :: (target ++ ' ' :: ':' :: body)) = (upper verb, [target, body]) := by
  obtain ⟨params, same⟩ := split_params_word (target ++ ' ' :: ':' :: body)
  have notice : split_params ("NOTICE".toList ++ ' ' :: (target ++ ' ' :: ':' :: body)) = ("NOTICE".toList, [target, body]) := by
    rw [← split_params_notice named nonempty]
    simp
  obtain ⟨_, word, clean⟩ := words_solid "NOTICE".toList (by decide)
  have both := (same "NOTICE".toList word clean).symm.trans notice
  rw [same verb solid.1 solid.2, (Prod.mk.inj both).2]

/-- The loop ends at a 001 line, with the nick of the principal. -/
theorem register_welcomed {nick : Text} {team : Option Text} (named : Target nick) (legible : Legible (.Registered nick team))
    (rest : List (List UInt8)) :
    register (encode ((ServerLine.Registered nick team).text ++ ['\r']) :: rest) = ([], .registered (some nick) rest) := by
  obtain ⟨trailing, words⟩ : ∃ trailing, (ServerLine.Registered nick team).rest = ':' :: sender (.Registered nick team) ++
      ' ' :: (word (.Registered nick team) ++ ' ' :: (nick ++ ' ' :: (":Welcome".toList ++ ' ' :: trailing))) :=
    ⟨"to aircd, ".toList ++ nick ++ (team.map (fun team => " (".toList ++ team ++ [')'])).getD [],
      by simp [ServerLine.rest, sender, word, format_line]⟩
  obtain ⟨parsed, parses, command, params, _⟩ := parse_legible legible words
  have first : first_line (nick ++ ' ' :: (":Welcome".toList ++ ' ' :: trailing)) =
      nick ++ ' ' :: ':' :: ("Welcome".toList ++ ' ' :: first_line trailing) := by
    rw [first_line_append (no_line_feed named.1.2), first_line_append (by decide)]
    rfl
  have head : parsed.params.head? = some nick := by
    rw [params, first, split_params_addressed (words_solid (word (.Registered nick team)) (word_listed _)).2 named (by simp)]
    rfl
  rw [register, readline_legible legible, Option.bind_some, parses]
  simp only [command, head]
  exact if_pos rfl

/-- On the first of the lines that will arrive, the loop has come as far, or not yet to its end. -/
theorem register_prefix {part whole : List (List UInt8)} (arrived : part <+: whole) :
    (register part).1 <+: (register whole).1 ∧
    ((register part).2 = .waiting ∨ ((register part).2 = .failed ∧ (register whole).2 = .failed) ∨
      ∃ nick rest rest', (register part).2 = .registered nick rest ∧ (register whole).2 = .registered nick rest' ∧ rest <+: rest') := by
  induction part generalizing whole with
  | nil => exact ⟨List.nil_prefix, .inl rfl⟩
  | cons bytes part ih =>
    obtain ⟨more, rfl⟩ := arrived
    obtain ⟨sent, result⟩ := ih (List.prefix_append part more)
    rw [List.cons_append, register, register]
    cases (readline bytes).bind parse_irc_line with
    | none => exact ⟨List.prefix_rfl, .inr (.inl ⟨rfl, rfl⟩)⟩
    | some parsed =>
      dsimp only
      split
      · exact ⟨List.prefix_rfl, .inr (.inr ⟨_, _, _, rfl, rfl, List.prefix_append part more⟩)⟩
      split
      · exact ⟨List.prefix_cons_inj _ |>.mpr sent, result⟩
      split
      · exact ⟨List.prefix_rfl, .inr (.inl ⟨rfl, rfl⟩)⟩
      · exact ⟨sent, result⟩

/-! ## The lines that have arrived -/

theorem terminated_written (clean : '\n' ∉ line.text) (rest : List UInt8) :
    Lines.terminated 10 (ReaderLoop.written line ++ rest) = encode (line.text ++ ['\r']) :: Lines.terminated 10 rest := by
  have whole : ReaderLoop.written line ++ rest = encode (line.text ++ ['\r']) ++ 10 :: rest := by
    have ends : encode ['\n'] = [10] := encode_singleton (by decide)
    have parts : ReaderLoop.written line = encode (line.text ++ ['\r']) ++ [10] := by
      rw [ReaderLoop.written, ← ends, ← encode_append, List.append_assoc]
      rfl
    rw [parts, List.append_assoc]
    rfl
  have ended : (10 : UInt8) ∉ encode (line.text ++ ['\r']) := by
    intro inside
    have lf : '\n' ∈ line.text ++ ['\r'] := (mem_encode_char (by decide)).mp inside
    simp [clean] at lf
  rw [whole, Lines.terminated_line ended]

/-- Lines that the loop skips leave it where it is. -/
theorem register_all_skipped {lines : List ServerLine} (skipped : ∀ line ∈ lines, Skipped line) (rest : List UInt8) :
    register (Lines.terminated 10 (lines.flatMap ReaderLoop.written ++ rest)) = register (Lines.terminated 10 rest) := by
  induction lines with
  | nil => rfl
  | cons line lines ih =>
    obtain ⟨first, later⟩ := List.forall_mem_cons.mp skipped
    rw [List.flatMap_cons, List.append_assoc, terminated_written first.1.1, register_skipped first, ih later]

theorem skipped_preface : ∀ line ∈ Concurrent.preface, Skipped line := by
  unfold Skipped
  decide

theorem skipped_on_channel (loud : Concurrent.on_channel line = true) (legible : Legible line) : Skipped line := by
  have plain : ∀ verb ∈ ["JOIN".toList, "PART".toList, "PRIVMSG".toList, "NOTICE".toList],
      verb ≠ "001".toList ∧ verb ∉ REFUSALS := by decide
  cases line with
  | Join nick channel => exact ⟨legible, plain "JOIN".toList (by decide)⟩
  | Part nick channel => exact ⟨legible, plain "PART".toList (by decide)⟩
  | Message message nick replay => exact ⟨legible, plain "PRIVMSG".toList (by decide)⟩
  | TaskEvent message task action status actor => exact ⟨legible, plain "NOTICE".toList (by decide)⟩
  | _ => cases loud

/-! ## Both sides -/

/-- The commands of a stream up to the first line that is not UTF-8. -/
def heard (stream : List UInt8) : List Command := ((commands stream).takeWhile Option.isSome).reduceOption

/-- What is written to the client of a session. -/
def downstream (s : System) (sid : SessionId) : List UInt8 := (s.world.connections sid).lines.flatMap ReaderLoop.written

/-- The lines of a session ahead of its 001 line. -/
def ahead (s : System) (sid : SessionId) : List ServerLine :=
  (s.world.connections sid).lines.takeWhile (fun line => !Concurrent.greeting line)

variable {outcome : Except Text Principal} {token name : Text} {later : List Command} {sid : SessionId} {l : Linked}
  {arrived : List UInt8}

theorem heard_calls (pass : (Call.pass (.ofText token)).Proper) (user : (Call.user (.ofText name)).Proper) (more : List UInt8) :
    heard ((calls token name).flatMap Call.bytes ++ more) = Concurrent.introduction token name ++ heard more := by
  have proper : ∀ call ∈ calls token name, call.Proper := by
    intro call inside
    simp only [calls, List.mem_cons, List.not_mem_nil, or_false] at inside
    rcases inside with rfl | rfl | rfl | rfl | rfl | rfl
    · decide
    · decide
    · exact pass
    · exact ⟨user.1, .inr user.2⟩
    · exact user
    · decide
  rw [heard, Call.commands_calls _ proper]
  simp only [calls, List.map_cons, List.map_nil, Call.command, PyString.text_ofText]
  rfl

/-- What the loop makes of the bytes that have arrived. -/
structure Connects (outcome : Except Text Principal) (sid : SessionId) (later : List Command) (l : Linked) (arrived : List UInt8) :
    Prop where
  silent : (register (Lines.terminated 10 arrived)).1 = []
  registered : ∀ nick rest, (register (Lines.terminated 10 arrived)).2 = .registered nick rest →
    ∃ principal front behind, outcome = .ok principal ∧ nick = some principal.nick ∧
      l.system.world.principal sid = some principal ∧
      (l.system.world.connections sid).lines =
        Concurrent.preface ++ front ++ .Registered principal.nick principal.team :: behind ∧
      (∀ line ∈ front, Concurrent.on_channel line = true) ∧
      rest <+: Lines.terminated 10 (behind.flatMap ReaderLoop.written)
  failed : (register (Lines.terminated 10 arrived)).2 = .failed → ∃ error, outcome = .error error
  settled : l.system.idle sid = true → l.system.world.open sid → l.upstream.length ≤ later.length →
    arrived = downstream l.system sid → (register (Lines.terminated 10 arrived)).2 ≠ .waiting

theorem greeting_of_quiet (quiet : line ∈ Concurrent.preface ∨ Concurrent.on_channel line = true) :
    (!Concurrent.greeting line) = true := by
  rcases quiet with first | loud
  · have none : ∀ line ∈ Concurrent.preface, (!Concurrent.greeting line) = true := by decide
    exact none line first
  · cases line with
    | Registered _ _ => cases loud
    | _ => rfl

/-- What the loop makes of all that is written. -/
theorem register_downstream (meeting : Concurrent.Meeting outcome token name later sid l)
    (legible : ∀ line ∈ ahead l.system sid, Concurrent.on_channel line = true → Legible line)
    (named : ∀ principal, outcome = .ok principal → Target principal.nick ∧ Legible (.Registered principal.nick principal.team)) :
    (register (Lines.terminated 10 (downstream l.system sid))).1 = [] ∧
    (((register (Lines.terminated 10 (downstream l.system sid))).2 = .waiting ∧ ∀ line ∈ (l.system.world.connections sid).lines,
        line ∈ Concurrent.preface ∨ Concurrent.on_channel line = true) ∨
      ((register (Lines.terminated 10 (downstream l.system sid))).2 = .failed ∧ ∃ error, outcome = .error error) ∨
      ∃ principal front behind, outcome = .ok principal ∧ l.system.world.principal sid = some principal ∧
        (l.system.world.connections sid).lines =
          Concurrent.preface ++ front ++ .Registered principal.nick principal.team :: behind ∧
        (∀ line ∈ front, Concurrent.on_channel line = true) ∧
        (register (Lines.terminated 10 (downstream l.system sid))).2 =
          .registered (some principal.nick) (Lines.terminated 10 (behind.flatMap ReaderLoop.written))) := by
  have waits (quiet : ∀ line ∈ (l.system.world.connections sid).lines, line ∈ Concurrent.preface ∨ Concurrent.on_channel line = true) :
      (register (Lines.terminated 10 (downstream l.system sid))).1 = [] ∧
        (register (Lines.terminated 10 (downstream l.system sid))).2 = .waiting := by
    have unwelcomed : ahead l.system sid = (l.system.world.connections sid).lines := by
      rw [ahead, List.takeWhile_eq_self_iff]
      exact fun line inside => greeting_of_quiet (quiet line inside)
    have skipped : ∀ line ∈ (l.system.world.connections sid).lines, Skipped line := by
      intro line inside
      rcases quiet line inside with first | loud
      · exact skipped_preface line first
      · exact skipped_on_channel loud (legible line (unwelcomed ▸ inside) loud)
    have whole := register_all_skipped skipped []
    rw [List.append_nil] at whole
    rw [downstream, whole]
    exact ⟨rfl, rfl⟩
  have before {x : ServerLine} {quiet more : List ServerLine} (lines : (l.system.world.connections sid).lines = quiet ++ x :: more)
      (clean : '\n' ∉ x.text) (skipped : ∀ line ∈ quiet, Skipped line) :
      register (Lines.terminated 10 (downstream l.system sid)) =
        register (encode (x.text ++ ['\r']) :: Lines.terminated 10 (more.flatMap ReaderLoop.written)) := by
    rw [downstream, lines, List.flatMap_append, register_all_skipped skipped, List.flatMap_cons, terminated_written clean]
  have silent (quiet : ∀ line ∈ (l.system.world.connections sid).lines, line ∈ Concurrent.preface ∨ Concurrent.on_channel line = true)
      {other : Prop} : (register (Lines.terminated 10 (downstream l.system sid))).1 = [] ∧
        (((register (Lines.terminated 10 (downstream l.system sid))).2 = .waiting ∧ ∀ line ∈ (l.system.world.connections sid).lines,
          line ∈ Concurrent.preface ∨ Concurrent.on_channel line = true) ∨ other) :=
    ⟨(waits quiet).1, .inl ⟨(waits quiet).2, quiet⟩⟩
  cases meeting with
  | speaking stage =>
    obtain ⟨lines, nick, pass_token, here, heard⟩ := Concurrent.stage_visitor stage
    exact silent (by rw [here]; exact fun line inside => .inl (heard line inside))
  | leaving used unregistered left heard => exact silent (fun line inside => .inl (heard line inside))
  | arriving accepted used speaks left lines alive => exact silent (by rw [lines]; exact fun line inside => .inl inside)
  | greeting accepted used speaks left lines aloud alive _ =>
    exact silent (by rw [lines]; exact fun line inside => (List.mem_append.mp inside).imp_right (aloud line))
  | @greeted principal front more accepted speaks lines aloud _ =>
    obtain ⟨target, readable⟩ := named principal accepted
    have quiet : ∀ line ∈ Concurrent.preface ++ front, line ∈ Concurrent.preface ∨ Concurrent.on_channel line = true := by
      intro line inside
      exact (List.mem_append.mp inside).imp_right (aloud line)
    have skipped : ∀ line ∈ Concurrent.preface ++ front, Skipped line := by
      intro line inside
      rcases quiet line inside with first | loud
      · exact skipped_preface line first
      · refine skipped_on_channel loud (legible line ?_ loud)
        rw [ahead, lines, List.takeWhile_append_of_pos (fun line inside => greeting_of_quiet (quiet line inside))]
        exact List.mem_append_left _ inside
    have result := before lines readable.1 skipped
    rw [register_welcomed target readable] at result
    exact ⟨by rw [result], .inr (.inr ⟨principal, front, more, accepted, speaks, lines, aloud, by rw [result]⟩)⟩
  | refused denied lines =>
    have result := before lines (by decide) skipped_preface
    rw [register_incorrect] at result
    exact ⟨by rw [result], .inr (.inl ⟨by rw [result], _, denied⟩)⟩
  | cut used shut heard => exact silent heard

/-- The server with the client of a session that has written its introduction and more, after some events. -/
def linked (cfg : Config) (db : Db) (earlier : List Concurrent.Event) (sid : SessionId) (token name : Text) (more : List UInt8)
    (events : List Linked.Event) : Linked :=
  run (Linked.step cfg sid) (Concurrent.meet cfg (run (Concurrent.step cfg) (Concurrent.start db) earlier) sid
    (heard ((calls token name).flatMap Call.bytes ++ more))) events

/-- Whatever the other sessions do, and however much of the server's bytes has arrived, the loop reports the
principal of the token, or an error when there is none; with everything read and arrived it does one of the two. -/
theorem connects (cfg : Config) (db : Db) (earlier : List Concurrent.Event) (sid : SessionId) (token name : Text) (more : List UInt8)
    (events : List Linked.Event) (arrived : List UInt8)
    (unused : ((run (Concurrent.step cfg) (Concurrent.start db) earlier).world.connections sid).phase = .Unused)
    (pass : (Call.pass (.ofText token)).Proper) (user : (Call.user (.ofText name)).Proper)
    (named : ∀ principal, authenticate cfg.verify db.principals db.principal_tokens token = .ok principal →
      Target principal.nick ∧ Legible (.Registered principal.nick principal.team))
    (legible : ∀ line ∈ ahead (linked cfg db earlier sid token name more events).system sid,
      Concurrent.on_channel line = true → Legible line)
    (received : arrived <+: downstream (linked cfg db earlier sid token name more events).system sid) :
    Connects (authenticate cfg.verify db.principals db.principal_tokens token) sid (heard more)
      (linked cfg db earlier sid token name more events) arrived := by
  have inv : Concurrent.Introducing cfg (authenticate cfg.verify db.principals db.principal_tokens token) token name (heard more) sid
      (linked cfg db earlier sid token name more events) := by
    rw [linked, heard_calls pass user]
    exact Concurrent.introducing_run (Concurrent.before_run cfg db token earlier) unused name (heard more) events
  obtain ⟨quiet, result⟩ := register_downstream inv.meeting legible named
  obtain ⟨sent, part⟩ := register_prefix (@Lines.terminated_prefix UInt8 _ 10 _ _ received)
  refine ⟨?_, ?_, ?_, ?_⟩
  · rw [quiet] at sent
    exact List.prefix_nil.mp sent
  · intro nick rest registered
    rcases part with waits | ⟨fails, _⟩ | ⟨nick', rest', whole, first, all, begins⟩
    · rw [registered] at waits; cases waits
    · rw [registered] at fails; cases fails
    rw [registered] at first
    cases first
    rcases result with ⟨waits, _⟩ | ⟨fails, _⟩ | ⟨principal, front, behind, accepted, speaks, lines, aloud, welcomed⟩
    · rw [all] at waits; cases waits
    · rw [all] at fails; cases fails
    rw [all] at welcomed
    cases welcomed
    exact ⟨principal, front, behind, accepted, rfl, speaks, lines, aloud, begins⟩
  · intro failed
    rcases part with waits | ⟨_, fails⟩ | ⟨_, _, _, first, _⟩
    · rw [failed] at waits; cases waits
    · rcases result with ⟨waits, _⟩ | ⟨_, denied⟩ | ⟨_, _, _, _, _, _, _, welcomed⟩
      · rw [fails] at waits; cases waits
      · exact denied
      · rw [fails] at welcomed; cases welcomed
    · rw [failed] at first; cases first
  · intro idle alive read everything waits
    subst everything
    have quiet : ∀ line ∈ ((linked cfg db earlier sid token name more events).system.world.connections sid).lines,
        line ∈ Concurrent.preface ∨ Concurrent.on_channel line = true := by
      rcases result with ⟨_, quiet⟩ | ⟨fails, _⟩ | ⟨_, _, _, _, _, _, _, welcomed⟩
      · exact quiet
      · rw [waits] at fails; cases fails
      · rw [waits] at welcomed; cases welcomed
    rcases inv.meeting.settled idle alive read with ⟨principal, front, behind, _, lines⟩ | ⟨error, behind, _, lines⟩
    · have greeted := greeting_of_quiet (quiet (.Registered principal.nick principal.team) (by
        rw [lines]
        exact List.mem_append_right _ List.mem_cons_self))
      cases greeted
    · have refused := quiet .PasswordIncorrect (by
        rw [lines]
        exact List.mem_append_right _ List.mem_cons_self)
      revert refused
      decide

/-! ### Alice connects -/

/-- Her task reads a command whenever it can, and otherwise runs on. -/
def turns : List Linked.Event := (List.replicate 16 [.arrive, .system (.run 0 (Server.moment 0))]).flatten

def alice_connecting : Linked := linked Server.plain Concurrent.both_in_c [] 0 "a".toList "alice".toList [] turns

theorem alice_connecting_eq : alice_connecting = run (Linked.step Server.plain 0)
    (Concurrent.meet Server.plain (Concurrent.start Concurrent.both_in_c) 0 (Concurrent.introduction "a".toList "alice".toList)) turns := by
  rw [alice_connecting, linked, heard_calls (by decide) (by decide)]
  rfl

theorem alice_connects : ∃ rest,
    (register (Lines.terminated 10 (downstream alice_connecting.system 0))).2 = .registered (some "alice".toList) rest := by
  have known : authenticate Server.plain.verify Concurrent.both_in_c.principals Concurrent.both_in_c.principal_tokens "a".toList =
      .ok ⟨"alice".toList, "alice".toList, none⟩ := by decide
  have named : ∀ principal, authenticate Server.plain.verify Concurrent.both_in_c.principals
      Concurrent.both_in_c.principal_tokens "a".toList = .ok principal →
        Target principal.nick ∧ Legible (.Registered principal.nick principal.team) := by
    intro principal accepted
    rw [known] at accepted
    cases accepted
    decide
  have legible : ∀ line ∈ ahead alice_connecting.system 0, Concurrent.on_channel line = true → Legible line := by
    rw [alice_connecting_eq]
    decide +kernel
  have connected := connects Server.plain Concurrent.both_in_c [] 0 "a".toList "alice".toList [] turns
    (downstream alice_connecting.system 0) rfl (by decide) (by decide) named legible List.prefix_rfl
  have settled : alice_connecting.system.idle 0 = true ∧ alice_connecting.system.world.open 0 ∧ alice_connecting.upstream.length ≤ 0 := by
    rw [alice_connecting_eq]
    decide +kernel
  cases result : (register (Lines.terminated 10 (downstream alice_connecting.system 0))).2 with
  | waiting => exact absurd result (connected.settled settled.1 settled.2.1 settled.2.2 rfl)
  | failed =>
    obtain ⟨error, denied⟩ := connected.failed result
    rw [known] at denied
    cases denied
  | registered nick rest =>
    obtain ⟨principal, _, _, accepted, rfl, _⟩ := connected.registered nick rest result
    rw [known] at accepted
    cases accepted
    exact ⟨rest, rfl⟩

end Aircd.Client

import Aircd.Endings
import Aircd.Flow
import Aircd.Progress
import Aircd.TaskEvents

/-!
# Who wrote the log

Every row of the log is stored by the task of one session. The chat that a session
stores is, in order, a part of the PRIVMSGs that it was sent, under the id of the
principal that it authenticated as; everything else is stored for the server.
-/
namespace Aircd.Concurrent
open Aircd.Runs Aircd.Text Aircd.Protocol Aircd.Auth Aircd.History Aircd.Tasks Aircd.Store Aircd.Server

/-- A message that the task of a session stores, and the notice that it sends then. -/
structure Storing where
  session : SessionId
  notice : Notice
  message : StoredMessage

/-- What an event stores. -/
def stores (s : System) : Event → List Storing
  | .run sid env =>
    match s.threads sid with
    | .append channel sender_id body notice :: _ => [⟨sid, notice, (append_message s.world env channel sender_id body).2⟩]
    | _ => []
  | _ => []

/-- The channel and the body of a PRIVMSG that a session is sent. -/
def hears (sid : SessionId) (s : System) : Event → List (Text × Text)
  | .receive sid' (.Privmsg target body) =>
    if sid' = sid ∧ s.idle sid = true then [(normalize_channel target, body)] else []
  | _ => []

/-- The channel and the body of the chat that a session stores. -/
def Storing.chat (sid : SessionId) (x : Storing) : Option (Text × Text) :=
  match x.notice with
  | .Privmsg _ => if x.session = sid then some (x.message.channel, x.message.body) else none
  | .Task _ _ _ _ => none

/-- Chat is stored for the principal of its session, and signed with its nick;
    the rest is stored for the server. -/
def Authentic (s : System) (x : Storing) : Prop :=
  match x.notice with
  | .Privmsg nick => ∃ principal, s.world.principal x.session = some principal ∧ principal.id = x.message.sender_id ∧
      principal.nick = nick
  | .Task _ _ _ _ => x.message.sender_id = SERVER_NAME

/-- The channel and the body of a PRIVMSG that a section has in hand. -/
def Section.utterance : Section → Option (Text × Text)
  | .ensure_registered (.Privmsg target body) => some (normalize_channel target, body)
  | .is_member _ channel body => some (channel, body)
  | .append channel _ body (.Privmsg _) => some (channel, body)
  | _ => none

/-- The PRIVMSGs that a session has in hand. -/
def in_hand (sid : SessionId) (s : System) : List (Text × Text) := (s.threads sid).filterMap (·.utterance)

/-- What a section has in hand, it has from the principal of its session. -/
def Section.Voiced (w : World) (sid : SessionId) : Section → Prop
  | .is_member principal _ _ => w.principal sid = some principal
  | .append _ sender_id _ (.Privmsg nick) => ∃ principal, w.principal sid = some principal ∧ principal.id = sender_id ∧
      principal.nick = nick
  | .append _ sender_id _ (.Task _ _ _ _) => sender_id = SERVER_NAME
  | _ => True

variable {cfg : Config} {s : System} {w : World} {env : Env} {sid sid' : SessionId} {x here : Section} {e : Event}

/-! ## What one section has in hand -/

/-- Only the guard of a PRIVMSG leads to the check of the membership. -/
theorem is_member_source {principal : Principal} {channel body : Text}
    (inside : .is_member principal channel body ∈ (perform cfg w env sid here).2) :
    ∃ target, here = .ensure_registered (.Privmsg target body) ∧ channel = normalize_channel target ∧
      w.principal sid = some principal := by
  have higher := ranked_perform cfg env sid w here _ inside
  cases here with
  | try_register =>
    rcases perform_try_register cfg w env sid with ⟨more, result, plain⟩ | ⟨_, _, _, result⟩
    · rw [result] at inside
      cases plain _ inside
    · rw [result] at inside
      cases List.mem_singleton.mp inside
  | ensure_registered command =>
    rcases mem_ensure_registered inside with ⟨speaker, known, _, handled⟩ | same | same | same
    · cases command with
      | Privmsg target text =>
        cases List.mem_singleton.mp handled
        exact ⟨target, rfl, rfl, known⟩
      | TaskCreate channel title =>
        simp only [handler] at handled
        split at handled
        · cases List.mem_singleton.mp handled
        · cases List.mem_singleton.mp handled
      | History channel after_seq limit =>
        cases channel with
        | none => cases List.mem_singleton.mp handled
        | some channel => cases List.mem_singleton.mp handled
      | Join channel => cases List.mem_singleton.mp handled
      | Part channel => cases List.mem_singleton.mp handled
      | TaskClaim task_id => cases List.mem_singleton.mp handled
      | TaskDone task_id => cases List.mem_singleton.mp handled
      | TaskRelease task_id => cases List.mem_singleton.mp handled
      | TaskList channel => cases List.mem_singleton.mp handled
      | _ => cases handled
    · cases same
    · cases same
    · cases same
  | _ => simp [Section.rank] at higher

/-- What a section hands on, it had in hand itself, and it hands on nothing else. -/
theorem utterance_perform {said : Text × Text} (inside : x ∈ (perform cfg w env sid here).2)
    (utters : x.utterance = some said) : here.utterance = some said ∧ (perform cfg w env sid here).2 = [x] := by
  cases x with
  | ensure_registered command => exact (leads_perform inside).elim
  | is_member principal channel body =>
    obtain ⟨target, rfl, rfl, _⟩ := is_member_source inside
    cases utters
    refine ⟨rfl, ?_⟩
    rcases perform_ensure_registered_cases cfg w env sid (.Privmsg target body) with
      ⟨speaker, next⟩ | ⟨line, next⟩ | next | ⟨line, next⟩
    · rw [next] at inside ⊢
      rw [handler] at inside ⊢
      rw [List.mem_singleton.mp inside]
    · rw [next] at inside; cases List.mem_singleton.mp inside
    · rw [next] at inside; cases List.mem_singleton.mp inside
    · rw [next] at inside; simp at inside
  | append channel sender_id body notice =>
    rcases append_source inside with ⟨principal, rfl, _, rfl⟩ | ⟨_, _, _, _, _, same⟩
    · cases utters
      refine ⟨rfl, ?_⟩
      simp only [perform] at inside ⊢
      split at inside
      · next member => rw [if_pos member, List.mem_singleton.mp inside]
      · cases List.mem_singleton.mp inside
    · cases same
      cases utters
  | _ => cases utters

/-- What a section stores and hands on is what it had in hand. -/
theorem utterances_perform (x : Section) : ((perform cfg w env sid x).2.filterMap (·.utterance)).Sublist x.utterance.toList := by
  by_cases silent : ∀ y ∈ (perform cfg w env sid x).2, y.utterance = none
  · rw [List.filterMap_eq_nil_iff.mpr silent]
    exact List.nil_sublist _
  · simp only [not_forall] at silent
    obtain ⟨y, inside, some⟩ := silent
    obtain ⟨said, utters⟩ := Option.ne_none_iff_exists'.mp some
    obtain ⟨had, single⟩ := utterance_perform inside utters
    rw [single, had, List.filterMap_cons, utters]
    exact List.Sublist.refl _

/-! ## The flow of chat through one session -/

/-- An event other than a turn begins no PRIVMSG but the one that the session is sent. -/
theorem in_hand_begins {sections : List Section} (begins : Begins w sid e sections) :
    sections.filterMap (·.utterance) = [] ∨
      ∃ target body, e = .receive sid (.Privmsg target body) ∧ sections = [.ensure_registered (.Privmsg target body)] := by
  have ending : (disconnect w sid).filterMap (·.utterance) = [] := by
    unfold disconnect
    split
    · rfl
    · rfl
  rcases begins with ⟨command, rfl, rfl⟩ | rfl | ⟨reason, rfl⟩
  · cases command with
    | Privmsg target body => exact .inr ⟨target, body, rfl, rfl⟩
    | Quit => exact .inl ending
    | Cap subcommand capabilities =>
      left
      rw [List.filterMap_eq_nil_iff]
      intro x inside
      obtain ⟨line, _, rfl⟩ := List.mem_map.mp inside
      rfl
    | _ => exact .inl rfl
  · exact .inl ending
  · exact .inl ending

/-- The chat that an event stores for a session, and what the session has in hand
    after it, are in order a part of what it had in hand and of what it is sent. -/
theorem chat_step (cfg : Config) (sid : SessionId) (s : System) (e : Event) :
    ((stores s e).filterMap (Storing.chat sid) ++ in_hand sid (step cfg s e)).Sublist (in_hand sid s ++ hears sid s e) := by
  have kept (stored : stores s e = []) (same : (step cfg s e).threads sid = s.threads sid) :
      ((stores s e).filterMap (Storing.chat sid) ++ in_hand sid (step cfg s e)).Sublist (in_hand sid s ++ hears sid s e) := by
    rw [stored, in_hand, same]
    exact List.sublist_append_left _ _
  by_cases runs : ∃ task env, e = .run task env
  · obtain ⟨task, env, rfl⟩ := runs
    cases head : s.threads task with
    | nil =>
      refine kept ?_ (by rw [step_run_idle head])
      simp [stores, head]
    | cons here rest =>
      by_cases own : sid = task
      · subst own
        have handed := @utterances_perform cfg s.world env sid here
        have after : in_hand sid (step cfg s (.run sid env)) =
            (perform cfg s.world env sid here).2.filterMap (·.utterance) ++ rest.filterMap (·.utterance) := by
          rw [in_hand, step_run head, threads_resume, if_pos rfl, List.filterMap_append]
        have before : in_hand sid s = here.utterance.toList ++ rest.filterMap (·.utterance) := by
          rw [in_hand, head, List.filterMap_cons]
          cases here.utterance with
          | none => rfl
          | some said => rfl
        have unheard : hears sid s (.run sid env) = [] := rfl
        rw [after, before, unheard, List.append_nil, ← List.append_assoc]
        refine List.Sublist.append_right ?_ _
        cases here with
        | append channel sender_id body notice =>
          cases notice with
          | Privmsg nick => simp [stores, head, Storing.chat, perform, append_message, Section.utterance, next]
          | Task task action status actor => simp [stores, head, Storing.chat, perform, Section.utterance]
        | _ => simpa [stores, head] using handed
      · have foreign : (stores s (.run task env)).filterMap (Storing.chat sid) = [] := by
          cases here with
          | append channel sender_id body notice =>
            cases notice with
            | Privmsg nick => simp [stores, head, Storing.chat, Ne.symm own]
            | Task task action status actor => simp [stores, head, Storing.chat]
          | _ => simp [stores, head]
        rw [foreign, in_hand, step_run head, threads_resume, if_neg own]
        exact List.sublist_append_left _ _
  · have notRun : ∀ task env, e ≠ .run task env := fun task env same => runs ⟨task, env, same⟩
    have stored : stores s e = [] := by
      cases e with
      | run task env => exact absurd rfl (notRun task env)
      | _ => rfl
    rcases threads_step cfg s e sid with same | ⟨env, _, _, turn, _, _⟩ | ⟨empty, up, begins⟩ | ⟨_, empty⟩
    · exact kept stored same
    · exact absurd turn (notRun sid env)
    · rw [stored, in_hand]
      rcases in_hand_begins begins with silent | ⟨target, body, rfl, sections⟩
      · rw [silent]
        exact List.nil_sublist _
      · have idle : s.idle sid = true := by simp [System.idle, empty, up]
        rw [sections]
        simp [hears, idle, in_hand, empty, Section.utterance]
    · rw [stored, in_hand, empty]
      exact List.nil_sublist _

/-! ## In whose name -/

theorem Section.Voiced.mono {w' : World} (stays : ∀ principal, w.principal sid = some principal → w'.principal sid = some principal)
    (voiced : x.Voiced w sid) : x.Voiced w' sid := by
  cases x with
  | is_member principal channel body => exact stays principal voiced
  | append channel sender_id body notice =>
    cases notice with
    | Privmsg nick =>
      obtain ⟨principal, speaks, id, nick⟩ := voiced
      exact ⟨principal, stays principal speaks, id, nick⟩
    | Task task action status actor => exact voiced
  | _ => trivial

theorem voiced_perform (voiced : here.Voiced w sid) (inside : x ∈ (perform cfg w env sid here).2) : x.Voiced w sid := by
  cases x with
  | is_member principal channel body =>
    obtain ⟨_, _, _, speaks⟩ := is_member_source inside
    exact speaks
  | append channel sender_id body notice =>
    rcases append_source inside with ⟨principal, rfl, rfl, rfl⟩ | ⟨_, _, _, _, _, same⟩
    · exact ⟨principal, voiced, rfl, rfl⟩
    · cases same
      exact rfl
  | _ => trivial

theorem voiced_fresh (begins : x.fresh) : x.Voiced w sid := by
  cases x with
  | is_member principal channel body => exact begins.elim
  | append channel sender_id body notice => exact begins.elim
  | _ => trivial

/-- Sessions keep their principals, and what they have in hand is theirs. -/
structure Attributed (s : System) : Prop where
  held : Held s
  voiced : ∀ sid, ∀ x ∈ s.threads sid, x.Voiced s.world sid

theorem Attributed.step (cfg : Config) (e : Event) (inv : Attributed s) : Attributed (step cfg s e) := by
  refine ⟨inv.held.step, ?_⟩
  intro sid x inside
  have stays := fun principal speaks => @Held.speaks cfg s sid principal inv.held speaks e
  rcases mem_threads_step inside with old | ⟨env, here, rest, rfl, head, new⟩ | begins
  · exact (inv.voiced sid x old).mono stays
  · exact (voiced_perform (inv.voiced sid here (by rw [head]; exact List.mem_cons_self)) new).mono stays
  · exact voiced_fresh begins

theorem authentic_stores (inv : Attributed s) : ∀ x ∈ stores s e, Authentic s x := by
  intro x inside
  cases e with
  | run sid env =>
    cases head : s.threads sid with
    | nil => simp [stores, head] at inside
    | cons here rest =>
      have voiced := inv.voiced sid here (by rw [head]; exact List.mem_cons_self)
      cases here with
      | append channel sender_id body notice =>
        simp only [stores, head, List.mem_singleton] at inside
        subst inside
        cases notice with
        | Privmsg nick => exact voiced
        | Task task action status actor => exact voiced
      | _ => simp [stores, head] at inside
  | _ => cases inside

theorem authentic_step (inv : Attributed s) {x : Storing} (authentic : Authentic s x) : Authentic (step cfg s e) x := by
  unfold Authentic at authentic ⊢
  cases notice : x.notice with
  | Privmsg nick =>
    rw [notice] at authentic
    obtain ⟨principal, speaks, rest⟩ := authentic
    exact ⟨principal, inv.held.speaks speaks e, rest⟩
  | Task task action status actor => rw [notice] at authentic; exact authentic

/-- An event adds to the log what it stores. -/
theorem rows_stores (cfg : Config) (s : System) (e : Event) :
    (step cfg s e).world.db.messages.rows = s.world.db.messages.rows ++ (stores s e).map (·.message) := by
  by_cases runs : ∃ task env, e = .run task env
  · obtain ⟨task, env, rfl⟩ := runs
    cases head : s.threads task with
    | nil => simp [step_run_idle head, stores, head]
    | cons here rest =>
      rw [step_run head, world_resume]
      by_cases appends : ∃ channel sender_id body notice, here = .append channel sender_id body notice
      · obtain ⟨channel, sender_id, body, notice, rfl⟩ := appends
        simp [stores, head, perform, append_message, append]
      · rw [messages_perform (fun channel sender_id body notice same => appends ⟨channel, sender_id, body, notice, same⟩)]
        cases here with
        | append channel sender_id body notice => exact absurd ⟨_, _, _, _, rfl⟩ appends
        | _ => simp [stores, head]
  · rw [db_step_other cfg s (fun task env same => runs ⟨task, env, same⟩)]
    cases e with
    | run task env => exact absurd ⟨task, env, rfl⟩ runs
    | _ => simp [stores]

/-- The log is what it was and what the tasks stored, in order; the chat that a
    session stored is in order a part of the PRIVMSGs that it was sent, with the same
    channels and bodies; and each row bears the name of the principal of its session,
    or of the server. -/
theorem chat_is_authentic (cfg : Config) (db : Db) (events : List Event) :
    (run (step cfg) (start db) events).world.db.messages.rows =
      db.messages.rows ++ (outputs (step cfg) stores (start db) events).map (·.message) ∧
    (∀ sid, ((outputs (step cfg) stores (start db) events).filterMap (Storing.chat sid)).Sublist
      (outputs (step cfg) (hears sid) (start db) events)) ∧
    ∀ x ∈ outputs (step cfg) stores (start db) events, Authentic (run (step cfg) (start db) events) x := by
  refine ⟨?_, ?_, ?_⟩
  · exact @flow_log _ _ _ (step cfg) _ (fun s => s.world.db.messages.rows) (·.message) stores (rows_stores cfg) events (start db)
  · intro sid
    have flow := flow_sublist (chat_step cfg sid) events (start db)
    rw [outputs_filterMap]
    exact (List.sublist_append_left _ _).trans flow
  · refine @flow_forall _ _ _ (step cfg) Attributed Authentic stores (fun s e inv => inv.step cfg e) ?_ ?_ events _ ?_
    · intro s e inv x inside
      exact authentic_step inv (authentic_stores inv x inside)
    · intro s e inv x authentic
      exact authentic_step inv authentic
    · exact ⟨held_start db, fun sid x inside => by cases inside⟩

end Aircd.Concurrent

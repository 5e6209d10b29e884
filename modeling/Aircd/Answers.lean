import Aircd.Cleanup
import Aircd.Reader

/-!
# The responses of a call

A request has a number of its own, under one key of one map. Its responses grow by
what the reader loop takes for an answer to it, and the first one of a task action
is what its call returns.
-/
namespace Aircd.Daemon.Loop
open Aircd.Runs Aircd.Text

variable {nick : Text} {s s' : Loop} {e : Event} {id : Nat} {request : Request} {object : Nat}

/-- Every number in the maps has been given out, and stands under one key of one map. -/
structure Numbered (r : Requests) : Prop where
  below : ∀ kind key object, r.get kind key = some object → object < r.made
  apart : ∀ kind key kind' key' object, r.get kind key = some object → r.get kind' key' = some object → kind = kind' ∧ key = key'

theorem Numbered.register {r : Requests} (numbered : Numbered r) (request : Request) : Numbered (r.register request) := by
  refine ⟨?_, ?_⟩
  · intro kind key object found
    rw [get_register] at found
    split at found
    · cases found; exact Nat.lt_succ_self _
    · exact Nat.lt_succ_of_lt (numbered.below kind key object found)
  · intro kind key kind' key' object found found'
    rw [get_register] at found found'
    split at found
    · next here =>
      cases found
      split at found'
      · next here' => exact ⟨here.1.trans here'.1.symm, here.2.symm.trans here'.2⟩
      · exact absurd (numbered.below kind' key' _ found') (lt_irrefl _)
    · split at found'
      · cases found'
        exact absurd (numbered.below kind key _ found) (lt_irrefl _)
      · exact numbered.apart kind key kind' key' object found found'

theorem Numbered.pop {r : Requests} (numbered : Numbered r) (request : Request) : Numbered (r.pop request) := by
  have old {kind : Kind} {key : Text} {object : Nat} (found : (r.pop request).get kind key = some object) :
      r.get kind key = some object := by
    rw [get_pop] at found
    split at found
    · cases found
    · exact found
  exact ⟨fun kind key object found => numbered.below kind key object (old found),
    fun kind key kind' key' object found found' => numbered.apart kind key kind' key' object (old found) (old found')⟩

theorem Numbered.step (numbered : Numbered s.requests) (effect : Effect s s' e) : Numbered s'.requests := by
  have kept {r r' : Requests} (numbered : Numbered r) (maps : r'.maps = r.maps) (made : r'.made = r.made) : Numbered r' := by
    refine ⟨?_, ?_⟩
    · intro kind key object found
      rw [Requests.get, maps] at found
      rw [made]
      exact numbered.below kind key object found
    · intro kind key kind' key' object found found'
      rw [Requests.get, maps] at found found'
      exact numbered.apart kind key kind' key' object found found'
  cases effect with
  | same _ maps made => exact kept numbered maps made
  | refused _ _ _ _ _ requests => rw [requests]; exact numbered
  | registered _ request _ _ _ _ _ requests => rw [requests]; exact numbered.register request
  | drained _ _ _ _ _ _ _ requests => rw [requests]; exact numbered
  | resumed _ request _ _ _ _ _ requests => rw [requests]; exact numbered.pop request

/-! ## What a message adds -/

/-- The reader loop takes a message for the outcome of a task action. -/
def takes (nick : Text) (r : Requests) (msg : Message) (object : Nat) (response : Response) : Prop :=
  history_replay r msg = none ∧ looks_like_row r msg = false ∧ action_outcome nick r msg = some (object, response)

/-- A message adds nothing to the responses of a task action but an outcome that is taken for its own. -/
theorem responses_answer {r : Requests} {msg : Message} {key : Text} (numbered : Numbered r)
    (registered : r.get .task_action key = some object) :
    ((answer nick r msg).1.objects object).responses = (r.objects object).responses ∨
    ∃ response, takes nick r msg object response ∧
      ((answer nick r msg).1.objects object).responses = (r.objects object).responses ++ [response] := by
  have other {object' : Nat} {kind : Kind} {key' : Text} (found : r.get kind key' = some object')
      (different : kind ≠ .task_action) : object ≠ object' := by
    rintro rfl
    exact different (numbered.apart kind key' .task_action key object found registered).1
  have collected {object' : Nat} (apart : object ≠ object') (response : Response) :
      ((collect r object' response).objects object).responses = (r.objects object).responses := by
    rw [collect, responses_modify, if_neg apart]
  unfold answer
  split
  · next object' replayed =>
    left
    unfold history_replay at replayed
    split at replayed
    · exact collected (other replayed (by decide)) _
    · cases replayed
  · next replayed =>
    split
    · split
      · next object' response listed =>
        left
        obtain ⟨⟨channel, row⟩, _, pending⟩ := Option.bind_eq_some_iff.mp listed
        obtain ⟨object'', found, same⟩ := Option.map_eq_some_iff.mp pending
        cases same
        exact collected (other found (show Kind.task_list ≠ Kind.task_action by decide)) _
      · exact .inl rfl
    · next row =>
      split
      · next object' response told =>
        dsimp only
        rw [responses_modify]
        split
        · next same =>
          subst same
          exact .inr ⟨response, ⟨replayed, by simpa using row, told⟩, rfl⟩
        · exact .inl rfl
      · exact .inl rfl

/-- The responses of a task action that is under way grow by one outcome at a time. -/
theorem responses_step {key : Text} (numbered : Numbered s.requests) (registered : s.requests.get .task_action key = some object) :
    ((step nick s e).requests.objects object).responses = (s.requests.objects object).responses ∨
    ∃ address msg restarted response, e = .message address msg restarted ∧ takes nick s.requests msg object response ∧
      ((step nick s e).requests.objects object).responses = (s.requests.objects object).responses ++ [response] := by
  have below := numbered.below _ _ _ registered
  cases e with
  | call id request connected =>
    left
    have fresh : ((s.requests.register request).objects object).responses = (s.requests.objects object).responses := by
      simp only [Requests.register, Function.update_of_ne (Nat.ne_of_lt below)]
    simp only [step]
    split
    · split
      · rfl
      · split
        · exact fresh
        · exact fresh
    · rfl
  | drained id succeeds =>
    left
    simp only [step]
    split
    · split
      · rfl
      · rfl
    · rfl
  | resume id timed_out =>
    left
    simp only [step]
    split
    · split
      · rfl
      · rfl
    · rfl
  | finalize object' =>
    left
    simp only [step]
    split
    · dsimp only
      rw [responses_modify]
      split
      · next same => rw [same]
      · rfl
    · rfl
  | message address msg restarted =>
    by_cases here : ready s address
    · rw [step_message here]
      rcases @responses_answer nick object s.requests msg key numbered registered with same | ⟨response, taken, grown⟩
      · exact .inl same
      · exact .inr ⟨address, msg, restarted, response, rfl, taken, grown⟩
    · left
      simp only [step]
      rw [if_neg (show ¬ (s.buffer.stage = .Waiting ∧ ∀ m ∈ s.buffer.live, m.address ≠ address) from here)]
  | buffer e => left; cases e <;> rfl

/-- A task action returns the first of its responses. -/
theorem ended_response {action : Action} {task_id : Text} {response : Response}
    (ended : (step nick s e).calls id = .ended (.task_action action task_id) (.response response)) :
    s.calls id = .ended (.task_action action task_id) (.response response) ∨
    ∃ object, s.calls id = .waiting (.task_action action task_id) object ∧
      (s.requests.objects object).responses.head? = some response := by
  have updated {id' : Nat} {call : Call} (ended : Function.update s.calls id' call id =
      .ended (.task_action action task_id) (.response response)) :
      s.calls id = .ended (.task_action action task_id) (.response response) ∨
        id = id' ∧ call = .ended (.task_action action task_id) (.response response) := by
    by_cases here : id = id'
    · subst here; rw [Function.update_self] at ended; exact .inr ⟨rfl, ended⟩
    · rw [Function.update_of_ne here] at ended; exact .inl ended
  cases e with
  | call id' request connected =>
    simp only [step] at ended
    split at ended
    · split at ended
      · rcases updated ended with old | ⟨_, same⟩
        · exact .inl old
        · cases same
      · split at ended
        · rcases updated ended with old | ⟨_, same⟩
          · exact .inl old
          · cases same
        · rcases updated ended with old | ⟨_, same⟩
          · exact .inl old
          · cases same
    · exact .inl ended
  | drained id' succeeds =>
    simp only [step] at ended
    split at ended
    · split at ended
      · rcases updated ended with old | ⟨_, same⟩
        · exact .inl old
        · cases same
      · rcases updated ended with old | ⟨_, same⟩
        · exact .inl old
        · cases same
    · exact .inl ended
  | resume id' timed_out =>
    simp only [step] at ended
    split at ended
    · next request object before =>
      split at ended
      · rcases updated ended with old | ⟨rfl, same⟩
        · exact .inl old
        · right
          simp only [Call.ended.injEq] at same
          obtain ⟨rfl, same⟩ := same
          refine ⟨object, before, ?_⟩
          unfold result at same
          dsimp only at same
          split at same
          · cases same
          · split at same
            · next first found => cases same; exact found
            · cases same
      · exact .inl ended
    · exact .inl ended
  | finalize object =>
    simp only [step] at ended
    split at ended
    · exact .inl ended
    · exact .inl ended
  | message address msg restarted =>
    simp only [step] at ended
    split at ended
    · split at ended
      · exact .inl ended
      · exact .inl ended
    · exact .inl ended
  | buffer e => left; cases e <;> exact ended

/-! ## What is told to a call -/

/-- The call has sent a task action, and no outcome has been taken for it. -/
def Open (s : Loop) (id : Nat) (action : Action) (task_id : Text) (object : Nat) : Prop :=
  Live s id (.task_action action task_id) object ∧ (s.requests.objects object).responses = []

/-- A live call was live before with the same responses or one fewer, or it has just begun with none. -/
theorem live_responses {action : Action} {task_id : Text} (inv : Inv s) (numbered : Numbered s.requests)
    (live : Live (step nick s e) id (.task_action action task_id) object) :
    (Live s id (.task_action action task_id) object ∧
      (((step nick s e).requests.objects object).responses = (s.requests.objects object).responses ∨
        ∃ address msg restarted response, e = .message address msg restarted ∧ takes nick s.requests msg object response ∧
          ((step nick s e).requests.objects object).responses = (s.requests.objects object).responses ++ [response])) ∨
    (((step nick s e).requests.objects object).responses = [] ∧
      (∃ connected, e = .call id (.task_action action task_id) connected) ∧ s.calls id = .unstarted ∧
      s.requests.get .task_action (action_key action.text task_id) = none) := by
  rcases live_step (step_effect nick s e) live with old | ⟨rfl, free, requests, _, connected, event, before⟩
  · exact .inl ⟨old, responses_step numbered (inv.held id _ object old)⟩
  · refine .inr ⟨?_, ⟨connected, event⟩, before, free⟩
    rw [requests]
    simp [Requests.register]

/-- A call without an outcome had none before, or it has just begun. -/
theorem open_step {action : Action} {task_id : Text} (inv : Inv s) (numbered : Numbered s.requests)
    (pending : Open (step nick s e) id action task_id object) :
    Open s id action task_id object ∨
    ((∃ connected, e = .call id (.task_action action task_id) connected) ∧ s.calls id = .unstarted ∧
      s.requests.get .task_action (action_key action.text task_id) = none) := by
  obtain ⟨live, empty⟩ := pending
  rcases live_responses inv numbered live with ⟨old, same | ⟨_, _, _, response, _, _, grown⟩⟩ | ⟨_, begun⟩
  · exact .inl ⟨old, same.symm.trans empty⟩
  · rw [empty] at grown
    exact absurd grown.symm (List.append_ne_nil_of_right_ne_nil _ (List.cons_ne_nil response []))
  · exact .inr begun

/-- What the task actions have been told, or have returned. -/
structure Told (P : Nat → Action → Text → Response → Prop) (s : Loop) : Prop where
  responses : ∀ id action task_id object response, Live s id (.task_action action task_id) object →
    (s.requests.objects object).responses.head? = some response → P id action task_id response
  results : ∀ id action task_id response, s.calls id = .ended (.task_action action task_id) (.response response) →
    P id action task_id response

/-- What the calls are told holds when it holds of every outcome that is taken for a call that has none. -/
theorem Told.step {P : Nat → Action → Text → Response → Prop} (told : Told P s) (inv : Inv s) (numbered : Numbered s.requests)
    (first : ∀ id action task_id object response address msg restarted, e = .message address msg restarted →
      Open s id action task_id object → takes nick s.requests msg object response → P id action task_id response) :
    Told P (step nick s e) := by
  refine ⟨?_, ?_⟩
  · intro id action task_id object response live head
    rcases live_responses inv numbered live with
      ⟨old, same | ⟨address, msg, restarted, response', event, taken, grown⟩⟩ | ⟨empty, _⟩
    · rw [same] at head
      exact told.responses id action task_id object response old head
    · rw [grown, List.head?_append] at head
      cases before : (s.requests.objects object).responses with
      | nil =>
        rw [before] at head
        cases head
        exact first id action task_id object _ address msg restarted event ⟨old, before⟩ taken
      | cons earlier later =>
        rw [before] at head
        cases head
        exact told.responses id action task_id object _ old (by rw [before]; rfl)
    · rw [empty] at head; cases head
  · intro id action task_id response ended
    rcases ended_response ended with old | ⟨object, waiting, head⟩
    · exact told.results id action task_id response old
    · exact told.responses id action task_id object response (.inr waiting) head

theorem Told.mono {P Q : Nat → Action → Text → Response → Prop} (told : Told P s)
    (weaken : ∀ id action task_id response, P id action task_id response → Q id action task_id response) : Told Q s :=
  ⟨fun id action task_id object response live head => weaken _ _ _ _ (told.responses id action task_id object response live head),
    fun id action task_id response ended => weaken _ _ _ _ (told.results id action task_id response ended)⟩

end Aircd.Daemon.Loop

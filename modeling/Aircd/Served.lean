import Aircd.Answers
import Aircd.Bridge

/-!
# What the calls of the tools end with

A request collects answers to itself only, in every run of the event loop. So each
tool of the bridge does what it is for, whatever its arguments and whatever else
the daemon is doing.
-/
namespace Aircd.Daemon.Loop
open Aircd.Runs Aircd.Text
open Aircd.Bridge (Suits)

variable {nick : Text} {s : Loop} {e : Event} {id object : Nat} {request : Request} {result : Result} {response : Response}
  {kind : Kind} {key : Text}

/-- A response to a request under the key of the kind. -/
def Answering : Kind → Text → Response → Prop
  | .history, channel, .replay m => m.channel = channel
  | .task_list, channel, .task _ channel' _ _ _ => channel' = channel
  | .task_action, _, .outcome _ _ => True
  | _, _, _ => False

structure Collected (s : Loop) : Prop where
  registered : ∀ kind key object, s.requests.get kind key = some object →
    ∀ response ∈ (s.requests.objects object).responses, Answering kind key response
  ended : ∀ id request result, s.calls id = .ended request result → Suits request result

/-! ## The end of a call -/

/-- A call that a wait has ended returns what its request has found. -/
theorem resumed_result {timed_out : Bool} (waiting : s.calls id = .waiting request object)
    (ended : (step nick s (.resume id timed_out)).calls id = .ended request result) :
    result = Loop.result request (s.requests.objects object) timed_out := by
  simp only [step, waiting] at ended
  split at ended
  · simp only [setCall, Function.update_self, Call.ended.injEq, true_and] at ended
    exact ended.symm
  · rw [waiting] at ended
    cases ended

/-- How a call can have ended with an event. -/
theorem ended_step (ended : (step nick s e).calls id = .ended request result) :
    s.calls id = .ended request result ∨ (∃ error, result = .in_flight error) ∨ result = .not_sent ∨
    ∃ object timed_out, s.calls id = .waiting request object ∧
      result = Loop.result request (s.requests.objects object) timed_out := by
  have updated {id' : Nat} {call : Call} (calls : (step nick s e).calls = Function.update s.calls id' call) :
      s.calls id = .ended request result ∨ (id' = id ∧ call = .ended request result) := by
    by_cases here : id' = id
    · subst here
      rw [calls, Function.update_self] at ended
      exact .inr ⟨rfl, ended⟩
    · rw [calls, Function.update_of_ne (Ne.symm here)] at ended
      exact .inl ended
  cases step_effect nick s e with
  | same calls _ _ => exact .inl (calls ▸ ended)
  | refused id' request' _ _ calls _ =>
    rcases updated calls with old | ⟨_, same⟩
    · exact .inl old
    · cases same
      exact .inr (.inl ⟨_, rfl⟩)
  | registered id' request' connected _ _ _ calls _ =>
    rcases updated calls with old | ⟨_, same⟩
    · exact .inl old
    · cases connected with
      | true => cases same
      | false =>
        cases same
        exact .inr (.inr (.inl rfl))
  | drained id' request' object succeeds _ _ calls _ =>
    rcases updated calls with old | ⟨_, same⟩
    · exact .inl old
    · cases succeeds with
      | true => cases same
      | false =>
        cases same
        exact .inr (.inr (.inl rfl))
  | resumed id' request' object result' event waiting calls _ =>
    rcases updated calls with old | ⟨rfl, same⟩
    · exact .inl old
    · cases same
      obtain ⟨timed_out, rfl⟩ := event
      exact .inr (.inr (.inr ⟨object, timed_out, waiting, resumed_result waiting ended⟩))

theorem suits_result {found : SyncRequest} (timed_out : Bool)
    (all : ∀ response ∈ found.responses, Answering request.kind request.key response) :
    Suits request (Loop.result request found timed_out) := by
  cases request with
  | history channel after_seq limit =>
    intro response inside
    have own := all response inside
    cases response with
    | replay m => exact ⟨m, own, rfl⟩
    | task _ _ _ _ _ => exact own.elim
    | outcome _ _ => exact own.elim
  | task_list channel =>
    intro response inside
    have own := all response inside
    cases response with
    | task id channel' status claimed_by title =>
      have same : channel' = channel := own
      subst same
      exact ⟨id, status, claimed_by, title, rfl⟩
    | replay _ => exact own.elim
    | outcome _ _ => exact own.elim
  | task_action action task_id =>
    cases timed_out with
    | true => trivial
    | false =>
      cases first : found.responses.head? with
      | none => simp [Loop.result, first, Suits]
      | some response =>
        have own := all response (List.mem_of_head? first)
        cases response with
        | outcome status content => simp [Loop.result, first, Suits]
        | replay _ => exact own.elim
        | task _ _ _ _ _ => exact own.elim

/-! ## What a message adds -/

theorem added {r r' : Requests} {object' : Nat} {found : SyncRequest} (registered : r.get kind key = some object')
    (own : Answering kind key response) (objects : r'.objects = Function.update r.objects object' found)
    (grows : found.responses = (r.objects object').responses ++ [response]) :
    (r'.objects object).responses = (r.objects object).responses ∨
    ∃ kind key response, r.get kind key = some object ∧ Answering kind key response ∧
      (r'.objects object).responses = (r.objects object).responses ++ [response] := by
  by_cases here : object = object'
  · subst here
    rw [objects, Function.update_self]
    exact .inr ⟨kind, key, response, registered, own, grows⟩
  · rw [objects, Function.update_of_ne here]
    exact .inl rfl

/-- A message adds a response to no request but one that it answers. -/
theorem answer_adds (nick : Text) (r : Requests) (msg : Message) (object : Nat) :
    ((answer nick r msg).1.objects object).responses = (r.objects object).responses ∨
    ∃ kind key response, r.get kind key = some object ∧ Answering kind key response ∧
      ((answer nick r msg).1.objects object).responses = (r.objects object).responses ++ [response] := by
  unfold answer
  split
  · next object' replayed =>
    unfold history_replay at replayed
    split at replayed
    · have own : Answering .history msg.channel (.replay (message_to_dict msg)) := rfl
      exact added replayed own rfl rfl
    · cases replayed
  · split
    · split
      · next object' response row =>
        obtain ⟨⟨channel, response'⟩, read, pending⟩ := Option.bind_eq_some_iff.mp row
        obtain ⟨object'', found, same⟩ := Option.map_eq_some_iff.mp pending
        cases same
        obtain ⟨id, status, claimed_by, title, rfl⟩ := task_row_response read
        have own : Answering .task_list channel (.task id channel status claimed_by title) := rfl
        exact added found own rfl rfl
      · exact .inl rfl
    · split
      · next object' response told =>
        obtain ⟨_, key, found, _⟩ := action_outcome_cases told
        obtain ⟨status, rfl⟩ := action_outcome_response told
        have own : Answering .task_action key (.outcome status msg.content) := trivial
        exact added found own rfl rfl
      · exact .inl rfl

theorem answering_answer {r : Requests} {msg : Message} (numbered : Numbered r) (registered : r.get kind key = some object)
    (all : ∀ response ∈ (r.objects object).responses, Answering kind key response) :
    ∀ response ∈ ((answer nick r msg).1.objects object).responses, Answering kind key response := by
  rcases answer_adds nick r msg object with same | ⟨kind', key', added, found, own, grown⟩
  · rw [same]
    exact all
  · obtain ⟨rfl, rfl⟩ := numbered.apart _ _ _ _ _ registered found
    rw [grown]
    intro response inside
    rcases List.mem_append.mp inside with old | new
    · exact all response old
    · rw [List.mem_singleton.mp new]
      exact own

/-! ## Runs -/

/-- A request that stays in the map of its kind keeps its responses, or is given one more. -/
theorem answering_step (numbered : Numbered s.requests) (registered : s.requests.get kind key = some object)
    (all : ∀ response ∈ (s.requests.objects object).responses, Answering kind key response) :
    ∀ response ∈ ((step nick s e).requests.objects object).responses, Answering kind key response := by
  have kept (same : ((step nick s e).requests.objects object).responses = (s.requests.objects object).responses) :
      ∀ response ∈ ((step nick s e).requests.objects object).responses, Answering kind key response := by
    rw [same]
    exact all
  cases e with
  | call id request connected =>
    apply kept
    have fresh : ((s.requests.register request).objects object).responses = (s.requests.objects object).responses := by
      simp only [Requests.register, Function.update_of_ne (Nat.ne_of_lt (numbered.below _ _ _ registered))]
    simp only [step]
    split
    · split
      · rfl
      · split
        · exact fresh
        · exact fresh
    · rfl
  | drained id succeeds =>
    apply kept
    simp only [step]
    split
    · split
      · rfl
      · rfl
    · rfl
  | resume id timed_out =>
    apply kept
    simp only [step]
    split
    · split
      · rfl
      · rfl
    · rfl
  | finalize object' =>
    apply kept
    simp only [step]
    split
    · dsimp only
      rw [responses_modify]
      split
      · next same => rw [same]
      · rfl
    · rfl
  | message address msg restarted =>
    by_cases here : ready s address
    · rw [step_message here]
      exact answering_answer numbered registered all
    · apply kept
      simp only [step]
      rw [if_neg (show ¬ (s.buffer.stage = .Waiting ∧ ∀ m ∈ s.buffer.live, m.address ≠ address) from here)]
  | buffer e =>
    apply kept
    cases e <;> rfl

/-- A request in a map was there before, or has no response yet. -/
theorem registered_step (registered : (step nick s e).requests.get kind key = some object) :
    s.requests.get kind key = some object ∨ ((step nick s e).requests.objects object).responses = [] := by
  cases step_effect nick s e with
  | same _ maps _ =>
    rw [Requests.get, maps] at registered
    exact .inl registered
  | refused _ _ _ _ _ requests => exact .inl (requests ▸ registered)
  | registered _ request' _ _ _ _ _ requests =>
    rw [requests, get_register] at registered
    split at registered
    · cases registered
      right
      rw [requests]
      simp only [Requests.register, Function.update_self]
    · exact .inl registered
  | drained _ _ _ _ _ _ _ requests => exact .inl (requests ▸ registered)
  | resumed _ _ _ _ _ _ _ requests =>
    rw [requests, get_pop] at registered
    split at registered
    · cases registered
    · exact .inl registered

theorem suits_raised (request : Request) (text : Text) : Suits request (.in_flight text) ∧ Suits request .not_sent := by
  cases request <;> exact ⟨trivial, trivial⟩

theorem Collected.step (collected : Collected s) (inv : Inv s) (numbered : Numbered s.requests) : Collected (step nick s e) := by
  refine ⟨?_, ?_⟩
  · intro kind key object registered
    rcases registered_step registered with old | empty
    · exact answering_step numbered old (collected.registered kind key object old)
    · intro response inside
      rw [empty] at inside
      cases inside
  · intro id request result ended
    rcases ended_step ended with old | ⟨text, rfl⟩ | rfl | ⟨object, timed_out, waiting, rfl⟩
    · exact collected.ended id request result old
    · exact (suits_raised request text).1
    · exact (suits_raised request []).2
    · exact suits_result timed_out (collected.registered _ _ object (inv.held id request object (.inr waiting)))

end Aircd.Daemon.Loop

namespace Aircd.Bridge
open Aircd.Text Aircd.Daemon Aircd.Runs

/-- A daemon whose connection is up. -/
def connected : Api.State := ⟨"alice".toList, ["#c".toList], .default, { Sender.start with ready := true }⟩

end Aircd.Bridge

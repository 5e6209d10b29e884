import Aircd.Requests

/-!
# What the reader loop keeps from Claude

The reader loop gives a message to the request that it answers and the others to
Claude. Its branches are tried in order, and the second one takes every notice of
the server that mentions a task while any list request is pending.
-/
namespace Aircd.Daemon.Loop
open Aircd.Runs Aircd.Text

variable {nick : Text} {s : Loop} {e : Event} {r : Requests} {msg : Message} {object : Nat} {response : Response}

/-- The message is an answer to the pending request with that object. -/
inductive Answers (nick : Text) (r : Requests) (msg : Message) : Nat → Response → Prop where
  | replay {object : Nat} (replayed : history_replay r msg = some object) :
      Answers nick r msg object (.replay (message_to_dict msg))
  | row {object : Nat} {response : Response} (server : from_server msg = true)
      (listed : listed_row r msg = some (object, response)) : Answers nick r msg object response
  | outcome {object : Nat} {response : Response} (told : action_outcome nick r msg = some (object, response)) :
      Answers nick r msg object response

/-- The reader loop is at its start, and the message is in an object of its own. -/
def ready (s : Loop) (address : Nat) : Prop := s.buffer.stage = .Waiting ∧ ∀ m ∈ s.buffer.live, m.address ≠ address

/-- The request has one more response. -/
def Recorded (s s' : Loop) (object : Nat) (response : Response) : Prop :=
  (s'.requests.objects object).responses = (s.requests.objects object).responses ++ [response]

/-- A message that is not accepted for Claude is recorded as an answer, or the
    daemon's own, or seen before; and the outcome of a task action completes it. -/
def NotSwallowed (nick : Text) (s : Loop) : Event → Prop
  | .message address msg restarted =>
    let s' := step nick s (.message address msg restarted)
    ready s address →
      (s'.buffer.count = s.buffer.count → (∃ object response, Answers nick s.requests msg object response ∧
        Recorded s s' object response) ∨ msg.sender = nick ∨ is_duplicate s.buffer.agent msg = true) ∧
      ∀ object response, action_outcome nick s.requests msg = some (object, response) →
        Recorded s s' object response ∧ (s'.requests.objects object).event = true
  | _ => True

/-- No earlier branch takes the outcome of a task action, and what looks like a row
    of a list is one, of a requested channel, or would be kept from Claude anyway. -/
def Undisturbed (nick : Text) (s : Loop) : Event → Prop
  | .message address msg _ => ready s address →
    ((action_outcome nick s.requests msg).isSome → history_replay s.requests msg = none ∧ looks_like_row s.requests msg = false) ∧
    (history_replay s.requests msg = none → looks_like_row s.requests msg = true → listed_row s.requests msg = none →
      msg.sender = nick ∨ is_duplicate s.buffer.agent msg = true)
  | _ => True

/-! ## Responses -/

theorem task_row_response {content channel : Text} (row : task_row content = some (channel, response)) :
    ∃ id status claimed_by title, response = .task id channel status claimed_by title := by
  unfold task_row at row
  split at row
  · cases row; exact ⟨_, _, _, _, rfl⟩
  · cases row

theorem listed_row_response (listed : listed_row r msg = some (object, response)) :
    ∃ id channel status claimed_by title, response = .task id channel status claimed_by title := by
  obtain ⟨⟨channel, row⟩, read, found⟩ := Option.bind_eq_some_iff.mp listed
  obtain ⟨_, _, same⟩ := Option.map_eq_some_iff.mp found
  cases same
  obtain ⟨id, status, claimed_by, title, rfl⟩ := task_row_response read
  exact ⟨id, channel, status, claimed_by, title, rfl⟩

theorem body_failure_response {content key : Text} (failure : body_failure content = some (key, response)) :
    response = .outcome .failed content := by
  unfold body_failure at failure
  split at failure
  · cases failure; rfl
  · cases failure

theorem body_success_response {content key : Text} (success : body_success nick content = some (key, response)) :
    ∃ status, response = .outcome status content := by
  unfold body_success at success
  split at success
  · dsimp only at success
    split at success
    · cases success; exact ⟨_, rfl⟩
    · cases success
  · cases success

theorem tag_outcome_response {key : Text} (outcome : tag_outcome nick msg = some (key, response)) :
    ∃ status, response = .outcome status msg.content := by
  unfold tag_outcome at outcome
  dsimp only at outcome
  split at outcome
  · cases outcome; exact ⟨_, rfl⟩
  · split at outcome
    · cases outcome; exact ⟨_, rfl⟩
    · cases outcome

/-- An outcome names the request that waits for it. -/
theorem outcome_pending {outcome : Option (Text × Response)} (found : outcome.bind (fun (key, response) =>
    (r.get .task_action key).map (fun object => (object, response))) = some (object, response)) :
    ∃ key, r.get .task_action key = some object ∧ outcome = some (key, response) := by
  obtain ⟨⟨key, response'⟩, read, registered⟩ := Option.bind_eq_some_iff.mp found
  obtain ⟨object', here, same⟩ := Option.map_eq_some_iff.mp registered
  cases same
  exact ⟨key, here, read⟩

/-- An outcome that is found is that of a registered task action. -/
theorem action_outcome_cases (told : action_outcome nick r msg = some (object, response)) :
    from_server msg = true ∧ ∃ key, r.get .task_action key = some object ∧
      ((tagged msg = true ∧ tag_outcome nick msg = some (key, response)) ∨
        (tagged msg = false ∧ (body_failure msg.content = some (key, response) ∨
          body_success nick msg.content = some (key, response)))) := by
  unfold action_outcome at told
  dsimp only at told
  split at told
  · next server =>
    refine ⟨server, ?_⟩
    split at told
    · next tags =>
      obtain ⟨key, here, read⟩ := outcome_pending told
      exact ⟨key, here, .inl ⟨tags, read⟩⟩
    · next bare =>
      rw [Bool.not_eq_true] at bare
      rcases Option.or_eq_some_iff.mp told with failure | ⟨_, success⟩
      · obtain ⟨key, here, read⟩ := outcome_pending failure
        exact ⟨key, here, .inr ⟨bare, .inl read⟩⟩
      · obtain ⟨key, here, read⟩ := outcome_pending success
        exact ⟨key, here, .inr ⟨bare, .inr read⟩⟩
  · cases told

theorem action_outcome_response (told : action_outcome nick r msg = some (object, response)) :
    ∃ status, response = .outcome status msg.content := by
  obtain ⟨_, key, _, ⟨_, read⟩ | ⟨_, read | read⟩⟩ := action_outcome_cases told
  · exact tag_outcome_response read
  · exact ⟨_, body_failure_response read⟩
  · exact body_success_response read

/-! ## One message -/

theorem step_message {address : Nat} {restarted : Option Nat} (here : ready s address) :
    step nick s (.message address msg restarted) =
      { s with
        requests := (answer nick s.requests msg).1
        buffer := if (answer nick s.requests msg).2 || decide (msg.sender = nick) then s.buffer
          else Daemon.step s.buffer (.receive address msg restarted) } := by
  simp only [step]
  rw [if_pos (show s.buffer.stage = .Waiting ∧ ∀ m ∈ s.buffer.live, m.address ≠ address from here)]
  split
  · rfl
  · rfl

theorem count_receive {address : Nat} {restarted : Option Nat} (here : ready s address) :
    (Daemon.step s.buffer (.receive address msg restarted)).count = s.buffer.count ↔ is_duplicate s.buffer.agent msg = true := by
  cases accepted : accepts s.buffer address msg with
  | false =>
    refine iff_of_true (step_refused restarted accepted).2 ?_
    by_contra fresh
    rw [accepts_iff.mpr ⟨here, by simpa using fresh⟩] at accepted
    cases accepted
  | true =>
    have count := (step_accepted restarted accepted).2.2.1
    rw [count, (accepts_iff.mp accepted).2]
    simp

theorem responses_modify (r : Requests) (object other : Nat) (change : SyncRequest → SyncRequest) :
    (r.modify object change).objects other = if other = object then change (r.objects object) else r.objects other := by
  simp [Requests.modify, Function.update_apply]

/-- Nothing is recorded where the objects stay as they are. -/
theorem not_recorded {s' : Loop} (same : s'.requests.objects object = s.requests.objects object) :
    ¬ Recorded s s' object response := by
  intro recorded
  have length := congrArg List.length recorded
  rw [same, List.length_append, List.length_singleton] at length
  omega

/-- The outcome of a task action is not recorded as such where another response is. -/
theorem not_completed_of_collect {s' : Loop} {other : Nat} {response' : Response}
    (requests : s'.requests = collect s.requests other response') (different : response' ≠ response) :
    ¬ Recorded s s' object response := by
  intro recorded
  by_cases same : object = other
  · subst same
    rw [Recorded, requests, collect, responses_modify, if_pos rfl] at recorded
    exact different (List.cons.inj (List.append_cancel_left recorded)).1
  · exact not_recorded (by rw [requests, collect, responses_modify, if_neg same]) recorded

theorem recorded_collect {s' : Loop} (requests : s'.requests = collect s.requests object response) :
    Recorded s s' object response := by
  rw [Recorded, requests, collect, responses_modify, if_pos rfl]

/-- A line of a replay is recorded, and the outcome of a task action must be none. -/
theorem not_swallowed_replay (nick : Text) {address : Nat} {restarted : Option Nat} (replayed : history_replay s.requests msg = some object) :
    NotSwallowed nick s (.message address msg restarted) ↔ Undisturbed nick s (.message address msg restarted) := by
  simp only [NotSwallowed, Undisturbed]
  refine forall_congr' (fun here => ?_)
  rw [step_message here, replayed]
  have answered : answer nick s.requests msg = (collect s.requests object (.replay (message_to_dict msg)), true) := by
    rw [answer, replayed]
  simp only [answered]
  constructor
  · rintro ⟨_, completes⟩
    refine ⟨?_, fun none => by cases none⟩
    intro told
    obtain ⟨⟨object', response⟩, told⟩ := Option.isSome_iff_exists.mp told
    obtain ⟨_, rfl⟩ := action_outcome_response told
    exact absurd (completes _ _ told).1 (not_completed_of_collect rfl (by simp))
  · rintro ⟨apart, _⟩
    refine ⟨fun _ => .inl ⟨object, _, .replay replayed, recorded_collect rfl⟩, ?_⟩
    intro object' response told
    cases (apart (by rw [told]; rfl)).1

/-- What looks like a row and is one of a requested channel is recorded. -/
theorem not_swallowed_row (nick : Text) {address : Nat} {restarted : Option Nat} (replayed : history_replay s.requests msg = none)
    (looks : looks_like_row s.requests msg = true) (listed : listed_row s.requests msg = some (object, response)) :
    NotSwallowed nick s (.message address msg restarted) ↔ Undisturbed nick s (.message address msg restarted) := by
  simp only [NotSwallowed, Undisturbed]
  refine forall_congr' (fun here => ?_)
  rw [step_message here, replayed, looks, listed]
  have answered : answer nick s.requests msg = (collect s.requests object response, true) := by
    simp [answer, replayed, looks, listed]
  have server : from_server msg = true := by
    simp only [looks_like_row, Bool.and_eq_true] at looks
    exact looks.1.2
  simp only [answered]
  constructor
  · rintro ⟨_, completes⟩
    refine ⟨?_, fun _ _ none => by cases none⟩
    intro told
    obtain ⟨⟨object', response'⟩, told⟩ := Option.isSome_iff_exists.mp told
    obtain ⟨_, rfl⟩ := action_outcome_response told
    obtain ⟨_, _, _, _, _, rfl⟩ := listed_row_response listed
    exact absurd (completes _ _ told).1 (not_completed_of_collect rfl (by simp))
  · rintro ⟨apart, _⟩
    refine ⟨fun _ => .inl ⟨object, response, .row server listed, recorded_collect rfl⟩, ?_⟩
    intro object' response told
    cases (apart (by rw [told]; rfl)).2

/-- What looks like a row and is none is lost, unless it would be kept from Claude anyway. -/
theorem not_swallowed_unlisted (nick : Text) {address : Nat} {restarted : Option Nat} (replayed : history_replay s.requests msg = none)
    (looks : looks_like_row s.requests msg = true) (listed : listed_row s.requests msg = none) :
    NotSwallowed nick s (.message address msg restarted) ↔ Undisturbed nick s (.message address msg restarted) := by
  simp only [NotSwallowed, Undisturbed]
  refine forall_congr' (fun here => ?_)
  rw [step_message here, replayed, looks, listed]
  have answered : answer nick s.requests msg = (s.requests, true) := by
    simp [answer, replayed, looks, listed]
  simp only [answered]
  constructor
  · rintro ⟨kept, completes⟩
    refine ⟨?_, ?_⟩
    · intro told
      obtain ⟨⟨object, response⟩, told⟩ := Option.isSome_iff_exists.mp told
      exact absurd (completes _ _ told).1 (not_recorded rfl)
    · intro _ _ _
      rcases kept (by simp) with ⟨_, _, _, recorded⟩ | withheld
      · exact absurd recorded (not_recorded rfl)
      · exact withheld
  · rintro ⟨apart, withheld⟩
    refine ⟨fun _ => .inr (withheld trivial trivial trivial), ?_⟩
    intro object response told
    cases (apart (by rw [told]; rfl)).2

/-- The last branches record an outcome, and leave the rest to Claude. -/
theorem not_swallowed_other (nick : Text) {address : Nat} {restarted : Option Nat} (replayed : history_replay s.requests msg = none)
    (looks : looks_like_row s.requests msg = false) :
    NotSwallowed nick s (.message address msg restarted) ↔ Undisturbed nick s (.message address msg restarted) := by
  simp only [NotSwallowed, Undisturbed]
  refine forall_congr' (fun here => ?_)
  rw [step_message here, replayed, looks]
  refine iff_of_true ?_ ⟨fun _ => ⟨rfl, rfl⟩, fun _ row => by cases row⟩
  cases told : action_outcome nick s.requests msg with
  | some outcome =>
    obtain ⟨object, response⟩ := outcome
    have answered : answer nick s.requests msg = (s.requests.modify object (fun request =>
        { request with responses := request.responses ++ [response], event := true }), true) := by
      simp [answer, replayed, looks, told]
    simp only [answered]
    refine ⟨fun _ => .inl ⟨object, response, .outcome told, ?_⟩, ?_⟩
    · rw [Recorded, responses_modify, if_pos rfl]
    · rintro object' response' same
      cases same
      exact ⟨by rw [Recorded, responses_modify, if_pos rfl], by rw [responses_modify, if_pos rfl]⟩
  | none =>
    have answered : answer nick s.requests msg = (s.requests, false) := by
      simp [answer, replayed, looks, told]
    simp only [answered, Bool.false_or]
    refine ⟨?_, fun _ _ none => by cases none⟩
    intro withheld
    right
    by_cases own : msg.sender = nick
    · exact .inl own
    · right
      simp only [own, decide_false, Bool.false_eq_true, if_false] at withheld
      exact (count_receive here).mp withheld

theorem not_swallowed_iff (nick : Text) (s : Loop) (e : Event) : NotSwallowed nick s e ↔ Undisturbed nick s e := by
  cases e with
  | message address msg restarted =>
    cases replayed : history_replay s.requests msg with
    | some object => exact not_swallowed_replay nick replayed
    | none =>
      cases looks : looks_like_row s.requests msg with
      | false => exact not_swallowed_other nick replayed looks
      | true =>
        cases listed : listed_row s.requests msg with
        | some row => exact not_swallowed_row nick replayed looks listed
        | none => exact not_swallowed_unlisted nick replayed looks listed
  | _ => exact Iff.rfl

/-- The reader loop swallows nothing throughout a run exactly when no message of the
    run is in the way of another branch than its own. -/
theorem nothing_swallowed_iff (nick : Text) (s : Loop) (events : List Event) :
    AllSteps (step nick) (NotSwallowed nick) s events ↔ AllSteps (step nick) (Undisturbed nick) s events :=
  allSteps_congr (not_swallowed_iff nick)

/-! ### A list request in the way -/

def listing : Request := .task_list "#c".toList
def claiming : Request := .task_action .claim "t1".toList

/-- The daemon waits for a list of tasks and for the outcome of a claim. -/
def both_pending : Loop :=
  run (step "alice".toList) (opening ⟨fun _ => Table.empty, fun _ => ⟨[], false, false⟩, 0⟩ Daemon.start)
    [.call 0 listing true, .drained 0 true, .call 1 claiming true, .drained 1 true]

/-- The notice of a task event, as the server sends it to the members of the channel. -/
def notice (task_id action actor content : String) : Message :=
  ⟨some 7, "#c".toList, "aircd".toList, content.toList, [], ⟨[("task-id".toList, task_id.toList),
    ("task-action".toList, action.toList), ("task-status".toList, "success".toList), ("task-actor".toList, actor.toList)],
    by simp⟩, false⟩

/-- The notice that the claim has succeeded is swallowed, and so is that of a task
    which somebody else has created. -/
theorem swallowed_by_list_request :
    ¬ NotSwallowed "alice".toList both_pending (.message 0 (notice "t1" "claim" "alice" "TASK t1 claimed by alice: sweep") none) ∧
    ¬ NotSwallowed "alice".toList both_pending (.message 0 (notice "t2" "create" "bob" "TASK t2 created by bob: mop") none) := by
  rw [not_swallowed_iff, not_swallowed_iff]
  have here : ready both_pending 0 := ⟨by decide +kernel, by decide +kernel⟩
  constructor
  · intro undisturbed
    have apart := (undisturbed here).1 (by decide +kernel)
    exact absurd apart.2 (by decide +kernel)
  · intro undisturbed
    have withheld := (undisturbed here).2 (by decide +kernel) (by decide +kernel) (by decide +kernel)
    exact absurd withheld (by decide +kernel)

end Aircd.Daemon.Loop

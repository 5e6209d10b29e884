import Aircd.Requests

/-!
# What a call leaves behind

A call pops its key when its wait is over, by an answer or by a timeout. When its
send raises, it ends before that, and its key stays in the map for good.
-/
namespace Aircd.Daemon.Loop
open Aircd.Runs Aircd.Text

variable {nick : Text} {s s' : Loop} {e : Event} {id : Nat} {request : Request} {object : Nat} {result : Result}

/-- The send of a call raises. -/
def send_raises : Event → Bool
  | .call _ _ connected => !connected
  | .drained _ succeeds => !succeeds
  | _ => false

/-- The call has registered its request and has not ended. -/
def Live (s : Loop) (id : Nat) (request : Request) (object : Nat) : Prop :=
  s.calls id = .sending request object ∨ s.calls id = .waiting request object

/-- Live calls hold their keys, each with a request of its own. -/
structure Inv (s : Loop) : Prop where
  held : ∀ id request object, Live s id request object → s.requests.get request.kind request.key = some object
  made : ∀ id request object, Live s id request object → object < s.requests.made
  apart : ∀ id id' request request' object, Live s id request object → Live s id' request' object → id = id'

theorem get_register (r : Requests) (request : Request) (kind : Kind) (key : Text) :
    (r.register request).get kind key = if kind = request.kind ∧ request.key = key then some r.made else r.get kind key := by
  simp only [Requests.get, Requests.register, Function.update_apply]
  by_cases same : kind = request.kind
  · subst same
    rw [if_pos rfl, Dict.get_put]
    simp
  · simp [same]

theorem get_pop (r : Requests) (request : Request) (kind : Kind) (key : Text) :
    (r.pop request).get kind key = if kind = request.kind ∧ request.key = key then none else r.get kind key := by
  simp only [Requests.get, Requests.pop, Function.update_apply]
  by_cases same : kind = request.kind
  · subst same
    rw [if_pos rfl, Dict.get_erase]
    simp
  · simp [same]

/-- The reader loop registers nothing and pops nothing. -/
theorem answer_maps (nick : Text) (r : Requests) (msg : Message) :
    (answer nick r msg).1.maps = r.maps ∧ (answer nick r msg).1.made = r.made := by
  unfold answer
  split
  · exact ⟨rfl, rfl⟩
  · split
    · split
      · exact ⟨rfl, rfl⟩
      · exact ⟨rfl, rfl⟩
    · split
      · exact ⟨rfl, rfl⟩
      · exact ⟨rfl, rfl⟩

/-- What an event does to the calls and to the keys: a call begins, it begins its
    wait, it ends, or nothing changes. -/
inductive Effect (s s' : Loop) (e : Event) : Prop where
  | same (calls : s'.calls = s.calls) (maps : s'.requests.maps = s.requests.maps) (made : s'.requests.made = s.requests.made)
  | refused (id : Nat) (request : Request) (before : s.calls id = .unstarted)
      (taken : (s.requests.get request.kind request.key).isSome)
      (calls : s'.calls = Function.update s.calls id (.ended request (.in_flight request.in_flight_error)))
      (requests : s'.requests = s.requests)
  | registered (id : Nat) (request : Request) (connected : Bool) (event : e = .call id request connected)
      (before : s.calls id = .unstarted) (free : s.requests.get request.kind request.key = none)
      (calls : s'.calls = Function.update s.calls id
        (if connected then .sending request s.requests.made else .ended request .not_sent))
      (requests : s'.requests = s.requests.register request)
  | drained (id : Nat) (request : Request) (object : Nat) (succeeds : Bool) (event : e = .drained id succeeds)
      (before : s.calls id = .sending request object)
      (calls : s'.calls = Function.update s.calls id (if succeeds then .waiting request object else .ended request .not_sent))
      (requests : s'.requests = s.requests)
  | resumed (id : Nat) (request : Request) (object : Nat) (result : Result) (event : ∃ timed_out, e = .resume id timed_out)
      (before : s.calls id = .waiting request object)
      (calls : s'.calls = Function.update s.calls id (.ended request result))
      (requests : s'.requests = s.requests.pop request)

theorem step_effect (nick : Text) (s : Loop) (e : Event) : Effect s (step nick s e) e := by
  cases e with
  | call id request connected =>
    simp only [step]
    split
    · next before =>
      split
      · next taken => exact .refused id request before taken rfl rfl
      · next free =>
        rw [Option.not_isSome_iff_eq_none] at free
        cases connected with
        | true => exact .registered id request true rfl before free rfl rfl
        | false => exact .registered id request false rfl before free rfl rfl
    · exact .same rfl rfl rfl
  | drained id succeeds =>
    simp only [step]
    split
    · next request object before =>
      cases succeeds with
      | true => exact .drained id request object true rfl before rfl rfl
      | false => exact .drained id request object false rfl before rfl rfl
    · exact .same rfl rfl rfl
  | resume id timed_out =>
    simp only [step]
    split
    · next request object before =>
      split
      · exact .resumed id request object _ ⟨timed_out, rfl⟩ before rfl rfl
      · exact .same rfl rfl rfl
    · exact .same rfl rfl rfl
  | finalize object =>
    simp only [step]
    split
    · exact .same rfl rfl rfl
    · exact .same rfl rfl rfl
  | message address msg restarted =>
    obtain ⟨maps, made⟩ := answer_maps nick s.requests msg
    simp only [step]
    split
    · split
      · exact .same rfl maps made
      · exact .same rfl maps made
    · exact .same rfl rfl rfl
  | buffer e => cases e <;> exact .same rfl rfl rfl

/-- A live call was live before, or has just registered. -/
theorem live_step (effect : Effect s s' e) (live : Live s' id request object) :
    Live s id request object ∨
    (object = s.requests.made ∧ s.requests.get request.kind request.key = none ∧ s'.requests = s.requests.register request ∧
      (∀ id' request' object', Live s' id' request' object' → id' = id ∨ Live s id' request' object') ∧
      ∃ connected, e = .call id request connected ∧ s.calls id = .unstarted) := by
  cases effect with
  | same calls _ _ => left; rwa [Live, calls] at live
  | refused id' request' _ _ calls _ =>
    rw [Live, calls] at live
    by_cases here : id = id'
    · subst here; simp at live
    · left; rw [Function.update_of_ne here] at live; exact live
  | registered id' request' connected event before free calls requests =>
    rw [Live, calls] at live
    by_cases here : id = id'
    · subst here
      right
      cases connected with
      | false => simp at live
      | true =>
        simp only [if_true, Function.update_self, Call.sending.injEq, reduceCtorEq, or_false] at live
        obtain ⟨rfl, rfl⟩ := live
        refine ⟨rfl, free, requests, ?_, true, event, before⟩
        intro other request' object' live'
        by_cases mine : other = id
        · exact .inl mine
        · right
          rw [Live, calls, Function.update_of_ne mine] at live'
          exact live'
    · left; rw [Function.update_of_ne here] at live; exact live
  | drained id' request' object' succeeds _ before calls _ =>
    left
    rw [Live, calls] at live
    by_cases here : id = id'
    · subst here
      cases succeeds with
      | false => simp at live
      | true =>
        simp only [if_true, Function.update_self, Call.waiting.injEq, reduceCtorEq, false_or] at live
        obtain ⟨rfl, rfl⟩ := live
        exact .inl before
    · rw [Function.update_of_ne here] at live; exact live
  | resumed id' request' object' result _ _ calls _ =>
    rw [Live, calls] at live
    by_cases here : id = id'
    · subst here; simp at live
    · left; rw [Function.update_of_ne here] at live; exact live

/-- The live calls after one has ended are others, live before. -/
theorem live_of_ended (calls : s'.calls = Function.update s.calls id (.ended request result))
    {id' object' : Nat} {request' : Request} (live : Live s' id' request' object') :
    id' ≠ id ∧ Live s id' request' object' := by
  rw [Live, calls] at live
  by_cases here : id' = id
  · subst here; simp at live
  · rw [Function.update_of_ne here] at live
    exact ⟨here, live⟩

/-- A live call holds on to its key, whatever the others do. -/
theorem held_step (inv : Inv s) (effect : Effect s s' e) (before : Live s id request object) (after : Live s' id request object) :
    s'.requests.get request.kind request.key = some object := by
  have held := inv.held id request object before
  cases effect with
  | same _ maps _ => rw [Requests.get, maps]; exact held
  | refused _ _ _ _ _ requests => rw [requests]; exact held
  | registered id' request' _ _ _ free _ requests =>
    rw [requests, get_register, if_neg, held]
    rintro ⟨kind, key⟩
    rw [kind, ← key] at held
    rw [held] at free; cases free
  | drained _ _ _ _ _ _ _ requests => rw [requests]; exact held
  | resumed id' request' object' result _ waiting calls requests =>
    rw [requests, get_pop, if_neg, held]
    rintro ⟨kind, key⟩
    have other := inv.held id' request' object' (.inr waiting)
    rw [kind, ← key, other] at held
    cases held
    exact (live_of_ended calls after).1 (inv.apart id id' request request' object before (.inr waiting))

theorem Inv.step (inv : Inv s) (effect : Effect s s' e) : Inv s' := by
  have more : s.requests.made ≤ s'.requests.made := by
    cases effect with
    | same _ _ made => exact made.ge
    | refused _ _ _ _ _ requests => rw [requests]
    | registered _ _ _ _ _ _ _ requests => rw [requests]; exact Nat.le_succ _
    | drained _ _ _ _ _ _ _ requests => rw [requests]
    | resumed _ _ _ _ _ _ _ requests => rw [requests]; exact le_refl _
  refine ⟨?_, ?_, ?_⟩
  · intro id request object live
    rcases live_step effect live with old | ⟨rfl, _, requests, _⟩
    · exact held_step inv effect old live
    · rw [requests, get_register, if_pos ⟨rfl, rfl⟩]
  · intro id request object live
    rcases live_step effect live with old | ⟨rfl, _, requests, _⟩
    · exact lt_of_lt_of_le (inv.made id request object old) more
    · rw [requests]; exact Nat.lt_succ_self _
  · intro id id' request request' object live live'
    rcases live_step effect live with old | ⟨rfl, _, _, others, _⟩
    · rcases live_step effect live' with old' | ⟨rfl, _, _, _⟩
      · exact inv.apart id id' request request' object old old'
      · exact absurd (inv.made id request _ old) (lt_irrefl _)
    · rcases others id' request' _ live' with same | old'
      · exact same.symm
      · exact absurd (inv.made id' request' _ old') (lt_irrefl _)

theorem inv_run (nick : Text) (requests : Requests) (buffer : Buffer) (events : List Event) :
    Inv (run (step nick) (opening requests buffer) events) := by
  apply run_invariant (fun _ e inv => inv.step (step_effect nick _ e)) events
  have none (id : Nat) (request : Request) (object : Nat) : ¬ Live (opening requests buffer) id request object := by
    simp [Live, opening]
  exact ⟨fun id request object live => absurd live (none id request object),
    fun id request object live => absurd live (none id request object),
    fun id _ request _ object live => absurd live (none id request object)⟩

/-- A key is in the map of its kind, and no call is there to pop it. -/
structure Leaked (kind : Kind) (key : Text) (s : Loop) : Prop where
  taken : (s.requests.get kind key).isSome
  unheld : ∀ id request object, Live s id request object → ¬ (request.kind = kind ∧ request.key = key)

theorem Leaked.step {kind : Kind} {key : Text} (leaked : Leaked kind key s) (effect : Effect s s' e) : Leaked kind key s' := by
  refine ⟨?_, ?_⟩
  · have taken := leaked.taken
    cases effect with
    | same _ maps _ => rw [Requests.get, maps]; exact taken
    | refused _ _ _ _ _ requests => rw [requests]; exact taken
    | registered _ _ _ _ _ _ _ requests =>
      rw [requests, get_register]
      split
      · rfl
      · exact taken
    | drained _ _ _ _ _ _ _ requests => rw [requests]; exact taken
    | resumed id request object _ _ waiting _ requests =>
      rw [requests, get_pop, if_neg]
      · exact taken
      · rintro ⟨rfl, rfl⟩
        exact leaked.unheld id request object (.inr waiting) ⟨rfl, rfl⟩
  · rintro id request object live ⟨rfl, rfl⟩
    rcases live_step effect live with old | ⟨_, free, _, _⟩
    · exact leaked.unheld id request object old ⟨rfl, rfl⟩
    · have taken := leaked.taken
      rw [free] at taken; cases taken

/-- A call that ends leaves its key behind when its send raised, and frees it otherwise. -/
theorem ended_cases (inv : Inv s) (before : ∀ request result, s.calls id ≠ .ended request result)
    (ended : (step nick s e).calls id = .ended request result) (free : ∀ error, result ≠ .in_flight error) :
    (send_raises e = true ∧ Leaked request.kind request.key (step nick s e)) ∨
    (send_raises e = false ∧ (step nick s e).requests.get request.kind request.key = none) := by
  have mine {id' : Nat} {call : Call} (calls : (step nick s e).calls = Function.update s.calls id' call) :
      id = id' ∧ call = .ended request result := by
    rw [calls] at ended
    by_cases here : id = id'
    · subst here; rw [Function.update_self] at ended; exact ⟨rfl, ended⟩
    · rw [Function.update_of_ne here] at ended; exact absurd ended (before request result)
  cases step_effect nick s e with
  | same calls _ _ => rw [calls] at ended; exact absurd ended (before request result)
  | refused _ _ _ _ calls _ =>
    obtain ⟨_, same⟩ := mine calls
    cases same
    exact absurd rfl (free _)
  | registered id' request' connected event _ absent calls requests =>
    obtain ⟨rfl, same⟩ := mine calls
    cases connected with
    | true => cases same
    | false =>
      cases same
      left
      refine ⟨by rw [event]; rfl, ?_, ?_⟩
      · rw [requests, get_register, if_pos ⟨rfl, rfl⟩]; rfl
      · rintro other request object live ⟨kind, key⟩
        have held := inv.held other request object (live_of_ended calls live).2
        rw [kind, key, absent] at held
        cases held
  | drained id' request' object succeeds event sending calls requests =>
    obtain ⟨rfl, same⟩ := mine calls
    cases succeeds with
    | true => cases same
    | false =>
      cases same
      left
      have held := inv.held id request object (.inl sending)
      refine ⟨by rw [event]; rfl, ?_, ?_⟩
      · rw [requests, held]; rfl
      · rintro other request' object' live ⟨kind, key⟩
        obtain ⟨apart, live⟩ := live_of_ended calls live
        have held' := inv.held other request' object' live
        rw [kind, key, held] at held'
        cases held'
        exact apart (inv.apart other id request' request object live (.inl sending))
  | resumed id' request' object result' event _ calls requests =>
    obtain ⟨rfl, same⟩ := mine calls
    cases same
    obtain ⟨timed_out, event⟩ := event
    exact .inr ⟨by rw [event]; rfl, by rw [requests, get_pop, if_pos ⟨rfl, rfl⟩]⟩

/-- A call that ends leaves its key free exactly when its send did not raise. When
    the send raised, the key is in its map for ever. -/
theorem key_freed_iff (nick : Text) (requests : Requests) (buffer : Buffer) (events : List Event) (e : Event) (id : Nat)
    (request : Request) (result : Result)
    (before : ∀ request result, (run (step nick) (opening requests buffer) events).calls id ≠ .ended request result)
    (ended : (step nick (run (step nick) (opening requests buffer) events) e).calls id = .ended request result)
    (free : ∀ error, result ≠ .in_flight error) :
    let s' := step nick (run (step nick) (opening requests buffer) events) e
    (s'.requests.get request.kind request.key = none ↔ send_raises e = false) ∧
    (send_raises e = true → ∀ later, (run (step nick) s' later).requests.get request.kind request.key ≠ none) := by
  intro s'
  have taken {s : Loop} (leaked : Leaked request.kind request.key s) : s.requests.get request.kind request.key ≠ none := by
    intro none
    have taken := leaked.taken
    rw [none] at taken; cases taken
  rcases ended_cases (inv_run nick requests buffer events) before ended free with ⟨raises, leaked⟩ | ⟨sent, absent⟩
  · refine ⟨⟨fun none => absurd none (taken leaked), fun sent => by rw [raises] at sent; cases sent⟩, ?_⟩
    intro _ later
    exact taken (run_invariant (fun s e leaked => leaked.step (step_effect nick s e)) later leaked)
  · exact ⟨⟨fun _ => sent, fun _ => absent⟩, fun raises => by rw [sent] at raises; cases raises⟩

/-! ### A history request -/

def recent : Request := .history "#c".toList 0 50

/-- A line that the bouncer replays. -/
def replayed : Message :=
  ⟨some 1, "#c".toList, "bob".toList, "hello".toList, [], ⟨[("replay".toList, "1".toList)], by decide⟩, true⟩

def unused : Loop := opening ⟨fun _ => Table.empty, fun _ => ⟨[], false, false⟩, 0⟩ Daemon.start

/-- The request is sent, a message answers it, and half a second passes. -/
def answered : List Event := [.call 0 recent true, .drained 0 true, .message 0 replayed none, .finalize 0]

theorem key_freed_answered :
    let s' := step "alice".toList (run (step "alice".toList) unused answered) (.resume 0 false)
    s'.requests.get .history "#c".toList = none ∧ s'.calls 0 = .ended recent (.responses [.replay (message_to_dict replayed)]) := by
  have ended : (step "alice".toList (run (step "alice".toList) unused answered) (.resume 0 false)).calls 0 =
      .ended recent (.responses [.replay (message_to_dict replayed)]) := by decide +kernel
  refine ⟨?_, ended⟩
  have before : (run (step "alice".toList) unused answered).calls 0 = .waiting recent 0 := by decide +kernel
  exact (key_freed_iff "alice".toList _ _ answered (.resume 0 false) 0 recent _ (by
    intro request result same
    rw [show (run (step "alice".toList) (opening _ _) answered).calls 0 = _ from before] at same
    cases same) ended (by intro error same; cases same)).1.mpr rfl

/-- The connection is down when the request is sent. -/
def unsent : Loop := step "alice".toList unused (.call 0 recent false)

/-- The call has ended and its key is still there, so that the next call for the
    channel is refused and a line that the bouncer replays is kept from Claude. -/
theorem unsent_key_stays :
    unsent.calls 0 = .ended recent .not_sent ∧ unsent.requests.get .history "#c".toList = some 0 ∧
    (step "alice".toList unsent (.call 1 recent true)).calls 1 = .ended recent (.in_flight recent.in_flight_error) ∧
    (step "alice".toList unsent (.message 0 replayed none)).buffer = unsent.buffer := by
  decide +kernel

end Aircd.Daemon.Loop

import Mathlib.Data.List.Basic

/-!
# Runs of a total step function

A system is a function that takes a state and an event to the next state; an
event that is not enabled leaves the state alone. A run is a list of events.
The rules here package the inductions over runs: an invariant that every step
keeps, an invariant that only the steps meeting a condition keep, and a property
that holds throughout a run exactly when every step of the run meets a condition.
-/
namespace Aircd.Runs
universe u v
variable {State : Type u} {Event : Type v} (step : State → Event → State)

/-- The state after the events, in order. -/
def run (s : State) (events : List Event) : State := events.foldl step s

/-- Every event meets the condition in the state that it finds. -/
def AllSteps (cond : State → Event → Prop) : State → List Event → Prop
  | _, [] => True
  | s, e :: rest => cond s e ∧ AllSteps cond (step s e) rest

/-- The property holds in every state of the run, the first and the last included. -/
def Always (P : State → Prop) : State → List Event → Prop
  | s, [] => P s
  | s, e :: rest => P s ∧ Always P (step s e) rest

/-- The check of every step. -/
def decideAllSteps {cond : State → Event → Prop} (each : ∀ s e, Decidable (cond s e)) :
    ∀ s events, Decidable (AllSteps step cond s events)
  | _, [] => isTrue trivial
  | s, e :: rest =>
    match each s e, decideAllSteps each (step s e) rest with
    | isTrue here, isTrue later => isTrue ⟨here, later⟩
    | isFalse here, _ => isFalse (fun all => here all.1)
    | _, isFalse later => isFalse (fun all => later all.2)

instance {cond : State → Event → Prop} [each : ∀ s e, Decidable (cond s e)] (s : State) (events : List Event) :
    Decidable (AllSteps step cond s events) := decideAllSteps step each s events

@[simp] theorem run_nil (s : State) : run step s [] = s := rfl
@[simp] theorem run_cons (s : State) (e : Event) (rest : List Event) :
    run step s (e :: rest) = run step (step s e) rest := rfl
theorem run_append (s : State) (first second : List Event) :
    run step s (first ++ second) = run step (run step s first) second :=
  List.foldl_append

variable {step}

/-- What every step keeps holds after every run. -/
theorem run_invariant {Inv : State → Prop} (keeps : ∀ s e, Inv s → Inv (step s e)) :
    ∀ (events : List Event) {s : State}, Inv s → Inv (run step s events)
  | [], _, inv => inv
  | e :: rest, s, inv => run_invariant keeps rest (keeps s e inv)

/-- What the steps that meet the condition keep holds after every run of them. -/
theorem run_invariant_of {Inv : State → Prop} {cond : State → Event → Prop}
    (keeps : ∀ s e, Inv s → cond s e → Inv (step s e)) :
    ∀ (events : List Event) {s : State}, Inv s → AllSteps step cond s events → Inv (run step s events)
  | [], _, inv, _ => inv
  | e :: rest, s, inv, ⟨here, later⟩ => run_invariant_of keeps rest (keeps s e inv here) later

theorem allSteps_append {cond : State → Event → Prop} {s : State} {first second : List Event} :
    AllSteps step cond s (first ++ second) ↔
      AllSteps step cond s first ∧ AllSteps step cond (run step s first) second := by
  induction first generalizing s with
  | nil => simp [AllSteps]
  | cons e rest ih => simp [AllSteps, ih, and_assoc]

theorem allSteps_mono {cond weaker : State → Event → Prop} (weaken : ∀ s e, cond s e → weaker s e) :
    ∀ (events : List Event) {s : State}, AllSteps step cond s events → AllSteps step weaker s events
  | [], _, _ => trivial
  | e :: rest, s, ⟨here, later⟩ => ⟨weaken s e here, allSteps_mono weaken rest later⟩

/-- The steps from a state of an invariant that they keep. -/
theorem allSteps_mono_of {Inv : State → Prop} {cond weaker : State → Event → Prop}
    (keeps : ∀ s e, Inv s → cond s e → Inv (step s e)) (weaken : ∀ s e, Inv s → cond s e → weaker s e) :
    ∀ (events : List Event) {s : State}, Inv s → AllSteps step cond s events → AllSteps step weaker s events
  | [], _, _, _ => trivial
  | e :: rest, s, inv, ⟨here, later⟩ =>
    ⟨weaken s e inv here, allSteps_mono_of keeps weaken rest (keeps s e inv here) later⟩

theorem allSteps_and {cond cond' : State → Event → Prop} : ∀ {events : List Event} {s : State},
    AllSteps step cond s events → AllSteps step cond' s events → AllSteps step (fun s e => cond s e ∧ cond' s e) s events
  | [], _, _, _ => trivial
  | _ :: _, _, ⟨here, later⟩, ⟨here', later'⟩ => ⟨⟨here, here'⟩, allSteps_and later later'⟩

theorem allSteps_congr {cond cond' : State → Event → Prop} (same : ∀ s e, cond s e ↔ cond' s e) {events : List Event}
    {s : State} : AllSteps step cond s events ↔ AllSteps step cond' s events :=
  ⟨allSteps_mono (fun s e => (same s e).mp) events, allSteps_mono (fun s e => (same s e).mpr) events⟩

/-- A condition on the events alone. -/
theorem allSteps_of_forall {cond : Event → Prop} : ∀ {events : List Event} {s : State},
    (∀ e ∈ events, cond e) → AllSteps step (fun _ e => cond e) s events
  | [], _, _ => trivial
  | e :: _, _, all => ⟨all e List.mem_cons_self, allSteps_of_forall (fun e' inside => all e' (List.mem_cons_of_mem e inside))⟩

/-- A property holds throughout a run exactly when it holds after every initial part of the run. -/
theorem always_iff_run {P : State → Prop} {s : State} {events : List Event} :
    Always step P s events ↔ ∀ before after, events = before ++ after → P (run step s before) := by
  induction events generalizing s with
  | nil =>
    constructor
    · intro holds before after split
      obtain ⟨rfl, rfl⟩ := List.append_eq_nil_iff.mp split.symm
      exact holds
    · intro all; exact all [] [] rfl
  | cons e rest ih =>
    constructor
    · rintro ⟨here, later⟩ before after split
      cases before with
      | nil => exact here
      | cons first tail =>
        rw [List.cons_append, List.cons.injEq] at split
        obtain ⟨rfl, split⟩ := split
        exact ih.mp later tail after split
    · intro all
      refine ⟨all [] (e :: rest) rfl, ih.mpr ?_⟩
      intro before after split
      exact all (e :: before) after (by rw [split, List.cons_append])

/-- When the steps that meet the condition keep the property and the others break
    it, the property holds throughout a run exactly when every step meets the
    condition. `Inv` is what every reached state satisfies in either case, and
    `allowed` restricts the events that the run may have. -/
theorem always_iff_allSteps {Inv P : State → Prop} {cond : State → Event → Prop} {allowed : Event → Prop}
    (invariant : ∀ s e, Inv s → allowed e → Inv (step s e))
    (keeps : ∀ s e, Inv s → P s → allowed e → cond s e → P (step s e))
    (breaks : ∀ s e, Inv s → P s → allowed e → ¬ cond s e → ¬ P (step s e)) :
    ∀ (events : List Event) {s : State}, Inv s → P s → (∀ e ∈ events, allowed e) →
      (Always step P s events ↔ AllSteps step cond s events)
  | [], s, _, holds, _ => by simp [Always, AllSteps, holds]
  | e :: rest, s, inv, holds, all => by
    obtain ⟨here, later⟩ := List.forall_mem_cons.mp all
    have inv' := invariant s e inv here
    by_cases met : cond s e
    · have ih := always_iff_allSteps invariant keeps breaks rest inv' (keeps s e inv holds here met) later
      simp [Always, AllSteps, holds, met, ih]
    · have broken : ¬ Always step P (step s e) rest := by
        intro always
        exact breaks s e inv holds here met (always_iff_run.mp always [] rest rfl)
      simp [Always, AllSteps, met, broken]

/-- When the steps that meet the condition keep the good states, the others lose
    them and what is lost stays lost, a run ends well exactly when every step met
    the condition. -/
theorem good_or_lost {Inv Good Lost : State → Prop} {cond : State → Event → Prop}
    (invariant : ∀ s e, Inv s → Inv (step s e)) (keeps : ∀ s e, Inv s → Good s → cond s e → Good (step s e))
    (loses : ∀ s e, Inv s → Good s → ¬ cond s e → Lost (step s e)) (stays : ∀ s e, Inv s → Lost s → Lost (step s e)) :
    ∀ (events : List Event) {s : State}, Inv s → Good s →
      (AllSteps step cond s events ∧ Good (run step s events)) ∨ (¬ AllSteps step cond s events ∧ Lost (run step s events))
  | [], s, _, good => .inl ⟨trivial, good⟩
  | e :: rest, s, inv, good => by
    have inv' := invariant s e inv
    by_cases met : cond s e
    · rcases good_or_lost invariant keeps loses stays rest inv' (keeps s e inv good met) with ⟨all, ends⟩ | ⟨notAll, lost⟩
      · exact .inl ⟨⟨met, all⟩, ends⟩
      · exact .inr ⟨fun all => notAll all.2, lost⟩
    · refine .inr ⟨fun all => met all.1, ?_⟩
      have both := @run_invariant _ _ step (fun s => Inv s ∧ Lost s)
        (fun s e both => ⟨invariant s e both.1, stays s e both.1 both.2⟩) rest _ ⟨inv', loses s e inv good met⟩
      exact both.2

end Aircd.Runs

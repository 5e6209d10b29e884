import Aircd.Runs

/-!
# Scripts that are cut off and started again

A script is a list of statements. Each changes the state at once and may put
further statements before the rest. A process that runs the script stops at a
statement that fails, or is cut off between two of them, and the script may be
started again in whatever state it left.
-/
namespace Aircd.Scripts
open Aircd.Runs
universe u v w x

/-- The state, and what a running process still has to do. -/
structure Process (State : Type u) (Statement : Type v) where
  state : State
  todo : Option (List Statement)

inductive Event (Input : Type w) where
  | start
  | cut_off
  | statement (input : Input)

variable {State : Type u} {Statement : Type v} {Input : Type w} {Error : Type x}
variable (execute : Input → State → Statement → Except Error (State × List Statement)) (script : List Statement)

def step (p : Process State Statement) : Event Input → Process State Statement
  | .start => { p with todo := some script }
  | .cut_off => { p with todo := none }
  | .statement input =>
    match p.todo with
    | some (statement :: rest) =>
      match execute input p.state statement with
      | .ok (state, more) => ⟨state, some (more ++ rest)⟩
      | .error _ => ⟨p.state, none⟩
    | _ => p

/-- No statement of the script does anything in this state. -/
def Settled (s : State) : Prop := ∀ statement ∈ script, ∀ input, execute input s statement = .ok (s, [])

variable {execute script}

/-- What holds of the state wherever a process is cut off, `Sound`, and what holds
    of the statements that it still has to execute, `Ahead`. -/
theorem run_sound {Sound : State → Prop} {Ahead : State → List Statement → Prop}
    (starts : ∀ s, Sound s → Ahead s script)
    (keeps : ∀ input s statement rest s' more, Sound s → Ahead s (statement :: rest) →
      execute input s statement = .ok (s', more) → Sound s' ∧ Ahead s' (more ++ rest))
    (events : List (Event Input)) {p : Process State Statement} (sound : Sound p.state)
    (ahead : ∀ todo, p.todo = some todo → Ahead p.state todo) :
    Sound (run (step execute script) p events).state ∧
      ∀ todo, (run (step execute script) p events).todo = some todo →
        Ahead (run (step execute script) p events).state todo := by
  refine @run_invariant _ _ (step execute script)
    (fun p => Sound p.state ∧ ∀ todo, p.todo = some todo → Ahead p.state todo) ?_ events p ⟨sound, ahead⟩
  rintro ⟨s, todo⟩ e ⟨sound, ahead⟩
  cases e with
  | start =>
    refine ⟨sound, ?_⟩
    rintro todo same
    obtain rfl := Option.some.inj same
    exact starts s sound
  | cut_off => exact ⟨sound, fun _ none => by cases none⟩
  | statement input =>
    cases todo with
    | none => exact ⟨sound, ahead⟩
    | some list =>
      cases list with
      | nil => exact ⟨sound, ahead⟩
      | cons statement rest =>
        cases result : execute input s statement with
        | error error =>
          simp only [step, result]
          exact ⟨sound, fun _ none => by cases none⟩
        | ok effect =>
          obtain ⟨s', more⟩ := effect
          obtain ⟨sound', ahead'⟩ := keeps input s statement rest s' more sound (ahead _ rfl) result
          simp only [step, result]
          refine ⟨sound', ?_⟩
          rintro todo same
          obtain rfl := Option.some.inj same
          exact ahead'

/-- In a settled state no process changes anything. -/
theorem settled_run {s : State} (settled : Settled execute script s) (events : List (Event Input)) {todo : Option (List Statement)}
    (within : ∀ list, todo = some list → ∀ statement ∈ list, statement ∈ script) :
    (run (step execute script) ⟨s, todo⟩ events).state = s := by
  have both := @run_sound _ _ _ _ execute script (fun s' => s' = s) (fun _ list => ∀ statement ∈ list, statement ∈ script)
    (fun _ _ _ inside => inside) ?_ events ⟨s, todo⟩ rfl within
  · exact both.1
  · rintro input s' statement rest s'' more rfl inside result
    rw [settled statement (inside statement List.mem_cons_self) input] at result
    obtain ⟨rfl, rfl⟩ := Prod.mk.inj (Except.ok.inj result)
    exact ⟨rfl, fun later mem => inside later (List.mem_cons_of_mem statement mem)⟩

/-- In a settled state the script completes. -/
theorem settled_completes {s : State} (settled : Settled execute script s) {inputs : List Input}
    (enough : inputs.length = script.length) (todo : Option (List Statement)) :
    run (step execute script) ⟨s, todo⟩ (.start :: inputs.map .statement) = ⟨s, some []⟩ := by
  have each : ∀ (rest : List Statement) (inputs : List Input), inputs.length = rest.length →
      (∀ statement ∈ rest, statement ∈ script) →
      run (step execute script) ⟨s, some rest⟩ (inputs.map .statement) = ⟨s, some []⟩ := by
    intro rest
    induction rest with
    | nil =>
      intro inputs enough _
      obtain rfl := List.length_eq_zero_iff.mp enough
      rfl
    | cons statement rest ih =>
      intro inputs enough inside
      cases inputs with
      | nil => simp at enough
      | cons input inputs =>
        have none := settled statement (inside statement List.mem_cons_self) input
        rw [List.map_cons, run_cons]
        simp only [step, none]
        exact ih inputs (Nat.succ.inj enough) (fun later mem => inside later (List.mem_cons_of_mem statement mem))
  exact each script inputs enough (fun _ mem => mem)

end Aircd.Scripts

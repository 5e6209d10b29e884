import Aircd.Runs
import Mathlib.Data.Set.Insert
import Mathlib.Data.List.Induction

/-!
# What goes in and what comes out

The steps of a run take things in and put things out. When each step puts out only
what was held before or goes in at it, and holds on to a part of the rest, the run
does so too; when each step adds what it puts out to a log, the log of the run is
what all its steps put out.
-/
namespace Aircd.Runs
universe u v w
variable {State : Type u} {Event : Type v} {Item : Type w} (step : State → Event → State)

/-- What the steps put out, in order. -/
def outputs (out : State → Event → List Item) : State → List Event → List Item
  | _, [] => []
  | s, e :: rest => out s e ++ outputs out (step s e) rest

variable {step}

theorem outputs_filterMap {Image : Type*} {out : State → Event → List Item} (f : Item → Option Image) (events : List Event)
    (s : State) : (outputs step out s events).filterMap f = outputs step (fun s e => (out s e).filterMap f) s events := by
  induction events generalizing s with
  | nil => rfl
  | cons e rest ih => rw [outputs, outputs, List.filterMap_append, ih]

/-- What comes out of a run, and what is held at its end, is in order a part of what
    was held at its start and what went in. -/
theorem flow_sublist {held : State → List Item} {ins outs : State → Event → List Item}
    (each : ∀ s e, (outs s e ++ held (step s e)).Sublist (held s ++ ins s e)) (events : List Event) (s : State) :
    (outputs step outs s events ++ held (run step s events)).Sublist (held s ++ outputs step ins s events) := by
  induction events generalizing s with
  | nil => simp [outputs]
  | cons e rest ih =>
    simp only [outputs, run_cons, List.append_assoc]
    have later := (ih (step s e)).append_left (outs s e)
    have here := (each s e).append_right (outputs step ins (step s e) rest)
    simp only [List.append_assoc] at later here
    exact later.trans here

/-- A log that every step extends by the rows that it puts out. -/
theorem flow_log {Row : Type*} {log : State → List Row} {row : Item → Row} {outs : State → Event → List Item}
    (each : ∀ s e, log (step s e) = log s ++ (outs s e).map row) (events : List Event) (s : State) :
    log (run step s events) = log s ++ (outputs step outs s events).map row := by
  induction events generalizing s with
  | nil => simp [outputs]
  | cons e rest ih => rw [run_cons, ih, each, outputs, List.map_append, List.append_assoc]

/-- What holds of everything that a step puts out, and of it in every later state,
    holds at the end of a run of all that the run has put out. -/
theorem flow_forall {Inv : State → Prop} {P : State → Item → Prop} {outs : State → Event → List Item}
    (invariant : ∀ s e, Inv s → Inv (step s e)) (each : ∀ s e, Inv s → ∀ x ∈ outs s e, P (step s e) x)
    (stays : ∀ s e, Inv s → ∀ x, P s x → P (step s e) x) (events : List Event) :
    ∀ {s : State}, Inv s → ∀ x ∈ outputs step outs s events, P (run step s events) x := by
  induction events with
  | nil => intro s _ x inside; cases inside
  | cons e rest ih =>
    intro s inv x inside
    rcases List.mem_append.mp inside with here | later
    · have both := @run_invariant _ _ step (fun s => Inv s ∧ P s x)
        (fun s e both => ⟨invariant s e both.1, stays s e both.1 x both.2⟩) rest _ ⟨invariant s e inv, each s e inv x here⟩
      exact both.2
    · exact ih (invariant s e inv) x later

/-! ## The past of a run -/

/-- The states that a run goes through, the first and the last included. -/
def visited (step : State → Event → State) (s : State) (events : List Event) : Set State :=
  {t | ∃ before, before <+: events ∧ run step s before = t}

theorem visited_concat (s : State) (events : List Event) (e : Event) :
    visited step s (events ++ [e]) = insert (step (run step s events) e) (visited step s events) := by
  ext t
  constructor
  · rintro ⟨before, initial, rfl⟩
    rcases List.prefix_concat_iff.mp initial with rfl | earlier
    · left
      rw [run_append]
      rfl
    · exact .inr ⟨before, earlier, rfl⟩
  · rintro (rfl | ⟨before, earlier, rfl⟩)
    · refine ⟨events ++ [e], List.prefix_refl _, ?_⟩
      rw [run_append]
      rfl
    · exact ⟨before, earlier.trans (List.prefix_append _ _), rfl⟩

/-- What every step keeps, in view of the states before it and of the one that it makes. -/
theorem run_invariant_past {Inv : Set State → State → Prop} {s : State} (first : Inv {s} s)
    (keeps : ∀ past t e, t ∈ past → Inv past t → Inv (insert (step t e) past) (step t e)) (events : List Event) :
    Inv (visited step s events) (run step s events) := by
  induction events using List.reverseRecOn with
  | nil =>
    have only : visited step s [] = {s} := by
      ext t
      constructor
      · rintro ⟨before, initial, rfl⟩
        rw [List.prefix_nil.mp initial]
        rfl
      · rintro rfl
        exact ⟨[], List.prefix_refl _, rfl⟩
    rw [only]
    exact first
  | append_singleton events e ih =>
    rw [visited_concat, run_append]
    exact keeps _ _ e ⟨events, List.prefix_refl _, rfl⟩ ih

end Aircd.Runs

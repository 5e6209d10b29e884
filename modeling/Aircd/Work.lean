import Mathlib.Logic.Hydra
import Mathlib.Tactic.Abel

/-!
# Work that makes more work

A worker has a list of items to do. It performs the first one, and what this
leaves to do comes before the rest. Alone, the worker takes a state to a state.
Among others, it finds at each of its turns a state that others made; when every
item leaves only items of a smaller rank, it comes to the end of any part of its
list all the same.
-/
namespace Aircd.Work
universe u v
variable {State : Type u} {Item : Type v} (perform : State → Item → State × List Item)

/-- Alone, the worker that starts in `s` with these items ends in `t` with none. -/
inductive Finishes : State → List Item → State → Prop where
  | nothing (s : State) : Finishes s [] s
  | first {s t : State} {x : Item} {rest : List Item}
      (later : Finishes (perform s x).1 ((perform s x).2 ++ rest) t) : Finishes s (x :: rest) t

/-- One turn, in whatever state the worker finds. -/
def Turn (items items' : List Item) : Prop :=
  ∃ s x rest, items = x :: rest ∧ items' = (perform s x).2 ++ rest

/-- What an item leaves to do has a smaller rank than the item. -/
def Ranked (rank : Item → Nat) : Prop := ∀ s x, ∀ y ∈ (perform s x).2, rank y < rank x

variable {perform}

/-! ## Alone -/

theorem finishes_append {s m t : State} {first second : List Item} (one : Finishes perform s first m)
    (two : Finishes perform m second t) : Finishes perform s (first ++ second) t := by
  induction one with
  | nothing s => exact two
  | first later ih =>
    have joined := ih two
    rw [List.append_assoc] at joined
    exact .first joined

theorem finishes_one {s t : State} {x : Item} (later : Finishes perform (perform s x).1 (perform s x).2 t) :
    Finishes perform s [x] t := by
  refine .first ?_
  rwa [List.append_nil]

theorem finishes_cons {s m t : State} {x : Item} {rest : List Item} (one : Finishes perform s [x] m)
    (two : Finishes perform m rest t) : Finishes perform s (x :: rest) t := finishes_append one two

/-- A loop, when each of its items does what one turn of the loop does. -/
theorem finishes_foldl {Element : Type*} {item : Element → Item} {turn : State → Element → State}
    (each : ∀ s x, Finishes perform s [item x] (turn s x)) :
    ∀ (elements : List Element) (s : State), Finishes perform s (elements.map item) (elements.foldl turn s)
  | [], s => .nothing s
  | x :: rest, s => finishes_cons (each s x) (finishes_foldl each rest (turn s x))

/-! ## Among others -/

/-- No list of items gives turns without end: a turn takes one item away and
    puts in items of smaller ranks. -/
theorem turn_wellFounded {rank : Item → Nat} (ranked : Ranked perform rank) :
    WellFounded (fun items' items => Turn perform items items') := by
  have smaller : WellFounded (fun x y : Item => rank x < rank y) := InvImage.wf rank Nat.lt_wfRel.wf
  have : Std.Irrefl (fun x y : Item => rank x < rank y) := ⟨fun x => Nat.lt_irrefl (rank x)⟩
  refine Subrelation.wf ?_ (InvImage.wf (fun items : List Item => (items : Multiset Item)) smaller.cutExpand)
  rintro items' items ⟨s, x, rest, rfl, rfl⟩
  refine ⟨((perform s x).2 : Multiset Item), x, ?_, ?_⟩
  · intro y inside
    exact ranked s x y (Multiset.mem_coe.mp inside)
  · simp only [← Multiset.coe_add, ← Multiset.cons_coe, ← Multiset.singleton_add]
    abel

/-- What a worker has left to do over time, when it gets turns forever and
    nobody else touches its list while there is something on it. -/
structure Served (perform : State → Item → State × List Item) (mine : Nat → Prop) (items : Nat → List Item) : Prop where
  turns : ∀ n, mine n → items n ≠ [] → Turn perform (items n) (items (n + 1))
  waits : ∀ n, ¬ mine n → items n ≠ [] → items (n + 1) = items n
  fair : ∀ n, ∃ m, n ≤ m ∧ mine m

variable {mine : Nat → Prop} {items : Nat → List Item}

theorem next_turn (served : Served perform mine items) {n : Nat} (busy : items n ≠ []) :
    ∃ m, n ≤ m ∧ mine m ∧ items m = items n := by
  obtain ⟨later, le, turn⟩ := served.fair n
  obtain ⟨gap, rfl⟩ := Nat.exists_eq_add_of_le le
  induction gap generalizing n with
  | zero => exact ⟨n, Nat.le_refl n, turn, rfl⟩
  | succ gap ih =>
    by_cases here : mine n
    · exact ⟨n, Nat.le_refl n, here, rfl⟩
    · have same := served.waits n here busy
      have shift : n + 1 + gap = n + (gap + 1) := by omega
      obtain ⟨m, after, taken, still⟩ := ih (by rwa [same]) (by omega) (by rwa [shift])
      exact ⟨m, by omega, taken, still.trans same⟩

/-- The worker comes to the end of every first part of its list. -/
theorem reaches_rest {rank : Item → Nat} (ranked : Ranked perform rank) (served : Served perform mine items)
    (before rest : List Item) : ∀ {n : Nat}, items n = before ++ rest → ∃ m, n ≤ m ∧ items m = rest := by
  induction before using (turn_wellFounded ranked).induction with
  | h before ih =>
    intro n left
    cases before with
    | nil => exact ⟨n, Nat.le_refl n, left⟩
    | cons x before =>
      have busy : items n ≠ [] := by
        rw [left]
        exact List.cons_ne_nil _ _
      obtain ⟨m, after, turn, still⟩ := next_turn served busy
      obtain ⟨s, y, tail, head, more⟩ := served.turns m turn (by rwa [still])
      rw [still, left, List.cons_append, List.cons.injEq] at head
      obtain ⟨rfl, rfl⟩ := head
      rw [← List.append_assoc] at more
      obtain ⟨last, le, done⟩ := ih _ ⟨s, x, before, rfl, rfl⟩ more
      exact ⟨last, by omega, done⟩

/-- Every item on the list comes to its turn. -/
theorem gets_performed {rank : Item → Nat} (ranked : Ranked perform rank) (served : Served perform mine items) {n : Nat}
    {x : Item} (listed : x ∈ items n) : ∃ m, n ≤ m ∧ mine m ∧ ∃ rest, items m = x :: rest := by
  obtain ⟨before, rest, split⟩ := List.append_of_mem listed
  obtain ⟨m, after, here⟩ := reaches_rest ranked served before (x :: rest) split
  have busy : items m ≠ [] := by
    rw [here]
    exact List.cons_ne_nil _ _
  obtain ⟨m', after', turn, still⟩ := next_turn served busy
  exact ⟨m', by omega, turn, rest, still.trans here⟩

end Aircd.Work

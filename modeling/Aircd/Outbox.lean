import Mathlib.Data.List.Nodup

/-!
# Publishing what was committed

Facts are committed in one order and published one by one, each by whoever
committed it. What is published agrees with what was committed as long as the
fact that is published is the first one that waits; once another one is, or a
waiting fact is dropped, no later move repairs it.
-/
namespace Aircd
universe u

structure Outbox (α : Type u) where
  committed : List α
  published : List α
  waiting : List α

namespace Outbox
variable {α : Type u} {b b' : Outbox α}

inductive Move (b : Outbox α) : Outbox α → Prop where
  | same : Move b b
  | commit (a : α) : Move b ⟨b.committed ++ [a], b.published, b.waiting ++ [a]⟩
  | publish {before : List α} {a : α} {after : List α} (waits : b.waiting = before ++ a :: after) :
      Move b ⟨b.committed, b.published ++ [a], before ++ after⟩
  | drop : Move b ⟨b.committed, b.published, []⟩

/-- What is published and what waits are what was committed, in order. -/
def Faithful (b : Outbox α) : Prop := b.committed = b.published ++ b.waiting

/-- Some published fact stands where another one was committed, or fewer facts
    are published or wait than were committed. -/
def Lost (b : Outbox α) : Prop :=
  (∃ (i : Nat) (a c : α), b.published[i]? = some a ∧ b.committed[i]? = some c ∧ a ≠ c) ∨
    b.published.length + b.waiting.length < b.committed.length

theorem Faithful.done (faithful : Faithful b) (empty : b.waiting = []) : b.published = b.committed := by
  rw [faithful, empty, List.append_nil]

theorem Lost.unequal (lost : Lost b) : b.published ≠ b.committed := by
  intro same
  rcases lost with ⟨i, a, c, published, committed, differ⟩ | short
  · rw [same, committed] at published
    exact differ (Option.some.inj published).symm
  · rw [same] at short
    omega

theorem Faithful.commit (faithful : Faithful b) (a : α) :
    Faithful ⟨b.committed ++ [a], b.published, b.waiting ++ [a]⟩ := by
  rw [Faithful] at faithful ⊢
  rw [faithful, List.append_assoc]

theorem Faithful.publish {a : α} {after : List α} (faithful : Faithful b) (first : b.waiting = a :: after) :
    Faithful ⟨b.committed, b.published ++ [a], after⟩ := by
  rw [Faithful] at faithful ⊢
  rw [faithful, first, List.append_assoc]
  rfl

theorem Faithful.lost_publish {first a : α} {before after : List α} (faithful : Faithful b)
    (waits : b.waiting = first :: before ++ a :: after) (distinct : b.waiting.Nodup) :
    Lost ⟨b.committed, b.published ++ [a], first :: before ++ after⟩ := by
  refine .inl ⟨b.published.length, a, first, ?_, ?_, ?_⟩
  · simp
  · rw [faithful, waits]
    simp
  · rintro rfl
    rw [waits, List.cons_append, List.nodup_cons] at distinct
    exact distinct.1 (by simp)

theorem Faithful.lost_drop (faithful : Faithful b) (waits : b.waiting ≠ []) : Lost ⟨b.committed, b.published, []⟩ := by
  right
  have some : 0 < b.waiting.length := List.length_pos_iff.mpr waits
  have length : b.committed.length = b.published.length + b.waiting.length := by rw [faithful, List.length_append]
  simp only [List.length_nil]
  omega

/-- What is lost stays lost. -/
theorem Lost.move (lost : Lost b) (move : Move b b') : Lost b' := by
  have grows {l more : List α} {i : Nat} {a : α} (found : l[i]? = some a) : (l ++ more)[i]? = some a := by
    rw [List.getElem?_append_left (List.getElem?_eq_some_iff.mp found).1, found]
  rcases lost with ⟨i, a, c, published, committed, differ⟩ | short
  · left
    cases move with
    | same => exact ⟨i, a, c, published, committed, differ⟩
    | commit => exact ⟨i, a, c, published, grows committed, differ⟩
    | publish => exact ⟨i, a, c, grows published, committed, differ⟩
    | drop => exact ⟨i, a, c, published, committed, differ⟩
  · right
    cases move with
    | same => exact short
    | commit => simp only [List.length_append, List.length_singleton]; omega
    | publish waits =>
      rw [waits] at short
      simp only [List.length_append, List.length_cons, List.length_nil] at short ⊢
      omega
    | drop => simp only [List.length_nil]; omega

end Outbox
end Aircd

import Mathlib.Data.List.Dedup
import Mathlib.Data.List.DropRight

/-!
# Least recently used

A list of bounded length that keeps the elements seen last: an element that is
in it moves to its end, another one enters there, and the front falls out. What
it holds is read off the elements seen: their `dedup`, which lists each at its
last occurrence, cut to the bound from the end.
-/
namespace Aircd.Recency
universe u
variable {α : Type u} [DecidableEq α]

def touch (bound : Nat) (recent : List α) (a : α) : List α :=
  if a ∈ recent then recent.erase a ++ [a] else (recent ++ [a]).rtake bound

variable {a : α} {l before after : List α} {bound : Nat}

/-! ## The last occurrences -/

/-- An element seen once more is the last one. -/
theorem dedup_concat (l : List α) (a : α) : (l ++ [a]).dedup = l.dedup.erase a ++ [a] := by
  induction l with
  | nil => simp
  | cons b l ih =>
    by_cases again : b ∈ l
    · have again' : b ∈ l ++ [a] := List.mem_append_left _ again
      rw [List.cons_append, List.dedup_cons_of_mem again', List.dedup_cons_of_mem again, ih]
    · by_cases same : b = a
      · subst same
        have again' : b ∈ l ++ [b] := by simp
        have fresh : b ∉ l.dedup := List.mem_dedup.not.mpr again
        rw [List.cons_append, List.dedup_cons_of_mem again', List.dedup_cons_of_notMem again, ih, List.erase_cons_head,
          List.erase_of_not_mem fresh]
      · have fresh : b ∉ l ++ [a] := by simp [again, same]
        rw [List.cons_append, List.dedup_cons_of_notMem fresh, List.dedup_cons_of_notMem again, ih,
          List.erase_cons_tail (by simpa using same), List.cons_append]

omit [DecidableEq α] in
theorem last_occurrence (known : a ∈ l) : ∃ before after, l = before ++ a :: after ∧ a ∉ after := by
  obtain ⟨after, before, split, fresh⟩ := List.eq_append_cons_of_mem (List.mem_reverse.mpr known)
  refine ⟨before.reverse, after.reverse, ?_, by simpa using fresh⟩
  rw [← List.reverse_reverse l, split]
  simp

/-- After the last occurrence of an element come the distinct elements seen since. -/
theorem dedup_split (fresh : a ∉ after) : ∃ front, (before ++ a :: after).dedup = front ++ a :: after.dedup := by
  induction before with
  | nil => exact ⟨[], List.dedup_cons_of_notMem fresh⟩
  | cons b before ih =>
    obtain ⟨front, split⟩ := ih
    rw [List.cons_append]
    by_cases again : b ∈ before ++ a :: after
    · exact ⟨front, by rw [List.dedup_cons_of_mem again, split]⟩
    · exact ⟨b :: front, by rw [List.dedup_cons_of_notMem again, split, List.cons_append]⟩

/-! ## The end of a list -/

section End
omit [DecidableEq α]

/-- The end of a list is the end of any longer end. -/
theorem rtake_of_suffix (enough : bound ≤ after.length) : (before ++ after).rtake bound = after.rtake bound := by
  rw [List.rtake, List.rtake, List.length_append, Nat.add_sub_assoc enough, List.drop_append,
    List.drop_eq_nil_of_le (Nat.le_add_right _ _), List.nil_append, Nat.add_sub_cancel_left]

theorem rtake_of_short (short : l.length ≤ bound) : l.rtake bound = l := by
  rw [List.rtake, Nat.sub_eq_zero_of_le short, List.drop_zero]

theorem length_rtake : (l.rtake bound).length = min bound l.length := by
  rw [List.rtake, List.length_drop]
  omega

/-- A list in two parts, of which the last is its end. -/
theorem rtake_split (l : List α) (bound : Nat) : ∃ front, l = front ++ l.rtake bound ∧
    (front = [] ∨ (l.rtake bound).length = bound) := by
  refine ⟨l.take (l.length - bound), (List.take_append_drop _ _).symm, ?_⟩
  by_cases short : l.length ≤ bound
  · left
    rw [Nat.sub_eq_zero_of_le short, List.take_zero]
  · right
    rw [length_rtake]
    omega

end End

/-! ## What is held -/

/-- One more element, of the list or not, leaves the end of the last occurrences. -/
theorem touch_rtake (distinct : l.Nodup) : touch bound (l.rtake bound) a = (l.erase a ++ [a]).rtake bound := by
  obtain ⟨front, split, full⟩ := rtake_split l bound
  by_cases inside : a ∈ l.rtake bound
  · rw [touch, if_pos inside]
    have outside : a ∉ front := by
      intro here
      rw [split, List.nodup_append] at distinct
      exact distinct.2.2 a here a inside rfl
    have size : ((l.rtake bound).erase a ++ [a]).length = (l.rtake bound).length := by
      have := List.length_pos_of_mem inside
      rw [List.length_append, List.length_erase_of_mem inside, List.length_singleton]
      omega
    have cut : (l.erase a ++ [a]).rtake bound = (front ++ ((l.rtake bound).erase a ++ [a])).rtake bound := by
      conv_lhs => rw [split, List.erase_append_right _ outside, List.append_assoc]
    rw [cut]
    rcases full with rfl | full
    · have short : ((l.rtake bound).erase a ++ [a]).length ≤ bound := by
        rw [size, length_rtake]
        omega
      rw [List.nil_append, rtake_of_short short]
    · have whole : ((l.rtake bound).erase a ++ [a]).length = bound := size.trans full
      rw [rtake_of_suffix whole.ge, rtake_of_short whole.le]
  · rw [touch, if_neg inside]
    rcases full with rfl | full
    · rw [List.nil_append] at split
      rw [← split] at inside ⊢
      rw [List.erase_of_not_mem inside]
    · have cut : ∃ front', l.erase a ++ [a] = front' ++ (l.rtake bound ++ [a]) := by
        by_cases early : a ∈ front
        · exact ⟨front.erase a, by conv_lhs => rw [split, List.erase_append_left _ early, List.append_assoc]⟩
        · have nowhere : a ∉ l := by rw [split]; simp [early, inside]
          exact ⟨front, by rw [List.erase_of_not_mem nowhere]; conv_lhs => rw [split, List.append_assoc]⟩
      obtain ⟨front', cut⟩ := cut
      have enough : bound ≤ (l.rtake bound ++ [a]).length := by
        rw [List.length_append]
        omega
      rw [cut, rtake_of_suffix enough]

/-- The list holds the elements seen last, each once, in the order of their last occurrences. -/
theorem foldl_touch (bound : Nat) (seen : List α) : seen.foldl (touch bound) [] = seen.dedup.rtake bound := by
  induction seen using List.reverseRecOn with
  | nil => simp
  | append_singleton seen a ih =>
    rw [List.foldl_append, ih, List.foldl_cons, List.foldl_nil, touch_rtake (List.nodup_dedup seen), dedup_concat]

/-- An element is held when it was seen, and fewer others than the bound were seen since. -/
theorem mem_recent_of_split (fresh : a ∉ after) :
    a ∈ (before ++ a :: after).dedup.rtake bound ↔ after.dedup.length < bound := by
  obtain ⟨front, split⟩ : ∃ front, (before ++ a :: after).dedup = front ++ a :: after.dedup := dedup_split fresh
  rw [split]
  by_cases few : after.dedup.length < bound
  · have held : a ∈ (front ++ a :: after.dedup).rtake bound := by
      rw [List.rtake, List.drop_append_of_le_length]
      · simp
      · rw [List.length_append, List.length_cons]
        omega
    exact ⟨fun _ => few, fun _ => held⟩
  · have out : (front ++ a :: after.dedup).rtake bound = after.dedup.rtake bound := by
      rw [List.append_cons, rtake_of_suffix (by omega)]
    rw [out]
    have gone : a ∉ after.dedup.rtake bound := fun held => fresh (List.mem_dedup.mp (List.mem_of_mem_drop held))
    exact ⟨fun held => absurd held gone, fun few' => absurd few' few⟩

/-- An element is not held when it was never seen, or as many others as the bound were seen since. -/
theorem not_mem_recent (seen : List α) : a ∉ seen.dedup.rtake bound ↔
    a ∉ seen ∨ ∃ before after, seen = before ++ a :: after ∧ a ∉ after ∧ bound ≤ after.dedup.length := by
  by_cases known : a ∈ seen
  · constructor
    · intro gone
      obtain ⟨before, after, rfl, fresh⟩ := last_occurrence known
      rw [mem_recent_of_split fresh, not_lt] at gone
      exact .inr ⟨before, after, rfl, fresh, gone⟩
    · rintro (never | ⟨before, after, rfl, fresh, many⟩)
      · exact absurd known never
      · rw [mem_recent_of_split fresh, not_lt]
        exact many
  · have nowhere : a ∉ seen.dedup.rtake bound := fun held => known (List.mem_dedup.mp (List.mem_of_mem_drop held))
    exact ⟨fun _ => .inl known, fun _ => nowhere⟩

end Aircd.Recency

import Mathlib.Data.List.Basic
import Mathlib.Data.List.TakeWhile

/-!
# Streams cut into lines

A stream over any alphabet, with one symbol that ends a line and another one that
is dropped before it. What is left at the end of the stream is a line as well.
-/
namespace Aircd.Lines
universe u
variable {α : Type u}

theorem mem_splitOnP {p : α → Bool} {t part : List α} (inside : part ∈ t.splitOnP p) : ∀ c ∈ part, p c = false ∧ c ∈ t := by
  induction t generalizing part with
  | nil => simp_all
  | cons x rest ih =>
    rw [List.splitOnP_cons_eq_if_modifyHead] at inside
    split at inside
    · rcases List.mem_cons.mp inside with rfl | later
      · simp
      · intro c here
        exact ⟨(ih later c here).1, List.mem_cons_of_mem x (ih later c here).2⟩
    · next here =>
      obtain ⟨first, parts, split⟩ := List.exists_cons_of_ne_nil (List.splitOnP_ne_nil p rest)
      rw [split, List.modifyHead_cons] at inside
      rcases List.mem_cons.mp inside with rfl | later
      · intro c here'
        rcases List.mem_cons.mp here' with rfl | old
        · exact ⟨by simpa using here, List.mem_cons_self⟩
        · have known := @ih first (by rw [split]; exact List.mem_cons_self) c old
          exact ⟨known.1, List.mem_cons_of_mem x known.2⟩
      · intro c here'
        have known := @ih part (by rw [split]; exact List.mem_cons_of_mem _ later) c here'
        exact ⟨known.1, List.mem_cons_of_mem x known.2⟩

variable [DecidableEq α] {lf cr : α} {stream line : List α}

theorem not_mem_of_mem_splitOn {a : α} {part : List α} (inside : part ∈ stream.splitOn a) : a ∉ part := by
  intro here
  rw [List.splitOn_eq_splitOnP] at inside
  simpa using (mem_splitOnP inside a here).1

/-- A line without one `cr` at its end. -/
def strip (cr : α) (line : List α) : List α := if line.getLast? = some cr then line.dropLast else line

/-- The lines of a stream that are ended by `lf`. -/
def terminated (lf : α) (stream : List α) : List (List α) := (stream.splitOn lf).dropLast

/-- What is left of a stream after its last `lf`. -/
def remainder (lf : α) (stream : List α) : List (List α) :=
  ((stream.splitOn lf).getLast?.filter (fun rest => !rest.isEmpty)).toList

/-- The lines of a stream that ends, each without a `cr` before its `lf`. -/
def frames (lf cr : α) (stream : List α) : List (List α) :=
  (terminated lf stream).map (strip cr) ++ remainder lf stream

theorem strip_concat (cr : α) (line : List α) : strip cr (line ++ [cr]) = line := by simp [strip]

theorem strip_subset {a : α} (inside : a ∈ strip cr line) : a ∈ line := by
  unfold strip at inside
  split at inside
  · exact List.dropLast_subset line inside
  · exact inside

/-- No line has the end of a line inside. -/
theorem not_mem_of_mem_frames (inside : line ∈ frames lf cr stream) : lf ∉ line := by
  simp only [frames, terminated, remainder, List.mem_append, List.mem_map, Option.mem_toList,
    Option.filter_eq_some_iff] at inside
  rcases inside with ⟨piece, listed, rfl⟩ | ⟨last, _⟩
  · exact fun here => not_mem_of_mem_splitOn (List.dropLast_subset _ listed) (strip_subset here)
  · exact not_mem_of_mem_splitOn (List.mem_of_getLast? last)

theorem terminated_line (clean : lf ∉ line) (rest : List α) : terminated lf (line ++ lf :: rest) = line :: terminated lf rest := by
  have several : rest.splitOn lf ≠ [] := List.splitOn_ne_nil _ _
  rw [terminated, List.splitOn_append_cons_self_of_not_mem clean, List.dropLast_cons_of_ne_nil several, terminated]

/-- A stream of whole lines. -/
theorem terminated_lines {lines : List (List α)} (clean : ∀ line ∈ lines, lf ∉ line) :
    terminated lf (lines.flatMap (fun line => line ++ [lf])) = lines ∧ remainder lf (lines.flatMap (fun line => line ++ [lf])) = [] := by
  have pieces : (lines.flatMap (fun line => line ++ [lf])).splitOn lf = lines ++ [[]] := by
    induction lines with
    | nil => rfl
    | cons line lines ih =>
      obtain ⟨first, later⟩ := List.forall_mem_cons.mp clean
      rw [List.flatMap_cons, List.append_assoc, List.singleton_append, List.splitOn_append_cons_self_of_not_mem first, ih later,
        List.cons_append]
  simp [terminated, remainder, pieces]

theorem terminated_cons (c : α) (stream : List α) : terminated lf (c :: stream) =
    if c == lf then [] :: terminated lf stream else (terminated lf stream).modifyHead (List.cons c) := by
  obtain ⟨first, rest, split⟩ := List.exists_cons_of_ne_nil (List.splitOn_ne_nil lf stream)
  rw [terminated, terminated, List.splitOn_cons_eq_if_modifyHead]
  split
  · rw [List.dropLast_cons_of_ne_nil (List.splitOn_ne_nil lf stream)]
  · rw [split]
    cases rest with
    | nil => rfl
    | cons second rest => rfl

/-- The lines that have ended stay as they are while the stream goes on. -/
theorem terminated_prefix {part whole : List α} (arrived : part <+: whole) : terminated lf part <+: terminated lf whole := by
  induction part generalizing whole with
  | nil => exact List.nil_prefix
  | cons c part ih =>
    obtain ⟨rest, rfl⟩ := arrived
    obtain ⟨more, later⟩ := @ih (part ++ rest) (List.prefix_append part rest)
    rw [List.cons_append, terminated_cons, terminated_cons, ← later]
    split
    · exact ⟨more, rfl⟩
    · cases terminated lf part with
      | nil => exact List.nil_prefix
      | cons first ended => exact ⟨more, rfl⟩

theorem head_terminated (rest : List α) :
    (terminated lf (stream ++ lf :: rest)).head? = some (stream.takeWhile (fun c => c != lf)) := by
  have kept {line : List α} (clean : lf ∉ line) : ∀ c ∈ line, (c != lf) = true := by
    intro c inside
    simp only [bne_iff_ne, ne_eq]
    rintro rfl
    exact clean inside
  have first {line : List α} (clean : lf ∉ line) (more : List α) : (terminated lf (line ++ lf :: more)).head? = some line := by
    have several : more.splitOn lf ≠ [] := List.splitOn_ne_nil _ _
    rw [terminated, List.splitOn_append_cons_self_of_not_mem clean, List.dropLast_cons_of_ne_nil several, List.head?_cons]
  by_cases broken : lf ∈ stream
  · obtain ⟨before, after, rfl, clean⟩ := List.eq_append_cons_of_mem broken
    rw [List.append_assoc, List.cons_append, first clean, List.takeWhile_append_of_pos (kept clean)]
    simp
  · rw [first broken, List.takeWhile_eq_self_iff.mpr (kept broken)]

theorem pieces_line (clean : lf ∉ line) : terminated lf (line ++ [lf]) = [line] ∧ remainder lf (line ++ [lf]) = [] := by
  have pieces : (line ++ [lf]).splitOn lf = [line, []] := by
    rw [List.splitOn_append_cons_self_of_not_mem clean, List.splitOn_nil]
  simp [terminated, remainder, pieces]

/-- A line that was sent alone is received alone. -/
theorem frames_line (apart : lf ≠ cr) (clean : lf ∉ line) : frames lf cr (line ++ [cr, lf]) = [line] := by
  have whole : line ++ [cr, lf] = line ++ [cr] ++ [lf] := by simp
  obtain ⟨ended, rest⟩ := @pieces_line α _ lf (line ++ [cr]) (by simp [clean, apart])
  rw [frames, whole, ended, rest]
  simp [strip_concat]

/-- A stream goes on behind the end of a line as it would from its beginning. -/
theorem frames_ended (before rest : List α) : frames lf cr (before ++ lf :: rest) = frames lf cr (before ++ [lf]) ++ frames lf cr rest := by
  have several : rest.splitOn lf ≠ [] := List.splitOn_ne_nil _ _
  have ended : terminated lf (before ++ lf :: rest) = terminated lf (before ++ [lf]) ++ terminated lf rest := by
    rw [terminated, terminated, terminated, List.splitOn_append_cons_self, List.splitOn_append_cons_self, List.splitOn_nil,
      List.dropLast_concat, List.dropLast_append_of_ne_nil several]
  have whole : remainder lf (before ++ [lf]) = [] := by
    rw [remainder, List.splitOn_append_cons_self, List.splitOn_nil, List.getLast?_concat]
    rfl
  have left : remainder lf (before ++ lf :: rest) = remainder lf rest := by
    rw [remainder, remainder, List.splitOn_append_cons_self, List.getLast?_append_of_ne_nil _ several]
  rw [frames, frames, frames, ended, whole, left, List.map_append, List.append_nil, List.append_assoc]

/-- With the end of a line inside, it is received as several. -/
theorem one_lt_length_frames (broken : lf ∈ line) : 1 < (frames lf cr (line ++ [cr, lf])).length := by
  obtain ⟨before, after, rfl⟩ := List.append_of_mem broken
  have whole : before ++ lf :: after ++ [cr, lf] = before ++ lf :: (after ++ [cr] ++ lf :: []) := by simp
  have pieces : (before ++ lf :: after ++ [cr, lf]).splitOn lf =
      before.splitOn lf ++ ((after ++ [cr]).splitOn lf ++ [[]]) := by
    rw [whole, List.splitOn_append_cons_self, List.splitOn_append_cons_self, List.splitOn_nil]
  have first := List.length_pos_of_ne_nil (List.splitOn_ne_nil lf before)
  have second := List.length_pos_of_ne_nil (List.splitOn_ne_nil lf (after ++ [cr]))
  simp only [frames, terminated, pieces, List.length_append, List.length_map, List.length_dropLast, List.length_singleton]
  omega

end Aircd.Lines

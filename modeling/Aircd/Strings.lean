import Aircd.Text
import Aircd.Utf8

/-!
# Strings of Python

A string of Python is a sequence of code points. Besides Unicode scalar values these
are the surrogates, which stand alone there: `json.loads` makes them of their escapes,
and the strict encoder refuses them. A text is a string without them.
-/
namespace Aircd

inductive CodePoint where
  | scalar (c : Char)
  | surrogate (offset : Fin 2048)
  deriving DecidableEq

abbrev PyString := List CodePoint

namespace CodePoint

def scalar? : CodePoint → Option Char
  | .scalar c => some c
  | .surrogate _ => none

end CodePoint

namespace PyString

def ofText (t : Text) : PyString := t.map .scalar

/-- A literal of the source. -/
def lit (s : String) : PyString := ofText s.toList

/-- The Unicode scalar values of a string. -/
def text (s : PyString) : Text := s.filterMap CodePoint.scalar?

/-- The string has no surrogate. -/
def Encodable (s : PyString) : Prop := ∀ c ∈ s, c.scalar?.isSome = true
instance (s : PyString) : Decidable s.Encodable := inferInstanceAs (Decidable (∀ c ∈ s, _))

/-- `str.encode("utf-8")`, which raises UnicodeEncodeError at a surrogate. -/
def encode (s : PyString) : Option (List UInt8) := if s.Encodable then some (Utf8.encode s.text) else none

variable {s s' : PyString} {t : Text}

@[simp] theorem text_append (s s' : PyString) : text (s ++ s') = text s ++ text s' := List.filterMap_append

@[simp] theorem text_ofText (t : Text) : (ofText t).text = t := by
  induction t with
  | nil => rfl
  | cons c t ih => exact congrArg (c :: ·) ih

@[simp] theorem text_lit (literal : String) : (lit literal).text = literal.toList := text_ofText _

@[simp] theorem encodable_append : Encodable (s ++ s') ↔ s.Encodable ∧ s'.Encodable := List.forall_mem_append

@[simp] theorem encodable_ofText (t : Text) : (ofText t).Encodable := by
  intro c inside
  obtain ⟨scalar, _, rfl⟩ := List.mem_map.mp inside
  rfl

@[simp] theorem encodable_lit (literal : String) : (lit literal).Encodable := encodable_ofText _

/-- A string without surrogates is its text. -/
theorem ofText_text (encodable : s.Encodable) : ofText s.text = s := by
  induction s with
  | nil => rfl
  | cons c s ih =>
    obtain ⟨here, later⟩ := List.forall_mem_cons.mp encodable
    cases c with
    | scalar c => exact congrArg (CodePoint.scalar c :: ·) (ih later)
    | surrogate offset => cases here

theorem mem_text {c : Char} : c ∈ s.text ↔ .scalar c ∈ s := by
  constructor
  · intro inside
    obtain ⟨point, listed, same⟩ := List.mem_filterMap.mp inside
    cases point with
    | scalar c' =>
      cases same
      exact listed
    | surrogate offset => cases same
  · intro listed
    exact List.mem_filterMap.mpr ⟨_, listed, rfl⟩

end PyString
end Aircd

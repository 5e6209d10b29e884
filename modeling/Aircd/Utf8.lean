import Aircd.Lines

/-!
# UTF-8

The encoding of texts, and one decoder for both programs. It reads one byte at a
time and gives the characters with a gap for each maximal part of a sequence that
is not well formed: a strict decoder refuses the gaps, and a replacing one puts
U+FFFD there.
-/
namespace Aircd.Utf8

def encode (t : List Char) : List UInt8 := t.flatMap String.utf8EncodeChar

/-- A character that is read in part: the bits so far, and the ranges of the bytes to come. -/
structure Partial where
  value : Nat
  ranges : List (Nat × Nat)

def tail : Nat × Nat := (0x80, 0xBF)

/-- What the first byte of a character says about it. -/
def lead (b : Nat) : Option Partial :=
  if b < 0x80 then some ⟨b, []⟩
  else if b < 0xC2 then none
  else if b < 0xE0 then some ⟨b - 0xC0, [tail]⟩
  else if b = 0xE0 then some ⟨0, [(0xA0, 0xBF), tail]⟩
  else if b = 0xED then some ⟨0xD, [(0x80, 0x9F), tail]⟩
  else if b < 0xF0 then some ⟨b - 0xE0, [tail, tail]⟩
  else if b = 0xF0 then some ⟨0, [(0x90, 0xBF), tail, tail]⟩
  else if b < 0xF4 then some ⟨b - 0xF0, [tail, tail, tail]⟩
  else if b = 0xF4 then some ⟨4, [(0x80, 0x8F), tail, tail]⟩
  else none

/-- A character with no byte to come is complete. -/
def settle (p : Partial) : List (Option Char) × Option Partial :=
  match p.ranges with
  | [] => ([some (Char.ofNat p.value)], none)
  | _ :: _ => ([], some p)

def begin (b : UInt8) : List (Option Char) × Option Partial :=
  match lead b.toNat with
  | none => ([none], none)
  | some p => settle p

/-- One byte: the characters and gaps that it completes, and the part that it leaves. -/
def advance : Option Partial → UInt8 → List (Option Char) × Option Partial
  | none, b => begin b
  | some ⟨_, []⟩, b => begin b
  | some ⟨value, (low, high) :: ranges⟩, b =>
    if low ≤ b.toNat ∧ b.toNat ≤ high then settle ⟨value * 64 + (b.toNat - 0x80), ranges⟩
    else (none :: (begin b).1, (begin b).2)

def scan : Option Partial → List UInt8 → List (Option Char)
  | none, [] => []
  | some _, [] => [none]
  | p, b :: rest => (advance p b).1 ++ scan (advance p b).2 rest

/-- `String::from_utf8`. -/
def decode (bytes : List UInt8) : Option (List Char) := (scan none bytes).mapM id

/-- `bytes.decode("utf-8", errors="replace")`. -/
def decodeReplace (bytes : List UInt8) : List Char := (scan none bytes).map (fun c => c.getD '\uFFFD')

example : decodeReplace [0x61, 0xF0, 0x9F, 0x92, 0x62, 0xC0, 0x80] = ['a', '\uFFFD', 'b', '\uFFFD', '\uFFFD'] := by
  decide

/-! ## Decoding what was encoded -/

private theorem toNat_ofNat {n : Nat} (small : n < 256) : (UInt8.ofNat n).toNat = n := by
  simp [UInt8.toNat_ofNat', Nat.mod_eq_of_lt small]

/-- A byte in the range that is expected. -/
private theorem scan_in_range {value low high n : Nat} {ranges : List (Nat × Nat)} {rest : List UInt8} (small : n < 256)
    (above : low ≤ n) (below : n ≤ high) :
    scan (some ⟨value, (low, high) :: ranges⟩) (UInt8.ofNat n :: rest) =
      (settle ⟨value * 64 + (n - 0x80), ranges⟩).1 ++ scan (settle ⟨value * 64 + (n - 0x80), ranges⟩).2 rest := by
  rw [scan, advance, toNat_ofNat small, if_pos ⟨above, below⟩]

private theorem scan_lead {n : Nat} {p : Partial} {rest : List UInt8} (small : n < 256) (leads : lead n = some p) :
    scan none (UInt8.ofNat n :: rest) = (settle p).1 ++ scan (settle p).2 rest := by
  rw [scan, advance, begin, toNat_ofNat small, leads]

private theorem valid (c : Char) : c.toNat < 0xD800 ∨ (0xDFFF < c.toNat ∧ c.toNat < 0x110000) := by
  have := c.valid
  simpa [UInt32.isValidChar, Nat.isValidChar] using this

private theorem settle_nil (value : Nat) : settle ⟨value, []⟩ = ([some (Char.ofNat value)], none) := rfl
private theorem settle_cons (value : Nat) (range : Nat × Nat) (ranges : List (Nat × Nat)) :
    settle ⟨value, range :: ranges⟩ = ([], some ⟨value, range :: ranges⟩) := rfl

/-- The two last bytes of a character. -/
private theorem scan_two {value low high n : Nat} {rest : List UInt8} (above : low ≤ n / 64 % 64 + 0x80)
    (below : n / 64 % 64 + 0x80 ≤ high) :
    scan (some ⟨value, [(low, high), tail]⟩) (UInt8.ofNat (n / 64 % 64 + 0x80) :: UInt8.ofNat (n % 64 + 0x80) :: rest) =
      some (Char.ofNat (value * 4096 + n % 4096)) :: scan none rest := by
  have sum : (value * 64 + (n / 64 % 64 + 0x80 - 0x80)) * 64 + (n % 64 + 0x80 - 0x80) = value * 4096 + n % 4096 := by omega
  rw [scan_in_range (by omega) above below, settle_cons, List.nil_append, tail,
    scan_in_range (by omega) (by omega) (by omega), settle_nil, List.singleton_append, sum]

/-- The three last bytes of a character. -/
private theorem scan_three {value low high n : Nat} {rest : List UInt8} (above : low ≤ n / 4096 % 64 + 0x80)
    (below : n / 4096 % 64 + 0x80 ≤ high) :
    scan (some ⟨value, [(low, high), tail, tail]⟩) (UInt8.ofNat (n / 4096 % 64 + 0x80) ::
      UInt8.ofNat (n / 64 % 64 + 0x80) :: UInt8.ofNat (n % 64 + 0x80) :: rest) =
      some (Char.ofNat (value * 262144 + n % 262144)) :: scan none rest := by
  have sum : (value * 64 + (n / 4096 % 64 + 0x80 - 0x80)) * 4096 + n % 4096 = value * 262144 + n % 262144 := by omega
  rw [scan_in_range (by omega) above below, settle_cons, List.nil_append]
  exact (scan_two (by omega) (by omega)).trans (by rw [sum])

/-- The first of three bytes leaves room for the second one. -/
private theorem lead_three {n : Nat} (least : 0x7ff < n) (most : n ≤ 0xffff) (scalar : n < 0xD800 ∨ 0xDFFF < n) :
    ∃ low high, lead (n / 4096 % 0x10 + 0xe0) = some ⟨n / 4096, [(low, high), tail]⟩ ∧
      low ≤ n / 64 % 64 + 0x80 ∧ n / 64 % 64 + 0x80 ≤ high := by
  unfold lead
  rw [if_neg (by omega), if_neg (by omega), if_neg (by omega)]
  by_cases short : n < 0x1000
  · rw [if_pos (by omega), show n / 4096 = 0 by omega]
    exact ⟨0xA0, 0xBF, rfl, by omega, by omega⟩
  rw [if_neg (by omega)]
  by_cases surrogate : 0xD000 ≤ n ∧ n < 0xE000
  · rw [if_pos (by omega), show n / 4096 = 0xD by omega]
    exact ⟨0x80, 0x9F, rfl, by omega, by omega⟩
  · rw [if_neg (by omega), if_pos (by omega), show n / 4096 % 0x10 + 0xe0 - 0xE0 = n / 4096 by omega]
    exact ⟨0x80, 0xBF, rfl, by omega, by omega⟩

private theorem lead_four {n : Nat} (least : 0xffff < n) (most : n < 0x110000) :
    ∃ low high, lead (n / 262144 % 0x08 + 0xf0) = some ⟨n / 262144, [(low, high), tail, tail]⟩ ∧
      low ≤ n / 4096 % 64 + 0x80 ∧ n / 4096 % 64 + 0x80 ≤ high := by
  unfold lead
  rw [if_neg (by omega), if_neg (by omega), if_neg (by omega), if_neg (by omega), if_neg (by omega), if_neg (by omega)]
  by_cases short : n < 0x40000
  · rw [if_pos (by omega), show n / 262144 = 0 by omega]
    exact ⟨0x90, 0xBF, rfl, by omega, by omega⟩
  rw [if_neg (by omega)]
  by_cases last : 0x100000 ≤ n
  · rw [if_neg (by omega), if_pos (by omega), show n / 262144 = 4 by omega]
    exact ⟨0x80, 0x8F, rfl, by omega, by omega⟩
  · rw [if_pos (by omega), show n / 262144 % 0x08 + 0xf0 - 0xF0 = n / 262144 by omega]
    exact ⟨0x80, 0xBF, rfl, by omega, by omega⟩

/-- The bytes of a character are read as that character. -/
theorem scan_char (c : Char) (rest : List UInt8) :
    scan none (String.utf8EncodeChar c ++ rest) = some c :: scan none rest := by
  have back (n : Nat) (same : n = c.toNat) : Char.ofNat n = c := by rw [same, Char.ofNat_toNat]
  have value : c.val.toNat = c.toNat := rfl
  unfold String.utf8EncodeChar
  rw [value]
  by_cases one : c.toNat ≤ 0x7f
  · have leads : lead c.toNat = some ⟨c.toNat, []⟩ := if_pos (by omega)
    simp only [one, if_true, List.singleton_append]
    rw [scan_lead (by omega) leads, settle_nil, List.singleton_append, back _ rfl]
  by_cases two : c.toNat ≤ 0x7ff
  · have leads : lead (c.toNat / 64 % 0x20 + 0xc0) = some ⟨c.toNat / 64, [tail]⟩ := by
      unfold lead
      rw [if_neg (by omega), if_neg (by omega), if_pos (by omega),
        show c.toNat / 64 % 0x20 + 0xc0 - 0xC0 = c.toNat / 64 by omega]
    simp only [one, two, if_true, if_false, List.cons_append, List.nil_append]
    rw [scan_lead (by omega) leads, settle_cons, List.nil_append, tail, scan_in_range (by omega) (by omega) (by omega),
      settle_nil, List.singleton_append, back _ (by omega)]
  by_cases three : c.toNat ≤ 0xffff
  · obtain ⟨low, high, leads, above, below⟩ := @lead_three c.toNat (by omega) three (by have := valid c; omega)
    simp only [one, two, three, if_true, if_false, List.cons_append, List.nil_append]
    rw [scan_lead (by omega) leads, settle_cons, List.nil_append, scan_two above below, back _ (by omega)]
  · have most : c.toNat < 0x110000 := by have := valid c; omega
    obtain ⟨low, high, leads, above, below⟩ := @lead_four c.toNat (by omega) most
    simp only [one, two, three, if_false, List.cons_append, List.nil_append]
    rw [scan_lead (by omega) leads, settle_cons, List.nil_append, scan_three above below, back _ (by omega)]

theorem scan_encode (t : List Char) : scan none (encode t) = t.map some := by
  induction t with
  | nil => rfl
  | cons c rest ih => rw [encode, List.flatMap_cons, scan_char, List.map_cons, ← encode, ih]

@[simp] theorem decode_encode (t : List Char) : decode (encode t) = some t := by
  rw [decode, scan_encode]
  induction t with
  | nil => rfl
  | cons c rest ih => simp [List.mapM_cons, ih]

@[simp] theorem decodeReplace_encode (t : List Char) : decodeReplace (encode t) = t := by
  simp [decodeReplace, scan_encode, Function.comp_def]

/-! ## Bytes of lines -/

@[simp] theorem encode_append (t t' : List Char) : encode (t ++ t') = encode t ++ encode t' := List.flatMap_append

theorem length_le_encode (t : List Char) : t.length ≤ (encode t).length := by
  induction t with
  | nil => exact Nat.zero_le _
  | cons c rest ih =>
    have size : 0 < (String.utf8EncodeChar c).length := by
      rw [String.length_utf8EncodeChar]
      exact c.utf8Size_pos
    rw [encode, List.flatMap_cons, List.length_append, ← encode, List.length_cons]
    omega

/-- The bytes of other characters are not those of ASCII. -/
theorem mem_encodeChar {c : Char} {b : UInt8} (ascii : b.toNat < 0x80) :
    b ∈ String.utf8EncodeChar c ↔ b.toNat = c.toNat := by
  have value : c.val.toNat = c.toNat := rfl
  have other (n : Nat) (high : 0x80 ≤ n) (small : n < 256) : b ≠ UInt8.ofNat n := by
    rintro rfl
    rw [toNat_ofNat small] at ascii
    omega
  unfold String.utf8EncodeChar
  rw [value]
  by_cases one : c.toNat ≤ 0x7f
  · simp only [one, if_true, List.mem_singleton]
    constructor
    · rintro rfl
      exact toNat_ofNat (by omega)
    · intro same
      rw [← same, UInt8.ofNat_toNat]
  have apart : b.toNat ≠ c.toNat := by omega
  by_cases two : c.toNat ≤ 0x7ff
  · simp only [one, two, if_true, if_false, List.mem_cons, List.not_mem_nil, or_false, apart, iff_false, not_or]
    exact ⟨other _ (by omega) (by omega), other _ (by omega) (by omega)⟩
  by_cases three : c.toNat ≤ 0xffff
  · simp only [one, two, three, if_true, if_false, List.mem_cons, List.not_mem_nil, or_false, apart, iff_false, not_or]
    exact ⟨other _ (by omega) (by omega), other _ (by omega) (by omega), other _ (by omega) (by omega)⟩
  · simp only [one, two, three, if_false, List.mem_cons, List.not_mem_nil, or_false, apart, iff_false, not_or]
    exact ⟨other _ (by omega) (by omega), other _ (by omega) (by omega), other _ (by omega) (by omega),
      other _ (by omega) (by omega)⟩

theorem encodeChar_ascii {c : Char} (ascii : c.toNat < 0x80) : String.utf8EncodeChar c = [UInt8.ofNat c.toNat] := by
  have value : c.val.toNat = c.toNat := rfl
  unfold String.utf8EncodeChar
  rw [value]
  simp only [show c.toNat ≤ 0x7f by omega, if_true]

theorem encode_singleton {c : Char} (ascii : c.toNat < 0x80) : encode [c] = [UInt8.ofNat c.toNat] := by
  simp [encode, encodeChar_ascii ascii]

theorem mem_encode {t : List Char} {b : UInt8} (ascii : b.toNat < 0x80) : b ∈ encode t ↔ ∃ c ∈ t, b.toNat = c.toNat := by
  simp [encode, mem_encodeChar ascii]

theorem mem_encode_char {c : Char} {t : List Char} (ascii : c.toNat < 0x80) : UInt8.ofNat c.toNat ∈ encode t ↔ c ∈ t := by
  have small : (UInt8.ofNat c.toNat).toNat = c.toNat := toNat_ofNat (by omega)
  rw [mem_encode (by omega), small]
  constructor
  · rintro ⟨c', inside, same⟩
    have equal : c = c' := Char.ext (UInt32.toNat_inj.mp same)
    rw [equal]
    exact inside
  · intro inside
    exact ⟨c, inside, rfl⟩

/-- The bytes up to an ASCII character are those of the text up to it. -/
theorem takeWhile_encode {c : Char} (ascii : c.toNat < 0x80) (t : List Char) :
    (encode t).takeWhile (fun b => b != UInt8.ofNat c.toNat) = encode (t.takeWhile (fun c' => c' != c)) := by
  have kept {line : List Char} (clean : c ∉ line) : (∀ b ∈ encode line, (b != UInt8.ofNat c.toNat) = true) ∧
      ∀ c' ∈ line, (c' != c) = true := by
    refine ⟨?_, ?_⟩
    · intro b inside
      simp only [bne_iff_ne, ne_eq]
      rintro rfl
      exact clean ((mem_encode_char ascii).mp inside)
    · intro c' inside
      simp only [bne_iff_ne, ne_eq]
      rintro rfl
      exact clean inside
  by_cases broken : c ∈ t
  · obtain ⟨before, after, rfl, clean⟩ := List.eq_append_cons_of_mem broken
    rw [← List.singleton_append, encode_append, encode_append, encode_singleton ascii,
      List.takeWhile_append_of_pos (kept clean).1, List.takeWhile_append_of_pos (kept clean).2]
    simp
  · rw [List.takeWhile_eq_self_iff.mpr (kept broken).1, List.takeWhile_eq_self_iff.mpr (kept broken).2]

/-- Splitting at an ASCII character before encoding or after it. -/
theorem splitOn_encode {c : Char} (ascii : c.toNat < 0x80) (t : List Char) :
    (encode t).splitOn (UInt8.ofNat c.toNat) = (t.splitOn c).map encode := by
  have small : (UInt8.ofNat c.toNat).toNat = c.toNat := toNat_ofNat (by omega)
  have join (parts : List (List Char)) :
      encode ([c].intercalate parts) = [UInt8.ofNat c.toNat].intercalate (parts.map encode) := by
    induction parts with
    | nil => rfl
    | cons first rest ih =>
      cases rest with
      | nil => simp
      | cons second rest =>
        rw [List.intercalate_cons_cons, List.map_cons, List.map_cons, List.intercalate_cons_cons, encode_append,
          encode_append, encode_singleton ascii, ih, List.map_cons]
  have whole : [c].intercalate (t.splitOn c) = t := List.intercalate_splitOn c
  conv_lhs => rw [← whole, join]
  apply List.splitOn_intercalate
  · intro part inside
    obtain ⟨part, listed, rfl⟩ := List.mem_map.mp inside
    rw [mem_encode (by omega), small]
    rintro ⟨c', here, same⟩
    rw [Char.toNat_inj.mp same.symm] at here
    exact Lines.not_mem_of_mem_splitOn listed here
  · simp

theorem encode_isEmpty (t : List Char) : (encode t).isEmpty = t.isEmpty := by
  cases t with
  | nil => rfl
  | cons c rest =>
    have some : String.utf8EncodeChar c ≠ [] := String.utf8EncodeChar_ne_nil
    simp [encode, some]

theorem strip_encode {cr : Char} (ascii : cr.toNat < 0x80) (line : List Char) :
    Lines.strip (UInt8.ofNat cr.toNat) (encode line) = encode (Lines.strip cr line) := by
  have small : (UInt8.ofNat cr.toNat).toNat = cr.toNat := toNat_ofNat (by omega)
  rcases List.eq_nil_or_concat line with rfl | ⟨start, last, rfl⟩
  · rfl
  rw [List.concat_eq_append]
  by_cases here : last = cr
  · subst here
    rw [encode_append, encode_singleton ascii, Lines.strip_concat, Lines.strip_concat]
  · have other : (encode (start ++ [last])).getLast? ≠ some (UInt8.ofNat cr.toNat) := by
      intro ends
      have bytes : encode (start ++ [last]) = encode start ++ String.utf8EncodeChar last := by simp [encode]
      rw [bytes, List.getLast?_append_of_ne_nil _ String.utf8EncodeChar_ne_nil] at ends
      have inside := (mem_encodeChar (by omega)).mp (List.mem_of_getLast? ends)
      rw [small] at inside
      exact here (Char.toNat_inj.mp inside.symm)
    rw [Lines.strip, if_neg other, Lines.strip, if_neg (by simpa using here)]

/-- A text is cut into lines before it is encoded or after that. -/
theorem frames_encode {lf cr : Char} (lf_ascii : lf.toNat < 0x80) (cr_ascii : cr.toNat < 0x80) (t : List Char) :
    Lines.frames (UInt8.ofNat lf.toNat) (UInt8.ofNat cr.toNat) (encode t) = (Lines.frames lf cr t).map encode := by
  simp only [Lines.frames, Lines.terminated, Lines.remainder, splitOn_encode lf_ascii, List.map_append, List.map_map, ← List.map_dropLast]
  congr 1
  · apply List.map_congr_left
    intro line _
    exact strip_encode cr_ascii line
  · rw [List.getLast?_map]
    cases (t.splitOn lf).getLast? with
    | none => rfl
    | some rest =>
      simp only [Option.map_some, Option.filter_some, encode_isEmpty]
      split
      · rfl
      · rfl

end Aircd.Utf8

import CollectionMarker.Json.Text
import Mathlib.Data.Nat.Notation

/-! Texts between quotes, stated by how they may be written. A character stands for itself, or it is written
with a backslash: by a letter, or by its one or two units of sixteen bits, each of four hexadecimal digits. The
spelling may change from character to character. Reading takes exactly these and gives the text back. -/

namespace CollectionMarker.Json

/-! ## Units -/

def IsHexDigit (v : ℕ) (c : Char) : Prop := v < 16 ∧ (c = v.digitChar ∨ c = v.digitChar.toUpper)

/-- A digit is an ASCII character, so it is one of finitely many. -/
theorem toNat_lt_of_value? {v : ℕ} {c : Char} (h : Hex.value? c = some v) : c.toNat < 128 := by
  rcases Nat.lt_or_ge c.toNat 128 with hsmall | hlarge
  · exact hsmall
  · have hnine : ¬c ≤ '9' := fun hc => Nat.not_le_of_gt (Nat.lt_of_lt_of_le (by decide) hlarge) hc
    have hf : ¬c ≤ 'f' := fun hc => Nat.not_le_of_gt (Nat.lt_of_lt_of_le (by decide) hlarge) hc
    have hF : ¬c ≤ 'F' := fun hc => Nat.not_le_of_gt (Nat.lt_of_lt_of_le (by decide) hlarge) hc
    simp [Hex.value?, hnine, hf, hF] at h

theorem value?_eq_some_iff {v : ℕ} {c : Char} : Hex.value? c = some v ↔ IsHexDigit v c := by
  constructor
  · intro h
    have hall : ∀ n < 128, ∀ v ∈ Hex.value? (Char.ofNat n), IsHexDigit v (Char.ofNat n) := by
      unfold IsHexDigit
      decide
    have hdigit := hall c.toNat (toNat_lt_of_value? h) v
    rw [Char.ofNat_toNat] at hdigit
    exact hdigit h
  · have hall : ∀ v < 16, Hex.value? v.digitChar = some v ∧ Hex.value? v.digitChar.toUpper = some v := by
      decide
    rintro ⟨hv, rfl | rfl⟩
    · exact (hall v hv).1
    · exact (hall v hv).2

/-- A unit after a backslash and a `u`. -/
def UnitEscape (unit : ℕ) (spelled : List Char) : Prop :=
  ∃ a b c d, spelled = ['\\', 'u', a, b, c, d] ∧ IsHexDigit (unit / 0x1000) a ∧
    IsHexDigit (unit / 0x100 % 0x10) b ∧ IsHexDigit (unit / 0x10 % 0x10) c ∧ IsHexDigit (unit % 0x10) d

theorem unit?_eq_some_iff {unit : ℕ} {a b c d : Char} :
    unit? a b c d = some unit ↔ UnitEscape unit ['\\', 'u', a, b, c, d] := by
  constructor
  · intro h
    simp only [unit?, Option.bind_eq_bind, Option.bind_eq_some_iff, Option.pure_def, Option.some.injEq,
      value?_eq_some_iff] at h
    obtain ⟨w, hw, x, hx, y, hy, z, hz, rfl⟩ := h
    have := hw.1
    have := hx.1
    have := hy.1
    have := hz.1
    refine ⟨a, b, c, d, rfl, ?_, ?_, ?_, ?_⟩
    · rwa [show (0x1000 * w + 0x100 * x + 0x10 * y + z) / 0x1000 = w by omega]
    · rwa [show (0x1000 * w + 0x100 * x + 0x10 * y + z) / 0x100 % 0x10 = x by omega]
    · rwa [show (0x1000 * w + 0x100 * x + 0x10 * y + z) / 0x10 % 0x10 = y by omega]
    · rwa [show (0x1000 * w + 0x100 * x + 0x10 * y + z) % 0x10 = z by omega]
  · rintro ⟨a', b', c', d', heq, ha, hb, hc, hd⟩
    obtain ⟨rfl, rfl, rfl, rfl⟩ : a = a' ∧ b = b' ∧ c = c' ∧ d = d' := by simpa using heq
    simp only [unit?, value?_eq_some_iff.2 ha, value?_eq_some_iff.2 hb, value?_eq_some_iff.2 hc,
      value?_eq_some_iff.2 hd, Option.bind_eq_bind, Option.bind_some, Option.pure_def, Option.some.injEq]
    omega

theorem UnitEscape.exists_digits {unit : ℕ} {spelled : List Char} (h : UnitEscape unit spelled) :
    ∃ a b c d, spelled = ['\\', 'u', a, b, c, d] ∧ unit? a b c d = some unit := by
  obtain ⟨a, b, c, d, rfl, -⟩ := id h
  exact ⟨a, b, c, d, rfl, unit?_eq_some_iff.2 h⟩

theorem UnitEscape.lt {unit : ℕ} {spelled : List Char} (h : UnitEscape unit spelled) : unit < 0x10000 := by
  obtain ⟨-, -, -, -, -, ⟨hfirst, -⟩, -⟩ := h
  omega

/-! ## Characters -/

def shortEscapes : List (Char × Char) :=
  [('"', '"'), ('\\', '\\'), ('/', '/'), ('b', '\x08'), ('f', '\x0c'), ('n', '\n'), ('r', '\r'), ('t', '\t')]

theorem shortEscape?_eq_some_iff {letter c : Char} :
    shortEscape? letter = some c ↔ (letter, c) ∈ shortEscapes := by
  constructor
  · intro h
    unfold shortEscape? at h
    split at h <;> simp at h <;> subst h <;> simp [shortEscapes]
  · intro h
    simp only [shortEscapes, List.mem_cons, Prod.mk.injEq, List.not_mem_nil, or_false] at h
    rcases h with ⟨rfl, rfl⟩ | ⟨rfl, rfl⟩ | ⟨rfl, rfl⟩ | ⟨rfl, rfl⟩ | ⟨rfl, rfl⟩ | ⟨rfl, rfl⟩ |
      ⟨rfl, rfl⟩ | ⟨rfl, rfl⟩ <;> rfl

/-- The two units of a character above U+FFFF. -/
def highHalf (c : Char) : ℕ := 0xD800 + (c.toNat - 0x10000) / 0x400

def lowHalf (c : Char) : ℕ := 0xDC00 + (c.toNat - 0x10000) % 0x400

/-- The ways to write a character inside quotes. -/
inductive Spelling : Char → List Char → Prop
  | plain {c : Char} (quote : c ≠ '"') (backslash : c ≠ '\\') (control : 0x20 ≤ c.toNat) : Spelling c [c]
  | short {letter c : Char} (mem : (letter, c) ∈ shortEscapes) : Spelling c ['\\', letter]
  | unit {c : Char} {spelled : List Char} (escape : UnitEscape c.toNat spelled) : Spelling c spelled
  | halves {c : Char} {high low : List Char} (above : 0x10000 ≤ c.toNat)
      (first : UnitEscape (highHalf c) high) (second : UnitEscape (lowHalf c) low) : Spelling c (high ++ low)

inductive Inside : List Char → List Char → Prop
  | nil : Inside [] []
  | cons {c : Char} {text spelled rest : List Char} (head : Spelling c spelled) (tail : Inside text rest) :
      Inside (c :: text) (spelled ++ rest)

def Literal (text spelled : List Char) : Prop := ∃ inside, Inside text inside ∧ spelled = '"' :: inside ++ ['"']

/-- The characters of an escape, whatever it stands for. -/
def isEscaping (c : Char) : Bool := c.isAlphanum || c == '\\' || c == '"' || c == '/'

theorem isEscaping_of_isHexDigit {v : ℕ} {c : Char} (h : IsHexDigit v c) : isEscaping c = true := by
  have hall : ∀ v < 16, isEscaping v.digitChar = true ∧ isEscaping v.digitChar.toUpper = true := by decide
  obtain ⟨hv, rfl | rfl⟩ := h
  · exact (hall v hv).1
  · exact (hall v hv).2

theorem UnitEscape.isEscaping {unit : ℕ} {spelled : List Char} (h : UnitEscape unit spelled) {x : Char}
    (hx : x ∈ spelled) : isEscaping x = true := by
  obtain ⟨a, b, c, d, rfl, ha, hb, hc, hd⟩ := h
  simp only [List.mem_cons, List.not_mem_nil, or_false] at hx
  rcases hx with rfl | rfl | rfl | rfl | rfl | rfl
  · decide
  · decide
  · exact isEscaping_of_isHexDigit ha
  · exact isEscaping_of_isHexDigit hb
  · exact isEscaping_of_isHexDigit hc
  · exact isEscaping_of_isHexDigit hd

theorem Spelling.mem {c x : Char} {spelled : List Char} (h : Spelling c spelled) (hx : x ∈ spelled) :
    x = c ∨ isEscaping x = true := by
  cases h with
  | plain => exact .inl (List.mem_singleton.1 hx)
  | @short letter _ mem =>
    have hall : ∀ p ∈ shortEscapes, isEscaping p.1 = true := by decide
    simp only [List.mem_cons, List.not_mem_nil, or_false] at hx
    rcases hx with rfl | rfl
    · exact .inr (by decide)
    · exact .inr (hall _ mem)
  | unit escape => exact .inr (escape.isEscaping hx)
  | halves _ first second =>
    rcases List.mem_append.1 hx with hx | hx
    · exact .inr (first.isEscaping hx)
    · exact .inr (second.isEscaping hx)

/-- A character between the quotes belongs to the text, or to an escape. -/
theorem Inside.mem {text inside : List Char} (h : Inside text inside) {x : Char} (hx : x ∈ inside) :
    x ∈ text ∨ isEscaping x = true := by
  induction h with
  | nil => cases hx
  | cons head tail ih =>
    rcases List.mem_append.1 hx with hx | hx
    · rcases head.mem hx with rfl | hescaping
      · exact .inl List.mem_cons_self
      · exact .inr hescaping
    · exact (ih hx).imp_left (List.mem_cons_of_mem _)

/-! ## Reading -/

theorem not_surrogate (c : Char) : c.toNat < 0xD800 ∨ 0xDFFF < c.toNat ∧ c.toNat < 0x110000 := c.valid

theorem toNat_ofNat {n : ℕ} (h : n.isValidChar) : (Char.ofNat n).toNat = n := by
  rw [Char.ofNat, dif_pos h]
  rfl

theorem joinHalves_highHalf_lowHalf {c : Char} (h : 0x10000 ≤ c.toNat) :
    joinHalves (highHalf c) (lowHalf c) = c := by
  unfold joinHalves highHalf lowHalf
  rw [show 0x10000 + 0x400 * (0xD800 + (c.toNat - 0x10000) / 0x400 - 0xD800) +
      (0xDC00 + (c.toNat - 0x10000) % 0x400 - 0xDC00) = c.toNat by omega, Char.ofNat_toNat]

theorem isHighHalf_iff {unit : ℕ} : isHighHalf unit = true ↔ 0xD800 ≤ unit ∧ unit ≤ 0xDBFF := by
  simp [isHighHalf]

theorem isLowHalf_iff {unit : ℕ} : isLowHalf unit = true ↔ 0xDC00 ≤ unit ∧ unit ≤ 0xDFFF := by
  simp [isLowHalf]

theorem isHighHalf_toNat (c : Char) : isHighHalf c.toNat = false := by
  rw [← Bool.not_eq_true, isHighHalf_iff]
  have := not_surrogate c
  omega

theorem isLowHalf_toNat (c : Char) : isLowHalf c.toNat = false := by
  rw [← Bool.not_eq_true, isLowHalf_iff]
  have := not_surrogate c
  omega

theorem isHighHalf_highHalf (c : Char) : isHighHalf (highHalf c) = true := by
  rw [isHighHalf_iff, highHalf]
  have := not_surrogate c
  omega

theorem isLowHalf_highHalf (c : Char) : isLowHalf (highHalf c) = false := by
  rw [← Bool.not_eq_true, isLowHalf_iff, highHalf]
  have := not_surrogate c
  omega

theorem isLowHalf_lowHalf (c : Char) : isLowHalf (lowHalf c) = true := by
  rw [isLowHalf_iff, lowHalf]
  omega

theorem Spelling.text?_append {c : Char} {spelled : List Char} (h : Spelling c spelled) (rest : List Char) :
    text? (spelled ++ rest) = prepend c (text? rest) := by
  cases h with
  | plain quote backslash control =>
    have hcontrol : ¬c.toNat < 0x20 := by omega
    simp [text?, backslash, hcontrol]
  | @short letter _ mem =>
    have hletter : letter ≠ 'u' := by
      rintro rfl
      simp [shortEscapes] at mem
    simp [text?, hletter, shortEscape?_eq_some_iff.2 mem]
  | unit escape =>
    obtain ⟨a, b, d, e, rfl, hunit⟩ := escape.exists_digits
    simp [text?, hunit, isHighHalf_toNat, isLowHalf_toNat]
  | halves above first second =>
    obtain ⟨a, b, d, e, rfl, hhigh⟩ := first.exists_digits
    obtain ⟨f, g, i, j, rfl, hlow⟩ := second.exists_digits
    simp [text?, hhigh, hlow, isHighHalf_highHalf, isLowHalf_highHalf, isLowHalf_lowHalf,
      joinHalves_highHalf_lowHalf above]

theorem Inside.text?_append {text inside : List Char} (h : Inside text inside) (rest : List Char) :
    text? (inside ++ '"' :: rest) = some (text, rest) := by
  induction h with
  | nil => simp [text?]
  | cons head tail ih =>
    rw [List.append_assoc, head.text?_append, ih]
    rfl

/-- What was read before the rest was written in one of the ways. -/
theorem exists_inside_of_prepend {c : Char} {spelled cs text rest : List Char} (hc : Spelling c spelled)
    (h : prepend c (text? cs) = some (text, rest))
    (ih : ∀ {text}, text? cs = some (text, rest) → ∃ inside, Inside text inside ∧ cs = inside ++ '"' :: rest) :
    ∃ inside, Inside text inside ∧ spelled ++ cs = inside ++ '"' :: rest := by
  obtain ⟨⟨tail, after⟩, htail, heq⟩ := Option.map_eq_some_iff.1 h
  obtain ⟨rfl, rfl⟩ : c :: tail = text ∧ after = rest := by simpa using heq
  obtain ⟨inside, hinside, rfl⟩ := ih htail
  exact ⟨spelled ++ inside, .cons hc hinside, (List.append_assoc ..).symm⟩

theorem spelling_unit {unit : ℕ} {a b c d : Char} (h : unit? a b c d = some unit)
    (hlow : ¬isLowHalf unit = true) (hhigh : ¬isHighHalf unit = true) :
    Spelling (Char.ofNat unit) ['\\', 'u', a, b, c, d] := by
  have hescape := unit?_eq_some_iff.1 h
  rw [isLowHalf_iff] at hlow
  rw [isHighHalf_iff] at hhigh
  have hvalid : unit.isValidChar := by
    have := hescape.lt
    unfold Nat.isValidChar
    omega
  exact .unit (by rwa [toNat_ofNat hvalid])

theorem spelling_halves {high low : ℕ} {a b c d e f g i : Char} (h : unit? a b c d = some high)
    (h' : unit? e f g i = some low) (hhigh : isHighHalf high = true) (hlow : isLowHalf low = true) :
    Spelling (joinHalves high low) (['\\', 'u', a, b, c, d] ++ ['\\', 'u', e, f, g, i]) := by
  rw [isHighHalf_iff] at hhigh
  rw [isLowHalf_iff] at hlow
  have hvalue : (joinHalves high low).toNat = 0x10000 + 0x400 * (high - 0xD800) + (low - 0xDC00) := by
    apply toNat_ofNat
    unfold Nat.isValidChar
    omega
  have hfirst : highHalf (joinHalves high low) = high := by
    rw [highHalf, hvalue]
    omega
  have hsecond : lowHalf (joinHalves high low) = low := by
    rw [lowHalf, hvalue]
    omega
  refine .halves (by omega) ?_ ?_
  · rw [hfirst]
    exact unit?_eq_some_iff.1 h
  · rw [hsecond]
    exact unit?_eq_some_iff.1 h'

theorem exists_inside_of_text? {cs text rest : List Char} (h : text? cs = some (text, rest)) :
    ∃ inside, Inside text inside ∧ cs = inside ++ '"' :: rest := by
  fun_induction text? cs generalizing text with
  | case1 | case3 | case4 | case5 | case7 | case8 | case10 | case12 => cases h
  | case2 =>
    cases h
    exact ⟨[], .nil, rfl⟩
  | case6 a b c d high hunit hlow hhigh e f g i rest low hunit' hlow' ih =>
    exact exists_inside_of_prepend (spelling_halves hunit hunit' hhigh hlow') h ih
  | case9 a b c d rest unit hunit hlow hhigh ih =>
    exact exists_inside_of_prepend (spelling_unit hunit hlow hhigh) h ih
  | case11 letter rest hletter meant hmeant ih =>
    exact exists_inside_of_prepend (.short (shortEscape?_eq_some_iff.1 hmeant)) h ih
  | case13 c rest hquote _ _ hc ih =>
    obtain ⟨hbackslash, hcontrol⟩ := not_or.1 hc
    exact exists_inside_of_prepend (.plain hquote hbackslash (by omega)) h ih

theorem text?_eq_some_iff {cs text rest : List Char} :
    text? cs = some (text, rest) ↔ ∃ inside, Inside text inside ∧ cs = inside ++ '"' :: rest := by
  constructor
  · exact exists_inside_of_text?
  · rintro ⟨inside, hinside, rfl⟩
    exact hinside.text?_append rest

theorem literal_iff {text spelled : List Char} :
    Literal text spelled ↔ ∃ cs, spelled = '"' :: cs ∧ text? cs = some (text, []) := by
  constructor
  · rintro ⟨inside, hinside, rfl⟩
    exact ⟨inside ++ ['"'], rfl, hinside.text?_append []⟩
  · rintro ⟨cs, rfl, h⟩
    obtain ⟨inside, hinside, rfl⟩ := text?_eq_some_iff.1 h
    exact ⟨inside, hinside, rfl⟩

instance (text spelled : List Char) : Decidable (Literal text spelled) :=
  match spelled with
  | [] => isFalse (by simp [literal_iff])
  | c :: cs => decidable_of_iff (c = '"' ∧ text? cs = some (text, [])) (by simp [literal_iff, and_assoc])

end CollectionMarker.Json

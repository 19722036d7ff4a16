import CollectionMarker.Json.Lexical
import CollectionMarker.Text.Hex

/-! Texts between quotes. A control character has to be escaped, and the halves of a character above
U+FFFF have to stand together. -/

namespace CollectionMarker.Json

def unit? (a b c d : Char) : Option Nat := do
  return 0x1000 * (← Hex.value? a) + 0x100 * (← Hex.value? b) + 0x10 * (← Hex.value? c) + (← Hex.value? d)

def prepend (c : Char) (read : Option (List Char × List Char)) : Option (List Char × List Char) :=
  read.map fun (text, rest) => (c :: text, rest)

/-- The text up to the closing quote, and what follows it. The opening quote is already read. -/
def text? : List Char → Option (List Char × List Char)
  | [] => none
  | '"' :: rest => some ([], rest)
  | '\\' :: 'u' :: a :: b :: c :: d :: rest =>
    match unit? a b c d with
    | none => none
    | some unit =>
      if isLowHalf unit then none
      else if isHighHalf unit then
        match rest with
        | '\\' :: 'u' :: e :: f :: g :: h :: rest =>
          match unit? e f g h with
          | none => none
          | some low => if isLowHalf low then prepend (joinHalves unit low) (text? rest) else none
        | _ => none
      else prepend (Char.ofNat unit) (text? rest)
  | '\\' :: c :: rest =>
    match shortEscape? c with
    | none => none
    | some meant => prepend meant (text? rest)
  | c :: rest => if c = '\\' ∨ c.toNat < 0x20 then none else prepend c (text? rest)

theorem length_of_prepend {c : Char} {tail : Option (List Char × List Char)} {text rest : List Char} {n : Nat}
    (h : prepend c tail = some (text, rest)) (ih : ∀ {text}, tail = some (text, rest) → rest.length < n) :
    rest.length < n := by
  obtain ⟨⟨t, u⟩, ht, he⟩ := Option.map_eq_some_iff.1 h
  exact ih (ht.trans (by rw [(Prod.mk.inj he).2]))

/-- A text takes at least its closing quote. -/
theorem length_of_text? {cs text rest : List Char} (h : text? cs = some (text, rest)) :
    rest.length < cs.length := by
  fun_induction text? cs generalizing text with
  | case1 | case3 | case4 | case5 | case7 | case8 | case10 | case12 => cases h
  | case2 => cases h; simp
  | case6 _ _ _ _ _ _ _ _ _ _ _ _ _ _ _ _ ih | case9 _ _ _ _ _ _ _ _ _ ih
  | case11 _ _ _ _ _ ih | case13 _ _ _ _ _ _ ih =>
    have := length_of_prepend h ih
    simp only [List.length_cons]
    omega

end CollectionMarker.Json

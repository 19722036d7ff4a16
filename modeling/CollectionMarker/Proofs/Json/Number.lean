import CollectionMarker.Json.Number
import Mathlib.Data.Nat.Notation

/-! Where a number ends. A character that no number goes on with may stand behind it, and whatever follows that
character: the number that is read stays the same. -/

namespace CollectionMarker.Json

variable {cs rest : List Char} {x : Char}

/-- No number goes on with that character. -/
def endsNumber (x : Char) : Bool := !x.isDigit && x != '.' && x != 'e' && x != 'E'

theorem endsNumber_iff : endsNumber x = true ↔ x.isDigit = false ∧ x ≠ '.' ∧ x ≠ 'e' ∧ x ≠ 'E' := by
  simp [endsNumber, and_assoc]

theorem takeWhile_isDigit_append (hx : endsNumber x = true) (cs rest : List Char) :
    (cs ++ x :: rest).takeWhile Char.isDigit = cs.takeWhile Char.isDigit := by
  obtain ⟨hdigit, -⟩ := endsNumber_iff.1 hx
  induction cs with
  | nil => simp [hdigit]
  | cons c cs ih =>
    by_cases hc : c.isDigit = true
    · simp [hc, ih]
    · simp [hc]

theorem dropWhile_isDigit_append (hx : endsNumber x = true) (cs rest : List Char) :
    (cs ++ x :: rest).dropWhile Char.isDigit = cs.dropWhile Char.isDigit ++ x :: rest := by
  obtain ⟨hdigit, -⟩ := endsNumber_iff.1 hx
  induction cs with
  | nil => simp [hdigit]
  | cons c cs ih =>
    by_cases hc : c.isDigit = true
    · simp [hc, ih]
    · simp [hc]

namespace Number

theorem exponent?_append {e : Option Int} (hx : endsNumber x = true) (h : exponent? cs = some e)
    (rest : List Char) : exponent? (cs ++ x :: rest) = some e := by
  obtain ⟨-, -, he, hE⟩ := endsNumber_iff.1 hx
  cases cs with
  | nil =>
    simp only [exponent?, List.nil_append] at h ⊢
    rwa [if_neg (by simp [he, hE])]
  | cons mark cs =>
    by_cases hmark : mark = 'e' ∨ mark = 'E'
    · cases cs with
      | nil => simp [exponent?, hmark] at h
      | cons sign cs =>
        have hdigits := takeWhile_isDigit_append hx (sign :: cs) rest
        rw [List.cons_append] at hdigits
        simp only [exponent?, List.cons_append, if_pos hmark] at h ⊢
        by_cases hplus : sign = '+'
        · subst hplus
          simpa only [takeWhile_isDigit_append hx] using h
        · by_cases hminus : sign = '-'
          · subst hminus
            simpa only [takeWhile_isDigit_append hx] using h
          · simpa [hplus, hminus, hdigits] using h
    · simpa [exponent?, hmark] using h

theorem read?_append {negative : Bool} {n : Number} (hx : endsNumber x = true)
    (h : read? negative cs = some n) (rest : List Char) : read? negative (cs ++ x :: rest) = some n := by
  obtain ⟨-, hpoint, -⟩ := endsNumber_iff.1 hx
  unfold read? at h ⊢
  rw [takeWhile_isDigit_append hx, dropWhile_isDigit_append hx]
  dsimp only at h ⊢
  split at h
  · cases h
  · rename_i hdigits
    rw [if_neg hdigits]
    -- what follows the digits is a point with a fraction, or else at most an exponent
    cases hafter : cs.dropWhile Char.isDigit with
    | nil =>
      rw [hafter] at h
      obtain ⟨e, he, hn⟩ := Option.bind_eq_some_iff.1 h
      rw [List.nil_append]
      split
      · rename_i hmark
        exact absurd (List.cons.inj hmark).1 hpoint
      · exact Option.bind_eq_some_iff.2 ⟨e, exponent?_append hx he rest, hn⟩
    | cons mark after =>
      rw [hafter] at h
      by_cases hmark : mark = '.'
      · subst hmark
        simp only [List.cons_append, takeWhile_isDigit_append hx, dropWhile_isDigit_append hx] at h ⊢
        split at h
        · cases h
        · rename_i hfraction
          rw [if_neg hfraction]
          obtain ⟨e, he, hn⟩ := Option.bind_eq_some_iff.1 h
          exact Option.bind_eq_some_iff.2 ⟨e, exponent?_append hx he rest, hn⟩
      · split at h
        · rename_i heq
          exact absurd (List.cons.inj heq).1 hmark
        · obtain ⟨e, he, hn⟩ := Option.bind_eq_some_iff.1 h
          split
          · rename_i heq
            exact absurd (List.cons.inj heq).1 hmark
          · exact Option.bind_eq_some_iff.2 ⟨e, exponent?_append hx he rest, hn⟩

end Number
end CollectionMarker.Json

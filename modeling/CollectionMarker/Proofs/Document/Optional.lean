import CollectionMarker.Proofs.Document.Naming

/-! Documents that hold a collection or null. Reading one branches at its first character, and yet it differs from
reading a collection only for the word null with blanks around it: whatever else begins like that word is refused
by both readers in the same way. -/

namespace CollectionMarker.Document

open Json

variable {doc : String} {rest : List Char} {rule : KeyRule}

theorem option_of_null (h : skipBlanks doc.toList = "null".toList ++ rest) :
    option doc rule = finish (none, rest) := by
  have hskip : skipBlanks doc.toList = 'n' :: ("ull".toList ++ rest) := h
  have hword : afterWord? "ull" ("ull".toList ++ rest) = some rest := afterWord?_eq_some_iff.2 rfl
  rw [option, hskip]
  simp only [hword]

/-- No collection begins with an n. -/
theorem one_of_n (h : skipBlanks doc.toList = 'n' :: rest) : one doc rule = .error .malformed := by
  rw [one, readOne, h]
  rfl

theorem option_of_not_null (h : ¬"null".toList <+: skipBlanks doc.toList) :
    option doc rule = some <$> one doc rule := by
  unfold option
  split
  · rename_i rest hskip
    rw [one_of_n hskip]
    split
    · rename_i after hword
      rw [hskip, afterWord?_eq_some_iff.1 hword] at h
      exact absurd ⟨after, rfl⟩ h
    · rfl
  · rfl

/-- Reading a collection or null gives null exactly if the document is the word null, blanks apart. Every other
document it answers as if a collection were read under the same rule for keys: with that collection, or with the
same refusal. -/
theorem option_agrees_with_one (doc : String) (rule : KeyRule) :
    (option doc rule = .ok none ↔ trimmed doc.toList = "null".toList) ∧
    (trimmed doc.toList ≠ "null".toList → option doc rule = (one doc rule).map some) := by
  rw [ne_eq, trimmed_eq_iff (by decide)]
  by_cases hnull : "null".toList <+: skipBlanks doc.toList
  · obtain ⟨rest, hskip⟩ := hnull
    have hbehind (rest' : List Char) : skipBlanks doc.toList = "null".toList ++ rest' ↔ rest = rest' := by
      rw [← hskip, List.append_right_inj]
    simp only [hbehind, option_of_null hskip.symm, exists_eq_left']
    by_cases hrest : Blanks rest
    · simp [finish_eq_ok_iff, hrest]
    · -- both readers fail, the one at the word and the other behind it
      have hone : one doc rule = .error .malformed := one_of_n hskip.symm
      simp [finish_eq_malformed hrest, hone, hrest, Except.map]
  · have hne : ¬∃ rest, skipBlanks doc.toList = "null".toList ++ rest ∧ Blanks rest :=
      fun ⟨rest, hskip, _⟩ => hnull ⟨rest, hskip.symm⟩
    have hsome : some <$> one doc rule ≠ .ok none := by
      cases one doc rule <;> exact fun h => by cases h
    rw [option_of_not_null hnull]
    exact ⟨iff_of_false hsome hne, fun _ => rfl⟩

example : option "\tnull " = .ok none ∧ option "nul" = .error .malformed ∧ option "null,1" = .error .malformed ∧
    option "\x7b\"queue\":null\x7d" = .ok (some .queue) ∧
    option "\x7bnull:null\x7d" .lenient = .error (.mismatch .null .identifier) := by
  decide +kernel

end CollectionMarker.Document

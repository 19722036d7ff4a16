import CollectionMarker.Json.Lexical
import Mathlib.Data.List.DropRight
import Mathlib.Data.List.TakeWhile

/-! Blanks and words. What is skipped and what is found in front of a text does not depend on what follows. -/

namespace CollectionMarker.Json

variable {cs before rest more : List Char} {c : Char}

def Blanks (cs : List Char) : Prop := ∀ c ∈ cs, isBlank c = true

instance (cs : List Char) : Decidable (Blanks cs) := decidable_of_iff (cs.all isBlank = true) List.all_eq_true

theorem blanks_nil : Blanks [] := by simp [Blanks]

theorem skipBlanks_append (h : Blanks before) (cs : List Char) : skipBlanks (before ++ cs) = skipBlanks cs :=
  List.dropWhile_append_of_pos h

theorem skipBlanks_cons (h : isBlank c = false) (rest : List Char) : skipBlanks (c :: rest) = c :: rest :=
  List.dropWhile_cons_of_neg (by simp [h])

theorem skipBlanks_eq_nil_iff : skipBlanks cs = [] ↔ Blanks cs := by
  simp [skipBlanks, Blanks, List.dropWhile_eq_nil_iff]

theorem exists_blanks (cs : List Char) : ∃ before, Blanks before ∧ cs = before ++ skipBlanks cs :=
  ⟨cs.takeWhile isBlank, fun _ h => List.mem_takeWhile_imp h, List.takeWhile_append_dropWhile.symm⟩

theorem isBlank_of_skipBlanks (h : skipBlanks cs = c :: rest) : isBlank c = false := by
  have hhead := List.head?_dropWhile_not isBlank cs
  rw [show cs.dropWhile isBlank = c :: rest from h] at hhead
  exact hhead

theorem skipBlanks_eq_cons_iff : skipBlanks cs = c :: rest ↔
    isBlank c = false ∧ ∃ before, Blanks before ∧ cs = before ++ c :: rest := by
  constructor
  · intro h
    obtain ⟨before, hbefore, heq⟩ := exists_blanks cs
    exact ⟨isBlank_of_skipBlanks h, before, hbefore, by rw [← h, ← heq]⟩
  · rintro ⟨hc, before, hbefore, rfl⟩
    rw [skipBlanks_append hbefore, skipBlanks_cons hc]

/-- What stands behind the first character that is no blank stays there. -/
theorem skipBlanks_append_of_eq_cons (h : skipBlanks cs = c :: rest) (more : List Char) :
    skipBlanks (cs ++ more) = c :: (rest ++ more) := by
  obtain ⟨hc, before, hbefore, rfl⟩ := skipBlanks_eq_cons_iff.1 h
  rw [List.append_assoc, skipBlanks_append hbefore, List.cons_append, skipBlanks_cons hc]

theorem afterWord?_eq_some_iff {word : String} : afterWord? word cs = some rest ↔ cs = word.toList ++ rest := by
  unfold afterWord?
  rw [← String.length_toList]
  constructor
  · intro h
    split at h
    · rename_i hprefix
      obtain ⟨after, rfl⟩ := hprefix
      simpa using h
    · cases h
  · rintro rfl
    simp

theorem afterWord?_eq_none_iff {word : String} : afterWord? word cs = none ↔ ¬word.toList <+: cs := by
  simp [afterWord?]

def trimmed (cs : List Char) : List Char := (skipBlanks cs).rdropWhile isBlank

theorem rdropWhile_append_blanks (h : Blanks rest) (cs : List Char) :
    (cs ++ rest).rdropWhile isBlank = cs.rdropWhile isBlank := by
  have hreverse : ∀ c ∈ rest.reverse, isBlank c = true := fun c hc => h c (List.mem_reverse.1 hc)
  rw [List.rdropWhile, List.reverse_append, List.dropWhile_append_of_pos hreverse, List.rdropWhile]

/-- A text that ends in no blank is what is left when only blanks follow it. -/
theorem trimmed_eq_iff {word : List Char} (hword : word.rdropWhile isBlank = word) :
    trimmed cs = word ↔ ∃ rest, skipBlanks cs = word ++ rest ∧ Blanks rest := by
  unfold trimmed
  constructor
  · intro h
    refine ⟨(skipBlanks cs).rtakeWhile isBlank, ?_, fun c hc => List.mem_rtakeWhile_imp hc⟩
    rw [← h]
    exact (List.rdropWhile_append_rtakeWhile ..).symm
  · rintro ⟨rest, hskip, hrest⟩
    rw [hskip, rdropWhile_append_blanks hrest, hword]

end CollectionMarker.Json

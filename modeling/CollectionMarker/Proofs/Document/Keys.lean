import CollectionMarker.Proofs.Document.Array

/-! What the rule for keys decides. Both rules accept the same documents and read the same collections from them,
and both give the same refusals but for one: of a document that is malformed under the strict rule because of a
key that is no text, the lenient rule names what stands in the place of the key. -/

namespace CollectionMarker.Document

open Json

variable {α β : Type} {strict lenient : Except Refusal α}

/-- The same answer, or a malformed document that the lenient rule has more to say about. -/
def Alike (strict lenient : Except Refusal α) : Prop :=
  strict = lenient ∨ strict = .error .malformed ∧ ∃ found, lenient = .error (.mismatch found .identifier)

theorem Alike.refl (answer : Except Refusal α) : Alike answer answer := .inl rfl

theorem Alike.eq_ok {a : α} (h : Alike (.ok a) lenient) : lenient = .ok a := by
  rcases h with rfl | ⟨hstrict, -⟩
  · rfl
  · cases hstrict

theorem Alike.bind (h : Alike strict lenient) (next : α → Except Refusal β) :
    Alike (strict >>= next) (lenient >>= next) := by
  rcases h with rfl | ⟨rfl, found, rfl⟩
  · exact .refl _
  · exact .inr ⟨rfl, found, rfl⟩

theorem Alike.map (h : Alike strict lenient) (f : α → β) : Alike (strict.map f) (lenient.map f) := by
  rcases h with rfl | ⟨rfl, found, rfl⟩
  · exact .refl _
  · exact .inr ⟨rfl, found, rfl⟩

theorem alike_expectKey (cs : List Char) : Alike (expectKey .strict cs) (expectKey .lenient cs) := by
  cases hstrict : expectKey .strict cs with
  | ok rest => exact .inl (expectKey_eq_ok_iff.2 (expectKey_eq_ok_iff.1 hstrict)).symm
  | error r =>
    obtain rfl : r = .malformed := eq_malformed_of_expect hstrict
    cases hlenient : expectKey .lenient cs with
    | ok rest =>
      have hkey : expectKey .strict cs = .ok rest := expectKey_eq_ok_iff.2 (expectKey_eq_ok_iff.1 hlenient)
      cases hstrict.symm.trans hkey
    | error r' =>
      rcases expectStart_refusal hlenient with rfl | ⟨found, rfl⟩
      · exact .refl _
      · exact .inr ⟨rfl, found, rfl⟩

theorem alike_readOne (cs : List Char) : Alike (readOne .strict cs) (readOne .lenient cs) := by
  unfold readOne
  split
  · exact .refl _
  · exact (alike_expectKey _).bind _
  · exact .refl _

theorem alike_one (doc : String) : Alike (one doc .strict) (one doc .lenient) :=
  (alike_readOne _).bind finish

theorem alike_option (doc : String) : Alike (option doc .strict) (option doc .lenient) := by
  unfold option
  split
  · exact .refl _
  · exact (alike_one doc).map some

theorem alike_readElements (cs : List Char) : Alike (readElements .strict cs) (readElements .lenient cs) := by
  -- an element that is read under the strict rule is read in the same way under the other, so the first
  -- difference is at the element where the strict rule fails
  induction cs using readElements.induct .strict with
  | case1 cs r hread =>
    have hfirst := alike_readOne cs
    rw [hread] at hfirst
    rw [readElements_refused hread]
    rcases hfirst with hlenient | ⟨hmalformed, found, hlenient⟩
    · exact .inl (readElements_refused hlenient.symm).symm
    · cases hmalformed
      exact .inr ⟨rfl, found, readElements_refused hlenient⟩
  | case2 cs c rest hread after hskip ih =>
    have hlenient := (hread ▸ alike_readOne cs).eq_ok
    rw [readElements_eq_of_comma hread hskip, readElements_eq_of_comma hlenient hskip]
    exact ih.map _
  | case3 cs c rest hread after hskip =>
    have hlenient := (hread ▸ alike_readOne cs).eq_ok
    rw [readElements_eq_ok_of_bracket hread hskip, readElements_eq_ok_of_bracket hlenient hskip]
    exact .refl _
  | case4 cs c rest hread hcomma hbracket =>
    have hlenient := (hread ▸ alike_readOne cs).eq_ok
    simp only [readElements_of_readOne hread, readElements_of_readOne hlenient]
    exact .refl _

theorem alike_readArray (cs : List Char) : Alike (readArray .strict cs) (readArray .lenient cs) := by
  unfold readArray
  split
  · exact .refl _
  · exact alike_readElements cs

theorem alike_list (text : String) : Alike (list text .strict) (list text .lenient) := by
  unfold list
  cases expectStart .sequence text.toList with
  | error r => exact .refl _
  | ok rest => exact (alike_readArray rest).bind finish

example : one "\x7b 1:null\x7d" .strict = .error .malformed ∧
    one "\x7b 1:null\x7d" .lenient = .error (.mismatch (.number (.whole 1)) .identifier) := by
  decide +kernel

end CollectionMarker.Document

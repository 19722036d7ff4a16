import CollectionMarker.Proofs.Document.Grammar

/-! Documents that are one text, and the name that it denotes. However a name is spelled, its document gives the
answer that the name itself gives, and a name that no collection has is refused before anything behind it is
looked at. -/

namespace CollectionMarker

theorem Refusal.choices_eq : Refusal.choices = "`stack`, `queue`, `priority_queue`, `prefix_queue`" := by
  decide +kernel

theorem Refusal.message?_unknownName (name : String) :
    (Refusal.unknownName name).message? = some ("unknown variant `" ++ name ++
      "`, expected one of `stack`, `queue`, `priority_queue`, `prefix_queue`") := by
  rw [message?, choices_eq]
  simp [← String.toList_inj]

theorem Collection.ofName_eq_error_iff {name : String} {r : Refusal} :
    Collection.ofName name = .error r ↔ (∀ c : Collection, c.name ≠ name) ∧ r = .unknownName name := by
  unfold Collection.ofName
  constructor
  · intro h
    split at h
    · cases h
    · rename_i hnone
      cases h
      refine ⟨?_, rfl⟩
      rintro c rfl
      simp at hnone
  · rintro ⟨hname, rfl⟩
    split
    · rename_i c hc
      exact absurd (name_of_ofName? hc) (hname c)
    · rfl

namespace Document

open Json

variable {name : String} {before spelled after : List Char}

theorem finish_eq_malformed {α : Type} (h : ¬Blanks after) (a : α) : finish (a, after) = .error .malformed := by
  rw [finish, if_neg (fun hskip => h (skipBlanks_eq_nil_iff.1 hskip))]

theorem one_literal {doc : String} (hbefore : Blanks before) (hliteral : Literal name.toList spelled)
    (hdoc : doc.toList = before ++ spelled ++ after) (rule : KeyRule) :
    one doc rule = Collection.ofName name >>= fun c => finish (c, after) := by
  rw [one, hdoc, readOne_text hbefore hliteral, String.ofList_toList]
  cases Collection.ofName name <;> rfl

/-- A document that denotes a name gives the answer of that name, with its message if no collection has it. What
is not blank behind it makes a difference only if one has it, and then the document is malformed. -/
theorem one_literal_answers_as_name (doc name : String) (before spelled after : List Char) (rule : KeyRule)
    (hbefore : Blanks before) (hliteral : Literal name.toList spelled)
    (hdoc : doc.toList = before ++ spelled ++ after) :
    (Blanks after → one doc rule = Collection.ofName name) ∧
    (¬Blanks after → (one doc rule = .error .malformed ↔ ∃ c : Collection, c.name = name) ∧
      ((∀ c : Collection, c.name ≠ name) → one doc rule = Collection.ofName name)) ∧
    (∀ c, Collection.ofName name = .ok c ↔ c.name = name) ∧
    ((∀ c : Collection, c.name ≠ name) → ∃ r, Collection.ofName name = .error r ∧ r.message? =
      some ("unknown variant `" ++ name ++
        "`, expected one of `stack`, `queue`, `priority_queue`, `prefix_queue`")) := by
  have hone := one_literal hbefore hliteral hdoc rule
  have hunknown : (∀ c : Collection, c.name ≠ name) → Collection.ofName name = .error (.unknownName name) :=
    fun hname => Collection.ofName_eq_error_iff.2 ⟨hname, rfl⟩
  refine ⟨?_, ?_, fun c => Collection.ofName_eq_ok_iff, ?_⟩
  · intro hafter
    rw [hone]
    cases Collection.ofName name with
    | error r => rfl
    | ok c => exact finish_eq_ok_iff.2 ⟨rfl, hafter⟩
  · intro hafter
    constructor
    · constructor
      · intro hmalformed
        by_cases hname : ∃ c : Collection, c.name = name
        · exact hname
        · rw [hone, hunknown (not_exists.1 hname)] at hmalformed
          cases hmalformed
      · rintro ⟨c, hname⟩
        rw [hone, Collection.ofName_eq_ok_iff.2 hname]
        exact finish_eq_malformed hafter c
    · intro hname
      rw [hone, hunknown hname]
      rfl
  · intro hname
    exact ⟨_, hunknown hname, Refusal.message?_unknownName name⟩

/-- A name with escapes and a name with two halves, each once alone and once with something behind it. -/
theorem escaped_names_answer :
    Literal "stack".toList "\"\\u0073tac\\u006B\"".toList ∧
    Literal "q😀/".toList "\"q\\uD83D\\ude00\\/\"".toList ∧
    one " \"\\u0073tac\\u006B\"\n" = .ok .stack ∧ one "\"\\u0073tac\\u006B\", 1" = .error .malformed ∧
    one "\"q\\uD83D\\ude00\\/\"" = .error (.unknownName "q😀/") ∧
    one "\"q\\uD83D\\ude00\\/\" ]" = .error (.unknownName "q😀/") := by
  have hstack : Literal "stack".toList "\"\\u0073tac\\u006B\"".toList := by decide +kernel
  have hface : Literal "q😀/".toList "\"q\\uD83D\\ude00\\/\"".toList := by decide +kernel
  have hnone : ∀ c : Collection, c.name ≠ "q😀/" := by
    intro c
    cases c <;> decide
  have hunknown : Collection.ofName "q😀/" = .error (.unknownName "q😀/") :=
    Collection.ofName_eq_error_iff.2 ⟨hnone, rfl⟩
  refine ⟨hstack, hface, ?_, ?_, ?_, ?_⟩
  · rw [← (Collection.ofName_eq_ok_iff (c := .stack)).2 rfl]
    exact (one_literal_answers_as_name _ "stack" [' '] _ ['\n'] .strict (by decide) hstack (by decide +kernel)).1
      (by decide)
  · exact ((one_literal_answers_as_name _ "stack" [] _ ", 1".toList .strict (by decide) hstack (by decide +kernel)).2.1
      (by decide)).1.2 ⟨.stack, rfl⟩
  · rw [← hunknown]
    exact (one_literal_answers_as_name _ "q😀/" [] _ [] .strict (by decide) hface (by decide +kernel)).1 (by decide)
  · rw [← hunknown]
    exact ((one_literal_answers_as_name _ "q😀/" [] _ " ]".toList .strict (by decide) hface (by decide +kernel)).2.1
      (by decide)).2 hnone

end Document
end CollectionMarker

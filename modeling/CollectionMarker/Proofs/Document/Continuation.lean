import CollectionMarker.Proofs.Document.Grammar
import CollectionMarker.Proofs.Json.Number
import Mathlib.Data.List.Infix

/-! Reading with more behind. A collection that was read stays the same when more text follows, and so does the
refusal of what stands in its place: nothing behind the first problem is looked at. Only where a text was no
document yet can what follows make a difference. -/

namespace CollectionMarker.Document

open Json

variable {cs rest : List Char} {c : Collection} {r : Refusal} {x y : Char} {wanted : Wanted} {rule : KeyRule}

/-! ## Values -/

theorem found?_null (rest : List Char) : found? ("null".toList ++ rest) = some .null := by
  simp [found?, afterWord?]

theorem found?_true (rest : List Char) : found? ("true".toList ++ rest) = some (.boolean true) := by
  simp [found?, afterWord?]

theorem found?_false (rest : List Char) : found? ("false".toList ++ rest) = some (.boolean false) := by
  simp [found?, afterWord?]

theorem found?_word_append {word : String} {found : Found}
    (hfound : ∀ rest, found? (word.toList ++ rest) = some found) (h : (afterWord? word cs).isSome = true)
    (more : List Char) : found? (cs ++ more) = some found := by
  obtain ⟨rest, hrest⟩ := Option.isSome_iff_exists.1 h
  rw [afterWord?_eq_some_iff.1 hrest, List.append_assoc, hfound]

/-- A value is named as before, if what follows does not go on with a number. -/
theorem found?_append {found : Found} (hx : endsNumber x = true) (h : found? cs = some found)
    (rest : List Char) : found? (cs ++ x :: rest) = some found := by
  unfold found? at h
  split at h
  · obtain ⟨⟨text, after⟩, htext, rfl⟩ := Option.map_eq_some_iff.1 h
    obtain ⟨inside, hinside, rfl⟩ := text?_eq_some_iff.1 htext
    simp [found?, hinside.text?_append]
  · cases h
    rfl
  · cases h
    rfl
  · obtain ⟨number, hnumber, rfl⟩ := Option.map_eq_some_iff.1 h
    simp [found?, Number.read?_append hx hnumber]
  · split at h
    · rename_i hdigit
      obtain ⟨number, hnumber, rfl⟩ := Option.map_eq_some_iff.1 h
      have hread := Number.read?_append hx hnumber rest
      rw [List.cons_append] at hread
      simp [found?, hdigit, hread]
    · split at h
      · rename_i hword
        cases h
        exact found?_word_append found?_null hword _
      · split at h
        · rename_i hword
          cases h
          exact found?_word_append found?_true hword _
        · split at h
          · rename_i hword
            cases h
            exact found?_word_append found?_false hword _
          · cases h
  · cases h

/-- Before the start of a wanted value is complete, it is no value of another kind. -/
theorem found?_of_prefix_start (h : cs <+: wanted.start.toList) : cs = wanted.start.toList ∨ found? cs = none := by
  have hall : ∀ part ∈ wanted.start.toList.inits, part = wanted.start.toList ∨ found? part = none := by
    cases wanted <;> decide
  exact hall cs ((List.mem_inits _ _).2 h)

theorem afterWord?_start_append {found : Found} (hfound : found? cs = some found)
    (h : afterWord? wanted.start cs = none) (more : List Char) : afterWord? wanted.start (cs ++ more) = none := by
  rw [afterWord?_eq_none_iff] at h ⊢
  intro hmore
  rcases List.prefix_or_prefix_of_prefix hmore (List.prefix_append cs more) with hstart | hpart
  · exact h hstart
  · rcases found?_of_prefix_start hpart with rfl | hnone
    · exact h List.prefix_rfl
    · cases hfound.symm.trans hnone

/-! ## Tokens -/

theorem bind_error_iff {ε α β : Type} {a : Except ε α} {f : α → Except ε β} {e : ε} :
    a >>= f = .error e ↔ a = .error e ∨ ∃ b, a = .ok b ∧ f b = .error e := by
  cases a <;> simp [bind, Except.bind]

theorem expect_append (hy : isBlank y = false) (h : expect y cs = .ok rest) (more : List Char) :
    expect y (cs ++ more) = .ok (rest ++ more) := by
  obtain ⟨before, hbefore, rfl⟩ := (expect_eq_ok_iff hy).1 h
  exact (expect_eq_ok_iff hy).2 ⟨before, hbefore, by simp⟩

theorem readName_append (h : readName cs = .ok (c, rest)) (more : List Char) :
    readName (cs ++ more) = .ok (c, rest ++ more) := by
  obtain ⟨inside, hinside, rfl⟩ := readName_eq_ok_iff.1 h
  exact readName_eq_ok_iff.2 ⟨inside, hinside, by simp⟩

theorem readName_refused (h : readName cs = .error r) (hr : r ≠ .malformed) (more : List Char) :
    readName (cs ++ more) = .error r := by
  cases htext : text? cs with
  | none =>
    simp only [readName, htext, Except.error.injEq] at h
    exact absurd h.symm hr
  | some read =>
    obtain ⟨text, after⟩ := read
    obtain ⟨inside, hinside, rfl⟩ := text?_eq_some_iff.1 htext
    rw [readName_inside hinside] at h
    rw [List.append_assoc, List.cons_append, readName_inside hinside]
    cases hname : Collection.ofName (String.ofList text) with
    | ok d => simp [hname, Except.map] at h
    | error r' => simpa [hname, Except.map] using h

theorem expectStart_refused (hx : endsNumber x = true) (h : expectStart wanted cs = .error r) (hr : r ≠ .malformed)
    (rest : List Char) : expectStart wanted (cs ++ x :: rest) = .error r := by
  unfold expectStart at h
  split at h
  · cases h
  · rename_i hstart
    cases h
    cases hfound : found? (skipBlanks cs) with
    | none => simp [refuse, hfound] at hr
    | some found =>
      have hmore := found?_append hx hfound rest
      have hstill := afterWord?_start_append hfound hstart (x :: rest)
      have hskip : skipBlanks (cs ++ x :: rest) = skipBlanks cs ++ x :: rest := by
        cases hcs : skipBlanks cs with
        | nil =>
          rw [hcs] at hfound
          cases hfound
        | cons y after => exact skipBlanks_append_of_eq_cons hcs _
      rw [expectStart, hskip, hstill]
      simp [refuse, hfound, hmore]

theorem expectKey_append (h : expectKey rule cs = .ok rest) (more : List Char) :
    expectKey rule (cs ++ more) = .ok (rest ++ more) := by
  obtain ⟨before, hbefore, rfl⟩ := expectKey_eq_ok_iff.1 h
  exact expectKey_eq_ok_iff.2 ⟨before, hbefore, by simp⟩

theorem expectKey_refused (hx : endsNumber x = true) (h : expectKey rule cs = .error r) (hr : r ≠ .malformed)
    (rest : List Char) : expectKey rule (cs ++ x :: rest) = .error r := by
  cases rule with
  | strict => exact absurd (eq_malformed_of_expect h) hr
  | lenient => exact expectStart_refused hx h hr rest

/-! ## Collections -/

theorem readMember_refused (hx : endsNumber x = true) (h : readMember rule cs = .error r) (hr : r ≠ .malformed)
    (rest : List Char) : readMember rule (cs ++ x :: rest) = .error r := by
  have hcolon : isBlank ':' = false := by decide
  unfold readMember at h ⊢
  simp only [bind_error_iff] at h
  obtain h | ⟨cs₁, h₁, h | ⟨⟨c, cs₂⟩, h₂, h | ⟨cs₃, h₃, h | ⟨cs₄, h₄, h | ⟨cs₅, h₅, h⟩⟩⟩⟩⟩ := h
  · rw [expectKey_refused hx h hr]
    rfl
  · rw [expectKey_append h₁, ok_bind, readName_refused h hr]
    rfl
  · exact absurd (eq_malformed_of_expect h) hr
  · rw [expectKey_append h₁, ok_bind, readName_append h₂, ok_bind]
    dsimp only
    rw [expect_append hcolon h₃, ok_bind, expectStart_refused hx h hr]
    rfl
  · exact absurd (eq_malformed_of_expect h) hr
  · cases h

theorem readOne_append (h : readOne rule cs = .ok (c, rest)) (more : List Char) :
    readOne rule (cs ++ more) = .ok (c, rest ++ more) := by
  obtain ⟨before, core, hbefore, hcore, rfl⟩ := readOne_eq_ok_iff.1 h
  rw [List.append_assoc]
  exact readOne_names hbefore hcore (rest ++ more)

/-- The first problem is final, once a character follows that no number goes on with. -/
theorem readOne_refused (hx : endsNumber x = true) (h : readOne rule cs = .error r) (hr : r ≠ .malformed)
    (rest : List Char) : readOne rule (cs ++ x :: rest) = .error r := by
  unfold readOne at h
  split at h
  · rename_i after hskip
    rw [readOne, skipBlanks_append_of_eq_cons hskip]
    exact readName_refused h hr _
  · rename_i after hskip
    rw [readOne, skipBlanks_append_of_eq_cons hskip]
    exact readMember_refused hx h hr rest
  · cases h
    exact absurd rfl hr

theorem readOne_refused_of_one {doc : String} (h : one doc rule = .error r) (hr : r ≠ .malformed) :
    readOne rule doc.toList = .error r := by
  unfold one at h
  rcases bind_error_iff.1 h with h | ⟨⟨c, rest⟩, -, h⟩
  · exact h
  · simp only [finish] at h
    split at h
    · cases h
    · exact absurd (Except.error.inj h).symm hr

end CollectionMarker.Document

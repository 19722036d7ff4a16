import CollectionMarker.Collection.DocumentArray
import CollectionMarker.Proofs.Json.Lexical
import CollectionMarker.Proofs.Json.Literal

/-! Documents that hold one collection. Its name stands there as a text, however that is written, or as the only
key of an object whose value is null. Blanks may stand between the tokens, before them and behind them, and
nothing else is accepted. -/

namespace CollectionMarker

theorem Collection.ofName_eq_ok_iff {text : String} {c : Collection} :
    Collection.ofName text = .ok c ↔ c.name = text := by
  constructor
  · intro h
    unfold Collection.ofName at h
    split at h
    · rename_i found hfound
      cases h
      exact name_of_ofName? hfound
    · cases h
  · rintro rfl
    simp [Collection.ofName]

namespace Document

open Json

variable {cs rest spelled text : List Char} {c : Collection} {x : Char} {rule : KeyRule}

/-- The tokens of a document that holds a collection, with the blanks between them. -/
inductive Names (c : Collection) : List Char → Prop
  | text {spelled : List Char} (literal : Literal c.name.toList spelled) : Names c spelled
  | member {before spelled between behind after : List Char} (blanksBefore : Blanks before)
      (literal : Literal c.name.toList spelled) (blanksBetween : Blanks between) (blanksBehind : Blanks behind)
      (blanksAfter : Blanks after) :
      Names c ('\x7b' :: before ++ spelled ++ between ++ ':' :: behind ++ "null".toList ++ after ++ ['\x7d'])

theorem ok_bind {ε α β : Type} (a : α) (f : α → Except ε β) : (Except.ok a >>= f) = f a := rfl

/-! ## Tokens -/

theorem expect_eq_ok_iff (hx : isBlank x = false) :
    expect x cs = .ok rest ↔ ∃ before, Blanks before ∧ cs = before ++ x :: rest := by
  unfold expect
  constructor
  · intro h
    split at h
    · rename_i first after hskip
      split at h
      · rename_i hfirst
        cases h
        rw [hfirst] at hskip
        exact (skipBlanks_eq_cons_iff.1 hskip).2
      · cases h
    · cases h
  · intro h
    rw [skipBlanks_eq_cons_iff.2 ⟨hx, h⟩]
    simp

theorem eq_malformed_of_expect {r : Refusal} (h : expect x cs = .error r) : r = .malformed := by
  unfold expect at h
  split at h
  · split at h
    · cases h
    · cases h
      rfl
  · cases h
    rfl

theorem expectStart_refusal {wanted : Wanted} {r : Refusal} (h : expectStart wanted cs = .error r) :
    r = .malformed ∨ ∃ found, r = .mismatch found wanted := by
  unfold expectStart at h
  split at h
  · cases h
  · cases h
    unfold refuse
    split
    · exact .inr ⟨_, rfl⟩
    · exact .inl rfl

theorem skipBlanks_start_append (wanted : Wanted) (rest : List Char) :
    skipBlanks (wanted.start.toList ++ rest) = wanted.start.toList ++ rest := by
  cases wanted <;> exact skipBlanks_cons (by decide) _

theorem expectStart_eq_ok_iff {wanted : Wanted} : expectStart wanted cs = .ok rest ↔
    ∃ before, Blanks before ∧ cs = before ++ wanted.start.toList ++ rest := by
  unfold expectStart
  constructor
  · intro h
    split at h
    · rename_i after hstart
      cases h
      obtain ⟨before, hbefore, heq⟩ := exists_blanks cs
      rw [afterWord?_eq_some_iff.1 hstart] at heq
      exact ⟨before, hbefore, by rw [heq, List.append_assoc]⟩
    · cases h
  · rintro ⟨before, hbefore, rfl⟩
    rw [List.append_assoc, skipBlanks_append hbefore, skipBlanks_start_append, afterWord?_eq_some_iff.2 rfl]

/-- A key that is a text is found under both rules. -/
theorem expectKey_eq_ok_iff :
    expectKey rule cs = .ok rest ↔ ∃ before, Blanks before ∧ cs = before ++ '"' :: rest := by
  cases rule with
  | strict => exact expect_eq_ok_iff (by decide)
  | lenient => simp [expectKey, expectStart_eq_ok_iff]

theorem readName_inside (h : Inside text spelled) (rest : List Char) :
    readName (spelled ++ '"' :: rest) = (Collection.ofName (String.ofList text)).map (·, rest) := by
  simp [readName, h.text?_append]

theorem readName_eq_ok_iff :
    readName cs = .ok (c, rest) ↔ ∃ inside, Inside c.name.toList inside ∧ cs = inside ++ '"' :: rest := by
  constructor
  · intro h
    cases htext : text? cs with
    | none => simp [readName, htext] at h
    | some read =>
      obtain ⟨text, after⟩ := read
      obtain ⟨inside, hinside, rfl⟩ := text?_eq_some_iff.1 htext
      rw [readName_inside hinside] at h
      cases hname : Collection.ofName (String.ofList text) with
      | error r => simp [hname, Except.map] at h
      | ok d =>
        obtain ⟨rfl, rfl⟩ : d = c ∧ after = rest := by simpa [hname, Except.map] using h
        rw [Collection.ofName_eq_ok_iff.1 hname, String.toList_ofList]
        exact ⟨inside, hinside, rfl⟩
  · rintro ⟨inside, hinside, rfl⟩
    rw [readName_inside hinside, String.ofList_toList, Collection.ofName_eq_ok_iff.2 rfl]
    rfl

theorem readOne_text {before : List Char} (hbefore : Blanks before) (hliteral : Literal text spelled)
    (rest : List Char) :
    readOne rule (before ++ spelled ++ rest) = (Collection.ofName (String.ofList text)).map (·, rest) := by
  obtain ⟨inside, hinside, rfl⟩ := hliteral
  have hskip : skipBlanks (before ++ ('"' :: inside ++ ['"']) ++ rest) = '"' :: (inside ++ '"' :: rest) :=
    skipBlanks_eq_cons_iff.2 ⟨by decide, before, hbefore, by simp⟩
  rw [readOne, hskip]
  exact readName_inside hinside rest

/-- After the key of an object only its colon, a null and the closing brace are looked for. -/
theorem readOne_member {before within between : List Char} (hbefore : Blanks before) (hwithin : Blanks within)
    (hliteral : Literal text spelled) (hbetween : Blanks between) (rest : List Char) :
    readOne rule (before ++ '\x7b' :: within ++ spelled ++ between ++ ':' :: rest) =
      (do
        let c ← Collection.ofName (String.ofList text)
        let cs ← expectStart .unit rest
        let cs ← expect '\x7d' cs
        return (c, cs)) := by
  obtain ⟨inside, hinside, rfl⟩ := hliteral
  have hskip : skipBlanks (before ++ '\x7b' :: within ++ ('"' :: inside ++ ['"']) ++ between ++ ':' :: rest) =
      '\x7b' :: (within ++ '"' :: (inside ++ '"' :: (between ++ ':' :: rest))) :=
    skipBlanks_eq_cons_iff.2 ⟨by decide, before, hbefore, by simp⟩
  have hquote : expectKey rule (within ++ '"' :: (inside ++ '"' :: (between ++ ':' :: rest))) =
      .ok (inside ++ '"' :: (between ++ ':' :: rest)) :=
    expectKey_eq_ok_iff.2 ⟨within, hwithin, rfl⟩
  have hcolon : expect ':' (between ++ ':' :: rest) = .ok rest :=
    (expect_eq_ok_iff (by decide)).2 ⟨between, hbetween, rfl⟩
  rw [readOne, hskip]
  simp only [readMember, hquote, ok_bind, readName_inside hinside]
  cases Collection.ofName (String.ofList text) with
  | error r => rfl
  | ok c => simp only [Except.map, ok_bind, hcolon]

/-! ## Documents -/

theorem exists_names_of_readOne (h : readOne rule cs = .ok (c, rest)) :
    ∃ before core, Blanks before ∧ Names c core ∧ cs = before ++ core ++ rest := by
  unfold readOne at h
  split at h
  · rename_i after hskip
    obtain ⟨-, before, hbefore, rfl⟩ := skipBlanks_eq_cons_iff.1 hskip
    obtain ⟨inside, hinside, rfl⟩ := readName_eq_ok_iff.1 h
    exact ⟨before, '"' :: inside ++ ['"'], hbefore, .text ⟨inside, hinside, rfl⟩, by simp⟩
  · rename_i after hskip
    obtain ⟨-, before, hbefore, rfl⟩ := skipBlanks_eq_cons_iff.1 hskip
    simp only [readMember, bind_ok_iff] at h
    obtain ⟨cs₁, h₁, ⟨d, cs₂⟩, h₂, cs₃, h₃, cs₄, h₄, cs₅, h₅, h⟩ := h
    cases h
    obtain ⟨within, hwithin, rfl⟩ := expectKey_eq_ok_iff.1 h₁
    obtain ⟨inside, hinside, rfl⟩ := readName_eq_ok_iff.1 h₂
    obtain ⟨between, hbetween, rfl⟩ := (expect_eq_ok_iff (by decide)).1 h₃
    obtain ⟨behind, hbehind, rfl⟩ := expectStart_eq_ok_iff.1 h₄
    obtain ⟨after, hafter, rfl⟩ := (expect_eq_ok_iff (by decide)).1 h₅
    refine ⟨before, _, hbefore, .member hwithin ⟨inside, hinside, rfl⟩ hbetween hbehind hafter, ?_⟩
    simp
  · cases h

theorem readOne_names {before core : List Char} (hbefore : Blanks before) (hnames : Names c core)
    (rest : List Char) : readOne rule (before ++ core ++ rest) = .ok (c, rest) := by
  cases hnames with
  | text literal =>
    rw [readOne_text hbefore literal, String.ofList_toList, Collection.ofName_eq_ok_iff.2 rfl]
    rfl
  | @member within spelled between behind after hwithin literal hbetween hbehind hafter =>
    have hnull : expectStart .unit (behind ++ "null".toList ++ after ++ '\x7d' :: rest) =
        .ok (after ++ '\x7d' :: rest) :=
      expectStart_eq_ok_iff.2 ⟨behind, hbehind, by simp⟩
    have hbrace : expect '\x7d' (after ++ '\x7d' :: rest) = .ok rest :=
      (expect_eq_ok_iff (by decide)).2 ⟨after, hafter, rfl⟩
    have hsplit : before ++ ('\x7b' :: within ++ spelled ++ between ++ ':' :: behind ++ "null".toList ++ after ++
        ['\x7d']) ++ rest = before ++ '\x7b' :: within ++ spelled ++ between ++
          ':' :: (behind ++ "null".toList ++ after ++ '\x7d' :: rest) := by simp
    rw [hsplit, readOne_member hbefore hwithin literal hbetween, String.ofList_toList,
      Collection.ofName_eq_ok_iff.2 rfl, ok_bind, hnull, ok_bind, hbrace]
    rfl

theorem readOne_eq_ok_iff : readOne rule cs = .ok (c, rest) ↔
    ∃ before core, Blanks before ∧ Names c core ∧ cs = before ++ core ++ rest := by
  constructor
  · exact exists_names_of_readOne
  · rintro ⟨before, core, hbefore, hnames, rfl⟩
    exact readOne_names hbefore hnames rest

theorem finish_eq_ok_iff {α : Type} {a b : α} : finish (a, cs) = .ok b ↔ a = b ∧ Blanks cs := by
  rw [finish, ← skipBlanks_eq_nil_iff]
  split <;> simp_all

theorem one_eq_ok_iff {doc : String} :
    one doc rule = .ok c ↔ ∃ rest, readOne rule doc.toList = .ok (c, rest) ∧ Blanks rest := by
  unfold one
  rw [bind_ok_iff]
  constructor
  · rintro ⟨⟨d, rest⟩, hread, hfinish⟩
    obtain ⟨rfl, hrest⟩ := finish_eq_ok_iff.1 hfinish
    exact ⟨rest, hread, hrest⟩
  · rintro ⟨rest, hread, hrest⟩
    exact ⟨(c, rest), hread, finish_eq_ok_iff.2 ⟨rfl, hrest⟩⟩

end Document
end CollectionMarker

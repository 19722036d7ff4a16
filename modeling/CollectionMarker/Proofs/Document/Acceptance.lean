import CollectionMarker.Proofs.Document.Grammar

/-! Which documents hold a collection: exactly those that the grammar names. So nothing stands behind the value
of an accepted document, and if it is an object it has one member, with the value null. -/

namespace CollectionMarker.Document

open Json

variable {cs core : List Char} {c : Collection} {x : Char} {rule : KeyRule}

/-- The characters that a document with a collection is made of. -/
def isUsed (x : Char) : Bool := isBlank x || isEscaping x || x == '_' || x == '\x7b' || x == ':' || x == '\x7d'

theorem isUsed_of_blanks (h : Blanks cs) (hx : x ∈ cs) : isUsed x = true := by
  simp [isUsed, h x hx]

theorem isUsed_of_literal (h : Literal c.name.toList cs) (hx : x ∈ cs) : isUsed x = true := by
  have hname : c.name.toList.all isUsed = true := by
    cases c <;> decide
  obtain ⟨inside, hinside, rfl⟩ := h
  simp only [List.cons_append, List.mem_cons, List.mem_append, List.not_mem_nil, or_false] at hx
  rcases hx with rfl | hx | rfl
  · decide
  · rcases hinside.mem hx with htext | hescaping
    · exact List.all_eq_true.1 hname x htext
    · simp [isUsed, hescaping]
  · decide

theorem Names.isUsed (h : Names c core) (hx : x ∈ core) : isUsed x = true := by
  cases h with
  | text literal => exact isUsed_of_literal literal hx
  | member blanksBefore literal blanksBetween blanksBehind blanksAfter =>
    simp only [List.cons_append, List.mem_cons, List.mem_append, List.not_mem_nil, or_false] at hx
    rcases hx with rfl | (((((hx | hx) | hx) | rfl | hx) | hx) | hx) | rfl
    · decide
    · exact isUsed_of_blanks blanksBefore hx
    · exact isUsed_of_literal literal hx
    · exact isUsed_of_blanks blanksBetween hx
    · decide
    · exact isUsed_of_blanks blanksBehind hx
    · have hnull : "null".toList.all Document.isUsed = true := by decide
      exact List.all_eq_true.1 hnull x hx
    · exact isUsed_of_blanks blanksAfter hx
    · decide

theorem one_eq_ok_iff_names {doc : String} : one doc rule = .ok c ↔
    ∃ before core after, Blanks before ∧ Names c core ∧ Blanks after ∧ doc.toList = before ++ core ++ after := by
  rw [one_eq_ok_iff]
  constructor
  · rintro ⟨after, hread, hafter⟩
    obtain ⟨before, core, hbefore, hcore, heq⟩ := readOne_eq_ok_iff.1 hread
    exact ⟨before, core, after, hbefore, hcore, hafter, heq⟩
  · rintro ⟨before, core, after, hbefore, hcore, hafter, heq⟩
    exact ⟨after, readOne_eq_ok_iff.2 ⟨before, core, hbefore, hcore, heq⟩, hafter⟩

theorem isUsed_of_one {doc : String} (h : one doc rule = .ok c) (hx : x ∈ doc.toList) : isUsed x = true := by
  obtain ⟨before, core, after, hbefore, hcore, hafter, heq⟩ := one_eq_ok_iff_names.1 h
  rw [heq] at hx
  simp only [List.mem_append] at hx
  rcases hx with (hx | hx) | hx
  · exact isUsed_of_blanks hbefore hx
  · exact hcore.isUsed hx
  · exact isUsed_of_blanks hafter hx

/-- Behind an accepted document only blanks are accepted. -/
theorem one_append_iff {doc : String} (h : one doc rule = .ok c) (more : String) :
    (∃ d, one (doc ++ more) rule = .ok d) ↔ Blanks more.toList := by
  obtain ⟨after, hread, hafter⟩ := one_eq_ok_iff.1 h
  obtain ⟨before, core, hbefore, hcore, heq⟩ := readOne_eq_ok_iff.1 hread
  have hmore : readOne rule (doc ++ more).toList = .ok (c, after ++ more.toList) := by
    rw [String.toList_append, heq, List.append_assoc]
    exact readOne_names hbefore hcore _
  simp only [one_eq_ok_iff, hmore, Except.ok.injEq, Prod.mk.injEq]
  constructor
  · rintro ⟨d, rest, ⟨rfl, rfl⟩, hrest⟩
    exact fun x hx => hrest x (List.mem_append_right _ hx)
  · intro hblanks
    refine ⟨c, after ++ more.toList, ⟨rfl, rfl⟩, ?_⟩
    exact List.forall_mem_append.2 ⟨hafter, hblanks⟩

/-- Of an object with one key, the rest decides. -/
theorem one_member_iff {doc : String} {before within text spelled between rest : List Char}
    (hbefore : Blanks before) (hwithin : Blanks within) (hliteral : Literal text spelled)
    (hbetween : Blanks between)
    (hdoc : doc.toList = before ++ '\x7b' :: within ++ spelled ++ between ++ ':' :: rest) :
    one doc rule = .ok c ↔ text = c.name.toList ∧ ∃ behind within' after, Blanks behind ∧ Blanks within' ∧
      Blanks after ∧ rest = behind ++ "null".toList ++ within' ++ '\x7d' :: after := by
  have hbrace : isBlank '\x7d' = false := by decide
  rw [one_eq_ok_iff, hdoc, readOne_member hbefore hwithin hliteral hbetween]
  simp only [bind_ok_iff, Collection.ofName_eq_ok_iff, expectStart_eq_ok_iff, expect_eq_ok_iff hbrace]
  constructor
  · rintro ⟨after, ⟨d, hname, _, ⟨behind, hbehind, rfl⟩, _, ⟨within', hwithin', rfl⟩, heq⟩, hafter⟩
    cases heq
    refine ⟨?_, behind, within', after, hbehind, hwithin', hafter, ?_⟩
    · rw [hname, String.toList_ofList]
    · simp
  · rintro ⟨rfl, behind, within', after, hbehind, hwithin', hafter, rfl⟩
    refine ⟨after, ⟨c, ?_, _, ⟨behind, hbehind, ?_⟩, _, ⟨within', hwithin', rfl⟩, rfl⟩, hafter⟩
    · rw [String.ofList_toList]
    · simp

/-- A document holds a collection if and only if it is the name of it, however spelled, or an object with that
name as its key and null as its value, with blanks at most. In particular no comma and no byte order mark occurs
in it, nothing but blanks may follow it, and what follows the key of an object is a null and the brace. -/
theorem one_accepts_exactly_names (doc : String) (c : Collection) (rule : KeyRule) :
    (one doc rule = .ok c ↔ ∃ before core after, Blanks before ∧ Names c core ∧ Blanks after ∧
      doc.toList = before ++ core ++ after) ∧
    (∀ spelled, Literal c.name.toList spelled → one (String.ofList spelled) rule = .ok c) ∧
    (one doc rule = .ok c → ',' ∉ doc.toList ∧ '\ufeff' ∉ doc.toList) ∧
    (one doc rule = .ok c → ∀ more, (∃ d, one (doc ++ more) rule = .ok d) ↔ Blanks more.toList) ∧
    (∀ before within text spelled between rest, Blanks before → Blanks within → Literal text spelled →
      Blanks between → doc.toList = before ++ '\x7b' :: within ++ spelled ++ between ++ ':' :: rest →
      (one doc rule = .ok c ↔ text = c.name.toList ∧ ∃ behind within' after, Blanks behind ∧ Blanks within' ∧
        Blanks after ∧ rest = behind ++ "null".toList ++ within' ++ '\x7d' :: after)) := by
  refine ⟨one_eq_ok_iff_names, ?_, ?_, one_append_iff, ?_⟩
  · intro spelled hspelled
    refine one_eq_ok_iff_names.2 ⟨[], spelled, [], blanks_nil, .text hspelled, blanks_nil, ?_⟩
    simp
  · intro h
    constructor
    · intro hcomma
      exact absurd (isUsed_of_one h hcomma) (by decide)
    · intro hmark
      exact absurd (isUsed_of_one h hmark) (by decide)
  · intro before within text spelled between rest hbefore hwithin hliteral hbetween hdoc
    exact one_member_iff hbefore hwithin hliteral hbetween hdoc

example : one " \x7b\t\"pre\\u0066ix_queue\" : null \x7d\n" = .ok .prefixQueue ∧
    one "\x7b\"stack\": null,\x7d" = .error .malformed := by
  decide +kernel

end CollectionMarker.Document

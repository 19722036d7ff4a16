import CollectionMarker.Proofs.Document.Acceptance
import CollectionMarker.Proofs.Document.Continuation
import Mathlib.Data.List.Forall2

/-! Arrays in documents. What stands between the brackets is cut at the commas between the elements, each of
which is a document with one collection, and at no comma inside of them. The first element that is refused
refuses the array, whatever follows it. -/

namespace CollectionMarker.Document

open Json

variable {cs rest after : List Char} {c : Collection} {vs : List Collection} {r : Refusal} {x : Char}
variable {item last : String} {items : List String} {rule : KeyRule}

/-- Each text, read alone, holds the collection in its place. -/
abbrev ReadsAll (rule : KeyRule) (items : List String) (vs : List Collection) : Prop :=
  List.Forall₂ (fun item c => one item rule = .ok c) items vs

/-- What stands between the brackets of an array. -/
inductive Elements (rule : KeyRule) : String → List Collection → Prop
  | empty {inner : String} (blanks : Blanks inner.toList) : Elements rule inner []
  | items {items : List String} {vs : List Collection} (nonempty : items ≠ []) (reads : ReadsAll rule items vs) :
      Elements rule (",".intercalate items) vs

/-! ## One element -/

/-- Reading stops in front of the first character that neither belongs to the element nor is blank. -/
theorem readOne_item (h : one item rule = .ok c) (hx : isBlank x = false) (after : List Char) :
    ∃ rest, readOne rule (item.toList ++ x :: after) = .ok (c, rest) ∧ skipBlanks rest = x :: after := by
  obtain ⟨rest, hread, hblanks⟩ := one_eq_ok_iff.1 h
  refine ⟨rest ++ x :: after, readOne_append hread _, ?_⟩
  rw [skipBlanks_append hblanks, skipBlanks_cons hx]

theorem exists_item (h : readOne rule cs = .ok (c, rest)) (hskip : skipBlanks rest = x :: after) :
    ∃ item : String, one item rule = .ok c ∧ cs = item.toList ++ x :: after := by
  obtain ⟨before, core, hbefore, hcore, rfl⟩ := readOne_eq_ok_iff.1 h
  obtain ⟨-, blanks, hblanks, rfl⟩ := skipBlanks_eq_cons_iff.1 hskip
  refine ⟨String.ofList (before ++ core ++ blanks), ?_, ?_⟩
  · refine one_eq_ok_iff_names.2 ⟨before, core, blanks, hbefore, hcore, hblanks, ?_⟩
    rw [String.toList_ofList]
  · simp

/-- Behind an element that was read, its first character that is no blank decides. -/
theorem readElements_of_readOne (h : readOne rule cs = .ok (c, rest)) :
    readElements rule cs = match skipBlanks rest with
      | ',' :: after => (readElements rule after).map fun (others, last) => (c :: others, last)
      | ']' :: after => .ok ([c], after)
      | _ => .error .malformed := by
  rw [readElements]
  split
  · simp_all
  · rename_i d rest' hread
    obtain ⟨rfl, rfl⟩ : d = c ∧ rest' = rest := by simpa [h, eq_comm] using hread
    split
    · rename_i after hskip
      simp only [hskip]
      cases readElements rule after <;> rfl
    · rename_i hskip
      simp only [hskip]
    · split <;> simp_all

theorem readElements_eq_of_comma (h : readOne rule cs = .ok (c, rest)) (hskip : skipBlanks rest = ',' :: after) :
    readElements rule cs = (readElements rule after).map fun (others, last) => (c :: others, last) := by
  simp only [readElements_of_readOne h, hskip]

theorem readElements_eq_ok_of_bracket (h : readOne rule cs = .ok (c, rest))
    (hskip : skipBlanks rest = ']' :: after) : readElements rule cs = .ok ([c], after) := by
  simp only [readElements_of_readOne h, hskip]

theorem readElements_refused (h : readOne rule cs = .error r) : readElements rule cs = .error r := by
  rw [readElements]
  split <;> simp_all

/-! ## All elements -/

theorem exists_items_of_readElements (h : readElements rule cs = .ok (vs, rest)) :
    ∃ items ≠ [], ReadsAll rule items vs ∧ cs = (",".intercalate items).toList ++ ']' :: rest := by
  fun_induction readElements rule cs generalizing vs with
  | case1 cs r hread => cases h
  | case2 cs c after hread behind hskip ih =>
    cases hothers : readElements rule behind with
    | error r =>
      rw [hothers] at h
      cases h
    | ok read =>
      obtain ⟨others, last⟩ := read
      rw [hothers] at h
      obtain ⟨rfl, rfl⟩ : c :: others = vs ∧ last = rest := by simpa [bind, Except.bind, pure, Except.pure] using h
      obtain ⟨items, hne, hitems, rfl⟩ := ih hothers
      obtain ⟨item, hitem, rfl⟩ := exists_item hread hskip
      refine ⟨item :: items, List.cons_ne_nil _ _, .cons hitem hitems, ?_⟩
      rw [String.intercalate_cons_of_ne_nil hne]
      simp
  | case3 cs c after hread behind hskip =>
    obtain ⟨rfl, rfl⟩ : [c] = vs ∧ behind = rest := by simpa using h
    obtain ⟨item, hitem, rfl⟩ := exists_item hread hskip
    refine ⟨[item], List.cons_ne_nil _ _, .cons hitem .nil, ?_⟩
    rw [String.intercalate_singleton]
  | case4 => cases h

theorem readElements_cons (h : one item rule = .ok c) (hne : items ≠ []) (more : List Char) :
    readElements rule ((",".intercalate (item :: items)).toList ++ more) =
      (readElements rule ((",".intercalate items).toList ++ more)).map
        fun (others, last) => (c :: others, last) := by
  obtain ⟨behind, hread, hskip⟩ := readOne_item h (x := ',') (by decide) ((",".intercalate items).toList ++ more)
  rw [← readElements_eq_of_comma hread hskip, String.intercalate_cons_of_ne_nil hne]
  simp

theorem readElements_items (h : ReadsAll rule items vs) (hne : items ≠ []) (rest : List Char) :
    readElements rule ((",".intercalate items).toList ++ ']' :: rest) = .ok (vs, rest) := by
  induction h with
  | nil => exact absurd rfl hne
  | @cons item c items vs hitem hitems ih =>
    cases hitems with
    | nil =>
      obtain ⟨behind, hread, hskip⟩ := readOne_item hitem (x := ']') (by decide) rest
      rw [String.intercalate_singleton]
      exact readElements_eq_ok_of_bracket hread hskip
    | cons =>
      rw [readElements_cons hitem (List.cons_ne_nil _ _), ih (List.cons_ne_nil _ _)]
      rfl

theorem readElements_eq_ok_iff : readElements rule cs = .ok (vs, rest) ↔
    ∃ items ≠ [], ReadsAll rule items vs ∧ cs = (",".intercalate items).toList ++ ']' :: rest := by
  constructor
  · exact exists_items_of_readElements
  · rintro ⟨items, hne, hitems, rfl⟩
    exact readElements_items hitems hne rest

/-- An element ends where reading it stops, so no text is cut in two ways. -/
theorem item_unique {item' : String} {c' : Collection} {x' : Char} {after' : List Char} (h : one item rule = .ok c)
    (h' : one item' rule = .ok c') (hx : isBlank x = false) (hx' : isBlank x' = false)
    (heq : item.toList ++ x :: after = item'.toList ++ x' :: after') :
    item = item' ∧ x = x' ∧ after = after' := by
  obtain ⟨rest, hread, hskip⟩ := readOne_item h hx after
  obtain ⟨rest', hread', hskip'⟩ := readOne_item h' hx' after'
  obtain ⟨rfl, rfl⟩ : c = c' ∧ rest = rest' := by simpa [heq, hread'] using hread.symm
  obtain ⟨rfl, rfl⟩ : x = x' ∧ after = after' := by simpa [hskip] using hskip'
  exact ⟨String.toList_inj.1 (List.append_cancel_right heq), rfl, rfl⟩

theorem exists_behind_item (item : String) (items : List String) (rest : List Char) :
    ∃ x after, (",".intercalate (item :: items)).toList ++ ']' :: rest = item.toList ++ x :: after ∧
      isBlank x = false ∧ (items = [] ∧ x = ']' ∨
        items ≠ [] ∧ x = ',' ∧ after = (",".intercalate items).toList ++ ']' :: rest) := by
  cases items with
  | nil => exact ⟨']', rest, by simp, by decide, .inl ⟨rfl, rfl⟩⟩
  | cons next items => exact ⟨',', _, by simp, by decide, .inr ⟨List.cons_ne_nil _ _, rfl, rfl⟩⟩

theorem items_unique (rest : List Char) {items' : List String} {vs' : List Collection}
    (h : ReadsAll rule items vs) (h' : ReadsAll rule items' vs') (hne : items ≠ []) (hne' : items' ≠ [])
    (heq : (",".intercalate items).toList ++ ']' :: rest = (",".intercalate items').toList ++ ']' :: rest) :
    items = items' := by
  induction h generalizing items' vs' with
  | nil => exact absurd rfl hne
  | @cons item c items vs hitem hitems ih =>
    cases h' with
    | nil => exact absurd rfl hne'
    | @cons item' c' items' vs' hitem' hitems' =>
      obtain ⟨x, after, hsplit, hx, hend⟩ := exists_behind_item item items rest
      obtain ⟨x', after', hsplit', hx', hend'⟩ := exists_behind_item item' items' rest
      rw [hsplit, hsplit'] at heq
      obtain ⟨rfl, rfl, rfl⟩ := item_unique hitem hitem' hx hx' heq
      rcases hend with ⟨rfl, rfl⟩ | ⟨hmore, rfl, hafter⟩
      · rcases hend' with ⟨rfl, -⟩ | ⟨-, hcomma, -⟩
        · rfl
        · exact absurd hcomma (by decide)
      · rcases hend' with ⟨-, hbracket⟩ | ⟨hmore', -, hafter'⟩
        · exact absurd hbracket (by decide)
        · rw [ih hitems' hmore hmore' (hafter.symm.trans hafter')]

/-- The elements in front are read, and the problem of the last one is met before anything behind it. -/
theorem readElements_items_refused (h : ∀ item ∈ items, ∃ c, one item rule = .ok c)
    (hlast : one last rule = .error r) (hr : r ≠ .malformed) (hx : endsNumber x = true) (more : List Char) :
    readElements rule ((",".intercalate (items ++ [last])).toList ++ x :: more) = .error r := by
  induction items with
  | nil =>
    rw [List.nil_append, String.intercalate_singleton]
    exact readElements_refused (readOne_refused hx (readOne_refused_of_one hlast hr) hr more)
  | cons item items ih =>
    obtain ⟨⟨c, hitem⟩, hitems⟩ := List.forall_mem_cons.1 h
    rw [List.cons_append, readElements_cons hitem (List.append_ne_nil_of_right_ne_nil _ (List.cons_ne_nil _ _)),
      ih hitems]
    rfl

/-! ## Arrays -/

theorem readArray_blanks {inner : List Char} (hinner : Blanks inner) (after : List Char) :
    readArray rule (inner ++ ']' :: after) = .ok ([], after) := by
  have hclose : skipBlanks (inner ++ ']' :: after) = ']' :: after :=
    skipBlanks_eq_cons_iff.2 ⟨by decide, inner, hinner, rfl⟩
  simp only [readArray, hclose]

theorem readArray_eq_readElements (h : readElements rule cs ≠ .error .malformed) :
    readArray rule cs = readElements rule cs := by
  unfold readArray
  split
  · -- no element begins with the bracket that closes the array
    rename_i behind hclose
    have hread : readOne rule cs = .error .malformed := by
      rw [readOne, hclose]
      rfl
    exact absurd (readElements_refused hread) h
  · rfl

theorem readArray_eq_ok_iff : readArray rule cs = .ok (vs, rest) ↔
    ∃ inner : String, Elements rule inner vs ∧ cs = inner.toList ++ ']' :: rest := by
  constructor
  · intro h
    unfold readArray at h
    split at h
    · rename_i after hclose
      cases h
      obtain ⟨-, inner, hinner, rfl⟩ := skipBlanks_eq_cons_iff.1 hclose
      have hinner' : Blanks (String.ofList inner).toList := by rwa [String.toList_ofList]
      exact ⟨_, .empty hinner', by rw [String.toList_ofList]⟩
    · obtain ⟨items, hne, hitems, rfl⟩ := readElements_eq_ok_iff.1 h
      exact ⟨_, .items hne hitems, rfl⟩
  · rintro ⟨inner, hinner, rfl⟩
    cases hinner with
    | empty blanks => exact readArray_blanks blanks rest
    | @items items _ hne hitems =>
      have helements := readElements_items hitems hne rest
      rw [readArray_eq_readElements (by rw [helements]; exact nofun), helements]

theorem list_eq_of_bracket {text : String} {before : List Char} (hbefore : Blanks before)
    (htext : text.toList = before ++ '[' :: cs) : list text rule = readArray rule cs >>= finish := by
  have hopen : expectStart .sequence text.toList = .ok cs :=
    expectStart_eq_ok_iff.2 ⟨before, hbefore, by simp [htext]⟩
  rw [list, hopen, ok_bind]

theorem list_eq_ok_iff {text : String} : list text rule = .ok vs ↔
    ∃ before inner after : String, Blanks before.toList ∧ Elements rule inner vs ∧ Blanks after.toList ∧
      text = before ++ "[" ++ inner ++ "]" ++ after := by
  constructor
  · intro h
    obtain ⟨inside, hopen, h⟩ := bind_ok_iff.1 h
    obtain ⟨⟨vs', after⟩, hread, hfinish⟩ := bind_ok_iff.1 h
    obtain ⟨before, hbefore, htext⟩ := expectStart_eq_ok_iff.1 hopen
    obtain ⟨inner, hinner, rfl⟩ := readArray_eq_ok_iff.1 hread
    obtain ⟨rfl, hafter⟩ := finish_eq_ok_iff.1 hfinish
    have hbefore' : Blanks (String.ofList before).toList := by rwa [String.toList_ofList]
    have hafter' : Blanks (String.ofList after).toList := by rwa [String.toList_ofList]
    refine ⟨_, inner, _, hbefore', hinner, hafter', ?_⟩
    rw [← String.toList_inj, htext]
    simp
  · rintro ⟨before, inner, after, hbefore, hinner, hafter, rfl⟩
    have htext : (before ++ "[" ++ inner ++ "]" ++ after).toList =
        before.toList ++ '[' :: (inner.toList ++ ']' :: after.toList) := by simp
    rw [list_eq_of_bracket hbefore htext, readArray_eq_ok_iff.2 ⟨inner, hinner, rfl⟩]
    exact finish_eq_ok_iff.2 ⟨rfl, hafter⟩

theorem one_write (c : Collection) : one (write c) rule = .ok c := by
  cases c <;> cases rule <;> decide +kernel

theorem elements_write (vs : List Collection) : Elements rule (",".intercalate (vs.map write)) vs := by
  cases vs with
  | nil => exact .empty blanks_nil
  | cons c vs =>
    refine .items (List.cons_ne_nil _ _) ?_
    rw [ReadsAll, List.forall₂_map_left_iff, List.forall₂_same]
    exact fun c _ => one_write c

theorem list_writeList (vs : List Collection) : list (writeList vs) rule = .ok vs :=
  list_eq_ok_iff.2 ⟨"", _, "", blanks_nil, elements_write vs, blanks_nil, by simp [writeList]⟩

theorem list_refused (h : ∀ item ∈ items, ∃ c, one item rule = .ok c) (hlast : one last rule = .error r)
    (hr : r ≠ .malformed) {close : String} (hclose : close = "," ∨ close = "]") (more : String) :
    list ("[" ++ ",".intercalate (items ++ [last]) ++ close ++ more) rule = .error r := by
  obtain ⟨x, hx, hends⟩ : ∃ x, close.toList = [x] ∧ endsNumber x = true := by
    rcases hclose with rfl | rfl
    · exact ⟨',', by simp, by decide⟩
    · exact ⟨']', by simp, by decide⟩
  have hread := readElements_items_refused h hlast hr hends more.toList
  have htext : ("[" ++ ",".intercalate (items ++ [last]) ++ close ++ more).toList =
      [] ++ '[' :: ((",".intercalate (items ++ [last])).toList ++ x :: more.toList) := by simp [hx]
  have hne : readElements rule ((",".intercalate (items ++ [last])).toList ++ x :: more.toList) ≠
      .error .malformed := by
    rw [hread]
    exact fun h => hr (Except.error.inj h)
  rw [list_eq_of_bracket blanks_nil htext, readArray_eq_readElements hne, hread]
  rfl

/-- An array is read element by element, under either rule for keys. It holds the collections that the texts
between its commas hold, each read alone, or none if there are only blanks between the brackets, and so every
array that was written reads back. No text is cut in two ways. The first element with a message, met where a comma
or the closing bracket follows it, refuses the whole document with that message, whatever comes then. -/
theorem list_reads_each_element (rule : KeyRule) :
    (∀ text vs, list text rule = .ok vs ↔ ∃ before inner after : String, Blanks before.toList ∧
      Elements rule inner vs ∧ Blanks after.toList ∧ text = before ++ "[" ++ inner ++ "]" ++ after) ∧
    (∀ vs, list (writeList vs) rule = .ok vs) ∧
    (∀ items items' vs vs', items ≠ [] → items' ≠ [] → ReadsAll rule items vs → ReadsAll rule items' vs' →
      ",".intercalate items = ",".intercalate items' → items = items') ∧
    (∀ items last r m close more, (∀ item ∈ items, ∃ c, one item rule = .ok c) → one last rule = .error r →
      r.message? = some m → (close = "," ∨ close = "]") →
      list ("[" ++ ",".intercalate (items ++ [last]) ++ close ++ more) rule = .error r) := by
  refine ⟨fun _ _ => list_eq_ok_iff, list_writeList, ?_, ?_⟩
  · intro items items' vs vs' hne hne' h h' heq
    exact items_unique [] h h' hne hne' (by rw [heq])
  · intro items last r m close more hitems hlast hmessage hclose
    have hr : r ≠ .malformed := by
      rintro rfl
      cases hmessage
    exact list_refused hitems hlast hr hclose more

example : list "[\"queue\", \x7bnull:1\x7d,?" .lenient = .error (.mismatch .null .identifier) ∧
    (Refusal.mismatch .null .identifier).message? = some "invalid type: null, expected variant identifier" := by
  decide +kernel

end CollectionMarker.Document

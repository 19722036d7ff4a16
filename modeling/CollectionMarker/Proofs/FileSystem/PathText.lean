import CollectionMarker.FileSystem.Path
import Mathlib.Tactic.Common

/-! Path texts put under a directory: the parts of the directory's text come first and the name last,
and what the system accepts with a longer name it accepts with a shorter one. -/

namespace CollectionMarker.Path

structure IsName (text : String) : Prop where
  nulFree : '\x00' ∉ text.toList
  slashless : '/' ∉ text.toList
  proper : Part.ofSegment? text.toList = some (.name text)
  short : ¬nameByteLimit < text.utf8ByteSize

theorem IsName.ne_nil {text : String} (h : IsName text) : text.toList ≠ [] := by
  intro hnil
  have := h.proper
  rw [hnil] at this
  cases this

theorem IsName.steps {text : String} (h : IsName text) : steps text = [.name text] := by
  rw [Path.steps, List.splitOn_eq_singleton h.slashless]
  simp [h.proper]

theorem steps_append_slash (dir rest : String) : steps (dir ++ "/" ++ rest) = steps dir ++ steps rest := by
  simp [steps, List.splitOn_append_cons_self]

theorem steps_of_endsSlash {dir : String} (h : dir.toList.getLast? = some '/') (rest : String) :
    steps (dir ++ rest) = steps dir ++ steps rest := by
  obtain ⟨init, hinit⟩ := List.getLast?_eq_some_iff.1 h
  simp [steps, hinit, List.splitOn_append_cons_self, Part.ofSegment?]

/-- The texts of a directory's names all begin in the same way. -/
theorem join_cases (dir : String) :
    (dir = "" ∧ ∀ name, join dir name = name) ∨
    (dir.toList.getLast? = some '/' ∧ ∀ name, join dir name = dir ++ name) ∨
    (dir ≠ "" ∧ ∀ name, join dir name = dir ++ "/" ++ name) := by
  unfold join
  split
  · rename_i hlast
    have hempty : dir = "" := by simpa using hlast
    exact .inl ⟨hempty, fun name => by simp [hempty]⟩
  · rename_i hlast
    exact .inr (.inl ⟨hlast, fun _ => rfl⟩)
  · rename_i hlast
    refine .inr (.inr ⟨?_, fun _ => rfl⟩)
    rintro rfl
    cases hlast

theorem join_empty (name : String) : join "" name = name := by simp [join]

theorem steps_join (dir name : String) : steps (join dir name) = steps dir ++ steps name := by
  rcases join_cases dir with ⟨rfl, hjoin⟩ | ⟨hslash, hjoin⟩ | ⟨-, hjoin⟩
  · rw [hjoin]
    rfl
  · rw [hjoin, steps_of_endsSlash hslash]
  · rw [hjoin, steps_append_slash]

theorem head?_join {dir : String} (h : dir ≠ "") (name : String) :
    (join dir name).toList.head? = dir.toList.head? := by
  obtain ⟨c, cs, hdir⟩ := List.exists_cons_of_ne_nil (l := dir.toList) (by simpa using h)
  rcases join_cases dir with ⟨rfl, -⟩ | ⟨-, hjoin⟩ | ⟨-, hjoin⟩
  · exact absurd rfl h
  · simp [hjoin, hdir]
  · simp [hjoin, hdir]

theorem getLast?_join {name : String} (h : name.toList ≠ []) (dir : String) :
    (join dir name).toList.getLast? = name.toList.getLast? := by
  obtain ⟨last, hlast⟩ := Option.ne_none_iff_exists'.1 (mt List.getLast?_eq_none_iff.1 h)
  rcases join_cases dir with ⟨-, hjoin⟩ | ⟨-, hjoin⟩ | ⟨-, hjoin⟩
  · rw [hjoin]
  · simp [hjoin, List.getLast?_append, hlast]
  · simp [hjoin, List.getLast?_append, List.getLast?_cons, hlast]

theorem parse_join {name : String} (h : IsName name) (dir : String) :
    parse (join dir name) = ⟨(parse dir).absolute, steps dir ++ [.name name]⟩ := by
  have hopen : endsOpen (join dir name) = false := by
    have hlast : (join dir name).toList.getLast? ≠ some '/' := by
      rw [getLast?_join h.ne_nil]
      exact fun hlast => h.slashless (List.mem_of_getLast? hlast)
    simp [endsOpen, hlast]
  have habsolute : (join dir name).toList.head? = some '/' ↔ dir.toList.head? = some '/' := by
    by_cases hdir : dir = ""
    · subst hdir
      rw [join_empty]
      constructor
      · exact fun hhead => absurd (List.mem_of_mem_head? hhead) h.slashless
      · exact fun hhead => by cases hhead
    · rw [head?_join hdir]
  simp [parse, hopen, steps_join, h.steps, habsolute]

/-! ## Texts that the system takes as paths -/

structure Accepted (text : String) : Prop where
  nulFree : '\x00' ∉ text.toList
  ne_empty : text ≠ ""
  short : text.utf8ByteSize < byteLimit

theorem ofText_of_nul_mem {text : String} (h : '\x00' ∈ text.toList) : ofText text = .error .nulInPath := by
  simp [Path.ofText, Path.checkNul, h, bind, Except.bind]

/-- What becomes of a text: the tests are made in this order. -/
theorem ofText_cases (text : String) :
    ('\x00' ∈ text.toList ∧ ofText text = .error .nulInPath) ∨
    (text = "" ∧ ofText text = .error (.system .noEntry)) ∨
    (byteLimit ≤ text.utf8ByteSize ∧ ofText text = .error (.system .nameTooLong)) ∨
    (Accepted text ∧ ofText text = .ok (parse text)) := by
  by_cases hnul : '\x00' ∈ text.toList
  · exact .inl ⟨hnul, ofText_of_nul_mem hnul⟩
  · by_cases hempty : text = ""
    · exact .inr (.inl ⟨hempty, by simp [Path.ofText, Path.checkNul, hempty, bind, Except.bind]⟩)
    · by_cases hlong : byteLimit ≤ text.utf8ByteSize
      · refine .inr (.inr (.inl ⟨hlong, ?_⟩))
        simp [Path.ofText, Path.checkNul, hnul, hempty, hlong, bind, Except.bind]
      · refine .inr (.inr (.inr ⟨⟨hnul, hempty, Nat.lt_of_not_le hlong⟩, ?_⟩))
        simp [Path.ofText, Path.checkNul, hnul, hempty, hlong, bind, Except.bind]

theorem ofText_eq_ok_iff {text : String} {path : Path} :
    ofText text = .ok path ↔ Accepted text ∧ path = parse text := by
  rcases ofText_cases text with ⟨hnul, h⟩ | ⟨hempty, h⟩ | ⟨hlong, h⟩ | ⟨hacc, h⟩
  · simpa [h] using fun hacc : Accepted text => absurd hnul hacc.nulFree
  · simpa [h] using fun hacc : Accepted text => absurd hempty hacc.ne_empty
  · simpa [h] using fun hacc : Accepted text => absurd hacc.short (Nat.not_lt.2 hlong)
  · simp [h, hacc, eq_comm]

theorem Accepted.ofText {text : String} (h : Accepted text) : ofText text = .ok (parse text) :=
  ofText_eq_ok_iff.2 ⟨h, rfl⟩

theorem Accepted.checkNul {text : String} (h : Accepted text) : checkNul text = .ok () := by
  simp [Path.checkNul, h.nulFree]

theorem nul_mem_join_iff {name : String} (h : IsName name) (dir : String) :
    '\x00' ∈ (join dir name).toList ↔ '\x00' ∈ dir.toList := by
  have hnul := h.nulFree
  rcases join_cases dir with ⟨rfl, hjoin⟩ | ⟨-, hjoin⟩ | ⟨-, hjoin⟩ <;> simp [hjoin, hnul]

theorem accepted_join {dir name : String} (h : Accepted dir) (hname : IsName name)
    (hshort : (join dir name).utf8ByteSize < byteLimit) : Accepted (join dir name) := by
  have hnul := hname.nulFree
  have hfree := h.nulFree
  rcases join_cases dir with ⟨rfl, -⟩ | ⟨-, hjoin⟩ | ⟨-, hjoin⟩
  · exact absurd rfl h.ne_empty
  · exact ⟨by simp [hjoin, hfree, hnul], by simp [hjoin, h.ne_empty], hshort⟩
  · exact ⟨by simp [hjoin, hfree, hnul], by simp [hjoin], hshort⟩

/-- A name that is no longer may stand in the place of another. -/
theorem Accepted.rename {dir name other : String} (h : Accepted (join dir name)) (hother : IsName other)
    (hsize : other.utf8ByteSize ≤ name.utf8ByteSize) : Accepted (join dir other) := by
  obtain ⟨hfree, -, hshort⟩ := h
  have hnul := hother.nulFree
  have hne : other ≠ "" := fun hempty => hother.ne_nil (by rw [hempty]; rfl)
  rcases join_cases dir with ⟨-, hjoin⟩ | ⟨-, hjoin⟩ | ⟨-, hjoin⟩ <;>
    simp only [hjoin, String.toList_append, String.utf8ByteSize_append, List.mem_append, not_or]
      at hfree hshort ⊢
  · exact ⟨hnul, hne, by omega⟩
  · exact ⟨by simp [hfree, hnul], by simp [hne], by simp only [String.utf8ByteSize_append]; omega⟩
  · exact ⟨by simp [hfree, hnul], by simp [hne], by simp only [String.utf8ByteSize_append]; omega⟩

theorem Accepted.dir {dir name : String} (h : Accepted (join dir name)) (hdir : dir ≠ "") :
    Accepted dir := by
  obtain ⟨hfree, -, hshort⟩ := h
  rcases join_cases dir with ⟨rfl, -⟩ | ⟨-, hjoin⟩ | ⟨-, hjoin⟩
  · exact absurd rfl hdir
  · simp only [hjoin, String.toList_append, String.utf8ByteSize_append, List.mem_append, not_or]
      at hfree hshort
    exact ⟨hfree.1, hdir, by omega⟩
  · simp only [hjoin, String.toList_append, String.utf8ByteSize_append, List.mem_append, not_or]
      at hfree hshort
    exact ⟨hfree.1.1, hdir, by omega⟩

/-! ## Texts under which a name stands at the same path -/

structure NeedsSlash (dir : String) : Prop where
  ne_empty : dir ≠ ""
  unclosed : dir.toList.getLast? ≠ some '/'

theorem NeedsSlash.join_eq {dir : String} (h : NeedsSlash dir) (name : String) :
    join dir name = dir ++ "/" ++ name := by
  rcases join_cases dir with ⟨rfl, -⟩ | ⟨hslash, -⟩ | ⟨-, hjoin⟩
  · exact absurd rfl h.ne_empty
  · exact absurd hslash h.unclosed
  · exact hjoin name

theorem join_eq_of_not_needsSlash {dir : String} (h : ¬NeedsSlash dir) (name : String) :
    join dir name = dir ++ name := by
  by_cases hempty : dir = ""
  · rw [hempty, join_empty, String.empty_append]
  · have hslash : dir.toList.getLast? = some '/' := by
      by_contra hlast
      exact h ⟨hempty, hlast⟩
    simp [join, hslash]

theorem join_append (dir name more : String) : join dir (name ++ more) = join dir name ++ more := by
  by_cases h : NeedsSlash dir
  · simp only [h.join_eq, String.append_assoc]
  · simp only [join_eq_of_not_needsSlash h, String.append_assoc]

theorem not_needsSlash_append_slash (dir : String) : ¬NeedsSlash (dir ++ "/") :=
  fun h => h.unclosed (by simp)

theorem NeedsSlash.join_append_slash {dir : String} (h : NeedsSlash dir) (name : String) :
    join (dir ++ "/") name = join dir name := by
  rw [h.join_eq, join_eq_of_not_needsSlash (not_needsSlash_append_slash dir)]

/-- Only the slash that would have been put in may be there already. -/
theorem join_eq_join_iff {d e name : String} : join d name = join e name ↔
    d = e ∨ (NeedsSlash d ∧ e = d ++ "/") ∨ (NeedsSlash e ∧ d = e ++ "/") := by
  constructor
  · intro h
    by_cases hd : NeedsSlash d <;> by_cases he : NeedsSlash e
    · rw [hd.join_eq, he.join_eq, String.append_left_inj, String.append_left_inj] at h
      exact .inl h
    · rw [hd.join_eq, join_eq_of_not_needsSlash he, String.append_left_inj] at h
      exact .inr (.inl ⟨hd, h.symm⟩)
    · rw [join_eq_of_not_needsSlash hd, he.join_eq, String.append_left_inj] at h
      exact .inr (.inr ⟨he, h⟩)
    · rw [join_eq_of_not_needsSlash hd, join_eq_of_not_needsSlash he, String.append_left_inj] at h
      exact .inl h
  · rintro (rfl | ⟨hd, rfl⟩ | ⟨he, rfl⟩)
    · rfl
    · exact (hd.join_append_slash name).symm
    · exact he.join_append_slash name

end CollectionMarker.Path

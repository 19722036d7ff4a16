import CollectionMarker.Text.Hex
import CollectionMarker.Text.Quoted
import Mathlib.Data.List.Basic
import Mathlib.Data.Nat.Notation

/-! Quoted texts in front of others. The form of a character tells which one it is and where it ends, and none
begins like the closing quote. So whatever follows a quoted text, the text can be told from it, and it is all on one
line. -/

namespace CollectionMarker.Text

/-- Where a character that neither text holds stands behind both, they end at the same place. -/
theorem append_cons_inj {a : Char} {xs ys zs ws : List Char} (hx : a ∉ xs) (hy : a ∉ ys)
    (h : xs ++ a :: zs = ys ++ a :: ws) : xs = ys ∧ zs = ws := by
  have hlength : xs.length = ys.length := by
    have hindex := congrArg (List.idxOf a) h
    simpa [List.idxOf_append_of_notMem hx, List.idxOf_append_of_notMem hy] using hindex
  obtain ⟨hxy, hcons⟩ := List.append_inj h hlength
  exact ⟨hxy, (List.cons.inj hcons).2⟩

/-! ## Numbers -/

theorem isAlphanum_of_mem_toDigits {n : ℕ} {x : Char} (h : x ∈ Nat.toDigits 16 n) : x.isAlphanum = true := by
  have hdigit : ∀ v < 16, v.digitChar.isAlphanum = true := by decide
  induction n using Nat.strongRecOn with
  | ind n ih =>
    rcases Nat.lt_or_ge n 16 with hn | hn
    · rw [Nat.toDigits_of_lt_base hn, List.mem_singleton] at h
      rw [h]
      exact hdigit n hn
    · rw [Nat.toDigits_of_base_le (by decide) hn, List.mem_append, List.mem_singleton] at h
      rcases h with h | rfl
      · exact ih (n / 16) (by omega) h
      · exact hdigit (n % 16) (by omega)

def digitsValue (cs : List Char) : ℕ := cs.foldl (fun n c => 16 * n + (Hex.value? c).getD 0) 0

theorem digitsValue_toDigits (n : ℕ) : digitsValue (Nat.toDigits 16 n) = n := by
  have hdigit : ∀ v < 16, Hex.value? v.digitChar = some v := by decide
  induction n using Nat.strongRecOn with
  | ind n ih =>
    rcases Nat.lt_or_ge n 16 with hn | hn
    · rw [Nat.toDigits_of_lt_base hn]
      simp [digitsValue, hdigit n hn]
    · have hfront := ih (n / 16) (by omega)
      unfold digitsValue at hfront ⊢
      rw [Nat.toDigits_of_base_le (by decide) hn, List.foldl_append, hfront]
      simp only [List.foldl_cons, List.foldl_nil, hdigit (n % 16) (by omega), Option.getD_some]
      omega

theorem toDigits_inj {m n : ℕ} (h : Nat.toDigits 16 m = Nat.toDigits 16 n) : m = n := by
  rw [← digitsValue_toDigits m, h, digitsValue_toDigits]

/-! ## Characters -/

/-- The characters that would end the line, or shift or cut what stands on it. -/
def lineBreaks : List Char := ['\n', '\t', '\r', '\x00']

def letters : List (Char × Char) :=
  [('"', '"'), ('\\', '\\'), ('\n', 'n'), ('\t', 't'), ('\r', 'r'), ('\x00', '0')]

/-- The forms of a character between quotes. -/
inductive Form : Char → List Char → Prop
  | letter {c l : Char} (mem : (c, l) ∈ letters) : Form c ['\\', l]
  | plain {c : Char} (quote : c ≠ '"') (backslash : c ≠ '\\') (line : c ∉ lineBreaks) : Form c [c]
  | number (c : Char) : Form c (numbered c)

theorem form_escaped (c : Char) : Form c (escaped c) := by
  unfold escaped
  split_ifs with hquote hnewline htab hreturn hnul
  · rcases hquote with rfl | rfl <;> exact .letter (by decide)
  · exact hnewline ▸ .letter (by decide)
  · exact htab ▸ .letter (by decide)
  · exact hreturn ▸ .letter (by decide)
  · exact hnul ▸ .letter (by decide)
  · exact .plain (fun h => hquote (.inl h)) (fun h => hquote (.inr h)) (by simp [lineBreaks, *])
  · exact .number c

variable {c d x : Char} {xs ys : List Char}

theorem numbered_append_inj (h : numbered c ++ xs = numbered d ++ ys) : c = d ∧ xs = ys := by
  have hbrace (e : Char) : '\x7d' ∉ Nat.toDigits 16 e.toNat := fun hmem =>
    absurd (isAlphanum_of_mem_toDigits hmem) (by decide)
  obtain ⟨hdigits, hrest⟩ := append_cons_inj (hbrace c) (hbrace d) (by simpa [numbered] using h)
  exact ⟨Char.toNat_inj.1 (toDigits_inj hdigits), hrest⟩

/-- No form is the beginning of another character's form. -/
theorem Form.append_inj {s t : List Char} (hs : Form c s) (ht : Form d t) (h : s ++ xs = t ++ ys) :
    c = d ∧ xs = ys := by
  have hnumber : ∀ p ∈ letters, p.2 ≠ 'u' := by decide
  cases hs with
  | @letter l mem =>
    cases ht with
    | @letter l' mem' =>
      have hunique : ∀ p ∈ letters, ∀ q ∈ letters, p.2 = q.2 → p.1 = q.1 := by decide
      obtain ⟨hl, hrest⟩ : l = l' ∧ xs = ys := by simpa using h
      exact ⟨hunique _ mem _ mem' hl, hrest⟩
    | plain _ backslash => exact absurd (List.cons.inj h).1.symm backslash
    | number => exact absurd (List.cons.inj (List.cons.inj h).2).1 (hnumber _ mem)
  | plain _ backslash =>
    cases ht with
    | letter => exact absurd (List.cons.inj h).1 backslash
    | plain => exact List.cons.inj h
    | number => exact absurd (List.cons.inj h).1 backslash
  | number =>
    cases ht with
    | letter mem' => exact absurd (List.cons.inj (List.cons.inj h).2).1.symm (hnumber _ mem')
    | plain _ backslash => exact absurd (List.cons.inj h).1.symm backslash
    | number => exact numbered_append_inj h

theorem Form.append_ne_quote {s : List Char} (hs : Form c s) (xs ys : List Char) : s ++ xs ≠ '"' :: ys := by
  intro h
  cases hs with
  | letter | number => exact absurd (List.cons.inj h).1 (by decide)
  | plain quote => exact quote (List.cons.inj h).1

theorem Form.not_mem_lineBreaks {s : List Char} (hs : Form c s) (hx : x ∈ s) : x ∉ lineBreaks := by
  cases hs with
  | letter mem =>
    have hletters : ∀ p ∈ letters, p.2 ∉ lineBreaks := by decide
    simp only [List.mem_cons, List.not_mem_nil, or_false] at hx
    rcases hx with rfl | rfl
    · decide
    · exact hletters _ mem
  | plain _ _ line => exact List.mem_singleton.1 hx ▸ line
  | number =>
    have hbreaks : lineBreaks.all (fun b => !b.isAlphanum) = true := by decide
    simp only [numbered, List.cons_append, List.nil_append, List.mem_cons, List.mem_append, List.not_mem_nil,
      or_false] at hx
    rcases hx with rfl | rfl | rfl | hx | rfl
    · decide
    · decide
    · decide
    · intro hbreak
      have hother := List.all_eq_true.1 hbreaks x hbreak
      simp [isAlphanum_of_mem_toDigits hx] at hother
    · decide

/-! ## Texts -/

theorem flatMap_escaped_inj {s t : List Char}
    (h : s.flatMap escaped ++ '"' :: xs = t.flatMap escaped ++ '"' :: ys) : s = t ∧ xs = ys := by
  induction s generalizing t with
  | nil =>
    cases t with
    | nil => exact ⟨rfl, (List.cons.inj h).2⟩
    | cons d t =>
      rw [List.flatMap_cons, List.append_assoc] at h
      exact absurd h.symm ((form_escaped d).append_ne_quote _ _)
  | cons c s ih =>
    cases t with
    | nil =>
      rw [List.flatMap_cons, List.append_assoc] at h
      exact absurd h ((form_escaped c).append_ne_quote _ _)
    | cons d t =>
      simp only [List.flatMap_cons, List.append_assoc] at h
      obtain ⟨rfl, hrest⟩ := (form_escaped c).append_inj (form_escaped d) h
      obtain ⟨rfl, hbehind⟩ := ih hrest
      exact ⟨rfl, hbehind⟩

/-- A quoted text is told from whatever follows it. -/
theorem quoted_append_inj {s t rest rest' : String} (h : quoted s ++ rest = quoted t ++ rest') :
    s = t ∧ rest = rest' := by
  have hlist := congrArg String.toList h
  simp only [quoted, String.toList_append, String.toList_ofList, List.cons_append, List.append_assoc,
    List.cons.injEq, true_and, List.nil_append] at hlist
  obtain ⟨htext, hrest⟩ := flatMap_escaped_inj hlist
  exact ⟨String.toList_inj.1 htext, String.toList_inj.1 hrest⟩

def OneLine (text : String) : Prop := ∀ x ∈ text.toList, x ∉ lineBreaks

instance (text : String) : Decidable (OneLine text) :=
  List.decidableBAll (· ∉ lineBreaks) text.toList

theorem OneLine.append {s t : String} (hs : OneLine s) (ht : OneLine t) : OneLine (s ++ t) := by
  intro x hx
  rw [String.toList_append] at hx
  rcases List.mem_append.1 hx with hx | hx
  · exact hs x hx
  · exact ht x hx

theorem oneLine_quoted (text : String) : OneLine (quoted text) := by
  intro x hx
  simp only [quoted, String.toList_ofList, List.cons_append, List.mem_cons, List.mem_append, List.mem_flatMap,
    List.not_mem_nil, or_false] at hx
  rcases hx with rfl | ⟨c, -, hx⟩ | rfl
  · decide
  · exact (form_escaped c).not_mem_lineBreaks hx
  · decide

end CollectionMarker.Text

import CollectionMarker.Collection.Document

/-! Arrays of collections in documents. Each element is shorter than the text it is read from, so
reading ends. -/

namespace CollectionMarker.Document

open Json

theorem bind_ok_iff {ε α β : Type} {x : Except ε α} {f : α → Except ε β} {b : β} :
    x >>= f = .ok b ↔ ∃ a, x = .ok a ∧ f a = .ok b := by
  cases x <;> simp [bind, Except.bind]

theorem length_skipBlanks_le (cs : List Char) : (skipBlanks cs).length ≤ cs.length :=
  (List.dropWhile_sublist _).length_le

theorem length_of_readName {cs rest : List Char} {c : Collection} (h : readName cs = .ok (c, rest)) :
    rest.length < cs.length := by
  unfold readName at h
  split at h
  · cases h
  · rename_i text after ht
    cases hc : Collection.ofName (String.ofList text) with
    | error e => simp [hc, Except.map] at h
    | ok c =>
      simp only [hc, Except.map, Except.ok.injEq, Prod.mk.injEq] at h
      exact h.2 ▸ length_of_text? ht

theorem length_of_expect {c : Char} {cs rest : List Char} (h : expect c cs = .ok rest) :
    rest.length < cs.length := by
  have hb := length_skipBlanks_le cs
  unfold expect at h
  split at h
  · rename_i first after hs
    split at h
    · cases h
      simp only [hs, List.length_cons] at hb
      omega
    · cases h
  · cases h

theorem length_of_expectStart {wanted : Wanted} {cs rest : List Char} (h : expectStart wanted cs = .ok rest) :
    rest.length ≤ cs.length := by
  have hb := length_skipBlanks_le cs
  unfold expectStart afterWord? at h
  split at h
  · rename_i after ha
    split at ha
    · cases ha
      cases h
      simp only [List.length_drop]
      omega
    · cases ha
  · cases h

theorem length_of_expectKey {rule : KeyRule} {cs rest : List Char} (h : expectKey rule cs = .ok rest) :
    rest.length ≤ cs.length := by
  cases rule with
  | strict => exact Nat.le_of_lt (length_of_expect h)
  | lenient => exact length_of_expectStart h

theorem length_of_readMember {rule : KeyRule} {cs rest : List Char} {c : Collection}
    (h : readMember rule cs = .ok (c, rest)) : rest.length < cs.length := by
  simp only [readMember, bind_ok_iff] at h
  obtain ⟨cs₁, h₁, ⟨c', cs₂⟩, h₂, cs₃, h₃, cs₄, h₄, cs₅, h₅, h⟩ := h
  cases h
  have := length_of_expectKey h₁
  have := length_of_readName h₂
  have : cs₃.length < cs₂.length := length_of_expect h₃
  have := length_of_expectStart h₄
  have := length_of_expect h₅
  omega

theorem length_of_readOne {rule : KeyRule} {cs rest : List Char} {c : Collection}
    (h : readOne rule cs = .ok (c, rest)) : rest.length < cs.length := by
  have hb := length_skipBlanks_le cs
  unfold readOne at h
  split at h
  · rename_i after hs
    simp only [hs, List.length_cons] at hb
    have := length_of_readName h
    omega
  · rename_i after hs
    simp only [hs, List.length_cons] at hb
    have := length_of_readMember h
    omega
  · cases h

/-- The elements of an array and its closing bracket. The opening one is already read, and so is
the comma before each later element. -/
def readElements (rule : KeyRule) (cs : List Char) : Except Refusal (List Collection × List Char) :=
  match _hr : readOne rule cs with
  | .error e => .error e
  | .ok (c, rest) => match _hs : skipBlanks rest with
    | ',' :: after => do
      let (others, last) ← readElements rule after
      return (c :: others, last)
    | ']' :: after => .ok ([c], after)
    | _ => .error .malformed
termination_by cs.length
decreasing_by
  have := length_of_readOne _hr
  have := length_skipBlanks_le rest
  simp only [_hs, List.length_cons] at this
  omega

def writeList (cs : List Collection) : String := "[" ++ ",".intercalate (cs.map write) ++ "]"

def readArray (rule : KeyRule) (cs : List Char) : Except Refusal (List Collection × List Char) :=
  match skipBlanks cs with
  | ']' :: after => .ok ([], after)
  | _ => readElements rule cs

def list (text : String) (rule : KeyRule := .strict) : Except Refusal (List Collection) := do
  let rest ← expectStart .sequence text.toList
  readArray rule rest >>= finish

end CollectionMarker.Document

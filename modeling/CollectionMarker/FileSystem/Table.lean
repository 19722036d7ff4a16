/-! Finite tables. Setting a key drops its old row, so a key has one row and setting it twice is
setting it once. -/

namespace CollectionMarker

structure Table (α β : Type) where
  rows : List (α × β) := []
  deriving DecidableEq

namespace Table
variable {α β : Type} [DecidableEq α]

def get? (t : Table α β) (k : α) : Option β := t.rows.lookup k

def erase (t : Table α β) (k : α) : Table α β := ⟨t.rows.filter (·.1 != k)⟩

def set (t : Table α β) (k : α) (v : β) : Table α β := ⟨(k, v) :: (t.erase k).rows⟩

def mapKeys (f : α → α) (t : Table α β) : Table α β := ⟨t.rows.map fun (k, v) => (f k, v)⟩

def restrict (keep : α → Bool) (t : Table α β) : Table α β := ⟨t.rows.filter (keep ·.1)⟩

theorem mem_rows_of_get? {t : Table α β} {k : α} {v : β} (h : t.get? k = some v) : (k, v) ∈ t.rows := by
  obtain ⟨before, after, hrows, -⟩ := List.lookup_eq_some_iff.1 h
  simp [hrows]

theorem get?_erase (t : Table α β) (k j : α) :
    (t.erase k).get? j = if j = k then none else t.get? j := by
  obtain ⟨rows⟩ := t
  simp only [get?, erase]
  induction rows with
  | nil => simp
  | cons row rest ih =>
    obtain ⟨a, v⟩ := row
    by_cases ha : a = k
    · subst ha
      rw [List.filter_cons_of_neg (by simp), ih]
      by_cases hj : j = a
      · simp [hj]
      · rw [List.lookup_cons, beq_eq_false_iff_ne.2 hj]
    · rw [List.filter_cons_of_pos (by simpa using ha), List.lookup_cons, List.lookup_cons, ih]
      by_cases hj : j = a
      · simp [hj, ha]
      · rw [beq_eq_false_iff_ne.2 hj]

theorem get?_set (t : Table α β) (k j : α) (v : β) :
    (t.set k v).get? j = if j = k then some v else t.get? j := by
  have h := get?_erase t k j
  simp only [get?] at h
  by_cases hj : j = k
  · simp [get?, set, hj]
  · simp only [get?, set, List.lookup_cons, beq_eq_false_iff_ne.2 hj, h, if_neg hj]

theorem set_set (t : Table α β) (k : α) (v w : β) : (t.set k v).set k w = t.set k w := by
  simp [set, erase, List.filter_filter]

end Table
end CollectionMarker

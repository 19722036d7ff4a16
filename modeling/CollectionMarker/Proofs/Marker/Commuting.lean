import CollectionMarker.Proofs.Marker.Effect

/-! Calls on two directories. Neither call moves the other's directory or touches the two names in it, so
it does not matter which one comes first. -/

namespace CollectionMarker

namespace Marker

open FileSystem CollectionMarker.Path Procedure

variable {dir other a b : String} {p q : Location} {fs fs' : FileSystem} {c d : Collection}
  {tree : Location → Option View}

/-! ## What is seen after a call -/

def settledTree (tree : Location → Option View) (p : Location) (c : Collection) : Location → Option View :=
  if tree (name :: p) = none then publishedTree tree p c else tree

theorem publishedTree_elsewhere (hne : q ≠ p) (text : String) :
    publishedTree tree p c (text :: q) = tree (text :: q) := by
  rw [publishedTree, Function.update_of_ne (by simp [hne]), Function.update_of_ne (by simp [hne])]

/-- No name in another directory is touched. -/
theorem settledTree_elsewhere (hne : q ≠ p) (text : String) :
    settledTree tree p c (text :: q) = tree (text :: q) := by
  unfold settledTree
  split
  · exact publishedTree_elsewhere hne text
  · rfl

theorem publishedTree_comm (hne : p ≠ q) :
    publishedTree (publishedTree tree p c) q d = publishedTree (publishedTree tree q d) p c := by
  have happart (text text' : String) : text :: p ≠ text' :: q := by simp [hne]
  unfold publishedTree
  rw [Function.update_of_ne (happart _ _).symm, Function.update_of_ne (happart _ _).symm,
    Function.update_of_ne (happart _ _), Function.update_of_ne (happart _ _)]
  -- the changes for `q` go to the inside one after the other
  rw [Function.update_comm (happart name stagingName), Function.update_comm (happart name name),
    Function.update_comm (happart stagingName stagingName), Function.update_comm (happart stagingName name)]

theorem settledTree_comm (hne : p ≠ q) :
    settledTree (settledTree tree p c) q d = settledTree (settledTree tree q d) p c := by
  have hp : publishedTree tree q d (name :: p) = tree (name :: p) := publishedTree_elsewhere hne name
  have hq : publishedTree tree p c (name :: q) = tree (name :: q) := publishedTree_elsewhere hne.symm name
  by_cases hvacant : tree (name :: p) = none
  · by_cases hvacant' : tree (name :: q) = none
    · simp only [settledTree, hvacant, hvacant', hp, hq, if_true, publishedTree_comm hne]
    · simp only [settledTree, hvacant, hvacant', hq, if_true, if_false]
  · by_cases hvacant' : tree (name :: q) = none
    · simp only [settledTree, hvacant, hvacant', hp, if_true, if_false]
    · simp only [settledTree, hvacant, hvacant', if_false]

/-! ## One call -/

/-- A directory in which the marker's name stands for no link, and the staging name for no link and no file
that has another name. The staging name in it is not too long. -/
structure Tidy (dir : String) (p : Location) (fs : FileSystem) : Prop where
  opens : fs.openToRead dir = .ok (.directory p)
  short : (stagingPath dir).utf8ByteSize < byteLimit
  marker : fs.Plain (name :: p)
  staging : fs.Lone (stagingName :: p)

theorem Tidy.address (h : Tidy dir p fs) : Address dir p fs := ⟨h.opens, h.short⟩

/-- A marker that is there decides the call, and otherwise one is published. -/
theorem Tidy.settle_cases (h : Tidy dir p fs) (c : Collection) :
    (∃ mode content, fs.look (name :: p) = some (.node (.file mode content)) ∧
      ((settle dir c).run fs).result = told content ∧ ((settle dir c).run fs).files = fs) ∨
    (fs.look (name :: p) = none ∧ fs.Missing (path dir) ∧ ((settle dir c).run fs).result = .ok c ∧
      ∃ s, s.home = p ∧ Publication dir c fs s ∧ ((settle dir c).run fs).files = s.shown) := by
  obtain ⟨spare, hsite⟩ := h.address.exists_site
  rcases h.marker with hvacant | ⟨mode, content, hlook⟩
  · have hmissing := reading_eq_none_iff_missing.1 (hsite.reading_of_vacant hvacant)
    obtain ⟨s, hhome, hs, hfiles, hresult⟩ := hsite.settle_of_missing hmissing h.staging.plain c
    exact .inr ⟨hvacant, hmissing, hresult h.address.ne_empty, s, hhome, hs, hfiles⟩
  · exact .inl ⟨mode, content, hlook, hsite.settle_of_file hlook c⟩

/-- The answer depends on what is seen under the marker's name and on nothing else. -/
theorem Tidy.result_congr (h : Tidy dir p fs) (h' : Tidy dir p fs')
    (hsame : fs'.look (name :: p) = fs.look (name :: p)) (c : Collection) :
    ((settle dir c).run fs').result = ((settle dir c).run fs).result := by
  rcases h.settle_cases c with ⟨mode, content, hlook, hresult, -⟩ | ⟨hvacant, -, hresult, -⟩
  · obtain ⟨spare, hsite⟩ := h'.address.exists_site
    exact (hsite.settle_of_file (hsame.trans hlook) c).1.trans hresult.symm
  · rcases h'.settle_cases c with ⟨mode, content, hlook, -, -⟩ | ⟨-, -, hresult', -⟩
    · simp [hlook, hvacant] at hsame
    · exact hresult'.trans hresult.symm

theorem Tidy.look_settled (h : Tidy dir p fs) (c : Collection) :
    ((settle dir c).run fs).files.look = settledTree fs.look p c := by
  rcases h.settle_cases c with ⟨mode, content, hlook, -, hfiles⟩ | ⟨hvacant, hmissing, -, s, rfl, hs, hfiles⟩
  · rw [hfiles, settledTree, if_neg (by simp [hlook])]
  · rw [hfiles, settledTree, if_pos hvacant]
    exact hs.look_shown hmissing h.staging

/-- Another tidy directory stays tidy. -/
theorem Tidy.tidy_settled (h : Tidy dir p fs) (hother : Tidy other q fs) (hne : q ≠ p) (c : Collection) :
    Tidy other q ((settle dir c).run fs).files := by
  have hlook := h.look_settled c
  rcases h.settle_cases c with ⟨-, -, -, -, hfiles⟩ | ⟨-, hmissing, -, s, rfl, hs, hfiles⟩
  · rw [hfiles]
    exact hother
  · rw [hfiles] at hlook ⊢
    have haddress := hs.address_shown hmissing hother.address
    refine ⟨haddress.opens, haddress.short, ?_, ?_⟩
    · unfold Plain
      rw [hlook, settledTree_elsewhere hne]
      exact hother.marker
    · exact hs.lone_shown hmissing h.staging hother.staging (by simp [hne]) (by simp [hne])

/-! ## Two calls -/

/-- On two directories the calls can change places: each answers as it would alone, and the tree in the end
is the same, with the changes of both. -/
theorem calls_on_two_directories_commute (ha : Tidy a p fs) (hb : Tidy b q fs) (hne : p ≠ q)
    (v w : Collection) :
    ((admits a v).run fs).result = ((admits a v).run ((admits b w).run fs).files).result ∧
    ((admits b w).run ((admits a v).run fs).files).result = ((admits b w).run fs).result ∧
    ((admits b w).run ((admits a v).run fs).files).files.look =
      ((admits a v).run ((admits b w).run fs).files).files.look ∧
    ((admits b w).run ((admits a v).run fs).files).files.look =
      settledTree (settledTree fs.look p v) q w := by
  simp only [run_admits]
  have ha' : Tidy a p ((settle b w).run fs).files := hb.tidy_settled ha hne w
  have hb' : Tidy b q ((settle a v).run fs).files := ha.tidy_settled hb hne.symm v
  have hmarker : ((settle b w).run fs).files.look (name :: p) = fs.look (name :: p) := by
    rw [hb.look_settled, settledTree_elsewhere hne]
  have hmarker' : ((settle a v).run fs).files.look (name :: q) = fs.look (name :: q) := by
    rw [ha.look_settled, settledTree_elsewhere hne.symm]
  have hab : ((settle b w).run ((settle a v).run fs).files).files.look =
      settledTree (settledTree fs.look p v) q w := by
    rw [hb'.look_settled, ha.look_settled]
  have hba : ((settle a v).run ((settle b w).run fs).files).files.look =
      settledTree (settledTree fs.look q w) p v := by
    rw [ha'.look_settled, hb.look_settled]
  refine ⟨?_, ?_, ?_, hab⟩
  · rw [ha.result_congr ha' hmarker]
  · rw [hb.result_congr hb' hmarker']
  · rw [hab, hba]
    exact settledTree_comm hne

/-- A directory inside the working directory, with the rest of a publication in it. -/
def nested : FileSystem :=
  (FileSystem.initial.setEntry ["sub", "work"] (.directory 0o777)).addNode ["GOQUE.tmp", "sub", "work"]
    (.file 0o600 [7, 7])

theorem tidy_nested : Tidy "." ["work"] nested where
  opens := by decide +kernel
  short := by decide +kernel
  marker := .inl (by decide +kernel)
  staging := .inl (by decide +kernel)

theorem tidy_nested_sub : Tidy "sub" ["sub", "work"] nested where
  opens := by decide +kernel
  short := by decide +kernel
  marker := .inl (by decide +kernel)
  staging := by
    have hentry : nested.entryAt? ["GOQUE.tmp", "sub", "work"] = some (.node 3) := by decide +kernel
    have hnode : nested.node 3 = .file 0o600 [7, 7] := by decide +kernel
    exact lone_of_rows hentry hnode (by decide +kernel)

theorem calls_on_two_directories_commute_nested :
    Tidy "." ["work"] nested ∧ Tidy "sub" ["sub", "work"] nested ∧ ["work"] ≠ ["sub", "work"] ∧
    ((admits "sub" .queue).run ((admits "." .stack).run nested).files).files.look =
      ((admits "." .stack).run ((admits "sub" .queue).run nested).files).files.look ∧
    ((admits "sub" .queue).run ((admits "." .stack).run nested).files).files.look =
      settledTree (settledTree nested.look ["work"] .stack) ["sub", "work"] .queue :=
  ⟨tidy_nested, tidy_nested_sub, by decide,
    (calls_on_two_directories_commute tidy_nested tidy_nested_sub (by decide) .stack .queue).2.2⟩

end Marker
end CollectionMarker

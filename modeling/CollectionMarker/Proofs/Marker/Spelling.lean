import CollectionMarker.Proofs.Marker.Call
import CollectionMarker.Proofs.Marker.Effect

/-! A directory under several texts. A call looks at the directory's text in four ways: it reads the marker,
opens the staging file, renames it, and opens the directory to sync it. Where the two names in the directory
are no links, each of these comes to the same under every text that leads there. So do whole calls; only
what is logged quotes the text. -/

namespace CollectionMarker

variable {ε ε' α β : Type} {dir : String} {fs : FileSystem}

def Event.under (dir : String) : Event → Event
  | .tagged _ stored => .tagged dir stored
  | .checked _ stored requested => .checked dir stored requested
  | .syncUnsupported _ reason => .syncUnsupported dir reason

def Outcome.under (dir : String) (o : Outcome ε α) : Outcome ε α :=
  { o with events := o.events.map (·.under dir) }

namespace Procedure

/-- From that state both procedures do the same, and the second one logs it under the text `dir`. -/
def Respells (dir : String) (fs : FileSystem) (p p' : Procedure ε α) : Prop :=
  p'.run fs = (p.run fs).under dir

variable {p p' : Procedure ε α} {next next' : α → Procedure ε β}

theorem Respells.of_quiet (h : p'.run fs = p.run fs) (hquiet : (p.run fs).events = []) :
    Respells dir fs p p' := by
  unfold Respells Outcome.under
  rw [h, hquiet, List.map_nil, ← hquiet]

theorem Respells.bind (h : Respells dir fs p p')
    (hnext : ∀ a after passed events, p.run fs = ⟨.ok a, after, passed, events⟩ →
      Respells dir after (next a) (next' a)) : Respells dir fs (p >>= next) (p' >>= next') := by
  unfold Respells at h
  cases hrun : p.run fs with
  | mk result after passed events =>
    rw [hrun] at h
    cases result with
    | error e =>
      unfold Respells
      rw [run_bind_error h, run_bind_error hrun]
      rfl
    | ok a =>
      have hlast := hnext a after passed events hrun
      unfold Respells at hlast ⊢
      rw [run_bind_ok h, run_bind_ok hrun, hlast]
      simp [Outcome.behind, Outcome.under]

theorem Respells.request {act act' : FileSystem → Except ε (α × FileSystem)} (h : act' fs = act fs) :
    Respells dir fs (request act) (request act') := by
  unfold Respells
  cases hact : act fs with
  | error e => rw [run_request_error hact, run_request_error (h.trans hact)]; rfl
  | ok r => rw [run_request_ok hact, run_request_ok (h.trans hact)]; rfl

theorem Respells.change {act act' : FileSystem → Except ε FileSystem} (h : act' fs = act fs) :
    Respells dir fs (change act) (change act') :=
  .request (by rw [h])

theorem Respells.mapError (f : ε → ε') (h : Respells dir fs p p') :
    Respells dir fs (p.mapError f) (p'.mapError f) := by
  unfold Respells at h ⊢
  rw [run_mapError f (p := p') h, run_mapError f (p := p) rfl]
  rfl

end Procedure

namespace Marker

open FileSystem CollectionMarker.Path Procedure

variable {a b : String} {p : Location} {m n : ℕ}

/-! ## The four uses of the text -/

theorem Site.openToRead_path_congr (ha : Site a p m fs) (hb : Site b p n fs)
    (hmarker : fs.Unlinked (name :: p)) : fs.openToRead (path b) = fs.openToRead (path a) := by
  have hresolve : fs.resolve .find (path b) = fs.resolve .find (path a) :=
    ha.home.resolve_join_congr hb.home isName_name ha.accepted_path hb.accepted_path hmarker
  unfold FileSystem.openToRead
  rw [hresolve]

theorem Site.openToWrite_congr (ha : Site a p m fs) (hb : Site b p n fs)
    (hstaging : fs.Unlinked (stagingName :: p)) (mode : ℕ) :
    fs.openToWrite (stagingPath b) mode = fs.openToWrite (stagingPath a) mode := by
  have hresolve : fs.resolve .create (stagingPath b) = fs.resolve .create (stagingPath a) :=
    ha.home.resolve_join_congr hb.home isName_stagingName ha.accepted hb.accepted hstaging
  unfold openToWrite
  rw [hresolve]

theorem Site.rename_congr (ha : Site a p m fs) (hb : Site b p n fs) :
    fs.rename (stagingPath b) (path b) = fs.rename (stagingPath a) (path a) :=
  FileSystem.rename_congr ha.accepted ha.accepted_path hb.accepted hb.accepted_path
    ((hb.home.slot_join isName_stagingName).trans (ha.home.slot_join isName_stagingName).symm)
    ((hb.home.slot_join isName_name).trans (ha.home.slot_join isName_name).symm)

theorem respells_syncDirectory (ha : fs.openToRead a = .ok (.directory p))
    (hb : fs.openToRead b = .ok (.directory p)) : Respells b fs (syncDirectory a) (syncDirectory b) :=
  .of_quiet (by rw [run_syncDirectory ha, run_syncDirectory hb]) (by rw [run_syncDirectory ha])

/-! ## Whole calls -/

/-- Opening and writing the staging file moves no directory, so the renaming finds both names where the
opening found them. -/
theorem respells_install (ha : Site a p m fs) (hb : Site b p n fs)
    (hstaging : fs.Unlinked (stagingName :: p)) (c : Collection) :
    Respells b fs (install a c) (install b c) := by
  unfold install
  refine .bind (.request (ha.openToWrite_congr hb hstaging mode)) ?_
  intro handle opened _ _ hopen
  refine .bind (.change rfl) ?_
  rintro ⟨⟩ written _ _ hwrite
  refine .bind (.of_quiet rfl (by rw [run_inspect])) ?_
  rintro ⟨⟩ synced _ _ hsync
  obtain rfl : written = synced := by simpa [run_inspect] using congrArg Outcome.files hsync
  have hroutes : SameRoutes fs written := (sameRoutes_of_openToWrite (eq_ok_of_run_request hopen)).trans
    (sameRoutes_of_write (eq_ok_of_run_change hwrite))
  exact .change ((ha.congr hroutes).rename_congr (hb.congr hroutes))

/-- Once the marker is shown, both texts still lead to the directory, which is synced under either. -/
theorem respells_publish (ha : Address a p fs) (hb : Address b p fs) (hmissing : fs.Missing (path a))
    (hstaging : fs.Unlinked (stagingName :: p)) (c : Collection) :
    Respells b fs (publish a c) (publish b c) := by
  obtain ⟨m, hsa⟩ := ha.exists_site
  obtain ⟨n, hsb⟩ := hb.exists_site
  rw [publish_eq, publish_eq]
  refine .bind (respells_install hsa hsb hstaging c) ?_
  rintro ⟨⟩ after _ _ hrun
  rcases install_cases hmissing c with ⟨e, k, -, hfailed⟩ | ⟨s, -, hs, hshown⟩
  · simp [hfailed] at hrun
  · obtain rfl : s.shown = after := by simpa [hshown] using congrArg Outcome.files hrun
    exact respells_syncDirectory (hs.address_shown hmissing ha).opens (hs.address_shown hmissing hb).opens

theorem respells_settle (ha : Address a p fs) (hb : Address b p fs) (hmarker : fs.Unlinked (name :: p))
    (hstaging : fs.Unlinked (stagingName :: p)) (c : Collection) :
    Respells b fs (settle a c) (settle b c) := by
  obtain ⟨m, hsa⟩ := ha.exists_site
  obtain ⟨n, hsb⟩ := hb.exists_site
  have hread := hsa.openToRead_path_congr hsb hmarker
  unfold settle
  refine .bind (.of_quiet (by rw [run_look, run_look, hread]) (by rw [run_look])) ?_
  intro found after passed events hrun
  obtain ⟨hfound, rfl, -⟩ : fs.openToRead (path a) = found ∧ fs = after ∧ _ := by simpa [run_look] using hrun
  cases found with
  | ok marker =>
    refine .bind (.of_quiet rfl (by rw [run_decode])) ?_
    intro stored checked _ _ _
    rfl
  | error e =>
    by_cases hkind : e.kind = .notFound
    · simp only [if_pos hkind]
      refine .bind (.mapError _ (respells_publish ha hb (missing_iff.2 ⟨e, hfound, hkind⟩) hstaging c)) ?_
      intro _ shown _ _ _
      rfl
    · simp only [if_neg hkind]
      rfl

theorem run_recorded_congr (ha : Site a p m fs) (hb : Site b p n fs) (hmarker : fs.Unlinked (name :: p)) :
    (recorded b).run fs = (recorded a).run fs := by
  unfold recorded
  rw [run_bind_ok (run_look a fs), run_bind_ok (run_look b fs), ha.openToRead_path_congr hb hmarker]

/-- The tag belongs to the directory: under every text that leads to it, a call gives the same answer, passes
through the same states and logs the same, with its own text quoted. -/
theorem calls_depend_on_directory_only (ha : Address a p fs) (hb : Address b p fs)
    (hmarker : fs.Unlinked (name :: p)) (hstaging : fs.Unlinked (stagingName :: p)) (call : Call) :
    (call.procedure b).run fs = ((call.procedure a).run fs).under b := by
  cases hcall : call.requested? with
  | some c =>
    have hsettle : (settle b c).run fs = ((settle a c).run fs).under b :=
      respells_settle ha hb hmarker hstaging c
    rw [Call.run_of_requested hcall, Call.run_of_requested hcall, hsettle]
    rfl
  | none =>
    cases call with
    | admits | require => cases hcall
    | recorded =>
      obtain ⟨m, hsa⟩ := ha.exists_site
      obtain ⟨n, hsb⟩ := hb.exists_site
      refine Respells.of_quiet ?_ (Call.events_of_recorded hcall a fs)
      unfold Call.procedure
      rw [run_bind_pure, run_bind_pure, run_recorded_congr hsa hsb hmarker]

/-- A directory inside the working directory, with the rest of a publication in it, and a link to it. -/
def aliased : FileSystem :=
  ((FileSystem.initial.setEntry ["sub", "work"] (.directory 0o777)).addNode ["alias", "work"]
    (.link "sub")).addNode ["GOQUE.tmp", "sub", "work"] (.file 0o600 [7, 7])

theorem address_aliased : Address "sub" ["sub", "work"] aliased where
  opens := by decide +kernel
  short := by decide +kernel

theorem address_aliased_link : Address "./alias//../alias/" ["sub", "work"] aliased where
  opens := by decide +kernel
  short := by decide +kernel

theorem unlinked_aliased : aliased.Unlinked (name :: ["sub", "work"]) ∧
    aliased.Unlinked (stagingName :: ["sub", "work"]) := by
  have hmarker : aliased.look (name :: ["sub", "work"]) = none := by decide +kernel
  have hstaging : aliased.look (stagingName :: ["sub", "work"]) = some (.node (.file 0o600 [7, 7])) := by
    decide +kernel
  exact ⟨fun target => by simp [hmarker], fun target => by simp [hstaging]⟩

/-- The marker that is published through the link is the one that the plain text would have got. -/
theorem calls_depend_on_directory_only_aliased :
    Address "sub" ["sub", "work"] aliased ∧ Address "./alias//../alias/" ["sub", "work"] aliased ∧
    aliased.Unlinked (name :: ["sub", "work"]) ∧ aliased.Unlinked (stagingName :: ["sub", "work"]) ∧
    ((Call.admits .stack).procedure "./alias//../alias/").run aliased =
      (((Call.admits .stack).procedure "sub").run aliased).under "./alias//../alias/" ∧
    (((Call.admits .stack).procedure "./alias//../alias/").run aliased).events =
      [.tagged "./alias//../alias/" .stack] := by
  have hrun := calls_depend_on_directory_only address_aliased address_aliased_link unlinked_aliased.1
    unlinked_aliased.2 (.admits .stack)
  refine ⟨address_aliased, address_aliased_link, unlinked_aliased.1, unlinked_aliased.2, hrun, ?_⟩
  rw [hrun]
  decide +kernel

end Marker
end CollectionMarker

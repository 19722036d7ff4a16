import CollectionMarker.Proofs.Marker.Call
import CollectionMarker.Proofs.Marker.Phases

/-! Calls that may be stopped after any of their requests, as by a crash. Whatever they leave behind, the
marker is missing or whole, and once it is there it stays. -/

namespace CollectionMarker.Marker

open FileSystem CollectionMarker.Path Procedure

/-- A call that runs to its end, or only through that many of its requests. -/
structure Visit where
  call : Call
  stop? : Option ℕ

namespace Visit

def passed (dir : String) (fs : FileSystem) (visit : Visit) : List FileSystem :=
  match visit.stop? with
  | none => ((visit.call.procedure dir).run fs).passed
  | some n => ((visit.call.procedure dir).run fs).passed.take n

def left (dir : String) (fs : FileSystem) (visit : Visit) : FileSystem :=
  match visit.stop? with
  | none => ((visit.call.procedure dir).run fs).files
  | some _ => (visit.passed dir fs).getLastD fs

end Visit

/-- A state between two requests, with the collections that were asked for until then. -/
structure Moment where
  requested : List Collection
  files : FileSystem

/-- All moments of visits made one after another, in order. -/
def history (dir : String) : List Collection → FileSystem → List Visit → List Moment
  | requested, fs, [] => [⟨requested, fs⟩]
  | requested, fs, visit :: rest =>
    ⟨requested, fs⟩ ::
      (visit.passed dir fs).map (⟨visit.call.requested?.toList ++ requested, ·⟩) ++
      history dir (visit.call.requested?.toList ++ requested) (visit.left dir fs) rest

variable {dir : String} {p : Location} {spare : ℕ} {fs : FileSystem} {c : Collection}
  {requested : List Collection}

/-! ## One visit -/

/-- Cut late enough, a list that ends in many of one keeps one of them. -/
theorem take_append_replicate {α : Type} (before : List α) (a : α) (m n : ℕ) :
    (before ++ List.replicate (n + 1) a).take (before.length + m + 1) =
      before ++ List.replicate (min m n + 1) a := by
  rw [Nat.add_assoc, List.take_length_add_append, List.take_replicate, Nat.add_min_add_right]

theorem getLastD_append_replicate {α : Type} (before : List α) (a b : α) (n : ℕ) :
    (before ++ List.replicate (n + 1) a).getLastD b = a := by
  rw [List.replicate_succ', ← List.append_assoc, List.getLastD_concat]

/-- Stopped or not, a call that changes nothing leaves the state as it was. -/
theorem Visit.keeps {visit : Visit} (h : ((visit.call.procedure dir).run fs).Keeps fs) :
    visit.left dir fs = fs ∧ ∀ s ∈ visit.passed dir fs, s = fs := by
  obtain ⟨call, stop?⟩ := visit
  obtain ⟨hfiles, hpassed⟩ := h
  cases stop? with
  | none => exact ⟨hfiles, hpassed⟩
  | some n =>
    have hpassed' : ∀ s ∈ ((call.procedure dir).run fs).passed.take n, s = fs :=
      fun s hs => hpassed s (List.mem_of_mem_take hs)
    exact ⟨(List.mem_cons.1 List.getLastD_mem_cons).elim id (hpassed' _), hpassed'⟩

theorem Marked.visit (h : Marked dir p spare c fs) (visit : Visit) :
    visit.left dir fs = fs ∧ ∀ s ∈ visit.passed dir fs, s = fs :=
  Visit.keeps (Call.run_of_some h.reading visit.call).2

/-- A call on an unmarked directory leaves it unmarked all the time, or it marks it and nothing changes
after that. -/
theorem Unmarked.call (h : Unmarked dir p spare fs) (call : Call) :
    (Unmarked dir p spare ((call.procedure dir).run fs).files ∧
      ∀ s ∈ ((call.procedure dir).run fs).passed, Unmarked dir p spare s) ∨
    ∃ c before n, call.requested? = some c ∧
      Marked dir p spare c ((call.procedure dir).run fs).files ∧
      (∀ s ∈ before, Unmarked dir p spare s) ∧
      ((call.procedure dir).run fs).passed =
        before ++ List.replicate (n + 1) ((call.procedure dir).run fs).files := by
  cases hcall : call.requested? with
  | none =>
    obtain ⟨-, hfiles, hpassed⟩ := Call.run_of_recorded hcall dir fs
    refine .inl ⟨?_, ?_⟩
    · rw [hfiles]
      exact h
    · intro s hs
      rw [hpassed s hs]
      exact h
  | some c =>
    rw [Call.run_of_requested hcall dir fs]
    have hsettled := settled dir c fs
    generalize (settle dir c).run fs = outcome at hsettled ⊢
    cases hsettled with
    | checked found | unread found => simp [h.reading] at found
    | withheld => exact .inl ⟨h, fun s hs => List.eq_of_mem_replicate hs ▸ h⟩
    | @published s n _ publication _ =>
      obtain ⟨hopened, hwritten, hshown⟩ := h.publication publication
      refine .inr ⟨c, [fs, s.opened, s.written, s.written], n, rfl, hshown, ?_, rfl⟩
      simp [h, hopened, hwritten]

theorem Unmarked.visit (h : Unmarked dir p spare fs) (visit : Visit) :
    (Unmarked dir p spare (visit.left dir fs) ∧ ∀ s ∈ visit.passed dir fs, Unmarked dir p spare s) ∨
    ∃ c before n, visit.call.requested? = some c ∧ Marked dir p spare c (visit.left dir fs) ∧
      (∀ s ∈ before, Unmarked dir p spare s) ∧
      visit.passed dir fs = before ++ List.replicate n (visit.left dir fs) := by
  obtain ⟨call, stop?⟩ := visit
  have hcall := h.call call
  cases stop? with
  | none =>
    rcases hcall with hsame | ⟨c, before, n, hrequested, hmarked, hbefore, hpassed⟩
    · exact .inl hsame
    · exact .inr ⟨c, before, n + 1, hrequested, hmarked, hbefore, hpassed⟩
  | some k =>
    -- stopped before the directory is marked, it is as if it never would have been
    have hstopped (made : List FileSystem) (hmade : ∀ s ∈ made, Unmarked dir p spare s) :
        Unmarked dir p spare (made.getLastD fs) ∧ ∀ s ∈ made, Unmarked dir p spare s :=
      ⟨List.forall_mem_cons.2 ⟨h, hmade⟩ _ List.getLastD_mem_cons, hmade⟩
    simp only [Visit.left, Visit.passed]
    rcases hcall with ⟨-, hpassed⟩ | ⟨c, before, n, hrequested, hmarked, hbefore, hpassed⟩
    · exact .inl (hstopped _ fun s hs => hpassed s (List.mem_of_mem_take hs))
    · generalize ((call.procedure dir).run fs).files = shown at hmarked hpassed
      rw [hpassed]
      by_cases hk : k ≤ before.length
      · rw [List.take_append_of_le_length hk]
        exact .inl (hstopped _ fun s hs => hbefore s (List.mem_of_mem_take hs))
      · obtain ⟨m, rfl⟩ := Nat.exists_eq_add_of_lt (Nat.lt_of_not_le hk)
        rw [take_append_replicate, getLastD_append_replicate]
        exact .inr ⟨c, before, min m n + 1, hrequested, hmarked, hbefore, rfl⟩

/-! ## Histories -/

/-- Moments that are unmarked up to one from which on nothing changes. -/
structure Orderly (dir : String) (p : Location) (spare : ℕ) (moments : List Moment) : Prop where
  phase : ∀ m ∈ moments,
    Unmarked dir p spare m.files ∨ ∃ c ∈ m.requested, Marked dir p spare c m.files
  steady : moments.Pairwise fun m m' => Unmarked dir p spare m.files ∨ m'.files = m.files

theorem Orderly.prepend {before moments : List Moment} (hbefore : ∀ m ∈ before, Unmarked dir p spare m.files)
    (h : Orderly dir p spare moments) : Orderly dir p spare (before ++ moments) where
  phase := List.forall_mem_append.2 ⟨fun m hm => .inl (hbefore m hm), h.phase⟩
  steady := List.pairwise_append.2
    ⟨List.pairwise_of_forall_mem_list fun m hm _ _ => .inl (hbefore m hm), h.steady,
      fun m hm _ _ => .inl (hbefore m hm)⟩

theorem Marked.orderly {moments : List Moment} (h : Marked dir p spare c fs)
    (hmoments : ∀ m ∈ moments, m.files = fs ∧ c ∈ m.requested) : Orderly dir p spare moments where
  phase := fun m hm => .inr ⟨c, (hmoments m hm).2, (hmoments m hm).1 ▸ h⟩
  steady := List.pairwise_of_forall_mem_list fun m hm m' hm' =>
    .inr ((hmoments m' hm').1.trans (hmoments m hm).1.symm)

theorem Marked.history (h : Marked dir p spare c fs) (visits : List Visit) (hc : c ∈ requested) :
    ∀ m ∈ history dir requested fs visits, m.files = fs ∧ c ∈ m.requested := by
  induction visits generalizing requested with
  | nil => simpa [Marker.history] using hc
  | cons visit rest ih =>
    obtain ⟨hleft, hpassed⟩ := h.visit visit
    have hc' : c ∈ visit.call.requested?.toList ++ requested := List.mem_append_right _ hc
    rw [Marker.history, hleft]
    refine List.forall_mem_append.2 ⟨List.forall_mem_cons.2 ⟨⟨rfl, hc⟩, ?_⟩, ih hc'⟩
    exact List.forall_mem_map.2 fun s hs => ⟨hpassed s hs, hc'⟩

theorem Unmarked.history (h : Unmarked dir p spare fs) (visits : List Visit) :
    Orderly dir p spare (history dir requested fs visits) := by
  induction visits generalizing requested fs with
  | nil => exact ⟨List.forall_mem_singleton.2 (.inl h), List.pairwise_singleton _ _⟩
  | cons visit rest ih =>
    rw [Marker.history]
    rcases h.visit visit with ⟨hleft, hpassed⟩ | ⟨c, before, n, hrequested, hmarked, hbefore, hpassed⟩
    · exact .prepend (List.forall_mem_cons.2 ⟨h, List.forall_mem_map.2 hpassed⟩) (ih hleft)
    · have hc : c ∈ visit.call.requested?.toList ++ requested := by simp [hrequested]
      have hfirst : ∀ m ∈ (⟨requested, fs⟩ :: before.map (⟨visit.call.requested?.toList ++ requested, ·⟩) :
          List Moment), Unmarked dir p spare m.files :=
        List.forall_mem_cons.2 ⟨h, List.forall_mem_map.2 hbefore⟩
      rw [hpassed, List.map_append, ← List.cons_append, List.append_assoc]
      refine .prepend hfirst (hmarked.orderly (List.forall_mem_append.2 ⟨?_, hmarked.history rest hc⟩))
      exact List.forall_mem_map.2 fun s hs => ⟨List.eq_of_mem_replicate hs, hc⟩

/-! ## Crash safety -/

/-- A directory without a marker, under whose staging name there is nothing or a file that some earlier
publication may have left. The staging name in it is not too long. -/
structure Fresh (dir : String) (p : Location) (fs : FileSystem) : Prop where
  opens : fs.openToRead dir = .ok (.directory p)
  short : (stagingPath dir).utf8ByteSize < byteLimit
  marker : fs.look (name :: p) = none
  staging : fs.Plain (stagingName :: p)

/-- There is no marker and none is read, or there is the one byte of a requested collection and that
is read. -/
structure Whole (dir : String) (p : Location) (m : Moment) : Prop where
  opens : m.files.openToRead dir = .ok (.directory p)
  marker : (m.files.look (name :: p) = none ∧ ((recorded dir).run m.files).result = .ok none) ∨
    ∃ c ∈ m.requested, (∃ mode, m.files.look (name :: p) = some (.node (.file mode [c.tag]))) ∧
      ((recorded dir).run m.files).result = .ok (some c)
  staging : m.files.Plain (stagingName :: p)

theorem Fresh.unmarked (h : Fresh dir p fs) : ∃ spare, Unmarked dir p spare fs := by
  obtain ⟨spare, hsite⟩ := (⟨h.opens, h.short⟩ : Address dir p fs).exists_site
  exact ⟨spare, hsite, h.marker, h.staging⟩

/-- However often and wherever calls on a fresh directory are stopped, its marker is missing or whole in
between, and once it is there it is never touched again. -/
theorem stopped_calls_leave_whole_marker (h : Fresh dir p fs) (visits : List Visit) :
    (∀ m ∈ history dir [] fs visits, Whole dir p m) ∧
    (history dir [] fs visits).Pairwise fun m m' =>
      ∀ v, m.files.look (name :: p) = some v → m'.files.look (name :: p) = some v := by
  obtain ⟨spare, hunmarked⟩ := h.unmarked
  have hdir : dir ≠ "" := by
    rintro rfl
    cases h.opens
  have horderly : Orderly dir p spare (history dir [] fs visits) := hunmarked.history visits
  refine ⟨?_, horderly.steady.imp ?_⟩
  · intro m hm
    rcases horderly.phase m hm with hm | ⟨c, hc, hm⟩
    · refine ⟨hm.openToRead hdir, .inl ⟨hm.marker, ?_⟩, hm.staging⟩
      rw [recorded_result, hm.reading]
    · refine ⟨hm.openToRead hdir, .inr ⟨c, hc, hm.marker, ?_⟩, hm.staging⟩
      rw [recorded_result, hm.reading]
  · rintro m m' (hm | hsame) v hv
    · simp [hm.marker] at hv
    · rw [hsame]
      exact hv

def leftover : FileSystem := .addNode .initial ["GOQUE.tmp", "work"] (.file 0o600 [7, 7])

theorem fresh_leftover : Fresh "." ["work"] leftover where
  opens := by decide +kernel
  short := by decide +kernel
  marker := by decide +kernel
  staging := .inr ⟨0o600, [7, 7], by decide +kernel⟩

/-- One call is stopped before it renames, one right after that. -/
def stoppedTwice : List Visit :=
  [⟨.admits .stack, some 3⟩, ⟨.require .queue, some 5⟩, ⟨.recorded, none⟩]

theorem stopped_calls_leave_whole_marker_leftover :
    Fresh "." ["work"] leftover ∧
    (∀ m ∈ history "." [] leftover stoppedTwice, Whole "." ["work"] m) ∧
    ∃ m ∈ history "." [] leftover stoppedTwice,
      m.files.look ["GOQUE", "work"] = some (.node (.file 0o600 [1])) :=
  ⟨fresh_leftover, (stopped_calls_leave_whole_marker fresh_leftover _).1, by decide +kernel⟩

end CollectionMarker.Marker

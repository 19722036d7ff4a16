import CollectionMarker.Proofs.Marker.Crash

/-! What a publication that was stopped means for the next one. Up to the rename it has only made and
written the staging file, which the next one empties when it opens it, so the next one goes on as if the
stopped one had never been made. From the rename on the state is the one that a complete publication
leaves. -/

namespace CollectionMarker

/-- Two runs end alike: with the same result, in the same state, after the same events. -/
structure Outcome.EndsLike {ε α : Type} (o o' : Outcome ε α) : Prop where
  result : o.result = o'.result
  files : o.files = o'.files
  events : o.events = o'.events

theorem Outcome.EndsLike.refl {ε α : Type} (o : Outcome ε α) : o.EndsLike o := ⟨rfl, rfl, rfl⟩

namespace FileSystem

open CollectionMarker.Path

variable {fs after : FileSystem} {text : String} {id : NodeId} {mode : ℕ}

/-- A file that has just been opened to be written was emptied last of all. -/
theorem exists_eq_setNode_of_openToWrite (h : fs.openToWrite text mode = .ok (.file id, after)) :
    ∃ base mode', after = setNode base id (.file mode' []) := by
  rcases openToWrite_cases h with ⟨which, -, hdevice, -⟩ | ⟨j, hfind, hid, rfl⟩ | ⟨q, -, hid, rfl⟩
  · cases hdevice
  · cases hid
    obtain ⟨mode', content, hnode⟩ := node_of_resolve_file hfind
    exact ⟨fs, mode', truncate_eq hnode⟩
  · cases hid
    exact ⟨fs.setEntry q (.node fs.freshId), mode, rfl⟩

end FileSystem

namespace Marker

open FileSystem CollectionMarker.Path Procedure

variable {dir : String} {p : Location} {spare mode' : ℕ} {fs fs' : FileSystem} {id : NodeId}
  {content : List UInt8} {c : Collection} {s : Stages} {opening : Handle × FileSystem}

/-! ## Opening the staging file again -/

/-- An unmarked directory in which opening the staging file gives that handle and that state. -/
structure Resumes (dir : String) (p : Location) (spare : ℕ) (opening : Handle × FileSystem)
    (fs : FileSystem) : Prop extends Unmarked dir p spare fs where
  opens : fs.openToWrite (stagingPath dir) mode = .ok opening

/-- Opening the staging file once more gives the same again, also after it was written. -/
theorem Resumes.publication (h : Resumes dir p spare opening fs) (hs : Publication dir c fs s) :
    Resumes dir p spare opening s.opened ∧ Resumes dir p spare opening s.written := by
  obtain rfl : opening = (.file s.id, s.opened) := Except.ok.inj (h.opens.symm.trans hs.opens)
  obtain ⟨hopened, hwritten, -⟩ := h.toUnmarked.publication hs
  obtain ⟨-, hentry⟩ := h.opened hs.opens
  obtain ⟨mode', hempty, hwrite⟩ := hs.written_eq
  obtain ⟨base, old, hbase⟩ := exists_eq_setNode_of_openToWrite hs.opens
  have hagain : s.opened.setNode s.id (.file mode' []) = s.opened := by
    obtain rfl : old = mode' := by simpa [hbase] using hempty
    rw [hbase, setNode_setNode]
  refine ⟨⟨hopened, ?_⟩, hwritten, ?_⟩
  · rw [hopened.openToWrite_file hentry hempty, hagain]
  · have hentry' : s.written.entryAt? (stagingName :: p) = some (.node s.id) := by rw [hwrite]; exact hentry
    have hnode : s.written.node s.id = .file mode' [c.tag] := by rw [hwrite, node_setNode, if_pos rfl]
    rw [hwritten.openToWrite_file hentry' hnode, hwrite, setNode_setNode, hagain]

/-- A publication is the same from wherever the staging file is opened with the same outcome. -/
theorem run_publish_congr (h : fs.openToWrite (stagingPath dir) mode = .ok opening)
    (h' : fs'.openToWrite (stagingPath dir) mode = .ok opening) (c : Collection) :
    (publish dir c).run fs = (publish dir c).run fs' := by
  unfold publish
  rw [run_bind_ok (run_request_ok h), run_bind_ok (run_request_ok h')]

theorem Resumes.settle_endsLike (h : Resumes dir p spare opening fs) (h' : Resumes dir p spare opening fs')
    (c : Collection) : ((settle dir c).run fs).EndsLike ((settle dir c).run fs') := by
  rw [run_settle_of_none h.reading, run_settle_of_none h'.reading, run_publish_congr h.opens h'.opens]
  rcases (publish dir c).run fs' with ⟨e | -, after, passed, events⟩
  · exact ⟨rfl, rfl, rfl⟩
  · exact ⟨rfl, rfl, rfl⟩

theorem admits_endsLike (h : ((settle dir c).run fs).EndsLike ((settle dir c).run fs')) :
    ((admits dir c).run fs).EndsLike ((admits dir c).run fs') := by
  rw [run_admits, run_admits]
  exact ⟨congrArg (Except.map (·.compatible c)) h.result, h.files, h.events⟩

/-! ## One visit -/

/-- The visit ends before it would rename: it only reads, or it makes at most the four requests that look
for the marker and open, write and sync the staging file. -/
def Visit.Early (visit : Visit) : Prop :=
  visit.call.requested? = none ∨ ∃ k ≤ 4, visit.stop? = some k

/-- What a visit that ends early leaves behind, the next publication goes on from in the same way. -/
theorem Resumes.left (h : Resumes dir p spare opening fs) {visit : Visit} (hearly : visit.Early) :
    Resumes dir p spare opening (visit.left dir fs) := by
  cases hcall : visit.call.requested? with
  | none =>
    rw [(Visit.keeps (Call.run_of_recorded hcall dir fs).2).1]
    exact h
  | some c =>
    obtain ⟨call, stop?⟩ := visit
    obtain ⟨k, hk, rfl⟩ : ∃ k ≤ 4, stop? = some k := by simpa [Visit.Early, hcall] using hearly
    simp only [Visit.left, Visit.passed]
    rw [Call.run_of_requested hcall dir fs]
    have hsettled := settled dir c fs
    generalize (settle dir c).run fs = outcome at hsettled ⊢
    suffices hmade : ∀ t ∈ outcome.passed.take k, Resumes dir p spare opening t from
      List.forall_mem_cons.2 ⟨h, hmade⟩ _ List.getLastD_mem_cons
    cases hsettled with
    | checked found | unread found => simp [h.reading] at found
    | withheld =>
      intro t ht
      rw [List.eq_of_mem_replicate (List.mem_of_mem_take ht)]
      exact h
    | @published s n _ publication _ =>
      obtain ⟨hopened, hwritten⟩ := h.publication publication
      intro t ht
      have hfirst : t ∈ [fs, s.opened, s.written, s.written] := by
        have hsplit : fs :: s.opened :: s.written :: s.written :: List.replicate (n + 1) s.shown =
            [fs, s.opened, s.written, s.written] ++ List.replicate (n + 1) s.shown := rfl
        rw [hsplit, List.take_append_of_le_length hk] at ht
        exact List.mem_of_mem_take ht
      simp only [List.mem_cons, List.not_mem_nil, or_false] at hfirst
      rcases hfirst with rfl | rfl | rfl | rfl
      · exact h
      · exact hopened
      · exact hwritten
      · exact hwritten

/-- A visit that gets past the rename leaves what the complete call leaves. -/
theorem Unmarked.left_of_not_early (h : Unmarked dir p spare fs) {visit : Visit}
    (hcall : visit.call.requested? = some c) (hlate : ¬visit.Early) :
    visit.left dir fs = ((settle dir c).run fs).files := by
  obtain ⟨call, stop?⟩ := visit
  have hrun := Call.run_of_requested hcall dir fs
  cases stop? with
  | none => simp only [Visit.left, hrun]
  | some k =>
    have hk : 4 < k := by
      by_contra hk
      exact hlate (.inr ⟨k, by omega, rfl⟩)
    obtain ⟨m, rfl⟩ := Nat.exists_eq_add_of_lt hk
    simp only [Visit.left, Visit.passed, hrun]
    have hsettled := settled dir c fs
    generalize (settle dir c).run fs = outcome at hsettled ⊢
    cases hsettled with
    | checked found | unread found => simp [h.reading] at found
    | @withheld _ n =>
      rw [List.take_replicate]
      exact List.eq_of_mem_replicate (n := min (4 + m + 1) n + 1) List.getLastD_mem_cons
    | @published s n _ publication _ =>
      have htake : (fs :: s.opened :: s.written :: s.written :: List.replicate (n + 1) s.shown).take
          (4 + m + 1) = [fs, s.opened, s.written, s.written] ++ List.replicate (min m n + 1) s.shown :=
        take_append_replicate [fs, s.opened, s.written, s.written] s.shown m n
      rw [htake, getLastD_append_replicate]

/-- Where the staging name is not accepted, no call changes anything. -/
theorem keeps_of_not_accepted (h : ¬Accepted (stagingPath dir)) (call : Call) (fs : FileSystem) :
    ((call.procedure dir).run fs).Keeps fs := by
  cases hcall : call.requested? with
  | none => exact (Call.run_of_recorded hcall dir fs).2
  | some c =>
    rw [Call.run_of_requested hcall dir fs]
    have hsettled := settled dir c fs
    generalize (settle dir c).run fs = outcome at hsettled ⊢
    cases hsettled with
    | checked => exact ⟨rfl, by simp⟩
    | @unread _ n => exact .replicate _ fs n []
    | @withheld _ n => exact .replicate _ fs n []
    | published _ publication => exact absurd publication.site.accepted h

/-! ## Any number of visits -/

def leftBy (dir : String) (fs : FileSystem) (visits : List Visit) : FileSystem :=
  visits.foldl (fun fs visit => visit.left dir fs) fs

theorem leftBy_cons (dir : String) (fs : FileSystem) (visit : Visit) (rest : List Visit) :
    leftBy dir fs (visit :: rest) = leftBy dir (visit.left dir fs) rest := rfl

theorem leftBy_append (dir : String) (fs : FileSystem) (before rest : List Visit) :
    leftBy dir fs (before ++ rest) = leftBy dir (leftBy dir fs before) rest :=
  List.foldl_append

theorem Resumes.leftBy (h : Resumes dir p spare opening fs) {visits : List Visit}
    (hearly : ∀ visit ∈ visits, visit.Early) :
    Resumes dir p spare opening (leftBy dir fs visits) := by
  induction visits generalizing fs with
  | nil => exact h
  | cons visit rest ih =>
    obtain ⟨hfirst, hrest⟩ := List.forall_mem_cons.1 hearly
    exact ih (h.left hfirst) hrest

theorem leftBy_of_keeps (h : ∀ call : Call, ((call.procedure dir).run fs).Keeps fs) (visits : List Visit) :
    leftBy dir fs visits = fs := by
  induction visits with
  | nil => rfl
  | cons visit rest ih =>
    rw [leftBy_cons, (Visit.keeps (h visit.call)).1]
    exact ih

/-- A directory without a marker, under whose staging name there is nothing or a file. -/
structure Untagged (dir : String) (p : Location) (fs : FileSystem) : Prop where
  opens : fs.openToRead dir = .ok (.directory p)
  marker : fs.look (name :: p) = none
  staging : fs.Plain (stagingName :: p)

/-- After calls on an untagged directory that were all stopped before the rename, a complete call ends as
it would have without them. After one that was not, the state is the one that its complete call would have
left without them, whatever calls come then. -/
theorem stopped_creation_is_all_or_nothing (h : Untagged dir p fs) {visits : List Visit}
    (hearly : ∀ visit ∈ visits, visit.Early) :
    (∀ c, ((admits dir c).run (leftBy dir fs visits)).EndsLike ((admits dir c).run fs)) ∧
    (∀ visit c rest, visit.call.requested? = some c → ¬visit.Early →
      leftBy dir fs (visits ++ visit :: rest) = ((admits dir c).run fs).files) := by
  by_cases haccepted : Accepted (stagingPath dir)
  · obtain ⟨-, spare, hhome⟩ := exists_home_of_openToRead h.opens
    have hunmarked : Unmarked dir p spare fs := ⟨⟨haccepted, hhome⟩, h.marker, h.staging⟩
    obtain ⟨id, opened, hopen⟩ := hunmarked.exists_opening h.staging
    have hfirst : Resumes dir p spare (.file id, opened) fs := ⟨hunmarked, hopen⟩
    have hlast := hfirst.leftBy hearly
    refine ⟨fun c => admits_endsLike (hlast.settle_endsLike hfirst c), ?_⟩
    intro visit c rest hcall hlate
    have hmarked : Marked dir p spare c ((settle dir c).run fs).files := hunmarked.marks c
    have hleft := (hlast.left_of_not_early hcall hlate).trans (hlast.settle_endsLike hfirst c).files
    rw [leftBy_append, leftBy_cons, hleft, run_admits]
    exact leftBy_of_keeps (fun call => (Call.run_of_some hmarked.reading call).2) rest
  · have hkeeps (call : Call) : ((call.procedure dir).run fs).Keeps fs :=
      keeps_of_not_accepted haccepted call fs
    rw [leftBy_of_keeps hkeeps visits]
    refine ⟨fun c => .refl _, ?_⟩
    intro visit c rest hcall hlate
    have hsettle := (hkeeps (.admits c)).1
    rw [Call.run_of_requested rfl] at hsettle
    rw [leftBy_of_keeps hkeeps, run_admits]
    exact hsettle.symm

theorem untagged_leftover : Untagged "." ["work"] leftover :=
  ⟨fresh_leftover.opens, fresh_leftover.marker, fresh_leftover.staging⟩

def stoppedEarly : List Visit :=
  [⟨.admits .stack, some 3⟩, ⟨.admits .prefixQueue, some 4⟩]

theorem early_of_mem_stoppedEarly : ∀ visit ∈ stoppedEarly, visit.Early := by
  simp [stoppedEarly, Visit.Early]

theorem stopped_creation_is_all_or_nothing_leftover :
    Untagged "." ["work"] leftover ∧ (∀ visit ∈ stoppedEarly, visit.Early) ∧
    ((admits "." .queue).run (leftBy "." leftover stoppedEarly)).EndsLike ((admits "." .queue).run leftover) ∧
    leftBy "." leftover (stoppedEarly ++ [⟨.admits .queue, some 5⟩, ⟨.admits .stack, some 2⟩]) =
      ((admits "." .queue).run leftover).files := by
  have hboth := stopped_creation_is_all_or_nothing untagged_leftover early_of_mem_stoppedEarly
  have hlate : ¬Visit.Early ⟨.admits .queue, some 5⟩ := by simp [Visit.Early, Call.requested?]
  exact ⟨untagged_leftover, early_of_mem_stoppedEarly, hboth.1 .queue,
    hboth.2 ⟨.admits .queue, some 5⟩ .queue [⟨.admits .stack, some 2⟩] rfl hlate⟩

end Marker
end CollectionMarker

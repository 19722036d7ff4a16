import CollectionMarker.Proofs.Marker.Call
import CollectionMarker.Proofs.Marker.Publication

/-! Calls made one after another on one directory. At most one of them publishes a marker, and from then
on nothing changes, so all that is ever answered about the directory is true of one collection. -/

namespace CollectionMarker.Marker

open FileSystem CollectionMarker.Path Procedure

variable {dir : String} {fs : FileSystem} {c stored : Collection} {f : Failure}

structure Report where
  call : Call
  before : FileSystem
  outcome : Outcome Failure Answer

def report (dir : String) (fs : FileSystem) (call : Call) : Report :=
  ⟨call, fs, (call.procedure dir).run fs⟩

/-- Complete calls, each made in the state that the one before it left. -/
def session (dir : String) : FileSystem → List Call → List Report
  | _, [] => []
  | fs, call :: rest => report dir fs call :: session dir (report dir fs call).outcome.files rest

namespace Report

def Admits (r : Report) (c : Collection) : Prop :=
  r.call.requested? = some c ∧
    (r.outcome.result = .ok (.admitted true) ∨ r.outcome.result = .ok .cleared)

/-- The directory was not opened for a collection because it belongs to another. -/
def Refuses (r : Report) (c : Collection) : Prop :=
  r.call.requested? = some c ∧
    (r.outcome.result = .ok (.admitted false) ∨
      ∃ stored, r.outcome.result = .error (.incompatible stored c))

def Names (r : Report) (stored : Collection) : Prop :=
  r.outcome.result = .ok (.recorded (some stored)) ∨
    ∃ c, r.outcome.result = .error (.incompatible stored c)

/-- The call found no marker and showed one. -/
def Publishes (dir : String) (r : Report) (c : Collection) : Prop :=
  r.call.requested? = some c ∧ ((recorded dir).run r.before).result = .ok none ∧
    ((install dir c).run r.before).result = .ok ()

/-- All that a report says is true of a directory of that collection. -/
structure TrueOf (dir : String) (stored : Collection) (r : Report) : Prop where
  admits : ∀ c, r.Admits c → stored.compatible c = true
  refuses : ∀ c, r.Refuses c → stored.compatible c = false
  names : ∀ named, r.Names named → named = stored
  publishes : ∀ c, Publishes dir r c → c = stored

variable {r : Report}

theorem trueOf_of_answer (h : r.outcome.result = r.call.answer stored)
    (hpublishes : ∀ c, Publishes dir r c → c = stored) : r.TrueOf dir stored := by
  obtain ⟨call, before, result, after, passed, events⟩ := r
  obtain rfl : result = call.answer stored := h
  refine ⟨?_, ?_, ?_, hpublishes⟩
  · rintro c ⟨hcall, hok⟩
    rcases Call.answer_cases hcall stored with ⟨hcompatible, -⟩ | ⟨-, hanswer⟩
    · exact hcompatible
    · rcases hanswer with hanswer | hanswer <;> simp [hanswer] at hok
  · rintro c ⟨hcall, hrefused⟩
    rcases Call.answer_cases hcall stored with ⟨-, hanswer⟩ | ⟨hcompatible, -⟩
    · rcases hanswer with hanswer | hanswer <;> simp [hanswer] at hrefused
    · exact hcompatible
  · intro named hnamed
    cases hcall : call.requested? with
    | none =>
      cases call with
      | admits | require => cases hcall
      | recorded => simpa [Names, Call.answer, eq_comm] using hnamed
    | some c =>
      rcases Call.answer_cases hcall stored with ⟨-, hanswer | hanswer⟩ | ⟨-, hanswer | hanswer⟩ <;>
        simp [Names, hanswer] at hnamed
      exact hnamed.symm

/-- An error that names no collection is true of every one. -/
theorem trueOf_of_error (h : r.outcome.result = .error f) (hf : ∀ named c, f ≠ .incompatible named c)
    (hpublishes : ∀ c, Publishes dir r c → c = stored) : r.TrueOf dir stored := by
  refine ⟨?_, ?_, ?_, hpublishes⟩
  · rintro c ⟨-, hok | hok⟩ <;> simp [h] at hok
  · rintro c ⟨-, hok | ⟨named, herror⟩⟩
    · simp [h] at hok
    · exact absurd (Except.error.inj (h.symm.trans herror)) (hf _ _)
  · rintro named (hok | ⟨c, herror⟩)
    · simp [h] at hok
    · exact absurd (Except.error.inj (h.symm.trans herror)) (hf _ _)

/-- So is an answer that there is no marker. -/
theorem trueOf_of_none (hcall : r.call.requested? = none) (h : r.outcome.result = .ok (.recorded none)) :
    r.TrueOf dir stored := by
  refine ⟨?_, ?_, ?_, ?_⟩
  · rintro c ⟨hrequested, -⟩
    simp [hcall] at hrequested
  · rintro c ⟨hrequested, -⟩
    simp [hcall] at hrequested
  · rintro named (hok | ⟨c, herror⟩)
    · simp [h] at hok
    · simp [h] at herror
  · rintro c ⟨hrequested, -⟩
    simp [hcall] at hrequested

end Report

/-! ## One call -/

/-- No marker will be published, and if one can be read it is that of `stored`. -/
def Bound (dir : String) (stored : Collection) (fs : FileSystem) : Prop :=
  reading dir fs = .ok (some stored) ∨ ∃ f, reading dir fs = .error f

theorem Bound.reading_ne_none (h : Bound dir stored fs) : reading dir fs ≠ .ok none := by
  rcases h with h | ⟨f, h⟩ <;> simp [h]

theorem exists_bound_or_none (dir : String) (fs : FileSystem) :
    (∃ stored, Bound dir stored fs) ∨ reading dir fs = .ok none := by
  rcases hreading : reading dir fs with f | - | stored
  · exact .inl ⟨.stack, .inr ⟨f, hreading⟩⟩
  · exact .inr rfl
  · exact .inl ⟨stored, .inl hreading⟩

theorem Bound.not_publishes (h : Bound dir stored fs) (call : Call) (c : Collection) :
    ¬(report dir fs call).Publishes dir c := by
  rintro ⟨-, hnone, -⟩
  exact h.reading_ne_none ((recorded_result dir fs).symm.trans hnone)

theorem Bound.report (h : Bound dir stored fs) (call : Call) :
    (report dir fs call).TrueOf dir stored ∧ (report dir fs call).outcome.files = fs := by
  have hpublishes (c : Collection) (hc : (Marker.report dir fs call).Publishes dir c) : c = stored :=
    absurd hc (h.not_publishes call c)
  rcases h with h | ⟨f, h⟩
  · obtain ⟨hresult, hkeeps⟩ := Call.run_of_some h call
    exact ⟨Report.trueOf_of_answer hresult hpublishes, hkeeps.1⟩
  · obtain ⟨hresult, hkeeps⟩ := Call.run_of_error h call
    exact ⟨Report.trueOf_of_error hresult (reading_ne_incompatible h) hpublishes, hkeeps.1⟩

/-- Without a marker a call changes nothing and names no collection, or it publishes one that the
directory is bound to from then on. -/
theorem report_of_none (h : reading dir fs = .ok none) (call : Call) :
    ((∀ stored, (report dir fs call).TrueOf dir stored) ∧ (report dir fs call).outcome.files = fs) ∨
    ∃ c, (report dir fs call).TrueOf dir c ∧ Bound dir c (report dir fs call).outcome.files := by
  cases hcall : call.requested? with
  | none =>
    obtain ⟨hresult, hkeeps⟩ := Call.run_of_recorded hcall dir fs
    rw [h] at hresult
    exact .inl ⟨fun stored => Report.trueOf_of_none hcall hresult, hkeeps.1⟩
  | some c =>
    have hrun := Call.run_of_requested hcall dir fs
    have hsettled := settled dir c fs
    generalize (settle dir c).run fs = outcome at hrun hsettled
    cases hsettled with
    | checked found | unread found => simp [h] at found
    | @withheld e n _ failed =>
      refine .inl ⟨?_, congrArg Outcome.files hrun⟩
      intro stored
      apply Report.trueOf_of_error (congrArg Outcome.result hrun) (by simp)
      rintro d ⟨hrequested, -, hinstalled⟩
      obtain rfl : c = d := Option.some.inj (hcall.symm.trans hrequested)
      simp [report, failed] at hinstalled
    | @published s n _ publication _ =>
      have hpublishes (d : Collection) (hd : (report dir fs call).Publishes dir d) : d = c :=
        Option.some.inj (hd.1.symm.trans hcall)
      refine .inr ⟨c, ?_, ?_⟩
      · by_cases hdir : dir = ""
        · simp only [if_pos hdir] at hrun
          exact Report.trueOf_of_error (congrArg Outcome.result hrun) (by simp) hpublishes
        · simp only [if_neg hdir] at hrun
          exact Report.trueOf_of_answer (congrArg Outcome.result hrun) hpublishes
      · have hfiles : (report dir fs call).outcome.files = s.shown := congrArg Outcome.files hrun
        rw [hfiles]
        exact publication.reading.imp_right fun hloop => ⟨_, hloop⟩

/-! ## Sessions -/

/-- On a bound directory every call is made in the same state. -/
theorem Bound.session_eq (h : Bound dir stored fs) (calls : List Call) :
    session dir fs calls = calls.map (Marker.report dir fs) := by
  induction calls with
  | nil => rfl
  | cons call rest ih => rw [session, (h.report call).2, ih, List.map_cons]

theorem Bound.session {P : Report → Prop} (h : Bound dir stored fs)
    (hstep : ∀ call, P (Marker.report dir fs call)) (calls : List Call) :
    ∀ r ∈ session dir fs calls, P r := by
  rw [h.session_eq]
  exact List.forall_mem_map.2 fun call _ => hstep call

/-- A session has one collection for all its reports, if every call on a bound directory is as it should
be for that collection, and every call without a marker for any or for the one that it binds to. -/
theorem exists_stored_of_step {P : Collection → Report → Prop}
    (hbound : ∀ stored fs, Bound dir stored fs → ∀ call, P stored (report dir fs call))
    (hnone : ∀ fs, reading dir fs = .ok none → ∀ call,
      ((∀ stored, P stored (report dir fs call)) ∧ (report dir fs call).outcome.files = fs) ∨
      ∃ c, P c (report dir fs call) ∧ Bound dir c (report dir fs call).outcome.files)
    (fs : FileSystem) (calls : List Call) : ∃ stored, ∀ r ∈ session dir fs calls, P stored r := by
  have hsteady {stored : Collection} {fs : FileSystem} (h : Bound dir stored fs) (calls : List Call) :
      ∀ r ∈ session dir fs calls, P stored r := h.session (hbound stored fs h) calls
  induction calls generalizing fs with
  | nil => exact ⟨.stack, fun r hr => by cases hr⟩
  | cons call rest ih =>
    rcases exists_bound_or_none dir fs with ⟨stored, hbefore⟩ | hreading
    · exact ⟨stored, hsteady hbefore _⟩
    · rw [session]
      rcases hnone fs hreading call with ⟨hany, hfiles⟩ | ⟨c, hc, hafter⟩
      · obtain ⟨stored, hrest⟩ := ih fs
        rw [hfiles]
        exact ⟨stored, List.forall_mem_cons.2 ⟨hany stored, hrest⟩⟩
      · exact ⟨c, List.forall_mem_cons.2 ⟨hc, hsteady hafter rest⟩⟩

/-- There is one collection that all reports of a session are true of. -/
theorem exists_stored (dir : String) (fs : FileSystem) (calls : List Call) :
    ∃ stored, ∀ r ∈ session dir fs calls, r.TrueOf dir stored :=
  exists_stored_of_step (fun _ _ h call => (h.report call).1) (fun _ h call => report_of_none h call) fs calls

/-- Of the calls of one session on a directory, no two disagree about what it belongs to. -/
theorem session_agrees (dir : String) (fs : FileSystem) (calls : List Call) {r r' : Report}
    (hr : r ∈ session dir fs calls) (hr' : r' ∈ session dir fs calls) :
    (∀ c c', r.Admits c → r'.Admits c' → c.compatible c' = true ∧ c'.compatible c = true) ∧
    (∀ c, r.Admits c → ¬r'.Refuses c) ∧
    (∀ stored stored', r.Names stored → r'.Names stored' → stored = stored') ∧
    (∀ c stored, r.Publishes dir c → r'.Names stored → stored = c) := by
  obtain ⟨stored, hall⟩ := exists_stored dir fs calls
  have htrue := hall r hr
  have htrue' := hall r' hr'
  refine ⟨?_, ?_, ?_, ?_⟩
  · intro c c' hc hc'
    have h : c.compatible c' = true :=
      Collection.compatible_trans ((Collection.compatible_comm c stored).trans (htrue.admits c hc))
        (htrue'.admits c' hc')
    exact ⟨h, (Collection.compatible_comm c' c).trans h⟩
  · intro c hc hc'
    simpa [htrue.admits c hc] using htrue'.refuses c hc'
  · intro u u' hu hu'
    rw [htrue.names u hu, htrue'.names u' hu']
  · intro c u hc hu
    rw [htrue'.names u hu, htrue.publishes c hc]

/-- In an empty directory the first of two calls publishes the collection that the second one names. -/
theorem session_agrees_initial :
    ∃ r ∈ session "." .initial [.admits .queue, .require .prefixQueue],
      ∃ r' ∈ session "." .initial [.admits .queue, .require .prefixQueue],
        r.Admits .queue ∧ r.Publishes "." .queue ∧ r'.Refuses .prefixQueue ∧ r'.Names .queue ∧
        ∀ c stored, r.Publishes "." c → r'.Names stored → stored = c := by
  have hfirst : report "." .initial (.admits .queue) ∈
      session "." .initial [.admits .queue, .require .prefixQueue] := .head _
  have hsecond : report "." (report "." .initial (.admits .queue)).outcome.files (.require .prefixQueue) ∈
      session "." .initial [.admits .queue, .require .prefixQueue] := .tail _ (.head _)
  refine ⟨_, hfirst, _, hsecond, ⟨rfl, .inl ?_⟩, ⟨rfl, ?_, ?_⟩, ⟨rfl, .inr ⟨.queue, ?_⟩⟩,
    .inr ⟨.prefixQueue, ?_⟩, (session_agrees "." .initial _ hfirst hsecond).2.2.2⟩
  all_goals decide +kernel

end CollectionMarker.Marker

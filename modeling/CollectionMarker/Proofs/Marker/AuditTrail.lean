import CollectionMarker.Proofs.Marker.Session

/-! What the log tells about calls made one after another on one directory. A call that finds out what the
directory belongs to logs one event, and a call that fails to logs none. Only a call that shows a marker
logs that the directory was tagged; that is seen in the tree, and it happens at most once. -/

namespace CollectionMarker

def Event.stored? : Event → Option Collection
  | .tagged _ stored | .checked _ stored _ => some stored
  | .syncUnsupported .. => none

namespace Marker

open FileSystem CollectionMarker.Path Procedure

variable {dir : String} {fs : FileSystem} {c stored : Collection} {f : Failure} {s : Stages} {call : Call}

/-- Once a marker is shown it is found, so the tree is not what it was. -/
theorem Publication.look_ne (h : Publication dir c fs s) (hmissing : fs.Missing (path dir)) :
    s.shown.look ≠ fs.look := by
  intro hlook
  have hsame : SameRoutes fs s.shown := sameRoutes_of_look hlook (h.workingDirectory_shown hmissing)
  have hvacant (p : Location) (hp : fs.entryAt? p = none) : s.shown.entryAt? p = none := by
    rw [← look_eq_none_iff] at hp ⊢
    rw [hlook]
    exact hp
  have hnone := reading_eq_none_iff_missing.2 (hmissing.congr hsame hvacant)
  rcases h.reading with hread | hread <;> simp [hnone] at hread

/-! ## One call -/

namespace Report

/-- The call was answered, or refused because the directory belongs to another collection. -/
def Decides (r : Report) : Prop :=
  (∃ answer, r.outcome.result = .ok answer) ∨ ∃ named c, r.outcome.result = .error (.incompatible named c)

/-- What the directory belongs to could not be found out. -/
def Fails (r : Report) : Prop :=
  (∃ e, r.outcome.result = .error (.io e)) ∨ ∃ byte, r.outcome.result = .error (.unknownTag byte)

/-- The call was answered and has left a change in the tree. -/
def Establishes (r : Report) : Prop :=
  (∃ answer, r.outcome.result = .ok answer) ∧ r.outcome.files.look ≠ r.before.look

/-- What a call logs tells what it came to. -/
structure Audited (dir : String) (r : Report) : Prop where
  quiet : r.call.requested? = none ∨ r.Fails → r.outcome.events = []
  tagged : ∀ c, r.call.requested? = some c → (r.outcome.events = [.tagged dir c] ↔ r.Establishes)
  checked : ∀ c, r.call.requested? = some c → r.Decides → ¬r.Establishes →
    ∃ stored, ((recorded dir).run r.before).result = .ok (some stored) ∧
      r.outcome.files = r.before ∧ r.outcome.events = [.checked dir stored c]

variable {r : Report}

theorem Decides.not_fails (h : r.Decides) : ¬r.Fails := by
  rintro (⟨e, he⟩ | ⟨byte, hbyte⟩)
  · rcases h with ⟨answer, hok⟩ | ⟨named, c, herror⟩
    · simp [he] at hok
    · simp [he] at herror
  · rcases h with ⟨answer, hok⟩ | ⟨named, c, herror⟩
    · simp [hbyte] at hok
    · simp [hbyte] at herror

/-- Every answer about a directory of that collection is a decision. -/
theorem decides_of_answer (h : r.outcome.result = r.call.answer stored) : r.Decides := by
  cases hcall : r.call.requested? with
  | none =>
    obtain ⟨call, before, outcome⟩ := r
    cases call with
    | admits | require => cases hcall
    | recorded => exact .inl ⟨_, h⟩
  | some c =>
    rcases Call.answer_cases hcall stored with ⟨-, hanswer | hanswer⟩ | ⟨-, hanswer | hanswer⟩
    · exact .inl ⟨_, h.trans hanswer⟩
    · exact .inl ⟨_, h.trans hanswer⟩
    · exact .inl ⟨_, h.trans hanswer⟩
    · exact .inr ⟨_, _, h.trans hanswer⟩

theorem audited_of_recorded (hcall : r.call.requested? = none) (hevents : r.outcome.events = []) :
    Audited dir r where
  quiet := fun _ => hevents
  tagged := fun c hc => by simp [hcall] at hc
  checked := fun c hc => by simp [hcall] at hc

theorem audited_of_error (h : r.outcome.result = .error f) (hf : ∀ named c, f ≠ .incompatible named c)
    (hevents : r.outcome.events = []) : Audited dir r where
  quiet := fun _ => hevents
  tagged := fun c _ => by simp [hevents, Establishes, h]
  checked := by
    rintro c - (⟨answer, hok⟩ | ⟨named, d, herror⟩)
    · simp [h] at hok
    · exact absurd (Except.error.inj (h.symm.trans herror)) (hf _ _)

/-- A marker was found, and nothing changed. -/
theorem audited_of_checked (hcall : r.call.requested? = some c) (h : r.outcome.result = r.call.answer stored)
    (hfound : ((recorded dir).run r.before).result = .ok (some stored)) (hfiles : r.outcome.files = r.before)
    (hevents : r.outcome.events = [.checked dir stored c]) : Audited dir r where
  quiet := by
    rintro (hnone | hfails)
    · simp [hcall] at hnone
    · exact absurd hfails (decides_of_answer h).not_fails
  tagged := fun d _ => by simp [hevents, Establishes, hfiles]
  checked := by
    intro d hd _ _
    obtain rfl : c = d := Option.some.inj (hcall.symm.trans hd)
    exact ⟨stored, hfound, hfiles, hevents⟩

/-- A marker was shown, and the call was answered. -/
theorem audited_of_tagged (hcall : r.call.requested? = some c) (h : r.outcome.result = r.call.answer c)
    (hchanged : r.outcome.files.look ≠ r.before.look) (hevents : r.outcome.events = [.tagged dir c]) :
    Audited dir r := by
  have hdone : r.Establishes := by
    refine ⟨?_, hchanged⟩
    rcases Call.answer_cases hcall c with ⟨-, hanswer | hanswer⟩ | ⟨hother, -⟩
    · exact ⟨_, h.trans hanswer⟩
    · exact ⟨_, h.trans hanswer⟩
    · simp at hother
  refine ⟨?_, ?_, fun _ _ _ hnot => absurd hdone hnot⟩
  · rintro (hnone | hfails)
    · simp [hcall] at hnone
    · exact absurd hfails (decides_of_answer h).not_fails
  · intro d hd
    obtain rfl : c = d := Option.some.inj (hcall.symm.trans hd)
    exact iff_of_true hevents hdone

end Report

theorem audited_report (dir : String) (fs : FileSystem) (call : Call) :
    (report dir fs call).Audited dir := by
  cases hcall : call.requested? with
  | none => exact Report.audited_of_recorded hcall (Call.events_of_recorded hcall dir fs)
  | some c =>
    have hrun := Call.run_of_requested hcall dir fs
    have hsettled := settled dir c fs
    generalize (settle dir c).run fs = outcome at hrun hsettled
    cases hsettled with
    | @checked stored found =>
      have hfound : ((recorded dir).run fs).result = .ok (some stored) := (recorded_result dir fs).trans found
      exact Report.audited_of_checked hcall (congrArg Outcome.result hrun) hfound
        (congrArg Outcome.files hrun) (congrArg Outcome.events hrun)
    | unread found =>
      exact Report.audited_of_error (congrArg Outcome.result hrun) (reading_ne_incompatible found)
        (congrArg Outcome.events hrun)
    | withheld =>
      exact Report.audited_of_error (congrArg Outcome.result hrun) (by simp) (congrArg Outcome.events hrun)
    | @published s n found publication _ =>
      by_cases hdir : dir = ""
      · -- the marker is shown, but the empty text cannot be opened to sync its directory
        simp only [if_pos hdir] at hrun
        exact Report.audited_of_error (congrArg Outcome.result hrun) (by simp)
          (congrArg Outcome.events hrun)
      · simp only [if_neg hdir] at hrun
        have hfiles : (report dir fs call).outcome.files = s.shown := congrArg Outcome.files hrun
        refine Report.audited_of_tagged hcall (congrArg Outcome.result hrun) ?_ (congrArg Outcome.events hrun)
        rw [hfiles]
        exact publication.look_ne (reading_eq_none_iff_missing.1 found)

/-! ## Sessions -/

def auditTrail (dir : String) (fs : FileSystem) (calls : List Call) : List Event :=
  (session dir fs calls).flatMap (·.outcome.events)

theorem events_of_bound (h : Bound dir stored fs) (call : Call) : (report dir fs call).outcome.events = [] ∨
    ∃ c, (report dir fs call).outcome.events = [.checked dir stored c] := by
  cases hcall : call.requested? with
  | none => exact .inl (Call.events_of_recorded hcall dir fs)
  | some c =>
    have hevents := congrArg Outcome.events (Call.run_of_requested hcall dir fs)
    rcases h with h | ⟨f, h⟩
    · rw [run_settle_of_some h] at hevents
      exact .inr ⟨c, hevents⟩
    · obtain ⟨n, hrun⟩ := run_settle_of_error h c
      rw [hrun] at hevents
      exact .inl hevents

theorem events_of_none (h : reading dir fs = .ok none) (call : Call) :
    ((report dir fs call).outcome.events = [] ∧ (report dir fs call).outcome.files = fs) ∨
    ∃ c, ((report dir fs call).outcome.events = [] ∨ (report dir fs call).outcome.events = [.tagged dir c]) ∧
      Bound dir c (report dir fs call).outcome.files := by
  cases hcall : call.requested? with
  | none =>
    exact .inl ⟨Call.events_of_recorded hcall dir fs, (Call.run_of_recorded hcall dir fs).2.1⟩
  | some c =>
    have hrun := Call.run_of_requested hcall dir fs
    have hsettled := settled dir c fs
    generalize (settle dir c).run fs = outcome at hrun hsettled
    cases hsettled with
    | checked found | unread found => simp [h] at found
    | withheld => exact .inl ⟨congrArg Outcome.events hrun, congrArg Outcome.files hrun⟩
    | @published s n _ publication _ =>
      have hevents : (report dir fs call).outcome.events = if dir = "" then [] else [.tagged dir c] :=
        congrArg Outcome.events hrun
      have hfiles : (report dir fs call).outcome.files = s.shown := congrArg Outcome.files hrun
      refine .inr ⟨c, ?_, ?_⟩
      · rw [hevents]
        by_cases hdir : dir = ""
        · exact .inl (if_pos hdir)
        · exact .inr (if_neg hdir)
      · rw [hfiles]
        exact publication.reading.imp_right fun hloop => ⟨_, hloop⟩

/-- All events of a session name one collection. -/
theorem exists_stored_of_events (dir : String) (fs : FileSystem) (calls : List Call) :
    ∃ stored, ∀ r ∈ session dir fs calls, ∀ event ∈ r.outcome.events, event.stored? = some stored := by
  refine exists_stored_of_step ?_ ?_ fs calls
  · intro stored fs h call
    rcases events_of_bound h call with hevents | ⟨c, hevents⟩ <;> simp [hevents, Event.stored?]
  · intro fs h call
    rcases events_of_none h call with ⟨hevents, hfiles⟩ | ⟨c, hevents, hbound⟩
    · exact .inl ⟨fun stored => by simp [hevents], hfiles⟩
    · refine .inr ⟨c, ?_, hbound⟩
      rcases hevents with hevents | hevents <;> simp [hevents, Event.stored?]

theorem auditTrail_cons (dir : String) (fs : FileSystem) (call : Call) (rest : List Call) :
    auditTrail dir fs (call :: rest) = (report dir fs call).outcome.events ++
      auditTrail dir (report dir fs call).outcome.files rest := rfl

/-- From a state that binds the directory on, no call logs that it was tagged. -/
theorem Bound.countP_info (h : Bound dir stored fs) (calls : List Call) :
    (auditTrail dir fs calls).countP (·.severity = .info) = 0 := by
  induction calls with
  | nil => rfl
  | cons call rest ih =>
    rw [auditTrail_cons, (h.report call).2, List.countP_append, ih]
    rcases events_of_bound h call with hevents | ⟨c, hevents⟩ <;> simp [hevents, Event.severity]

theorem countP_info_le_one (dir : String) (fs : FileSystem) (calls : List Call) :
    (auditTrail dir fs calls).countP (·.severity = .info) ≤ 1 := by
  induction calls generalizing fs with
  | nil => exact Nat.zero_le 1
  | cons call rest ih =>
    rcases exists_bound_or_none dir fs with ⟨stored, hbefore⟩ | hreading
    · rw [hbefore.countP_info]
      exact Nat.zero_le 1
    · rw [auditTrail_cons, List.countP_append]
      rcases events_of_none hreading call with ⟨hevents, hfiles⟩ | ⟨c, hevents, hafter⟩
      · rw [hevents, hfiles, List.countP_nil, Nat.zero_add]
        exact ih fs
      · rw [hafter.countP_info]
        rcases hevents with hevents | hevents <;> simp [hevents, Event.severity]

/-- The log of a session tells of each call what it came to, of at most one that it tagged the directory,
and always of the same collection. -/
theorem audit_trail_is_faithful (dir : String) (fs : FileSystem) (calls : List Call) :
    (∀ r ∈ session dir fs calls, r.Audited dir) ∧
    (auditTrail dir fs calls).countP (·.severity = .info) ≤ 1 ∧
    ∃ stored, ∀ event ∈ auditTrail dir fs calls, event.stored? = some stored := by
  refine ⟨?_, countP_info_le_one dir fs calls, ?_⟩
  · induction calls generalizing fs with
    | nil => exact fun r hr => by cases hr
    | cons call rest ih => exact List.forall_mem_cons.2 ⟨audited_report dir fs call, ih _⟩
  · obtain ⟨stored, hall⟩ := exists_stored_of_events dir fs calls
    refine ⟨stored, ?_⟩
    intro event hevent
    obtain ⟨r, hr, hmem⟩ := List.mem_flatMap.1 hevent
    exact hall r hr event hmem

/-- In an empty directory the first call tags, the second one is refused, and the third one only reads. -/
example : auditTrail "." .initial [.admits .queue, .require .prefixQueue, .recorded] =
    [.tagged "." .queue, .checked "." .queue .prefixQueue] := by
  decide +kernel

end Marker
end CollectionMarker

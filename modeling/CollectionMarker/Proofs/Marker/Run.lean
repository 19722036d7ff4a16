import CollectionMarker.Marker.Procedure
import Mathlib.Data.Nat.Notation

/-! Runs of procedures, request by request. -/

namespace CollectionMarker

variable {ε ε' α β : Type} {fs after : FileSystem} {passed : List FileSystem} {events : List Event}

def Outcome.behind (o : Outcome ε α) (passed : List FileSystem) (events : List Event) : Outcome ε α :=
  ⟨o.result, o.files, passed ++ o.passed, events ++ o.events⟩

/-- The run has left the state as it was, all the time. -/
def Outcome.Keeps (o : Outcome ε α) (fs : FileSystem) : Prop :=
  o.files = fs ∧ ∀ s ∈ o.passed, s = fs

theorem Outcome.Keeps.replicate (r : Except ε α) (fs : FileSystem) (n : ℕ) (events : List Event) :
    Outcome.Keeps ⟨r, fs, List.replicate n fs, events⟩ fs :=
  ⟨rfl, fun _ hs => List.eq_of_mem_replicate hs⟩

namespace Procedure

theorem run_bind_ok {p : Procedure ε α} {a : α} (h : p.run fs = ⟨.ok a, after, passed, events⟩)
    (next : α → Procedure ε β) : (p >>= next).run fs = ((next a).run after).behind passed events := by
  change (p.andThen next).run fs = _
  unfold run andThen
  rw [h]
  rfl

theorem run_bind_error {p : Procedure ε α} {e : ε} (h : p.run fs = ⟨.error e, after, passed, events⟩)
    (next : α → Procedure ε β) : (p >>= next).run fs = ⟨.error e, after, passed, events⟩ := by
  change (p.andThen next).run fs = _
  unfold run andThen
  rw [h]

/-- Requests may be grouped in any way. -/
theorem bind_assoc {γ : Type} (p : Procedure ε α) (next : α → Procedure ε β) (last : β → Procedure ε γ) :
    p >>= next >>= last = p >>= fun a => next a >>= last := by
  funext fs
  change ((p >>= next) >>= last).run fs = (p >>= fun a => next a >>= last).run fs
  cases hp : p.run fs with
  | mk result after passed events =>
    cases result with
    | error e => rw [run_bind_error (run_bind_error hp next), run_bind_error hp]
    | ok a =>
      rw [run_bind_ok hp]
      cases hnext : (next a).run after with
      | mk result' after' passed' events' =>
        have hboth : (p >>= next).run fs = ⟨result', after', passed ++ passed', events ++ events'⟩ := by
          rw [run_bind_ok hp, hnext]
          rfl
        cases result' with
        | error e =>
          rw [run_bind_error hboth, run_bind_error hnext]
          rfl
        | ok b =>
          rw [run_bind_ok hboth, run_bind_ok hnext]
          simp [Outcome.behind]

theorem run_bind_pure (p : Procedure ε α) (f : α → β) (fs : FileSystem) :
    (p >>= fun a => pure (f a)).run fs =
      ⟨(p.run fs).result.map f, (p.run fs).files, (p.run fs).passed, (p.run fs).events⟩ := by
  cases hp : p.run fs with
  | mk result after passed events =>
    cases result with
    | error e => exact run_bind_error hp _
    | ok a =>
      rw [run_bind_ok hp]
      simp [Outcome.behind, Except.map, run, pure, done]

theorem run_request_ok {act : FileSystem → Except ε (α × FileSystem)} {a : α}
    (h : act fs = .ok (a, after)) : (request act).run fs = ⟨.ok a, after, [after], []⟩ := by
  simp only [run, request, h]

theorem run_request_error {act : FileSystem → Except ε (α × FileSystem)} {e : ε}
    (h : act fs = .error e) : (request act).run fs = ⟨.error e, fs, [fs], []⟩ := by
  simp only [run, request, h]

theorem run_inspect (ask : FileSystem → Except ε α) (fs : FileSystem) :
    (inspect ask).run fs = ⟨ask fs, fs, [fs], []⟩ := by
  cases h : ask fs <;> simp [run, inspect, request, h, Except.map]

theorem run_change_ok {act : FileSystem → Except ε FileSystem} (h : act fs = .ok after) :
    (change act).run fs = ⟨.ok (), after, [after], []⟩ :=
  run_request_ok (by simp [h, Except.map])

theorem run_change_error {act : FileSystem → Except ε FileSystem} {e : ε} (h : act fs = .error e) :
    (change act).run fs = ⟨.error e, fs, [fs], []⟩ :=
  run_request_error (by simp [h, Except.map])

theorem eq_ok_of_run_request {act : FileSystem → Except ε (α × FileSystem)} {a : α}
    (h : (request act).run fs = ⟨.ok a, after, passed, events⟩) : act fs = .ok (a, after) := by
  cases hact : act fs with
  | error e => simp [run_request_error hact] at h
  | ok r =>
    obtain ⟨rfl, rfl, -⟩ : r.1 = a ∧ r.2 = after ∧ _ := by simpa [run_request_ok hact] using h
    rfl

theorem eq_ok_of_run_change {act : FileSystem → Except ε FileSystem}
    (h : (change act).run fs = ⟨.ok (), after, passed, events⟩) : act fs = .ok after := by
  have hact := eq_ok_of_run_request h
  cases hfs : act fs <;> simp [hfs, Except.map] at hact ⊢
  exact hact

theorem run_mapError (f : ε → ε') {p : Procedure ε α} {r : Except ε α}
    (h : p.run fs = ⟨r, after, passed, events⟩) :
    (p.mapError f).run fs = ⟨r.mapError f, after, passed, events⟩ := by
  unfold run mapError
  rw [h]

theorem run_attempt {p : Procedure ε α} {r : Except ε α} (h : p.run fs = ⟨r, after, passed, events⟩) :
    (attempt p : Procedure ε' (Except ε α)).run fs = ⟨.ok r, after, passed, events⟩ := by
  unfold run attempt
  rw [h]

theorem run_pure (a : α) (fs : FileSystem) : (pure a : Procedure ε α).run fs = ⟨.ok a, fs, [], []⟩ := rfl

theorem run_fail (e : ε) (fs : FileSystem) : (fail e : Procedure ε α).run fs = ⟨.error e, fs, [], []⟩ := rfl

theorem run_log (event : Event) (fs : FileSystem) :
    (log event : Procedure ε Unit).run fs = ⟨.ok (), fs, [], [event]⟩ := rfl

end Procedure
end CollectionMarker

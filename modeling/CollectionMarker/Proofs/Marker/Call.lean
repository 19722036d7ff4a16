import CollectionMarker.Proofs.Marker.Reading

/-! The ways in as data. A call that asks for a collection settles the directory and answers about the
collection that it belongs to; a call that asks for none only reads. -/

namespace CollectionMarker.Marker

open Procedure

inductive Call
  | admits (c : Collection)
  | require (c : Collection)
  | recorded

inductive Answer
  | admitted (ok : Bool)
  | cleared
  | recorded (stored? : Option Collection)
  deriving DecidableEq

namespace Call

def procedure (dir : String) : Call → Procedure Failure Answer
  | .admits c => do return .admitted (← Marker.admits dir c)
  | .require c => do
    Marker.require dir c
    return .cleared
  | .recorded => do return .recorded (← Marker.recorded dir)

def requested? : Call → Option Collection
  | .admits c | .require c => some c
  | .recorded => none

/-- What a call answers about a directory of that collection. -/
def answer (stored : Collection) : Call → Except Failure Answer
  | .admits c => .ok (.admitted (stored.compatible c))
  | .require c => if stored.compatible c then .ok .cleared else .error (.incompatible stored c)
  | .recorded => .ok (.recorded (some stored))

end Call

variable {dir : String} {fs : FileSystem} {call : Call} {c stored : Collection} {f : Failure}

theorem Call.answer_cases (h : call.requested? = some c) (stored : Collection) :
    (stored.compatible c = true ∧
      (call.answer stored = .ok (.admitted true) ∨ call.answer stored = .ok .cleared)) ∨
    (stored.compatible c = false ∧
      (call.answer stored = .ok (.admitted false) ∨
        call.answer stored = .error (.incompatible stored c))) := by
  cases call with
  | recorded => cases h
  | admits requested | require requested =>
    obtain rfl : requested = c := Option.some.inj h
    cases hcompatible : stored.compatible requested <;> simp [Call.answer, hcompatible]

theorem Call.run_of_requested (h : call.requested? = some c) (dir : String) (fs : FileSystem) :
    (call.procedure dir).run fs =
      ⟨((settle dir c).run fs).result.bind call.answer, ((settle dir c).run fs).files,
        ((settle dir c).run fs).passed, ((settle dir c).run fs).events⟩ := by
  cases call with
  | recorded => cases h
  | admits requested =>
    obtain rfl : requested = c := Option.some.inj h
    unfold Call.procedure
    rw [run_bind_pure, run_admits]
    rcases (settle dir requested).run fs with ⟨f | stored, after, passed, events⟩ <;> rfl
  | require requested =>
    obtain rfl : requested = c := Option.some.inj h
    unfold Call.procedure
    rw [run_bind_pure _ fun _ => Answer.cleared, run_require]
    rcases (settle dir requested).run fs with ⟨f | stored, after, passed, events⟩
    · rfl
    · by_cases hcompatible : stored.compatible requested <;>
        simp [Call.answer, hcompatible, Except.bind, Except.map]

theorem Call.run_of_recorded (h : call.requested? = none) (dir : String) (fs : FileSystem) :
    ((call.procedure dir).run fs).result = (reading dir fs).map .recorded ∧
    ((call.procedure dir).run fs).Keeps fs := by
  cases call with
  | admits | require => cases h
  | recorded =>
    have hkeeps := recorded_keeps dir fs
    unfold Call.procedure
    rw [run_bind_pure, recorded_result]
    exact ⟨rfl, hkeeps.1, hkeeps.2⟩

theorem Call.events_of_recorded (h : call.requested? = none) (dir : String) (fs : FileSystem) :
    ((call.procedure dir).run fs).events = [] := by
  cases call with
  | admits | require => cases h
  | recorded =>
    obtain ⟨n, hrun⟩ := run_recorded dir fs
    unfold Call.procedure
    rw [run_bind_pure, hrun]

theorem Call.run_of_some (h : reading dir fs = .ok (some stored)) (call : Call) :
    ((call.procedure dir).run fs).result = call.answer stored ∧
    ((call.procedure dir).run fs).Keeps fs := by
  cases hcall : call.requested? with
  | none =>
    obtain ⟨hresult, hkeeps⟩ := Call.run_of_recorded hcall dir fs
    refine ⟨?_, hkeeps⟩
    rw [hresult, h]
    cases call with
    | admits | require => cases hcall
    | recorded => rfl
  | some c =>
    rw [Call.run_of_requested hcall, run_settle_of_some h]
    exact ⟨rfl, rfl, by simp⟩

theorem Call.run_of_error (h : reading dir fs = .error f) (call : Call) :
    ((call.procedure dir).run fs).result = .error f ∧ ((call.procedure dir).run fs).Keeps fs := by
  cases hcall : call.requested? with
  | none =>
    obtain ⟨hresult, hkeeps⟩ := Call.run_of_recorded hcall dir fs
    refine ⟨?_, hkeeps⟩
    rw [hresult, h]
    rfl
  | some c =>
    obtain ⟨n, hrun⟩ := run_settle_of_error h c
    rw [Call.run_of_requested hcall, hrun]
    exact ⟨rfl, .replicate _ fs n []⟩

end CollectionMarker.Marker

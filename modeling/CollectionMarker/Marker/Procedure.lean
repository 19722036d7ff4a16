import CollectionMarker.FileSystem.Basic
import CollectionMarker.Marker.Event

/-! Procedures: file system requests made one after another until one fails. Besides its result, a
run tells every state that it passed through, so it can be asked what a crash would leave behind,
and the events that it logged. -/

namespace CollectionMarker

structure Outcome (ε α : Type) where
  result : Except ε α
  /-- The state in which the run ends. -/
  files : FileSystem
  /-- The state after each request, in order. A request that fails changes nothing and counts. -/
  passed : List FileSystem
  events : List Event

/-- Requests to run in a given state; they fail with an `ε` or give an `α`. -/
def Procedure (ε α : Type) : Type := FileSystem → Outcome ε α

namespace Procedure
variable {ε ε' α β : Type}

def run (p : Procedure ε α) (fs : FileSystem) : Outcome ε α := p fs

def done (result : Except ε α) : Procedure ε α := fun fs => ⟨result, fs, [], []⟩

def fail (e : ε) : Procedure ε α := done (.error e)

def andThen (p : Procedure ε α) (next : α → Procedure ε β) : Procedure ε β := fun fs =>
  let first := p.run fs
  match first.result with
  | .error e => ⟨.error e, first.files, first.passed, first.events⟩
  | .ok a =>
    let second := (next a).run first.files
    ⟨second.result, second.files, first.passed ++ second.passed, first.events ++ second.events⟩

instance : Monad (Procedure ε) where
  pure a := done (.ok a)
  bind := andThen

def request (act : FileSystem → Except ε (α × FileSystem)) : Procedure ε α := fun fs =>
  match act fs with
  | .ok (a, after) => ⟨.ok a, after, [after], []⟩
  | .error e => ⟨.error e, fs, [fs], []⟩

def inspect (ask : FileSystem → Except ε α) : Procedure ε α :=
  request fun fs => (ask fs).map (·, fs)

def change (act : FileSystem → Except ε FileSystem) : Procedure ε Unit :=
  request fun fs => (act fs).map ((), ·)

def log (event : Event) : Procedure ε Unit := fun fs => ⟨.ok (), fs, [], [event]⟩

/-- Hands a failure on as a result. -/
def attempt (p : Procedure ε α) : Procedure ε' (Except ε α) := fun fs =>
  let outcome := p.run fs
  ⟨.ok outcome.result, outcome.files, outcome.passed, outcome.events⟩

def mapError (f : ε → ε') (p : Procedure ε α) : Procedure ε' α := fun fs =>
  let outcome := p.run fs
  ⟨outcome.result.mapError f, outcome.files, outcome.passed, outcome.events⟩

end Procedure
end CollectionMarker

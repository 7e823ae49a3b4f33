import Attestation.Event

namespace Attestation

/-- Someone who is told of each change of a report after it has happened. Observers keep what they
like, and cannot influence the report. An observer may break down over a check. -/
structure Observer (σ : Type) where
  onFailure : Attempt → Diagnostic → Transition → σ → σ
  onPass : Attempt → Check → Transition → σ → σ
  onSealed : Sealed → σ → σ
  onRefused : Attempt → Obstacle → σ → σ
  breaksOver : Check → Bool := fun _ => false

inductive Note where
  | failure (diagnostic : Diagnostic) (transition : Transition)
  | pass (check : Check) (transition : Transition)
  | sealed (valid : Bool)
  | refused (obstacle : Obstacle)
  deriving DecidableEq

namespace Observer

def silent : Observer Unit where
  onFailure _ _ _ s := s
  onPass _ _ _ s := s
  onSealed _ s := s
  onRefused _ _ s := s

def recording : Observer (List Note) where
  onFailure _ diagnostic transition notes := notes ++ [.failure diagnostic transition]
  onPass _ check transition notes := notes ++ [.pass check transition]
  onSealed report notes := notes ++ [.sealed report.valid]
  onRefused _ obstacle notes := notes ++ [.refused obstacle]

/-- Logs every failure, and a pass only when it changed the outcome of its check. -/
def logging : Observer (List Event) where
  onFailure attempt diagnostic transition events :=
    events ++ [.checkFailed attempt diagnostic (transition = .alreadyFailed)]
  onPass attempt check transition events :=
    if transition.changed then events ++ [.checkPassed attempt check] else events
  onSealed report events :=
    events ++
      [.reportSealed report.attempt report.valid report.failedChecks.length report.binding.isSome]
  onRefused attempt obstacle events := events ++ [.reportNotSealed attempt obstacle]

end Observer

structure Observed (σ : Type) where
  report : Report
  kept : σ

namespace Observed

variable {σ : Type}

def recordFailure (observer : Observer σ) (o : Observed σ) (check : Check)
    (actual expected : Value) : Observed σ × Transition :=
  let (report, transition) := o.report.recordFailure check actual expected
  match report.log.getLast? with
  | some diagnostic =>
    (⟨report, observer.onFailure report.attempt diagnostic transition o.kept⟩, transition)
  | none => (⟨report, o.kept⟩, transition)

def recordFailureNamed (observer : Observer σ) (o : Observed σ) (name : String)
    (actual expected : Value) : Except NameError (Observed σ × Transition) :=
  match Check.ofName? name with
  | some check => .ok (o.recordFailure observer check actual expected)
  | none => .error (.unknownCheck name)

def recordPass (observer : Observer σ) (o : Observed σ) (check : Check) :
    Observed σ × Transition :=
  let (report, transition) := o.report.recordPass check
  (⟨report, observer.onPass report.attempt check transition o.kept⟩, transition)

def record (observer : Observer σ) (o : Observed σ) : Signal → Observed σ × Transition
  | .pass check => o.recordPass observer check
  | .failure check actual expected => o.recordFailure observer check actual expected

def sealWith (observer : Observer σ) (o : Observed σ) (binding : Option Binding)
    (policy : Policy) : Except Refusal Sealed × σ :=
  match o.report.sealWith binding policy with
  | .ok report => (.ok report, observer.onSealed report o.kept)
  | .error refusal => (.error refusal, observer.onRefused o.report.attempt refusal.obstacle o.kept)

end Observed

end Attestation

import Attestation.Outcome
import Attestation.Report
import Attestation.View

namespace Attestation

structure Sealed where
  attempt : Attempt
  outcomes : Check → Outcome
  log : List Diagnostic
  binding : Option Binding

inductive Obstacle where
  | incompleteCoverage (missing : List Check)
  | unprovenBinding
  deriving DecidableEq

def Obstacle.message : Obstacle → String
  | .incompleteCoverage missing =>
    "report is incomplete, unevaluated checks: " ++ ", ".intercalate (missing.map Check.wireName)
  | .unprovenBinding => "identity binding supplied but the proof check did not pass"

structure Refusal where
  obstacle : Obstacle
  policy : Policy
  report : Report

namespace Sealed

def flag (sealed : Sealed) (check : Check) : Bool := (sealed.outcomes check).flag

def valid (sealed : Sealed) : Bool := Check.all.all sealed.flag

def failedChecks (sealed : Sealed) : List Check := Check.all.filter fun c => !sealed.flag c

def logOf (sealed : Sealed) (check : Check) : List Diagnostic :=
  sealed.log.filter fun d => d.check = check

def userIdentifier (sealed : Sealed) : String := (sealed.binding.map (·.userIdentifier)).getD ""

def nullifier (sealed : Sealed) : String := (sealed.binding.map (·.nullifier)).getD ""

def view (sealed : Sealed) : View := .ofOutcomes sealed.outcomes sealed.binding

end Sealed

namespace Report

def view (report : Report) : View := .ofOutcomes report.outcomes none

/-- What stands in the way of sealing, if anything. Missing coverage comes before the binding. -/
def obstacle? (report : Report) (binding : Option Binding) (policy : Policy) : Option Obstacle :=
  if policy = .strict ∧ report.unevaluatedChecks ≠ [] then
    some (.incompleteCoverage report.unevaluatedChecks)
  else if binding.isSome ∧ report.outcomes .proof ≠ .passed then some .unprovenBinding
  else none

/-- Seals a report. This is the only way to bind an identity, and it takes a passed proof. -/
def sealWith (report : Report) (binding : Option Binding) (policy : Policy) :
    Except Refusal Sealed :=
  match report.obstacle? binding policy with
  | some obstacle => .error ⟨obstacle, policy, report⟩
  | none => .ok ⟨report.attempt, report.outcomes, report.log, binding⟩

end Report

namespace Refusal

/-- The view of a refused report shows no identity. Under the strict policy, what was not evaluated
counts as failed. -/
def view (refusal : Refusal) : View :=
  .ofFlags
    (fun c =>
      match refusal.report.outcomes c with
      | .notEvaluated => refusal.policy ≠ .strict
      | outcome => outcome.flag)
    none

end Refusal

inductive ReportError where
  | obstacle (reason : Obstacle)
  | unknownName (error : NameError)
  | collectorClosed
  | writerFailed (reason : String)
  | malformedView (reason : String)
  deriving DecidableEq

def ReportError.message : ReportError → String
  | .obstacle reason => reason.message
  | .unknownName error => "core error: " ++ error.message
  | .collectorClosed => "report collector is closed"
  | .writerFailed reason => "report writer task failed: " ++ reason
  | .malformedView reason => "malformed report view: " ++ reason

end Attestation

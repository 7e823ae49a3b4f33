import Attestation.Verifier

namespace Attestation

inductive SummaryEntry where
  | failed (check : Check)
  | values (diagnostic : Diagnostic)
  | missing (check : Check)
  | refused (obstacle : Obstacle)
  deriving DecidableEq

def SummaryEntry.toText : SummaryEntry → String
  | .failed check => "  [FAIL] " ++ check.wireName ++ "\n"
  | .values diagnostic =>
    "         actual: " ++ diagnostic.actual.toText ++ ", expected: " ++
      diagnostic.expected.toText ++ "\n"
  | .missing check => "  [MISSING] " ++ check.wireName ++ "\n"
  | .refused obstacle => "  refused: " ++ obstacle.message ++ "\n"

structure Presentation where
  view : View
  accepted : Bool
  summary : List SummaryEntry

namespace Presentation

def failures (failed : List Check) (log : List Diagnostic) : List SummaryEntry :=
  failed.flatMap fun c => .failed c :: (log.filter fun d => d.check = c).map .values

def ofSealed (report : Sealed) : Presentation where
  view := report.view
  accepted := report.valid
  summary := failures report.failedChecks report.log

/-- The checks that were not evaluated are missing under the strict policy only. -/
def ofRefusal (refusal : Refusal) : Presentation where
  view := refusal.view
  accepted := false
  summary :=
    failures refusal.report.failedChecks refusal.report.log ++
      (if refusal.policy = .strict then refusal.report.unevaluatedChecks.map .missing else []) ++
      [.refused refusal.obstacle]

/-- A refused report is shown too; any other error leaves nothing to show. -/
def ofResult : Except VerifierError Sealed → Except VerifierError Presentation
  | .ok report => .ok (ofSealed report)
  | .error (.refused refusal) => .ok (ofRefusal refusal)
  | .error error => .error error

def summaryText (shown : Presentation) : String :=
  String.join (shown.summary.map SummaryEntry.toText)

end Presentation

end Attestation

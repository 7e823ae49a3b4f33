import Attestation.Check
import Attestation.Outcome
import Attestation.Value.Document

namespace Attestation

abbrev Attempt := BitVec 128

namespace Attempt

/-- An identifier that starts with the time, so that later attempts have greater ones, and goes on
at random. Its version is 7 and its variant 2. -/
def ofTime (milliseconds : Nat) (drawn : BitVec 74) : Attempt :=
  BitVec.ofNat 48 milliseconds ++ (7 : BitVec 4) ++ drawn.extractLsb' 62 12 ++ (2 : BitVec 2) ++
    drawn.extractLsb' 0 62

def groups : List (Nat × Nat) := [(0, 8), (8, 4), (12, 4), (16, 4), (20, 12)]

def toText (attempt : Attempt) : String :=
  let digits := attempt.toHex.toList
  "-".intercalate (groups.map fun (start, length) =>
    String.ofList ((digits.drop start).take length))

end Attempt

inductive Signal where
  | pass (check : Check)
  | failure (check : Check) (actual expected : Value)
  deriving DecidableEq

def Signal.check : Signal → Check
  | .pass check => check
  | .failure check _ _ => check

structure Diagnostic where
  sequence : Nat
  check : Check
  actual : Value
  expected : Value
  deriving DecidableEq

inductive Transition where
  | passed
  | failed
  | alreadyFailed
  | unchanged
  deriving DecidableEq

def Transition.changed : Transition → Bool
  | .passed | .failed => true
  | .alreadyFailed | .unchanged => false

inductive NameError where
  | unknownCheck (name : String)
  | unknownPolicy (name : String)
  deriving DecidableEq

def NameError.message : NameError → String
  | .unknownCheck name => "unknown check: " ++ name
  | .unknownPolicy name => "unknown coverage policy: " ++ name

structure Report where
  attempt : Attempt
  outcomes : Check → Outcome
  log : List Diagnostic

def setOutcome (outcomes : Check → Outcome) (check : Check) (outcome : Outcome) : Check → Outcome :=
  fun c => if c = check then outcome else outcomes c

namespace Report

def new (attempt : Attempt) : Report := ⟨attempt, fun _ => .notEvaluated, []⟩

def recordPass (report : Report) (check : Check) : Report × Transition :=
  let before := report.outcomes check
  ({ report with outcomes := setOutcome report.outcomes check before.onPass },
    if before = .notEvaluated then .passed else .unchanged)

def recordFailure (report : Report) (check : Check) (actual expected : Value) :
    Report × Transition :=
  let before := report.outcomes check
  ({ report with
      outcomes := setOutcome report.outcomes check before.onFailure
      log := report.log ++ [⟨report.log.length, check, actual, expected⟩] },
    if before = .failed then .alreadyFailed else .failed)

def record (report : Report) : Signal → Report × Transition
  | .pass check => report.recordPass check
  | .failure check actual expected => report.recordFailure check actual expected

def recordFailureNamed (report : Report) (name : String) (actual expected : Value) :
    Except NameError (Report × Transition) :=
  match Check.ofName? name with
  | some check => .ok (report.recordFailure check actual expected)
  | none => .error (.unknownCheck name)

def recordAll (report : Report) (signals : List Signal) : Report :=
  signals.foldl (fun report signal => (report.record signal).1) report

def flag (report : Report) (check : Check) : Bool := (report.outcomes check).flag

def valid (report : Report) : Bool := Check.all.all report.flag

def isComplete (report : Report) : Bool := Check.all.all fun c => (report.outcomes c).isEvaluated

def failedChecks (report : Report) : List Check :=
  Check.all.filter fun c => report.outcomes c = .failed

def unevaluatedChecks (report : Report) : List Check :=
  Check.all.filter fun c => report.outcomes c = .notEvaluated

end Report

namespace Diagnostic

open Json

def greatestSequence : Int := UInt64.size - 1

def layout : Layout Diagnostic where
  fields :=
    [⟨"sequence", fun tree d =>
        return { d with sequence := (← tree.readInteger 0 greatestSequence).toNat }⟩,
      ⟨"check", fun tree d =>
        return { d with check := ← tree.readVariant Check.all Check.wireName }⟩,
      ⟨"actual", fun tree d => return { d with actual := ← Value.ofTree false 1 tree }⟩,
      ⟨"expected", fun tree d => return { d with expected := ← Value.ofTree false 1 tree }⟩]
  start := ⟨0, .scope, .empty, .empty⟩
  isPartial := false

def toDocument (d : Diagnostic) : Document :=
  .object
    [("sequence", .integer d.sequence), ("check", .string d.check.wireName),
      ("actual", d.actual.toDocument), ("expected", d.expected.toDocument)]

end Diagnostic

end Attestation

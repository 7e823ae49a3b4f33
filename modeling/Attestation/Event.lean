import Attestation.Report.Sealed

namespace Attestation

inductive Level where
  | trace
  | debug
  | info
  | warn
  | error
  deriving DecidableEq

def Level.wireName : Level → String
  | .trace => "TRACE"
  | .debug => "DEBUG"
  | .info => "INFO"
  | .warn => "WARN"
  | .error => "ERROR"

/-- How much an event matters: the least of the levels says the most. -/
def Level.severity : Level → Nat
  | .trace => 1
  | .debug => 2
  | .info => 3
  | .warn => 4
  | .error => 5

inductive Source where
  | observer
  | collector
  | verifier
  | initialization
  deriving DecidableEq

def Source.all : List Source := [.observer, .collector, .verifier, .initialization]

def Source.target : Source → String
  | .observer => "attest_report::observer"
  | .collector => "attest_report::collector"
  | .verifier => "attest_verifier::verifier"
  | .initialization => "attest::commands::init"

inductive Event where
  | checkFailed (attempt : Attempt) (diagnostic : Diagnostic) (repeated : Bool)
  | checkPassed (attempt : Attempt) (check : Check)
  | reportSealed (attempt : Attempt) (valid : Bool) (failed : Nat) (bound : Bool)
  | reportNotSealed (attempt : Attempt) (obstacle : Obstacle)
  | writerDrained (attempt : Attempt)
  | routineRegistered (check : Check)
  | verificationStarted (attempt : Attempt) (supplied routines : Nat)
  | routineErrored (attempt : Attempt) (check : Check) (error : String)
  | bindingWithheld (attempt : Attempt) (proof : Outcome)
  | configWritten (path : String)
  deriving DecidableEq

namespace Event

def level : Event → Level
  | .checkFailed .. | .routineErrored .. | .bindingWithheld .. => .warn
  | .checkPassed .. | .routineRegistered .. => .debug
  | .reportSealed .. | .verificationStarted .. | .configWritten _ => .info
  | .reportNotSealed .. => .error
  | .writerDrained _ => .trace

def source : Event → Source
  | .checkFailed .. | .checkPassed .. | .reportSealed .. | .reportNotSealed .. => .observer
  | .writerDrained _ => .collector
  | .routineRegistered .. | .verificationStarted .. | .routineErrored .. | .bindingWithheld .. =>
    .verifier
  | .configWritten _ => .initialization

def message : Event → String
  | .checkFailed .. => "check failed"
  | .checkPassed .. => "check passed"
  | .reportSealed .. => "verification report sealed"
  | .reportNotSealed .. => "verification report not sealed"
  | .writerDrained _ => "report writer drained"
  | .routineRegistered .. => "registered check routine"
  | .verificationStarted .. => "starting verification"
  | .routineErrored .. => "check routine errored"
  | .bindingWithheld .. => "identity binding withheld: proof check did not pass"
  | .configWritten _ => "wrote default configuration"

open Json (Document)

/-- The attempt that an event belongs to. Setting up a verifier or a configuration has none. -/
def attempt? : Event → Option Attempt
  | .checkFailed attempt .. | .checkPassed attempt _ | .reportSealed attempt .. |
    .reportNotSealed attempt _ | .writerDrained attempt | .verificationStarted attempt .. |
    .routineErrored attempt .. | .bindingWithheld attempt _ => some attempt
  | .routineRegistered _ | .configWritten _ => none

def details : Event → List (String × Document)
  | .checkFailed _ d repeated =>
    [("check", .string d.check.wireName), ("category", .string d.check.category.wireName),
      ("actual", .string d.actual.toText), ("expected", .string d.expected.toText),
      ("repeated", .boolean repeated)]
  | .checkPassed _ check | .routineRegistered check => [("check", .string check.wireName)]
  | .reportSealed _ valid failed bound =>
    [("valid", .boolean valid), ("failed", .integer failed), ("bound", .boolean bound)]
  | .reportNotSealed _ obstacle => [("error", .string obstacle.message)]
  | .writerDrained _ => []
  | .verificationStarted _ supplied routines =>
    [("supplied", .integer supplied), ("routines", .integer routines)]
  | .routineErrored _ check error => [("check", .string check.wireName), ("error", .string error)]
  | .bindingWithheld _ proof => [("proof", .string proof.wireName)]
  | .configWritten path => [("path", .string path)]

def fields (event : Event) : List (String × Document) :=
  (event.attempt?.toList.map fun attempt => ("attempt", .string attempt.toText)) ++ event.details

def fieldNames (event : Event) : List String := "message" :: event.fields.map (·.1)

def toDocument (event : Event) : Document :=
  .object
    ([("level", .string event.level.wireName), ("message", .string event.message)] ++ event.details)

def toLogDocument (event : Event) : Document :=
  .object
    [("level", .string event.level.wireName),
      ("fields", .object (("message", .string event.message) :: event.fields)),
      ("target", .string event.source.target)]

def fieldText (field : String × Document) : String :=
  field.1 ++ "=" ++
    match field.2 with
    | .string content => content
    | value => value.toText

def toLogLine (event : Event) : String :=
  " ".intercalate
    ([event.level.wireName, event.source.target ++ ":", event.message] ++
      event.fields.map fieldText)

end Event

end Attestation

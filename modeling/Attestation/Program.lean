import Attestation.Command.Arguments
import Attestation.Config
import Attestation.Event.Filter
import Attestation.Summary
import Attestation.View

namespace Attestation

/-- What the program finds around it. A filter that is set from outside goes before the configured
level of the log. -/
structure Environment where
  today : Date
  attempt : Attempt
  filter : Option String

inductive Failure where
  | config (fault : ConfigFault) (path : String)
  | configExists (path : String)
  | configNotSaved (fault : SaveFault) (path : String)
  | unreadableSubmission (path : String)
  | verifier (error : VerifierError)
  | rejected

def PathFault.message : PathFault → String
  | .missing => "No such file or directory (os error 2)"
  | .nameTaken => "File exists (os error 17)"
  | .notDirectory => "Not a directory (os error 20)"
  | .nameTooLong => "File name too long (os error 36)"

def Failure.message : Failure → String
  | .config .unreadable path => "failed to read config " ++ path
  | .config .malformed path => "invalid config " ++ path
  | .configExists path => "configuration file already exists at " ++ path
  | .configNotSaved (.noDirectory fault) _ => fault.message
  | .configNotSaved .unwritable path => "failed to write config " ++ path
  | .unreadableSubmission path => "failed to read submission " ++ path
  | .verifier error => error.message
  | .rejected => "attestation rejected"

structure Work where
  report : String := ""
  notes : String := ""
  events : List Event := []
  failure : Option Failure := none

structure Output where
  report : String
  notes : String
  events : List Event
  asDocuments : Bool
  status : UInt8

def lines (texts : List String) : String := String.join (texts.map (· ++ "\n"))

namespace Logging

def withLevel (logging : Logging) (level : Option String) : Logging :=
  { logging with level := level.getD logging.level }

def filter (logging : Logging) (env : Environment) : Filter × List String :=
  match env.filter.bind Filter.ofText? with
  | some filter => (filter, [])
  | none => Filter.ofTextLeniently logging.level

end Logging

namespace Output

def failedStatus : UInt8 := 1
def misuseStatus : UInt8 := 2

def errorLine (failure : Failure) : String := "Error: " ++ failure.message ++ "\n"

def failed (failure : Failure) : Output := ⟨"", errorLine failure, [], false, failedStatus⟩

def ofWork (logging : Logging) (env : Environment) (work : Work) : Output :=
  let (filter, complaints) := logging.filter env
  { report := work.report
    notes := lines complaints ++ work.notes ++ (work.failure.map errorLine).getD ""
    events := work.events.filter filter.shows
    asDocuments := logging.format == "json"
    status := if work.failure.isSome then failedStatus else 0 }

def logLines (output : Output) : List String :=
  output.events.map fun event =>
    if output.asDocuments then event.toLogDocument.toText else event.toLogLine

end Output

namespace VerifyCommand

def text (command : VerifyCommand) : Stored → Except Failure String
  | .nothing => .ok command.submission
  | .unreadable => .error (.unreadableSubmission command.submission)
  | .text content => .ok content

def verifier (command : VerifyCommand) (config : Config) : Verifier :=
  .new { config.options with policy := command.policy.getD config.options.policy }
    config.requirements

def reportText (command : VerifyCommand) (view : View) : String :=
  (if command.pretty then view.toIndentedText else view.toText) ++ "\n"

def notes (shown : Presentation) : String :=
  if shown.accepted then "Attestation is VALID\n"
  else "Attestation is INVALID\n" ++ shown.summaryText

/-- Prints a result. Unless invalid attestations are allowed, one that is not accepted is a
failure. -/
def present (command : VerifyCommand) (shown : Presentation) (events : List Event) : Work where
  report := command.reportText shown.view
  notes := notes shown
  events := events
  failure := if shown.accepted || command.allowInvalid then none else some .rejected

def workOn (command : VerifyCommand) (env : Environment) (config : Config)
    (submission : Submission) : Work :=
  let (result, events) :=
    (command.verifier config).verify env.attempt submission (command.today.getD env.today)
  match Presentation.ofResult result with
  | .ok shown => command.present shown events
  | .error error => { events := events, failure := some (.verifier error) }

def work (command : VerifyCommand) (env : Environment) (config : Config) (stored : Stored) : Work :=
  match command.text stored with
  | .error failure => { failure := some failure }
  | .ok text =>
    match Submission.ofText text with
    | .error fault => { failure := some (.verifier (.invalidSubmission fault.message)) }
    | .ok submission => command.workOn env config submission

end VerifyCommand

def vocabularyText (plain : Bool) : String :=
  if plain then lines (Check.all.map Check.wireName)
  else
    String.join (Category.all.map fun category =>
      lines ((category.wireName ++ ":") ::
        (Check.all.filter fun c => c.category = category).map fun c => "  " ++ c.wireName))

def nextStepsText (path : String) : String :=
  lines
    ["Initialized Attest configuration at " ++ path, "", "Next steps:",
      "  1. Set [requirements] to the attributes your application needs",
      "  2. Run \x60attest verify --submission <file>\x60"]

namespace Invocation

variable {m : Type → Type} [Monad m]

def setUp (storage : Storage m) (path : String) (force : Bool) : m Work := do
  let stored ← storage.look path
  if stored ≠ .nothing ∧ !force then return { failure := some (.configExists path) }
  match ← storage.save path (default : Config).toText with
  | .ok () => return { report := nextStepsText path, events := [.configWritten path] }
  | .error fault => return { failure := some (.configNotSaved fault path) }

/-- Only verifying reads the configuration, so a broken one can be replaced. -/
def run (storage : Storage m) (env : Environment) (i : Invocation) : m Output := do
  let logging := (default : Config).logging.withLevel i.logLevel
  match i.command with
  | .init force => return .ofWork logging env (← setUp storage i.configPath force)
  | .checks plain => return .ofWork logging env { report := vocabularyText plain }
  | .verify command =>
    match Config.ofStored (← storage.look i.configPath) with
    | .error fault => return .failed (.config fault i.configPath)
    | .ok config =>
      let stored ← storage.look command.submission
      return .ofWork (config.logging.withLevel i.logLevel) env (command.work env config stored)

end Invocation

def versionText : String := "attest 0.1.0\n"

def usageText : String :=
  lines
    ["Usage: attest [--config <path>] [--log-level <level>] <command>", "", "Commands:",
      "  init [--force]",
      "  verify --submission <file or text> [--pretty] [--allow-invalid] [--today <date>] " ++
        "[--policy <policy>]",
      "  checks [--plain]"]

def respond {m : Type → Type} [Monad m] (storage : Storage m) (env : Environment)
    (arguments : List String) : m Output :=
  match Request.ofArguments? arguments with
  | some (.run invocation) => invocation.run storage env
  | some .version => return ⟨versionText, "", [], false, 0⟩
  | some .help => return ⟨usageText, "", [], false, 0⟩
  | none => return ⟨"", usageText, [], false, Output.misuseStatus⟩

end Attestation

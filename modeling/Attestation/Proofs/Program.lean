import Attestation.Program
import Attestation.Proofs.Command.Arguments
import Attestation.Proofs.Verifier.Acceptance
import Attestation.Proofs.View.Writing

namespace Attestation

namespace Output

/-- Behind the complaints about the level of the log, the notes go on with this line and end with
the rest. -/
def Announces (output : Output) (complaints : List String) (line rest : String) : Prop :=
  output.notes = lines complaints ++ (line ++ "\n" ++ rest)

theorem announces_iff {output : Output} {complaints : List String} {valid : Bool} {rest : String}
    (notes : output.notes = lines complaints ++
      ((if valid then "Attestation is VALID\n" else "Attestation is INVALID\n") ++ rest))
    (other : String) :
    (output.Announces complaints "Attestation is VALID" other ↔ valid = true ∧ other = rest) ∧
      (output.Announces complaints "Attestation is INVALID" other ↔
        valid = false ∧ other = rest) := by
  have exclusive (a b : String) :
      "Attestation is VALID\n" ++ a ≠ "Attestation is INVALID\n" ++ b := by
    intro same
    have spelled := congrArg String.toList same
    simp at spelled
  simp only [Announces, notes, String.append_right_inj]
  cases valid
  · have apart := (exclusive other rest).symm
    simp [apart, eq_comm]
  · have apart := exclusive rest other
    simp [apart, eq_comm]

theorem failedStatus_ne : failedStatus ≠ 0 := by decide

theorem status_ofWork_iff (logging : Logging) (env : Environment) (work : Work) :
    (ofWork logging env work).status = 0 ↔ work.failure = none := by
  cases found : work.failure <;> simp [ofWork, found, failedStatus_ne]

end Output

namespace Presentation

/-- Whether an attempt counts as accepted is not read from the view, and yet both agree. -/
theorem exists_ofResult_verify (v : Verifier) (attempt : Attempt) (submission : Submission)
    (today : Date) :
    ∃ shown, ofResult (v.verify attempt submission today).1 = .ok shown ∧
      shown.accepted = shown.view.valid := by
  obtain ⟨report, sealed⟩ | ⟨refusal, refused, invalid⟩ :=
    v.verifyInOrder_cases attempt submission today (Routine.completionOrder_perm _)
  · refine ⟨ofSealed report, ?_, rfl⟩
    rw [Verifier.verify, sealed, ofResult]
  · refine ⟨ofRefusal refusal, ?_, invalid.symm⟩
    rw [Verifier.verify, refused, ofResult]

end Presentation

def Storage.lookFrom {σ : Type} (storage : Storage (StateM σ)) (state : σ) (path : String) :
    Stored × σ := ((storage.look path).run state).run

namespace VerifyCommand

structure Finds {σ : Type} (command : VerifyCommand) (storage : Storage (StateM σ)) (state : σ)
    (path : String) (config : Config) (submission : Submission) : Prop where
  config_eq : Config.ofStored (storage.lookFrom state path).1 = .ok config
  submission_eq : ∃ text,
    command.text (storage.lookFrom (storage.lookFrom state path).2 command.submission).1 =
      .ok text ∧
    Submission.ofText text = .ok submission

def result (command : VerifyCommand) (env : Environment) (config : Config)
    (submission : Submission) : Except VerifierError Sealed :=
  ((command.verifier config).verify env.attempt submission (command.today.getD env.today)).1

theorem exists_workOn (command : VerifyCommand) (env : Environment) (config : Config)
    (submission : Submission) :
    ∃ shown events, Presentation.ofResult (command.result env config submission) = .ok shown ∧
      shown.accepted = shown.view.valid ∧
      command.workOn env config submission = command.present shown events := by
  obtain ⟨shown, presented, agreeing⟩ := Presentation.exists_ofResult_verify
    (command.verifier config) env.attempt submission (command.today.getD env.today)
  let events := ((command.verifier config).verify env.attempt submission
    (command.today.getD env.today)).2
  refine ⟨shown, events, presented, agreeing, ?_⟩
  simp only [workOn, presented]
  rfl

theorem ofText_reportText (command : VerifyCommand) (view : View) :
    View.ofText (command.reportText view) = .ok view := by
  have newline : "\n" = String.ofList ['\n'] := rfl
  have space : ∀ c ∈ ['\n'], Json.Scanner.isSpace c = true := List.forall_mem_singleton.mpr rfl
  rw [reportText, newline]
  split
  · exact view.ofText_toIndentedText_append space
  · exact view.ofText_toText_append space

theorem failure_present_iff (command : VerifyCommand) (shown : Presentation) (events : List Event) :
    (command.present shown events).failure = none ↔
      shown.accepted = true ∨ command.allowInvalid = true := by
  rw [← Bool.or_eq_true, present]
  cases shown.accepted || command.allowInvalid <;> simp

def afterVerdict (command : VerifyCommand) (shown : Presentation) : String :=
  if shown.accepted then ""
  else shown.summaryText ++ if command.allowInvalid then "" else Output.errorLine .rejected

theorem notes_present (command : VerifyCommand) (shown : Presentation) (events : List Event)
    (logging : Logging) (env : Environment) :
    (Output.ofWork logging env (command.present shown events)).notes =
      lines (logging.filter env).2 ++
        ((if shown.accepted then "Attestation is VALID\n" else "Attestation is INVALID\n") ++
          command.afterVerdict shown) := by
  let failed := ((command.present shown events).failure.map Output.errorLine).getD ""
  have notes_eq : (Output.ofWork logging env (command.present shown events)).notes =
      lines (logging.filter env).2 ++ notes shown ++ failed := rfl
  rw [notes_eq, String.append_assoc, String.append_right_inj]
  cases accepted : shown.accepted <;> cases allowed : command.allowInvalid <;>
    simp [notes, afterVerdict, failed, present, accepted, allowed, String.append_assoc]

end VerifyCommand

section Verify

variable {arguments : List String} {path : String} {level : Option String} {command : VerifyCommand}
  {σ : Type} (storage : Storage (StateM σ)) (state : σ) (env : Environment)

theorem respond_verify
    (parsed : Request.ofArguments? arguments = some (.run ⟨path, level, .verify command⟩)) :
    ((respond storage env arguments).run state).run.1 =
      match Config.ofStored (storage.lookFrom state path).1 with
      | .error fault => .failed (.config fault path)
      | .ok config => .ofWork (config.logging.withLevel level) env (command.work env config
          (storage.lookFrom (storage.lookFrom state path).2 command.submission).1) := by
  simp only [respond, parsed, Invocation.run, StateT.run_bind, Id.run_bind, Storage.lookFrom]
  cases Config.ofStored ((storage.look path).run state).run.1 <;> rfl

theorem respond_verify_unread
    (parsed : Request.ofArguments? arguments = some (.run ⟨path, level, .verify command⟩))
    (unread : ¬ ∃ config submission, command.Finds storage state path config submission) :
    ((respond storage env arguments).run state).run.1.report = "" ∧
      ((respond storage env arguments).run state).run.1.status ≠ 0 := by
  rw [respond_verify storage state env parsed]
  cases configured : Config.ofStored (storage.lookFrom state path).1 with
  | error fault => exact ⟨rfl, Output.failedStatus_ne⟩
  | ok config =>
    simp only [VerifyCommand.work, ne_eq, Output.status_ofWork_iff]
    cases readable : command.text
      (storage.lookFrom (storage.lookFrom state path).2 command.submission).1 with
    | error failure => exact ⟨rfl, nofun⟩
    | ok text =>
      cases wellFormed : Submission.ofText text with
      | error fault =>
        simp only [wellFormed]
        exact ⟨rfl, nofun⟩
      | ok submission =>
        exact absurd ⟨config, submission, configured, text, readable, wellFormed⟩ unread

theorem respond_verify_found
    (parsed : Request.ofArguments? arguments = some (.run ⟨path, level, .verify command⟩))
    {config : Config} {submission : Submission}
    (found : command.Finds storage state path config submission) :
    ((respond storage env arguments).run state).run.1 =
      .ofWork (config.logging.withLevel level) env (command.workOn env config submission) := by
  obtain ⟨configured, text, readable, wellFormed⟩ := found
  simp only [respond_verify storage state env parsed, configured, VerifyCommand.work, readable,
    wellFormed]

/-- What is printed, the verdict in words and the exit status never disagree. Either the
configuration or the submission cannot be read, and the program prints nothing and fails. Or it
prints one view, which can be read back and whose `valid` decides the rest; and that of a refused
attempt is never valid.

Behind the verdict of an attempt that is not accepted stand its summary and the error. Texts stand
in the summary as they are, so one with a line break puts further lines there, which may look like
the verdict itself: see `Attestation.Proofs.Summary.Lines`. -/
theorem respond_verify_agrees
    (parsed : Request.ofArguments? arguments = some (.run ⟨path, level, .verify command⟩)) :
    let output := ((respond storage env arguments).run state).run.1
    ((¬ ∃ config submission, command.Finds storage state path config submission) →
      output.report = "" ∧ output.status ≠ 0) ∧
    ∀ config submission, command.Finds storage state path config submission →
      let complaints := ((config.logging.withLevel level).filter env).2
      let result := command.result env config submission
      ∃ shown, Presentation.ofResult result = .ok shown ∧
        let view := shown.view
        output.report =
          (if "--pretty" ∈ arguments then view.toIndentedText else view.toText) ++ "\n" ∧
        View.ofText output.report = .ok view ∧
        (∀ rest, output.Announces complaints "Attestation is VALID" rest ↔
          view.valid = true ∧ rest = "") ∧
        (∀ rest, output.Announces complaints "Attestation is INVALID" rest ↔
          view.valid = false ∧ rest = shown.summaryText ++
            if "--allow-invalid" ∈ arguments then "" else Output.errorLine .rejected) ∧
        (output.status = 0 ↔ view.valid = true ∨ "--allow-invalid" ∈ arguments) ∧
        (∀ report, result = .ok report → view = report.view) ∧
        ∀ refusal, result = .error (.refused refusal) →
          view = refusal.view ∧ view.valid = false := by
  intro output
  refine ⟨respond_verify_unread storage state env parsed, ?_⟩
  intro config submission found complaints result
  obtain ⟨shown, events, presented, agreeing, worked⟩ :=
    command.exists_workOn env config submission
  change Presentation.ofResult result = .ok shown at presented
  have output_eq : output = .ofWork (config.logging.withLevel level) env
      (command.present shown events) := by
    rw [← worked]
    exact respond_verify_found storage state env parsed found
  have report_eq : output.report = command.reportText shown.view := by
    rw [output_eq]
    rfl
  have printed : output.report = (if "--pretty" ∈ arguments then shown.view.toIndentedText
      else shown.view.toText) ++ "\n" := by
    simp only [report_eq, VerifyCommand.reportText, Request.pretty_iff parsed]
  have reads : View.ofText output.report = .ok shown.view := by
    rw [report_eq]
    exact command.ofText_reportText shown.view
  have status : output.status = 0 ↔ shown.view.valid = true ∨ "--allow-invalid" ∈ arguments := by
    rw [output_eq, Output.status_ofWork_iff, command.failure_present_iff, agreeing,
      Request.allowInvalid_iff parsed]
  have notes := command.notes_present shown events (config.logging.withLevel level) env
  rw [← output_eq, agreeing] at notes
  have announced := Output.announces_iff notes
  refine ⟨shown, presented, printed, reads, ?_, ?_, status, ?_, ?_⟩
  · intro rest
    rw [(announced rest).1]
    refine and_congr_right fun valid => ?_
    rw [VerifyCommand.afterVerdict, agreeing, if_pos valid]
  · intro rest
    rw [(announced rest).2]
    refine and_congr_right fun invalid => ?_
    simp only [VerifyCommand.afterVerdict, agreeing, invalid, Bool.false_eq_true, if_false,
      Request.allowInvalid_iff parsed]
  · intro report sealed
    rw [sealed] at presented
    cases presented
    rfl
  · intro refusal refused
    rw [refused] at presented
    cases presented
    exact ⟨rfl, agreeing.symm⟩

/-- Nothing is stored, so the defaults hold and the submission is the argument itself. Nobody
decides the checks that are not compared: the attempt is refused, and shown, and the exit status is
0 only as the arguments allow it. -/
theorem respond_verify_shows_refusal :
    let arguments := ["verify", "--submission", "\x7b\x7d", "--pretty", "--allow-invalid"]
    let env : Environment := ⟨default, 0, none⟩
    let storage : Storage (StateM Unit) := ⟨fun _ => return .nothing, fun _ _ => return .ok ()⟩
    let output := ((respond storage env arguments).run ()).run.1
    let complaints := ((default : Config).logging.filter env).2
    ∃ shown : Presentation, output.report = shown.view.toIndentedText ++ "\n" ∧
      shown.view.valid = false ∧
      output.Announces complaints "Attestation is INVALID" shown.summaryText ∧
      output.status = 0 := by
  intro arguments env storage output complaints
  let command : VerifyCommand :=
    { submission := "\x7b\x7d", pretty := true, allowInvalid := true }
  have parsed : Request.ofArguments? arguments =
      some (.run ⟨"attest.toml", none, .verify command⟩) := rfl
  have found : command.Finds storage () "attest.toml" default {} :=
    ⟨rfl, "\x7b\x7d", rfl, rfl⟩
  obtain ⟨-, agrees⟩ := respond_verify_agrees storage () env parsed
  obtain ⟨shown, -, printed, -, -, negative, status, -, refused⟩ := agrees default {} found
  have gap : (command.verifier default).options.policy = .strict ∧
      (command.verifier default).uncovered {} ≠ [] := ⟨rfl, by decide⟩
  have result := (command.verifier default).verifyInOrder_fst_eq env.attempt {} env.today
    (Routine.completionOrder_perm _)
  rw [if_pos gap] at result
  obtain ⟨-, invalid⟩ := refused _ result
  have pretty : "--pretty" ∈ arguments := by decide
  have allowed : "--allow-invalid" ∈ arguments := by decide
  rw [if_pos pretty] at printed
  have announced := (negative shown.summaryText).mpr ⟨invalid, by simp [allowed]⟩
  exact ⟨shown, printed, invalid, announced, status.mpr (.inr allowed)⟩

end Verify

end Attestation

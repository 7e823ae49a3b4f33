import Attestation.Proofs.Observer.Notices
import Attestation.Proofs.Report.Sealing

namespace Attestation

inductive Reply where
  | recorded (answer : Except ReportError Transition)
  | tried (result : Except Refusal Sealed)

structure Stage where
  before : Report
  step : ReportStep
  reply : Reply
  after : Option Report

/-- What an observer has to be told of a stage. It is told of the report as it stands afterwards:
the failure is in the log by then, and the check that passed is evaluated. -/
inductive Stage.Tells : Stage → List Notice → Prop where
  | pass {before after : Report} {check : Check} {transition : Transition}
    (evaluated : after.outcomes check ≠ .notEvaluated) :
    Tells ⟨before, .perform (.pass check), .recorded (.ok transition), some after⟩
      [.pass before.attempt check transition]
  | failure {before after : Report} {call : Call} {diagnostic : Diagnostic}
    {transition : Transition} (reported : call.finding? = some diagnostic.finding)
    (appended : after.log = before.log ++ [diagnostic])
    (failed : after.outcomes diagnostic.check = .failed) :
    Tells ⟨before, .perform call, .recorded (.ok transition), some after⟩
      [.failure before.attempt diagnostic transition]
  | rejected {report : Report} {name : String} {actual expected : Value} {error : ReportError} :
    Tells ⟨report, .perform (.failureNamed name actual expected), .recorded (.error error),
      some report⟩ []
  | sealed {report : Report} {binding : Option Binding} {policy : Policy} {result : Sealed} :
    Tells ⟨report, .trySeal binding policy, .tried (.ok result), none⟩ [.sealed result]
  | refused {report after : Report} {binding : Option Binding} {policy : Policy}
    {refusal : Refusal} :
    Tells ⟨report, .trySeal binding policy, .tried (.error refusal), some after⟩
      [.refused report.attempt refusal.obstacle]

def handedBack : Except Refusal Sealed → Option Report
  | .ok _ => none
  | .error refusal => some refusal.report

namespace Report

def stage (report : Report) : ReportStep → Stage
  | .perform call =>
    let (next, answer) := report.perform call
    ⟨report, .perform call, .recorded answer, some next⟩
  | .trySeal binding policy =>
    let result := report.sealWith binding policy
    ⟨report, .trySeal binding policy, .tried result, handedBack result⟩

def stages (report : Report) : List ReportStep → List Stage
  | [] => []
  | step :: steps =>
    report.stage step :: match (report.stage step).after with
      | some next => next.stages steps
      | none => []

def noticesOf (report : Report) : ReportStep → List Notice
  | .perform call => call.signal?.toList.map report.notice
  | .trySeal binding policy =>
    match report.sealWith binding policy with
    | .ok result => [.sealed result]
    | .error refusal => [.refused report.attempt refusal.obstacle]

def told (report : Report) : List ReportStep → List (List Notice)
  | [] => []
  | step :: steps =>
    report.noticesOf step :: match (report.stage step).after with
      | some next => next.told steps
      | none => []

theorem tells_failure (report : Report) (check : Check) (actual expected : Value) {call : Call}
    (reported : call.finding? = some ⟨check, actual, expected⟩) :
    let (next, transition) := report.recordFailure check actual expected
    Stage.Tells ⟨report, .perform call, .recorded (.ok transition), some next⟩
      [report.notice (.failure check actual expected)] := by
  refine .failure reported rfl ?_
  simp [setOutcome, Outcome.onFailure]

theorem tells_noticesOf (report : Report) (step : ReportStep) :
    (report.stage step).Tells (report.noticesOf step) := by
  cases step with
  | perform call =>
    cases call with
    | pass check =>
      have evaluated : (report.recordPass check).1.outcomes check ≠ .notEvaluated := by
        cases before : report.outcomes check <;>
          simp [recordPass, setOutcome, Outcome.onPass, before]
      exact .pass evaluated
    | failure check actual expected => exact report.tells_failure check actual expected rfl
    | failureNamed name actual expected =>
      cases known : Check.ofName? name with
      | none =>
        simp only [stage, perform, recordFailureNamed, noticesOf, Call.signal?, known]
        exact .rejected
      | some check =>
        have reported : (Call.failureNamed name actual expected).finding? =
            some ⟨check, actual, expected⟩ := by
          simp [Call.finding?, Call.signal?, known, Signal.finding?]
        simp only [stage, perform, recordFailureNamed, noticesOf, Call.signal?, known]
        exact report.tells_failure check actual expected reported
  | trySeal binding policy =>
    simp only [stage, noticesOf]
    cases report.sealWith binding policy with
    | ok result => exact .sealed
    | error refusal => exact .refused

theorem tells_told (report : Report) (steps : List ReportStep) :
    List.Forall₂ Stage.Tells (report.stages steps) (report.told steps) := by
  induction steps generalizing report with
  | nil => exact .nil
  | cons step steps ih =>
    rw [stages, told]
    refine .cons (report.tells_noticesOf step) ?_
    cases (report.stage step).after with
    | none => exact .nil
    | some next => exact ih next

end Report

namespace Observed

variable {σ : Type} (observer : Observer σ)

def perform (o : Observed σ) : Call → Observed σ × Except ReportError Transition
  | .pass check =>
    let (next, transition) := o.recordPass observer check
    (next, .ok transition)
  | .failure check actual expected =>
    let (next, transition) := o.recordFailure observer check actual expected
    (next, .ok transition)
  | .failureNamed name actual expected =>
    match o.recordFailureNamed observer name actual expected with
    | .ok (next, transition) => (next, .ok transition)
    | .error error => (o, .error (.unknownName error))

def stage (o : Observed σ) : ReportStep → Stage × σ
  | .perform call =>
    let (next, answer) := o.perform observer call
    (⟨o.report, .perform call, .recorded answer, some next.report⟩, next.kept)
  | .trySeal binding policy =>
    let (result, kept) := o.sealWith observer binding policy
    (⟨o.report, .trySeal binding policy, .tried result, handedBack result⟩, kept)

def stages (o : Observed σ) : List ReportStep → List (Stage × σ)
  | [] => []
  | step :: steps =>
    o.stage observer step :: match (o.stage observer step).1.after with
      | some next => stages ⟨next, (o.stage observer step).2⟩ steps
      | none => []

theorem perform_eq (o : Observed σ) (call : Call) :
    o.perform observer call =
      (⟨(o.report.perform call).1,
          (call.signal?.toList.map o.report.notice).foldl observer.hear o.kept⟩,
        (o.report.perform call).2) := by
  cases call with
  | pass check => rfl
  | failure check actual expected =>
    have recorded := o.record_eq observer (.failure check actual expected)
    simp only [record] at recorded
    simp only [perform, recorded]
    rfl
  | failureNamed name actual expected =>
    cases known : Check.ofName? name with
    | none => simp [perform, recordFailureNamed, Report.perform, Report.recordFailureNamed,
        Call.signal?, known]
    | some check =>
      have recorded := o.record_eq observer (.failure check actual expected)
      simp only [record] at recorded
      simp only [perform, recordFailureNamed, known, recorded, Report.perform,
        Report.recordFailureNamed, Call.signal?]
      rfl

theorem stage_eq (o : Observed σ) (step : ReportStep) :
    o.stage observer step =
      (o.report.stage step, (o.report.noticesOf step).foldl observer.hear o.kept) := by
  cases step with
  | perform call => simp only [stage, perform_eq, Report.stage, Report.noticesOf]
  | trySeal binding policy =>
    simp only [stage, sealWith, Report.stage, Report.noticesOf]
    cases o.report.sealWith binding policy <;> rfl

theorem map_fst_stages (o : Observed σ) (steps : List ReportStep) :
    (o.stages observer steps).map (·.1) = o.report.stages steps := by
  induction steps generalizing o with
  | nil => rfl
  | cons step steps ih =>
    rw [stages, Report.stages, stage_eq, List.map_cons]
    cases (o.report.stage step).after with
    | none => rfl
    | some next => simp only [ih]

theorem kept_of_stages (o : Observed σ) (steps : List ReportStep) {n : Nat} {stage : Stage}
    {kept : σ} (found : (o.stages observer steps)[n]? = some (stage, kept)) :
    kept = ((o.report.told steps).take (n + 1)).flatten.foldl observer.hear o.kept := by
  induction steps generalizing o n with
  | nil => cases found
  | cons step steps ih =>
    rw [stages, stage_eq] at found
    rw [Report.told, List.take_succ_cons, List.flatten_cons, List.foldl_append]
    cases n with
    | zero =>
      cases found
      simp
    | succ n =>
      rw [List.getElem?_cons_succ] at found
      cases goesOn : (o.report.stage step).after with
      | none =>
        rw [goesOn] at found
        cases found
      | some next =>
        rw [goesOn] at found
        exact ih _ found

/-- An observer changes nothing: each step is answered as without it and leaves the same report,
and what it hears is settled by these stages alone, whoever it is. -/
theorem stages_add_notices_only (report : Report) (steps : List ReportStep) :
    ∃ told : List (List Notice),
      List.Forall₂ Stage.Tells (report.stages steps) told ∧
      ∀ {σ : Type} (observer : Observer σ) (kept : σ),
        ((Observed.mk report kept).stages observer steps).map (·.1) = report.stages steps ∧
        ∀ n stage later, ((Observed.mk report kept).stages observer steps)[n]? = some (stage, later) →
          later = (told.take (n + 1)).flatten.foldl observer.hear kept := by
  refine ⟨report.told steps, report.tells_told steps, fun observer kept => ⟨?_, ?_⟩⟩
  · exact map_fst_stages observer ⟨report, kept⟩ steps
  · exact fun n stage later found => kept_of_stages observer ⟨report, kept⟩ steps found

example :
    let steps : List ReportStep :=
      [.perform (.failure .ofac .empty .empty), .trySeal none .strict,
        .perform (.failureNamed "passport" .empty .empty), .perform (.pass .ofac),
        .trySeal (some ⟨"user", "null"⟩) .lenient, .trySeal none .lenient, .perform (.pass .dsc)]
    ((Observed.mk (.new 0) []).stages Observer.recording steps).getLast?.map (·.2) = some
      [.failure ⟨0, .ofac, .empty, .empty⟩ .failed,
        .refused (.incompleteCoverage (Check.all.filter (· ≠ .ofac))), .pass .ofac .unchanged,
        .refused .unprovenBinding, .sealed false] := by
  decide

end Observed

end Attestation

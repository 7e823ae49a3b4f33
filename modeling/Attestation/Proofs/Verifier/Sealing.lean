import Attestation.Proofs.Verifier.Recording

namespace Attestation

theorem Sealed.identity_of_unbound {report : Sealed} (unbound : report.binding = none) :
    report.userIdentifier = "" ∧ report.nullifier = "" := by
  simp [userIdentifier, nullifier, unbound]

theorem Report.sealWith_proven (report : Report) (identity : Option Binding) (policy : Policy) :
    report.sealWith (if report.outcomes .proof = .passed then identity else none) policy =
      if policy = .strict ∧ report.unevaluatedChecks ≠ [] then
        .error ⟨.incompleteCoverage report.unevaluatedChecks, policy, report⟩
      else .ok ⟨report.attempt, report.outcomes, report.log,
        if report.outcomes .proof = .passed then identity else none⟩ := by
  have proven : ¬ ((if report.outcomes .proof = .passed then identity else none).isSome ∧
      report.outcomes .proof ≠ .passed) := by
    by_cases passed : report.outcomes .proof = .passed <;> simp [passed]
  by_cases gap : policy = .strict ∧ report.unevaluatedChecks ≠ []
  · rw [sealWith, obstacle?, if_pos gap, if_pos gap]
  · rw [sealWith, obstacle?, if_neg gap, if_neg proven, if_neg gap]

namespace Verifier

def uncovered (v : Verifier) (submission : Submission) : List Check :=
  Check.all.filter fun c =>
    c ∉ AttributeChecker.checks ∧ submission.verdicts.get? c = none ∧ c ∉ v.routineChecks

theorem mem_uncovered_iff (v : Verifier) (submission : Submission) (c : Check) :
    c ∈ v.uncovered submission ↔
      c ∉ AttributeChecker.checks ∧ submission.verdicts.get? c = none ∧ c ∉ v.routineChecks := by
  simp [uncovered, Check.mem_all]

theorem not_gives_iff (v : Verifier) (submission : Submission) (today : Date) (c : Check) :
    (∀ verdict, ¬ v.Gives submission today c verdict) ↔
      c ∉ AttributeChecker.checks ∧ submission.verdicts.get? c = none ∧ c ∉ v.routineChecks := by
  constructor
  · intro silent
    refine ⟨?_, ?_, ?_⟩
    · intro decided
      rw [← AttributeChecker.map_fst_evaluate v.checker submission.disclosed v.requirements today]
        at decided
      obtain ⟨⟨check, verdict⟩, member, rfl⟩ := List.mem_map.mp decided
      exact silent verdict (.compared member)
    · cases found : submission.verdicts.get? c with
      | none => rfl
      | some verdict => exact absurd (.supplied found) (silent verdict)
    · intro decided
      obtain ⟨routine, member, rfl⟩ := List.mem_map.mp decided
      cases answer : routine.answer submission with
      | ok verdict => exact silent verdict (.answered member answer)
      | error error => exact silent _ (.errored member answer)
  · rintro ⟨undisclosed, unsupplied, unregistered⟩ verdict given
    cases given with
    | supplied found => simp [found] at unsupplied
    | answered member answer => exact unregistered (List.mem_map_of_mem member)
    | errored member answer => exact unregistered (List.mem_map_of_mem member)
    | compared member =>
      refine undisclosed ?_
      rw [← AttributeChecker.map_fst_evaluate v.checker submission.disclosed v.requirements today]
      exact List.mem_map_of_mem member

variable (v : Verifier) (attempt : Attempt) (submission : Submission) (today : Date)
  {completed : List Routine}

theorem unevaluated_recorded (order : completed.Perm v.routines) :
    (v.recorded attempt submission today completed).unevaluatedChecks = v.uncovered submission := by
  refine List.filter_congr fun c _ => ?_
  rw [decide_eq_decide, v.notEvaluated_recorded_iff attempt submission today order,
    not_gives_iff v submission today c]

theorem bindingFor_fst (proof : Outcome) :
    (bindingFor attempt submission proof).1 =
      if proof = .passed then submission.identity else none := by
  unfold bindingFor
  cases submission.identity <;> cases proof <;> rfl

theorem attempt_recorded :
    (v.recorded attempt submission today completed).attempt = attempt :=
  Report.attempt_recordAll _ _

theorem verifyInOrder_fst_eq (order : completed.Perm v.routines) :
    (v.verifyInOrder attempt submission today completed).1 =
      if v.options.policy = .strict ∧ v.uncovered submission ≠ [] then
        .error (.refused ⟨.incompleteCoverage (v.uncovered submission), .strict,
          v.recorded attempt submission today completed⟩)
      else .ok
        { attempt := attempt
          outcomes := (v.recorded attempt submission today completed).outcomes
          log := (v.recorded attempt submission today completed).log
          binding :=
            if (v.recorded attempt submission today completed).outcomes .proof = .passed then
              submission.identity
            else none } := by
  rw [verifyInOrder_fst, bindingFor_fst, Report.sealWith_proven,
    v.unevaluated_recorded attempt submission today order, attempt_recorded]
  by_cases gap : v.options.policy = .strict ∧ v.uncovered submission ≠ []
  · rw [if_pos gap, if_pos gap, gap.1]
    rfl
  · rw [if_neg gap, if_neg gap]
    rfl

/-- An attempt is sealed, or it is refused for the one reason that the policy is strict and some
checks are left to nobody. The identity is bound as it was submitted, and only to a passed proof. -/
theorem verifyInOrder_seals_or_refuses (order : completed.Perm v.routines) :
    (v.options.policy = .lenient →
      ∃ report, (v.verifyInOrder attempt submission today completed).1 = .ok report) ∧
    (v.options.policy = .strict →
      ((∃ refusal, (v.verifyInOrder attempt submission today completed).1 =
        .error (.refused refusal)) ↔ v.uncovered submission ≠ []) ∧
      ((∃ report, (v.verifyInOrder attempt submission today completed).1 = .ok report) ↔
        v.uncovered submission = [])) ∧
    (∀ error, (v.verifyInOrder attempt submission today completed).1 = .error error →
      ∃ report, error =
        .refused ⟨.incompleteCoverage (v.uncovered submission), .strict, report⟩) ∧
    ∀ report, (v.verifyInOrder attempt submission today completed).1 = .ok report →
      (report.binding.isSome ↔ submission.identity.isSome ∧ report.outcomes .proof = .passed) ∧
      (∀ identity, report.binding = some identity → submission.identity = some identity) ∧
      (report.binding = none → report.userIdentifier = "" ∧ report.nullifier = "") := by
  rw [v.verifyInOrder_fst_eq attempt submission today order]
  by_cases gap : v.options.policy = .strict ∧ v.uncovered submission ≠ []
  · rw [if_pos gap]
    refine ⟨?_, ?_, ?_, ?_⟩
    · intro lenient
      rw [gap.1] at lenient
      contradiction
    · simp [gap.2]
    · intro error refused
      exact ⟨_, (Except.error.inj refused).symm⟩
    · intro report sealed
      contradiction
  · rw [if_neg gap]
    refine ⟨fun _ => ⟨_, rfl⟩, ?_, ?_, ?_⟩
    · intro strict
      have covered : v.uncovered submission = [] := by
        by_contra missing
        exact gap ⟨strict, missing⟩
      simp [covered]
    · intro error refused
      contradiction
    · rintro report sealed
      obtain rfl := Except.ok.inj sealed
      refine ⟨?_, ?_, Sealed.identity_of_unbound⟩
      · split <;> simp [*]
      · split <;> simp

/-- One check is left to nobody, so the strict policy refuses what the lenient one seals without the
identity, as a routine fails the proof that the submission lets pass. -/
theorem verifyInOrder_refuses_uncovered_check :
    let proving := answering .proof (.fail (.text "invalid") .empty)
    let v : Verifier := ⟨{}, {}, [answering .ofac .pass, proving]⟩
    let lenient : Verifier := { v with options := { policy := .lenient } }
    let supplied := [Check.dsc, .proof, .pubKey, .dscProof, .merkleRootCsca, .merkleRootCommitment]
    let submission : Submission :=
      { verdicts := .ofList (supplied.map fun c => (c, .pass)), identity := some ⟨"user", "null"⟩ }
    let completed := [proving, answering .ofac .pass]
    completed.Perm v.routines ∧
    (∃ report, (v.verifyInOrder 0 submission default completed).1 =
      .error (.refused ⟨.incompleteCoverage [.blindedDscCommitment], .strict, report⟩)) ∧
    ∃ report, (lenient.verifyInOrder 0 submission default completed).1 = .ok report ∧
      report.userIdentifier = "" := by
  intro proving v lenient supplied submission completed
  have order : completed.Perm v.routines := .swap _ _ _
  have missing : v.uncovered submission = [.blindedDscCommitment] := by decide
  obtain ⟨-, strict, reason, -⟩ := v.verifyInOrder_seals_or_refuses 0 submission default order
  obtain ⟨refusal, refused⟩ := (strict rfl).1.mpr (by simp [missing])
  obtain ⟨report, same⟩ := reason _ refused
  rw [same, missing] at refused
  obtain ⟨sealed, -, -, bound⟩ :=
    lenient.verifyInOrder_seals_or_refuses 0 submission default order
  obtain ⟨sealedReport, result⟩ := sealed rfl
  obtain ⟨proven, -, unbound⟩ := bound sealedReport result
  have registered : proving ∈ lenient.routines := order.mem_iff.mp (by simp [completed])
  have recorded := lenient.reportOf_verifyInOrder 0 submission default completed
  rw [result] at recorded
  have outcomes := congrArg Report.outcomes (Option.some.inj recorded)
  have failed : sealedReport.outcomes .proof = .failed := by
    rw [show sealedReport.outcomes = _ from outcomes]
    exact (lenient.failed_recorded_iff 0 submission default order .proof).mpr
      ⟨_, _, .answered registered rfl⟩
  have unproven : sealedReport.binding = none := by
    rw [← Option.not_isSome_iff_eq_none, proven, failed]
    simp
  exact ⟨order, ⟨report, refused⟩, sealedReport, result, (unbound unproven).1⟩

end Verifier

end Attestation

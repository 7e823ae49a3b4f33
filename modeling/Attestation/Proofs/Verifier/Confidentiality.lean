import Attestation.Proofs.Verifier.Runs
import Attestation.Proofs.View.Writing

namespace Attestation.Verifier

namespace Run

variable {left right : Run}

theorem outcomes_eq (decisions : ∀ c passes, left.Decides c passes ↔ right.Decides c passes) :
    left.report.outcomes = right.report.outcomes := by
  funext c
  have failed : left.report.outcomes c = .failed ↔ right.report.outcomes c = .failed := by
    rw [failed_iff, failed_iff, decisions]
  have unknown : left.report.outcomes c = .notEvaluated ↔
      right.report.outcomes c = .notEvaluated := by
    simp only [notEvaluated_iff, decisions]
  cases known : left.report.outcomes c with
  | notEvaluated => exact (unknown.mp known).symm
  | failed => exact (failed.mp known).symm
  | passed =>
    rw [known] at failed unknown
    cases found : right.report.outcomes c with
    | notEvaluated => exact absurd (unknown.mpr found) (by simp)
    | failed => exact absurd (failed.mpr found) (by simp)
    | passed => rfl

end Run

/-- What two runs of the same policy show depends only on what their sources decide of each check.
The identity shows only where a report is sealed with a passed proof. -/
theorem view_shows_decisions_only {left right : Run} (policy : left.policy = right.policy)
    (decisions : ∀ c passes, left.Decides c passes ↔ right.Decides c passes)
    (identity : left.submission.identity = right.submission.identity ∨
      (∃ report, reportOf left.result = some report ∧ report.outcomes .proof ≠ .passed) ∨
      ∃ refusal, left.result = .error (.refused refusal)) :
    (∃ first second, left.result = .ok first ∧ right.result = .ok second ∧
      first.view.texts = second.view.texts) ∨
    ∃ first second, left.result = .error (.refused first) ∧
      right.result = .error (.refused second) ∧ first.view.texts = second.view.texts := by
  -- With the same outcomes both runs take the same branch, and only the binding may differ.
  have outcomes := Run.outcomes_eq decisions
  have missing : left.report.unevaluatedChecks = right.report.unevaluatedChecks := by
    rw [Report.unevaluatedChecks, outcomes, Report.unevaluatedChecks]
  rw [left.reportOf_result] at identity
  rw [left.result_eq] at identity ⊢
  rw [right.result_eq, ← policy, ← missing, ← outcomes]
  by_cases gap : left.policy = .strict ∧ left.report.unevaluatedChecks ≠ []
  · rw [if_pos gap, if_pos gap]
    refine .inr ⟨_, _, rfl, rfl, ?_⟩
    simp only [Refusal.view, outcomes]
  · rw [if_neg gap] at identity ⊢
    rw [if_neg gap]
    refine .inl ⟨_, _, rfl, rfl, ?_⟩
    have bound : (if left.report.outcomes .proof = .passed then left.submission.identity else none) =
        if left.report.outcomes .proof = .passed then right.submission.identity else none := by
      obtain same | ⟨report, found, unproven⟩ | ⟨refusal, refused⟩ := identity
      · rw [same]
      · obtain rfl := Option.some.inj found
        rw [if_neg unproven, if_neg unproven]
      · cases refused
    simp only [Sealed.view, bound]

/-- Two verifiers that fail the same checks over different texts and days, and an identity that a
routine of the one and a verdict handed to the other keep from being bound. -/
theorem view_shows_decisions_only_unproven :
    let failing := answering .proof (.fail (.text "invalid") .empty)
    let options : VerifierOptions := { policy := .lenient }
    let left : Run :=
      { verifier := ⟨options, { name := some "DOE" }, [failing]⟩
        attempt := 1
        submission :=
          { verdicts := .ofList [(.proof, .pass)], identity := some ⟨"user", "null"⟩ }
        today := default
        completed := [failing]
        order := .refl _ }
    let right : Run :=
      { verifier := ⟨{ options with toleranceDays := 3 }, { name := some "ROE" },
          [answering .proof .pass]⟩
        attempt := 2
        submission :=
          { verdicts := .ofList [(.proof, .fail .empty .empty)], identity := some ⟨"other", ""⟩
            disclosed := { name := some "DOE" } }
        today := ⟨1970, 1, 2, by decide⟩
        completed := [answering .proof .pass]
        order := .refl _ }
    ∃ first second, left.result = .ok first ∧ right.result = .ok second ∧
      first.view.texts = second.view.texts := by
  intro failing options left right
  have decisions (c : Check) (passes : Bool) : left.Decides c passes ↔ right.Decides c passes := by
    rw [left.decides_iff_mem, right.decides_iff_mem]
    exact (List.Perm.swap (Check.proof, false) (Check.proof, true) _).mem_iff
  have unproven : left.report.outcomes .proof ≠ .passed := by
    have failed := (left.failed_iff .proof).mpr ((left.decides_iff_mem _ _).mpr (by decide))
    simp [failed]
  have policy : left.policy = right.policy := rfl
  obtain sealed | ⟨first, -, refused, -⟩ := view_shows_decisions_only policy decisions
    (.inr (.inl ⟨left.report, left.reportOf_result, unproven⟩))
  · exact sealed
  · rw [left.result_eq, if_neg (by simp [left, Run.policy, options])] at refused
    cases refused

end Attestation.Verifier

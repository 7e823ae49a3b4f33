import Attestation.Proofs.Report.Refusal
import Attestation.Proofs.Verifier.Sealing

namespace Attestation

theorem Sealed.valid_iff (report : Sealed) :
    report.valid = true ↔ ∀ c, report.outcomes c ≠ .failed := by
  simp [valid, flag, Check.mem_all]

theorem Routine.completionOrder_perm (routines : List Routine) :
    (completionOrder routines).Perm routines := List.mergeSort_perm _ _

namespace Verifier

theorem uncovered_eq_nil_iff (v : Verifier) (submission : Submission) :
    v.uncovered submission = [] ↔
      ∀ c ∉ AttributeChecker.checks,
        (submission.verdicts.get? c).isSome ∨ c ∈ v.routineChecks := by
  rw [List.eq_nil_iff_forall_not_mem]
  refine forall_congr' fun c => ?_
  rw [mem_uncovered_iff, not_and, not_and_or, not_not, ← ne_eq, ← Option.isSome_iff_ne_none]

theorem no_failure_iff (v : Verifier) (submission : Submission) (today : Date) :
    (∀ c actual expected, ¬ v.Gives submission today c (.fail actual expected)) ↔
      (∀ c actual expected, submission.verdicts.get? c ≠ some (.fail actual expected)) ∧
      (∀ routine ∈ v.routines, routine.answer submission = .ok .pass) ∧
      v.requirements.Met submission.disclosed today v.options.toleranceDays.toInt := by
  rw [← AttributeChecker.evaluate_passes_iff]
  constructor
  · intro clear
    refine ⟨?_, ?_, ?_⟩
    · intro c actual expected found
      exact clear c actual expected (.supplied found)
    · intro routine member
      cases answer : routine.answer submission with
      | error error => exact absurd (.errored member answer) (clear _ _ _)
      | ok verdict =>
        cases verdict with
        | pass => rfl
        | fail actual expected => exact absurd (.answered member answer) (clear _ _ _)
    · rintro ⟨c, verdict⟩ member
      cases verdict with
      | pass => rfl
      | fail actual expected => exact absurd (.compared member) (clear _ _ _)
  · rintro ⟨supplied, answered, compared⟩ c actual expected given
    cases given with
    | supplied found => exact supplied c actual expected found
    | answered member answer => simp [answered _ member] at answer
    | errored member answer => simp [answered _ member] at answer
    | compared member => exact absurd (compared _ member) (by simp)

variable (v : Verifier) (attempt : Attempt) (submission : Submission) (today : Date)
  {completed : List Routine}

/-- An attempt is accepted exactly when the supplied verdicts and the routines pass, the revealed
attributes meet their requirements, and under the strict policy no other check is left to nobody. -/
theorem verifyInOrder_accepts_iff (order : completed.Perm v.routines) :
    (∃ report, (v.verifyInOrder attempt submission today completed).1 = .ok report ∧
        report.valid = true) ↔
      (∀ c actual expected, submission.verdicts.get? c ≠ some (.fail actual expected)) ∧
      (∀ routine ∈ v.routines, routine.answer submission = .ok .pass) ∧
      v.requirements.Met submission.disclosed today v.options.toleranceDays.toInt ∧
      (v.options.policy = .strict → ∀ c ∉ AttributeChecker.checks,
        (submission.verdicts.get? c).isSome ∨ c ∈ v.routineChecks) := by
  have clear : (∀ c, (v.recorded attempt submission today completed).outcomes c ≠ .failed) ↔
      ∀ c actual expected, ¬ v.Gives submission today c (.fail actual expected) := by
    simp only [ne_eq, v.failed_recorded_iff attempt submission today order, not_exists]
  rw [no_failure_iff] at clear
  rw [← uncovered_eq_nil_iff, v.verifyInOrder_fst_eq attempt submission today order]
  by_cases gap : v.options.policy = .strict ∧ v.uncovered submission ≠ []
  · rw [if_pos gap]
    constructor
    · rintro ⟨report, sealed, -⟩
      contradiction
    · rintro ⟨-, -, -, covered⟩
      exact absurd (covered gap.1) gap.2
  · rw [if_neg gap]
    constructor
    · rintro ⟨report, sealed, valid⟩
      obtain rfl := Except.ok.inj sealed
      obtain ⟨supplied, answered, met⟩ := clear.mp ((Sealed.valid_iff _).mp valid)
      refine ⟨supplied, answered, met, fun strict => ?_⟩
      by_contra missing
      exact gap ⟨strict, missing⟩
    · rintro ⟨supplied, answered, met, -⟩
      exact ⟨_, rfl, (Sealed.valid_iff _).mpr (clear.mpr ⟨supplied, answered, met⟩)⟩

example : (Check.all.filter fun c => c ∉ AttributeChecker.checks).length = 8 := by decide

/-- The current date is a day away, and the routine that is registered first completes last. -/
theorem verify_accepts_overtaken_routine :
    let screening : Routine := { answering .ofac .pass with delay := 2 }
    let v : Verifier := ⟨{}, { name := some "DOE" }, [screening, answering .dsc .pass]⟩
    let supplied := [Check.blindedDscCommitment, .proof, .dscProof, .pubKey, .merkleRootCsca,
      .merkleRootCommitment]
    let submission : Submission :=
      { verdicts := .ofList (supplied.map fun c => (c, .pass))
        disclosed := { currentDate := some ⟨1969, 12, 31, by decide⟩, name := some "DOE" } }
    (Routine.completionOrder v.routines).map (·.check) = [.dsc, .ofac] ∧
    ∃ report, (v.verify 0 submission ⟨1970, 1, 1, by decide⟩).1 = .ok report ∧
      report.valid = true := by
  intro screening v supplied submission
  refine ⟨by simp [Routine.completionOrder, List.mergeSort, v, screening, answering], ?_⟩
  refine (v.verifyInOrder_accepts_iff 0 submission _ (Routine.completionOrder_perm _)).mpr
    ⟨?_, ?_, ?_, ?_⟩
  · have passing : ∀ entry ∈ submission.verdicts.entries, entry.2 = .pass := by decide
    intro c actual expected found
    exact absurd (passing _ ((submission.verdicts.get?_eq_some_iff _ _).mp found)) (by simp)
  · simp [v, screening, answering]
  · rw [← AttributeChecker.evaluate_passes_iff]
    decide
  · rw [← uncovered_eq_nil_iff]
    decide

theorem verifyInOrder_cases (order : completed.Perm v.routines) :
    (∃ report, (v.verifyInOrder attempt submission today completed).1 = .ok report) ∨
      ∃ refusal, (v.verifyInOrder attempt submission today completed).1 =
        .error (.refused refusal) ∧ refusal.view.valid = false := by
  rw [v.verifyInOrder_fst_eq attempt submission today order]
  by_cases gap : v.options.policy = .strict ∧ v.uncovered submission ≠ []
  · rw [if_pos gap]
    refine .inr ⟨_, rfl, Refusal.valid_view_of_gap rfl ?_⟩
    rw [v.unevaluated_recorded attempt submission today order]
    exact gap.2
  · rw [if_neg gap]
    exact .inl ⟨_, rfl⟩

end Verifier

end Attestation

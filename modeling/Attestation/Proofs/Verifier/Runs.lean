import Attestation.Proofs.Report.Sealing
import Attestation.Proofs.Verifier.Acceptance

namespace Attestation.Verifier

/-- An attempt to verify a submission, with everything that its result depends on. -/
structure Run where
  verifier : Verifier
  attempt : Attempt
  submission : Submission
  today : Date
  completed : List Routine
  order : completed.Perm verifier.routines

namespace Run

variable (run : Run)

def result : Except VerifierError Sealed :=
  (run.verifier.verifyInOrder run.attempt run.submission run.today run.completed).1

def policy : Policy := run.verifier.options.policy

def report : Report :=
  run.verifier.recorded run.attempt run.submission run.today run.completed

def Decides (c : Check) (passes : Bool) : Prop :=
  ∃ verdict, run.verifier.Gives run.submission run.today c verdict ∧ verdict.isPass = passes

def Accepted : Prop := ∃ report, run.result = .ok report ∧ report.valid = true

theorem reportOf_result : reportOf run.result = some run.report :=
  run.verifier.reportOf_verifyInOrder run.attempt run.submission run.today run.completed

theorem decides_false_iff (c : Check) :
    run.Decides c false ↔
      ∃ actual expected, run.verifier.Gives run.submission run.today c (.fail actual expected) := by
  constructor
  · rintro ⟨verdict, given, fails⟩
    cases verdict with
    | pass => cases fails
    | fail actual expected => exact ⟨actual, expected, given⟩
  · rintro ⟨actual, expected, given⟩
    exact ⟨_, given, rfl⟩

theorem failed_iff (c : Check) : run.report.outcomes c = .failed ↔ run.Decides c false := by
  rw [decides_false_iff]
  exact run.verifier.failed_recorded_iff run.attempt run.submission run.today run.order c

theorem notEvaluated_iff (c : Check) :
    run.report.outcomes c = .notEvaluated ↔ ∀ passes, ¬ run.Decides c passes := by
  rw [report, run.verifier.notEvaluated_recorded_iff run.attempt run.submission run.today run.order]
  constructor
  · rintro silent passes ⟨verdict, given, -⟩
    exact silent verdict given
  · intro silent verdict given
    exact silent verdict.isPass ⟨verdict, given, rfl⟩

theorem decides_iff_mem (c : Check) (passes : Bool) :
    run.Decides c passes ↔
      (c, passes) ∈ (run.verifier.verdicts run.submission run.today run.completed).map
        fun entry => (entry.1, entry.2.isPass) := by
  simp only [Decides, ← run.verifier.mem_verdicts_iff run.submission run.today run.order,
    List.mem_map, Prod.exists, Prod.mk.injEq]
  constructor
  · rintro ⟨verdict, member, said⟩
    exact ⟨c, verdict, member, rfl, said⟩
  · rintro ⟨_, verdict, member, rfl, said⟩
    exact ⟨verdict, member, said⟩

theorem decides_iff (c : Check) (passes : Bool) :
    run.Decides c passes ↔
      (∃ verdict, run.submission.verdicts.get? c = some verdict ∧ verdict.isPass = passes) ∨
      (∃ routine ∈ run.verifier.routines,
        routine.check = c ∧ (verdictOf routine run.submission).isPass = passes) ∨
      ∃ verdict, (c, verdict) ∈ run.verifier.checker.evaluate run.submission.disclosed
        run.verifier.requirements run.today ∧ verdict.isPass = passes := by
  simp only [decides_iff_mem, verdicts, List.map_append, List.map_map, List.mem_append,
    List.mem_map, Function.comp_apply, Prod.mk.injEq, Keyed.get?_eq_some_iff, run.order.mem_iff,
    or_assoc]
  simp

theorem result_eq :
    run.result =
      if run.policy = .strict ∧ run.report.unevaluatedChecks ≠ [] then
        .error (.refused ⟨.incompleteCoverage run.report.unevaluatedChecks, .strict, run.report⟩)
      else .ok
        { attempt := run.attempt
          outcomes := run.report.outcomes
          log := run.report.log
          binding :=
            if run.report.outcomes .proof = .passed then run.submission.identity else none } := by
  rw [result, run.verifier.verifyInOrder_fst_eq run.attempt run.submission run.today run.order,
    ← run.verifier.unevaluated_recorded run.attempt run.submission run.today run.order]
  rfl

/-- A run is accepted when no source fails and, under the strict policy, each check has one. -/
theorem accepted_iff :
    run.Accepted ↔ (∀ c, ¬ run.Decides c false) ∧
      (run.policy = .strict → ∀ c, ∃ passes, run.Decides c passes) := by
  have gapless : run.report.unevaluatedChecks = [] ↔ ∀ c, ∃ passes, run.Decides c passes := by
    simp only [List.eq_nil_iff_forall_not_mem, Report.mem_unevaluatedChecks_iff, notEvaluated_iff,
      not_forall, not_not]
  rw [Accepted, result_eq, ← gapless]
  by_cases gap : run.policy = .strict ∧ run.report.unevaluatedChecks ≠ []
  · rw [if_pos gap]
    constructor
    · rintro ⟨report, sealed, -⟩
      cases sealed
    · rintro ⟨-, covered⟩
      exact absurd (covered gap.1) gap.2
  · rw [if_neg gap]
    have covered : run.policy = .strict → run.report.unevaluatedChecks = [] := by
      intro strict
      by_contra missing
      exact gap ⟨strict, missing⟩
    constructor
    · rintro ⟨report, sealed, valid⟩
      obtain rfl := Except.ok.inj sealed
      refine ⟨fun c fails => ?_, covered⟩
      exact (Sealed.valid_iff _).mp valid c ((run.failed_iff c).mpr fails)
    · rintro ⟨clear, -⟩
      refine ⟨_, rfl, (Sealed.valid_iff _).mpr fun c failed => ?_⟩
      exact clear c ((run.failed_iff c).mp failed)

end Run

end Attestation.Verifier

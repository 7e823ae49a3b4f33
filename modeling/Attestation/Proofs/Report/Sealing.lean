import Attestation.Proofs.Report.History

namespace Attestation

namespace Report

def Covered (report : Report) (policy : Policy) : Prop :=
  policy = .lenient ∨ ∀ c, report.outcomes c ≠ .notEvaluated

def Proven (report : Report) (binding : Option Binding) : Prop :=
  binding = none ∨ report.outcomes .proof = .passed

theorem mem_unevaluatedChecks_iff (report : Report) (c : Check) :
    c ∈ report.unevaluatedChecks ↔ report.outcomes c = .notEvaluated := by
  simp [unevaluatedChecks, Check.mem_all]

theorem not_covered_iff (report : Report) (policy : Policy) :
    ¬ report.Covered policy ↔ policy = .strict ∧ report.unevaluatedChecks ≠ [] := by
  have gap : (∀ c, report.outcomes c ≠ .notEvaluated) ↔ report.unevaluatedChecks = [] := by
    rw [List.eq_nil_iff_forall_not_mem]
    exact forall_congr' fun c => not_congr (report.mem_unevaluatedChecks_iff c).symm
  rw [Covered, gap, not_or]
  cases policy <;> simp

theorem not_proven_iff (report : Report) (binding : Option Binding) :
    ¬ report.Proven binding ↔ binding.isSome ∧ report.outcomes .proof ≠ .passed := by
  cases binding <;> simp [Proven]

section Decision

variable {report : Report} {binding : Option Binding} {policy : Policy}

theorem obstacle?_of_not_covered (gap : ¬ report.Covered policy) :
    report.obstacle? binding policy = some (.incompleteCoverage report.unevaluatedChecks) := by
  rw [obstacle?, if_pos (report.not_covered_iff policy |>.mp gap)]

theorem obstacle?_of_not_proven (covered : report.Covered policy)
    (unproven : ¬ report.Proven binding) :
    report.obstacle? binding policy = some .unprovenBinding := by
  have noGap := mt (report.not_covered_iff policy).mpr (not_not.mpr covered)
  rw [obstacle?, if_neg noGap, if_pos (report.not_proven_iff binding |>.mp unproven)]

theorem obstacle?_of_covered (covered : report.Covered policy) (proven : report.Proven binding) :
    report.obstacle? binding policy = none := by
  have noGap := mt (report.not_covered_iff policy).mpr (not_not.mpr covered)
  have noDoubt := mt (report.not_proven_iff binding).mpr (not_not.mpr proven)
  rw [obstacle?, if_neg noGap, if_neg noDoubt]

theorem obstacle?_eq_none_iff :
    report.obstacle? binding policy = none ↔ report.Covered policy ∧ report.Proven binding := by
  constructor
  · intro clear
    by_cases covered : report.Covered policy
    · by_cases proven : report.Proven binding
      · exact ⟨covered, proven⟩
      · rw [obstacle?_of_not_proven covered proven] at clear
        cases clear
    · rw [obstacle?_of_not_covered covered] at clear
      cases clear
  · rintro ⟨covered, proven⟩
    exact obstacle?_of_covered covered proven

theorem sealWith_ok_iff (result : Sealed) :
    report.sealWith binding policy = .ok result ↔
      report.obstacle? binding policy = none ∧
        result = ⟨report.attempt, report.outcomes, report.log, binding⟩ := by
  cases found : report.obstacle? binding policy <;> simp [sealWith, found, eq_comm]

theorem sealWith_error_iff (refusal : Refusal) :
    report.sealWith binding policy = .error refusal ↔
      report.obstacle? binding policy = some refusal.obstacle ∧
        refusal = ⟨refusal.obstacle, policy, report⟩ := by
  cases found : report.obstacle? binding policy with
  | none => simp [sealWith, found]
  | some obstacle =>
    simp only [sealWith, found, Except.error.injEq, Option.some.injEq]
    constructor
    · rintro rfl
      exact ⟨rfl, rfl⟩
    · rintro ⟨rfl, same⟩
      exact same.symm

end Decision

theorem unevaluatedChecks_sublist (report : Report) :
    report.unevaluatedChecks.Sublist Check.all := List.filter_sublist

/-- Both lists of failures are the same, though one is read from the outcomes and the other from the
flags. -/
theorem failedChecks_eq_filter_flag (report : Report) :
    report.failedChecks = Check.all.filter fun c => !report.flag c := by
  refine List.filter_congr fun c _ => ?_
  rw [flag]
  cases report.outcomes c <;> rfl

end Report

inductive ReportStep where
  | perform (call : Call)
  | trySeal (binding : Option Binding) (policy : Policy)

def ReportStep.call? : ReportStep → Option Call
  | .perform call => some call
  | .trySeal .. => none

namespace Report

def advance? (report : Report) : ReportStep → Option Report
  | .perform call => some (report.perform call).1
  | .trySeal binding policy =>
    match report.sealWith binding policy with
    | .ok _ => none
    | .error refusal => some refusal.report

def advanceAll? (report : Report) (steps : List ReportStep) : Option Report :=
  steps.foldlM advance? report

theorem advance?_eq {report next : Report} {step : ReportStep}
    (went : report.advance? step = some next) :
    next = report.performAll step.call?.toList := by
  cases step with
  | perform call => exact (Option.some.inj went).symm
  | trySeal binding policy =>
    simp only [advance?] at went
    cases attempted : report.sealWith binding policy <;> simp only [attempted] at went
    · rename_i refusal
      obtain ⟨-, same⟩ := (sealWith_error_iff refusal).mp attempted
      rw [same] at went
      exact (Option.some.inj went).symm
    · cases went

theorem advanceAll?_eq {report last : Report} {steps : List ReportStep}
    (went : report.advanceAll? steps = some last) :
    last = report.performAll (steps.filterMap ReportStep.call?) := by
  induction steps generalizing report with
  | nil => exact (Option.some.inj went).symm
  | cons step steps ih =>
    obtain ⟨next, first, rest⟩ := Option.bind_eq_some_iff.mp went
    rw [ih rest, advance?_eq first]
    cases step <;> rfl

/-- Sealing succeeds exactly when nothing stands in its way, missing coverage is named before an
unproven identity, and the sealed report is the report with the identity as it was given. A refusal
hands the report back, so attempts that are refused on the way make no difference. -/
theorem sealWith_exact_and_atomic {attempt : Attempt} {steps : List ReportStep} {report : Report}
    (reached : (new attempt).advanceAll? steps = some report) (binding : Option Binding)
    (policy : Policy) :
    ((∃ result, report.sealWith binding policy = .ok result) ↔
      (policy = .lenient ∨ ∀ c, report.outcomes c ≠ .notEvaluated) ∧
      (binding = none ∨ report.outcomes .proof = .passed)) ∧
    (report.obstacle? binding policy = none ↔
      ∃ result, report.sealWith binding policy = .ok result) ∧
    (∀ refusal, report.sealWith binding policy = .error refusal →
      report.obstacle? binding policy = some refusal.obstacle ∧
      (policy = .strict ∧ (∃ c, report.outcomes c = .notEvaluated) →
        ∃ missing, refusal.obstacle = .incompleteCoverage missing ∧
          missing.Sublist Check.all ∧ ∀ c, c ∈ missing ↔ report.outcomes c = .notEvaluated) ∧
      (¬ (policy = .strict ∧ ∃ c, report.outcomes c = .notEvaluated) →
        refusal.obstacle = .unprovenBinding) ∧
      refusal.report.attempt = report.attempt ∧
      (∀ c, refusal.report.outcomes c = report.outcomes c) ∧
      refusal.report.log = report.log) ∧
    (∀ result, report.sealWith binding policy = .ok result →
      result.attempt = report.attempt ∧
      (∀ c, result.outcomes c = report.outcomes c) ∧
      result.log = report.log ∧
      result.valid = report.valid ∧
      result.failedChecks = report.failedChecks ∧
      result.binding = binding) ∧
    report.sealWith binding policy =
      ((new attempt).performAll (steps.filterMap ReportStep.call?)).sealWith binding policy := by
  have succeeds : (∃ result, report.sealWith binding policy = .ok result) ↔
      report.obstacle? binding policy = none := by
    simp only [sealWith_ok_iff, exists_and_left, exists_eq, and_true]
  have gap : policy = .strict ∧ (∃ c, report.outcomes c = .notEvaluated) ↔
      ¬ report.Covered policy := by
    cases policy <;> simp [Covered]
  refine ⟨succeeds.trans obstacle?_eq_none_iff, succeeds.symm, ?_, ?_, ?_⟩
  · intro refusal refused
    obtain ⟨reason, same⟩ := (sealWith_error_iff refusal).mp refused
    rw [gap]
    refine ⟨reason, ?_, ?_, ?_, ?_, ?_⟩
    · intro uncovered
      rw [obstacle?_of_not_covered uncovered] at reason
      exact ⟨report.unevaluatedChecks, (Option.some.inj reason).symm,
        report.unevaluatedChecks_sublist, report.mem_unevaluatedChecks_iff⟩
    · intro covered
      have covered := not_not.mp covered
      have unproven : ¬ report.Proven binding := by
        intro proven
        rw [obstacle?_of_covered covered proven] at reason
        cases reason
      rw [obstacle?_of_not_proven covered unproven] at reason
      exact (Option.some.inj reason).symm
    all_goals rw [same]
    exact fun _ => rfl
  · intro result made
    obtain ⟨-, rfl⟩ := (sealWith_ok_iff result).mp made
    exact ⟨rfl, fun _ => rfl, rfl, rfl, report.failedChecks_eq_filter_flag.symm, rfl⟩
  · rw [← advanceAll?_eq reached]

/-- Two attempts are refused on the way, one for each reason, before the report is sealed with the
identity that it was refused at first. -/
theorem sealWith_after_refused_attempts :
    let identity : Binding := ⟨"user", "null"⟩
    let calls : List Call := [.pass .proof, .failureNamed "gender" (.text "M") (.text "F")]
    let steps : List ReportStep :=
      [.trySeal (some identity) .lenient, .perform (.pass .proof), .trySeal none .strict,
        .perform (.failureNamed "gender" (.text "M") (.text "F"))]
    let report := (new 7).performAll calls
    (new 7).advanceAll? steps = some report ∧
    ∃ result, report.sealWith (some identity) .lenient = .ok result ∧
      result.attempt = 7 ∧ result.binding = some identity ∧ result.failedChecks = [.gender] := by
  intro identity calls steps report
  have reached : (new 7).advanceAll? steps = some report := rfl
  obtain ⟨succeeds, -, -, kept, -⟩ := sealWith_exact_and_atomic reached (some identity) .lenient
  have proven : report.outcomes .proof = .passed := by decide
  obtain ⟨result, made⟩ := succeeds.mpr ⟨.inl rfl, .inr proven⟩
  obtain ⟨attempt, -, -, -, failed, bound⟩ := kept result made
  exact ⟨reached, result, made, attempt, bound, failed.trans (by decide)⟩

end Report

end Attestation

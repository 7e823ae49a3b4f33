import Attestation.Proofs.Report.Sealing

namespace Attestation

theorem Report.mem_failedChecks_iff (report : Report) (c : Check) :
    c ∈ report.failedChecks ↔ report.outcomes c = .failed := by
  simp [failedChecks, Check.mem_all]

namespace Refusal

variable {refusal : Refusal}

theorem flags_view_strict (strict : refusal.policy = .strict) (c : Check) :
    refusal.view.flags c = true ↔ refusal.report.outcomes c = .passed := by
  rw [view, View.ofFlags]
  cases found : refusal.report.outcomes c <;> simp [found, strict, Outcome.flag]

theorem flags_view_strict_eq_false_iff (strict : refusal.policy = .strict) (c : Check) :
    refusal.view.flags c = false ↔
      c ∈ refusal.report.failedChecks ∨ c ∈ refusal.report.unevaluatedChecks := by
  rw [← Bool.not_eq_true, flags_view_strict strict, Report.mem_failedChecks_iff,
    Report.mem_unevaluatedChecks_iff]
  cases refusal.report.outcomes c <;> simp

theorem view_lenient (lenient : refusal.policy = .lenient) :
    refusal.view = refusal.report.view := by
  have flags : refusal.view.flags = refusal.report.view.flags := by
    funext c
    rw [view, Report.view, View.ofOutcomes, View.ofFlags, View.ofFlags]
    cases found : refusal.report.outcomes c <;> simp [found, lenient, Outcome.flag]
  have shown : refusal.view = ⟨refusal.view.flags, "", ""⟩ := rfl
  rw [shown, flags]
  rfl

theorem valid_view_strict (strict : refusal.policy = .strict) {c : Check}
    (other : refusal.report.outcomes c ≠ .passed) : refusal.view.valid = false := by
  apply Bool.eq_false_iff.mpr
  intro valid
  exact other ((flags_view_strict strict c).mp (refusal.view.valid_iff.mp valid c))

theorem valid_view_of_gap (strict : refusal.policy = .strict)
    (gap : refusal.report.unevaluatedChecks ≠ []) : refusal.view.valid = false := by
  obtain ⟨c, member⟩ := List.exists_mem_of_ne_nil _ gap
  have unevaluated := (refusal.report.mem_unevaluatedChecks_iff c).mp member
  exact valid_view_strict strict (by rw [unevaluated]; decide)

end Refusal

namespace Report

variable {report : Report} {binding : Option Binding} {policy : Policy} {refusal : Refusal}

theorem refused_cases (refused : report.sealWith binding policy = .error refusal) :
    (¬ report.Covered policy ∧
      refusal.obstacle = .incompleteCoverage report.unevaluatedChecks) ∨
    (report.Covered policy ∧ ¬ report.Proven binding ∧ refusal.obstacle = .unprovenBinding) := by
  obtain ⟨reason, -⟩ := (sealWith_error_iff refusal).mp refused
  by_cases covered : report.Covered policy
  · have unproven : ¬ report.Proven binding := by
      intro proven
      rw [obstacle?_of_covered covered proven] at reason
      cases reason
    rw [obstacle?_of_not_proven covered unproven] at reason
    exact .inr ⟨covered, unproven, (Option.some.inj reason).symm⟩
  · rw [obstacle?_of_not_covered covered] at reason
    exact .inl ⟨covered, (Option.some.inj reason).symm⟩

theorem refused_strict_cases (refused : report.sealWith binding .strict = .error refusal) :
    (report.unevaluatedChecks ≠ [] ∧
      refusal.obstacle = .incompleteCoverage report.unevaluatedChecks) ∨
    (report.outcomes .proof = .failed ∧ refusal.obstacle = .unprovenBinding) := by
  rcases refused_cases refused with ⟨gap, obstacle⟩ | ⟨covered, unproven, obstacle⟩
  · exact .inl ⟨((report.not_covered_iff _).mp gap).2, obstacle⟩
  · have doubt := ((report.not_proven_iff binding).mp unproven).2
    have known : report.outcomes .proof ≠ .notEvaluated := by
      rcases covered with lenient | evaluated
      · cases lenient
      · exact evaluated .proof
    refine .inr ⟨?_, obstacle⟩
    cases outcome : report.outcomes .proof with
    | notEvaluated => exact absurd outcome known
    | passed => exact absurd outcome doubt
    | failed => rfl

theorem refused_lenient (refused : report.sealWith binding .lenient = .error refusal) :
    refusal.obstacle = .unprovenBinding := by
  rcases refused_cases refused with ⟨gap, -⟩ | ⟨-, -, obstacle⟩
  · exact absurd (.inl rfl) gap
  · exact obstacle

/-- A strict refusal never looks valid, whichever obstacle there was. -/
theorem valid_view_of_refused_strict (refused : report.sealWith binding .strict = .error refusal) :
    refusal.view.valid = false := by
  obtain ⟨-, same⟩ := (sealWith_error_iff refusal).mp refused
  rw [same]
  rcases refused_strict_cases refused with ⟨gap, -⟩ | ⟨failed, -⟩
  · exact Refusal.valid_view_of_gap rfl gap
  · apply Refusal.valid_view_strict rfl (c := .proof)
    rw [failed]
    decide

/-- What a refused attempt shows: never the identity, and `valid` only if every flag is set. Under
the strict policy whatever has not passed shows as failed, and the whole never looks valid,
whichever obstacle there was. Under the lenient policy the obstacle is the binding, and the report
shows as it is. -/
theorem refused_shows (refused : report.sealWith binding policy = .error refusal) :
    refusal.view.userIdentifier = "" ∧ refusal.view.nullifier = "" ∧
    (refusal.view.valid = true ↔ ∀ c, refusal.view.flags c = true) ∧
    (policy = .strict →
      (refusal.obstacle = .incompleteCoverage report.unevaluatedChecks ∨
        refusal.obstacle = .unprovenBinding) ∧
      (∀ c, refusal.view.flags c = false ↔
        c ∈ report.failedChecks ∨ c ∈ report.unevaluatedChecks) ∧
      refusal.view.valid = false) ∧
    (policy = .lenient →
      refusal.obstacle = .unprovenBinding ∧ refusal.view = report.view) := by
  obtain ⟨-, same⟩ := (sealWith_error_iff refusal).mp refused
  have sameReport : refusal.report = report := by rw [same]
  have samePolicy : refusal.policy = policy := by rw [same]
  refine ⟨rfl, rfl, refusal.view.valid_iff, ?_, ?_⟩
  · intro strict
    subst strict
    refine ⟨?_, ?_, valid_view_of_refused_strict refused⟩
    · rcases refused_strict_cases refused with ⟨-, gap⟩ | ⟨-, unproven⟩
      · exact .inl gap
      · exact .inr unproven
    · intro c
      rw [Refusal.flags_view_strict_eq_false_iff samePolicy, sameReport]
  · intro lenient
    subst lenient
    refine ⟨refused_lenient refused, ?_⟩
    rw [Refusal.view_lenient samePolicy, sameReport]

/-- Every check has passed before the proof fails, so coverage is no obstacle and the failed proof
is. The lenient policy refuses a report in which nothing is evaluated, and shows it as valid. -/
theorem refused_shows_failed_proof :
    let identity : Binding := ⟨"user", "null"⟩
    let report := (new 0).recordAll (Check.all.map .pass ++ [.failure .proof .empty .empty])
    let strict : Refusal := ⟨.unprovenBinding, .strict, report⟩
    let lenient : Refusal := ⟨.unprovenBinding, .lenient, new 0⟩
    (report.sealWith (some identity) .strict = .error strict ∧
      strict.view.userIdentifier = "" ∧ strict.view.valid = false ∧
      strict.view.flags .proof = false ∧ strict.view.flags .dsc = true) ∧
    (new 0).sealWith (some identity) .lenient = .error lenient ∧
      lenient.view = (new 0).view := by
  intro identity report strict lenient
  have refused : report.sealWith (some identity) .strict = .error strict := rfl
  have refusedLeniently : (new 0).sealWith (some identity) .lenient = .error lenient := rfl
  obtain ⟨unnamed, -, -, shown, -⟩ := refused_shows refused
  obtain ⟨-, flags, invalid⟩ := shown rfl
  obtain ⟨-, -, -, -, shownLeniently⟩ := refused_shows refusedLeniently
  have failed : report.failedChecks = [.proof] := by decide
  have evaluated : report.unevaluatedChecks = [] := by decide
  refine ⟨⟨refused, unnamed, invalid, ?_, ?_⟩, refusedLeniently, (shownLeniently rfl).2⟩
  · rw [flags, failed]
    simp
  · rw [← Bool.not_eq_false, flags, failed, evaluated]
    simp

end Report

end Attestation

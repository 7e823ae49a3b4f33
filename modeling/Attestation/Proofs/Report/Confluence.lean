import Attestation.Proofs.Report.Signals
import Attestation.Report.Sealed
import Attestation.View
import Mathlib.Data.List.Perm.Basic

namespace Attestation

namespace Signal

/-- What a signal says apart from the values that explain it: the check, and whether it passes. -/
def claim : Signal → Check × Bool
  | .pass check => (check, true)
  | .failure check _ _ => (check, false)

theorem claim_pass_mem_iff (signals : List Signal) (c : Check) :
    (c, true) ∈ signals.map claim ↔ .pass c ∈ signals := by
  rw [List.mem_map]
  constructor
  · rintro ⟨signal, member, said⟩
    cases signal <;> cases said
    exact member
  · intro member
    exact ⟨.pass c, member, rfl⟩

theorem claim_failure_mem_iff (signals : List Signal) (c : Check) :
    (c, false) ∈ signals.map claim ↔ ∃ actual expected, .failure c actual expected ∈ signals := by
  rw [List.mem_map]
  constructor
  · rintro ⟨signal, member, said⟩
    cases signal <;> cases said
    exact ⟨_, _, member⟩
  · rintro ⟨actual, expected, member⟩
    exact ⟨.failure c actual expected, member, rfl⟩

theorem claim_mem_of_check {signals : List Signal} {signal : Signal} (member : signal ∈ signals) :
    ∃ passes, (signal.check, passes) ∈ signals.map claim := by
  refine ⟨signal.claim.2, List.mem_map.mpr ⟨signal, member, ?_⟩⟩
  cases signal <;> rfl

end Signal

def outcomeOf (claims : List (Check × Bool)) (c : Check) : Outcome :=
  if (c, false) ∈ claims then .failed
  else if (c, true) ∈ claims then .passed
  else .notEvaluated

section OutcomeOf

variable (claims : List (Check × Bool)) (c : Check)

theorem outcomeOf_eq_failed_iff : outcomeOf claims c = .failed ↔ (c, false) ∈ claims := by
  unfold outcomeOf
  split <;> simp_all
  split <;> simp

theorem outcomeOf_eq_passed_iff :
    outcomeOf claims c = .passed ↔ (c, false) ∉ claims ∧ (c, true) ∈ claims := by
  unfold outcomeOf
  split <;> simp_all

theorem outcomeOf_eq_notEvaluated_iff :
    outcomeOf claims c = .notEvaluated ↔ (c, false) ∉ claims ∧ (c, true) ∉ claims := by
  unfold outcomeOf
  split <;> simp_all

end OutcomeOf

def SaySame (left right : List Signal) : Prop :=
  ∀ claim, claim ∈ left.map Signal.claim ↔ claim ∈ right.map Signal.claim

theorem SaySame.outcomeOf_eq {left right : List Signal} (same : SaySame left right) :
    outcomeOf (left.map Signal.claim) = outcomeOf (right.map Signal.claim) := by
  funext c
  simp only [outcomeOf, same (c, false), same (c, true)]

def Diagnostic.finding (d : Diagnostic) : Finding := ⟨d.check, d.actual, d.expected⟩

theorem map_finding_logFrom (start : Nat) (findings : List Finding) :
    (logFrom start findings).map Diagnostic.finding = findings := by
  induction findings generalizing start with
  | nil => rfl
  | cons finding findings ih => rw [logFrom_cons, List.map_cons, ih]; rfl

namespace Report

/-- The outcomes of a new report after any signals are a function of the claims that they make. -/
theorem outcomes_recordAll_new (attempt : Attempt) (signals : List Signal) :
    ((new attempt).recordAll signals).outcomes = outcomeOf (signals.map Signal.claim) := by
  funext c
  have failed := (new attempt).failed_recordAll_iff signals c
  have unevaluated := (new attempt).notEvaluated_recordAll_iff signals c
  simp only [new, reduceCtorEq, false_or, true_and, ← Signal.claim_failure_mem_iff]
    at failed unevaluated
  unfold outcomeOf
  split
  · rename_i failing
    exact failed.mpr failing
  · rename_i sound
    split
    · rename_i passing
      have evaluated : ((new attempt).recordAll signals).outcomes c ≠ .notEvaluated := by
        intro blank
        exact unevaluated.mp blank _ ((Signal.claim_pass_mem_iff signals c).mp passing) rfl
      cases known : ((new attempt).recordAll signals).outcomes c with
      | notEvaluated => exact absurd known evaluated
      | passed => rfl
      | failed => exact absurd (failed.mp known) sound
    · rename_i silent
      refine unevaluated.mpr ?_
      rintro signal member rfl
      obtain ⟨_ | _, said⟩ := Signal.claim_mem_of_check member
      · exact sound said
      · exact silent said

theorem findings_recordAll_new (attempt : Attempt) (signals : List Signal) :
    ((new attempt).recordAll signals).log.map Diagnostic.finding =
      signals.filterMap Signal.finding? := by
  rw [log_recordAll]
  exact map_finding_logFrom 0 _

theorem decisions_eq_of_outcomes_eq {left right : Report} (same : left.outcomes = right.outcomes) :
    left.valid = right.valid ∧ left.failedChecks = right.failedChecks ∧
      left.unevaluatedChecks = right.unevaluatedChecks ∧ left.isComplete = right.isComplete ∧
      (∀ binding policy, left.obstacle? binding policy = right.obstacle? binding policy) ∧
      left.view = right.view := by
  obtain ⟨_, outcomes, _⟩ := left
  obtain ⟨_, _, _⟩ := right
  subst same
  exact ⟨rfl, rfl, rfl, rfl, fun _ _ => rfl, rfl⟩

/-- The verdict of a report depends on nothing but which checks were said to pass and which to fail:
not on the order of the signals, their repetitions or the values in them. Signals that are only
reordered leave the same findings in the log. -/
theorem recordAll_depends_on_claims (attempt other : Attempt) (left right : List Signal) :
    let first := (new attempt).recordAll left
    let second := (new other).recordAll right
    (SaySame left right →
      (∀ c, first.outcomes c = second.outcomes c) ∧
      first.valid = second.valid ∧
      first.failedChecks = second.failedChecks ∧
      first.unevaluatedChecks = second.unevaluatedChecks ∧
      first.isComplete = second.isComplete ∧
      (∀ binding policy, first.obstacle? binding policy = second.obstacle? binding policy) ∧
      first.view.toText = second.view.toText ∧
      first.view.toIndentedText = second.view.toIndentedText) ∧
    (left.Perm right →
      (first.log.map Diagnostic.finding).Perm (second.log.map Diagnostic.finding)) := by
  intro first second
  constructor
  · intro same
    have outcomes : first.outcomes = second.outcomes := by
      rw [outcomes_recordAll_new, outcomes_recordAll_new, same.outcomeOf_eq]
    obtain ⟨valid, failed, unevaluated, complete, obstacle, view⟩ :=
      decisions_eq_of_outcomes_eq outcomes
    exact ⟨congrFun outcomes, valid, failed, unevaluated, complete, obstacle, by rw [view],
      by rw [view]⟩
  · intro reordered
    rw [findings_recordAll_new, findings_recordAll_new]
    exact reordered.filterMap _

/-- The second history repeats a failure with other values, and has a pass in front of it; the third
is the first one backwards. -/
theorem recordAll_agrees_on_repeated_failure :
    let first : List Signal := [.failure .ofac (.text "listed") .empty, .pass .ofac, .pass .scope]
    let second : List Signal :=
      [.pass .ofac, .failure .ofac .empty .empty, .pass .scope, .failure .ofac (.integer 7) .empty]
    SaySame first second ∧
      ((new 0).recordAll first).failedChecks = ((new 1).recordAll second).failedChecks ∧
      ((new 0).recordAll first).view.toText = ((new 1).recordAll second).view.toText ∧
      first.Perm first.reverse ∧
      (((new 0).recordAll first).log.map Diagnostic.finding).Perm
        (((new 1).recordAll first.reverse).log.map Diagnostic.finding) := by
  intro first second
  have same : SaySame first second := by
    intro claim
    simp only [first, second, List.map_cons, List.map_nil, Signal.claim, List.mem_cons]
    grind
  have backwards : first.Perm first.reverse := (List.reverse_perm first).symm
  obtain ⟨-, -, failed, -, -, -, text, -⟩ :=
    (recordAll_depends_on_claims 0 1 first second).1 same
  exact ⟨same, failed, text, backwards,
    (recordAll_depends_on_claims 0 1 first first.reverse).2 backwards⟩

end Report

end Attestation

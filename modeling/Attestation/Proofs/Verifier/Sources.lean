import Attestation.Proofs.Collector.Delivery
import Attestation.Proofs.Keyed
import Attestation.Verifier

namespace Attestation

def Verdict.finding? (check : Check) : Verdict → Option Finding
  | .pass => none
  | .fail actual expected => some ⟨check, actual, expected⟩

def findingsOf (verdicts : Check → Option Verdict) : List Finding :=
  Check.all.filterMap fun c => (verdicts c).bind fun verdict => verdict.finding? c

def Routine.finding? (routine : Routine) (submission : Submission) : Option Finding :=
  match routine.answer submission with
  | .ok .pass => none
  | .ok (.fail actual expected) => some ⟨routine.check, actual, expected⟩
  | .error error => some ⟨routine.check, .text error.message, .text "routine verdict"⟩

namespace Verifier

/-- What the sources of an attempt say of a check. -/
inductive Gives (v : Verifier) (submission : Submission) (today : Date) :
    Check → Verdict → Prop where
  | supplied {check verdict} (found : submission.verdicts.get? check = some verdict) :
    Gives v submission today check verdict
  | answered {routine verdict} (member : routine ∈ v.routines)
    (answer : routine.answer submission = .ok verdict) :
    Gives v submission today routine.check verdict
  | errored {routine error} (member : routine ∈ v.routines)
    (answer : routine.answer submission = .error error) :
    Gives v submission today routine.check (.fail (.text error.message) (.text "routine verdict"))
  | compared {check verdict}
    (member : (check, verdict) ∈ v.checker.evaluate submission.disclosed v.requirements today) :
    Gives v submission today check verdict

def signals (v : Verifier) (submission : Submission) (today : Date) (completed : List Routine) :
    List Signal :=
  (v.verdicts submission today completed).map fun entry => signalOf entry.1 entry.2

def recorded (v : Verifier) (attempt : Attempt) (submission : Submission) (today : Date)
    (completed : List Routine) : Report :=
  (Report.new attempt).recordAll (v.signals submission today completed)

theorem signalOf_eq_failure_iff (check c : Check) (verdict : Verdict) (actual expected : Value) :
    signalOf check verdict = .failure c actual expected ↔
      check = c ∧ verdict = .fail actual expected := by
  cases verdict <;> simp [signalOf]

@[simp] theorem check_signalOf (check : Check) (verdict : Verdict) :
    (signalOf check verdict).check = check := by
  cases verdict <;> rfl

@[simp] theorem finding?_signalOf (check : Check) (verdict : Verdict) :
    (signalOf check verdict).finding? = verdict.finding? check := by
  cases verdict <;> rfl

theorem finding?_verdictOf (routine : Routine) (submission : Submission) :
    (verdictOf routine submission).finding? routine.check = routine.finding? submission := by
  unfold verdictOf Routine.finding?
  cases routine.answer submission with
  | error error => rfl
  | ok verdict => cases verdict <;> rfl

variable (v : Verifier) (attempt : Attempt) (submission : Submission) (today : Date)
  {completed : List Routine}

theorem mem_verdicts_iff (order : completed.Perm v.routines) (c : Check) (verdict : Verdict) :
    (c, verdict) ∈ v.verdicts submission today completed ↔ v.Gives submission today c verdict := by
  simp only [verdicts, List.mem_append, List.mem_map, Prod.mk.injEq, or_assoc]
  constructor
  · rintro (supplied | ⟨routine, member, rfl, rfl⟩ | compared)
    · exact .supplied ((submission.verdicts.get?_eq_some_iff c verdict).mpr supplied)
    · have registered := order.mem_iff.mp member
      unfold verdictOf
      cases answer : routine.answer submission with
      | ok verdict => exact .answered registered answer
      | error error => exact .errored registered answer
    · exact .compared compared
  · intro given
    cases given with
    | supplied found => exact .inl ((submission.verdicts.get?_eq_some_iff c verdict).mp found)
    | @answered routine _ member answer =>
      exact .inr (.inl ⟨routine, order.mem_iff.mpr member, rfl, by simp only [verdictOf, answer]⟩)
    | @errored routine error member answer =>
      exact .inr (.inl ⟨routine, order.mem_iff.mpr member, rfl, by simp only [verdictOf, answer]⟩)
    | compared member => exact .inr (.inr member)

theorem failed_recorded_iff (order : completed.Perm v.routines) (c : Check) :
    (v.recorded attempt submission today completed).outcomes c = .failed ↔
      ∃ actual expected, v.Gives submission today c (.fail actual expected) := by
  simp only [recorded, Report.failed_recordAll_iff, Report.new, reduceCtorEq, false_or, signals,
    List.mem_map, signalOf_eq_failure_iff, Prod.exists, ← mem_verdicts_iff v submission today order]
  constructor
  · rintro ⟨actual, expected, check, verdict, member, rfl, rfl⟩
    exact ⟨actual, expected, member⟩
  · rintro ⟨actual, expected, member⟩
    exact ⟨actual, expected, c, _, member, rfl, rfl⟩

theorem notEvaluated_recorded_iff (order : completed.Perm v.routines) (c : Check) :
    (v.recorded attempt submission today completed).outcomes c = .notEvaluated ↔
      ∀ verdict, ¬ v.Gives submission today c verdict := by
  simp only [recorded, Report.notEvaluated_recordAll_iff, Report.new, true_and, signals,
    List.forall_mem_map, check_signalOf, Prod.forall, ← mem_verdicts_iff v submission today order]
  constructor
  · intro unlike verdict member
    exact unlike c verdict member rfl
  · rintro silent check verdict member rfl
    exact silent verdict member

theorem passed_recorded_iff (order : completed.Perm v.routines) (c : Check) :
    (v.recorded attempt submission today completed).outcomes c = .passed ↔
      (∃ verdict, v.Gives submission today c verdict) ∧
        ∀ verdict, v.Gives submission today c verdict → verdict = .pass := by
  have failed := v.failed_recorded_iff attempt submission today order c
  have unknown := v.notEvaluated_recorded_iff attempt submission today order c
  cases outcome : (v.recorded attempt submission today completed).outcomes c with
  | notEvaluated =>
    have silent := unknown.mp outcome
    simp [silent]
  | failed =>
    obtain ⟨actual, expected, given⟩ := failed.mp outcome
    simp only [reduceCtorEq, false_iff, not_and]
    intro _ passes
    exact absurd (passes _ given) (by simp)
  | passed =>
    simp only [true_iff]
    rw [outcome] at failed unknown
    constructor
    · by_contra silent
      exact absurd (unknown.mpr (not_exists.mp silent)) (by simp)
    · intro verdict given
      cases verdict with
      | pass => rfl
      | fail actual expected => exact absurd (failed.mpr ⟨actual, expected, given⟩) (by simp)

end Verifier

end Attestation

import Attestation.Report

namespace Attestation

structure Finding where
  check : Check
  actual : Value
  expected : Value
  deriving DecidableEq

def Finding.entry (finding : Finding) (sequence : Nat) : Diagnostic :=
  ⟨sequence, finding.check, finding.actual, finding.expected⟩

def logFrom (start : Nat) (findings : List Finding) : List Diagnostic :=
  findings.mapIdx fun i finding => finding.entry (start + i)

theorem logFrom_cons (start : Nat) (finding : Finding) (findings : List Finding) :
    logFrom start (finding :: findings) = finding.entry start :: logFrom (start + 1) findings := by
  simp only [logFrom, List.mapIdx_cons, Nat.add_zero]
  congr 2
  funext i later
  rw [Nat.add_assoc, Nat.add_comm 1 i]

namespace Signal

def finding? : Signal → Option Finding
  | .pass _ => none
  | .failure check actual expected => some ⟨check, actual, expected⟩

end Signal

namespace Report

@[simp] theorem attempt_record (report : Report) (signal : Signal) :
    (report.record signal).1.attempt = report.attempt := by
  cases signal <;> rfl

theorem outcomes_record_of_ne (report : Report) (signal : Signal) {c : Check}
    (other : c ≠ signal.check) :
    (report.record signal).1.outcomes c = report.outcomes c := by
  cases signal <;> exact if_neg other

theorem failed_record_iff (report : Report) (signal : Signal) (c : Check) :
    (report.record signal).1.outcomes c = .failed ↔
      report.outcomes c = .failed ∨ ∃ actual expected, signal = .failure c actual expected := by
  by_cases same : c = signal.check
  · subst same
    cases signal with
    | pass check =>
      cases before : report.outcomes check <;>
        simp [record, recordPass, setOutcome, Signal.check, Outcome.onPass, before]
    | failure check actual expected =>
      simp [record, recordFailure, setOutcome, Signal.check, Outcome.onFailure]
  · rw [outcomes_record_of_ne report signal same]
    have unrelated : ¬ ∃ actual expected, signal = .failure c actual expected := by
      rintro ⟨actual, expected, rfl⟩
      exact same rfl
    simp only [unrelated, or_false]

theorem notEvaluated_record_iff (report : Report) (signal : Signal) (c : Check) :
    (report.record signal).1.outcomes c = .notEvaluated ↔
      report.outcomes c = .notEvaluated ∧ signal.check ≠ c := by
  by_cases same : c = signal.check
  · subst same
    cases signal with
    | pass check =>
      cases before : report.outcomes check <;>
        simp [record, recordPass, setOutcome, Signal.check, Outcome.onPass, before]
    | failure check actual expected =>
      simp [record, recordFailure, setOutcome, Signal.check, Outcome.onFailure]
  · rw [outcomes_record_of_ne report signal same]
    have different : signal.check ≠ c := fun equal => same equal.symm
    simp only [different, ne_eq, not_false_eq_true, and_true]

theorem log_record (report : Report) (signal : Signal) :
    (report.record signal).1.log =
      report.log ++ signal.finding?.toList.map fun finding => finding.entry report.log.length := by
  cases signal <;> simp [record, recordPass, recordFailure, Signal.finding?, Finding.entry]

@[simp] theorem recordAll_nil (report : Report) : report.recordAll [] = report := rfl

theorem recordAll_cons (report : Report) (signal : Signal) (signals : List Signal) :
    report.recordAll (signal :: signals) = (report.record signal).1.recordAll signals := rfl

theorem recordAll_append (report : Report) (before after : List Signal) :
    report.recordAll (before ++ after) = (report.recordAll before).recordAll after :=
  List.foldl_append

theorem attempt_recordAll (report : Report) (signals : List Signal) :
    (report.recordAll signals).attempt = report.attempt := by
  induction signals generalizing report with
  | nil => rfl
  | cons signal signals ih => rw [recordAll_cons, ih, attempt_record]

theorem failed_recordAll_iff (report : Report) (signals : List Signal) (c : Check) :
    (report.recordAll signals).outcomes c = .failed ↔
      report.outcomes c = .failed ∨ ∃ actual expected, .failure c actual expected ∈ signals := by
  induction signals generalizing report with
  | nil => simp
  | cons signal signals ih =>
    rw [recordAll_cons, ih, failed_record_iff, or_assoc]
    simp only [List.mem_cons, exists_or, eq_comm]

theorem notEvaluated_recordAll_iff (report : Report) (signals : List Signal) (c : Check) :
    (report.recordAll signals).outcomes c = .notEvaluated ↔
      report.outcomes c = .notEvaluated ∧ ∀ signal ∈ signals, signal.check ≠ c := by
  induction signals generalizing report with
  | nil => simp
  | cons signal signals ih =>
    rw [recordAll_cons, ih, notEvaluated_record_iff, and_assoc, List.forall_mem_cons]

theorem log_recordAll (report : Report) (signals : List Signal) :
    (report.recordAll signals).log =
      report.log ++ logFrom report.log.length (signals.filterMap Signal.finding?) := by
  induction signals generalizing report with
  | nil => simp [logFrom]
  | cons signal signals ih =>
    rw [recordAll_cons, ih, log_record]
    cases quiet : signal.finding? with
    | none => simp [quiet]
    | some finding => simp [quiet, logFrom_cons]

end Report

end Attestation

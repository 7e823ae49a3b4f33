import Attestation.Proofs.Report.Confluence
import Mathlib.Data.List.Nodup
import Mathlib.Data.List.TFAE
import Mathlib.Tactic.TFAE

namespace Attestation

inductive Call where
  | pass (check : Check)
  | failure (check : Check) (actual expected : Value)
  | failureNamed (name : String) (actual expected : Value)
  deriving DecidableEq

namespace Call

def signal? : Call → Option Signal
  | .pass check => some (.pass check)
  | .failure check actual expected => some (.failure check actual expected)
  | .failureNamed name actual expected =>
    (Check.ofName? name).map fun check => .failure check actual expected

def finding? (call : Call) : Option Finding := call.signal?.bind Signal.finding?

theorem filterMap_finding? (calls : List Call) :
    calls.filterMap finding? = (calls.filterMap signal?).filterMap Signal.finding? := by
  rw [List.filterMap_filterMap]
  rfl

end Call

def Signal.call : Signal → Call
  | .pass check => .pass check
  | .failure check actual expected => .failure check actual expected

theorem Signal.exists_failure_iff (signals : List Signal) (c : Check) :
    (∃ actual expected, .failure c actual expected ∈ signals) ↔
      ∃ finding ∈ signals.filterMap Signal.finding?, finding.check = c := by
  constructor
  · rintro ⟨actual, expected, member⟩
    exact ⟨⟨c, actual, expected⟩, List.mem_filterMap.mpr ⟨_, member, rfl⟩, rfl⟩
  · rintro ⟨finding, member, rfl⟩
    obtain ⟨signal, given, found⟩ := List.mem_filterMap.mp member
    cases signal <;> cases found
    exact ⟨_, _, given⟩

theorem Call.pass_mem_iff (calls : List Call) (c : Check) :
    .pass c ∈ calls.filterMap Call.signal? ↔ .pass c ∈ calls := by
  rw [List.mem_filterMap]
  constructor
  · rintro ⟨call, member, known⟩
    cases call with
    | pass check =>
      cases known
      exact member
    | failure check actual expected => cases known
    | failureNamed name actual expected => simp [signal?] at known
  · intro member
    exact ⟨.pass c, member, rfl⟩

theorem Check.ofName?_eq_none {name : String} (unknown : ∀ c : Check, c.wireName ≠ name) :
    ofName? name = none := by
  cases found : ofName? name with
  | none => rfl
  | some c => exact absurd (wireName_of_ofName? found) (unknown c)

theorem map_sequence_logFrom (start : Nat) (findings : List Finding) :
    (logFrom start findings).map (·.sequence) = List.range' start findings.length := by
  induction findings generalizing start with
  | nil => rfl
  | cons finding findings ih => rw [logFrom_cons, List.map_cons, ih]; rfl

theorem exists_mem_map_finding (log : List Diagnostic) (c : Check) :
    (∃ finding ∈ log.map Diagnostic.finding, finding.check = c) ↔
      ∃ entry ∈ log, entry.check = c := by
  simp [Diagnostic.finding]

namespace Report

def perform (report : Report) : Call → Report × Except ReportError Transition
  | .pass check =>
    let (next, transition) := report.recordPass check
    (next, .ok transition)
  | .failure check actual expected =>
    let (next, transition) := report.recordFailure check actual expected
    (next, .ok transition)
  | .failureNamed name actual expected =>
    match report.recordFailureNamed name actual expected with
    | .ok (next, transition) => (next, .ok transition)
    | .error error => (report, .error (.unknownName error))

def performAll (report : Report) (calls : List Call) : Report :=
  calls.foldl (fun report call => (report.perform call).1) report

theorem perform_named_of_wireName (report : Report) {name : String} {c : Check}
    (named : c.wireName = name) (actual expected : Value) :
    report.perform (.failureNamed name actual expected) =
      report.perform (.failure c actual expected) := by
  subst named
  simp only [perform, recordFailureNamed, Check.ofName?_wireName]

theorem perform_named_of_unknown (report : Report) {name : String}
    (unknown : ∀ c : Check, c.wireName ≠ name) (actual expected : Value) :
    report.perform (.failureNamed name actual expected) =
      (report, .error (.unknownName (.unknownCheck name))) := by
  simp only [perform, recordFailureNamed, Check.ofName?_eq_none unknown]

theorem fst_perform (report : Report) (call : Call) :
    (report.perform call).1 = report.recordAll call.signal?.toList := by
  cases call with
  | pass check => rfl
  | failure check actual expected => rfl
  | failureNamed name actual expected =>
    cases known : Check.ofName? name <;>
      simp only [perform, recordFailureNamed, Call.signal?, known] <;> rfl

theorem performAll_eq (report : Report) (calls : List Call) :
    report.performAll calls = report.recordAll (calls.filterMap Call.signal?) := by
  induction calls generalizing report with
  | nil => rfl
  | cons call calls ih =>
    change (report.perform call).1.performAll calls = _
    rw [ih, fst_perform, ← recordAll_append, List.filterMap_cons]
    cases call.signal? <;> rfl

theorem answer_cases (report : Report) (call : Call) :
    (∃ c, call = .pass c ∧ call.finding? = none ∧ (report.perform call).2 =
      .ok (if report.outcomes c = .notEvaluated then .passed else .unchanged)) ∨
    (∃ finding, (∀ c, call ≠ .pass c) ∧ call.finding? = some finding ∧ (report.perform call).2 =
      .ok (if report.outcomes finding.check = .failed then .alreadyFailed else .failed)) ∨
    ((∀ c, call ≠ .pass c) ∧ call.finding? = none ∧
      ∃ error, (report.perform call).2 = .error error) := by
  cases call with
  | pass c => exact .inl ⟨c, rfl, rfl, rfl⟩
  | failure c actual expected =>
    exact .inr (.inl ⟨⟨c, actual, expected⟩, by simp, rfl, rfl⟩)
  | failureNamed name actual expected =>
    refine .inr ?_
    cases known : Check.ofName? name with
    | some c =>
      refine .inl ⟨⟨c, actual, expected⟩, by simp, ?_, ?_⟩
      · simp only [Call.finding?, Call.signal?, known]
        rfl
      · rw [report.perform_named_of_wireName (Check.wireName_of_ofName? known)]
        rfl
    | none =>
      refine .inr ⟨by simp, ?_, .unknownName (.unknownCheck name), ?_⟩
      · simp only [Call.finding?, Call.signal?, known]
        rfl
      · simp only [perform, recordFailureNamed, known]

theorem answer_iff (report : Report) (call : Call) :
    ((report.perform call).2 = .ok .failed ↔
      ∃ finding, call.finding? = some finding ∧ report.outcomes finding.check ≠ .failed) ∧
    ((report.perform call).2 = .ok .alreadyFailed ↔
      ∃ finding, call.finding? = some finding ∧ report.outcomes finding.check = .failed) ∧
    ((report.perform call).2 = .ok .passed ↔
      ∃ c, call = .pass c ∧ report.outcomes c = .notEvaluated) ∧
    ((report.perform call).2 = .ok .unchanged ↔
      ∃ c, call = .pass c ∧ report.outcomes c ≠ .notEvaluated) := by
  obtain ⟨c, rfl, silent, answer⟩ | ⟨finding, other, found, answer⟩ | ⟨other, silent, _, answer⟩ :=
    report.answer_cases call
  · rw [answer, silent]
    by_cases blank : report.outcomes c = .notEvaluated <;> simp [blank]
  · rw [answer, found]
    by_cases failed : report.outcomes finding.check = .failed <;> simp [failed, other]
  · rw [answer, silent]
    simp [other]

section History

variable (attempt : Attempt) (history : List Call)

theorem findings_performAll_new :
    ((new attempt).performAll history).log.map Diagnostic.finding =
      history.filterMap Call.finding? := by
  rw [performAll_eq, findings_recordAll_new, Call.filterMap_finding?]

theorem sequences_performAll_new :
    ((new attempt).performAll history).log.map (·.sequence) =
      List.range ((new attempt).performAll history).log.length := by
  rw [performAll_eq, log_recordAll, List.range_eq_range']
  change (logFrom 0 _).map _ = _
  rw [map_sequence_logFrom]
  simp [new, logFrom]

theorem notEvaluated_performAll_new_iff (c : Check) :
    ((new attempt).performAll history).outcomes c = .notEvaluated ↔
      ∀ signal ∈ history.filterMap Call.signal?, signal.check ≠ c := by
  rw [performAll_eq, notEvaluated_recordAll_iff]
  simp only [new, true_and]

theorem claims_performAll_new_iff (c : Check) :
    ((c, false) ∈ (history.filterMap Call.signal?).map Signal.claim ↔
      ∃ entry ∈ ((new attempt).performAll history).log, entry.check = c) ∧
    ((c, true) ∈ (history.filterMap Call.signal?).map Signal.claim ↔ .pass c ∈ history) := by
  rw [Signal.claim_failure_mem_iff, Signal.claim_pass_mem_iff, Call.pass_mem_iff,
    Signal.exists_failure_iff, ← Call.filterMap_finding?, ← findings_performAll_new attempt,
    exists_mem_map_finding]
  exact ⟨Iff.rfl, Iff.rfl⟩

theorem outcome_performAll_new_iff (c : Check) :
    let report := (new attempt).performAll history
    (report.outcomes c = .failed ↔ ∃ entry ∈ report.log, entry.check = c) ∧
    (report.outcomes c = .passed ↔
      (∀ entry ∈ report.log, entry.check ≠ c) ∧ .pass c ∈ history) ∧
    (report.outcomes c = .notEvaluated ↔
      (∀ entry ∈ report.log, entry.check ≠ c) ∧ .pass c ∉ history) := by
  intro report
  obtain ⟨failing, passing⟩ := claims_performAll_new_iff attempt history c
  have outcome : report.outcomes c =
      outcomeOf ((history.filterMap Call.signal?).map Signal.claim) c := by
    simp only [report, performAll_eq, outcomes_recordAll_new]
  rw [outcome, outcomeOf_eq_failed_iff, outcomeOf_eq_passed_iff, outcomeOf_eq_notEvaluated_iff,
    failing, passing]
  simp only [not_exists, not_and, ne_eq]
  exact ⟨Iff.rfl, Iff.rfl, Iff.rfl⟩

theorem log_performAll_new_eq_nil_iff :
    ((new attempt).performAll history).log = [] ↔
      ∀ c, ((new attempt).performAll history).outcomes c ≠ .failed := by
  rw [List.eq_nil_iff_forall_not_mem]
  constructor
  · intro empty c failed
    obtain ⟨entry, member, -⟩ := (outcome_performAll_new_iff attempt history c).1.mp failed
    exact empty entry member
  · intro sound entry member
    have failed := (outcome_performAll_new_iff attempt history entry.check).1
    exact sound entry.check (failed.mpr ⟨entry, member, rfl⟩)

end History

/-- The log of a report names the checks that failed, and no entry of it comes twice. -/
structure Logged (report : Report) : Prop where
  failed_iff : ∀ c, report.outcomes c = .failed ↔ ∃ d ∈ report.log, d.check = c
  nodup : report.log.Nodup

theorem recordAll_eq_performAll (report : Report) (signals : List Signal) :
    report.recordAll signals = report.performAll (signals.map Signal.call) := by
  have given : (signals.map Signal.call).filterMap Call.signal? = signals := by
    rw [List.filterMap_map]
    have back : Call.signal? ∘ Signal.call = some := by
      funext signal
      cases signal <;> rfl
    rw [back, List.filterMap_some]
  rw [performAll_eq, given]

theorem logged_recordAll_new (attempt : Attempt) (signals : List Signal) :
    ((new attempt).recordAll signals).Logged := by
  rw [recordAll_eq_performAll]
  constructor
  · intro c
    exact (outcome_performAll_new_iff attempt _ c).1
  · apply List.Nodup.of_map Diagnostic.sequence
    rw [sequences_performAll_new]
    exact List.nodup_range

theorem valid_iff (report : Report) :
    report.valid = true ↔ ∀ c, report.outcomes c ≠ .failed := by
  simp [valid, flag, Check.mem_all]

theorem failedChecks_eq_nil_iff (report : Report) :
    report.failedChecks = [] ↔ ∀ c, report.outcomes c ≠ .failed := by
  simp [failedChecks, Check.mem_all]

theorem flags_view_iff (report : Report) (c : Check) :
    report.view.flags c = true ↔ report.outcomes c ≠ .failed :=
  Outcome.flag_eq_true_iff _

/-- What any history of calls leaves in a new report, and what the next call is answered: the log
has the failures of the history in their order, the outcomes say what the log and the passes say,
and the first failure of a check and its first pass are told from repeated ones. A failure under a
name is a failure of the check that has exactly that name, and is refused when there is none. -/
theorem performAll_new_keeps_history (attempt : Attempt) (history : List Call) :
    let report := (new attempt).performAll history
    let findings := history.filterMap Call.finding?
    let signals := history.filterMap Call.signal?
    (report.log.map Diagnostic.finding = findings ∧
      report.log.map (·.sequence) = List.range report.log.length) ∧
    (∀ c,
      (report.outcomes c = .failed ↔ ∃ entry ∈ report.log, entry.check = c) ∧
      (report.outcomes c = .passed ↔
        (∀ entry ∈ report.log, entry.check ≠ c) ∧ .pass c ∈ history) ∧
      (report.outcomes c = .notEvaluated ↔
        (∀ entry ∈ report.log, entry.check ≠ c) ∧ .pass c ∉ history)) ∧
    [report.valid = true, report.log = [], report.failedChecks = [],
      ∀ c, report.view.flags c = true].TFAE ∧
    (∀ call,
      ((report.perform call).2 = .ok .failed ↔
        ∃ finding, call.finding? = some finding ∧
          ∀ earlier ∈ findings, earlier.check ≠ finding.check) ∧
      ((report.perform call).2 = .ok .alreadyFailed ↔
        ∃ finding, call.finding? = some finding ∧
          ∃ earlier ∈ findings, earlier.check = finding.check) ∧
      ((report.perform call).2 = .ok .passed ↔
        ∃ c, call = .pass c ∧ ∀ earlier ∈ signals, earlier.check ≠ c) ∧
      ((report.perform call).2 = .ok .unchanged ↔
        ∃ c, call = .pass c ∧ ∃ earlier ∈ signals, earlier.check = c)) ∧
    ∀ name actual expected,
      (∀ c : Check, c.wireName = name →
        report.perform (.failureNamed name actual expected) =
          report.perform (.failure c actual expected)) ∧
      ((∀ c : Check, c.wireName ≠ name) →
        report.perform (.failureNamed name actual expected) =
          (report, .error (.unknownName (.unknownCheck name)))) := by
  intro report findings signals
  have failed (c : Check) :
      report.outcomes c = .failed ↔ ∃ earlier ∈ findings, earlier.check = c := by
    have logged := findings_performAll_new attempt history
    rw [(outcome_performAll_new_iff attempt history c).1, ← exists_mem_map_finding, logged]
  have blank (c : Check) :
      report.outcomes c = .notEvaluated ↔ ∀ earlier ∈ signals, earlier.check ≠ c :=
    notEvaluated_performAll_new_iff attempt history c
  refine ⟨⟨findings_performAll_new attempt history, sequences_performAll_new attempt history⟩,
    outcome_performAll_new_iff attempt history, ?_, ?_, ?_⟩
  · refine List.tfae_of_forall (∀ c, report.outcomes c ≠ .failed) _ ?_
    simp only [List.forall_mem_cons, List.not_mem_nil, false_implies, implies_true, and_true]
    exact ⟨valid_iff report, log_performAll_new_eq_nil_iff attempt history,
      failedChecks_eq_nil_iff report, forall_congr' (flags_view_iff report)⟩
  · intro call
    obtain ⟨first, repeated, passed, unchanged⟩ := report.answer_iff call
    refine ⟨first.trans ?_, repeated.trans ?_, passed.trans ?_, unchanged.trans ?_⟩
    · simp only [ne_eq, failed, not_exists, not_and]
    · simp only [failed]
    · simp only [blank]
    · simp only [ne_eq, blank, not_forall, not_not, exists_prop]
  · intro name actual expected
    exact ⟨fun c named => perform_named_of_wireName report named actual expected,
      fun unknown => perform_named_of_unknown report unknown actual expected⟩

end Report

end Attestation

import Attestation.Proofs.Report.Refusal
import Attestation.Proofs.Summary.Entries
import Attestation.Proofs.Verifier.Runs

namespace Attestation.Presentation

open SummaryEntry

def refusalOf : Except VerifierError Sealed → Option Refusal
  | .error (.refused refusal) => some refusal
  | _ => none

def missingChecks (report : Report) (refusal? : Option Refusal) : List Check :=
  if refusal?.map (·.policy) = some .strict then report.unevaluatedChecks else []

/-- A summary says of a report what there is to say, and says it once. -/
structure Explains (shown : Presentation) (report : Report) (refusal? : Option Refusal) :
    Prop where
  headings : shown.summary.filter (fun entry => entry.diagnostic?.isNone) =
    report.failedChecks.map .failed ++ (missingChecks report refusal?).map .missing ++
      refusal?.toList.map fun refusal => .refused refusal.obstacle
  distinct : (shown.summary.filterMap named?).Nodup
  flags : ∀ c, c ∈ shown.summary.filterMap named? ↔ shown.view.flags c = false
  once : ∀ d ∈ report.log, shown.summary.count (.values d) = 1
  diagnostics : (shown.summary.filterMap diagnostic?).Perm report.log
  inOrder : ∀ c, (shown.summary.filterMap diagnostic?).filter (fun d => d.check = c) =
    report.log.filter fun d => d.check = c
  under : ∀ before d after, shown.summary = before ++ .values d :: after →
    ∃ start, ∃ earlier : List Diagnostic,
      before = start ++ .failed d.check :: earlier.map .values
  grounded : ∀ before c after, shown.summary = before ++ .failed c :: after →
    ∃ d rest, after = .values d :: rest ∧ d.check = c

def Explained (result : Except VerifierError Sealed) : Prop :=
  ∃ shown report, ofResult result = .ok shown ∧ Verifier.reportOf result = some report ∧
    shown.Explains report (refusalOf result)

def closing (report : Report) (refusal? : Option Refusal) : List SummaryEntry :=
  (missingChecks report refusal?).map .missing ++
    refusal?.toList.map fun refusal => .refused refusal.obstacle

section Closing

variable {report : Report} {refusal? : Option Refusal}

theorem values_not_mem_closing (d : Diagnostic) : .values d ∉ closing report refusal? := by
  simp [closing]

theorem failed_not_mem_closing (c : Check) : .failed c ∉ closing report refusal? := by
  simp [closing]

theorem filter_closing : (closing report refusal?).filter
    (fun entry => entry.diagnostic?.isNone) = closing report refusal? := by
  rw [List.filter_eq_self]
  intro entry member
  cases entry with
  | values d => exact absurd member (values_not_mem_closing d)
  | failed | missing | refused => rfl

theorem filterMap_diagnostic?_closing : (closing report refusal?).filterMap diagnostic? = [] := by
  rw [List.filterMap_eq_nil_iff]
  intro entry member
  cases entry with
  | values d => exact absurd member (values_not_mem_closing d)
  | failed | missing | refused => rfl

theorem filterMap_named?_closing :
    (closing report refusal?).filterMap named? = missingChecks report refusal? := by
  have named : named? ∘ SummaryEntry.missing = some := rfl
  have nameless : named? ∘ (fun refusal : Refusal => .refused refusal.obstacle) =
      fun _ => none := rfl
  rw [closing, List.filterMap_append, List.filterMap_map, List.filterMap_map, named, nameless]
  simp

end Closing

theorem nodup_failedChecks_append (report : Report) (refusal? : Option Refusal) :
    (report.failedChecks ++ missingChecks report refusal?).Nodup := by
  have failed : report.failedChecks.Nodup := Check.all_nodup.filter _
  have missing : (missingChecks report refusal?).Nodup := by
    unfold missingChecks
    split
    · exact Check.all_nodup.filter _
    · exact List.nodup_nil
  apply failed.append missing
  -- What has failed has been evaluated.
  intro c failedCheck missingCheck
  have outcome := (report.mem_failedChecks_iff c).mp failedCheck
  unfold missingChecks at missingCheck
  split at missingCheck
  · have unevaluated := (report.mem_unevaluatedChecks_iff c).mp missingCheck
    rw [outcome] at unevaluated
    cases unevaluated
  · cases missingCheck

section Summary

variable {shown : Presentation} {report : Report} {refusal? : Option Refusal}

theorem filter_diagnostics_summary (logged : report.Logged)
    (summary : shown.summary = failures report.failedChecks report.log ++ closing report refusal?)
    (c : Check) :
    (shown.summary.filterMap diagnostic?).filter (fun d => d.check = c) =
      report.log.filter fun d => d.check = c := by
  have distinct : report.failedChecks.Nodup := Check.all_nodup.filter _
  rw [summary, List.filterMap_append, filterMap_diagnostic?_failures,
    filterMap_diagnostic?_closing, List.append_nil, filter_check_flatMap distinct]
  split
  · rfl
  · rename_i sound
    symm
    rw [List.filter_eq_nil_iff]
    intro d member same
    apply sound
    rw [Report.mem_failedChecks_iff, logged.failed_iff]
    exact ⟨d, member, by simpa using same⟩

theorem diagnostics_summary_perm (logged : report.Logged)
    (summary : shown.summary = failures report.failedChecks report.log ++ closing report refusal?) :
    (shown.summary.filterMap diagnostic?).Perm report.log := by
  rw [List.perm_iff_count]
  intro d
  have counted (log : List Diagnostic) :
      (log.filter fun other => other.check = d.check).count d = log.count d :=
    List.count_filter (decide_eq_true rfl)
  rw [← counted, filter_diagnostics_summary logged summary, counted]

theorem explains_of_summary (logged : report.Logged)
    (summary : shown.summary = failures report.failedChecks report.log ++ closing report refusal?)
    (flags : ∀ c, shown.view.flags c = false ↔
      c ∈ report.failedChecks ∨ c ∈ missingChecks report refusal?) :
    shown.Explains report refusal? := by
  have named : shown.summary.filterMap named? =
      report.failedChecks ++ missingChecks report refusal? := by
    rw [summary, List.filterMap_append, filterMap_named?_failures, filterMap_named?_closing]
  have perm := diagnostics_summary_perm logged summary
  constructor
  · rw [summary, List.filter_append, filter_failures, filter_closing, closing, List.append_assoc]
  · rw [named]
    exact nodup_failedChecks_append report refusal?
  · intro c
    rw [named, List.mem_append, flags]
  · intro d member
    rw [SummaryEntry.count_values, perm.count_eq]
    exact List.count_eq_one_of_mem logged.nodup member
  · exact perm
  · exact filter_diagnostics_summary logged summary
  · intro before d after split
    exact under_of_failures_eq values_not_mem_closing (summary.symm.trans split)
  · intro before c after split
    apply grounded_of_failures_eq _ failed_not_mem_closing (summary.symm.trans split)
    intro c member
    exact (logged.failed_iff c).mp ((report.mem_failedChecks_iff c).mp member)

end Summary

theorem summary_ofSealed (report : Report) (binding : Option Binding) :
    (ofSealed ⟨report.attempt, report.outcomes, report.log, binding⟩).summary =
      failures report.failedChecks report.log ++ closing report none := by
  have failed : Sealed.failedChecks ⟨report.attempt, report.outcomes, report.log, binding⟩ =
      report.failedChecks := report.failedChecks_eq_filter_flag.symm
  simp [ofSealed, failed, closing, missingChecks]

theorem summary_ofRefusal (refusal : Refusal) :
    (ofRefusal refusal).summary =
      failures refusal.report.failedChecks refusal.report.log ++
        closing refusal.report (some refusal) := by
  by_cases strict : refusal.policy = .strict <;>
    simp [ofRefusal, closing, missingChecks, strict]

theorem flags_ofRefusal (refusal : Refusal) (c : Check) :
    (ofRefusal refusal).view.flags c = false ↔
      c ∈ refusal.report.failedChecks ∨ c ∈ missingChecks refusal.report (some refusal) := by
  cases policy : refusal.policy with
  | strict =>
    rw [ofRefusal, Refusal.flags_view_strict_eq_false_iff policy]
    simp [missingChecks, policy]
  | lenient =>
    rw [ofRefusal, Refusal.view_lenient policy, Report.mem_failedChecks_iff]
    simp [missingChecks, policy, Report.view, View.ofOutcomes, View.ofFlags]

theorem explained_of_logged {report : Report} (logged : report.Logged) (binding : Option Binding)
    (policy : Policy) : Explained ((report.sealWith binding policy).mapError .refused) := by
  cases attempted : report.sealWith binding policy with
  | ok result =>
    obtain ⟨-, rfl⟩ := (Report.sealWith_ok_iff result).mp attempted
    refine ⟨_, report, rfl, rfl, explains_of_summary logged (summary_ofSealed report binding) ?_⟩
    intro c
    rw [Report.mem_failedChecks_iff]
    simp [missingChecks, refusalOf, Except.mapError, ofSealed, Sealed.view, View.ofOutcomes,
      View.ofFlags]
  | error refusal =>
    obtain ⟨-, same⟩ := (Report.sealWith_error_iff refusal).mp attempted
    have sameReport : refusal.report = report := by rw [same]
    rw [← sameReport] at logged
    exact ⟨_, refusal.report, rfl, rfl,
      explains_of_summary logged (summary_ofRefusal refusal) (flags_ofRefusal refusal)⟩

example :
    let report := (Report.new 0).recordAll
      [.failure .ofac (.boolean true) .empty, .failure .dsc .empty .empty, .pass .proof,
        .failure .ofac .empty .empty]
    (ofRefusal ⟨.unprovenBinding, .lenient, report⟩).summary =
      [.failed .dsc, .values ⟨1, .dsc, .empty, .empty⟩,
        .failed .ofac, .values ⟨0, .ofac, .boolean true, .empty⟩,
        .values ⟨2, .ofac, .empty, .empty⟩, .refused .unprovenBinding] := by decide

end Attestation.Presentation

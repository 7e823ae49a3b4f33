import Attestation.Proofs.Summary.Explanation
import Attestation.Proofs.Value.Text

namespace Attestation

theorem Check.break_not_mem_wireName (c : Check) : '\n' ∉ c.wireName.toList := by
  cases c <;> simp [wireName]

theorem Obstacle.break_not_mem_message (obstacle : Obstacle) : '\n' ∉ obstacle.message.toList := by
  have comma : '\n' ∉ [',', ' '] := by decide
  cases obstacle with
  | incompleteCoverage missing =>
    change '\n' ∉ ("report is incomplete, unevaluated checks: " ++
      ", ".intercalate (missing.map Check.wireName)).toList
    simp [Text.mem_intercalate_iff comma, Check.break_not_mem_wireName]
  | unprovenBinding =>
    change '\n' ∉ ("identity binding supplied but the proof check did not pass" : String).toList
    simp

def Diagnostic.Unbroken (d : Diagnostic) : Prop := d.actual.Unbroken ∧ d.expected.Unbroken

instance (d : Diagnostic) : Decidable d.Unbroken := inferInstanceAs (Decidable (_ ∧ _))

namespace SummaryEntry

def content : SummaryEntry → String
  | .failed check => "  [FAIL] " ++ check.wireName
  | .values diagnostic =>
    "         actual: " ++ diagnostic.actual.toText ++ ", expected: " ++ diagnostic.expected.toText
  | .missing check => "  [MISSING] " ++ check.wireName
  | .refused obstacle => "  refused: " ++ obstacle.message

@[simp] theorem content_failed (check : Check) :
    (failed check).content = "  [FAIL] " ++ check.wireName := rfl

@[simp] theorem content_values (d : Diagnostic) : (values d).content =
    "         actual: " ++ d.actual.toText ++ ", expected: " ++ d.expected.toText := rfl

@[simp] theorem content_missing (check : Check) :
    (missing check).content = "  [MISSING] " ++ check.wireName := rfl

@[simp] theorem content_refused (obstacle : Obstacle) :
    (refused obstacle).content = "  refused: " ++ obstacle.message := rfl

theorem toText_eq (entry : SummaryEntry) : entry.toText = entry.content ++ "\n" := by
  cases entry <;> rfl

theorem break_not_mem_content_iff (entry : SummaryEntry) :
    '\n' ∉ entry.content.toList ↔ ∀ d, entry.diagnostic? = some d → d.Unbroken := by
  cases entry with
  | failed check => simp [check.break_not_mem_wireName]
  | values d =>
    simp [Diagnostic.Unbroken, ← Value.break_not_mem_toText_iff]
  | missing check => simp [check.break_not_mem_wireName]
  | refused obstacle => simp [obstacle.break_not_mem_message]

def opensWith (opening : String) (entry : SummaryEntry) : Bool :=
  opening.toList.isPrefixOf entry.content.toList

theorem opensWith_fail_iff (entry : SummaryEntry) :
    entry.opensWith "  [FAIL] " = true ↔ ∃ c, entry = .failed c := by
  cases entry <;> simp [opensWith]

theorem opensWith_missing_iff (entry : SummaryEntry) :
    entry.opensWith "  [MISSING] " = true ↔ ∃ c, entry = .missing c := by
  cases entry <;> simp [opensWith]

theorem length_eq (entries : List SummaryEntry) :
    entries.length = (entries.filter fun entry => entry.diagnostic?.isNone).length +
      (entries.filterMap diagnostic?).length := by
  induction entries with
  | nil => rfl
  | cons entry entries ih =>
    rw [List.length_cons, ih, List.filterMap_cons]
    cases entry <;> simp <;> omega

end SummaryEntry

namespace Presentation

open SummaryEntry

theorem toList_summaryText (shown : Presentation) :
    shown.summaryText.toList = shown.summary.flatMap fun entry => entry.content.toList ++ ['\n'] := by
  rw [summaryText, String.toList_join, List.flatMap_map]
  congr 1
  funext entry
  rw [toText_eq, String.toList_append]
  rfl

def lines (shown : Presentation) : List (List Char) := Text.lines shown.summaryText.toList

def linesThatOpenWith (shown : Presentation) (opening : String) : List (List Char) :=
  shown.lines.filter fun line => opening.toList.isPrefixOf line

/-- A summary has a line for each failed check, each diagnostic, each missing check and the reason
of a refusal, and no other line looks like that of a failed or a missing check. -/
structure Unforged (shown : Presentation) (report : Report) (refusal? : Option Refusal) :
    Prop where
  length : shown.lines.length = report.failedChecks.length + report.log.length +
    (missingChecks report refusal?).length + refusal?.toList.length
  failed : shown.linesThatOpenWith "  [FAIL] " =
    report.failedChecks.map fun c => ("  [FAIL] " ++ c.wireName).toList
  missing : shown.linesThatOpenWith "  [MISSING] " =
    (missingChecks report refusal?).map fun c => ("  [MISSING] " ++ c.wireName).toList

section Explained

variable {shown : Presentation} {report : Report} {refusal? : Option Refusal}

theorem Explains.length_summary (explains : shown.Explains report refusal?) :
    shown.summary.length = report.failedChecks.length + report.log.length +
      (missingChecks report refusal?).length + refusal?.toList.length := by
  rw [SummaryEntry.length_eq, explains.headings, explains.diagnostics.length_eq]
  simp only [List.length_append, List.length_map]
  omega

theorem Explains.diagnostic?_iff (explains : shown.Explains report refusal?) (d : Diagnostic) :
    (∃ entry ∈ shown.summary, entry.diagnostic? = some d) ↔ d ∈ report.log := by
  rw [← explains.diagnostics.mem_iff, List.mem_filterMap]

theorem Explains.filter_opensWith (explains : shown.Explains report refusal?) {opening : String}
    (other : ∀ d, (values d).opensWith opening = false) :
    shown.summary.filter (opensWith opening) =
      (report.failedChecks.map SummaryEntry.failed ++
        (missingChecks report refusal?).map SummaryEntry.missing ++
          refusal?.toList.map fun refusal => SummaryEntry.refused refusal.obstacle).filter
            (opensWith opening) := by
  rw [← explains.headings, List.filter_filter]
  apply List.filter_congr
  intro entry _
  cases entry with
  | values d => simp [other]
  | failed | missing | refused => simp

theorem Explains.filter_opensWith_fail (explains : shown.Explains report refusal?) :
    shown.summary.filter (opensWith "  [FAIL] ") = report.failedChecks.map .failed := by
  have other (d : Diagnostic) : (values d).opensWith "  [FAIL] " = false := by
    simp [← Bool.not_eq_true, opensWith_fail_iff]
  rw [explains.filter_opensWith other, List.filter_append, List.filter_append,
    List.filter_eq_self.mpr, List.filter_eq_nil_iff.mpr, List.filter_eq_nil_iff.mpr,
    List.append_nil, List.append_nil]
  all_goals simp [opensWith_fail_iff]

theorem Explains.filter_opensWith_missing (explains : shown.Explains report refusal?) :
    shown.summary.filter (opensWith "  [MISSING] ") =
      (missingChecks report refusal?).map .missing := by
  have other (d : Diagnostic) : (values d).opensWith "  [MISSING] " = false := by
    simp [← Bool.not_eq_true, opensWith_missing_iff]
  rw [explains.filter_opensWith other, List.filter_append, List.filter_append,
    List.filter_eq_nil_iff.mpr, List.filter_eq_self.mpr, List.filter_eq_nil_iff.mpr,
    List.nil_append, List.append_nil]
  all_goals simp [opensWith_missing_iff]

theorem linesThatOpenWith_eq (unbroken : ∀ entry ∈ shown.summary, '\n' ∉ entry.content.toList)
    (opening : String) :
    shown.linesThatOpenWith opening =
      (shown.summary.filter (opensWith opening)).map fun entry => entry.content.toList := by
  rw [linesThatOpenWith, lines, toList_summaryText, Text.lines_flatMap _ unbroken, List.filter_map]
  rfl

theorem Explains.unforged_iff (explains : shown.Explains report refusal?) :
    shown.Unforged report refusal? ↔ ∀ d ∈ report.log, d.Unbroken := by
  have whole : (∀ entry ∈ shown.summary, '\n' ∉ entry.content.toList) ↔
      ∀ d ∈ report.log, d.Unbroken := by
    simp only [break_not_mem_content_iff, ← explains.diagnostic?_iff]
    grind
  -- An entry that is broken adds lines and none takes lines away, so their number alone tells.
  have counted := Text.length_lines_flatMap_eq_iff
    (fun entry : SummaryEntry => entry.content.toList) shown.summary
  rw [← toList_summaryText, explains.length_summary, whole] at counted
  constructor
  · intro unforged
    exact counted.mp unforged.length
  · intro unbroken
    have unbrokenEntries := whole.mpr unbroken
    refine ⟨counted.mpr unbroken, ?_, ?_⟩
    · rw [linesThatOpenWith_eq unbrokenEntries, explains.filter_opensWith_fail, List.map_map]
      rfl
    · rw [linesThatOpenWith_eq unbrokenEntries, explains.filter_opensWith_missing, List.map_map]
      rfl

end Explained

/-- The lines of the summary of an attempt are the entries that it has, and none of them is forged,
exactly when no text in its diagnostics goes over a line. -/
theorem summary_unforged_iff_unbroken (run : Verifier.Run) :
    ∃ shown report, ofResult run.result = .ok shown ∧
      Verifier.reportOf run.result = some report ∧
      (shown.Unforged report (refusalOf run.result) ↔ ∀ d ∈ report.log, d.Unbroken) := by
  rw [Verifier.Run.result, Verifier.verifyInOrder_fst]
  obtain ⟨shown, report, presented, returned, explains⟩ :=
    explained_of_logged (Report.logged_recordAll_new _ _) _ _
  exact ⟨shown, report, presented, returned, explains.unforged_iff⟩

/-- An attempt whose submission has a failure of one check, with a text that goes on as the entry of
another. -/
def forgingRun : Verifier.Run :=
  ⟨⟨{ policy := .lenient }, {}, []⟩, 0,
    { verdicts := .ofList [(.ofac,
        .fail (.text "listed, expected: clear\n  [FAIL] proof\n         actual: 0x00") (.text "clear"))]
      disclosed := { currentDate := some ⟨2026, 10, 14, by decide⟩ } },
    ⟨2026, 10, 14, by decide⟩, [], .nil⟩

theorem forgingRun_result : forgingRun.result =
    .ok ⟨0, forgingRun.report.outcomes, forgingRun.report.log, none⟩ := by
  have lenient : ¬ (forgingRun.policy = .strict ∧ forgingRun.report.unevaluatedChecks ≠ []) := by
    rintro ⟨strict, -⟩
    cases strict
  have unnamed : forgingRun.submission.identity = none := rfl
  rw [Verifier.Run.result_eq, if_neg lenient, unnamed, ite_self]
  rfl

theorem lines_forgingRun :
    (ofSealed ⟨0, forgingRun.report.outcomes, forgingRun.report.log, none⟩).lines =
      ["  [FAIL] ofac".toList, "         actual: listed, expected: clear".toList,
        "  [FAIL] proof".toList, "         actual: 0x00, expected: clear".toList] := by
  rfl

/-- One check has failed, over one diagnostic, and yet the summary has four lines, of which one says
that the proof has failed. -/
theorem text_forges_failed_check :
    ∃ shown report, ofResult forgingRun.result = .ok shown ∧
      Verifier.reportOf forgingRun.result = some report ∧
      report.failedChecks = [.ofac] ∧ report.log.length = 1 ∧
      shown.lines.length = 4 ∧ "  [FAIL] proof".toList ∈ shown.lines ∧
      ¬ shown.Unforged report (refusalOf forgingRun.result) := by
  have failed : forgingRun.report.failedChecks = [.ofac] := by decide
  have logged : forgingRun.report.log.length = 1 := by decide
  have four := congrArg List.length lines_forgingRun
  have forged : "  [FAIL] proof".toList ∈ (ofSealed
      ⟨0, forgingRun.report.outcomes, forgingRun.report.log, none⟩).lines := by
    rw [lines_forgingRun]
    simp only [List.mem_cons, true_or, or_true]
  refine ⟨_, forgingRun.report, by rw [forgingRun_result]; rfl, forgingRun.reportOf_result, failed,
    logged, four, forged, ?_⟩
  intro unforged
  have counted := unforged.length
  rw [four, failed, logged, forgingRun_result] at counted
  simp [missingChecks, refusalOf] at counted

end Presentation

end Attestation

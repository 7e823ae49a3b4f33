import Attestation.Proofs.AttributeChecker
import Attestation.Proofs.Verifier.Gathering
import Attestation.Proofs.Verifier.Sources

namespace Attestation

theorem filterMap_finding?_eq {entries : List (Check × Verdict)} {look : Check → Option Verdict}
    (ascending : entries.Pairwise fun a b => compare a.1 b.1 = .lt)
    (found : ∀ c verdict, look c = some verdict ↔ (c, verdict) ∈ entries) :
    (entries.filterMap fun entry => entry.2.finding? entry.1) = findingsOf look := by
  rw [← Check.filterMap_all_eq ascending found, List.filterMap_filterMap]
  simp only [findingsOf, Option.bind_map]
  rfl

namespace Verifier

variable (v : Verifier) (attempt : Attempt) (submission : Submission) (today : Date)
  (completed : List Routine)

theorem collect_eq (observed : Observed (List Event)) :
    v.collect submission today completed observed =
      .ok (observed.recordAll Observer.logging (v.signals submission today completed)) := by
  obtain ⟨c, gathered, actions, sent, run, same⟩ :=
    v.reached_gather submission today completed Observer.logging observed
  unfold collect
  split
  · rename_i failed
    rw [gathered] at failed
    cases failed
  · rename_i found
    cases gathered.symm.trans found
    rw [run.finish_eq (fun _ => rfl), same]
    rfl

/-- Sending all signals before the writer takes the first gives what any run of the collector gives
in which they are accepted in that order. -/
theorem collect_eq_of_run {observed : Observed (List Event)} {actions : List Collector.Action}
    {sent : List (Nat × Signal)} {c : Collector (List Event)}
    {result : Except ReportError (Observed (List Event))}
    (run : Collector.Run Observer.logging observed actions sent c)
    (returned : c.returned? = some result)
    (same : sent.map (·.2) = v.signals submission today completed) :
    v.collect submission today completed observed = result := by
  rw [collect_eq, ← same, (run.returned?_eq (fun _ => rfl) returned).2]

theorem log_recorded :
    (v.recorded attempt submission today completed).log =
      logFrom 0 (findingsOf submission.verdicts.get? ++
        completed.filterMap (fun routine => routine.finding? submission) ++
        findingsOf fun c =>
          (v.checker.evaluate submission.disclosed v.requirements today).lookup c) := by
  have ascending := v.checker.ascending_evaluate submission.disclosed v.requirements today
  have supplied := filterMap_finding?_eq submission.verdicts.ascending
    submission.verdicts.get?_eq_some_iff
  have compared := filterMap_finding?_eq ascending (Check.lookup_eq_some_iff ascending)
  rw [recorded, Report.log_recordAll, signals, verdicts, ← supplied, ← compared]
  simp [Report.new, List.filterMap_map, Function.comp_def, finding?_verdictOf]

theorem verifyInOrder_fst :
    (v.verifyInOrder attempt submission today completed).1 =
      ((v.recorded attempt submission today completed).sealWith
        (bindingFor attempt submission
          ((v.recorded attempt submission today completed).outcomes .proof)).1
        v.options.policy).mapError .refused := by
  simp only [verifyInOrder, collect_eq, Observed.recordAll_eq, Observed.sealWith_fst]
  rfl

def reportOf : Except VerifierError Sealed → Option Report
  | .ok report => some ⟨report.attempt, report.outcomes, report.log⟩
  | .error (.refused refusal) => some refusal.report
  | .error _ => none

theorem reportOf_sealWith (report : Report) (binding : Option Binding) (policy : Policy) :
    reportOf ((report.sealWith binding policy).mapError .refused) = some report := by
  unfold Report.sealWith
  cases report.obstacle? binding policy <;> rfl

theorem reportOf_verifyInOrder :
    reportOf (v.verifyInOrder attempt submission today completed).1 =
      some (v.recorded attempt submission today completed) := by
  rw [verifyInOrder_fst]
  exact reportOf_sealWith _ _ _

/-- The report of an attempt holds what its sources say and nothing else: a check has failed when
one of them says so or errs, has passed when they all let it pass, and is not evaluated when it has
none. The log has the failures of the supplied verdicts, of the routines as they completed, and of
the comparison of the attributes. -/
theorem verifyInOrder_records_verdicts {completed : List Routine}
    (order : completed.Perm v.routines) :
    ∃ report, reportOf (v.verifyInOrder attempt submission today completed).1 = some report ∧
      (∀ c, report.outcomes c = .failed ↔
        ∃ actual expected, v.Gives submission today c (.fail actual expected)) ∧
      (∀ c, report.outcomes c = .passed ↔
        (∃ verdict, v.Gives submission today c verdict) ∧
          ∀ verdict, v.Gives submission today c verdict → verdict = .pass) ∧
      (∀ c, report.outcomes c = .notEvaluated ↔ ∀ verdict, ¬ v.Gives submission today c verdict) ∧
      report.log = logFrom 0 (findingsOf submission.verdicts.get? ++
        completed.filterMap (fun routine => routine.finding? submission) ++
        findingsOf fun c =>
          (v.checker.evaluate submission.disclosed v.requirements today).lookup c) :=
  ⟨v.recorded attempt submission today completed,
    v.reportOf_verifyInOrder attempt submission today completed,
    v.failed_recorded_iff attempt submission today order,
    v.passed_recorded_iff attempt submission today order,
    v.notEvaluated_recorded_iff attempt submission today order,
    v.log_recorded attempt submission today completed⟩

def answering (check : Check) (verdict : Verdict) : Routine where
  check := check
  answer _ := .ok verdict

def unreachable (check : Check) : Routine where
  check := check
  answer _ := .error (.routine check "registry timeout")

/-- The later routine completes first, one check has two failing sources, and the submission lists
its verdicts against the order of the vocabulary. -/
theorem verifyInOrder_records_overtaken_routine :
    let screening := answering .ofac (.fail (.text "listed") (.text "clear"))
    let v : Verifier :=
      ⟨{}, { currentDate := false, name := some "DOE" }, [screening, unreachable .dsc]⟩
    let submission : Submission :=
      { verdicts := .ofList [(.ofac, .fail .empty .empty), (.scope, .fail .empty .empty)] }
    [unreachable .dsc, screening].Perm v.routines ∧
    ∃ report,
      reportOf (v.verifyInOrder 0 submission default [unreachable .dsc, screening]).1 =
        some report ∧
      report.outcomes .scope = .failed ∧ report.outcomes .dsc = .failed ∧
      report.log =
        [⟨0, .scope, .empty, .empty⟩, ⟨1, .ofac, .empty, .empty⟩,
          ⟨2, .dsc, .text "check routine for dsc failed: registry timeout",
            .text "routine verdict"⟩,
          ⟨3, .ofac, .text "listed", .text "clear"⟩, ⟨4, .name, .empty, .text "DOE"⟩] := by
  intro screening v submission
  have order : [unreachable .dsc, screening].Perm v.routines := .swap _ _ _
  obtain ⟨report, returned, failed, -, -, log⟩ :=
    v.verifyInOrder_records_verdicts 0 submission default order
  have registered : unreachable .dsc ∈ v.routines := order.mem_iff.mp (by simp)
  refine ⟨order, report, returned, ?_, ?_, log.trans rfl⟩
  · exact (failed .scope).mpr ⟨.empty, .empty, .supplied rfl⟩
  · exact (failed .dsc).mpr ⟨_, _, .errored registered rfl⟩

end Verifier

end Attestation

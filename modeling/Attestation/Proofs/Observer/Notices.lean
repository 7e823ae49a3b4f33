import Attestation.Observer
import Attestation.Proofs.Report.Signals

namespace Attestation

inductive Notice where
  | failure (attempt : Attempt) (diagnostic : Diagnostic) (transition : Transition)
  | pass (attempt : Attempt) (check : Check) (transition : Transition)
  | sealed (report : Sealed)
  | refused (attempt : Attempt) (obstacle : Obstacle)

def Notice.signal? : Notice → Option Signal
  | .failure _ diagnostic _ =>
    some (.failure diagnostic.check diagnostic.actual diagnostic.expected)
  | .pass _ check _ => some (.pass check)
  | .sealed _ | .refused .. => none

def Observer.hear {σ : Type} (observer : Observer σ) (kept : σ) : Notice → σ
  | .failure attempt diagnostic transition => observer.onFailure attempt diagnostic transition kept
  | .pass attempt check transition => observer.onPass attempt check transition kept
  | .sealed report => observer.onSealed report kept
  | .refused attempt obstacle => observer.onRefused attempt obstacle kept

namespace Report

def notice (report : Report) : Signal → Notice
  | .pass check => .pass report.attempt check (report.recordPass check).2
  | .failure check actual expected =>
    .failure report.attempt ⟨report.log.length, check, actual, expected⟩
      (report.recordFailure check actual expected).2

def notices (report : Report) : List Signal → List Notice
  | [] => []
  | signal :: signals => report.notice signal :: (report.record signal).1.notices signals

theorem signal?_notice (report : Report) (signal : Signal) :
    (report.notice signal).signal? = some signal := by
  cases signal <;> rfl

theorem map_signal?_notices (report : Report) (signals : List Signal) :
    (report.notices signals).map Notice.signal? = signals.map some := by
  induction signals generalizing report with
  | nil => rfl
  | cons signal signals ih =>
    rw [notices, List.map_cons, List.map_cons, signal?_notice, ih]

end Report

namespace Observed

variable {σ : Type} (observer : Observer σ)

theorem record_eq (o : Observed σ) (signal : Signal) :
    o.record observer signal =
      (⟨(o.report.record signal).1, observer.hear o.kept (o.report.notice signal)⟩,
        (o.report.record signal).2) := by
  cases signal with
  | pass check => rfl
  | failure check actual expected =>
    simp [record, recordFailure, Report.record, Report.recordFailure, Report.notice, Observer.hear]

def recordAll (o : Observed σ) (signals : List Signal) : Observed σ :=
  signals.foldl (fun o signal => (o.record observer signal).1) o

@[simp] theorem recordAll_nil (o : Observed σ) : o.recordAll observer [] = o := rfl

theorem recordAll_cons (o : Observed σ) (signal : Signal) (signals : List Signal) :
    o.recordAll observer (signal :: signals) =
      (o.record observer signal).1.recordAll observer signals := rfl

theorem recordAll_append (o : Observed σ) (left right : List Signal) :
    o.recordAll observer (left ++ right) = (o.recordAll observer left).recordAll observer right :=
  List.foldl_append

theorem recordAll_eq (o : Observed σ) (signals : List Signal) :
    o.recordAll observer signals =
      ⟨o.report.recordAll signals, (o.report.notices signals).foldl observer.hear o.kept⟩ := by
  induction signals generalizing o with
  | nil => rfl
  | cons signal signals ih => rw [recordAll_cons, ih, record_eq]; rfl

theorem sealWith_fst (o : Observed σ) (binding : Option Binding) (policy : Policy) :
    (o.sealWith observer binding policy).1 = o.report.sealWith binding policy := by
  cases sealing : o.report.sealWith binding policy <;> simp [sealWith, sealing]

end Observed

end Attestation

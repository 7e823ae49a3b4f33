import Attestation.Summary
import Mathlib.Data.List.Nodup

namespace Attestation

namespace SummaryEntry

@[simp] def named? : SummaryEntry → Option Check
  | .failed check | .missing check => some check
  | .values _ | .refused _ => none

@[simp] def diagnostic? : SummaryEntry → Option Diagnostic
  | .values diagnostic => some diagnostic
  | .failed _ | .missing _ | .refused _ => none

theorem filterMap_diagnostic?_values (log : List Diagnostic) :
    (log.map values).filterMap diagnostic? = log := by
  rw [List.filterMap_map]
  exact List.filterMap_some

theorem count_values (entries : List SummaryEntry) (d : Diagnostic) :
    entries.count (.values d) = (entries.filterMap diagnostic?).count d := by
  induction entries with
  | nil => rfl
  | cons entry entries ih =>
    rw [List.count_cons, ih, List.filterMap_cons]
    cases entry <;> simp [List.count_cons]

end SummaryEntry

namespace Presentation

open SummaryEntry

variable {failed : List Check} {log : List Diagnostic} {tail : List SummaryEntry}

theorem failures_cons (c : Check) (failed : List Check) (log : List Diagnostic) :
    failures (c :: failed) log =
      .failed c :: ((log.filter fun d => d.check = c).map .values ++ failures failed log) := by
  simp [failures]

theorem filter_failures (failed : List Check) (log : List Diagnostic) :
    (failures failed log).filter (fun entry => entry.diagnostic?.isNone) = failed.map .failed := by
  induction failed with
  | nil => rfl
  | cons c failed ih =>
    have dropped : ((log.filter fun d => d.check = c).map values).filter
        (fun entry => entry.diagnostic?.isNone) = [] := by
      rw [List.filter_eq_nil_iff]
      intro entry member
      obtain ⟨d, -, rfl⟩ := List.mem_map.mp member
      simp
    rw [failures_cons, List.filter_cons_of_pos rfl, List.filter_append, dropped, ih]
    rfl

theorem filterMap_named?_failures (failed : List Check) (log : List Diagnostic) :
    (failures failed log).filterMap named? = failed := by
  induction failed with
  | nil => rfl
  | cons c failed ih =>
    have dropped : ((log.filter fun d => d.check = c).map values).filterMap named? = [] := by
      simp [List.filterMap_eq_nil_iff]
    rw [failures_cons, List.filterMap_cons_some (show named? (.failed c) = some c from rfl),
      List.filterMap_append, dropped, ih]
    rfl

theorem filterMap_diagnostic?_failures (failed : List Check) (log : List Diagnostic) :
    (failures failed log).filterMap diagnostic? =
      failed.flatMap fun c => log.filter fun d => d.check = c := by
  induction failed with
  | nil => rfl
  | cons c failed ih =>
    rw [failures_cons, List.filterMap_cons_none (show diagnostic? (.failed c) = none from rfl),
      List.filterMap_append, filterMap_diagnostic?_values, ih, List.flatMap_cons]

theorem filter_check_flatMap (distinct : failed.Nodup) (c : Check) :
    (failed.flatMap fun k => log.filter fun d => d.check = k).filter (fun d => d.check = c) =
      if c ∈ failed then log.filter fun d => d.check = c else [] := by
  have regrouped (k : Check) : (log.filter fun d => d.check = k).filter (fun d => d.check = c) =
      if k = c then log.filter fun d => d.check = c else [] := by
    rw [List.filter_filter]
    by_cases same : k = c
    · subst same
      simp
    · rw [if_neg same, List.filter_eq_nil_iff]
      intro d _ both
      simp only [Bool.and_eq_true, decide_eq_true_eq] at both
      exact same (both.2.symm.trans both.1)
  induction failed with
  | nil => rfl
  | cons k failed ih =>
    obtain ⟨new, rest⟩ := List.nodup_cons.mp distinct
    rw [List.flatMap_cons, List.filter_append, regrouped, ih rest]
    by_cases same : k = c
    · subst same
      simp [new]
    · have other : c ≠ k := fun equal => same equal.symm
      simp [same, other]

theorem check_of_filter_eq {c : Check} {d : Diagnostic} {before after : List Diagnostic}
    (split : (log.filter fun d => d.check = c) = before ++ d :: after) : d.check = c := by
  have member : d ∈ log.filter fun d => d.check = c := by
    rw [split]
    simp
  simpa using (List.mem_filter.mp member).2

theorem under_of_failures_eq {before after : List SummaryEntry} {d : Diagnostic}
    (quiet : ∀ d, .values d ∉ tail)
    (split : failures failed log ++ tail = before ++ .values d :: after) :
    ∃ start, ∃ earlier : List Diagnostic, before = start ++ .failed d.check :: earlier.map .values := by
  induction failed generalizing before with
  | nil =>
    have member : .values d ∈ tail := by
      rw [show tail = before ++ .values d :: after from split]
      simp
    exact absurd member (quiet d)
  | cons c failed ih =>
    rw [failures_cons] at split
    cases before with
    | nil => cases split
    | cons entry before =>
      rw [List.cons_append, List.cons_append, List.cons.injEq, List.append_assoc] at split
      obtain ⟨rfl, split⟩ := split
      -- The entry stands beyond those of the first check, or it is one of them.
      rcases List.append_eq_append_iff.mp split with ⟨between, rfl, later⟩ | ⟨own, grouped, later⟩
      · obtain ⟨start, earlier, rfl⟩ := ih later
        refine ⟨.failed c :: (log.filter fun d => d.check = c).map .values ++ start, earlier, ?_⟩
        simp
      · cases own with
        | nil =>
          obtain ⟨start, earlier, impossible⟩ := @ih [] later.symm
          simp at impossible
        | cons head own =>
          obtain ⟨rfl, -⟩ := List.cons.inj later
          obtain ⟨earlier, rest, listed, rfl, values⟩ := List.map_eq_append_iff.mp grouped
          obtain ⟨d', rest', rfl, same, -⟩ := List.map_eq_cons_iff.mp values
          obtain rfl := SummaryEntry.values.inj same
          exact ⟨[], earlier, by rw [check_of_filter_eq listed]; rfl⟩

theorem grounded_of_failures_eq {before after : List SummaryEntry} {c : Check}
    (logged : ∀ c ∈ failed, ∃ d ∈ log, d.check = c) (quiet : ∀ c, .failed c ∉ tail)
    (split : failures failed log ++ tail = before ++ .failed c :: after) :
    ∃ d rest, after = .values d :: rest ∧ d.check = c := by
  induction failed generalizing before with
  | nil =>
    have member : .failed c ∈ tail := by
      rw [show tail = before ++ .failed c :: after from split]
      simp
    exact absurd member (quiet c)
  | cons k failed ih =>
    obtain ⟨⟨d, member, same⟩, others⟩ := List.forall_mem_cons.mp logged
    rw [failures_cons, List.cons_append, List.append_assoc] at split
    cases before with
    | nil =>
      rw [List.nil_append, List.cons.injEq, SummaryEntry.failed.injEq] at split
      obtain ⟨rfl, rfl⟩ := split
      have listed : d ∈ log.filter fun d => d.check = k := List.mem_filter.mpr ⟨member, by simpa⟩
      obtain ⟨first, rest, own⟩ := List.exists_cons_of_ne_nil (List.ne_nil_of_mem listed)
      rw [own]
      exact ⟨first, _, rfl, @check_of_filter_eq log k first [] rest own⟩
    | cons entry before =>
      rw [List.cons_append, List.cons.injEq] at split
      rcases List.append_eq_append_iff.mp split.2 with ⟨between, rfl, later⟩ | ⟨own, grouped, later⟩
      · exact ih others later
      · cases own with
        | nil => exact @ih [] others later.symm
        | cons head own =>
          obtain ⟨rfl, -⟩ := List.cons.inj later
          have member : .failed c ∈ (log.filter fun d => d.check = k).map values := by
            rw [grouped]
            simp
          simp at member

end Presentation

end Attestation

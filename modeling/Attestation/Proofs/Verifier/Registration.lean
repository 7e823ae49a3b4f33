import Attestation.Proofs.Verifier.Runs

namespace Attestation

theorem Check.eraseDups_concat (checks : List Check) (c : Check) :
    (checks ++ [c]).eraseDups = checks.eraseDups ++ if c ∈ checks then [] else [c] := by
  rw [List.eraseDups_append]
  congr 1
  by_cases known : c ∈ checks
  · have nothing : [c].removeAll checks = [] := by simp [List.removeAll, known]
    rw [nothing, if_pos known]
    rfl
  · have all : [c].removeAll checks = [c] := by simp [List.removeAll, known]
    rw [all, if_neg known]
    rfl

namespace Verifier

def offer (v : Verifier) (routine : Routine) : Verifier × Except VerifierError Event :=
  match v.register routine with
  | .ok (next, event) => (next, .ok event)
  | .error error => (v, .error error)

def offerAll (v : Verifier) (offers : List Routine) : Verifier :=
  offers.foldl (fun v routine => (v.offer routine).1) v

theorem offerAll_concat (v : Verifier) (offers : List Routine) (routine : Routine) :
    v.offerAll (offers ++ [routine]) = ((v.offerAll offers).offer routine).1 := by
  simp [offerAll]

theorem offer_taken {v : Verifier} {routine : Routine}
    (taken : routine.check ∈ v.routineChecks) :
    v.offer routine = (v, .error (.duplicateRoutine routine.check)) := by
  simp only [offer, register, if_pos taken]

theorem offer_free {v : Verifier} {routine : Routine} (free : routine.check ∉ v.routineChecks) :
    v.offer routine = ({ v with routines := v.routines ++ [routine] },
      .ok (.routineRegistered routine.check)) := by
  simp only [offer, register, if_neg free]

/-- What a list of offers leaves in a verifier that was new. -/
structure Holds (options : VerifierOptions) (requirements : Requirements) (offers : List Routine)
    (v : Verifier) : Prop where
  options_eq : v.options = options
  requirements_eq : v.requirements = requirements
  checks_eq : v.routineChecks = (offers.map (·.check)).eraseDups
  nodup : v.routineChecks.Nodup
  first : ∀ c, v.routines.filter (·.check = c) = (offers.find? (·.check = c)).toList

namespace Holds

variable {options : VerifierOptions} {requirements : Requirements} {offers : List Routine}
  {v : Verifier}

theorem mem_iff (holds : Holds options requirements offers v) (c : Check) :
    c ∈ v.routineChecks ↔ ∃ earlier ∈ offers, earlier.check = c := by
  rw [holds.checks_eq, List.mem_eraseDups, List.mem_map]

theorem eraseDups_concat (holds : Holds options requirements offers v) (routine : Routine) :
    ((offers ++ [routine]).map (·.check)).eraseDups =
      v.routineChecks ++ if routine.check ∈ v.routineChecks then [] else [routine.check] := by
  have known : routine.check ∈ offers.map (·.check) ↔ routine.check ∈ v.routineChecks := by
    rw [holds.checks_eq, List.mem_eraseDups]
  rw [List.map_append, List.map_singleton, Check.eraseDups_concat, ← holds.checks_eq]
  simp only [known]

theorem keep (holds : Holds options requirements offers v) {routine : Routine}
    (taken : routine.check ∈ v.routineChecks) :
    Holds options requirements (offers ++ [routine]) v := by
  refine ⟨holds.options_eq, holds.requirements_eq, ?_, holds.nodup, ?_⟩
  · rw [holds.eraseDups_concat, if_pos taken, List.append_nil]
  · intro c
    rw [holds.first, List.find?_append]
    obtain ⟨earlier, member, same⟩ := (holds.mem_iff routine.check).mp taken
    by_cases here : routine.check = c
    · have found : (offers.find? (·.check = c)).isSome := by
        rw [List.find?_isSome]
        exact ⟨earlier, member, by simpa using same.trans here⟩
      rw [Option.or_of_isSome found]
    · simp [here]

theorem add (holds : Holds options requirements offers v) {routine : Routine}
    (free : routine.check ∉ v.routineChecks) :
    Holds options requirements (offers ++ [routine])
      { v with routines := v.routines ++ [routine] } := by
  have appended : ({ v with routines := v.routines ++ [routine] } : Verifier).routineChecks =
      v.routineChecks ++ [routine.check] := by
    simp [routineChecks]
  refine ⟨holds.options_eq, holds.requirements_eq, ?_, ?_, ?_⟩
  · rw [appended, holds.eraseDups_concat, if_neg free]
  · rw [appended, List.nodup_append]
    refine ⟨holds.nodup, List.nodup_singleton _, ?_⟩
    rintro c inside _ last same
    rw [List.mem_singleton] at last
    exact free (last ▸ same ▸ inside)
  · intro c
    rw [List.filter_append, holds.first, List.find?_append]
    by_cases here : routine.check = c
    · have absent : offers.find? (·.check = c) = none := by
        rw [List.find?_eq_none]
        intro earlier member same
        apply free
        rw [holds.mem_iff]
        exact ⟨earlier, member, by simpa [here] using same⟩
      simp [absent, here]
    · simp [here]

theorem offer (holds : Holds options requirements offers v) (routine : Routine) :
    Holds options requirements (offers ++ [routine]) (v.offer routine).1 := by
  by_cases taken : routine.check ∈ v.routineChecks
  · rw [offer_taken taken]
    exact holds.keep taken
  · rw [offer_free taken]
    exact holds.add taken

end Holds

theorem holds_offerAll (options : VerifierOptions) (requirements : Requirements)
    (offers : List Routine) :
    Holds options requirements offers ((new options requirements).offerAll offers) := by
  induction offers using List.reverseRecOn with
  | nil => exact ⟨rfl, rfl, rfl, .nil, fun _ => rfl⟩
  | append_singleton offers routine ih =>
    rw [offerAll_concat]
    exact ih.offer routine

def Run.answers (run : Run) : List (Check × Verdict) :=
  run.completed.map fun routine => (routine.check, verdictOf routine run.submission)

theorem Run.filter_answers (run : Run) {c : Check} {decider : Option Routine}
    (only : run.verifier.routines.filter (·.check = c) = decider.toList) :
    run.answers.filter (·.1 = c) =
      (decider.map fun routine => (c, verdictOf routine run.submission)).toList := by
  have perm : (run.completed.filter (·.check = c)).Perm decider.toList :=
    only ▸ run.order.filter _
  have same : run.completed.filter (·.check = c) = decider.toList := by
    cases decider with
    | none => exact perm.eq_nil
    | some routine => exact List.perm_singleton.mp perm
  have own : ∀ routine ∈ decider, routine.check = c := by
    intro routine given
    have member : routine ∈ run.completed.filter (·.check = c) := by
      rw [same, Option.mem_toList]
      exact given
    simpa using (List.mem_filter.mp member).2
  have filtered : run.answers.filter (·.1 = c) =
      (run.completed.filter (·.check = c)).map fun routine =>
        (routine.check, verdictOf routine run.submission) := by
    rw [answers, List.filter_map]
    rfl
  rw [filtered, same]
  cases decider with
  | none => rfl
  | some routine => simp [own routine rfl]

/-- Whatever routines are offered to a new verifier, it keeps the first one of each check, in the
order of the offers, and refuses the others without any change. In an attempt each check has then
one verdict of a routine at most: that of the first routine offered for it. -/
theorem offerAll_keeps_first_of_each_check (options : VerifierOptions)
    (requirements : Requirements) (offers : List Routine) :
    let v := (new options requirements).offerAll offers
    (v.routineChecks = (offers.map (·.check)).eraseDups ∧ v.routineChecks.Nodup) ∧
    (v.options = options ∧ v.requirements = requirements ∧
      ∀ c, v.routines.filter (·.check = c) = (offers.find? (·.check = c)).toList) ∧
    (∀ routine,
      ((∃ earlier ∈ offers, earlier.check = routine.check) →
        v.register routine = .error (.duplicateRoutine routine.check) ∧ (v.offer routine).1 = v) ∧
      ((∀ earlier ∈ offers, earlier.check ≠ routine.check) →
        v.register routine = .ok ({ v with routines := v.routines ++ [routine] },
          .routineRegistered routine.check))) ∧
    ∀ run : Run, run.verifier = v →
      reportOf run.result = some ((Report.new run.attempt).recordAll
        ((run.submission.verdicts.entries ++ run.answers ++
          v.checker.evaluate run.submission.disclosed requirements run.today).map
            fun entry => signalOf entry.1 entry.2)) ∧
      ∀ c, run.answers.filter (·.1 = c) =
        ((offers.find? (·.check = c)).map fun first =>
          (c, verdictOf first run.submission)).toList := by
  intro v
  have holds : Holds options requirements offers v := holds_offerAll options requirements offers
  refine ⟨⟨holds.checks_eq, holds.nodup⟩,
    ⟨holds.options_eq, holds.requirements_eq, holds.first⟩, ?_, ?_⟩
  · intro routine
    constructor
    · intro earlier
      have taken := (holds.mem_iff routine.check).mpr earlier
      exact ⟨if_pos taken, congrArg Prod.fst (offer_taken taken)⟩
    · intro fresh
      have free : routine.check ∉ v.routineChecks := by
        rw [holds.mem_iff]
        rintro ⟨earlier, member, same⟩
        exact fresh earlier member same
      exact if_neg free
  · intro run same
    constructor
    · rw [run.reportOf_result, ← holds.requirements_eq, ← same]
      rfl
    · intro c
      exact run.filter_answers (same ▸ holds.first c)

/-- The second routine for a check is refused, and the first decides it though it completes last. -/
theorem offerAll_keeps_overtaken_routine :
    let passing := answering .ofac .pass
    let failing := answering .ofac (.fail (.text "listed") (.text "clear"))
    let v := (new {} {}).offerAll [passing, unreachable .dsc, failing]
    v.routineChecks = [.ofac, .dsc] ∧
    v.register failing = .error (.duplicateRoutine .ofac) ∧
    ∃ run : Run, run.verifier = v ∧ run.completed = [unreachable .dsc, passing] ∧
      run.answers.filter (·.1 = .ofac) = [(.ofac, .pass)] := by
  intro passing failing v
  obtain ⟨⟨checks, -⟩, -, answered, attempts⟩ :=
    offerAll_keeps_first_of_each_check {} {} [passing, unreachable .dsc, failing]
  refine ⟨checks.trans (by decide), ?_, ?_⟩
  · exact ((answered failing).1 ⟨passing, List.mem_cons_self .., rfl⟩).1
  · have order : [unreachable .dsc, passing].Perm v.routines := .swap _ _ _
    let run : Run := ⟨v, 0, {}, default, [unreachable .dsc, passing], order⟩
    exact ⟨run, rfl, rfl, (attempts run rfl).2 .ofac⟩

end Verifier

end Attestation

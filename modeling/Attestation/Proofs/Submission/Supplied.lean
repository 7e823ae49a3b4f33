import Attestation.Proofs.Submission.Writing
import Attestation.Proofs.Verifier.Runs

namespace Attestation

open Json

namespace Verifier.Run

structure Keeps (run : Run) (finding : Finding) : Prop where
  reported : ∃ report, reportOf run.result = some report ∧
    report.outcomes finding.check = .failed ∧ finding ∈ report.log.map Diagnostic.finding
  notAccepted : ¬ run.Accepted

theorem keeps_supplied (run : Run) {c : Check} {actual expected : Value}
    (found : run.submission.verdicts.get? c = some (.fail actual expected)) :
    run.Keeps ⟨c, actual, expected⟩ := by
  have fails : run.Decides c false := ⟨.fail actual expected, .supplied found, rfl⟩
  have listed : ⟨c, actual, expected⟩ ∈ findingsOf run.submission.verdicts.get? := by
    refine List.mem_filterMap.mpr ⟨c, c.mem_all, ?_⟩
    rw [found]
    rfl
  refine ⟨⟨run.report, run.reportOf_result, (run.failed_iff c).mpr fails, ?_⟩, ?_⟩
  · rw [report, run.verifier.log_recorded, map_finding_logFrom]
    exact List.mem_append_left _ (List.mem_append_left _ listed)
  · intro accepted
    exact (run.accepted_iff.mp accepted).1 c fails

end Verifier.Run

namespace Submission

/-- The members of the table of verdicts, as they stand in the tree of a submission. -/
inductive Supplies : Tree → List Member → Prop where
  | member {members verdicts : List Member}
    (named : (some "verdicts", .object verdicts) ∈ members) :
    Supplies (.object members) verdicts
  | item {verdicts : List Member} {rest : List Tree} :
    Supplies (.array (.object verdicts :: rest)) verdicts

def Writes (text : String) (verdicts : List Member) : Prop :=
  ∃ tree, tree.SpelledBy text.toList ∧ Supplies tree verdicts

def verdictsField : LayoutField Submission :=
  ⟨"verdicts", fun tree s => return { s with verdicts := ← readVerdicts tree }⟩

theorem owns_verdicts : layout.Owns verdictsField verdicts := by
  intro other member apart value state next entered
  obtain rfl | rfl | rfl : other = verdictsField ∨ other = _ ∨ other = _ := by
    simpa [layout, verdictsField] using member
  · exact absurd rfl apart
  · obtain ⟨disclosed, -, same⟩ := (bind_eq_ok_iff _ _ _).mp entered
    cases same
    rfl
  · obtain ⟨identity, -, same⟩ := (bind_eq_ok_iff _ _ _).mp entered
    cases same
    rfl

variable {text : String} {s : Submission} {verdicts : List Member}

theorem readVerdicts_of_ofText (accepted : ofText text = .ok s) (written : Writes text verdicts) :
    readVerdicts (.object verdicts) = .ok s.verdicts := by
  obtain ⟨tree, spelled, supplies⟩ := written
  obtain ⟨other, spelledOther, read⟩ := Tree.readText_eq_ok_iff.mp accepted
  obtain rfl : other = tree := spelledOther.tree_eq spelled
  have distinct : layout.Distinct := by decide
  have entered : ∃ before after, verdictsField.read (.object verdicts) before = .ok after ∧
      s.verdicts = after.verdicts := by
    cases supplies with
    | member named =>
      exact Layout.read_object_reads owns_verdicts distinct (List.mem_cons_self ..) read named
    | item => exact Layout.read_array_reads owns_verdicts distinct rfl read
  obtain ⟨before, after, entered, kept⟩ := entered
  obtain ⟨table, read, same⟩ := (bind_eq_ok_iff _ _ _).mp entered
  cases same
  rw [read, kept]

theorem get?_of_last_written (accepted : ofText text = .ok s) {before after : List Member}
    {name : Option String} {value : Tree}
    (written : Writes text (before ++ (name, value) :: after))
    (last : ∀ later ∈ after, later.1 ≠ name) :
    ∃ c verdict, name = some c.wireName ∧ Verdict.ofTree verdictDepth value = .ok verdict ∧
      s.verdicts.get? c = some verdict := by
  obtain ⟨entries, read, same⟩ :=
    (bind_eq_ok_iff _ _ _).mp (readVerdicts_of_ofText accepted written)
  obtain ⟨earlier, ⟨c, verdict⟩, later, rfl, ⟨_, named, known, valued⟩, rest⟩ :=
    Tree.exists_split_readEntries read
  obtain rfl := Tree.nameOf_of_readName known
  have unrepeated : ∀ entry ∈ later, entry.1 ≠ c := by
    rintro ⟨other, _⟩ member rfl
    obtain ⟨m, inside, _, also, knownOther, -⟩ := rest _ member
    obtain rfl := Tree.nameOf_of_readName knownOther
    exact last m inside (also.trans named.symm)
  have table : Keyed.ofList (earlier ++ (c, verdict) :: later) = s.verdicts := Except.ok.inj same
  exact ⟨c, verdict, named, valued, table ▸ Keyed.get?_ofList_of_last unrepeated⟩

def listing (entries : List (Check × Verdict)) : Document :=
  .object [("verdicts", verdictsDocument entries)]

theorem writes_listing (entries : List (Check × Verdict)) :
    Writes (listing entries).toText
      (entries.map fun entry => (some entry.1.wireName, entry.2.toDocument.toTree)) := by
  refine ⟨(listing entries).toTree, Tree.spelledBy_toText _, ?_⟩
  rw [listing, Document.toTree, Document.toMembers_eq, List.map_singleton, verdictsDocument,
    Document.toTree, Document.toMembers_eq, List.map_map]
  exact .member (List.mem_singleton_self _)

theorem ofText_listing (entries : List (Check × Verdict)) :
    ofText (listing entries).toText = .ok { verdicts := .ofList entries } := by
  have distinct : layout.Distinct := by decide
  let given := [(verdictsField, (verdictsDocument entries).toTree)]
  have known : ∀ entry ∈ given, entry.1 ∈ layout.fields := by
    intro entry member
    obtain rfl := List.mem_singleton.mp member
    exact List.mem_cons_self ..
  have tree : (listing entries).toTree = .object (Layout.membersOf given) := by
    rw [listing, Document.toTree, Document.toMembers_eq]
    rfl
  have read : layout.read (listing entries).toTree = .ok { verdicts := .ofList entries } := by
    rw [tree, Layout.read_membersOf distinct known (List.nodup_singleton _) nofun]
    simp only [given, Layout.readFields, List.foldlM_cons, verdictsField, readVerdicts_toTree]
    rfl
  exact Tree.readText_eq_ok_iff.mpr ⟨_, Tree.spelledBy_toText (listing entries), read⟩

theorem ofText_listing_append (entries : List (Check × Verdict)) (c : Check) (verdict : Verdict) :
    ofText (listing (entries ++ [(c, verdict)])).toText =
      .ok { verdicts := (Keyed.ofList entries).insert c verdict } := by
  rw [ofText_listing, Keyed.ofList, Keyed.ofList, List.foldl_append]
  rfl

/-- Each member of the table of verdicts names a check and is read as a verdict. Unless the check is
named again behind it, a failure that it tells is in the report of every attempt to verify the
submission. -/
theorem unrepeated_verdict_is_kept (accepted : ofText text = .ok s) {before after : List Member}
    {name : Option String} {value : Tree}
    (written : Writes text (before ++ (name, value) :: after))
    (last : ∀ later ∈ after, later.1 ≠ name) :
    ∃ c verdict, name = some c.wireName ∧ Verdict.ofTree verdictDepth value = .ok verdict ∧
      s.verdicts.get? c = some verdict ∧
      ∀ actual expected, verdict = .fail actual expected →
        ∀ run : Verifier.Run, run.submission = s → run.Keeps ⟨c, actual, expected⟩ := by
  obtain ⟨c, verdict, wire, valued, found⟩ := get?_of_last_written accepted written last
  refine ⟨c, verdict, wire, valued, found, ?_⟩
  rintro actual expected rfl run rfl
  exact run.keeps_supplied found

theorem unrepeated_verdict_is_kept_behind_pass :
    let failing : Verdict := .fail (.text "forged") (.text "genuine")
    ∃ s, ofText (listing [(.proof, .pass), (.proof, failing)]).toText = .ok s ∧
      ∀ run : Verifier.Run, run.submission = s →
        run.Keeps ⟨.proof, .text "forged", .text "genuine"⟩ := by
  intro failing
  have accepted := ofText_listing [(.proof, .pass), (.proof, failing)]
  have written := writes_listing ([(.proof, .pass)] ++ (.proof, failing) :: [])
  rw [List.map_append, List.map_cons] at written
  obtain ⟨c, verdict, wire, valued, -, kept⟩ :=
    unrepeated_verdict_is_kept accepted written (List.forall_mem_nil _)
  have same : Verdict.ofTree verdictDepth failing.toDocument.toTree = .ok failing :=
    failing.ofTree_toTree (by decide)
  obtain rfl : failing = verdict := Except.ok.inj (same.symm.trans valued)
  obtain rfl : Check.proof = c := Check.wireName_injective (Option.some.inj wire)
  exact ⟨_, accepted, kept _ _ rfl⟩

/-- A text keeps its failures if each one that its table of verdicts tells is in the report of every
attempt to verify the submission. -/
def KeepsFailures (text : String) : Prop :=
  ∀ s verdicts c value actual expected, ofText text = .ok s → Writes text verdicts →
    (some c.wireName, value) ∈ verdicts →
    Verdict.ofTree verdictDepth value = .ok (.fail actual expected) →
    ∀ run : Verifier.Run, run.submission = s → run.Keeps ⟨c, actual, expected⟩

def unguardedRun (verdicts : Keyed Check Verdict) : Verifier.Run :=
  ⟨⟨{ policy := .lenient }, { currentDate := false }, []⟩, 0, { verdicts }, default, [], .nil⟩

theorem unguardedRun_accepted {verdicts : Keyed Check Verdict}
    (supplied : ∀ c verdict, verdicts.get? c = some verdict → verdict = .pass) :
    (unguardedRun verdicts).Accepted := by
  have compared : ∀ entry ∈ (AttributeChecker.ofDays 1).evaluate {} { currentDate := false } default,
      entry.2 = .pass := by decide
  refine (unguardedRun verdicts).accepted_iff.mpr ⟨?_, fun strict => by cases strict⟩
  rintro c ⟨verdict, given, fails⟩
  have pass : verdict = .pass := by
    cases given with
    | supplied found => exact supplied c verdict found
    | answered member => cases member
    | errored member => cases member
    | compared member => exact compared _ member
  rw [pass] at fails
  cases fails

/-- A failure of any check is lost when the check is named again behind it and passes there. -/
theorem overwritten_failure_is_lost (c : Check) (actual expected : Value) :
    ¬ KeepsFailures (listing [(c, .fail actual expected), (c, .pass)]).toText := by
  let failing : Verdict := .fail actual expected
  let verdicts : Keyed Check Verdict := (Keyed.ofList [(c, failing)]).insert c .pass
  have supplied : ∀ other verdict, verdicts.get? other = some verdict → verdict = .pass := by
    intro other verdict found
    by_cases same : other = c
    · subst same
      rw [Keyed.get?_insert_self] at found
      exact (Option.some.inj found).symm
    · rw [Keyed.get?_insert_of_ne _ _ same, Keyed.get?_eq_some_iff] at found
      exact absurd (congrArg Prod.fst (List.mem_singleton.mp found)) same
  have member : (some c.wireName, failing.toDocument.toTree) ∈
      [(c, failing), (c, .pass)].map fun entry =>
        (some entry.1.wireName, entry.2.toDocument.toTree) := List.mem_cons_self ..
  have told : Verdict.ofTree verdictDepth failing.toDocument.toTree = .ok failing :=
    failing.ofTree_toTree (by decide)
  have read := ofText_listing_append [(c, failing)] c .pass
  intro keeps
  have kept := keeps _ _ c _ _ _ read (writes_listing _) member told (unguardedRun verdicts) rfl
  exact kept.notAccepted (unguardedRun_accepted supplied)

theorem repeated_check_loses_failure :
    ¬ KeepsFailures (listing
      [(.proof, .fail (.text "forged") (.text "genuine")), (.proof, .pass)]).toText :=
  overwritten_failure_is_lost .proof (.text "forged") (.text "genuine")

end Submission

end Attestation

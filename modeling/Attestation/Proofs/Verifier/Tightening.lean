import Attestation.Proofs.Verifier.Runs
import Mathlib.Data.List.Forall2

namespace Attestation

open Requirements

def Within {α : Type} (less more : Option α) : Prop := ∀ a, less = some a → more = some a

namespace Requirements

structure Tightened (before after : Requirements) : Prop where
  scope : Within before.scope after.scope
  attestationId : Within before.attestationId after.attestationId
  currentDate : before.currentDate = true → after.currentDate = true
  issuingState : Within before.issuingState after.issuingState
  name : Within before.name after.name
  passportNumber : Within before.passportNumber after.passportNumber
  nationality : Within before.nationality after.nationality
  dateOfBirth : Within before.dateOfBirth after.dateOfBirth
  gender : Within before.gender after.gender
  expiryDate : Within before.expiryDate after.expiryDate
  minimumAge : ∀ least, before.minimumAge = some least →
    ∃ more, after.minimumAge = some more ∧ least ≤ more
  ownerOf : Within before.ownerOf after.ownerOf
  forbiddenCountries : before.forbiddenCountries ⊆ after.forbiddenCountries

theorem TextMet.loosen {before after disclosed revealed : Option String}
    (required : Within before after) (withdrawn : Within revealed disclosed)
    (met : TextMet after revealed) : TextMet before disclosed :=
  fun text demanded => withdrawn text (met text (required text demanded))

theorem AgeMet.loosen {before after disclosed revealed : Option UInt32}
    (raised : ∀ least, before = some least → ∃ more, after = some more ∧ least ≤ more)
    (withdrawn : Within revealed disclosed) (met : AgeMet after revealed) :
    AgeMet before disclosed := by
  intro least demanded
  obtain ⟨more, raised, below⟩ := raised least demanded
  obtain ⟨age, shown, enough⟩ := met more raised
  exact ⟨age, withdrawn age shown, UInt32.le_trans below enough⟩

theorem DateMet.loosen {before after : Bool} {disclosed revealed : Option Date} {today : Date}
    {days fewer : Int} (required : before = true → after = true)
    (withdrawn : Within revealed disclosed) (lowered : fewer ≤ days)
    (met : DateMet after revealed today fewer) : DateMet before disclosed today days := by
  intro demanded
  obtain ⟨day, shown, near⟩ := met (required demanded)
  exact ⟨day, withdrawn day shown, by omega⟩

theorem CountriesMet.loosen {before after : List String}
    {disclosed revealed : Option (List String)} (required : before ⊆ after)
    (withdrawn : ∀ listed, revealed = some listed →
      ∃ more, disclosed = some more ∧ listed ⊆ more)
    (met : CountriesMet after revealed) : CountriesMet before disclosed := by
  intro demanded
  have still : after ≠ [] := by
    rintro rfl
    exact demanded (List.subset_nil.mp required)
  obtain ⟨listed, shown, forbidden⟩ := met still
  obtain ⟨more, disclosed, all⟩ := withdrawn listed shown
  exact ⟨more, disclosed, fun country member => all (forbidden country (required member))⟩

end Requirements

structure Disclosed.Withdrawn (before after : Disclosed) : Prop where
  scope : Within after.scope before.scope
  attestationId : Within after.attestationId before.attestationId
  currentDate : Within after.currentDate before.currentDate
  issuingState : Within after.issuingState before.issuingState
  name : Within after.name before.name
  passportNumber : Within after.passportNumber before.passportNumber
  nationality : Within after.nationality before.nationality
  dateOfBirth : Within after.dateOfBirth before.dateOfBirth
  gender : Within after.gender before.gender
  expiryDate : Within after.expiryDate before.expiryDate
  olderThan : Within after.olderThan before.olderThan
  ownerOf : Within after.ownerOf before.ownerOf
  forbiddenCountries : ∀ listed, after.forbiddenCountries = some listed →
    ∃ more, before.forbiddenCountries = some more ∧ listed ⊆ more

theorem exists_of_mem_left {α β : Type} {related : α → β → Prop} {left : List α} {right : List β}
    (pairs : List.Forall₂ related left right) {a : α} (member : a ∈ left) :
    ∃ b ∈ right, related a b := by
  induction pairs with
  | nil => cases member
  | cons first _ ih =>
    rcases List.mem_cons.mp member with rfl | later
    · exact ⟨_, List.mem_cons_self .., first⟩
    · obtain ⟨b, inside, second⟩ := ih later
      exact ⟨b, List.mem_cons_of_mem _ inside, second⟩

namespace AttributeChecker

theorem evaluate_loosen {days fewer : Int64} {d revealed : Disclosed} {r more : Requirements}
    (lowered : fewer.toInt ≤ days.toInt) (withdrawn : d.Withdrawn revealed)
    (tightened : r.Tightened more) (today : Date) :
    List.Forall₂ (fun before after => before.1 = after.1 ∧ (after.2 = .pass → before.2 = .pass))
      ((ofDays days).evaluate d r today) ((ofDays fewer).evaluate revealed more today) := by
  have text {before after disclosed revealed : Option String} (required : Within before after)
      (withdrawn : Within revealed disclosed) (met : sameText revealed after = .pass) :
      sameText disclosed before = .pass := by
    rw [sameText_eq_pass_iff] at met ⊢
    exact met.loosen required withdrawn
  refine .cons ⟨rfl, text tightened.scope withdrawn.scope⟩ <|
    .cons ⟨rfl, text tightened.attestationId withdrawn.attestationId⟩ <| .cons ⟨rfl, ?_⟩ <|
    .cons ⟨rfl, text tightened.issuingState withdrawn.issuingState⟩ <|
    .cons ⟨rfl, text tightened.name withdrawn.name⟩ <|
    .cons ⟨rfl, text tightened.passportNumber withdrawn.passportNumber⟩ <|
    .cons ⟨rfl, text tightened.nationality withdrawn.nationality⟩ <|
    .cons ⟨rfl, text tightened.dateOfBirth withdrawn.dateOfBirth⟩ <|
    .cons ⟨rfl, text tightened.gender withdrawn.gender⟩ <|
    .cons ⟨rfl, text tightened.expiryDate withdrawn.expiryDate⟩ <| .cons ⟨rfl, ?_⟩ <|
    .cons ⟨rfl, text tightened.ownerOf withdrawn.ownerOf⟩ <| .cons ⟨rfl, ?_⟩ .nil
  · simp only [nearToday_eq_pass_iff]
    exact DateMet.loosen tightened.currentDate withdrawn.currentDate lowered
  · simp only [oldEnough_eq_pass_iff]
    exact AgeMet.loosen tightened.minimumAge withdrawn.olderThan
  · simp only [allForbidden_eq_pass_iff]
    exact CountriesMet.loosen tightened.forbiddenCountries withdrawn.forbiddenCountries

end AttributeChecker

namespace Verifier

inductive SuppliedTightened : Option Verdict → Option Verdict → Prop where
  | same (verdict : Option Verdict) : SuppliedTightened verdict verdict
  | turned (actual expected : Value) : SuppliedTightened (some .pass) (some (.fail actual expected))
  | added (actual expected : Value) : SuppliedTightened none (some (.fail actual expected))

theorem SuppliedTightened.fails {earlier later : Option Verdict}
    (changed : SuppliedTightened earlier later)
    (fails : ∃ verdict, earlier = some verdict ∧ verdict.isPass = false) :
    ∃ verdict, later = some verdict ∧ verdict.isPass = false := by
  cases changed with
  | same => exact fails
  | turned actual expected => exact ⟨_, rfl, rfl⟩
  | added actual expected => exact ⟨_, rfl, rfl⟩

theorem SuppliedTightened.earlier_or_fails {earlier later : Option Verdict}
    (changed : SuppliedTightened earlier later) {verdict : Verdict}
    (supplied : later = some verdict) :
    (∃ verdict, earlier = some verdict) ∨ verdict.isPass = false := by
  cases changed with
  | same => exact .inl ⟨verdict, supplied⟩
  | turned actual expected => exact .inl ⟨_, rfl⟩
  | added actual expected =>
    cases supplied
    exact .inr rfl

inductive AnswerTightened : Except VerifierError Verdict → Except VerifierError Verdict → Prop where
  | same (answer : Except VerifierError Verdict) : AnswerTightened answer answer
  | failing (actual expected : Value) : AnswerTightened (.ok .pass) (.ok (.fail actual expected))
  | erring (error : VerifierError) : AnswerTightened (.ok .pass) (.error error)

theorem AnswerTightened.pass_of_pass {earlier later : Except VerifierError Verdict}
    (changed : AnswerTightened earlier later) (passes : later = .ok .pass) : earlier = .ok .pass := by
  cases changed with
  | same => exact passes
  | failing => rfl
  | erring => rfl

/-- The second run differs from the first by changes that can only make an attempt fail. -/
structure Run.Tightened (before after : Run) : Prop where
  policy : after.policy = before.policy
  today : after.today = before.today
  toleranceDays : after.verifier.options.toleranceDays ≤ before.verifier.options.toleranceDays
  requirements : before.verifier.requirements.Tightened after.verifier.requirements
  disclosed : before.submission.disclosed.Withdrawn after.submission.disclosed
  supplied : ∀ c,
    SuppliedTightened (before.submission.verdicts.get? c) (after.submission.verdicts.get? c)
  kept : ∀ earlier ∈ before.verifier.routines, ∃ later ∈ after.verifier.routines,
    later.check = earlier.check ∧
      AnswerTightened (earlier.answer before.submission) (later.answer after.submission)
  added : ∀ later ∈ after.verifier.routines,
    (∃ earlier ∈ before.verifier.routines, earlier.check = later.check ∧
      AnswerTightened (earlier.answer before.submission) (later.answer after.submission)) ∨
    later.check ∉ before.verifier.routineChecks ∧ later.answer after.submission ≠ .ok .pass

theorem isPass_verdictOf_eq_false_iff (routine : Routine) (submission : Submission) :
    (verdictOf routine submission).isPass = false ↔ routine.answer submission ≠ .ok .pass := by
  unfold verdictOf
  cases routine.answer submission with
  | error error => simp [Verdict.isPass]
  | ok verdict => cases verdict <;> simp [Verdict.isPass]

namespace Run.Tightened

variable {before after : Run} {c : Check}

theorem compared_fails (change : before.Tightened after) {verdict : Verdict}
    (member : (c, verdict) ∈ before.verifier.checker.evaluate before.submission.disclosed
      before.verifier.requirements before.today) (fails : verdict.isPass = false) :
    ∃ verdict, (c, verdict) ∈ after.verifier.checker.evaluate after.submission.disclosed
      after.verifier.requirements after.today ∧ verdict.isPass = false := by
  have lowered := Int64.le_iff_toInt_le.mp change.toleranceDays
  have entries := AttributeChecker.evaluate_loosen lowered change.disclosed change.requirements
    before.today
  obtain ⟨⟨check, later⟩, compared, same, passes⟩ := exists_of_mem_left entries member
  obtain rfl : c = check := same
  rw [change.today]
  refine ⟨later, compared, ?_⟩
  cases later with
  | pass =>
    obtain rfl := passes rfl
    cases fails
  | fail => rfl

theorem decides_false (change : before.Tightened after) (fails : before.Decides c false) :
    after.Decides c false := by
  rw [decides_iff] at fails ⊢
  obtain supplied | ⟨routine, member, rfl, fails⟩ | ⟨verdict, member, fails⟩ := fails
  · exact .inl ((change.supplied c).fails supplied)
  · obtain ⟨later, registered, same, changed⟩ := change.kept routine member
    rw [isPass_verdictOf_eq_false_iff] at fails
    refine .inr (.inl ⟨later, registered, same, ?_⟩)
    rw [isPass_verdictOf_eq_false_iff]
    exact fun passes => fails (changed.pass_of_pass passes)
  · exact .inr (.inr (change.compared_fails member fails))

/-- A check that is decided after the change was decided before it, or it fails. -/
theorem decided_or_fails (change : before.Tightened after) {passes : Bool}
    (decided : after.Decides c passes) :
    (∃ earlier, before.Decides c earlier) ∨ after.Decides c false := by
  have decided' := decided
  rw [decides_iff] at decided'
  obtain ⟨verdict, found, said⟩ | ⟨routine, member, rfl, said⟩ | ⟨verdict, member, said⟩ := decided'
  · obtain ⟨earlier, supplied⟩ | fails := (change.supplied c).earlier_or_fails found
    · exact .inl ⟨_, (before.decides_iff c _).mpr (.inl ⟨earlier, supplied, rfl⟩)⟩
    · exact .inr ((after.decides_iff c false).mpr (.inl ⟨verdict, found, fails⟩))
  · obtain ⟨earlier, registered, same, -⟩ | ⟨-, fails⟩ := change.added routine member
    · exact .inl ⟨_, (before.decides_iff _ _).mpr (.inr (.inl ⟨earlier, registered, same, rfl⟩))⟩
    · rw [← isPass_verdictOf_eq_false_iff] at fails
      exact .inr ((after.decides_iff _ false).mpr (.inr (.inl ⟨routine, member, rfl, fails⟩)))
  · have compared : c ∈ AttributeChecker.checks := List.mem_map_of_mem (f := Prod.fst) member
    rw [← AttributeChecker.map_fst_evaluate before.verifier.checker before.submission.disclosed
      before.verifier.requirements before.today] at compared
    obtain ⟨⟨check, earlier⟩, listed, rfl⟩ := List.mem_map.mp compared
    exact .inl ⟨_, (before.decides_iff _ _).mpr (.inr (.inr ⟨earlier, listed, rfl⟩))⟩

end Run.Tightened

/-- Changes that can only make an attempt fail keep every failure, and they let no attempt be
accepted that was not, also where they decide a check for which a strict policy refused it. -/
theorem tightening_accepts_no_more {before after : Run} (change : before.Tightened after) :
    (∃ earlier later, reportOf before.result = some earlier ∧ reportOf after.result = some later ∧
      ∀ c, earlier.outcomes c = .failed → later.outcomes c = .failed) ∧
    (¬ before.Accepted → ¬ after.Accepted) := by
  constructor
  · refine ⟨_, _, before.reportOf_result, after.reportOf_result, fun c failed => ?_⟩
    rw [Run.failed_iff] at failed ⊢
    exact change.decides_false failed
  · refine mt fun accepted => ?_
    -- A check that only the change decides fails, so the second run would not be accepted.
    obtain ⟨clear, covered⟩ := after.accepted_iff.mp accepted
    refine before.accepted_iff.mpr ⟨fun c fails => clear c (change.decides_false fails), ?_⟩
    intro strict c
    obtain ⟨passes, decided⟩ := covered (change.policy.trans strict) c
    exact (change.decided_or_fails decided).resolve_right (clear c)

/-- A strict policy refuses the first attempt for a check that nobody decides. A routine that errs
decides it, so the second attempt is sealed, but as not valid. Much else is tightened as well. -/
theorem tightening_seals_invalid :
    let screening := answering .ofac .pass
    let supplied := [Check.dsc, .proof, .dscProof, .pubKey, .merkleRootCsca, .merkleRootCommitment]
    let before : Run :=
      { verifier := ⟨{}, { minimumAge := some 18, currentDate := false }, [screening]⟩
        attempt := 0
        submission :=
          { verdicts := .ofList (supplied.map fun c => (c, .pass))
            disclosed :=
              { name := some "DOE", olderThan := some 18, forbiddenCountries := some ["A", "B"] } }
        today := default
        completed := [screening]
        order := .refl _ }
    let late := unreachable .blindedDscCommitment
    let demanded : Requirements :=
      { minimumAge := some 21, name := some "ROE", forbiddenCountries := ["B"] }
    let after : Run :=
      { verifier := ⟨{ toleranceDays := -1 }, demanded, [unreachable .ofac, late]⟩
        attempt := 0
        submission :=
          { verdicts := .ofList ((supplied.map fun c => (c, .pass)) ++ [(.dsc, .fail .empty .empty)])
            disclosed := { olderThan := some 18, forbiddenCountries := some ["A"] } }
        today := default
        completed := [late, unreachable .ofac]
        order := .swap _ _ _ }
    (∃ refusal, before.result = .error (.refused refusal)) ∧
    ∃ report, after.result = .ok report ∧ report.valid = false := by
  intro screening supplied before late demanded after
  have change : before.Tightened after := by
    refine ⟨rfl, rfl, by decide, ?_, ?_, ?_, ?_, ?_⟩
    · constructor <;> simp [Within, before, after, demanded]
    · constructor <;> simp [Within, before, after]
    · intro c
      cases c with
      | dsc => exact .turned _ _
      | _ => exact .same _
    · simp only [before, List.forall_mem_singleton]
      exact ⟨unreachable .ofac, List.mem_cons_self .., rfl, .erring _⟩
    · simp only [after, List.forall_mem_cons]
      refine ⟨.inl ⟨screening, List.mem_cons_self .., rfl, .erring _⟩, .inr ?_, by simp⟩
      exact ⟨by decide, by simp [late, unreachable]⟩
  have gap : before.report.unevaluatedChecks = [.blindedDscCommitment] := by decide
  have gapless : after.report.unevaluatedChecks = [] := by decide
  have refused := before.result_eq
  rw [if_pos ⟨rfl, by simp [gap]⟩] at refused
  have sealed := after.result_eq
  rw [if_neg (by simp [gapless])] at sealed
  refine ⟨⟨_, refused⟩, _, sealed, Bool.eq_false_iff.mpr fun valid => ?_⟩
  refine (tightening_accepts_no_more change).2 ?_ ⟨_, sealed, valid⟩
  rintro ⟨report, accepted, -⟩
  rw [refused] at accepted
  cases accepted

end Verifier

end Attestation

import Attestation.Proofs.Toml.Layout

namespace Attestation.Config

open Toml Omission

section

variable {σ : Type} {key : String} {state : σ} {without : Omission → σ}

theorem gives_textField {get : σ → Option String} {set : String → σ → σ}
    (present : ∀ content, get state = some content → ∀ omitted : Omission,
      set content (without omitted) = without (omitted.given key))
    (absent : get state = none → ∀ omitted : Omission,
      without omitted = without (omitted.given key)) :
    Toml.Layout.Gives state without (textField key get set) := by
  intro omitted
  cases content : get state with
  | none => simp [textField, content, ← absent content]
  | some content' => simp [textField, content, Item.toTree, Tree.string?, ← present _ content]

theorem gives_flagField {get : σ → Bool} {set : Bool → σ → σ}
    (present : ∀ omitted : Omission,
      set (get state) (without omitted) = without (omitted.given key)) :
    Toml.Layout.Gives state without (flagField key get set) := by
  intro omitted
  simp [flagField, Item.toTree, Tree.boolean?, ← present]

end

theorem strings?_texts (contents : List String) :
    (Item.texts contents).toTree.strings? = some contents := by
  rw [Item.toTree, Tree.strings?, List.mapM_map]
  exact (List.mapM_pure ..).trans (congrArg some (List.map_id _))

theorem days_fit (days : Int64) :
    leastInteger ≤ days.toInt ∧ days.toInt ≤ greatestInteger :=
  ⟨days.le_toInt, days.toInt_le⟩

theorem age_fits (age : UInt32) :
    (0 : Int) ≤ age.toNat ∧ (age.toNat : Int) ≤ Disclosed.greatestAge := by
  have small : age.toNat < UInt32.size := age.toNat_lt
  rw [Disclosed.greatestAge]
  omega

/-! What an entry stands for when it is left out alone is what it has in the default. -/

theorem start_verificationLayout : verificationLayout.start = default := rfl

theorem start_requirementsLayout : requirementsLayout.start = default := rfl

theorem start_loggingLayout : loggingLayout.start = default := rfl

theorem restores_verification (v : Verification) :
    verificationLayout.Restores v v.without where
  distinct := by decide
  starts omitted absent := by
    simp only [verificationLayout, List.forall_mem_cons] at absent
    simp [start_verificationLayout, Verification.without, choose_of_omitted, absent]
  gives := by
    simp only [verificationLayout, List.forall_mem_cons]
    refine ⟨?_, ?_, List.forall_mem_nil _⟩
    · intro omitted
      simp [Item.toTree, Tree.choice?, Policy.ofName?_wireName, Verification.without,
        choose_given_self, choose_given_of_ne]
    · intro omitted
      simp [Item.toTree, Tree.integer?, days_fit, Verification.without, choose_given_self,
        choose_given_of_ne]

theorem restores_requirements (r : Requirements) : requirementsLayout.Restores r r.without where
  distinct := by decide
  starts omitted absent := by
    simp only [requirementsLayout, List.forall_mem_cons, textField, flagField] at absent
    simp [start_requirementsLayout, Requirements.without, choose_of_omitted, absent]
  gives := by
    simp only [requirementsLayout, List.forall_mem_cons]
    refine ⟨gives_textField ?_ ?_, gives_textField ?_ ?_, gives_flagField ?_, gives_textField ?_ ?_,
      gives_textField ?_ ?_, gives_textField ?_ ?_, gives_textField ?_ ?_, gives_textField ?_ ?_,
      gives_textField ?_ ?_, gives_textField ?_ ?_, ?age, gives_textField ?_ ?_, ?countries,
      List.forall_mem_nil _⟩
    case age =>
      intro omitted
      cases demanded : r.minimumAge with
      | none =>
        -- nothing is written, which is right only as nothing is the default
        simp [Requirements.without, Requirements.default_eq, demanded, choose_given_of_ne,
          choose_self]
      | some age =>
        simp [Item.toTree, Tree.integer?, age_fits, Requirements.without, demanded,
          choose_given_self, choose_given_of_ne]
    case countries =>
      intro omitted
      simp [strings?_texts, Requirements.without, choose_given_self, choose_given_of_ne]
    all_goals
      intros
      simp [Requirements.without, Requirements.default_eq, choose_given_self, choose_given_of_ne,
        choose_self, *]

theorem restores_logging (l : Logging) : loggingLayout.Restores l l.without where
  distinct := by decide
  starts omitted absent := by
    simp only [loggingLayout, List.forall_mem_cons, textField] at absent
    simp [start_loggingLayout, Logging.without, choose_of_omitted, absent]
  gives := by
    simp only [loggingLayout, List.forall_mem_cons]
    refine ⟨gives_textField ?_ nofun, gives_textField ?_ nofun, List.forall_mem_nil _⟩
    · rintro _ same omitted
      cases same
      simp [Logging.without, choose_given_self, choose_given_of_ne]
    · rintro _ same omitted
      cases same
      simp [Logging.without, choose_given_self, choose_given_of_ne]

/-! What is written is regular. -/

theorem isRegular_verification : verificationLayout.IsRegular where
  bare := by decide
  fits := by simp [verificationLayout, Item.Fits, days_fit]

theorem isRegular_requirements : requirementsLayout.IsRegular where
  bare := by decide
  fits := by
    have whole : ∀ age : UInt32,
        leastInteger ≤ age.toNat ∧ (age.toNat : Int) ≤ greatestInteger := by
      intro age
      have small : age.toNat < UInt32.size := age.toNat_lt
      have limits : leastInteger ≤ 0 ∧ (UInt32.size : Int) ≤ greatestInteger := by decide
      omega
    simp +contextual [requirementsLayout, textField, flagField, Item.Fits, whole]

theorem isRegular_logging : loggingLayout.IsRegular where
  bare := by decide
  fits := by simp +contextual [loggingLayout, textField, Item.Fits]

theorem regular_sections (c : Config) : ∀ part ∈ c.sections, part.Regular := by
  simp only [sections, List.forall_mem_cons]
  refine ⟨?_, ?_, ?_, List.forall_mem_nil _⟩
  · exact isRegular_verification.section (restores_verification c.verification).distinct
      (by decide) c.verification
  · exact isRegular_requirements.section (restores_requirements c.requirements).distinct (by decide)
      c.requirements
  · exact isRegular_logging.section (restores_logging c.logging).distinct (by decide) c.logging

theorem nodup_sections (c : Config) : (c.sections.map (·.name)).Nodup := by
  have distinct : [verificationName, requirementsName, loggingName].Nodup := by decide
  exact distinct

end Attestation.Config

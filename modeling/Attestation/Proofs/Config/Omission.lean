import Attestation.Proofs.Config.Reading
import Attestation.Proofs.Submission.Omission

namespace Attestation

namespace Config

open Omission

variable (c : Config) (gone : Omission) (entries : String → Omission)

theorem ofStored_nothing : ofStored .nothing = .ok (c.without .everything entries) := rfl

theorem choose_without {σ : Type} {without : Omission → σ} {start : σ}
    (empty : without .everything = start) (name : String) (omitted : Omission) :
    gone.choose name (without omitted) start = without fun key => gone name || omitted key := by
  rw [choose]
  cases gone name with
  | true => exact empty.symm
  | false => rfl

/-- A verifier that is made without a configuration decides as one whose configuration says
nothing. -/
theorem options_default : (default : Config).options = {} := rfl

theorem checker_default (requirements : Requirements) :
    (Verifier.new (default : Config).options requirements).checker = default := rfl

theorem without_gone :
    c.without gone entries = c.without .nothing fun name key => gone name || entries name key := by
  have verification : c.verification.without .everything = (default : Config).verification := rfl
  have requirements : c.requirements.without .everything = (default : Config).requirements := rfl
  have logging : c.logging.without .everything = (default : Config).logging := rfl
  rw [without, choose_without gone verification, choose_without gone requirements,
    choose_without gone logging]
  rfl

end Config

/-- In each structure that is read from a text, members that are left out have their defaults,
whatever the others are and in whatever order they stand. -/
theorem omitted_members_have_defaults :
    (∀ (r : Requirements) omitted text, Json.HoldsRemaining text r.toDocument omitted →
      Json.Tree.readText Requirements.layout.read text = .ok (r.without omitted)) ∧
    (∀ (r : Requirements) omitted, omitted "require_current_date" = true →
      (r.without omitted).currentDate = true) ∧
    (∀ (d : Disclosed) omitted text, Json.HoldsRemaining text d.toDocument omitted →
      Json.Tree.readText Disclosed.layout.read text = .ok (d.without omitted)) ∧
    (∀ (s : Submission) omitted text, Json.HoldsRemaining text s.toDocument omitted →
      Submission.ofText text = .ok (s.without omitted)) ∧
    (∀ (c : Config) sections entries kept, c.Remain sections entries kept →
      (∃ tables, Toml.ofText? (Toml.toText kept) = some tables ∧ Toml.StandFor tables kept) ∧
      ∀ text tables, Toml.ofText? text = some tables → Toml.StandFor tables kept →
        Config.ofStored (.text text) = .ok (c.without sections entries)) ∧
    (∀ (c : Config) gone entries,
      Config.ofStored .nothing = .ok (c.without .everything entries) ∧
      c.without gone entries =
        c.without .nothing fun name key => gone name || entries name key) := by
  refine ⟨?_, ?_, ?_, ?_, ?_, ?_⟩
  · exact fun r _ _ holds => r.restores.readText holds
  · exact fun _ _ absent => Omission.choose_of_omitted _ _ absent
  · exact fun d _ _ holds => d.restores.readText holds
  · exact fun s _ _ holds => s.restores.readText holds
  · intro c sections entries kept remain
    exact ⟨remain.exists_tables, fun _ _ read stand => Config.ofStored_of_remain remain read stand⟩
  · exact fun c gone entries => ⟨c.ofStored_nothing entries, c.without_gone gone entries⟩

theorem omitted_members_have_defaults_beside_given_ones :
    Json.Tree.readText Requirements.layout.read "\x7b\"name\":\"A\"\x7d" =
      .ok { name := some "A" } ∧
    Config.ofStored (.text "[logging]\nlevel = \"info\"\n\n[verification]\n") =
      .ok { (default : Config) with logging := { level := "info", format := "text" } } := by
  obtain ⟨requirements, -, -, -, config, -⟩ := omitted_members_have_defaults
  constructor
  · let r : Requirements := { name := some "A", currentDate := false }
    let kept : List (String × Json.Document) := [("name", .string "A")]
    have holds : Json.HoldsRemaining "\x7b\"name\":\"A\"\x7d" r.toDocument (· != "name") :=
      ⟨kept, .refl kept, Json.Tree.spelledBy_toText (.object kept)⟩
    exact requirements r _ _ holds
  · let c : Config :=
      { verification := { policy := .lenient, toleranceDays := 30 }
        requirements := { currentDate := false }, logging := { level := "info", format := "json" } }
    let kept : List Toml.Section := [⟨"logging", [("level", .text "info")]⟩, ⟨"verification", []⟩]
    have remain : c.Remain (· == "requirements") (fun _ key => key != "level") kept := by
      refine ⟨fun part => part.entries.filter fun entry => !(entry.1 != "level"), ?_, ?_⟩
      · exact fun part _ => .refl _
      · decide
    obtain ⟨⟨tables, read, stand⟩, loads⟩ := config c _ _ kept remain
    exact loads _ tables read stand

end Attestation

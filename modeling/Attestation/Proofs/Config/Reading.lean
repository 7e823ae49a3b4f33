import Attestation.Proofs.Config.Sections

namespace Attestation

namespace Toml

def StandFor (tables : Entries) (parts : List Section) : Prop :=
  ∃ origin : String → Origin,
    tables = parts.map fun part => (part.name, .table (origin part.name) (treesOf part.entries))

end Toml

namespace Config

open Toml

/-- Sections that hold what remains of a configuration when whole sections are left out, and entries
of the others. They may stand in any order, and so may the entries of each. -/
def Remain (c : Config) (sections : Omission) (entries : String → Omission)
    (kept : List Section) : Prop :=
  ∃ arranged : Section → List (String × Item),
    (∀ part ∈ c.sections,
      (arranged part).Perm (part.entries.filter fun entry => !entries part.name entry.1)) ∧
    kept.Perm ((c.sections.filter fun part => !sections part.name).map fun part =>
      ⟨part.name, arranged part⟩)

variable {c : Config} {sections : Omission} {entries : String → Omission} {kept : List Section}

theorem Remain.names (remain : c.Remain sections entries kept) :
    (kept.map (·.name)).Perm
      ((c.sections.filter fun part => !sections part.name).map (·.name)) := by
  obtain ⟨arranged, -, remaining⟩ := remain
  have names := remaining.map (·.name)
  rwa [List.map_map] at names

theorem Remain.nodup (remain : c.Remain sections entries kept) : (kept.map (·.name)).Nodup := by
  rw [remain.names.nodup_iff]
  exact c.nodup_sections.sublist (List.filter_sublist.map _)

theorem Remain.regular (remain : c.Remain sections entries kept) : ∀ part ∈ kept, part.Regular := by
  obtain ⟨arranged, inOrder, remaining⟩ := remain
  intro part member
  obtain ⟨whole, listed, rfl⟩ := List.mem_map.mp (remaining.subset member)
  have wholeListed := List.mem_of_mem_filter listed
  have regular := c.regular_sections whole wholeListed
  have same := inOrder whole wholeListed
  constructor
  · exact regular.named
  · exact fun entry inside => regular.keyed entry (List.mem_of_mem_filter (same.subset inside))
  · rw [(same.map _).nodup_iff]
    exact regular.once.sublist (List.filter_sublist.map _)

theorem Remain.exists_tables (remain : c.Remain sections entries kept) :
    ∃ tables, Toml.ofText? (Toml.toText kept) = some tables ∧ StandFor tables kept :=
  ⟨_, ofText?_toText remain.regular remain.nodup, fun _ => .header, rfl⟩

section

variable {tables : Entries} (remain : c.Remain sections entries kept)
  (stand : StandFor tables kept)

include remain stand

theorem keys_of_remain :
    (tables.map (·.1)).Perm ((c.sections.filter fun part => !sections part.name).map (·.name)) := by
  obtain ⟨origin, rfl⟩ := stand
  rw [List.map_map]
  exact remain.names

theorem get?_eq_none_of_remain {name : String} (absent : sections name = true) :
    tables.get? name = none := by
  apply Entries.get?_eq_none
  rw [(keys_of_remain remain stand).mem_iff]
  intro member
  obtain ⟨part, present, rfl⟩ := List.mem_map.mp member
  rw [List.mem_filter, absent] at present
  cases present.2

theorem exists_get?_of_remain {part : Section} (listed : part ∈ c.sections)
    (present : sections part.name = false) :
    ∃ origin own, own.Perm (part.entries.filter fun entry => !entries part.name entry.1) ∧
      tables.get? part.name = some (.table origin (treesOf own)) := by
  have once : (tables.map (·.1)).Nodup := by
    rw [(keys_of_remain remain stand).nodup_iff]
    exact c.nodup_sections.sublist (List.filter_sublist.map _)
  obtain ⟨arranged, inOrder, remaining⟩ := remain
  obtain ⟨origin, rfl⟩ := stand
  have left : part ∈ c.sections.filter fun part => !sections part.name :=
    List.mem_filter.mpr ⟨listed, by rw [present]; rfl⟩
  have member : ⟨part.name, arranged part⟩ ∈ kept :=
    remaining.mem_iff.mpr (List.mem_map.mpr ⟨part, left, rfl⟩)
  exact ⟨_, _, inOrder part listed, Entries.get?_eq_some once (List.mem_map.mpr ⟨_, member, rfl⟩)⟩

theorem readSection_of_remain {σ : Type} [Inhabited σ] {layout : Layout σ} {state : σ}
    {without : Omission → σ} (restores : layout.Restores state without) (name : String)
    (listed : ⟨name, layout.write state⟩ ∈ c.sections) :
    readSection layout tables name =
      some (sections.choose name (without (entries name)) default) := by
  rw [Omission.choose]
  cases absent : sections name with
  | true =>
    rw [readSection, get?_eq_none_of_remain remain stand absent]
    rfl
  | false =>
    obtain ⟨origin, own, remaining, found⟩ := exists_get?_of_remain remain stand listed absent
    rw [readSection, found]
    exact restores.read_kept remaining origin

theorem ofEntries?_of_remain : ofEntries? tables = some (c.without sections entries) := by
  have verification := readSection_of_remain remain stand (restores_verification c.verification)
    verificationName (by simp [Config.sections])
  have requirements := readSection_of_remain remain stand (restores_requirements c.requirements)
    requirementsName (by simp [Config.sections])
  have logging := readSection_of_remain remain stand (restores_logging c.logging)
    loggingName (by simp [Config.sections])
  rw [ofEntries?, verification, requirements, logging]
  rfl

end

theorem ofStored_of_remain (remain : c.Remain sections entries kept) {text : String}
    {tables : Entries} (read : Toml.ofText? text = some tables) (stand : StandFor tables kept) :
    ofStored (.text text) = .ok (c.without sections entries) := by
  have found : ofText? text = some (c.without sections entries) := by
    rw [ofText?, read]
    exact ofEntries?_of_remain remain stand
  simp only [ofStored, found]

end Config

end Attestation

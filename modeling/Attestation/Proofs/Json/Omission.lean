import Attestation.Proofs.Json.Layout
import Attestation.Proofs.Json.Reading
import Attestation.Proofs.Omission

namespace Attestation.Json

def Document.members : Document → List (String × Document)
  | .object members => members
  | _ => []

/-- A text spells an object with the members of a document, in any order, less those that are left
out. -/
def HoldsRemaining (text : String) (document : Document) (omitted : Omission) : Prop :=
  ∃ kept, kept.Perm (document.members.filter fun m => !omitted m.1) ∧
    (Document.object kept).toTree.SpelledBy text.toList

namespace Layout

variable {σ : Type} {layout : Layout σ} {members : List (String × Document)}
  {without : Omission → σ}

def Gives (without : Omission → σ) (field : LayoutField σ) (tree : Tree) : Prop :=
  ∀ omitted : Omission, field.read tree (without omitted) = .ok (without (omitted.given field.name))

def Fills (without : Omission → σ) (field : LayoutField σ) (m : String × Document) : Prop :=
  m.1 = field.name ∧ Gives without field m.2.toTree

/-- A layout reads each of the members, one for each field, and starts with none of them. -/
structure Restores (layout : Layout σ) (members : List (String × Document))
    (without : Omission → σ) : Prop where
  distinct : layout.Distinct
  lenient : layout.isPartial = true
  starts : ∀ omitted : Omission, (∀ field ∈ layout.fields, omitted field.name = true) →
    without omitted = layout.start
  fills : List.Forall₂ (Fills without) layout.fields members

theorem readFields_of_gives {given : List (LayoutField σ × Tree)}
    (gives : ∀ entry ∈ given, Gives without entry.1 entry.2) (omitted : Omission) :
    readFields given (without omitted) =
      .ok (without (omitted.givenAll (given.map (·.1.name)))) := by
  induction given generalizing omitted with
  | nil => rfl
  | cons entry given ih =>
    obtain ⟨first, others⟩ := List.forall_mem_cons.mp gives
    rw [readFields, List.foldlM_cons, first omitted]
    exact ih others (omitted.given entry.1.name)

theorem exists_membersOf {kept : List (String × Document)}
    (known : ∀ m ∈ kept, ∃ field ∈ layout.fields, Fills without field m) :
    ∃ given, membersOf given = kept.map (fun m => (some m.1, m.2.toTree)) ∧
      ∀ entry ∈ given, entry.1 ∈ layout.fields ∧ Gives without entry.1 entry.2 := by
  induction kept with
  | nil => exact ⟨[], rfl, List.forall_mem_nil _⟩
  | cons m kept ih =>
    obtain ⟨⟨field, listed, named, gives⟩, others⟩ := List.forall_mem_cons.mp known
    obtain ⟨given, same, all⟩ := ih others
    refine ⟨(field, m.2.toTree) :: given, ?_, List.forall_mem_cons.mpr ⟨⟨listed, gives⟩, all⟩⟩
    rw [membersOf, List.map_cons, ← membersOf, same, List.map_cons, named]

theorem map_name_of_fills {fields : List (LayoutField σ)}
    (fills : List.Forall₂ (Fills without) fields members) :
    members.map (·.1) = fields.map (·.name) := by
  induction fills with
  | nil => rfl
  | cons first _ ih => rw [List.map_cons, List.map_cons, first.1, ih]

theorem exists_field_of_fills {fields : List (LayoutField σ)}
    (fills : List.Forall₂ (Fills without) fields members) {m : String × Document}
    (member : m ∈ members) : ∃ field ∈ fields, Fills without field m := by
  induction fills with
  | nil => cases member
  | cons first _ ih =>
    obtain rfl | later := List.mem_cons.mp member
    · exact ⟨_, List.mem_cons_self .., first⟩
    · obtain ⟨field, listed, filled⟩ := ih later
      exact ⟨field, List.mem_cons_of_mem _ listed, filled⟩

theorem map_name_of_membersOf {given : List (LayoutField σ × Tree)}
    {kept : List (String × Document)}
    (same : membersOf given = kept.map fun m => (some m.1, m.2.toTree)) :
    given.map (·.1.name) = kept.map (·.1) := by
  have names := congrArg (List.filterMap (·.1)) same
  simpa [membersOf, List.filterMap_map, Function.comp_def, List.filterMap_eq_map] using names

theorem Restores.read_kept (restores : layout.Restores members without) (omitted : Omission)
    {kept : List (String × Document)}
    (remaining : kept.Perm (members.filter fun m => !omitted m.1)) :
    layout.read (Document.object kept).toTree = .ok (without omitted) := by
  have names := map_name_of_fills restores.fills
  obtain ⟨given, same, all⟩ := exists_membersOf fun m member =>
    exists_field_of_fills restores.fills (List.mem_of_mem_filter (remaining.subset member))
  have tree : (Document.object kept).toTree = .object (membersOf given) := by
    rw [Document.toTree, Document.toMembers_eq, same]
  have givenNames := map_name_of_membersOf same
  have once : (given.map (·.1.name)).Nodup := by
    have each : (members.map (·.1)).Nodup := names ▸ restores.distinct
    rw [givenNames, (remaining.map _).nodup_iff]
    exact each.sublist (List.filter_sublist.map _)
  have split : ∀ name, name ∈ given.map (·.1.name) ↔
      name ∈ layout.fields.map (·.name) ∧ omitted name = false := by
    intro name
    rw [givenNames, (remaining.map _).mem_iff, ← names]
    simp only [List.mem_map, List.mem_filter, Bool.not_eq_true']
    constructor
    · rintro ⟨m, ⟨member, present⟩, rfl⟩
      exact ⟨⟨m, member, rfl⟩, present⟩
    · rintro ⟨⟨m, member, rfl⟩, present⟩
      exact ⟨m, ⟨member, present⟩, rfl⟩
  have start := restores.starts (omitted.also (layout.fields.map (·.name))) fun field member =>
    omitted.also_of_mem (List.mem_map_of_mem member)
  have enough : layout.isPartial = false → ∀ field ∈ layout.fields,
      field.name ∈ given.map (·.1.name) := by
    intro whole
    rw [restores.lenient] at whole
    cases whole
  rw [tree, read_membersOf restores.distinct (fun entry member => (all entry member).1) once enough,
    ← start, readFields_of_gives fun entry member => (all entry member).2,
    Omission.givenAll_also split]

theorem Restores.readText {document : Document}
    (restores : layout.Restores document.members without) {omitted : Omission} {text : String}
    (holds : HoldsRemaining text document omitted) :
    Tree.readText layout.read text = .ok (without omitted) := by
  obtain ⟨kept, remaining, spelled⟩ := holds
  exact Tree.readText_eq_ok_iff.mpr ⟨_, spelled, restores.read_kept omitted remaining⟩

end Layout

end Attestation.Json

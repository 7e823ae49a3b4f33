import Attestation.Proofs.Omission
import Attestation.Proofs.Toml.Document
import Mathlib.Data.List.Nodup

namespace Attestation.Toml

theorem Entries.get?_eq_some {entries : Entries} (once : (entries.map (·.1)).Nodup) {key : String}
    {tree : Tree} (member : (key, tree) ∈ entries) : entries.get? key = some tree := by
  induction entries with
  | nil => cases member
  | cons entry entries ih =>
    obtain ⟨name, value⟩ := entry
    obtain ⟨apart, others⟩ := List.nodup_cons.mp once
    obtain same | later := List.mem_cons.mp member
    · cases same
      simp [get?]
    · have different : name ≠ key := by
        rintro rfl
        exact apart (List.mem_map.mpr ⟨_, later, rfl⟩)
      rw [get?, List.find?_cons, beq_false_of_ne different]
      exact ih others later

namespace Layout

variable {σ : Type} {layout : Layout σ} {state : σ} {without : Omission → σ} {omitted : Omission}

def Gives (state : σ) (without : Omission → σ) (field : LayoutField σ) : Prop :=
  ∀ omitted : Omission,
    (field.write state).elim (some (without omitted))
      (fun item => field.read item.toTree (without omitted)) =
        some (without (omitted.given field.key))

/-- A layout reads what it writes of a structure, and starts with nothing of it. -/
structure Restores (layout : Layout σ) (state : σ) (without : Omission → σ) : Prop where
  distinct : (layout.fields.map (·.key)).Nodup
  starts : ∀ omitted : Omission, (∀ field ∈ layout.fields, omitted field.key = true) →
    without omitted = layout.start
  gives : ∀ field ∈ layout.fields, Gives state without field

def HoldsField (entries : Entries) (state : σ) (omitted : Omission) (field : LayoutField σ) :
    Prop :=
  entries.get? field.key =
    if omitted field.key then none else (field.write state).map Item.toTree

def presentKeys (fields : List (LayoutField σ)) (omitted : Omission) : List String :=
  (fields.filter fun field => !omitted field.key).map (·.key)

theorem readEntries_of_gives {entries : Entries} {fields : List (LayoutField σ)}
    (gives : ∀ field ∈ fields, Gives state without field)
    (holds : ∀ field ∈ fields, HoldsField entries state omitted field) (before : Omission) :
    readEntries entries fields (without before) =
      some (without (before.givenAll (presentKeys fields omitted))) := by
  induction fields generalizing before with
  | nil => rfl
  | cons field fields ih =>
    obtain ⟨first, others⟩ := List.forall_mem_cons.mp gives
    obtain ⟨here, later⟩ := List.forall_mem_cons.mp holds
    have step := first before
    rw [HoldsField] at here
    rw [readEntries, presentKeys, List.filter_cons]
    cases absent : omitted field.key with
    | true =>
      rw [absent, if_pos rfl] at here
      rw [here]
      exact ih others later before
    | false =>
      rw [absent, if_neg Bool.false_ne_true] at here
      have rest := ih others later (before.given field.key)
      rw [here]
      cases written : field.write state with
      | none =>
        rw [written] at step
        rw [Option.some.inj step]
        exact rest
      | some item =>
        rw [written, Option.elim_some] at step
        rw [Option.map_some]
        simp only [step]
        exact rest

theorem mem_write {key : String} {item : Item} :
    (key, item) ∈ layout.write state ↔
      ∃ field ∈ layout.fields, field.write state = some item ∧ field.key = key := by
  simp [write, Option.map_eq_some_iff]

theorem map_key_write_sublist :
    ((layout.write state).map (·.1)).Sublist (layout.fields.map (·.key)) := by
  rw [write]
  induction layout.fields with
  | nil => exact .slnil
  | cons field fields ih =>
    rw [List.filterMap_cons, List.map_cons]
    cases field.write state with
    | none => exact ih.cons _
    | some item => exact ih.cons_cons _

structure IsRegular (layout : Layout σ) : Prop where
  bare : ∀ field ∈ layout.fields, IsBareKey field.key
  fits : ∀ field ∈ layout.fields, ∀ state item, field.write state = some item → item.Fits

theorem IsRegular.section (regular : layout.IsRegular)
    (distinct : (layout.fields.map (·.key)).Nodup) {name : String} (bare : IsBareKey name)
    (state : σ) : Section.Regular ⟨name, layout.write state⟩ where
  named := bare
  keyed := by
    rintro ⟨key, item⟩ member
    obtain ⟨field, listed, written, rfl⟩ := mem_write.mp member
    exact ⟨regular.bare field listed, regular.fits field listed state item written⟩
  once := distinct.sublist map_key_write_sublist

section

variable (restores : layout.Restores state without) {kept : List (String × Item)}
  (remaining : kept.Perm ((layout.write state).filter fun entry => !omitted entry.1))

include restores remaining

theorem Restores.nodup_kept : (kept.map (·.1)).Nodup := by
  rw [(remaining.map _).nodup_iff]
  exact restores.distinct.sublist ((List.filter_sublist.map _).trans map_key_write_sublist)

theorem Restores.mem_kept {field : LayoutField σ} (listed : field ∈ layout.fields) {item : Item} :
    (field.key, item) ∈ kept ↔ field.write state = some item ∧ omitted field.key = false := by
  rw [remaining.mem_iff, List.mem_filter, mem_write, Bool.not_eq_true']
  constructor
  · rintro ⟨⟨other, known, written, named⟩, present⟩
    obtain rfl := List.inj_on_of_nodup_map restores.distinct known listed named
    exact ⟨written, present⟩
  · rintro ⟨written, present⟩
    exact ⟨⟨field, listed, written, rfl⟩, present⟩

theorem Restores.holdsField {field : LayoutField σ} (listed : field ∈ layout.fields) :
    HoldsField (treesOf kept) state omitted field := by
  have once : ((treesOf kept).map (·.1)).Nodup :=
    keys_treesOf kept ▸ restores.nodup_kept remaining
  have unwritten (none : ∀ item, (field.key, item) ∉ kept) :
      (treesOf kept).get? field.key = .none := by
    apply Entries.get?_eq_none
    rw [keys_treesOf]
    intro member
    obtain ⟨⟨key, item⟩, inside, same⟩ := List.mem_map.mp member
    obtain rfl : key = field.key := same
    exact none item inside
  rw [HoldsField]
  cases absent : omitted field.key with
  | true =>
    apply unwritten
    intro item member
    rw [((restores.mem_kept remaining listed).mp member).2] at absent
    cases absent
  | false =>
    cases written : field.write state with
    | none =>
      apply unwritten
      intro item member
      rw [((restores.mem_kept remaining listed).mp member).1] at written
      cases written
    | some item =>
      have member := (restores.mem_kept remaining listed).mpr ⟨written, absent⟩
      exact Entries.get?_eq_some once (List.mem_map.mpr ⟨_, member, rfl⟩)

theorem Restores.read_kept (origin : Origin) :
    layout.read (.table origin (treesOf kept)) = some (without omitted) := by
  have start := restores.starts (omitted.also (layout.fields.map (·.key))) fun field member =>
    omitted.also_of_mem (List.mem_map_of_mem member)
  have split : ∀ key, key ∈ presentKeys layout.fields omitted ↔
      key ∈ layout.fields.map (·.key) ∧ omitted key = false := by
    intro key
    simp only [presentKeys, List.mem_map, List.mem_filter, Bool.not_eq_true']
    constructor
    · rintro ⟨field, ⟨listed, present⟩, rfl⟩
      exact ⟨⟨field, listed, rfl⟩, present⟩
    · rintro ⟨⟨field, listed, rfl⟩, present⟩
      exact ⟨field, ⟨listed, present⟩, rfl⟩
  rw [read, ← start, readEntries_of_gives restores.gives fun field listed =>
    restores.holdsField remaining listed, Omission.givenAll_also split]

end

end Layout

end Attestation.Toml

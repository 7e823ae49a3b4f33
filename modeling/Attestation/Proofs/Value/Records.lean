import Attestation.Proofs.Text.ByteOrder
import Attestation.Proofs.Value.Writing
import Mathlib.Tactic.TFAE

namespace Attestation.Value

open Json

theorem eq_of_written_eq {write : Document → String}
    (spells : ∀ document : Document, document.toTree.SpelledBy (write document).toList) {a b : Value}
    (same : write a.toDocument = write b.toDocument) : a = b := by
  have spelled := spells a.toDocument
  rw [same] at spelled
  have trees : a.toDocument.toTree = b.toDocument.toTree := spelled.tree_eq (spells b.toDocument)
  have read := ofTree_toTree false 0 a
  rw [trees, ofTree_toTree] at read
  exact (Except.ok.inj read).symm

variable (fields : List (String × String))

theorem ofFields_eq_iff (others : List (String × String)) :
    ofFields fields = ofFields others ↔ ∀ key, Keyed.last? fields key = Keyed.last? others key := by
  rw [ofFields, ofFields, record.injEq, Keyed.ofList_eq_iff]

/-- Each key of some fields once, with the value of its last occurrence, in the order of the code
points of the keys. -/
structure Canonical (entries : List (String × String)) : Prop where
  once : ∀ key, (entries.map Prod.fst).count key = if key ∈ fields.map Prod.fst then 1 else 0
  last : ∀ key value, (key, value) ∈ entries ↔ Keyed.last? fields key = some value
  ascending : entries.Pairwise fun a b => Text.ByCodePoints a.1 b.1

theorem canonical_ofList : Canonical fields (Keyed.ofList fields).entries where
  once := Keyed.count_keys_ofList fields
  last := Keyed.mem_ofList_iff fields
  ascending := (Keyed.ofList fields).ascending.imp Text.byCodePoints_iff_compare.mpr

variable {fields} in
theorem Canonical.unique {entries others : List (String × String)}
    (canonical : Canonical fields entries) (also : Canonical fields others) : entries = others := by
  have first := canonical.ascending.imp Text.byCodePoints_iff_compare.mp
  have second := also.ascending.imp Text.byCodePoints_iff_compare.mp
  apply Keyed.eq_of_mem_iff first second
  intro entry
  rw [canonical.last, also.last]

/-- A record is determined by the last value under each key, and so are its texts. It has only one
way to list its fields, each key once, in the order of code points, which is that of the bytes. -/
theorem records_are_canonical :
    (∃ table, ofFields fields = .record table ∧ Canonical fields table.entries ∧
      (∀ entries, Canonical fields entries → entries = table.entries) ∧
      (ofFields fields).toText =
        "\x7b" ++ ", ".intercalate (table.entries.map fun entry => entry.1 ++ ": " ++ entry.2) ++
          "\x7d") ∧
    (∀ a b, Text.ByCodePoints a b ↔ Text.ByBytes a b) ∧
    ∀ others : List (String × String),
      [∀ key, Keyed.last? fields key = Keyed.last? others key,
        ofFields fields = ofFields others,
        (ofFields fields).toDocument.toText = (ofFields others).toDocument.toText,
        (ofFields fields).toDocument.toIndentedText =
          (ofFields others).toDocument.toIndentedText].TFAE ∧
      ((∀ key, Keyed.last? fields key = Keyed.last? others key) →
        (ofFields fields).toText = (ofFields others).toText) := by
  refine ⟨?_, ?_, ?_⟩
  · have canonical := canonical_ofList fields
    exact ⟨.ofList fields, rfl, canonical, fun _ also => also.unique canonical, rfl⟩
  · intro a b
    exact Text.byCodePoints_iff_byBytes
  · intro others
    have agree := ofFields_eq_iff fields others
    constructor
    · tfae_have 1 ↔ 2 := agree.symm
      tfae_have 2 → 3 := congrArg fun value : Value => value.toDocument.toText
      tfae_have 2 → 4 := congrArg fun value : Value => value.toDocument.toIndentedText
      tfae_have 3 → 2 := eq_of_written_eq Tree.spelledBy_toText
      tfae_have 4 → 2 := eq_of_written_eq Tree.spelledBy_toIndentedText
      tfae_finish
    · intro same
      rw [agree.mpr same]

example :
    (ofFields [("😀", "1"), ("\uffff", "2"), ("é", "3"), ("z", "4"), ("é", "5")]).toText =
      "\x7bz: 4, é: 5, \uffff: 2, 😀: 1\x7d" := by decide

end Attestation.Value

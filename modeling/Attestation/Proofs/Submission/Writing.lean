import Attestation.Proofs.Json.Layout
import Attestation.Proofs.Value.Writing
import Attestation.Submission

namespace Attestation

open Json

theorem Verdict.Kind.readKind_wireName (kind : Kind) :
    readKind (.string (some kind.wireName)) = .ok kind := by
  cases kind <;> rfl

namespace Verdict

theorem failureLayout_read (actual expected : Value) :
    failureLayout.read (Document.object
      [("actual", actual.toDocument), ("expected", expected.toDocument)]).toTree =
        .ok (actual, expected) := by
  have distinct : failureLayout.Distinct := by decide
  refine (Layout.read_written distinct [actual.toDocument, expected.toDocument] rfl).trans ?_
  simp [failureLayout, Layout.readFields, Value.ofTree_toTree, bind, Except.bind, pure, Except.pure]

theorem ofTree_toTree (v : Verdict) {depth : Nat} (room : depth + 3 < Tree.greatestDepth) :
    ofTree depth v.toDocument.toTree = .ok v := by
  have levels : 1 < Tree.greatestDepth - (depth + 1) := by omega
  cases v with
  | pass =>
    have kind := Kind.pass.readKind_wireName
    simp [toDocument, Document.toTree, Document.toMembers_eq, ofTree, takeKind, kind, bind,
      Except.bind, pure, Except.pure]
  | fail actual expected =>
    have kind := Kind.fail.readKind_wireName
    have actualKept := actual.isKeepable_toTree levels
    have expectedKept := expected.isKeepable_toTree levels
    have read := failureLayout_read actual expected
    rw [Document.toTree, Document.toMembers_eq] at read
    simp only [List.map_cons, List.map_nil] at read
    have actualOther : ("actual" == tagName) = false := by decide
    have expectedOther : ("expected" == tagName) = false := by decide
    simp [toDocument, Document.toTree, Document.toMembers_eq, ofTree, takeKind, kind, actualKept,
      expectedKept, actualOther, expectedOther, read, bind, Except.bind, pure, Except.pure]

end Verdict

theorem Binding.read_toTree (b : Binding) : layout.read b.toDocument.toTree = .ok b := by
  have distinct : layout.Distinct := by decide
  refine (Layout.read_written distinct [.string b.userIdentifier, .string b.nullifier] rfl).trans ?_
  simp [layout, Layout.readFields, Tree.readString_toTree, bind, Except.bind, pure, Except.pure]

namespace Disclosed

theorem readText_toTree (text : Option String) : readText (textDocument text).toTree = .ok text :=
  Tree.readOption_ofOption Tree.readString_toTree rfl text

theorem readDate_toTree (day : Option Date) :
    Tree.readOption Value.readDate (Document.ofOption (fun day => .string day.toText) day).toTree =
      .ok day :=
  Tree.readOption_ofOption Value.readDate_toTree rfl day

theorem readAge_toTree (age : Option UInt32) :
    Tree.readOption readAge (ageDocument age).toTree = .ok age := by
  have read : ∀ n : UInt32, readAge (Document.integer n.toNat).toTree = .ok n := by
    intro n
    have small : n.toNat < 2 ^ 32 := n.toNat_lt
    have inside : 0 ≤ (n.toNat : Int) ∧ (n.toNat : Int) ≤ greatestAge := by
      have greatest : greatestAge = 2 ^ 32 - 1 := by decide
      omega
    have unsigned : Numeral.unsignedLimit = 2 ^ 64 := rfl
    rw [readAge, Tree.readInteger_toTree inside (by omega) (by omega)]
    exact congrArg Except.ok n.ofNat_toNat
  exact Tree.readOption_ofOption read rfl age

theorem readCountries_toTree (countries : Option (List String)) :
    Tree.readOption (Tree.readList Tree.readString)
      (Document.ofOption .strings countries).toTree = .ok countries :=
  Tree.readOption_ofOption Tree.readList_strings rfl countries

theorem read_toTree (d : Disclosed) : layout.read d.toDocument.toTree = .ok d := by
  have distinct : layout.Distinct := by decide
  let documents : List Document :=
    [textDocument d.scope, textDocument d.attestationId,
      .ofOption (fun day => .string day.toText) d.currentDate, textDocument d.issuingState,
      textDocument d.name, textDocument d.passportNumber, textDocument d.nationality,
      textDocument d.dateOfBirth, textDocument d.gender, textDocument d.expiryDate,
      ageDocument d.olderThan, textDocument d.ownerOf, .ofOption .strings d.forbiddenCountries]
  refine (Layout.read_written distinct documents rfl).trans ?_
  simp [documents, layout, Layout.readFields, readText_toTree, readDate_toTree, readAge_toTree,
    readCountries_toTree, bind, Except.bind, pure, Except.pure]

end Disclosed

namespace Submission

def verdictsDocument (entries : List (Check × Verdict)) : Document :=
  .object (entries.map fun entry => (entry.1.wireName, entry.2.toDocument))

theorem readVerdicts_toTree (entries : List (Check × Verdict)) :
    readVerdicts (verdictsDocument entries).toTree = .ok (.ofList entries) := by
  have key : ∀ c : Check, Tree.readName Check.all Check.wireName c.wireName = .ok c :=
    fun c => Tree.readName_eq_ok c.mem_all fun _ _ => Check.wireName_injective
  have verdict : ∀ entry ∈ entries,
      Verdict.ofTree verdictDepth entry.2.toDocument.toTree = .ok entry.2 :=
    fun entry _ => entry.2.ofTree_toTree (by decide)
  rw [readVerdicts, verdictsDocument, Tree.readEntries_object key verdict]
  rfl

variable (s : Submission)

theorem readIdentity_toTree :
    Tree.readOption Binding.layout.read (Document.ofOption Binding.toDocument s.identity).toTree =
      .ok s.identity :=
  Tree.readOption_ofOption Binding.read_toTree rfl s.identity

theorem read_toTree : layout.read s.toDocument.toTree = .ok s := by
  have distinct : layout.Distinct := by decide
  let documents : List Document :=
    [verdictsDocument s.verdicts.entries, s.disclosed.toDocument,
      .ofOption Binding.toDocument s.identity]
  refine (Layout.read_written distinct documents rfl).trans ?_
  simp [documents, layout, Layout.readFields, readVerdicts_toTree, Keyed.ofList_entries,
    Disclosed.read_toTree, readIdentity_toTree, bind, Except.bind, pure, Except.pure]

/-- A written submission is read back as it was. -/
theorem written_text_read_back :
    ofText s.toText = .ok s ∧ ofText s.toDocument.toIndentedText = .ok s := by
  have compact := Tree.spelledBy_toText s.toDocument
  have indented := Tree.spelledBy_toIndentedText s.toDocument
  constructor
  · exact Tree.readText_eq_ok_iff.mpr ⟨_, compact, s.read_toTree⟩
  · exact Tree.readText_eq_ok_iff.mpr ⟨_, indented, s.read_toTree⟩

end Submission

end Attestation

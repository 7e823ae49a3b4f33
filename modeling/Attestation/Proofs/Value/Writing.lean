import Attestation.Proofs.Date.Text
import Attestation.Proofs.Json.Reading
import Attestation.Proofs.Keyed
import Attestation.Verdict

namespace Attestation

open Json

namespace Value

def kind : Value → Kind
  | .empty => .empty
  | .text _ => .text
  | .integer _ => .integer
  | .boolean _ => .boolean
  | .date _ => .date
  | .list _ => .list
  | .record _ => .record

def contents : Value → List Document
  | .empty => []
  | .text content => [.string content]
  | .integer number => [.integer number.toInt]
  | .boolean flag => [.boolean flag]
  | .date day => [.string day.toText]
  | .list items => [.strings items]
  | .record fields => [fieldsDocument fields]

theorem toDocument_eq (v : Value) :
    v.toDocument = toDocument.tagged v.kind (v.contents.map fun content => ("value", content)) := by
  cases v <;> rfl

theorem contents_ne_nil {v : Value} (filled : v ≠ .empty) : ∃ content, v.contents = [content] := by
  cases v with
  | empty => exact absurd rfl filled
  | _ => exact ⟨_, rfl⟩

theorem Kind.mem_all (kind : Kind) : kind ∈ Kind.all := by cases kind <;> decide

theorem Kind.wireName_injective {a b : Kind} (same : a.wireName = b.wireName) : a = b := by
  cases a <;> cases b <;> first | rfl | simp [wireName] at same

theorem Kind.readName_wireName (kind : Kind) :
    Tree.readName Kind.all Kind.wireName kind.wireName = .ok kind :=
  Tree.readName_eq_ok kind.mem_all fun _ _ => wireName_injective

theorem Kind.read_string (held : Bool) (kind : Kind) :
    Kind.read held (.string (some kind.wireName)) = .ok kind := by
  cases held
  · exact kind.readName_wireName
  · exact kind.readName_wireName

theorem toInt_bounds (number : Int64) :
    -(Numeral.signedLimit : Int) ≤ number.toInt ∧ number.toInt < Numeral.unsignedLimit := by
  have low : -2 ^ 63 ≤ number.toInt := number.le_toInt
  have high : number.toInt < 2 ^ 63 := number.toInt_lt
  have signed : Numeral.signedLimit = 2 ^ 63 := rfl
  have unsigned : Numeral.unsignedLimit = 2 ^ 64 := rfl
  omega

theorem readInteger_toInt (number : Int64) :
    (Document.integer number.toInt).toTree.readInteger leastInteger greatestInteger =
      .ok number.toInt := by
  have low : -2 ^ 63 ≤ number.toInt := number.le_toInt
  have high : number.toInt < 2 ^ 63 := number.toInt_lt
  have inside : leastInteger ≤ number.toInt ∧ number.toInt ≤ greatestInteger := by
    have least : leastInteger = -2 ^ 63 := by decide
    have greatest : greatestInteger = 2 ^ 63 - 1 := by decide
    omega
  exact Tree.readInteger_toTree inside (toInt_bounds number).1 (toInt_bounds number).2

theorem readDate_toTree (day : Date) : readDate (Document.string day.toText).toTree = .ok day := by
  simp only [readDate, Tree.readString_toTree, bind, Except.bind, Date.ofText?_toText]
  rfl

theorem readEntries_fields (fields : Keyed String String) :
    (fieldsDocument fields).toTree.readEntries pure Tree.readString = .ok fields.entries := by
  have key : ∀ name : String, (pure (id name) : Read String) = .ok name := fun _ => rfl
  exact Tree.readEntries_object key fun entry _ => Tree.readString_toTree entry.2

theorem readContent_toTree {v : Value} {content : Document} (written : content ∈ v.contents) :
    readContent v.kind content.toTree = .ok v := by
  cases v with
  | empty => cases written
  | text text =>
    obtain rfl := List.mem_singleton.mp written
    rw [kind, readContent, Tree.readString_toTree]
    rfl
  | integer number =>
    obtain rfl := List.mem_singleton.mp written
    rw [kind, readContent, readInteger_toInt]
    exact congrArg (fun n => Except.ok (integer n)) number.ofInt_toInt
  | boolean flag =>
    obtain rfl := List.mem_singleton.mp written
    rw [kind, readContent, Tree.readBoolean_toTree]
    rfl
  | date day =>
    obtain rfl := List.mem_singleton.mp written
    rw [kind, readContent, readDate_toTree]
    rfl
  | list items =>
    obtain rfl := List.mem_singleton.mp written
    rw [kind, readContent, Tree.readList_strings]
    rfl
  | record fields =>
    obtain rfl := List.mem_singleton.mp written
    rw [kind, readContent, readEntries_fields]
    exact congrArg (fun table => Except.ok (record table)) fields.ofList_entries

theorem ofTree_toTree (held : Bool) (depth : Nat) (v : Value) :
    ofTree held depth v.toDocument.toTree = .ok v := by
  have kindPart : Part.ofName? "type" = some .kind := by decide
  have contentPart : Part.ofName? "value" = some .content := by decide
  rw [toDocument_eq, toDocument.tagged, Document.toTree, Document.toMembers_eq, ofTree]
  by_cases filled : v = .empty
  · subst filled
    simp [readMembers, nextPart, kindPart, Document.toTree, Kind.read_string, kind, contents, bind,
      Except.bind, pure, Except.pure]
  · obtain ⟨content, beside⟩ := contents_ne_nil filled
    have read : readContent v.kind content.toTree = .ok v :=
      readContent_toTree (beside ▸ List.mem_singleton_self content)
    simp [readMembers, nextPart, kindPart, contentPart, Document.toTree, Kind.read_string, beside,
      read, rejectRepeated, bind, Except.bind, pure, Except.pure]

theorem areKeepable_strings (levels : Nat) (items : List String) :
    Tree.areKeepable levels (items.map fun item => .string (some item)) = true := by
  induction items with
  | nil => rw [List.map_nil, Tree.areKeepable]
  | cons item rest ih => simp [Tree.areKeepable, Tree.isKeepable, ih]

theorem haveKeepable_strings (levels : Nat) (entries : List (String × String)) :
    Tree.haveKeepable levels
      (entries.map fun entry => (some entry.1, .string (some entry.2))) = true := by
  induction entries with
  | nil => rw [List.map_nil, Tree.haveKeepable]
  | cons entry rest ih => simp [Tree.haveKeepable, Tree.isKeepable, ih]

theorem isKeepable_contents {v : Value} {content : Document} (written : content ∈ v.contents)
    {levels : Nat} (room : 0 < levels) : content.toTree.isKeepable levels = true := by
  cases v with
  | empty => cases written
  | text | boolean | date =>
    obtain rfl := List.mem_singleton.mp written
    simp [Document.toTree, Tree.isKeepable]
  | integer number =>
    obtain rfl := List.mem_singleton.mp written
    have whole : (Numeral.ofInt number.toInt).integer? = some number.toInt :=
      Numeral.integer?_ofInt (toInt_bounds number).1 (toInt_bounds number).2
    simp [Document.toTree, Tree.isKeepable, Numeral.quantity?, whole]
  | list items =>
    obtain rfl := List.mem_singleton.mp written
    simp [Document.strings, Document.toTree, Tree.isKeepable, Tree.toTrees_strings, room,
      areKeepable_strings]
  | record fields =>
    obtain rfl := List.mem_singleton.mp written
    simp [fieldsDocument, Document.toTree, Document.toMembers_eq, Tree.isKeepable, room,
      haveKeepable_strings, Function.comp_def]

theorem isKeepable_toTree (v : Value) {levels : Nat} (room : 1 < levels) :
    v.toDocument.toTree.isKeepable levels = true := by
  have outer : 0 < levels := by omega
  have inner : 0 < levels - 1 := by omega
  rw [toDocument_eq, toDocument.tagged, Document.toTree, Document.toMembers_eq]
  by_cases filled : v = .empty
  · subst filled
    simp [contents, Document.toTree, Tree.isKeepable, Tree.haveKeepable, outer]
  · obtain ⟨content, beside⟩ := contents_ne_nil filled
    have kept : content.toTree.isKeepable (levels - 1) = true :=
      isKeepable_contents (beside ▸ List.mem_singleton_self content) inner
    simp [beside, Document.toTree, Tree.isKeepable, Tree.haveKeepable, outer, kept]

end Value

end Attestation

import Attestation.Json.Reading
import Attestation.Proofs.Json.Printing

namespace Attestation.Json

theorem Numeral.integer?_ofInt {n : Int} (least : -(signedLimit : Int) ≤ n)
    (greatest : n < unsignedLimit) : (Numeral.ofInt n).integer? = some n := by
  have whole : (Numeral.ofInt n).isWhole = true := rfl
  have number : Text.number (Numeral.ofInt n).whole = n.natAbs := Text.number_numeral _
  have sign : (Numeral.ofInt n).negative = decide (n < 0) := rfl
  simp only [integer?, whole, number, sign, Bool.not_true, Bool.false_eq_true, if_false]
  by_cases negative : n < 0
  · have bounds : (decide (0 < n.natAbs) && decide (n.natAbs ≤ signedLimit)) = true := by
      rw [Bool.and_eq_true, decide_eq_true_eq, decide_eq_true_eq]
      omega
    have value : -(n.natAbs : Int) = n := by omega
    rw [decide_eq_true negative, if_pos rfl, if_pos bounds, value]
  · have bound : n.natAbs < unsignedLimit := by omega
    have value : (n.natAbs : Int) = n := by omega
    rw [decide_eq_false negative, if_neg Bool.false_ne_true, if_pos bound, value]

namespace Tree

open Document

/-- A text is read as a value exactly when it spells a tree that is read as this value. -/
theorem readText_eq_ok_iff {α : Type} {read : Tree → Read α} {text : String} {a : α} :
    readText read text = .ok a ↔ ∃ tree, tree.SpelledBy text.toList ∧ read tree = .ok a := by
  cases given : ofText text with
  | mk tree alone =>
    rw [readText, given]
    constructor
    · intro done
      obtain ⟨value, found, ended⟩ := (bind_eq_ok_iff _ _ _).mp done
      cases alone with
      | false => cases ended
      | true =>
        cases ended
        exact ⟨tree, (ofText_eq_iff text tree).mp given, found⟩
    · rintro ⟨other, spelled, found⟩
      have whole := (ofText_eq_iff text other).mpr spelled
      rw [given] at whole
      cases whole
      exact (bind_eq_ok_iff _ _ _).mpr ⟨a, found, rfl⟩

theorem readString_toTree (content : String) :
    (Document.string content).toTree.readString = .ok content := by
  rw [toTree]
  rfl

theorem readBoolean_toTree (flag : Bool) :
    (Document.boolean flag).toTree.readBoolean = .ok flag := by
  rw [toTree]
  rfl

theorem readInteger_toTree {least greatest n : Int} (inside : least ≤ n ∧ n ≤ greatest)
    (low : -(Numeral.signedLimit : Int) ≤ n) (high : n < Numeral.unsignedLimit) :
    (Document.integer n).toTree.readInteger least greatest = .ok n := by
  rw [toTree]
  simp only [readInteger, Numeral.integer?_ofInt low high, if_pos inside]
  rfl

theorem readOption_ofOption {α : Type} {read : Tree → Read α} {write : α → Document} {fault : Fault}
    (reads : ∀ a, read (write a).toTree = .ok a) (refuses : read .null = .error fault)
    (value : Option α) : readOption read (Document.ofOption write value).toTree = .ok value := by
  cases value with
  | none =>
    rw [Document.ofOption, toTree]
    rfl
  | some a =>
    have known := reads a
    rw [Document.ofOption]
    -- A null would be taken for an absent value, but no value is written as null.
    cases shape : (write a).toTree with
    | null =>
      rw [shape, refuses] at known
      cases known
    | _ =>
      rw [shape] at known
      simp only [readOption, known]
      rfl

theorem readName_eq_ok {α : Type} {known : List α} {nameOf : α → String} {a : α}
    (member : a ∈ known) (injective : ∀ b ∈ known, nameOf b = nameOf a → b = a) :
    readName known nameOf (nameOf a) = .ok a := by
  have found : known.find? (fun b => nameOf b == nameOf a) = some a := by
    cases look : known.find? (fun b => nameOf b == nameOf a) with
    | none =>
      have absent := List.find?_eq_none.mp look a member
      simp at absent
    | some b =>
      have same : nameOf b = nameOf a := by simpa using List.find?_some look
      rw [injective b (List.mem_of_find?_eq_some look) same]
  simp only [readName, found]
  rfl

theorem nameOf_of_readName {α : Type} {known : List α} {nameOf : α → String} {name : String}
    {a : α} (read : readName known nameOf name = .ok a) : nameOf a = name := by
  rw [readName] at read
  split at read
  · rename_i b found
    cases read
    simpa using List.find?_some found
  · cases read

theorem mapM_eq_ok {α β : Type} {read : α → Read β} {value : α → β} {items : List α}
    (reads : ∀ item ∈ items, read item = .ok (value item)) :
    items.mapM read = .ok (items.map value) := by
  induction items with
  | nil => rfl
  | cons item rest ih =>
    obtain ⟨first, others⟩ := List.forall_mem_cons.mp reads
    rw [List.mapM_cons, first, ih others]
    rfl

theorem exists_of_mem_mapM {α β : Type} {read : α → Read β} {items : List α} {values : List β}
    (done : items.mapM read = .ok values) {value : β} (member : value ∈ values) :
    ∃ item ∈ items, read item = .ok value := by
  induction items generalizing values with
  | nil =>
    cases done
    cases member
  | cons item rest ih =>
    rw [List.mapM_cons, bind_eq_ok_iff] at done
    obtain ⟨first, here, done⟩ := done
    obtain ⟨others, later, same⟩ := (bind_eq_ok_iff _ _ _).mp done
    cases same
    obtain rfl | inside := List.mem_cons.mp member
    · exact ⟨item, List.mem_cons_self .., here⟩
    · obtain ⟨other, listed, found⟩ := ih later inside
      exact ⟨other, List.mem_cons_of_mem item listed, found⟩

theorem exists_split_mapM {α β : Type} {read : α → Read β} {before after : List α} {item : α}
    {values : List β} (done : (before ++ item :: after).mapM read = .ok values) :
    ∃ earlier value later, values = earlier ++ value :: later ∧ read item = .ok value ∧
      after.mapM read = .ok later := by
  rw [List.mapM_append, bind_eq_ok_iff] at done
  obtain ⟨earlier, -, done⟩ := done
  rw [List.mapM_cons, bind_eq_ok_iff] at done
  obtain ⟨rest, tail, joined⟩ := done
  obtain ⟨value, here, tail⟩ := (bind_eq_ok_iff _ _ _).mp tail
  obtain ⟨later, behind, same⟩ := (bind_eq_ok_iff _ _ _).mp tail
  cases same
  cases joined
  exact ⟨earlier, value, later, rfl, here, behind⟩

theorem toTrees_strings (items : List String) :
    toTrees (items.map .string) = items.map fun item => .string (some item) := by
  induction items with
  | nil => rw [List.map_nil, toTrees, List.map_nil]
  | cons item rest ih => rw [List.map_cons, toTrees, ih, List.map_cons, toTree]

theorem readList_strings (items : List String) :
    (Document.strings items).toTree.readList readString = .ok items := by
  have read : ∀ item ∈ items, (readString ∘ fun item => .string (some item)) item = .ok (id item) :=
    fun item _ => rfl
  rw [Document.strings, toTree, readList, toTrees_strings, List.mapM_map, mapM_eq_ok read,
    List.map_id]

theorem readEntries_object {κ ν : Type} {readKey : String → Read κ} {read : Tree → Read ν}
    {name : κ → String} {write : ν → Document} (readsKey : ∀ key, readKey (name key) = .ok key)
    {entries : List (κ × ν)}
    (reads : ∀ entry ∈ entries, read (write entry.2).toTree = .ok entry.2) :
    (Document.object (entries.map fun entry => (name entry.1, write entry.2))).toTree.readEntries
      readKey read = .ok entries := by
  have each : ∀ entry ∈ entries, (do
      let key ← readKey (name entry.1)
      return (key, ← read (write entry.2).toTree)) = Except.ok (ε := Fault) (id entry) := by
    intro entry member
    rw [readsKey, reads entry member]
    rfl
  rw [toTree, toMembers_eq, List.map_map, readEntries, List.mapM_map]
  exact (mapM_eq_ok each).trans (by rw [List.map_id])

def Reads {κ ν : Type} (readKey : String → Read κ) (read : Tree → Read ν) (m : Member)
    (entry : κ × ν) : Prop :=
  ∃ name, m.1 = some name ∧ readKey name = .ok entry.1 ∧ read m.2 = .ok entry.2

theorem exists_split_readEntries {κ ν : Type} {readKey : String → Read κ} {read : Tree → Read ν}
    {before after : List Member} {m : Member} {entries : List (κ × ν)}
    (done : (Tree.object (before ++ m :: after)).readEntries readKey read = .ok entries) :
    ∃ earlier entry later, entries = earlier ++ entry :: later ∧ Reads readKey read m entry ∧
      ∀ other ∈ later, ∃ m ∈ after, Reads readKey read m other := by
  have reads {m : Member} {entry : κ × ν} (found : (match m with
      | (some name, value) => do
        let key ← readKey name
        return (key, ← read value)
      | (none, _) => throw Fault.malformed) = Except.ok entry) : Reads readKey read m entry := by
    obtain ⟨name, value⟩ := m
    cases name with
    | none => cases found
    | some name =>
      obtain ⟨key, named, found⟩ := (bind_eq_ok_iff _ _ _).mp found
      obtain ⟨content, valued, same⟩ := (bind_eq_ok_iff _ _ _).mp found
      cases same
      exact ⟨name, rfl, named, valued⟩
  rw [readEntries] at done
  obtain ⟨earlier, entry, later, split, here, rest⟩ := exists_split_mapM done
  refine ⟨earlier, entry, later, split, reads here, ?_⟩
  intro other member
  obtain ⟨m, inside, found⟩ := exists_of_mem_mapM rest member
  exact ⟨m, inside, reads found⟩

end Tree

end Attestation.Json

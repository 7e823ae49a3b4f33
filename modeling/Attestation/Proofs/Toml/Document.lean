import Attestation.Proofs.Toml.Values

namespace Attestation.Toml

/-! Keys -/

def IsBareKey (name : String) : Prop :=
  name.toList ≠ [] ∧ name.toList.all isBareKeyChar = true

instance (name : String) : Decidable (IsBareKey name) := inferInstanceAs (Decidable (_ ∧ _))

theorem solid_of_isBareKeyChar {c : Char} (bare : isBareKeyChar c = true) : Solid c := by
  intro member
  simp only [List.mem_cons, List.not_mem_nil, or_false] at member
  rcases member with rfl | rfl | rfl | rfl | rfl
  all_goals cases bare

theorem IsBareKey.exists_head {name : String} (bare : IsBareKey name) :
    ∃ c rest, name.toList = c :: rest ∧ isBareKeyChar c = true := by
  obtain ⟨some', all⟩ := bare
  cases shape : name.toList with
  | nil => exact absurd shape some'
  | cons c rest =>
    rw [shape, List.all_cons, Bool.and_eq_true] at all
    exact ⟨c, rest, rfl, all.1⟩

theorem IsBareKey.append_ne {name : String} (bare : IsBareKey name) {c : Char}
    (other : isBareKeyChar c = false) (rest more : List Char) :
    name.toList ++ rest ≠ c :: more := by
  obtain ⟨first, inner, shape, known⟩ := bare.exists_head
  rw [shape]
  intro same
  rw [(List.cons.inj same).1, other] at known
  cases known

section

variable {name : String} (bare : IsBareKey name) {c : Char} (closed : isBareKeyChar c = false)

include bare closed

theorem simpleKey_bare (rest : List Char) :
    simpleKey (name.toList ++ c :: rest) = some (name, c :: rest) := by
  have all := List.all_eq_true.mp bare.2
  have taken : (name.toList ++ c :: rest).takeWhile isBareKeyChar = name.toList := by
    rw [List.takeWhile_append_of_pos all, List.takeWhile_cons_of_neg, List.append_nil]
    rw [closed]
    exact Bool.false_ne_true
  have left : (name.toList ++ c :: rest).dropWhile isBareKeyChar = c :: rest := by
    rw [List.dropWhile_append_of_pos all, List.dropWhile_cons_of_neg]
    rw [closed]
    exact Bool.false_ne_true
  have some' : name.toList.isEmpty = false := by simpa using bare.1
  rw [simpleKey.eq_3, taken, left, some', String.ofList_toList]
  · rfl
  · exact fun more => bare.append_ne (by decide) _ more
  · exact fun more => bare.append_ne (by decide) _ more

theorem key_bare {d : Char} {more rest : List Char} (shown : skipBlanks (c :: more) = d :: rest)
    (last : d ≠ '.') : key (name.toList ++ c :: more) = some (([], name), d :: rest) := by
  have front : skipBlanks (name.toList ++ c :: more) = name.toList ++ c :: more := by
    obtain ⟨first, inner, shape, known⟩ := bare.exists_head
    rw [shape]
    exact skipBlanks_of_solid (solid_of_isBareKeyChar known) _
  have long : (name.toList ++ c :: more).length = (name.toList ++ more).length + 1 := by
    simp [Nat.add_assoc]
  have parts : keyParts (name.toList ++ c :: more).length (name.toList ++ c :: more) =
      some ([name], d :: rest) := by
    rw [long, keyParts.eq_2, front, simpleKey_bare bare closed]
    simp only [Option.bind_eq_bind, Option.bind_some, shown]
    split
    · rename_i same
      exact absurd (List.cons.inj same).1 last
    · rfl
  rw [key, parts]
  rfl

end

/-! Tables -/

namespace Entries

theorem get?_eq_none {entries : Entries} {key : String} (absent : key ∉ entries.map (·.1)) :
    entries.get? key = none := by
  rw [get?, Option.map_eq_none_iff, List.find?_eq_none]
  intro entry member same
  exact absent (eq_of_beq same ▸ List.mem_map_of_mem member)

end Entries

namespace Draft

theorem addEntry_of_absent {draft : Draft} {key : String} (absent : draft.current.get? key = none)
    (value : Tree) :
    draft.addEntry [] key value =
      some { draft with current := draft.current ++ [(key, value)] } := by
  simp [addEntry, Entries.addDotted, Entries.modifyAt, absent, Origin.isDotted]

theorem openTable_of_absent {draft : Draft} {root : Entries} (closed : draft.close = some root)
    {key : String} (absent : root.get? key = none) :
    draft.openTable [] key = some ⟨root, [key], false, []⟩ := by
  simp [openTable, closed, openTable.lookup, absent]

theorem close_of_absent {root : Entries} {key : String} (absent : root.get? key = none)
    (current : Entries) :
    (⟨root, [key], false, current⟩ : Draft).close =
      some (root ++ [(key, .table .header current)]) := by
  simp [close, Entries.modifyAt, absent]

end Draft

/-! Expressions -/

theorem entry_written {name : String} (bare : IsBareKey name) {item : Item} (fits : item.Fits)
    (rest : List Char) :
    entry (value (nestingLimit - 1)) (Section.writtenEntry (name, item) ++ rest) =
      some (([], name, item.toTree), '\n' :: rest) := by
  have text : Section.writtenEntry (name, item) ++ rest =
      name.toList ++ ' ' :: '=' :: ' ' :: (item.written ++ '\n' :: rest) := by
    simp [Section.writtenEntry]
  have named : key (name.toList ++ ' ' :: '=' :: ' ' :: (item.written ++ '\n' :: rest)) =
      some (([], name), '=' :: ' ' :: (item.written ++ '\n' :: rest)) :=
    key_bare bare (by decide) rfl (by decide)
  have front : skipBlanks (' ' :: (item.written ++ '\n' :: rest)) =
      item.written ++ '\n' :: rest := by
    obtain ⟨c, inner, shape, solid⟩ := exists_solid_written item
    rw [shape]
    exact skipBlanks_of_solid solid _
  have read : value (nestingLimit - 1) (item.written ++ '\n' :: rest) =
      some (item.toTree, '\n' :: rest) := value_written _ fits rest
  rw [text, entry, named]
  simp only [Option.bind_eq_bind, Option.bind_some, expect, beq_self_eq_true, if_true, front, read]
  rfl

theorem expression_writtenEntry {draft : Draft} {name : String} (bare : IsBareKey name)
    {item : Item} (fits : item.Fits) (absent : draft.current.get? name = none)
    (rest : List Char) :
    expression draft (Section.writtenEntry (name, item) ++ rest) =
      some ({ draft with current := draft.current ++ [(name, item.toTree)] }, rest) := by
  have other : ∀ more, Section.writtenEntry (name, item) ++ rest ≠ '[' :: more := by
    intro more
    rw [Section.writtenEntry]
    simp only [List.append_assoc]
    exact bare.append_ne (by decide) _ more
  rw [expression.eq_3, entry_written bare fits]
  · simp only [Option.bind_eq_bind, Option.bind_some, draft.addEntry_of_absent absent]
    rfl
  · exact fun more => other _
  · exact other

theorem expression_header {draft : Draft} {root : Entries} (closed : draft.close = some root)
    {name : String} (bare : IsBareKey name) (absent : root.get? name = none) (rest : List Char) :
    expression draft ('[' :: (name.toList ++ ']' :: '\n' :: rest)) =
      some (⟨root, [name], false, []⟩, rest) := by
  have named : key (name.toList ++ ']' :: '\n' :: rest) =
      some (([], name), ']' :: '\n' :: rest) :=
    key_bare bare (by decide) rfl (by decide)
  rw [expression.eq_2, named]
  · simp only [Option.bind_eq_bind, Option.bind_some, expect, beq_self_eq_true, if_true,
      Draft.openTable_of_absent closed absent]
    rfl
  · exact bare.append_ne (by decide) _

/-! Line after line -/

theorem lines_of_solid {c : Char} (solid : Solid c) (fuel : Nat) (draft : Draft)
    (rest : List Char) :
    lines (fuel + 1) draft (c :: rest) =
      (expression draft (c :: rest)).bind fun found => lines fuel found.1 found.2 := by
  have apart : ∀ d ∈ [' ', '\t', '#', '\n', '\r'], ∀ more, c :: rest ≠ d :: more := by
    intro d member more same
    exact solid ((List.cons.inj same).1 ▸ member)
  rw [lines, skipBlanks_of_solid solid]
  split
  · rename_i same
    cases same
  · split
    · rename_i same
      exact absurd same (apart '#' (by decide) _)
    · rename_i same
      exact absurd same (apart '\n' (by decide) _)
    · rename_i same
      exact absurd same (apart '\r' (by decide) _)
    · rfl

/-- With fuel for a text, its lines lead from one draft to another, and enough fuel for the rest of
the text is left. -/
def Reaches (draft : Draft) (text : List Char) (next : Draft) (rest : List Char) : Prop :=
  ∀ fuel, text.length ≤ fuel →
    ∃ less, rest.length ≤ less ∧ lines fuel draft text = lines less next rest

namespace Reaches

theorem refl (draft : Draft) (text : List Char) : Reaches draft text draft text :=
  fun fuel enough => ⟨fuel, enough, rfl⟩

variable {draft next last : Draft} {text rest after : List Char}

theorem trans (first : Reaches draft text next rest) (second : Reaches next rest last after) :
    Reaches draft text last after := by
  intro fuel enough
  obtain ⟨less, left, same⟩ := first fuel enough
  obtain ⟨least, leftover, also⟩ := second less left
  exact ⟨least, leftover, same.trans also⟩

theorem of_expression {line : List Char} {c : Char} {inner : List Char} (shape : line = c :: inner)
    (solid : Solid c) (read : expression draft (line ++ rest) = some (next, rest)) :
    Reaches draft (line ++ rest) next rest := by
  intro fuel enough
  rw [shape, List.cons_append] at enough
  obtain ⟨less, rfl⟩ : ∃ less, fuel = less + 1 :=
    ⟨fuel - 1, by rw [List.length_cons] at enough; omega⟩
  refine ⟨less, ?_, ?_⟩
  · rw [List.length_cons, List.length_append] at enough
    omega
  · rw [shape, List.cons_append] at read ⊢
    rw [lines_of_solid solid, read]
    rfl

theorem blank (draft : Draft) (rest : List Char) : Reaches draft ('\n' :: rest) draft rest := by
  intro fuel enough
  obtain ⟨less, rfl⟩ : ∃ less, fuel = less + 1 :=
    ⟨fuel - 1, by rw [List.length_cons] at enough; omega⟩
  exact ⟨less, Nat.le_of_succ_le_succ enough, rfl⟩

theorem lines_eq (reaches : Reaches draft text next []) :
    lines text.length draft text = some next := by
  obtain ⟨less, -, same⟩ := reaches text.length (Nat.le_refl _)
  rw [same]
  cases less <;> rfl

end Reaches

def treesOf (entries : List (String × Item)) : Entries :=
  entries.map fun entry => (entry.1, entry.2.toTree)

theorem keys_treesOf (entries : List (String × Item)) :
    (treesOf entries).map (·.1) = entries.map (·.1) := by
  rw [treesOf, List.map_map]
  rfl

structure Section.Regular (part : Section) : Prop where
  named : IsBareKey part.name
  keyed : ∀ entry ∈ part.entries, IsBareKey entry.1 ∧ entry.2.Fits
  once : (part.entries.map (·.1)).Nodup

theorem reaches_entries {entries : List (String × Item)}
    (keyed : ∀ entry ∈ entries, IsBareKey entry.1 ∧ entry.2.Fits) {draft : Draft}
    (once : (draft.current.map (·.1) ++ entries.map (·.1)).Nodup) (rest : List Char) :
    Reaches draft (entries.flatMap Section.writtenEntry ++ rest)
      { draft with current := draft.current ++ treesOf entries } rest := by
  induction entries generalizing draft with
  | nil =>
    rw [treesOf, List.map_nil, List.append_nil]
    exact .refl draft rest
  | cons entry entries ih =>
    obtain ⟨name, item⟩ := entry
    obtain ⟨⟨bare, fits⟩, others⟩ := List.forall_mem_cons.mp keyed
    obtain ⟨c, inner, shape, known⟩ := bare.exists_head
    have absent : draft.current.get? name = none := by
      apply Entries.get?_eq_none
      intro member
      exact (List.nodup_append.mp once).2.2 name member name (List.mem_cons_self ..) rfl
    have line : Section.writtenEntry (name, item) =
        c :: (inner ++ [' ', '=', ' '] ++ item.written ++ ['\n']) := by
      simp [Section.writtenEntry, shape]
    let next : Draft := { draft with current := draft.current ++ [(name, item.toTree)] }
    have step := Reaches.of_expression line (solid_of_isBareKeyChar known)
      (expression_writtenEntry bare fits absent (entries.flatMap Section.writtenEntry ++ rest))
    have distinct : (next.current.map (·.1) ++ entries.map (·.1)).Nodup := by
      simpa [next] using once
    have later := ih others distinct
    rw [List.flatMap_cons, List.append_assoc]
    apply step.trans
    simpa [next, treesOf] using later

theorem reaches_section {part : Section} (regular : part.Regular) {draft : Draft} {root : Entries}
    (closed : draft.close = some root) (absent : root.get? part.name = none) (rest : List Char) :
    Reaches draft (part.written ++ rest)
      ⟨root, [part.name], false, treesOf part.entries⟩ rest := by
  have bracket : Solid '[' := by decide
  let header := '[' :: (part.name.toList ++ [']', '\n'])
  let opened : Draft := ⟨root, [part.name], false, []⟩
  let body := part.entries.flatMap Section.writtenEntry ++ rest
  have text : part.written ++ rest = header ++ body := by simp [Section.written, header, body]
  have read : expression draft (header ++ body) = some (opened, body) := by
    have step := expression_header closed regular.named absent body
    simpa [header] using step
  have once : (opened.current.map (·.1) ++ part.entries.map (·.1)).Nodup := regular.once
  rw [text]
  exact (Reaches.of_expression rfl bracket read).trans (reaches_entries regular.keyed once rest)

theorem exists_reaches_sections {parts : List Section} (regular : ∀ part ∈ parts, part.Regular)
    {draft : Draft} {root : Entries} (closed : draft.close = some root)
    (once : (root.map (·.1) ++ parts.map (·.name)).Nodup) :
    ∃ last, Reaches draft (['\n'].intercalate (parts.map Section.written)) last [] ∧
      last.close = some (root ++ parts.map fun part => (part.name, part.toTree)) := by
  induction parts generalizing draft root with
  | nil => exact ⟨draft, .refl draft [], by simpa using closed⟩
  | cons part parts ih =>
    obtain ⟨first, others⟩ := List.forall_mem_cons.mp regular
    have absent : root.get? part.name = none := by
      apply Entries.get?_eq_none
      intro member
      exact (List.nodup_append.mp once).2.2 _ member _ (List.mem_cons_self ..) rfl
    have ended : (⟨root, [part.name], false, treesOf part.entries⟩ : Draft).close =
        some (root ++ [(part.name, part.toTree)]) :=
      Draft.close_of_absent absent _
    have distinct :
        ((root ++ [(part.name, part.toTree)]).map (·.1) ++ parts.map (·.name)).Nodup := by
      simpa using once
    obtain ⟨last, reaches, done⟩ := ih others ended distinct
    refine ⟨last, ?_, by simpa using done⟩
    cases parts with
    | nil =>
      have step := reaches_section first closed absent []
      rw [List.append_nil] at step
      rw [List.map_singleton, List.intercalate_singleton]
      exact step.trans reaches
    | cons other parts =>
      have step := reaches_section first closed absent
        ('\n' :: ['\n'].intercalate ((other :: parts).map Section.written))
      rw [List.map_cons, List.map_cons, List.intercalate_cons_cons, List.append_assoc]
      exact step.trans ((Reaches.blank _ _).trans reaches)

theorem dropMark_toText (parts : List Section) :
    dropMark (toText parts).toList = ['\n'].intercalate (parts.map Section.written) := by
  rw [toText, String.toList_ofList]
  match parts with
  | [] => rfl
  | [part] => rfl
  | part :: other :: _ =>
    rw [List.map_cons, List.map_cons, List.intercalate_cons_cons]
    rfl

/-- A written document is read back as the sections that it was written from. -/
theorem ofText?_toText {parts : List Section} (regular : ∀ part ∈ parts, part.Regular)
    (once : (parts.map (·.name)).Nodup) :
    ofText? (toText parts) = some (parts.map fun part => (part.name, part.toTree)) := by
  have fresh : Draft.start.close = some [] := rfl
  obtain ⟨last, reaches, done⟩ := exists_reaches_sections regular fresh once
  rw [ofText?, dropMark_toText, reaches.lines_eq]
  exact done

end Attestation.Toml

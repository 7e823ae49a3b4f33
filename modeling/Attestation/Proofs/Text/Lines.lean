import Mathlib.Data.List.Basic

namespace Attestation.Text

def lines : List Char → List (List Char)
  | [] => []
  | c :: rest =>
    if c = '\n' then [] :: lines rest
    else match lines rest with
      | [] => [[c]]
      | line :: others => (c :: line) :: others

theorem lines_break (rest : List Char) : lines ('\n' :: rest) = [] :: lines rest := by
  simp [lines]

theorem lines_append_break {line : List Char} (unbroken : '\n' ∉ line) (rest : List Char) :
    lines (line ++ '\n' :: rest) = line :: lines rest := by
  induction line with
  | nil => exact lines_break rest
  | cons c line ih =>
    rw [List.mem_cons, not_or] at unbroken
    have other : c ≠ '\n' := Ne.symm unbroken.1
    rw [List.cons_append, lines, if_neg other, ih unbroken.2]

theorem length_lines_append_break (text rest : List Char) :
    (lines (text ++ '\n' :: rest)).length = text.count '\n' + 1 + (lines rest).length := by
  induction text with
  | nil =>
    rw [List.nil_append, lines_break, List.length_cons, List.count_nil]
    omega
  | cons c text ih =>
    rw [List.cons_append]
    by_cases broken : c = '\n'
    · subst broken
      rw [lines_break, List.length_cons, ih, List.count_cons_self]
      omega
    · rw [lines, if_neg broken, List.count_cons_of_ne broken]
      cases found : lines (text ++ '\n' :: rest) with
      | nil =>
        rw [found, List.length_nil] at ih
        omega
      | cons line others =>
        rw [← ih, found]
        rfl

section Entries

variable {α : Type} (content : α → List Char)

theorem lines_flatMap {entries : List α} (unbroken : ∀ entry ∈ entries, '\n' ∉ content entry) :
    lines (entries.flatMap fun entry => content entry ++ ['\n']) = entries.map content := by
  induction entries with
  | nil => rfl
  | cons entry entries ih =>
    obtain ⟨first, others⟩ := List.forall_mem_cons.mp unbroken
    rw [List.flatMap_cons, List.append_assoc, List.singleton_append, lines_append_break first,
      ih others, List.map_cons]

theorem length_le_length_lines_flatMap (entries : List α) :
    entries.length ≤ (lines (entries.flatMap fun entry => content entry ++ ['\n'])).length := by
  induction entries with
  | nil => exact Nat.zero_le _
  | cons entry entries ih =>
    rw [List.flatMap_cons, List.append_assoc, List.singleton_append, length_lines_append_break,
      List.length_cons]
    omega

theorem length_lines_flatMap_eq_iff (entries : List α) :
    (lines (entries.flatMap fun entry => content entry ++ ['\n'])).length = entries.length ↔
      ∀ entry ∈ entries, '\n' ∉ content entry := by
  induction entries with
  | nil => simp [lines]
  | cons entry entries ih =>
    have others := length_le_length_lines_flatMap content entries
    rw [List.forall_mem_cons, ← ih, ← List.count_eq_zero, List.flatMap_cons, List.append_assoc,
      List.singleton_append, length_lines_append_break, List.length_cons]
    omega

end Entries

theorem mem_intercalate_iff {separator : List Char} {c : Char} (other : c ∉ separator)
    (parts : List (List Char)) :
    c ∈ separator.intercalate parts ↔ ∃ part ∈ parts, c ∈ part := by
  induction parts with
  | nil => simp
  | cons part parts ih =>
    rw [List.exists_mem_cons_iff, ← ih]
    cases parts with
    | nil => simp
    | cons next parts => simp [List.intercalate_cons_cons, other]

end Attestation.Text

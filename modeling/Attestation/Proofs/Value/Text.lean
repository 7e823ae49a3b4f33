import Attestation.Proofs.Text.Lines
import Attestation.Value

namespace Attestation

namespace Text

theorem ne_break_of_isDigit {c : Char} (digit : c.isDigit = true) : c ≠ '\n' := by
  rintro rfl
  exact absurd digit (by decide)

theorem break_not_mem_numeral (n : Nat) : '\n' ∉ numeral n := by
  intro member
  exact ne_break_of_isDigit (isDigit_of_mem_numeral member) rfl

theorem break_not_mem_padZeros (width n : Nat) : '\n' ∉ padZeros width (numeral n) := by
  rw [padZeros, List.mem_append, not_or]
  refine ⟨?_, break_not_mem_numeral n⟩
  intro member
  exact absurd (List.eq_of_mem_replicate member) (by decide)

theorem break_not_mem_signedNumeral (n : Int) : '\n' ∉ signedNumeral n := by
  unfold signedNumeral
  split <;> simp [break_not_mem_numeral]

end Text

theorem Date.break_not_mem_toText (d : Date) : '\n' ∉ d.toText.toList := by
  have year : '\n' ∉ yearText d.year := by
    unfold yearText
    repeat' split
    all_goals simp [Text.break_not_mem_padZeros]
  rw [toText, String.toList_ofList]
  simp [year, Text.break_not_mem_padZeros]

namespace Value

def texts : Value → List String
  | .text content => [content]
  | .list items => items
  | .record fields => fields.entries.flatMap fun entry => [entry.1, entry.2]
  | .empty | .integer _ | .boolean _ | .date _ => []

def Unbroken (value : Value) : Prop := ∀ text ∈ value.texts, '\n' ∉ text.toList

instance (value : Value) : Decidable value.Unbroken := inferInstanceAs (Decidable (∀ _ ∈ _, _))

theorem break_not_mem_toText_iff (value : Value) :
    '\n' ∉ value.toText.toList ↔ value.Unbroken := by
  have comma : '\n' ∉ [',', ' '] := by decide
  cases value with
  | empty => simp [toText, Unbroken, texts]
  | text content => simp [toText, Unbroken, texts]
  | integer number =>
    simp [toText, integerText, Unbroken, texts, Text.break_not_mem_signedNumeral]
  | boolean flag => cases flag <;> simp [toText, booleanText, Unbroken, texts]
  | date day => simp [toText, Unbroken, texts, day.break_not_mem_toText]
  | list items =>
    simp [toText, Unbroken, texts, Text.mem_intercalate_iff comma]
  | record fields =>
    rw [Unbroken, texts, List.forall_mem_flatMap]
    simp [toText, Text.mem_intercalate_iff comma]

end Value

end Attestation

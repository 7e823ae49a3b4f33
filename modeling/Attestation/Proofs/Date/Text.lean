import Attestation.Date
import Attestation.Proofs.Date.Calendar

namespace Attestation

namespace Text

theorem isBlank_of_isDigit {c : Char} (digit : c.isDigit = true) : isBlank c = false := by
  have bounds : 48 ≤ c.toNat ∧ c.toNat ≤ 57 := by
    have number : c.toNat = c.val.toNat := rfl
    simp only [Char.isDigit, Bool.and_eq_true, decide_eq_true_eq, ge_iff_le,
      UInt32.le_iff_toNat_le] at digit
    have low : '0'.val.toNat = 48 := rfl
    have high : '9'.val.toNat = 57 := rfl
    omega
  simp only [isBlank, blankCodes, List.contains_eq_mem, List.mem_cons, List.not_mem_nil, or_false,
    decide_eq_false_iff_not]
  omega

theorem isDigit_of_mem_padZeros {width n : Nat} {c : Char}
    (member : c ∈ padZeros width (numeral n)) : c.isDigit = true := by
  rw [padZeros, List.mem_append] at member
  obtain zero | digit := member
  · rw [List.eq_of_mem_replicate zero]
    decide
  · exact isDigit_of_mem_numeral digit

theorem padZeros_ne_nil (width n : Nat) : padZeros width (numeral n) ≠ [] :=
  List.append_ne_nil_of_right_ne_nil _ (numeral_ne_nil n)

theorem exists_cons_padZeros (width n : Nat) :
    ∃ first rest, padZeros width (numeral n) = first :: rest ∧ first.isDigit = true := by
  obtain ⟨first, rest, whole⟩ := List.exists_cons_of_ne_nil (padZeros_ne_nil width n)
  exact ⟨first, rest, whole, isDigit_of_mem_padZeros (whole ▸ List.mem_cons_self ..)⟩

theorem length_padZeros {width n : Nat} (short : (numeral n).length ≤ width) :
    (padZeros width (numeral n)).length = width := by
  rw [padZeros, List.length_append, List.length_replicate]
  omega

end Text

namespace Date

open Text

theorem readNumber?_append {width : Nat} {digits rest : List Char} (nonempty : digits ≠ [])
    (spelled : ∀ c ∈ digits, c.isDigit = true) (room : digits.length ≤ width)
    (ends : ∀ c, rest.head? = some c → c.isDigit = false) :
    readNumber? width (digits ++ rest) = some (number digits, rest) := by
  have stop : ((rest.take (width - digits.length)).takeWhile Char.isDigit) = [] := by
    cases rest with
    | nil => simp
    | cons c rest =>
      have other := ends c rfl
      cases width - digits.length <;> simp [other]
  have taken : ((digits ++ rest).take width).takeWhile Char.isDigit = digits := by
    rw [List.take_append, List.take_of_length_le room, List.takeWhile_append_of_pos spelled, stop,
      List.append_nil]
  simp [readNumber?, taken, nonempty]

theorem readNumber?_padZeros {width places n : Nat} {rest : List Char}
    (room : (padZeros places (numeral n)).length ≤ width)
    (ends : ∀ c, rest.head? = some c → c.isDigit = false) :
    readNumber? width (padZeros places (numeral n) ++ rest) = some (n, rest) := by
  rw [readNumber?_append (padZeros_ne_nil places n) (fun c => isDigit_of_mem_padZeros) room ends,
    number_padZeros, number_numeral]

theorem yearText_cases (year : Int) :
    (year < 0 ∧ yearText year = '-' :: padZeros 4 (numeral year.natAbs)) ∨
    (0 ≤ year ∧ year ≤ 9999 ∧ yearText year = padZeros 4 (numeral year.natAbs)) ∨
    (9999 < year ∧ yearText year = '+' :: padZeros 4 (numeral year.natAbs)) := by
  by_cases negative : year < 0
  · exact .inl ⟨negative, by simp [yearText, negative]⟩
  · by_cases usual : year ≤ 9999
    · exact .inr (.inl ⟨by omega, usual, by simp [yearText, negative, usual]⟩)
    · exact .inr (.inr ⟨by omega, by simp [yearText, negative, usual]⟩)

theorem readYear?_of_isDigit {first : Char} {text : List Char} (digit : first.isDigit = true) :
    readYear? (first :: text) =
      (readNumber? 4 (first :: text)).map fun read => ((read.1 : Int), read.2) := by
  unfold readYear?
  split
  · rename_i same
    cases same
    exact absurd digit (by decide)
  · rename_i same
    cases same
    exact absurd digit (by decide)
  · rfl

theorem readYear?_yearText (year : Int) (rest : List Char) :
    readYear? (yearText year ++ '-' :: rest) = some (year, '-' :: rest) := by
  have ends : ∀ c, ('-' :: rest).head? = some c → c.isDigit = false := by
    rintro _ ⟨⟩
    decide
  have signed : readNumber? (padZeros 4 (numeral year.natAbs) ++ '-' :: rest).length
      (padZeros 4 (numeral year.natAbs) ++ '-' :: rest) = some (year.natAbs, '-' :: rest) :=
    readNumber?_padZeros (by simp) ends
  obtain ⟨negative, spelled⟩ | ⟨positive, usual, spelled⟩ | ⟨great, spelled⟩ := yearText_cases year
  · have value : -(year.natAbs : Int) = year := by omega
    simp only [spelled, List.cons_append, readYear?, signed, Option.map_some, value]
  · have value : (year.natAbs : Int) = year := by omega
    have places : (padZeros 4 (numeral year.natAbs)).length = 4 :=
      length_padZeros ((Nat.length_toDigits_le_iff (by decide) (by decide)).mpr (by omega))
    have read : readNumber? 4 (padZeros 4 (numeral year.natAbs) ++ '-' :: rest) =
        some (year.natAbs, '-' :: rest) := readNumber?_padZeros (by omega) ends
    obtain ⟨first, digits, whole, digit⟩ := exists_cons_padZeros 4 year.natAbs
    rw [whole, List.cons_append] at read
    rw [spelled, whole, List.cons_append, readYear?_of_isDigit digit, read, Option.map_some, value]
  · have value : (year.natAbs : Int) = year := by omega
    simp only [spelled, List.cons_append, readYear?, signed, Option.map_some, value]

theorem readHyphen?_padZeros (places n : Nat) (rest : List Char) :
    readHyphen? ('-' :: (padZeros places (numeral n) ++ rest)) =
      some (padZeros places (numeral n) ++ rest) := by
  obtain ⟨first, digits, whole, digit⟩ := exists_cons_padZeros places n
  have hyphen : skipBlanks ('-' :: (first :: (digits ++ rest))) =
      '-' :: (first :: (digits ++ rest)) := skipBlanks_cons _ (by decide)
  simp only [readHyphen?, whole, List.cons_append, hyphen,
    skipBlanks_cons _ (isBlank_of_isDigit digit)]

theorem exists_cons_yearText (year : Int) :
    ∃ first rest, yearText year = first :: rest ∧ isBlank first = false := by
  obtain ⟨-, spelled⟩ | ⟨-, -, spelled⟩ | ⟨-, spelled⟩ := yearText_cases year
  · exact ⟨'-', _, spelled, by decide⟩
  · obtain ⟨first, digits, whole, digit⟩ := exists_cons_padZeros 4 year.natAbs
    exact ⟨first, digits, spelled.trans whole, isBlank_of_isDigit digit⟩
  · exact ⟨'+', _, spelled, by decide⟩

/-- A written date is read back, whatever the year. -/
theorem ofText?_toText (d : Date) : ofText? d.toText = some d := by
  have monthLimit := d.month_le
  have dayLimit := d.day_le
  have monthPlaces : (padZeros 2 (numeral d.month)).length = 2 :=
    length_padZeros ((Nat.length_toDigits_le_iff (by decide) (by decide)).mpr (by omega))
  have dayPlaces : (padZeros 2 (numeral d.day)).length = 2 :=
    length_padZeros ((Nat.length_toDigits_le_iff (by decide) (by decide)).mpr (by omega))
  have readMonth : readNumber? 2 (padZeros 2 (numeral d.month) ++
      '-' :: padZeros 2 (numeral d.day)) = some (d.month, '-' :: padZeros 2 (numeral d.day)) := by
    refine readNumber?_padZeros (Nat.le_of_eq monthPlaces) ?_
    rintro _ ⟨⟩
    decide
  have readDay : readNumber? 2 (padZeros 2 (numeral d.day)) = some (d.day, []) := by
    have read : readNumber? 2 (padZeros 2 (numeral d.day) ++ []) = some (d.day, []) :=
      readNumber?_padZeros (Nat.le_of_eq dayPlaces) (by simp)
    rwa [List.append_nil] at read
  have hyphen : readHyphen? ('-' :: padZeros 2 (numeral d.day)) =
      some (padZeros 2 (numeral d.day)) := by
    simpa using readHyphen?_padZeros 2 d.day []
  obtain ⟨first, rest, starts, solid⟩ := exists_cons_yearText d.year
  have year := readYear?_yearText d.year (padZeros 2 (numeral d.month) ++
    '-' :: padZeros 2 (numeral d.day))
  rw [starts, List.cons_append] at year
  rw [ofText?, toText, String.toList_ofList, List.append_assoc, List.cons_append, starts,
    List.cons_append, skipBlanks_cons _ solid]
  simp only [year, readHyphen?_padZeros, readMonth, hyphen, readDay, Option.bind_eq_bind,
    Option.bind_some]
  exact ofParts?_self d

end Date

end Attestation

import Attestation.Proofs.Json.Printing
import Attestation.Proofs.Toml.Quoted
import Attestation.Toml.Reading

namespace Attestation.Toml

open Json.Grammar (IsDigits IsWhole isWhole_numeral)

/-! A number at the end of a line is read as a whole number, and as nothing that is tried before. -/

theorem ne_of_isDigit {c d : Char} (digit : c.isDigit = true) (other : d.isDigit = false) :
    c ≠ d := by
  rintro rfl
  rw [digit] at other
  cases other

theorem moreDigits_append {ds : List Char} (all : ∀ c ∈ ds, c.isDigit = true) (rest : List Char) :
    moreDigits Char.isDigit (ds ++ '\n' :: rest) = (ds, '\n' :: rest) := by
  induction ds with
  | nil =>
    rw [List.nil_append, moreDigits.eq_2 _ _ _ (fun _ _ same => absurd same (by decide))]
    rfl
  | cons c ds ih =>
    obtain ⟨first, others⟩ := List.forall_mem_cons.mp all
    have apart : c ≠ '_' := ne_of_isDigit first rfl
    rw [List.cons_append, moreDigits.eq_2 _ _ _ (fun _ _ same => absurd same apart), if_pos first,
      ih others]

theorem digits_append {ds : List Char} (spelled : IsDigits ds) (rest : List Char) :
    digits Char.isDigit (ds ++ '\n' :: rest) = some (ds, '\n' :: rest) := by
  obtain ⟨some', all⟩ := spelled
  cases ds with
  | nil => exact absurd rfl some'
  | cons c ds =>
    obtain ⟨first, others⟩ := List.forall_mem_cons.mp all
    rw [List.cons_append, digits, if_pos first, moreDigits_append others]

theorem wholeDigits_append {ds : List Char} (whole : IsWhole ds) (rest : List Char) :
    wholeDigits (ds ++ '\n' :: rest) = some (ds, '\n' :: rest) := by
  by_cases zero : ds.head? = some '0'
  · rw [whole.2 zero]
    rfl
  · rw [wholeDigits.eq_2, digits_append whole.1]
    intro more same
    cases ds with
    | nil => exact whole.1.1 rfl
    | cons c ds => exact zero (congrArg some (List.cons.inj same).1)

/-! Dates and times -/

theorem expect_digits {c : Char} (other : c.isDigit = false) (inside : c ≠ '\n') {ds : List Char}
    (all : ∀ d ∈ ds, d.isDigit = true) (rest : List Char) :
    expect c (ds ++ '\n' :: rest) = none := by
  cases ds with
  | nil => exact if_neg fun same => inside (eq_of_beq same).symm
  | cons d ds =>
    have apart := ne_of_isDigit (all d (List.mem_cons_self ..)) other
    exact if_neg fun same => apart (eq_of_beq same)

theorem drop_of_fixedNumber {width least greatest number : Nat} {ds rest after : List Char}
    (read : fixedNumber width least greatest (ds ++ '\n' :: rest) = some (number, after)) :
    after = ds.drop width ++ '\n' :: rest := by
  simp only [fixedNumber] at read
  split at read
  · rename_i fits
    obtain ⟨-, rfl⟩ := Prod.mk.inj (Option.some.inj read)
    apply List.drop_append_of_le_length
    by_contra short
    have member : '\n' ∈ (ds ++ '\n' :: rest).take width := by
      have positive : width - ds.length = (width - ds.length - 1) + 1 := by omega
      rw [List.take_append, positive, List.take_succ_cons]
      exact List.mem_append_right _ (List.mem_cons_self ..)
    have digit := List.all_eq_true.mp fits.2.1 _ member
    cases digit
  · cases read

theorem fixedNumber_of_minus (width least greatest : Nat) (rest : List Char) :
    fixedNumber (width + 1) least greatest ('-' :: rest) = none := by
  simp [fixedNumber]

theorem expect_of_fixedNumber {c : Char} (other : c.isDigit = false) (inside : c ≠ '\n')
    {width least greatest number : Nat} {ds rest after : List Char}
    (all : ∀ d ∈ ds, d.isDigit = true)
    (read : fixedNumber width least greatest (ds ++ '\n' :: rest) = some (number, after)) :
    expect c after = none := by
  rw [drop_of_fixedNumber read]
  exact expect_digits other inside (fun d member => all d (List.mem_of_mem_drop member)) rest

theorem dateTime_of_digits {ds : List Char} (all : ∀ d ∈ ds, d.isDigit = true)
    (rest : List Char) : dateTime (ds ++ '\n' :: rest) = none := by
  have date : fullDate (ds ++ '\n' :: rest) = none := by
    unfold fullDate
    cases read : fixedNumber 4 0 9999 (ds ++ '\n' :: rest) with
    | none => rfl
    | some found =>
      have stop := expect_of_fixedNumber (c := '-') (by decide) (by decide) all read
      simp only [bind, Option.bind, stop]
  have time : hourAndMinute (ds ++ '\n' :: rest) = none := by
    unfold hourAndMinute
    cases read : fixedNumber 2 0 23 (ds ++ '\n' :: rest) with
    | none => rfl
    | some found =>
      have stop := expect_of_fixedNumber (c := ':') (by decide) (by decide) all read
      simp only [bind, Option.bind, stop]
  rw [dateTime, date, partialTime, time]
  rfl

theorem dateTime_of_minus (rest : List Char) : dateTime ('-' :: rest) = none := by
  have date : fullDate ('-' :: rest) = none := by
    rw [fullDate, fixedNumber_of_minus]
    rfl
  have time : hourAndMinute ('-' :: rest) = none := by
    rw [hourAndMinute, fixedNumber_of_minus]
    rfl
  rw [dateTime, date, partialTime, time]
  rfl

/-! Numbers -/

theorem exists_head_numeral (n : Nat) :
    ∃ c cs, Text.numeral n = c :: cs ∧ c.isDigit = true := by
  have all : ∀ c ∈ Text.numeral n, c.isDigit = true := fun c => Text.isDigit_of_mem_numeral
  cases shape : Text.numeral n with
  | nil => exact absurd shape (Text.numeral_ne_nil n)
  | cons c cs => exact ⟨c, cs, rfl, all c (shape ▸ List.mem_cons_self ..)⟩

theorem sign_of_isDigit {c : Char} (digit : c.isDigit = true) (rest : List Char) :
    sign (c :: rest) = (false, c :: rest) := by
  apply sign.eq_3
  · exact fun _ same => ne_of_isDigit digit rfl (List.cons.inj same).1
  · exact fun _ same => ne_of_isDigit digit rfl (List.cons.inj same).1

theorem sign_signedNumeral (n : Int) (rest : List Char) :
    sign (Text.signedNumeral n ++ rest) =
      (decide (n < 0), Text.numeral n.natAbs ++ rest) := by
  obtain ⟨c, cs, shape, digit⟩ := exists_head_numeral n.natAbs
  by_cases negative : n < 0
  · rw [Text.signedNumeral, if_pos negative, decide_eq_true negative]
    rfl
  · rw [Text.signedNumeral, if_neg negative, decide_eq_false negative, shape]
    exact sign_of_isDigit digit _

theorem head_signedNumeral (n : Int) :
    ∃ c cs, Text.signedNumeral n = c :: cs ∧ (c = '-' ∨ c.isDigit = true) := by
  by_cases negative : n < 0
  · exact ⟨'-', Text.numeral n.natAbs, if_pos negative, .inl rfl⟩
  · obtain ⟨c, cs, shape, digit⟩ := exists_head_numeral n.natAbs
    exact ⟨c, cs, (if_neg negative).trans shape, .inr digit⟩

theorem signedNumeral_ne {d : Char} (minus : d ≠ '-') (other : d.isDigit = false) (n : Int)
    (rest more : List Char) : Text.signedNumeral n ++ rest ≠ d :: more := by
  obtain ⟨c, cs, shape, head⟩ := head_signedNumeral n
  intro same
  rw [shape] at same
  rcases head with rfl | digit
  · exact minus (List.cons.inj same).1.symm
  · exact ne_of_isDigit digit other (List.cons.inj same).1

theorem dateTime_signedNumeral (n : Int) (rest : List Char) :
    dateTime (Text.signedNumeral n ++ '\n' :: rest) = none := by
  by_cases negative : n < 0
  · rw [Text.signedNumeral, if_pos negative]
    exact dateTime_of_minus _
  · rw [Text.signedNumeral, if_neg negative]
    exact dateTime_of_digits (fun c => Text.isDigit_of_mem_numeral) rest

theorem float_signedNumeral (n : Int) (rest : List Char) :
    float (Text.signedNumeral n ++ '\n' :: rest) = none := by
  have whole := wholeDigits_append (isWhole_numeral n.natAbs) rest
  have fraction : fractional (Text.signedNumeral n ++ '\n' :: rest) = none := by
    simp only [fractional, sign_signedNumeral, whole]
    rfl
  have named : special (Text.signedNumeral n ++ '\n' :: rest) = none := by
    obtain ⟨c, cs, shape, digit⟩ := exists_head_numeral n.natAbs
    rw [special, sign_signedNumeral, shape]
    dsimp only [List.cons_append]
    split
    · rename_i same
      exact absurd (List.cons.inj same).1 (ne_of_isDigit digit rfl)
    · rename_i same
      exact absurd (List.cons.inj same).1 (ne_of_isDigit digit rfl)
    · rfl
  rw [float, fraction, named]
  rfl

theorem integer_signedNumeral {n : Int} (range : leastInteger ≤ n ∧ n ≤ greatestInteger)
    (rest : List Char) :
    integer (Text.signedNumeral n ++ '\n' :: rest) = some (n, '\n' :: rest) := by
  have whole := isWhole_numeral n.natAbs
  have value : (if decide (n < 0) = true then -(n.natAbs : Int) else n.natAbs) = n := by
    by_cases negative : n < 0
    · rw [decide_eq_true negative, if_pos rfl]
      omega
    · rw [decide_eq_false negative, if_neg Bool.false_ne_true]
      omega
  have number : decimal (Text.signedNumeral n ++ '\n' :: rest) = some (n, '\n' :: rest) := by
    simp only [decimal, sign_signedNumeral, wholeDigits_append whole, Text.number_numeral,
      bind, Option.bind, value, inRange, if_pos range]
    rfl
  -- Behind a leading zero stands the end of the line, so no other base is meant.
  have zero : ∀ c more, Text.signedNumeral n ++ '\n' :: rest = '0' :: c :: more → c = '\n' := by
    intro c more same
    by_cases negative : n < 0
    · rw [Text.signedNumeral, if_pos negative] at same
      exact absurd (List.cons.inj same).1 (by decide)
    · rw [Text.signedNumeral, if_neg negative] at same
      have first : (Text.numeral n.natAbs).head? = some '0' := by
        obtain ⟨d, ds, shape, -⟩ := exists_head_numeral n.natAbs
        rw [shape] at same ⊢
        exact congrArg some (List.cons.inj same).1
      rw [whole.2 first] at same
      exact (List.cons.inj (List.cons.inj same).2).1.symm
  rw [integer.eq_4, number]
  · exact fun more same => absurd (zero _ more same) (by decide)
  · exact fun more same => absurd (zero _ more same) (by decide)
  · exact fun more same => absurd (zero _ more same) (by decide)

theorem scalar_signedNumeral {n : Int} (range : leastInteger ≤ n ∧ n ≤ greatestInteger)
    (rest : List Char) :
    scalar (Text.signedNumeral n ++ '\n' :: rest) = some (.integer n, '\n' :: rest) := by
  have apart : ∀ d : Char, d ≠ '-' → d.isDigit = false →
      ∀ more, Text.signedNumeral n ++ '\n' :: rest ≠ d :: more :=
    fun _ minus other => signedNumeral_ne minus other n _
  have flag : boolean (Text.signedNumeral n ++ '\n' :: rest) = none := by
    apply boolean.eq_3
    · exact fun more => apart 't' (by decide) (by decide) _
    · exact fun more => apart 'f' (by decide) (by decide) _
  rw [scalar.eq_3, flag, dateTime_signedNumeral, float_signedNumeral, integer_signedNumeral range]
  · rfl
  · exact fun more => apart '"' (by decide) (by decide) more
  · exact fun more => apart '\'' (by decide) (by decide) more

theorem scalar_quote (content : List Char) {rest : List Char} (double : rest.head? ≠ some '"')
    (single : rest.head? ≠ some '\'') :
    scalar (quote content ++ rest) = some (.string (String.ofList content), rest) := by
  have read := anyString_quote content double single
  obtain ⟨q, more, shape, quoted⟩ := exists_head_quote content
  rw [shape] at read ⊢
  rcases quoted with rfl | rfl
  · rw [List.cons_append, scalar.eq_1]
    rw [List.cons_append] at read
    rw [read]
    rfl
  · rw [List.cons_append, scalar.eq_2]
    rw [List.cons_append] at read
    rw [read]
    rfl

end Attestation.Toml

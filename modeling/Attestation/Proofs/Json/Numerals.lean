import Attestation.Proofs.Json.Grammar

namespace Attestation.Json.Numeral

open Grammar

/-- The text behind the sign that brings a numeral to a stage. -/
inductive Part (negative : Bool) : Stage → List Char → Numeral → Prop where
  | sign : Part negative .sign [] ⟨negative, [], [], none⟩
  | zero : Part negative .zero ['0'] ⟨negative, ['0'], [], none⟩
  | whole {whole : List Char} (spelled : IsWhole whole) (nonzero : whole ≠ ['0']) :
    Part negative .whole whole ⟨negative, whole, [], none⟩
  | point {whole : List Char} (spelled : IsWhole whole) :
    Part negative .point (whole ++ ['.']) ⟨negative, whole, [], none⟩
  | fraction {whole fraction : List Char} (spelled : IsWhole whole)
    (fractional : IsDigits fraction) :
    Part negative .fraction (whole ++ '.' :: fraction) ⟨negative, whole, fraction, none⟩
  | mark {whole fractionText fraction : List Char} {mark : Char} (spelled : IsWhole whole)
    (fractional : Fraction fractionText fraction) (marked : mark ∈ ['e', 'E']) :
    Part negative .mark (whole ++ fractionText ++ [mark]) ⟨negative, whole, fraction, none⟩
  | markSign {whole fractionText fraction : List Char} {mark sign : Char} {falling : Bool}
    (spelled : IsWhole whole) (fractional : Fraction fractionText fraction)
    (marked : mark ∈ ['e', 'E']) (signed : (sign, falling) ∈ [('+', false), ('-', true)]) :
    Part negative .markSign (whole ++ fractionText ++ [mark, sign])
      ⟨negative, whole, fraction, some (falling, [])⟩
  | power {whole fractionText fraction powerText : List Char} {power : Bool × List Char}
    (spelled : IsWhole whole) (fractional : Fraction fractionText fraction)
    (scaled : Power powerText (some power)) :
    Part negative .power (whole ++ fractionText ++ powerText)
      ⟨negative, whole, fraction, some power⟩

theorem isDigits_singleton {c : Char} (digit : c.isDigit = true) : IsDigits [c] := by
  simpa [IsDigits] using digit

theorem isDigits_concat {digits : List Char} {c : Char} (spelled : IsDigits digits)
    (digit : c.isDigit = true) : IsDigits (digits ++ [c]) := by
  refine ⟨by simp, fun d member => ?_⟩
  rcases List.mem_append.mp member with earlier | last
  · exact spelled.2 d earlier
  · rw [List.mem_singleton.mp last]
    exact digit

theorem isWhole_zero : IsWhole ['0'] := ⟨isDigits_singleton (by decide), fun _ => rfl⟩

theorem isWhole_concat {whole : List Char} {c : Char} (spelled : IsWhole whole)
    (nonzero : whole ≠ ['0']) (digit : c.isDigit = true) : IsWhole (whole ++ [c]) := by
  refine ⟨isDigits_concat spelled.1 digit, fun first => ?_⟩
  rw [List.head?_append, List.head?_eq_some_head spelled.1.1, Option.some_or,
    ← List.head?_eq_some_head] at first
  exact absurd (spelled.2 first) nonzero

theorem power_concat {text : List Char} {negative : Bool} {digits : List Char} {c : Char}
    (scaled : Power text (some (negative, digits))) (digit : c.isDigit = true) :
    Power (text ++ [c]) (some (negative, digits ++ [c])) := by
  cases scaled with
  | digits marked signed spelled =>
    rw [List.append_assoc]
    exact .digits marked signed (isDigits_concat spelled digit)

theorem isWhole_singleton {c : Char} (digit : c.isDigit = true) : IsWhole [c] := by
  refine ⟨isDigits_singleton digit, fun first => ?_⟩
  rw [List.head?_singleton, Option.some.injEq] at first
  rw [first]

theorem mem_marks_iff (c : Char) : (c == 'e' || c == 'E') = true ↔ c ∈ ['e', 'E'] := by simp

theorem Part.extend {negative : Bool} {stage next : Stage} {text : List Char} {n m : Numeral}
    {c : Char} (part : Part negative stage text n) (extended : n.extend? stage c = some (m, next)) :
    Part negative next (text ++ [c]) m := by
  cases part with
  | sign =>
    simp only [extend?] at extended
    split at extended
    · rename_i zero
      cases extended
      rw [eq_of_beq zero]
      exact .zero
    · rename_i nonzero
      split at extended
      · rename_i digit
        cases extended
        exact .whole (isWhole_singleton digit) (by simpa using nonzero)
      · cases extended
  | zero =>
    simp only [extend?] at extended
    split at extended
    · rename_i dot
      cases extended
      rw [eq_of_beq dot]
      exact .point isWhole_zero
    · split at extended
      · rename_i marked
        cases extended
        exact .mark isWhole_zero .none ((mem_marks_iff c).mp marked)
      · cases extended
  | @whole whole spelled nonzero =>
    simp only [extend?] at extended
    split at extended
    · rename_i digit
      cases extended
      refine .whole (isWhole_concat spelled nonzero digit) fun same => ?_
      exact absurd (List.append_eq_singleton_iff.mp same) (by simp [spelled.1.1])
    · split at extended
      · rename_i dot
        cases extended
        rw [eq_of_beq dot]
        exact .point spelled
      · split at extended
        · rename_i marked
          cases extended
          simpa using Part.mark spelled .none ((mem_marks_iff c).mp marked)
        · cases extended
  | point spelled =>
    simp only [extend?] at extended
    split at extended
    · rename_i digit
      cases extended
      rw [List.append_assoc]
      exact .fraction spelled (isDigits_singleton digit)
    · cases extended
  | fraction spelled fractional =>
    simp only [extend?] at extended
    split at extended
    · rename_i digit
      cases extended
      rw [List.append_assoc]
      exact .fraction spelled (isDigits_concat fractional digit)
    · split at extended
      · rename_i marked
        cases extended
        exact .mark spelled (.digits fractional) ((mem_marks_iff c).mp marked)
      · cases extended
  | mark spelled fractional marked =>
    simp only [extend?] at extended
    split at extended
    · rename_i digit
      cases extended
      simpa using Part.power spelled fractional
        (.digits marked (List.mem_cons_self ..) (isDigits_singleton digit))
    · split at extended
      · rename_i plus
        cases extended
        rw [eq_of_beq plus]
        have signed : ('+', false) ∈ [('+', false), ('-', true)] := by simp
        simpa using Part.markSign spelled fractional marked signed
      · split at extended
        · rename_i minus
          cases extended
          rw [eq_of_beq minus]
          have signed : ('-', true) ∈ [('+', false), ('-', true)] := by simp
          simpa using Part.markSign spelled fractional marked signed
        · cases extended
  | markSign spelled fractional marked signed =>
    simp only [extend?] at extended
    split at extended
    · rename_i digit
      cases extended
      rw [List.append_assoc]
      refine .power spelled fractional (.digits marked ?_ (isDigits_singleton digit))
      simp only [List.mem_cons, Prod.mk.injEq, List.not_mem_nil, or_false] at signed
      rcases signed with ⟨rfl, rfl⟩ | ⟨rfl, rfl⟩ <;> simp
    · cases extended
  | power spelled fractional scaled =>
    simp only [extend?] at extended
    split at extended
    · rename_i digit
      cases extended
      rw [List.append_assoc]
      exact .power spelled fractional (power_concat scaled digit)
    · cases extended

theorem Part.number {negative : Bool} {stage : Stage} {text : List Char} {n : Numeral}
    (part : Part negative stage text n) (complete : stage.isComplete = true) :
    Number (minus negative ++ text) n := by
  cases part with
  | zero => exact .parts isWhole_zero .none .none
  | whole spelled nonzero => simpa using Number.parts spelled .none .none
  | fraction spelled fractional => simpa using Number.parts spelled (.digits fractional) .none
  | power spelled fractional scaled => exact .parts spelled fractional scaled
  | sign | point | mark | markSign => cases complete

def extendAll? (n : Numeral) (stage : Stage) (text : List Char) : Option (Numeral × Stage) :=
  text.foldlM (fun reached c => reached.1.extend? reached.2 c) (n, stage)

section Run

variable {n m : Numeral} {stage next : Stage} {c : Char} {text rest digits : List Char}

theorem extendAll?_cons (extended : n.extend? stage c = some (m, next)) (text : List Char) :
    n.extendAll? stage (c :: text) = m.extendAll? next text := by
  rw [extendAll?, List.foldlM_cons, extended]
  rfl

theorem extendAll?_append (read : n.extendAll? stage text = some (m, next)) (rest : List Char) :
    n.extendAll? stage (text ++ rest) = m.extendAll? next rest := by
  rw [extendAll?] at read
  rw [extendAll?, List.foldlM_append, read]
  rfl

theorem extendAll?_digits (write : List Char → Numeral)
    (stays : ∀ before c, c.isDigit = true →
      (write before).extend? stage c = some (write (before ++ [c]), stage))
    (spelled : ∀ c ∈ digits, c.isDigit = true) (before : List Char) :
    (write before).extendAll? stage digits = some (write (before ++ digits), stage) := by
  induction digits generalizing before with
  | nil => simp [extendAll?]
  | cons c digits ih =>
    obtain ⟨digit, others⟩ := List.forall_mem_cons.mp spelled
    rw [extendAll?_cons (stays before c digit), ih others, List.append_assoc]
    rfl

variable (negative : Bool) {whole fractionText fraction powerText : List Char}
  {power : Option (Bool × List Char)}

theorem extendAll?_whole (spelled : IsWhole whole) :
    ∃ stage, (stage = .zero ∨ stage = .whole) ∧
      (⟨negative, [], [], none⟩ : Numeral).extendAll? .sign whole =
        some (⟨negative, whole, [], none⟩, stage) := by
  obtain ⟨⟨nonempty, digits⟩, alone⟩ := spelled
  obtain ⟨first, rest, rfl⟩ := List.exists_cons_of_ne_nil nonempty
  obtain ⟨digit, others⟩ := List.forall_mem_cons.mp digits
  by_cases zero : first = '0'
  · subst zero
    rw [alone rfl]
    exact ⟨.zero, .inl rfl, rfl⟩
  · have extended : (⟨negative, [], [], none⟩ : Numeral).extend? .sign first =
        some (⟨negative, [first], [], none⟩, .whole) := by
      simp [extend?, zero, digit, addWhole]
    refine ⟨.whole, .inr rfl, ?_⟩
    rw [extendAll?_cons extended]
    refine extendAll?_digits (fun whole => ⟨negative, whole, [], none⟩) ?_ others [first]
    intro before c digit
    simp [extend?, digit, addWhole]

variable (whole) in
theorem extendAll?_fraction (fractional : Fraction fractionText fraction)
    (behind : stage = .zero ∨ stage = .whole) :
    ∃ next, (next = .zero ∨ next = .whole ∨ next = .fraction) ∧
      (⟨negative, whole, [], none⟩ : Numeral).extendAll? stage fractionText =
        some (⟨negative, whole, fraction, none⟩, next) := by
  cases fractional with
  | none => exact ⟨stage, behind.imp_right .inl, rfl⟩
  | digits spelled =>
    obtain ⟨first, rest, rfl⟩ := List.exists_cons_of_ne_nil spelled.1
    obtain ⟨digit, others⟩ := List.forall_mem_cons.mp spelled.2
    have dotted : (⟨negative, whole, [], none⟩ : Numeral).extend? stage '.' =
        some (⟨negative, whole, [], none⟩, .point) := by
      rcases behind with rfl | rfl <;> rfl
    have extended : (⟨negative, whole, [], none⟩ : Numeral).extend? .point first =
        some (⟨negative, whole, [first], none⟩, .fraction) := by
      simp [extend?, digit, addFraction]
    refine ⟨.fraction, .inr (.inr rfl), ?_⟩
    rw [extendAll?_cons dotted, extendAll?_cons extended]
    refine extendAll?_digits (fun fraction => ⟨negative, whole, fraction, none⟩) ?_ others
      [first]
    intro before c digit
    simp [extend?, digit, addFraction]

variable (whole) in
theorem extendAll?_power (scaled : Power powerText power)
    (behind : stage = .zero ∨ stage = .whole ∨ stage = .fraction) :
    ∃ next, next.isComplete = true ∧
      (⟨negative, whole, fraction, none⟩ : Numeral).extendAll? stage powerText =
        some (⟨negative, whole, fraction, power⟩, next) := by
  cases scaled with
  | none =>
    refine ⟨stage, ?_, rfl⟩
    rcases behind with rfl | rfl | rfl <;> rfl
  | @digits mark sign digits falling marked signed spelled =>
    obtain ⟨first, rest, rfl⟩ := List.exists_cons_of_ne_nil spelled.1
    obtain ⟨digit, others⟩ := List.forall_mem_cons.mp spelled.2
    have begun : (⟨negative, whole, fraction, none⟩ : Numeral).extend? stage mark =
        some (⟨negative, whole, fraction, none⟩, .mark) := by
      simp only [List.mem_cons, List.not_mem_nil, or_false] at marked
      rcases behind with rfl | rfl | rfl <;> rcases marked with rfl | rfl <;> rfl
    refine ⟨.power, rfl, ?_⟩
    rw [List.cons_append, extendAll?_cons begun]
    have extended : (⟨negative, whole, fraction, none⟩ : Numeral).extendAll? .mark (sign ++ [first]) =
        some (⟨negative, whole, fraction, some (falling, [first])⟩, .power) := by
      simp only [List.mem_cons, Prod.mk.injEq, List.not_mem_nil, or_false] at signed
      rcases signed with ⟨rfl, rfl⟩ | ⟨rfl, rfl⟩ | ⟨rfl, rfl⟩ <;>
        simp [extendAll?, extend?, digit, addPower]
    rw [List.append_cons, extendAll?_append extended]
    refine extendAll?_digits
      (fun digits => ⟨negative, whole, fraction, some (falling, digits)⟩) ?_ others [first]
    intro before c digit
    simp [extend?, digit, addPower]

theorem extendAll?_number (spelled : IsWhole whole) (fractional : Fraction fractionText fraction)
    (scaled : Power powerText power) :
    ∃ stage, stage.isComplete = true ∧
      (⟨negative, [], [], none⟩ : Numeral).extendAll? .sign (whole ++ fractionText ++ powerText) =
        some (⟨negative, whole, fraction, power⟩, stage) := by
  obtain ⟨afterWhole, behindWhole, readWhole⟩ := extendAll?_whole negative spelled
  obtain ⟨afterFraction, behindFraction, readFraction⟩ :=
    extendAll?_fraction negative whole fractional behindWhole
  obtain ⟨last, complete, readPower⟩ :=
    extendAll?_power negative whole scaled behindFraction
  refine ⟨last, complete, ?_⟩
  rw [List.append_assoc, extendAll?_append readWhole, extendAll?_append readFraction, readPower]

end Run

end Attestation.Json.Numeral

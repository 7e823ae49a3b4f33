import Attestation.Proofs.Toml.Scalar
import Attestation.Toml.Document

namespace Attestation.Toml

def Solid (c : Char) : Prop := c ∉ [' ', '\t', '#', '\n', '\r']

instance (c : Char) : Decidable (Solid c) := inferInstanceAs (Decidable (c ∉ _))

theorem Solid.isBlank {c : Char} (solid : Solid c) : isBlank c = false := by
  simp only [Solid, List.mem_cons, not_or] at solid
  simp [Toml.isBlank, solid.1, solid.2.1]

theorem skipBlanks_of_solid {c : Char} (solid : Solid c) (rest : List Char) :
    skipBlanks (c :: rest) = c :: rest :=
  List.dropWhile_cons_of_neg (by rw [solid.isBlank]; exact Bool.false_ne_true)

theorem afterNewline?_of_solid {c : Char} (solid : Solid c) (rest : List Char) :
    afterNewline? (c :: rest) = none := by
  simp only [Solid, List.mem_cons, not_or] at solid
  apply afterNewline?.eq_3
  · exact fun _ same => solid.2.2.2.1 (List.cons.inj same).1
  · exact fun _ same => solid.2.2.2.2.1 (List.cons.inj same).1

/-! Between the items of an array -/

theorem skipLines_of_solid {c : Char} (solid : Solid c) {text rest : List Char}
    (shown : skipBlanks text = c :: rest) (fuel : Nat) :
    skipLines (fuel + 1) text = some (c :: rest) := by
  rw [skipLines, shown]
  split
  · rename_i same
    rw [(List.cons.inj same).1] at solid
    exact absurd solid (by decide)
  · rw [afterNewline?_of_solid solid]

theorem skipFiller_of_solid {c : Char} (solid : Solid c) (rest : List Char) :
    skipFiller (c :: rest) = some (c :: rest) :=
  skipLines_of_solid solid (skipBlanks_of_solid solid rest) rest.length

theorem skipFiller_newline {c : Char} (solid : Solid c) {text rest : List Char}
    (shown : skipBlanks text = c :: rest) : skipFiller ('\n' :: text) = some (c :: rest) := by
  have step : skipFiller ('\n' :: text) = skipLines text.length text := rfl
  rw [step]
  cases text with
  | nil => cases shown
  | cons d more => exact skipLines_of_solid solid shown more.length

/-! Values -/

theorem quoted_ne {c : Char} (other : c ≠ '"' ∧ c ≠ '\'') (content : String)
    (rest more : List Char) : Item.quoted content ++ rest ≠ c :: more := by
  obtain ⟨q, inner, shape, quoted⟩ := exists_head_quote content.toList
  rw [Item.quoted, shape]
  intro same
  rcases quoted with rfl | rfl
  · exact other.1 (List.cons.inj same).1.symm
  · exact other.2 (List.cons.inj same).1.symm

theorem exists_solid_quoted (content : String) :
    ∃ q rest, Item.quoted content = q :: rest ∧ Solid q := by
  obtain ⟨q, rest, shape, quoted⟩ := exists_head_quote content.toList
  refine ⟨q, rest, shape, ?_⟩
  rcases quoted with rfl | rfl <;> decide

theorem value_quoted (levels : Nat) (content : String) (rest : List Char)
    (double : rest.head? ≠ some '"') (single : rest.head? ≠ some '\'') :
    value levels (Item.quoted content ++ rest) = some (.string content, rest) := by
  have read := scalar_quote content.toList double single
  rw [String.ofList_toList] at read
  cases levels with
  | zero => exact read
  | succ levels =>
    rw [value.eq_4]
    · exact read
    · exact fun more => quoted_ne (by decide) content rest more
    · exact fun more => quoted_ne (by decide) content rest more

section

variable {read : Scan Tree} {text : List Char}

theorem items_of_closing {rest : List Char} (front : skipFiller text = some (']' :: rest))
    (fuel : Nat) : items read (fuel + 1) text = some ([], rest) := by
  rw [items, front]
  rfl

theorem items_of_item {shown after rest : List Char} {item : Tree}
    (front : skipFiller text = some shown) (opened : ∀ more, shown ≠ ']' :: more)
    (found : read shown = some (item, after)) (behind : skipFiller after = some (',' :: rest))
    (fuel : Nat) :
    items read (fuel + 1) text =
      (items read fuel rest).map fun found => (item :: found.1, found.2) := by
  rw [items, front]
  simp only [Option.bind_eq_bind, Option.bind_some, found, behind]
  cases items read fuel rest <;> rfl

theorem items_of_last {shown after rest : List Char} {item : Tree}
    (front : skipFiller text = some shown) (opened : ∀ more, shown ≠ ']' :: more)
    (found : read shown = some (item, after)) (behind : skipFiller after = some (']' :: rest))
    (fuel : Nat) : items read (fuel + 1) text = some ([item], rest) := by
  rw [items, front]
  simp only [Option.bind_eq_bind, Option.bind_some, found, behind]
  rfl

end

theorem items_onItsLine (levels : Nat) (contents : List String) (rest : List Char) {fuel : Nat}
    (enough : contents.length < fuel) :
    items (value levels) fuel ('\n' :: (contents.flatMap Item.onItsLine ++ ']' :: rest)) =
      some (contents.map .string, rest) := by
  have comma : Solid ',' := by decide
  have bracket : Solid ']' := by decide
  induction contents generalizing fuel with
  | nil =>
    obtain ⟨fuel, rfl⟩ : ∃ less, fuel = less + 1 := ⟨fuel - 1, by omega⟩
    exact items_of_closing (skipFiller_newline bracket (skipBlanks_of_solid bracket rest)) fuel
  | cons content contents ih =>
    obtain ⟨fuel, rfl⟩ : ∃ less, fuel = less + 1 := ⟨fuel - 1, by omega⟩
    obtain ⟨q, inner, shape, solid⟩ := exists_solid_quoted content
    let later := contents.flatMap Item.onItsLine ++ ']' :: rest
    have text : (content :: contents).flatMap Item.onItsLine ++ ']' :: rest =
        ' ' :: ' ' :: ' ' :: ' ' :: (Item.quoted content ++ ',' :: '\n' :: later) := by
      simp [later, Item.onItsLine]
    have front :
        skipFiller ('\n' :: ((content :: contents).flatMap Item.onItsLine ++ ']' :: rest)) =
          some (Item.quoted content ++ ',' :: '\n' :: later) := by
      rw [text, shape]
      exact skipFiller_newline solid (skipBlanks_of_solid solid _)
    have found := value_quoted levels content (',' :: '\n' :: later) (by simp) (by simp)
    rw [items_of_item front (quoted_ne (by decide) content _) found (skipFiller_of_solid comma _),
      ih (Nat.lt_of_succ_lt_succ enough)]
    rfl

theorem items_quoted (levels : Nat) (content : String) (rest : List Char) (fuel : Nat) :
    items (value levels) (fuel + 1) (Item.quoted content ++ ']' :: rest) =
      some ([.string content], rest) := by
  have bracket : Solid ']' := by decide
  obtain ⟨q, inner, shape, solid⟩ := exists_solid_quoted content
  have front : skipFiller (Item.quoted content ++ ']' :: rest) =
      some (Item.quoted content ++ ']' :: rest) := by
    rw [shape]
    exact skipFiller_of_solid solid _
  have found := value_quoted levels content (']' :: rest) (by simp) (by simp)
  exact items_of_last front (quoted_ne (by decide) content _) found
    (skipFiller_of_solid bracket rest) fuel

theorem length_le_onItsLine (contents : List String) :
    contents.length ≤ (contents.flatMap Item.onItsLine).length := by
  induction contents with
  | nil => exact Nat.le_refl 0
  | cons content contents ih =>
    rw [List.flatMap_cons, List.length_append]
    simp only [Item.onItsLine, List.length_append, List.length_cons, List.length_nil]
    omega

theorem value_texts (levels : Nat) (contents : List String) (rest : List Char) :
    value (levels + 1) ((Item.texts contents).written ++ rest) =
      some ((Item.texts contents).toTree, rest) := by
  have bracket : Solid ']' := by decide
  match contents with
  | [] =>
    change value (levels + 1) ('[' :: ']' :: rest) = _
    rw [value.eq_2, List.length_cons, items_of_closing (skipFiller_of_solid bracket rest)]
    rfl
  | [content] =>
    have written : (Item.texts [content]).written ++ rest =
        '[' :: (Item.quoted content ++ ']' :: rest) := by
      simp [Item.written]
    have length : (Item.quoted content ++ ']' :: rest).length =
        (Item.quoted content ++ rest).length + 1 := by
      simp [Nat.add_assoc]
    rw [written, value.eq_2, length, items_quoted]
    rfl
  | first :: second :: others =>
    let lines := (first :: second :: others).flatMap Item.onItsLine
    have written : (Item.texts (first :: second :: others)).written ++ rest =
        '[' :: '\n' :: (lines ++ ']' :: rest) := by
      simp [Item.written, lines]
    have enough : (first :: second :: others).length < ('\n' :: (lines ++ ']' :: rest)).length := by
      have each : (first :: second :: others).length ≤ lines.length := length_le_onItsLine _
      have whole : ('\n' :: (lines ++ ']' :: rest)).length = lines.length + rest.length + 2 := by
        simp [Nat.add_assoc]
      omega
    rw [written, value.eq_2, items_onItsLine levels _ rest enough]
    rfl

def Item.Fits : Item → Prop
  | .whole number => leastInteger ≤ number ∧ number ≤ greatestInteger
  | .text _ | .flag _ | .texts _ => True

theorem value_written (levels : Nat) {item : Item} (fits : item.Fits) (rest : List Char) :
    value (levels + 1) (item.written ++ '\n' :: rest) = some (item.toTree, '\n' :: rest) := by
  cases item with
  | text content => exact value_quoted (levels + 1) content _ (by simp) (by simp)
  | whole number =>
    have read := scalar_signedNumeral fits rest
    rw [Item.written, value.eq_4]
    · exact read
    · exact signedNumeral_ne (by decide) (by decide) number _
    · exact signedNumeral_ne (by decide) (by decide) number _
  | flag isSet => cases isSet <;> rfl
  | texts contents => exact value_texts levels contents _

theorem solid_of_isDigit {c : Char} (digit : c.isDigit = true) : Solid c := by
  intro member
  simp only [List.mem_cons, List.not_mem_nil, or_false] at member
  rcases member with rfl | rfl | rfl | rfl | rfl
  all_goals cases digit

theorem exists_solid_written (item : Item) : ∃ c rest, item.written = c :: rest ∧ Solid c := by
  cases item with
  | text content => exact exists_solid_quoted content
  | whole number =>
    obtain ⟨c, rest, shape, head⟩ := head_signedNumeral number
    refine ⟨c, rest, shape, ?_⟩
    rcases head with rfl | digit
    · decide
    · exact solid_of_isDigit digit
  | flag isSet => cases isSet <;> exact ⟨_, _, rfl, by decide⟩
  | texts contents =>
    match contents with
    | [] | [_] | _ :: _ :: _ => exact ⟨'[', _, rfl, by decide⟩

end Attestation.Toml

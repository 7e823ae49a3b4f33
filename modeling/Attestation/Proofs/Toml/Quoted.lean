import Attestation.Toml.Quoted
import Mathlib.Tactic.SplitIfs

namespace Attestation.Toml

inductive Spells (lines : Bool) (c : Char) : List Char → Prop where
  | short {letter : Char} (known : shortEscape? letter = some c) : Spells lines c ['\\', letter]
  | number {a b : Char} (known : spelledChar? ['0', '0', a, b] = some c) :
    Spells lines c ['\\', 'u', '0', '0', a, b]
  | itself (allowed : isPlain c = true ∨ lines = true ∧ c = '\n') (other : c ≠ '\\') :
    Spells lines c [c]

theorem spelledChar?_control {c : Char} (control : isControl c = true) :
    spelledChar? ['0', '0', hexDigit (c.toNat / 16), hexDigit (c.toNat % 16)] = some c := by
  have small : c.toNat < 128 := by
    simp only [isControl, Bool.or_eq_true, Bool.and_eq_true, decide_eq_true_eq, beq_iff_eq]
      at control
    omega
  have spelled : ∀ n < 128, spelledChar? ['0', '0', hexDigit (n / 16), hexDigit (n % 16)] =
      some (Char.ofNat n) := by
    decide +kernel
  rw [spelled _ small, Char.ofNat_toNat]

theorem isPlain_of_not_control {c : Char} (shown : isControl c = false) (inside : c ≠ '\n') :
    isPlain c = true := by
  by_cases tab : c = '\t'
  · rw [tab]
    rfl
  · simp only [isControl, Bool.or_eq_false_iff, Bool.and_eq_false_iff, decide_eq_false_iff_not,
      bne_eq_false_iff_eq, beq_eq_false_iff_ne] at shown
    have high : 0x20 ≤ c.toNat := by
      rcases shown.1 with (high | here) | here
      · omega
      · exact absurd here tab
      · exact absurd here inside
    simp [isPlain, high, shown.2]

theorem spells_escape (lines : Bool) (c : Char) : Spells lines c (escape lines c) := by
  unfold escape
  split_ifs with back tab line several feed return' slash control
  · obtain rfl : c = '\x08' := eq_of_beq back
    exact .short rfl
  · obtain rfl : c = '\t' := eq_of_beq tab
    exact .short rfl
  · obtain rfl : c = '\n' := eq_of_beq line
    exact .itself (.inr ⟨several, rfl⟩) (by decide)
  · obtain rfl : c = '\n' := eq_of_beq line
    exact .short rfl
  · obtain rfl : c = '\x0c' := eq_of_beq feed
    exact .short rfl
  · obtain rfl : c = '\r' := eq_of_beq return'
    exact .short rfl
  · obtain rfl : c = '\\' := eq_of_beq slash
    exact .short rfl
  · exact .number (spelledChar?_control control)
  · have plain := isPlain_of_not_control (Bool.not_eq_true _ ▸ control)
      fun same => line (beq_iff_eq.mpr same)
    exact .itself (.inl plain) fun same => slash (beq_iff_eq.mpr same)

theorem mem_letters_of_shortEscape? {letter c : Char} (known : shortEscape? letter = some c) :
    letter ∈ ['b', 't', 'n', 'f', 'r', '"', '\\'] := by
  unfold shortEscape? at known
  split at known
  all_goals first | decide | cases known

theorem isPlain_ne_return {c : Char} (plain : isPlain c = true) : c ≠ '\r' := by
  rintro rfl
  cases plain

/-! Strings on one line -/

theorem basicBody_spells {c : Char} {word : List Char} (spelled : Spells false c word)
    (apart : word ≠ ['"']) (rest : List Char) :
    basicBody (word ++ rest) = prepend (some c) (basicBody rest) := by
  cases spelled with
  | short known =>
    have letter := mem_letters_of_shortEscape? known
    rw [← known]
    apply basicBody.eq_4
    · rintro _ _ _ _ _ rfl
      simp at letter
    · rintro _ _ _ _ _ _ _ _ _ rfl
      simp at letter
  | number known =>
    rw [← known]
    exact basicBody.eq_2 ..
  | itself allowed other =>
    have plain : isPlain c = true := by
      rcases allowed with plain | ⟨several, -⟩
      · exact plain
      · cases several
    have quote : c ≠ '"' := fun same => apart (same ▸ rfl)
    change basicBody (c :: rest) = _
    rw [basicBody.eq_5 c rest quote (fun _ _ _ _ _ same => absurd same other)
      (fun _ _ _ _ _ _ _ _ _ same => absurd same other) (fun _ _ same => absurd same other),
      if_pos plain]

theorem basicBody_escapeAll (content rest : List Char) (run : Nat) :
    basicBody (escapeAll false 0 run content ++ '"' :: rest) = some (content, rest) := by
  induction content generalizing run with
  | nil => rfl
  | cons c content ih =>
    rw [escapeAll]
    split
    · rename_i quote
      rw [eq_of_beq quote, if_neg (Nat.not_lt_zero run)]
      have spelled : Spells false '"' ['\\', '"'] := .short rfl
      have step := basicBody_spells spelled (by decide) (escapeAll false 0 0 content ++ '"' :: rest)
      rw [ih] at step
      exact step
    · rename_i other
      have apart : escape false c ≠ ['"'] := by
        intro same
        have spelled := spells_escape false c
        rw [same] at spelled
        cases spelled
        exact other rfl
      rw [List.append_assoc, basicBody_spells (spells_escape false c) apart, ih]
      rfl

theorem literalBody_append {content : List Char} (plain : ∀ c ∈ content, isPlain c = true)
    (apart : '\'' ∉ content) (rest : List Char) :
    literalBody (content ++ '\'' :: rest) = some (content, rest) := by
  induction content with
  | nil => rfl
  | cons c content ih =>
    obtain ⟨first, others⟩ := List.forall_mem_cons.mp plain
    have quote : c ≠ '\'' := fun same => apart (same ▸ List.mem_cons_self ..)
    have later : '\'' ∉ content := fun member => apart (List.mem_cons_of_mem c member)
    rw [List.cons_append, literalBody.eq_2 c _ quote, if_pos first, ih others later]
    rfl

/-! Strings on several lines -/

/-- A text between three quotes with the characters that it stands for. Behind `run` quotes in a row
there may be as many more as make it two; all other characters are spelled, and no spelling begins
with the quote. -/
inductive Between (q : Char) (spelled : Char → List Char → Prop) :
    Nat → List Char → List Char → Prop where
  | done {run : Nat} : Between q spelled run [] []
  | quote {run : Nat} {content text : List Char} (few : run < 2)
    (rest : Between q spelled (run + 1) content text) :
    Between q spelled run (q :: content) (q :: text)
  | other {run : Nat} {c first : Char} {word content text : List Char}
    (known : spelled c (first :: word)) (apart : first ≠ q)
    (rest : Between q spelled 0 content text) :
    Between q spelled run (c :: content) (first :: word ++ text)

structure ReadsBetween (q : Char) (spelled : Char → List Char → Prop)
    (body : Scan (List Char)) : Prop where
  closes : ∀ rest, body (q :: q :: q :: rest) = some (closingQuotes q rest)
  takesQuote : ∀ text, (∀ rest, text ≠ q :: q :: rest) →
    body (q :: text) = prepend (some q) (body text)
  takesOther : ∀ c first word rest, spelled c (first :: word) → first ≠ q →
    body (first :: word ++ rest) = prepend (some c) (body rest)

theorem closingQuotes_nil {q : Char} {rest : List Char} (apart : rest.head? ≠ some q) :
    closingQuotes q rest = ([], rest) := by
  match rest with
  | [] => rfl
  | [a] | a :: b :: _ =>
    have other : (a == q) = false := beq_false_of_ne fun same => apart (congrArg some same)
    simp [closingQuotes, other]

theorem closingQuotes_one {q : Char} {rest : List Char} (apart : rest.head? ≠ some q) :
    closingQuotes q (q :: rest) = ([q], rest) := by
  cases rest with
  | nil => simp [closingQuotes]
  | cons a rest =>
    have other : (a == q) = false := beq_false_of_ne fun same => apart (congrArg some same)
    simp [closingQuotes, other]

theorem closingQuotes_two (q : Char) (rest : List Char) :
    closingQuotes q (q :: q :: rest) = ([q, q], rest) := by
  simp [closingQuotes]

section Between

variable {q : Char} {spelled : Char → List Char → Prop} {body : Scan (List Char)}

theorem ReadsBetween.read (reads : ReadsBetween q spelled body) {run : Nat}
    {content text rest : List Char} (between : Between q spelled run content text)
    (apart : rest.head? ≠ some q) :
    body (text ++ q :: q :: q :: rest) = some (content, rest) := by
  induction between with
  | done => rw [List.nil_append, reads.closes, closingQuotes_nil apart]
  | other known different _ ih =>
    rw [List.append_assoc, reads.takesOther _ _ _ _ known different, ih]
    rfl
  | quote few later ih =>
    -- Quotes at the very end run into the closing ones, and are then told from them all at once.
    cases later with
    | done => rw [List.singleton_append, reads.closes, closingQuotes_one apart]
    | other known different later =>
      rw [List.cons_append, reads.takesQuote _ ?_, ih]
      · rfl
      · rintro _ same
        exact different (List.cons.inj same).1
    | quote fewer latest =>
      cases latest with
      | done => rw [List.cons_append, List.singleton_append, reads.closes, closingQuotes_two]
      | quote fewest => omega
      | other known different =>
        rw [List.cons_append, reads.takesQuote _ ?_, ih]
        · rfl
        · rintro _ same
          exact different (List.cons.inj (List.cons.inj same).2).1

theorem le_longestRun (q : Char) (run : Nat) (content : List Char) :
    run ≤ longestRun q run content := by
  induction content generalizing run with
  | nil => exact Nat.le_refl run
  | cons c content ih =>
    rw [longestRun]
    split
    · exact Nat.le_trans (Nat.le_succ run) (ih (run + 1))
    · exact Nat.le_max_left ..

theorem Between.of_longestRun {run : Nat} {content : List Char}
    (few : longestRun q run content ≤ 2) (plain : ∀ c ∈ content, spelled c [c]) :
    Between q spelled run content content := by
  induction content generalizing run with
  | nil => exact .done
  | cons c content ih =>
    obtain ⟨first, others⟩ := List.forall_mem_cons.mp plain
    rw [longestRun] at few
    split at few
    · rename_i same
      obtain rfl : c = q := eq_of_beq same
      refine .quote ?_ (ih few others)
      have least := le_longestRun c (run + 1) content
      omega
    · rename_i other
      have apart : c ≠ q := fun same => other (beq_iff_eq.mpr same)
      exact .other first apart (ih (Nat.le_trans (Nat.le_max_right ..) few) others)

end Between

theorem readsBetween_longBasicBody :
    ReadsBetween '"' (Spells true) (longBasicBody false) where
  closes rest := longBasicBody.eq_1 false rest
  takesQuote text apart := by
    rw [longBasicBody.eq_6 false '"' text (fun rest _ same => apart rest same) nofun nofun nofun
      nofun]
    rfl
  takesOther c first word rest known apart := by
    cases known with
    | short known =>
      have letter := mem_letters_of_shortEscape? known
      rename_i letter'
      have inside : (afterNewline? (skipBlanks (letter' :: rest))).isSome = false := by
        simp only [List.mem_cons, List.not_mem_nil, or_false] at letter
        rcases letter with rfl | rfl | rfl | rfl | rfl | rfl | rfl <;> rfl
      rw [← known]
      change longBasicBody false ('\\' :: letter' :: rest) = _
      rw [longBasicBody.eq_5, inside]
      · rfl
      · rintro _ _ _ _ _ rfl
        simp at letter
      · rintro _ _ _ _ _ _ _ _ _ rfl
        simp at letter
    | number known =>
      rw [← known]
      exact longBasicBody.eq_3 ..
    | itself allowed other =>
      have taken : (isPlain c || c == '\n') = true := by
        rcases allowed with plain | ⟨-, rfl⟩
        · rw [plain, Bool.true_or]
        · rfl
      have return' : c ≠ '\r' := by
        rcases allowed with plain | ⟨-, rfl⟩
        · exact isPlain_ne_return plain
        · decide
      change longBasicBody false (c :: rest) = _
      rw [longBasicBody.eq_6 false c rest (fun _ same => absurd same apart)
        (fun _ same => absurd same return') (fun _ _ _ _ _ same => absurd same other)
        (fun _ _ _ _ _ _ _ _ _ same => absurd same other) (fun _ _ same => absurd same other)]
      simp only [Bool.false_and, Bool.false_eq_true, if_false, if_pos taken]

theorem readsBetween_longLiteralBody :
    ReadsBetween '\'' (fun c word => word = [c] ∧ (isPlain c = true ∨ c = '\n'))
      longLiteralBody where
  closes rest := longLiteralBody.eq_1 rest
  takesQuote text apart := by
    rw [longLiteralBody.eq_3 '\'' text (fun rest _ same => apart rest same) nofun]
    rfl
  takesOther c first word rest known apart := by
    obtain ⟨same, allowed⟩ := known
    obtain ⟨rfl, rfl⟩ := List.cons.inj same
    have taken : (isPlain first || first == '\n') = true := by
      rcases allowed with plain | rfl
      · rw [plain, Bool.true_or]
      · rfl
    have return' : first ≠ '\r' := by
      rcases allowed with plain | rfl
      · exact isPlain_ne_return plain
      · decide
    change longLiteralBody (first :: rest) = _
    rw [longLiteralBody.eq_3 first rest (fun _ same => absurd same apart)
      (fun _ same => absurd same return'), if_pos taken]

theorem exists_escape (lines : Bool) {c : Char} (other : c ≠ '"') :
    ∃ first word, escape lines c = first :: word ∧ first ≠ '"' ∧
      Spells lines c (first :: word) := by
  have spelled := spells_escape lines c
  cases shape : escape lines c with
  | nil =>
    rw [shape] at spelled
    cases spelled
  | cons first word =>
    rw [shape] at spelled
    refine ⟨first, word, rfl, ?_, spelled⟩
    cases spelled with
    | short | number => decide
    | itself => exact other

theorem between_escapeAll (content : List Char) (run : Nat) :
    Between '"' (Spells true) run content (escapeAll true 2 run content) := by
  induction content generalizing run with
  | nil => exact .done
  | cons c content ih =>
    rw [escapeAll]
    split
    · rename_i same
      obtain rfl : c = '"' := eq_of_beq same
      split
      · rename_i few
        exact .quote few (ih (run + 1))
      · have spelled : Spells true '"' ['\\', '"'] := .short rfl
        exact .other spelled (by decide) (ih 0)
    · rename_i other
      obtain ⟨first, word, shape, apart, spelled⟩ :=
        exists_escape true fun same => other (beq_iff_eq.mpr same)
      rw [shape]
      exact .other spelled apart (ih 0)

theorem head?_escapeAll (lines : Bool) (content : List Char) (run : Nat) :
    (escapeAll lines 0 run content).head? ≠ some '"' := by
  cases content with
  | nil => exact nofun
  | cons c content =>
    rw [escapeAll, if_neg (Nat.not_lt_zero run)]
    split
    · exact fun same => absurd (Option.some.inj same) (by decide)
    · rename_i other
      obtain ⟨first, word, shape, apart, -⟩ :=
        exists_escape lines fun same => other (beq_iff_eq.mpr same)
      rw [shape]
      exact fun same => apart (Option.some.inj same)

theorem dropNewline_of_ne {text : List Char} (line : text.head? ≠ some '\n')
    (return' : text.head? ≠ some '\r') : dropNewline text = text := by
  cases text with
  | nil => rfl
  | cons c text =>
    have notLine : c ≠ '\n' := fun same => line (congrArg some same)
    have notReturn : c ≠ '\r' := fun same => return' (congrArg some same)
    rw [dropNewline, afterNewline?.eq_3]
    · rfl
    · intro _ same
      exact notLine (List.cons.inj same).1
    · intro _ same
      exact notReturn (List.cons.inj same).1

def Unbroken (spelled : Char → List Char → Prop) : Prop :=
  ∀ c first word, spelled c (first :: word) → first ≠ '\r' ∧ (first = '\n' → c = '\n')

theorem ReadsBetween.read_onLines {q : Char} {spelled : Char → List Char → Prop}
    {body : Scan (List Char)} (reads : ReadsBetween q spelled body) (unbroken : Unbroken spelled)
    (quote : q ≠ '\n' ∧ q ≠ '\r') {content text rest : List Char}
    (between : Between q spelled 0 content text) (apart : rest.head? ≠ some q) :
    body (dropNewline ((if content.contains '\n' then ['\n'] else []) ++
      (text ++ q :: q :: q :: rest))) = some (content, rest) := by
  rw [← reads.read between apart]
  split
  · rfl
  · rename_i none
    have inside : '\n' ∉ content := by simpa using none
    rw [List.nil_append, dropNewline_of_ne]
    · cases between with
      | done | quote => exact fun same => quote.1 (Option.some.inj same)
      | other known =>
        intro same
        have line := (unbroken _ _ _ known).2 (Option.some.inj same)
        exact inside (line ▸ List.mem_cons_self ..)
    · cases between with
      | done | quote => exact fun same => quote.2 (Option.some.inj same)
      | other known => exact fun same => (unbroken _ _ _ known).1 (Option.some.inj same)

theorem unbroken_spells : Unbroken (Spells true) := by
  intro c first word known
  cases known with
  | short | number => exact ⟨by decide, nofun⟩
  | itself allowed =>
    refine ⟨?_, id⟩
    rcases allowed with plain | ⟨-, rfl⟩
    · exact isPlain_ne_return plain
    · decide

theorem unbroken_itself :
    Unbroken fun c word => word = [c] ∧ (isPlain c = true ∨ c = '\n') := by
  rintro c first word ⟨same, allowed⟩
  obtain ⟨rfl, -⟩ := List.cons.inj same
  refine ⟨?_, id⟩
  rcases allowed with plain | rfl
  · exact isPlain_ne_return plain
  · decide

theorem quote_cases (content : List Char) :
    quote content = '"' :: escapeAll false 0 0 content ++ ['"'] ∨
    (quote content = '\'' :: content ++ ['\''] ∧ (∀ c ∈ content, isControl c = false) ∧
      longestRun '\'' 0 content = 0 ∧ '\n' ∉ content) ∨
    quote content = onLines '"' (content.contains '\n') (escapeAll true 2 0 content) ∨
    (quote content = onLines '\'' (content.contains '\n') content ∧
      (∀ c ∈ content, isControl c = false) ∧ longestRun '\'' 0 content ≤ 2) := by
  have clear : (!content.any isControl) = true → ∀ c ∈ content, isControl c = false := by
    simp
  unfold quote
  dsimp only
  split_ifs with basic literal long longLiteral line
  · exact .inl rfl
  · simp only [Bool.and_eq_true, beq_iff_eq] at literal
    obtain ⟨⟨shown, single⟩, line⟩ := literal
    exact .inr (.inl ⟨rfl, clear shown, single, by simpa using line⟩)
  · exact .inr (.inr (.inl rfl))
  · simp only [Bool.and_eq_true, decide_eq_true_eq] at longLiteral
    exact .inr (.inr (.inr ⟨rfl, clear longLiteral.1, longLiteral.2⟩))
  · exact .inr (.inr (.inl rfl))
  · exact .inl rfl

theorem not_mem_of_longestRun {q : Char} {run : Nat} {content : List Char}
    (none : longestRun q run content = 0) : q ∉ content := by
  induction content generalizing run with
  | nil => exact List.not_mem_nil
  | cons c content ih =>
    rw [longestRun] at none
    split at none
    · have least := le_longestRun q (run + 1) content
      omega
    · rename_i other
      have later : longestRun q 0 content = 0 := by omega
      rw [List.mem_cons, not_or]
      exact ⟨fun same => other (beq_iff_eq.mpr same.symm), ih later⟩

/-- A string is read back from any form in which it is written, if no quote follows. -/
theorem anyString_quote (content : List Char) {rest : List Char} (double : rest.head? ≠ some '"')
    (single : rest.head? ≠ some '\'') :
    anyString (quote content ++ rest) = some (content, rest) := by
  rcases quote_cases content with form | ⟨form, shown, none, line⟩ | form | ⟨form, shown, few⟩
  · have read := basicBody_escapeAll content rest 0
    have opens := head?_escapeAll false content 0
    simp only [form, List.cons_append, List.append_assoc, List.nil_append]
    rw [anyString.eq_3]
    · exact read
    · intro more same
      cases text : escapeAll false 0 0 content with
      | nil =>
        rw [text] at same
        exact double (congrArg List.head? (List.cons.inj same).2)
      | cons first word =>
        rw [text] at same opens
        exact opens (congrArg some (List.cons.inj same).1)
  · have apart := not_mem_of_longestRun none
    have plain : ∀ c ∈ content, isPlain c = true := fun c member =>
      isPlain_of_not_control (shown c member) fun same => line (same ▸ member)
    simp only [form, List.cons_append, List.append_assoc, List.nil_append]
    rw [anyString.eq_4]
    · exact literalBody_append plain apart rest
    · exact fun _ same => absurd (List.cons.inj same).1 (by decide)
    · intro more same
      cases content with
      | nil => exact single (congrArg List.head? (List.cons.inj (List.cons.inj same).2).2)
      | cons c content =>
        exact apart ((List.cons.inj (List.cons.inj same).2).1 ▸ List.mem_cons_self ..)
    · exact fun _ same => absurd (List.cons.inj same).1 (by decide)
  · have read := readsBetween_longBasicBody.read_onLines unbroken_spells (by decide)
      (between_escapeAll content 0) double
    rw [← read]
    simp only [form, onLines, List.cons_append, List.append_assoc, List.nil_append]
    exact anyString.eq_1 _
  · have between : Between '\'' (fun c word => word = [c] ∧ (isPlain c = true ∨ c = '\n')) 0
        content content := by
      apply Between.of_longestRun few
      intro c member
      refine ⟨rfl, ?_⟩
      by_cases line : c = '\n'
      · exact .inr line
      · exact .inl (isPlain_of_not_control (shown c member) line)
    have read := readsBetween_longLiteralBody.read_onLines unbroken_itself (by decide) between
      single
    rw [← read]
    simp only [form, onLines, List.cons_append, List.append_assoc, List.nil_append]
    exact anyString.eq_2 _

theorem exists_head_quote (content : List Char) :
    ∃ q rest, quote content = q :: rest ∧ (q = '"' ∨ q = '\'') := by
  rcases quote_cases content with form | ⟨form, -⟩ | form | ⟨form, -⟩
  · exact ⟨'"', _, form, .inl rfl⟩
  · exact ⟨'\'', _, form, .inr rfl⟩
  · exact ⟨'"', _, form, .inl rfl⟩
  · exact ⟨'\'', _, form, .inr rfl⟩

example : ∀ content ∈ ["", "\"", "''\"\"", "'\"\"\"", "\n", "\r\n\\\x00'\x7f\t\"\"\""],
    anyString (quote content.toList ++ [',']) = some (content.toList, [',']) := by
  decide

end Attestation.Toml

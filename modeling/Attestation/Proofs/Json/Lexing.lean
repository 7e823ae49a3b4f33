import Attestation.Proofs.Json.Numerals
import Attestation.Proofs.Json.Scanning
import Mathlib.Data.List.Chain

namespace Attestation.Json

def Token.IsNumber : Token → Prop
  | .number _ => True
  | _ => False

namespace Grammar

theorem isSpace_iff (c : Char) : Scanner.isSpace c = true ↔ c ∈ [' ', '\t', '\n', '\r'] := by
  simp [Scanner.isSpace, or_assoc]

section Spelling

variable {text more lexeme blanks : List Char} {words others : List Token} {token : Token}

theorem isBlank_nil : IsBlank [] := by simp [IsBlank]

theorem isBlank_space : IsBlank [' '] := by simp [IsBlank]

theorem IsBlank.append (left : IsBlank text) (right : IsBlank more) : IsBlank (text ++ more) := by
  intro c member
  rcases List.mem_append.mp member with first | second
  · exact left c first
  · exact right c second

theorem Spelling.after_blanks (blank : IsBlank blanks) (spelling : Spelling text words) :
    Spelling (blanks ++ text) words := by
  cases spelling with
  | nil others => exact .nil (blank.append others)
  | cons others spelled rest =>
    rw [← List.append_assoc, ← List.append_assoc]
    exact .cons (blank.append others) spelled rest

theorem Spelling.append (left : Spelling text words) (right : Spelling more others) :
    Spelling (text ++ more) (words ++ others) := by
  induction left with
  | nil blank => exact right.after_blanks blank
  | cons blank spelled rest ih =>
    rw [List.append_assoc]
    exact .cons blank spelled ih

theorem Lexeme.spelling (spelled : Lexeme lexeme token) : Spelling lexeme [token] := by
  simpa using Spelling.cons isBlank_nil spelled (.nil isBlank_nil)

theorem Spelling.blank {c : Char} (spelling : Spelling text words)
    (space : Scanner.isSpace c = true) : Spelling (text ++ [c]) words := by
  have blank : IsBlank [c] := by
    intro d member
    rw [List.mem_singleton.mp member]
    exact (isSpace_iff c).mp space
  simpa using spelling.append (.nil blank)

theorem Spelling.concat (spelling : Spelling text words) (spelled : Lexeme lexeme token) :
    Spelling (text ++ lexeme) (words ++ [token]) := spelling.append spelled.spelling

theorem Spelling.sound (spelling : Spelling text words) : .broken ∉ words := by
  induction spelling with
  | nil _ => exact List.not_mem_nil
  | cons _ spelled _ ih =>
    refine fun member => (List.mem_cons.mp member).elim ?_ ih
    rintro rfl
    cases spelled

end Spelling

section Quoted

variable {text more : List Char} {pieces others : List Piece}

theorem Quoted.append (left : Quoted text pieces) (right : Quoted more others) :
    Quoted (text ++ more) (pieces ++ others) := by
  induction left with
  | nil => exact right
  | plain printable noQuote noBackslash _ ih => exact .plain printable noQuote noBackslash ih
  | short listed _ ih => exact .short listed ih
  | unit first second third fourth _ ih => exact .unit first second third fourth ih

theorem Quoted.narrow (spelled : Quoted text pieces) : Piece.Narrow pieces := by
  induction spelled with
  | nil => exact fun _ member => absurd member List.not_mem_nil
  | plain _ _ _ _ ih | short _ _ ih =>
    intro code member
    rcases List.mem_cons.mp member with same | earlier
    · cases same
    · exact ih code earlier
  | unit first second third fourth _ ih =>
    intro code member
    rcases List.mem_cons.mp member with same | earlier
    · cases same
      have i := lt_of_isHexDigit first
      have j := lt_of_isHexDigit second
      have k := lt_of_isHexDigit third
      have l := lt_of_isHexDigit fourth
      omega
    · exact ih code earlier

theorem Quoted.lexeme (spelled : Quoted text pieces.reverse) :
    Lexeme ('"' :: text ++ ['"']) (.string (Scanner.content pieces)) := by
  rw [Scanner.content]
  cases decoded : Piece.decode? pieces.reverse with
  | none =>
    refine .loneSurrogate spelled fun content meant => ?_
    rw [meant.decode?_eq] at decoded
    cases decoded
  | some content => exact .string spelled (Piece.denotes_of_decode? spelled.narrow decoded)

end Quoted

inductive HexRun : List Char → Nat → Prop where
  | nil : HexRun [] 0
  | concat {digits : List Char} {code n : Nat} {c : Char} (run : HexRun digits code)
    (digit : IsHexDigit c n) : HexRun (digits ++ [c]) (code * 16 + n)

theorem HexRun.quoted {digits : List Char} {code n : Nat} {c : Char} (run : HexRun digits code)
    (three : digits.length = 3) (last : IsHexDigit c n) :
    Quoted ('\\' :: 'u' :: (digits ++ [c])) [.unit (code * 16 + n)] := by
  cases run with
  | nil => contradiction
  | concat run third =>
    cases run with
    | nil => simp at three
    | concat run second =>
      cases run with
      | nil => simp at three
      | concat run first =>
        cases run with
        | nil => simpa using Quoted.unit first second third last .nil
        | concat run extra => simp at three

end Grammar

namespace Scanner

open Grammar

inductive Pending : Mode → List Char → Prop where
  | between : Pending .between []
  | word {read rest : List Char} {token : Token} (spelled : Lexeme (read ++ rest) token) :
    Pending (.word rest token) read
  | number {negative : Bool} {stage : Numeral.Stage} {text : List Char} {numeral : Numeral}
    (part : Numeral.Part negative stage text numeral) :
    Pending (.number numeral stage) (minus negative ++ text)
  | quoted {text : List Char} {pieces : List Piece} (spelled : Quoted text pieces.reverse) :
    Pending (.quoted pieces) ('"' :: text)
  | escape {text : List Char} {pieces : List Piece} (spelled : Quoted text pieces.reverse) :
    Pending (.escape pieces) ('"' :: text ++ ['\\'])
  | unit {text digits : List Char} {pieces : List Piece} {code : Nat}
    (spelled : Quoted text pieces.reverse) (run : HexRun digits code) (short : digits.length < 4) :
    Pending (.unit pieces digits.length code) ('"' :: text ++ '\\' :: 'u' :: digits)

/-- What has been read: the words so far, and the text of the one that is not over. -/
inductive Scanned : List Char → Scanner → Prop where
  | reading {before read : List Char} {tokens : List Token} {mode : Mode}
    (spelling : Spelling before tokens.reverse) (pending : Pending mode read) :
    Scanned (before ++ read) ⟨tokens, mode⟩
  | stuck {text : List Char} {tokens : List Token} (broken : .broken ∈ tokens) :
    Scanned text ⟨tokens, .stuck⟩

variable {text before lexeme : List Char} {tokens : List Token} {token : Token} {c : Char}

theorem Scanned.fault : Scanned text (fault tokens) := .stuck (List.mem_cons_self ..)

theorem Scanned.emit (spelling : Spelling before tokens.reverse) (spelled : Lexeme lexeme token) :
    Scanned (before ++ lexeme) (emit tokens token) := by
  have longer : Spelling (before ++ lexeme) (token :: tokens).reverse := by
    rw [List.reverse_cons]
    exact spelling.concat spelled
  have scanned := Scanned.reading longer .between
  rwa [List.append_nil] at scanned

theorem Scanned.begin (spelling : Spelling text tokens.reverse) :
    Scanned (text ++ [c]) (begin tokens c) := by
  unfold Scanner.begin
  split
  · rename_i space
    simpa using Scanned.reading (spelling.blank space) .between
  · split
    · exact .emit spelling .openArray
    · exact .emit spelling .closeArray
    · exact .emit spelling .openObject
    · exact .emit spelling .closeObject
    · exact .emit spelling .comma
    · exact .emit spelling .colon
    · exact .reading spelling (.quoted .nil)
    · exact .reading spelling (.word .nullWord)
    · exact .reading spelling (.word .trueWord)
    · exact .reading spelling (.word .falseWord)
    · exact .reading spelling (.number (.sign : Numeral.Part true _ _ _))
    · split
      · rename_i extended
        exact .reading spelling (.number (.extend .sign extended : Numeral.Part false _ _ _))
      · exact .fault

section Step

variable {read rest digits : List Char} {pieces : List Piece} {code : Nat}

theorem Scanned.step_word (spelling : Spelling before tokens.reverse)
    (spelled : Lexeme (read ++ rest) token) :
    Scanned (before ++ (read ++ [c])) (Scanner.step ⟨tokens, .word rest token⟩ c) := by
  cases rest with
  | nil => exact .fault
  | cons next rest =>
    cases rest with
    | nil =>
      simp only [Scanner.step]
      split
      · rename_i same
        rw [eq_of_beq same]
        exact .emit spelling spelled
      · exact .fault
    | cons last rest =>
      simp only [Scanner.step]
      split
      · rename_i same
        rw [eq_of_beq same]
        refine .reading spelling (.word ?_)
        simpa using spelled
      · exact .fault

theorem Scanned.step_number {negative : Bool} {stage : Numeral.Stage} {numeral : Numeral}
    (spelling : Spelling before tokens.reverse) (part : Numeral.Part negative stage read numeral) :
    Scanned (before ++ (minus negative ++ read ++ [c]))
      (Scanner.step ⟨tokens, .number numeral stage⟩ c) := by
  simp only [Scanner.step]
  split
  · rename_i extended
    rw [List.append_assoc]
    exact .reading spelling (.number (part.extend extended))
  · split
    · rename_i ends
      have complete : stage.isComplete = true := (Bool.and_eq_true_iff.mp ends).1
      rw [← List.append_assoc]
      refine .begin ?_
      rw [List.reverse_cons]
      exact spelling.concat (.number (part.number complete))
    · exact .fault

theorem Scanned.step_quoted (spelling : Spelling before tokens.reverse)
    (spelled : Quoted read pieces.reverse) :
    Scanned (before ++ ('"' :: read ++ [c])) (Scanner.step ⟨tokens, .quoted pieces⟩ c) := by
  simp only [Scanner.step]
  split
  · rename_i quote
    rw [eq_of_beq quote]
    exact .emit spelling spelled.lexeme
  · split
    · rename_i backslash
      rw [eq_of_beq backslash]
      exact .reading spelling (.escape spelled)
    · split
      · exact .fault
      · rename_i noQuote noBackslash printable
        refine .reading spelling (.quoted ?_)
        rw [List.reverse_cons]
        exact spelled.append (.plain (by omega) (by simpa using noQuote)
          (by simpa using noBackslash) .nil)

theorem Scanned.step_escape (spelling : Spelling before tokens.reverse)
    (spelled : Quoted read pieces.reverse) :
    Scanned (before ++ ('"' :: read ++ ['\\'] ++ [c]))
      (Scanner.step ⟨tokens, .escape pieces⟩ c) := by
  simp only [Scanner.step]
  split
  · rename_i unit
    rw [eq_of_beq unit, List.append_assoc]
    exact .reading spelling (.unit spelled (.nil : HexRun [] 0) (by decide))
  · split
    · rename_i meant
      rw [List.append_assoc]
      refine .reading spelling (.quoted ?_)
      rw [List.reverse_cons]
      exact spelled.append (.short ((shortEscape?_eq_some_iff _ _).mp meant) .nil)
    · exact .fault

theorem Scanned.step_unit (spelling : Spelling before tokens.reverse)
    (spelled : Quoted read pieces.reverse) (run : HexRun digits code) (short : digits.length < 4) :
    Scanned (before ++ ('"' :: read ++ '\\' :: 'u' :: digits ++ [c]))
      (Scanner.step ⟨tokens, .unit pieces digits.length code⟩ c) := by
  simp only [Scanner.step]
  split
  · exact .fault
  · rename_i value found
    have digit := isHexDigit_of_hexDigit? found
    split
    · rename_i few
      have longer : (digits ++ [c]).length = digits.length + 1 := by simp
      rw [List.append_assoc, ← longer]
      refine .reading spelling (.unit spelled (run.concat digit) ?_)
      omega
    · rename_i enough
      have unit := run.quoted (by omega) digit
      rw [List.append_assoc]
      refine .reading spelling (.quoted ?_)
      rw [List.reverse_cons]
      exact spelled.append unit

end Step

theorem Scanned.step {s : Scanner} (scanned : Scanned text s) : Scanned (text ++ [c]) (s.step c) := by
  cases scanned with
  | stuck broken => exact .stuck broken
  | reading spelling pending =>
    rw [List.append_assoc]
    cases pending with
    | between => exact .begin spelling
    | word spelled => exact .step_word spelling spelled
    | number part => exact .step_number spelling part
    | quoted spelled => exact .step_quoted spelling spelled
    | escape spelled => exact .step_escape spelling spelled
    | unit spelled run short => exact .step_unit spelling spelled run short

theorem Scanned.foldl {s : Scanner} (scanned : Scanned before s) (text : List Char) :
    Scanned (before ++ text) (text.foldl Scanner.step s) := by
  induction text generalizing before s with
  | nil => simpa using scanned
  | cons c text ih =>
    rw [List.append_cons]
    exact ih scanned.step

theorem Scanned.spelling {s : Scanner} (scanned : Scanned text s) (sound : .broken ∉ s.finish) :
    Spelling text s.finish := by
  cases scanned with
  | stuck broken => exact absurd (List.mem_reverse.mpr broken) sound
  | @reading before read tokens mode spelling pending =>
    cases pending with
    | between => simpa [finish] using spelling
    | @number negative stage text numeral part =>
      simp only [finish] at sound ⊢
      split at sound
      · rename_i complete
        rw [if_pos complete, List.reverse_cons]
        exact spelling.concat (.number (part.number complete))
      · simp at sound
    | word | quoted | escape | unit => simp [finish] at sound

variable (tokens) in
theorem settled_of_complete (numeral : Numeral) {stage : Numeral.Stage}
    (complete : stage.isComplete = true) :
    Settled ⟨tokens, .number numeral stage⟩ (.number numeral :: tokens) := by
  constructor
  · simp [finish, complete]
  · rintro c ⟨notDigit, notMark⟩
    simp only [List.mem_cons, List.not_mem_nil, or_false, not_or] at notMark
    cases stage with
    | sign | point | mark | markSign => cases complete
    | zero | whole | fraction | power =>
      simp [step, Numeral.extend?, Numeral.mayEnd, Numeral.Stage.isComplete, notDigit, notMark]

variable (tokens) in
theorem scan_extendAll? {numeral last : Numeral} {stage next : Numeral.Stage}
    (read : numeral.extendAll? stage text = some (last, next)) :
    text.foldl step ⟨tokens, .number numeral stage⟩ = ⟨tokens, .number last next⟩ := by
  induction text generalizing numeral stage with
  | nil =>
    cases read
    rfl
  | cons c text ih =>
    obtain ⟨⟨longer, reached⟩, extended, rest⟩ := Option.bind_eq_some_iff.mp read
    have stepped : step ⟨tokens, .number numeral stage⟩ c = ⟨tokens, .number longer reached⟩ := by
      simp only [step, extended]
    rw [List.foldl_cons, stepped, ih rest]

theorem spells_number {numeral : Numeral} (spelled : Number text numeral) :
    Spells text [.number numeral] := by
  intro tokens
  cases spelled with
  | @parts negative whole fractionText fraction powerText power spelled fractional scaled =>
    obtain ⟨stage, complete, read⟩ :=
      Numeral.extendAll?_number negative spelled fractional scaled
    have scanned := scan_extendAll? tokens read
    have settled := settled_of_complete tokens
      ⟨negative, whole, fraction, power⟩ complete
    rw [← scanned] at settled
    cases negative with
    | true => exact settled
    | false =>
      obtain ⟨first, rest, rfl⟩ := List.exists_cons_of_ne_nil spelled.1.1
      have digit : first.isDigit = true := spelled.1.2 first (List.mem_cons_self ..)
      simp only [List.cons_append, List.foldl_cons, ← begin_digit digit] at settled
      exact settled

theorem scan_quoted {pieces : List Piece} (spelled : Quoted text pieces) (before : List Piece) :
    text.foldl step ⟨tokens, .quoted before⟩ = ⟨tokens, .quoted (pieces.reverse ++ before)⟩ := by
  induction spelled generalizing before with
  | nil => rfl
  | @plain c _ _ printable noQuote noBackslash _ ih =>
    have stepped : step ⟨tokens, .quoted before⟩ c = ⟨tokens, .quoted (.plain c :: before)⟩ := by
      have notControl : ¬ c.toNat < 0x20 := by omega
      simp [step, noQuote, noBackslash, notControl]
    rw [List.foldl_cons, stepped, ih, List.reverse_cons, List.append_assoc]
    rfl
  | @short letter meant _ _ listed _ ih =>
    have escaped : step ⟨tokens, .quoted before⟩ '\\' = ⟨tokens, .escape before⟩ := rfl
    have short := (shortEscape?_eq_some_iff letter meant).mpr listed
    have noUnit : letter ≠ 'u' := by
      rintro rfl
      simp [shortEscapes] at listed
    have stepped : step ⟨tokens, .escape before⟩ letter =
        ⟨tokens, .quoted (.plain meant :: before)⟩ := by
      simp [step, noUnit, short]
    rw [List.foldl_cons, List.foldl_cons, escaped, stepped, ih, List.reverse_cons,
      List.append_assoc]
    rfl
  | unit first second third fourth _ ih =>
    have escaped : step (step ⟨tokens, .quoted before⟩ '\\') 'u' = ⟨tokens, .unit before 0 0⟩ := rfl
    simp only [List.foldl_cons, escaped]
    simp [step, hexDigit?_of_isHexDigit first, hexDigit?_of_isHexDigit second,
      hexDigit?_of_isHexDigit third, hexDigit?_of_isHexDigit fourth, ih]

theorem separates_quoted {pieces : List Piece} (spelled : Quoted text pieces) :
    Separates ('"' :: text ++ ['"']) [.string ((Piece.decode? pieces).map String.ofList)] := by
  intro s tokens settled
  have opened : s.step '"' = ⟨tokens, .quoted []⟩ := settled.step_eq (by decide)
  rw [List.cons_append, List.foldl_cons, opened, List.foldl_append, scan_quoted spelled,
    List.append_nil]
  simp [step, emit, content]

theorem separates_lexeme (spelled : Lexeme lexeme token) (notNumber : ¬ token.IsNumber) :
    Separates lexeme [token] := by
  cases spelled with
  | openArray | closeArray | openObject | closeObject | comma | colon =>
    exact separates_mark (by decide) fun _ => rfl
  | nullWord => exact separates_null
  | trueWord => exact separates_word true
  | falseWord => exact separates_word false
  | number => exact absurd trivial notNumber
  | @string text content pieces quoted meant =>
    have separates := separates_quoted quoted
    rwa [meant.decode?_eq] at separates
  | @loneSurrogate text pieces quoted alone =>
    have separates := separates_quoted quoted
    cases decoded : Piece.decode? pieces with
    | none => rwa [decoded] at separates
    | some content => exact absurd (Piece.denotes_of_decode? quoted.narrow decoded) (alone content)

def Apart (words : List Token) : Prop := words.IsChain fun a b => ¬ (a.IsNumber ∧ b.IsNumber)

/-- The words of a grammatical text are found in it. Behind a number, which may still go on, the
next word is none. -/
theorem settled_of_spelling {words : List Token} (spelling : Spelling text words)
    (apart : Apart words) {s : Scanner} (settled : Settled s tokens)
    (free : s = ⟨tokens, .between⟩ ∨ ∀ token ∈ words.head?, ¬ token.IsNumber) :
    Settled (text.foldl step s) (words.reverse ++ tokens) := by
  -- A settled scanner may hold a number, so a number may follow only where it is between words.
  induction spelling generalizing s tokens with
  | @nil blanks blank =>
    cases blanks with
    | nil => exact settled
    | cons c blanks =>
      rw [separates_spaces (fun b member => (isSpace_iff b).mpr (blank b member)) settled]
      exact settled_between
  | @cons blanks lexeme text token words blank spelled rest ih =>
    obtain ⟨cleared, free⟩ : Settled (blanks.foldl step s) tokens ∧
        (blanks.foldl step s = ⟨tokens, .between⟩ ∨ ¬ token.IsNumber) := by
      cases blanks with
      | nil => exact ⟨settled, by simpa using free⟩
      | cons c blanks =>
        rw [separates_spaces (fun b member => (isSpace_iff b).mpr (blank b member)) settled]
        exact ⟨settled_between, .inl rfl⟩
    obtain ⟨follows, tail⟩ := List.isChain_cons.mp apart
    rw [List.foldl_append, List.foldl_append, List.reverse_cons, List.append_assoc]
    by_cases number : token.IsNumber
    · have between := free.resolve_right fun notNumber => notNumber number
      have scanned : Settled (lexeme.foldl step (blanks.foldl step s)) (token :: tokens) := by
        rw [between]
        cases token with
        | number numeral =>
          cases spelled with
          | number spelled => exact spells_number spelled tokens
        | _ => exact absurd number not_false
      exact ih tail scanned (.inr fun next first also => follows next first ⟨number, also⟩)
    · rw [separates_lexeme spelled number cleared]
      exact ih tail settled_between (.inl rfl)

theorem tokens_of_spelling {words : List Token} (spelling : Spelling text words)
    (apart : Apart words) : Json.tokens text = words := by
  have settled := settled_of_spelling spelling apart (settled_between : Settled ⟨[], .between⟩ []) (.inl rfl)
  rw [Json.tokens, start, settled.finish_eq, List.append_nil, List.reverse_reverse]

theorem spelling_tokens (sound : .broken ∉ Json.tokens text) : Spelling text (Json.tokens text) := by
  have opened : Scanned ([] ++ []) start := .reading (.nil isBlank_nil) .between
  exact (opened.foldl text).spelling sound

end Scanner

end Attestation.Json

import Attestation.Json.Document
import Attestation.Proofs.Json.Building

namespace Attestation.Json

namespace Piece

def ofChar (c : Char) : Piece :=
  if c.toNat < 0x20 ∧ c ∉ ['\x08', '\x0c', '\n', '\r', '\t'] then .unit c.toNat else .plain c

theorem denotes_map_ofChar (content : List Char) : Denotes (content.map ofChar) content := by
  induction content with
  | nil => exact .nil
  | cons c rest ih =>
    rw [List.map_cons, ofChar]
    split
    · exact .unit ih
    · exact .plain ih

end Piece

def Numeral.ofInt (n : Int) : Numeral := ⟨n < 0, Text.numeral n.natAbs, [], none⟩

namespace Document

mutual

def toTree : Document → Tree
  | .null => .null
  | .boolean flag => .boolean flag
  | .integer number => .number (.ofInt number)
  | .string content => .string (some content)
  | .array items => .array (toTrees items)
  | .object members => .object (toMembers members)

def toTrees : List Document → List Tree
  | [] => []
  | item :: rest => item.toTree :: toTrees rest

def toMembers : List (String × Document) → List Member
  | [] => []
  | (name, value) :: rest => (some name, value.toTree) :: toMembers rest

end

theorem toMembers_eq (members : List (String × Document)) :
    toMembers members = members.map fun m => (some m.1, m.2.toTree) := by
  induction members with
  | nil => rw [toMembers, List.map_nil]
  | cons m rest ih => rw [toMembers, ih, List.map_cons]

end Document

namespace Grammar

open Document

theorem isHexDigit_hexDigit {n : Nat} (small : n < 16) : IsHexDigit (hexDigit n) n := by
  have listed : ∀ n < 16, lowerDigits[n]? = some (hexDigit n) := by decide
  exact .inl (listed n small)

theorem quoted_escape (c : Char) : Quoted (escape c) [.ofChar c] := by
  by_cases short : c ∈ ['"', '\\', '\x08', '\x0c', '\n', '\r', '\t']
  · simp only [List.mem_cons, List.not_mem_nil, or_false] at short
    rcases short with rfl | rfl | rfl | rfl | rfl | rfl | rfl <;> exact .short (by decide) .nil
  · simp only [List.mem_cons, List.not_mem_nil, or_false, not_or] at short
    -- What has no short spelling is spelled by its number or stands for itself.
    by_cases control : c.toNat < 0x20
    · have spelled : escape c = ['\\', 'u', '0', '0', hexDigit (c.toNat / 16),
          hexDigit (c.toNat % 16)] := by
        simp [escape, short, control]
      have piece : Piece.ofChar c = .unit c.toNat := by simp [Piece.ofChar, short, control]
      have zero : IsHexDigit '0' 0 := .inl rfl
      have quoted := Quoted.unit zero zero (isHexDigit_hexDigit (n := c.toNat / 16) (by omega))
        (isHexDigit_hexDigit (n := c.toNat % 16) (by omega)) .nil
      have whole : ((0 * 16 + 0) * 16 + c.toNat / 16) * 16 + c.toNat % 16 = c.toNat := by omega
      rw [whole] at quoted
      rw [spelled, piece]
      exact quoted
    · have spelled : escape c = [c] := by simp [escape, short, control]
      have piece : Piece.ofChar c = .plain c := by simp [Piece.ofChar, control]
      rw [spelled, piece]
      exact .plain (by omega) short.1 short.2.1 .nil

theorem quoted_content (content : List Char) :
    Quoted (content.flatMap escape) (content.map Piece.ofChar) := by
  induction content with
  | nil => exact .nil
  | cons c rest ih => exact (quoted_escape c).append ih

theorem lexeme_quote (content : String) : Lexeme (quote content) (.string (some content)) := by
  have spelled := Lexeme.string (quoted_content content.toList)
    (Piece.denotes_map_ofChar content.toList)
  rwa [String.ofList_toList] at spelled

theorem lexeme_word (flag : Bool) : Lexeme (word flag) (.boolean flag) := by
  cases flag
  · exact .falseWord
  · exact .trueWord

theorem isWhole_numeral (n : Nat) : IsWhole (Text.numeral n) := by
  refine ⟨⟨Text.numeral_ne_nil n, fun c => Text.isDigit_of_mem_numeral⟩, ?_⟩
  -- A number of several digits starts as a tenth of it does, which is no zero.
  have first : ∀ m, 0 < m → (Text.numeral m).head? ≠ some '0' := by
    intro m
    induction m using Nat.strongRecOn with
    | ind m ih =>
      intro positive
      by_cases small : m < 10
      · have nonzero : ∀ m < 10, 0 < m → Nat.digitChar m ≠ '0' := by decide
        rw [Text.numeral, Nat.toDigits_of_lt_base small]
        simpa using nonzero m small positive
      · have spelled : Text.numeral m = Text.numeral (m / 10) ++ [Nat.digitChar (m % 10)] :=
          Nat.toDigits_of_base_le (by decide) (by omega)
        rw [spelled, List.head?_append_of_ne_nil _ (Text.numeral_ne_nil _)]
        exact ih (m / 10) (by omega) (by omega)
  intro zero
  obtain rfl | positive := Nat.eq_zero_or_pos n
  · rfl
  · exact absurd zero (first n positive)

theorem number_signedNumeral (n : Int) : Number (Text.signedNumeral n) (.ofInt n) := by
  have spelled : Text.signedNumeral n =
      minus (decide (n < 0)) ++ (Text.numeral n.natAbs ++ [] ++ []) := by
    by_cases negative : n < 0 <;> simp [Text.signedNumeral, minus, negative]
  rw [spelled]
  exact .parts (isWhole_numeral _) .none .none

theorem isBlank_newline (depth : Nat) : IsBlank (newline depth) := by
  intro c member
  obtain rfl | inside := List.mem_cons.mp member
  · decide
  · rw [List.eq_of_mem_replicate inside]
    decide

theorem spelling_name (name : String) :
    Spelling (quote name ++ [':']) [.string (some name), .colon] :=
  (lexeme_quote name).spelling.concat .colon

mutual

theorem spelling_compact : ∀ document : Document,
    Spelling document.compact document.toTree.words
  | .null => by
    rw [compact, toTree, Tree.words]
    exact Lexeme.nullWord.spelling
  | .boolean flag => by
    rw [compact, toTree, Tree.words]
    exact (lexeme_word flag).spelling
  | .integer number => by
    rw [compact, toTree, Tree.words]
    exact (Lexeme.number (number_signedNumeral number)).spelling
  | .string content => by
    rw [compact, toTree, Tree.words]
    exact (lexeme_quote content).spelling
  | .array [] => by
    rw [compact, toTree, toTrees, Tree.words]
    exact Lexeme.openArray.spelling.concat .closeArray
  | .array (item :: rest) => by
    rw [compact, toTree, toTrees, Tree.words]
    have opened := Lexeme.openArray.spelling.append (spelling_compact item)
    exact opened.append (spelling_compactItems rest)
  | .object [] => by
    rw [compact, toTree, toMembers, Tree.words]
    exact Lexeme.openObject.spelling.concat .closeObject
  | .object ((name, value) :: rest) => by
    rw [compact, toTree, toMembers, Tree.words]
    have named := Lexeme.openObject.spelling.append (spelling_name name)
    have whole := (named.append (spelling_compact value)).append (spelling_compactMembers rest)
    simpa using whole

theorem spelling_compactItems : ∀ items : List Document,
    Spelling (compactItems items) (Tree.itemWords (toTrees items))
  | [] => by
    rw [compactItems, toTrees, Tree.itemWords]
    exact Lexeme.closeArray.spelling
  | item :: rest => by
    rw [compactItems, toTrees, Tree.itemWords]
    have opened := Lexeme.comma.spelling.append (spelling_compact item)
    exact opened.append (spelling_compactItems rest)

theorem spelling_compactMembers : ∀ members : List (String × Document),
    Spelling (compactMembers members) (Tree.memberWords (toMembers members))
  | [] => by
    rw [compactMembers, toMembers, Tree.memberWords]
    exact Lexeme.closeObject.spelling
  | (name, value) :: rest => by
    rw [compactMembers, toMembers, Tree.memberWords]
    have named := Lexeme.comma.spelling.append (spelling_name name)
    have whole := (named.append (spelling_compact value)).append (spelling_compactMembers rest)
    simpa using whole

end

-- The same words with blanks in between: a new line in front of each item, a space behind a colon.
mutual

theorem spelling_indented : ∀ (depth : Nat) (document : Document),
    Spelling (document.indented depth) document.toTree.words
  | depth, .null => by
    rw [indented, toTree, Tree.words]
    exact Lexeme.nullWord.spelling
  | depth, .boolean flag => by
    rw [indented, toTree, Tree.words]
    exact (lexeme_word flag).spelling
  | depth, .integer number => by
    rw [indented, toTree, Tree.words]
    exact (Lexeme.number (number_signedNumeral number)).spelling
  | depth, .string content => by
    rw [indented, toTree, Tree.words]
    exact (lexeme_quote content).spelling
  | depth, .array [] => by
    rw [indented, toTree, toTrees, Tree.words]
    exact Lexeme.openArray.spelling.concat .closeArray
  | depth, .array (item :: rest) => by
    rw [indented, toTree, toTrees, Tree.words]
    have placed := (spelling_indented (depth + 1) item).after_blanks (isBlank_newline (depth + 1))
    have opened := Lexeme.openArray.spelling.append placed
    simpa using opened.append (spelling_indentedItems depth rest)
  | depth, .object [] => by
    rw [indented, toTree, toMembers, Tree.words]
    exact Lexeme.openObject.spelling.concat .closeObject
  | depth, .object ((name, value) :: rest) => by
    rw [indented, toTree, toMembers, Tree.words]
    have placed := (spelling_name name).after_blanks (isBlank_newline (depth + 1))
    have valued := (spelling_indented (depth + 1) value).after_blanks isBlank_space
    have opened := (Lexeme.openObject.spelling.append placed).append valued
    simpa using opened.append (spelling_indentedMembers depth rest)

theorem spelling_indentedItems : ∀ (depth : Nat) (items : List Document),
    Spelling (indentedItems depth items) (Tree.itemWords (toTrees items))
  | depth, [] => by
    rw [indentedItems, toTrees, Tree.itemWords]
    exact Lexeme.closeArray.spelling.after_blanks (isBlank_newline depth)
  | depth, item :: rest => by
    rw [indentedItems, toTrees, Tree.itemWords]
    have placed := (spelling_indented (depth + 1) item).after_blanks (isBlank_newline (depth + 1))
    have opened := Lexeme.comma.spelling.append placed
    simpa using opened.append (spelling_indentedItems depth rest)

theorem spelling_indentedMembers : ∀ (depth : Nat) (members : List (String × Document)),
    Spelling (indentedMembers depth members) (Tree.memberWords (toMembers members))
  | depth, [] => by
    rw [indentedMembers, toMembers, Tree.memberWords]
    exact Lexeme.closeObject.spelling.after_blanks (isBlank_newline depth)
  | depth, (name, value) :: rest => by
    rw [indentedMembers, toMembers, Tree.memberWords]
    have placed := (spelling_name name).after_blanks (isBlank_newline (depth + 1))
    have valued := (spelling_indented (depth + 1) value).after_blanks isBlank_space
    have opened := (Lexeme.comma.spelling.append placed).append valued
    simpa using opened.append (spelling_indentedMembers depth rest)

end

end Grammar

namespace Tree

variable (document : Document)

theorem spelledBy_toText : document.toTree.SpelledBy document.toText.toList := by
  rw [Document.toText, String.toList_ofList]
  exact Grammar.spelling_compact document

theorem spelledBy_toIndentedText : document.toTree.SpelledBy document.toIndentedText.toList := by
  rw [Document.toIndentedText, String.toList_ofList]
  exact Grammar.spelling_indented 0 document

end Tree

end Attestation.Json

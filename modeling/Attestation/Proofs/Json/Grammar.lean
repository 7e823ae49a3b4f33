import Attestation.Json.Tree

/-!
The grammar of JSON texts: how a string and a number are spelled, which words a text spells, and
which words a tree has. A text is one value exactly when it spells the words of a tree, and then it
is read as that tree (`Tree.ofText_eq_iff` in the module on building).
-/

namespace Attestation.Json

/-- The characters that pieces denote. A high surrogate and the low one behind it are one character,
and neither stands alone. -/
inductive Piece.Denotes : List Piece → List Char → Prop where
  | nil : Denotes [] []
  | plain {c : Char} {pieces : List Piece} {content : List Char} (rest : Denotes pieces content) :
    Denotes (.plain c :: pieces) (c :: content)
  | unit {c : Char} {pieces : List Piece} {content : List Char} (rest : Denotes pieces content) :
    Denotes (.unit c.toNat :: pieces) (c :: content)
  | pair {high low : Nat} {c : Char} {pieces : List Piece} {content : List Char}
    (highBounds : 0xd800 ≤ high ∧ high < 0xdc00) (lowBounds : 0xdc00 ≤ low ∧ low < 0xe000)
    (joined : c.toNat = 0x10000 + (high - 0xd800) * 0x400 + (low - 0xdc00))
    (rest : Denotes pieces content) :
    Denotes (.unit high :: .unit low :: pieces) (c :: content)

namespace Piece

theorem isHigh_iff (code : Nat) : isHigh code = true ↔ 0xd800 ≤ code ∧ code < 0xdc00 := by
  simp [isHigh]

theorem isLow_iff (code : Nat) : isLow code = true ↔ 0xdc00 ≤ code ∧ code < 0xe000 := by
  simp [isLow]

theorem decode?_unit {code : Nat} (notHigh : isHigh code = false) (notLow : isLow code = false)
    (pieces : List Piece) :
    decode? (.unit code :: pieces) = (decode? pieces).map (Char.ofNat code :: ·) := by
  cases pieces with
  | nil => simp [decode?, notHigh, notLow]
  | cons piece rest => cases piece <;> simp [decode?, notHigh, notLow]

theorem not_surrogate (c : Char) : isHigh c.toNat = false ∧ isLow c.toNat = false := by
  have valid : c.toNat.isValidChar := c.valid
  simp only [Nat.isValidChar] at valid
  simp only [isHigh, isLow, Bool.and_eq_false_iff, decide_eq_false_iff_not]
  omega

theorem toNat_ofNat {code : Nat} (valid : code.isValidChar) : (Char.ofNat code).toNat = code := by
  rw [Char.ofNat, dif_pos valid]
  rfl

theorem toNat_join {high low : Nat} (highBounds : 0xd800 ≤ high ∧ high < 0xdc00)
    (lowBounds : 0xdc00 ≤ low ∧ low < 0xe000) :
    (join high low).toNat = 0x10000 + (high - 0xd800) * 0x400 + (low - 0xdc00) := by
  refine toNat_ofNat ?_
  simp only [Nat.isValidChar]
  omega

theorem Denotes.decode?_eq {pieces : List Piece} {content : List Char}
    (meant : Denotes pieces content) : decode? pieces = some content := by
  induction meant with
  | nil => rfl
  | plain _ ih => rw [decode?, ih, Option.map_some]
  | @unit c _ _ _ ih =>
    obtain ⟨notHigh, notLow⟩ := not_surrogate c
    rw [decode?_unit notHigh notLow, ih, Option.map_some, Char.ofNat_toNat]
  | @pair high low c _ _ highBounds lowBounds joined _ ih =>
    have isHigh := (isHigh_iff high).mpr highBounds
    have isLow := (isLow_iff low).mpr lowBounds
    have number := toNat_join highBounds lowBounds
    have same : join high low = c := Char.toNat_inj.mp (number.trans joined.symm)
    simp [decode?, isHigh, isLow, ih, same]

theorem Denotes.of_unit {code : Nat} {pieces : List Piece} {content : List Char}
    (bound : code < 0x10000) (notHigh : isHigh code = false) (notLow : isLow code = false)
    (rest : Denotes pieces content) :
    Denotes (.unit code :: pieces) (Char.ofNat code :: content) := by
  have valid : code.isValidChar := by
    simp only [isHigh, isLow, Bool.and_eq_false_iff, decide_eq_false_iff_not] at notHigh notLow
    simp only [Nat.isValidChar]
    omega
  have same := toNat_ofNat valid
  have meant := Denotes.unit (c := Char.ofNat code) rest
  rwa [same] at meant

def Narrow (pieces : List Piece) : Prop := ∀ code, .unit code ∈ pieces → code < 0x10000

theorem denotes_of_decode? {pieces : List Piece} (narrow : Narrow pieces) {content : List Char}
    (decoded : decode? pieces = some content) : Denotes pieces content := by
  fun_induction decode? pieces generalizing content with
  | case1 => 
    cases decoded
    exact .nil
  | case2 c rest ih =>
    obtain ⟨tail, found, rfl⟩ := Option.map_eq_some_iff.mp decoded
    exact .plain (ih (fun code member => narrow code (List.mem_cons_of_mem _ member)) found)
  | case3 high low rest isHigh isLow ih =>
    obtain ⟨tail, found, rfl⟩ := Option.map_eq_some_iff.mp decoded
    have highBounds := (isHigh_iff high).mp isHigh
    have lowBounds := (isLow_iff low).mp isLow
    refine .pair highBounds lowBounds (toNat_join highBounds lowBounds) (ih ?_ found)
    exact fun code member => narrow code (List.mem_cons_of_mem _ (List.mem_cons_of_mem _ member))
  | case4 high low rest isHigh notLow => cases decoded
  | case5 high low rest notHigh isLow => cases decoded
  | case6 code low rest notHigh notLow ih =>
    obtain ⟨tail, found, rfl⟩ := Option.map_eq_some_iff.mp decoded
    have tailMeant := ih (fun code member => narrow code (List.mem_cons_of_mem _ member)) found
    exact .of_unit (narrow code (List.mem_cons_self ..)) (Bool.eq_false_iff.mpr notHigh)
      (Bool.eq_false_iff.mpr notLow) tailMeant
  | case7 => cases decoded
  | case8 code rest notPair notSurrogate ih =>
    obtain ⟨tail, found, rfl⟩ := Option.map_eq_some_iff.mp decoded
    have tailMeant := ih (fun code member => narrow code (List.mem_cons_of_mem _ member)) found
    obtain ⟨notHigh, notLow⟩ : isHigh code = false ∧ isLow code = false := by
      simpa using notSurrogate
    exact .of_unit (narrow code (List.mem_cons_self ..)) notHigh notLow tailMeant

end Piece

namespace Grammar

def IsBlank (text : List Char) : Prop := ∀ c ∈ text, c ∈ [' ', '\t', '\n', '\r']

def lowerDigits : List Char :=
  ['0', '1', '2', '3', '4', '5', '6', '7', '8', '9', 'a', 'b', 'c', 'd', 'e', 'f']

def upperDigits : List Char :=
  ['0', '1', '2', '3', '4', '5', '6', '7', '8', '9', 'A', 'B', 'C', 'D', 'E', 'F']

def IsHexDigit (c : Char) (n : Nat) : Prop := lowerDigits[n]? = some c ∨ upperDigits[n]? = some c

def shortEscapes : List (Char × Char) :=
  [('"', '"'), ('\\', '\\'), ('/', '/'), ('b', '\x08'), ('f', '\x0c'), ('n', '\n'), ('r', '\r'),
    ('t', '\t')]

theorem shortEscape?_eq_some_iff (letter meant : Char) :
    Scanner.shortEscape? letter = some meant ↔ (letter, meant) ∈ shortEscapes := by
  constructor
  · intro found
    unfold Scanner.shortEscape? at found
    split at found
    all_goals first
      | cases found; decide
      | cases found
  · intro listed
    simp only [shortEscapes, List.mem_cons, Prod.mk.injEq, List.not_mem_nil, or_false] at listed
    rcases listed with ⟨rfl, rfl⟩ | ⟨rfl, rfl⟩ | ⟨rfl, rfl⟩ | ⟨rfl, rfl⟩ | ⟨rfl, rfl⟩ | ⟨rfl, rfl⟩ |
      ⟨rfl, rfl⟩ | ⟨rfl, rfl⟩ <;> rfl

theorem lt_of_isHexDigit {c : Char} {n : Nat} (digit : IsHexDigit c n) : n < 16 := by
  rcases digit with found | found
  · exact (List.getElem?_eq_some_iff.mp found).1
  · exact (List.getElem?_eq_some_iff.mp found).1

theorem hexDigit?_of_isHexDigit {c : Char} {n : Nat} (digit : IsHexDigit c n) :
    Scanner.hexDigit? c = some n := by
  have listed : ∀ n < 16, lowerDigits[n]?.bind Scanner.hexDigit? = some n ∧
      upperDigits[n]?.bind Scanner.hexDigit? = some n := by decide
  obtain ⟨lower, upper⟩ := listed n (lt_of_isHexDigit digit)
  rcases digit with found | found
  · rwa [found, Option.bind_some] at lower
  · rwa [found, Option.bind_some] at upper

theorem isHexDigit_of_hexDigit? {c : Char} {n : Nat} (found : Scanner.hexDigit? c = some n) :
    IsHexDigit c n := by
  have ascii : c.toNat < 128 := by
    unfold Scanner.hexDigit? at found
    have number : c.toNat = c.val.toNat := rfl
    simp only [Char.isDigit, Bool.and_eq_true, decide_eq_true_eq, Char.le_def, ge_iff_le,
      UInt32.le_iff_toNat_le] at found
    split at found
    · rename_i range
      have top : '9'.val.toNat = 57 := rfl
      omega
    · split at found
      · rename_i range
        have top : 'f'.val.toNat = 102 := rfl
        omega
      · split at found
        · rename_i range
          have top : 'F'.val.toNat = 70 := rfl
          omega
        · cases found
  have listed : ∀ code < 128, ∀ n ∈ Scanner.hexDigit? (Char.ofNat code),
      lowerDigits[n]? = some (Char.ofNat code) ∨ upperDigits[n]? = some (Char.ofNat code) := by decide
  have digit := listed c.toNat ascii n
  rw [Char.ofNat_toNat] at digit
  exact digit found

inductive Quoted : List Char → List Piece → Prop where
  | nil : Quoted [] []
  | plain {c : Char} {text : List Char} {pieces : List Piece} (printable : 0x20 ≤ c.toNat)
    (noQuote : c ≠ '"') (noBackslash : c ≠ '\\') (rest : Quoted text pieces) :
    Quoted (c :: text) (.plain c :: pieces)
  | short {letter meant : Char} {text : List Char} {pieces : List Piece}
    (listed : (letter, meant) ∈ shortEscapes) (rest : Quoted text pieces) :
    Quoted ('\\' :: letter :: text) (.plain meant :: pieces)
  | unit {a b c d : Char} {i j k l : Nat} {text : List Char} {pieces : List Piece}
    (first : IsHexDigit a i) (second : IsHexDigit b j) (third : IsHexDigit c k)
    (fourth : IsHexDigit d l) (rest : Quoted text pieces) :
    Quoted ('\\' :: 'u' :: a :: b :: c :: d :: text)
      (.unit (((i * 16 + j) * 16 + k) * 16 + l) :: pieces)

def IsDigits (text : List Char) : Prop := text ≠ [] ∧ ∀ c ∈ text, c.isDigit = true

def IsWhole (text : List Char) : Prop := IsDigits text ∧ (text.head? = some '0' → text = ['0'])

inductive Fraction : List Char → List Char → Prop where
  | none : Fraction [] []
  | digits {digits : List Char} (spelled : IsDigits digits) : Fraction ('.' :: digits) digits

inductive Power : List Char → Option (Bool × List Char) → Prop where
  | none : Power [] none
  | digits {mark : Char} {sign digits : List Char} {negative : Bool} (marked : mark ∈ ['e', 'E'])
    (signed : (sign, negative) ∈ [([], false), (['+'], false), (['-'], true)])
    (spelled : IsDigits digits) : Power (mark :: sign ++ digits) (some (negative, digits))

def minus (negative : Bool) : List Char := if negative then ['-'] else []

inductive Number : List Char → Numeral → Prop where
  | parts {negative : Bool} {whole fractionText fraction powerText : List Char}
    {power : Option (Bool × List Char)} (spelled : IsWhole whole)
    (fractional : Fraction fractionText fraction) (scaled : Power powerText power) :
    Number (minus negative ++ (whole ++ fractionText ++ powerText))
      ⟨negative, whole, fraction, power⟩

/-- The spelling of one word. A string whose pieces denote no characters has no content. -/
inductive Lexeme : List Char → Token → Prop where
  | openArray : Lexeme ['['] .openArray
  | closeArray : Lexeme [']'] .closeArray
  | openObject : Lexeme ['{'] .openObject
  | closeObject : Lexeme ['}'] .closeObject
  | comma : Lexeme [','] .comma
  | colon : Lexeme [':'] .colon
  | nullWord : Lexeme ['n', 'u', 'l', 'l'] .null
  | trueWord : Lexeme ['t', 'r', 'u', 'e'] (.boolean true)
  | falseWord : Lexeme ['f', 'a', 'l', 's', 'e'] (.boolean false)
  | number {text : List Char} {numeral : Numeral} (spelled : Number text numeral) :
    Lexeme text (.number numeral)
  | string {text content : List Char} {pieces : List Piece} (spelled : Quoted text pieces)
    (meant : Piece.Denotes pieces content) :
    Lexeme ('"' :: text ++ ['"']) (.string (some (String.ofList content)))
  | loneSurrogate {text : List Char} {pieces : List Piece} (spelled : Quoted text pieces)
    (meant : ∀ content, ¬ Piece.Denotes pieces content) :
    Lexeme ('"' :: text ++ ['"']) (.string none)

inductive Spelling : List Char → List Token → Prop where
  | nil {blanks : List Char} (blank : IsBlank blanks) : Spelling blanks []
  | cons {blanks lexeme text : List Char} {token : Token} {words : List Token}
    (blank : IsBlank blanks) (spelled : Lexeme lexeme token) (rest : Spelling text words) :
    Spelling (blanks ++ lexeme ++ text) (token :: words)

end Grammar

namespace Tree

mutual

def words : Tree → List Token
  | .null => [.null]
  | .boolean flag => [.boolean flag]
  | .number numeral => [.number numeral]
  | .string content => [.string content]
  | .array [] => [.openArray, .closeArray]
  | .array (item :: rest) => .openArray :: item.words ++ itemWords rest
  | .object [] => [.openObject, .closeObject]
  | .object ((name, value) :: rest) =>
    .openObject :: .string name :: .colon :: value.words ++ memberWords rest
  | .broken => [.broken]

def itemWords : List Tree → List Token
  | [] => [.closeArray]
  | item :: rest => .comma :: item.words ++ itemWords rest

def memberWords : List Member → List Token
  | [] => [.closeObject]
  | (name, value) :: rest => .comma :: .string name :: .colon :: value.words ++ memberWords rest

end

/-- The text is one value, with blanks around its words at most. -/
def SpelledBy (tree : Tree) (text : List Char) : Prop := Grammar.Spelling text tree.words

end Tree

end Attestation.Json

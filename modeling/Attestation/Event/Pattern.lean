import Attestation.Text
import Attestation.Text.Alphanumeric

namespace Attestation

/-! Regular expressions in which no closing brace occurs, so that nothing can be counted in them.
What they match is of no account here; it matters only whether they are understood. They are
matched without tables of Unicode, so its classes and cases are unknown. -/

/-- Why a pattern is not understood. Words end where letters end, which cannot be told byte by
byte. -/
inductive PatternFault where
  | malformed
  | wordBoundary
  deriving DecidableEq

namespace Pattern

/-- How the parts of a pattern are read: `spaced` patterns may have blanks and comments between
their parts, `caseless` ones match letters of either case, and `unicode` ones characters and not
bytes. -/
structure Mode where
  spaced : Bool
  caseless : Bool
  unicode : Bool
  deriving DecidableEq

def Mode.needsCases (mode : Mode) : Bool := mode.caseless && mode.unicode

inductive Atom where
  | literal (c : Char)
  | several
  | anchor
  | word (unicode : Bool)
  deriving DecidableEq

def skipComment (text : List Char) : List Char := (text.dropWhile (· != '\n')).drop 1

def skipFiller (spaced : Bool) : Nat → List Char → List Char
  | 0, text => text
  | fuel + 1, text =>
    if spaced then
      match Text.skipBlanks text with
      | '#' :: rest => skipFiller spaced fuel (skipComment rest)
      | rest => rest
    else text

def Mode.skip (mode : Mode) (text : List Char) : List Char :=
  skipFiller mode.spaced text.length text

def hexValue? (c : Char) : Option Nat :=
  if c.isDigit then some (c.toNat - '0'.toNat)
  else if 'a' ≤ c ∧ c ≤ 'f' then some (c.toNat - 'a'.toNat + 10)
  else if 'A' ≤ c ∧ c ≤ 'F' then some (c.toNat - 'A'.toNat + 10)
  else none

def hexadecimal (mode : Mode) : Nat → Nat → List Char → Option (Char × List Char)
  | 0, code, text => if code.isValidChar then some (Char.ofNat code, text) else none
  | count + 1, code, text =>
    match mode.skip text with
    | [] => none
    | c :: rest => do hexadecimal mode count (code * 16 + (← hexValue? c)) rest

def escape (mode : Mode) (text : List Char) : Option (Atom × List Char) :=
  match text with
  | [] => none
  | c :: rest =>
    match c with
    | 'x' => byte (hexadecimal mode 2 0 rest)
    | 'u' => byte (hexadecimal mode 4 0 rest)
    | 'U' => byte (hexadecimal mode 8 0 rest)
    | 'd' | 's' | 'w' => if mode.unicode then none else some (.several, rest)
    | 'a' => some (.literal '\x07', rest)
    | 'f' => some (.literal '\x0c', rest)
    | 't' => some (.literal '\t', rest)
    | 'n' => some (.literal '\n', rest)
    | 'r' => some (.literal '\r', rest)
    | 'v' => some (.literal '\x0b', rest)
    | 'A' | 'z' => some (.anchor, rest)
    | 'b' | 'B' | '<' | '>' => some (.word mode.unicode, rest)
    | c => if c.toNat < 0x80 && !c.isAlphanum then some (.literal c, rest) else none
where
  byte : Option (Char × List Char) → Option (Atom × List Char)
    | some (c, rest) =>
      if mode.unicode || c.toNat < 0x80 then some (.literal c, rest) else none
    | none => none

def member (mode : Mode) (text : List Char) : Option (Atom × List Char) :=
  match text with
  | '\\' :: rest =>
    match escape mode rest with
    | some (.literal c, rest) => some (.literal c, rest)
    | some (.several, rest) => some (.several, rest)
    | _ => none
  | c :: rest => if mode.unicode || c.toNat < 0x80 then some (.literal c, rest) else none
  | [] => none

def range (mode : Mode) (text : List Char) : Option (List Char) := do
  let (first, rest) ← member mode text
  match mode.skip rest with
  | [] => none
  | '-' :: rest =>
    match mode.skip rest with
    | [] | ']' :: _ | '-' :: _ => some ('-' :: rest)
    | rest => do
      let (last, rest) ← member mode rest
      match first, last with
      | .literal a, .literal b => if a ≤ b then some rest else none
      | _, _ => none
  | rest => some rest

def classNames : List String :=
  ["alnum", "alpha", "ascii", "blank", "cntrl", "digit", "graph", "lower", "print", "punct", "space",
    "upper", "word", "xdigit"]

def namedClass (text : List Char) : Option (List Char) :=
  match text with
  | '[' :: ':' :: rest =>
    let rest := match rest with
      | '^' :: rest => rest
      | rest => rest
    let name := rest.takeWhile (· != ':')
    match rest.drop name.length with
    | ':' :: ']' :: rest => if classNames.contains (String.ofList name) then some rest else none
    | _ => none
  | _ => none

/-- What follows an opening bracket: a circumflex negates, and hyphens and then a closing bracket
that come first stand for themselves. -/
def openBracket (mode : Mode) (text : List Char) : Option (List Char) :=
  match mode.skip text with
  | '^' :: rest => if mode.unicode then some (first rest) else none
  | rest => some (first rest)
where
  first (text : List Char) : List Char :=
    let rest := hyphens text.length (mode.skip text)
    match rest with
    | ']' :: more => if rest.length = (mode.skip text).length then more else rest
    | _ => rest
  hyphens : Nat → List Char → List Char
    | fuel + 1, '-' :: rest => hyphens fuel (mode.skip rest)
    | _, rest => rest

def bracketed (mode : Mode) : Nat → Nat → List Char → Option (List Char)
  | 0, _, _ => none
  | fuel + 1, depth, text =>
    match mode.skip text with
    | ']' :: rest => if depth ≤ 1 then some rest else bracketed mode fuel (depth - 1) rest
    | '&' :: '&' :: rest | '-' :: '-' :: rest | '~' :: '~' :: rest => bracketed mode fuel depth rest
    | '[' :: rest =>
      match namedClass ('[' :: rest) with
      | some rest => bracketed mode fuel depth rest
      | none => do bracketed mode fuel (depth + 1) (← openBracket mode rest)
    | rest => do bracketed mode fuel depth (← range mode rest)

/-- The flags of a group up to its colon or closing bracket. No flag comes twice, and a hyphen,
which turns off the flags behind it, is not the last. -/
def flags (seen : List Char) (text : List Char) : Option (List Char × Char × List Char) :=
  match text with
  | [] => none
  | c :: rest =>
    if c == ':' || c == ')' then
      if seen.head? == some '-' then none else some (seen.reverse, c, rest)
    else if "-imsUuRx".toList.contains c && !seen.contains c then flags (c :: seen) rest
    else none

def Mode.set (given : List Char) (flag : Char) (before : Bool) : Bool :=
  if given.contains flag then !(given.takeWhile (· != flag)).contains '-' else before

def Mode.apply (mode : Mode) (given : List Char) : Mode :=
  ⟨Mode.set given 'x' mode.spaced, Mode.set given 'i' mode.caseless,
    Mode.set given 'u' mode.unicode⟩

def groupName (text : List Char) : Option (List Char × List Char) :=
  let name := text.takeWhile (· != '>')
  match name, text.drop name.length with
  | c :: more, _ :: rest =>
    if (c == '_' || Text.isAlphabetic c) &&
        more.all fun c => "_.[]".toList.contains c || Text.isAlphanumeric c then
      some (name, rest)
    else none
  | _, _ => none

structure Draft where
  mode : Mode
  around : List Mode
  names : List (List Char)
  repeatable : Bool
  asksForWords : Bool

namespace Draft

def start : Draft := ⟨⟨false, false, true⟩, [], [], false, false⟩

def afterAtom (draft : Draft) (atom : Atom) : Draft :=
  { draft with repeatable := true, asksForWords := draft.asksForWords || atom == .word true }

def afterLiteral (draft : Draft) (c : Char) : Option Draft :=
  if draft.mode.needsCases then none else some (draft.afterAtom (.literal c))

def openGroup (draft : Draft) (mode : Mode) : Draft :=
  { draft with mode := mode, around := draft.mode :: draft.around, repeatable := false }

def openNamed (draft : Draft) (text : List Char) : Option (Draft × List Char) := do
  let (name, rest) ← groupName text
  if draft.names.contains name then none
  else some ({ draft.openGroup draft.mode with names := name :: draft.names }, rest)

def group (draft : Draft) (text : List Char) : Option (Draft × List Char) :=
  match text with
  | '?' :: 'P' :: '<' :: rest => draft.openNamed rest
  | '?' :: '<' :: rest => draft.openNamed rest
  | '?' :: rest => do
    let (given, last, rest) ← flags [] rest
    let mode := draft.mode.apply given
    if last == ':' then some (draft.openGroup mode, rest)
    else if given.isEmpty then none
    else some ({ draft with mode := mode, repeatable := false }, rest)
  | rest => some (draft.openGroup draft.mode, rest)

def next (draft : Draft) (c : Char) (rest : List Char) : Option (Draft × List Char) :=
  match c with
  | '(' => draft.group (draft.mode.skip rest)
  | ')' =>
    match draft.around with
    | mode :: around => some ({ draft with mode := mode, around := around, repeatable := true }, rest)
    | [] => none
  | '|' => some ({ draft with repeatable := false }, rest)
  | '[' => do
    let inside ← openBracket draft.mode rest
    let rest ← bracketed draft.mode (inside.length + 1) 1 inside
    if draft.mode.needsCases then none else some (draft.afterAtom .several, rest)
  | '?' | '*' | '+' =>
    if draft.repeatable then
      match rest with
      | '?' :: rest => some (draft, rest)
      | rest => some (draft, rest)
    else none
  | '{' => none
  | '\\' => do
    match ← escape draft.mode rest with
    | (.literal c, rest) => return (← draft.afterLiteral c, rest)
    | (atom, rest) => return (draft.afterAtom atom, rest)
  | '^' | '$' => some (draft.afterAtom .anchor, rest)
  | '.' => if draft.mode.unicode then some (draft.afterAtom .several, rest) else none
  | c => do return (← draft.afterLiteral c, rest)

def finish : Nat → Draft → List Char → Option Draft
  | 0, _, _ => none
  | fuel + 1, draft, text =>
    match draft.mode.skip text with
    | [] => if draft.around.isEmpty then some draft else none
    | c :: rest => do
      let (draft, rest) ← draft.next c rest
      finish fuel draft rest

end Draft

def fault? (text : List Char) : Option PatternFault :=
  match Draft.start.finish (text.length + 1) text with
  | none => some .malformed
  | some draft => if draft.asksForWords then some .wordBoundary else none

end Pattern

end Attestation

import Attestation.Event
import Attestation.Event.Pattern
import Attestation.Text

namespace Attestation

abbrev Threshold := Option Level

namespace Threshold

def admits (threshold : Threshold) (level : Level) : Bool :=
  match threshold with
  | none => false
  | some least => least.severity ≤ level.severity

def all : List Threshold :=
  [none, some .error, some .warn, some .info, some .debug, some .trace]

def wireName : Threshold → String
  | none => "OFF"
  | some level => level.wireName

def dropPlus : List Char → List Char
  | '+' :: rest => rest
  | text => text

def ofName? (name : List Char) : Option Threshold :=
  let digits := dropPlus name
  if !digits.isEmpty && digits.all Char.isDigit then all[Text.number digits]?
  else all.find? fun threshold => threshold.wireName.toList == name.map Char.toUpper

end Threshold

structure FieldDemand where
  name : String
  isValued : Bool
  deriving DecidableEq

/-- The threshold for some of the events: those whose target starts with `target` and that have a
field, or only such as happen within a named span of time. -/
structure Directive where
  target : Option (List Char) := none
  withinSpan : Bool := false
  field : Option FieldDemand := none
  threshold : Threshold := some .trace
  deriving DecidableEq

inductive DirectiveFault where
  | malformed
  | unknownThreshold
  | badPattern (fault : PatternFault)
  deriving DecidableEq

def DirectiveFault.message : DirectiveFault → String
  | .malformed => "invalid filter directive"
  | .unknownThreshold =>
    "error parsing level filter: expected one of \"off\", \"error\", \"warn\", \"info\", " ++
      "\"debug\", \"trace\", or a number 0-5"
  | .badPattern .malformed => "invalid field filter: error building NFA"
  | .badPattern .wordBoundary =>
    "invalid field filter: unsupported regex feature for DFAs: cannot build DFAs for regexes with " ++
      "Unicode word boundaries; switch to ASCII word boundaries, or heuristically enable Unicode " ++
      "word boundaries or use a different regex engine"

namespace FieldDemand

def skipDigits (text : List Char) : List Char := text.dropWhile Char.isDigit

def isNumber (text : List Char) : Bool :=
  let whole := text.takeWhile Char.isDigit
  let places := match skipDigits text with
    | '.' :: rest => rest.takeWhile Char.isDigit
    | _ => []
  let rest := match skipDigits text with
    | '.' :: rest => skipDigits rest
    | rest => rest
  ["INF", "INFINITY", "NAN"].contains (String.ofList (text.map Char.toUpper)) ||
    (!(whole ++ places).isEmpty &&
      match rest with
      | [] => true
      | e :: power =>
        let digits := match power with
          | '+' :: digits | '-' :: digits => digits
          | digits => digits
        (e == 'e' || e == 'E') && !digits.isEmpty && digits.all Char.isDigit)

/-- The fault of a value that a field is to have: a truth value, a number or a pattern. All truth
values and numbers are patterns too, save those with a plus in front. -/
def valueFault? (value : List Char) : Option PatternFault :=
  match value with
  | '+' :: rest => if isNumber rest then none else Pattern.fault? value
  | _ => Pattern.fault? value

def ofText (text : List Char) : Except DirectiveFault FieldDemand :=
  let name := text.takeWhile (· != '=')
  match text.drop name.length with
  | [] => if text.isEmpty then .error .malformed else .ok ⟨String.ofList name, false⟩
  | _ :: rest =>
    match valueFault? (rest.takeWhile (· != '=')) with
    | some fault => .error (.badPattern fault)
    | none => .ok ⟨String.ofList name, true⟩

end FieldDemand

namespace Directive

inductive Stage where
  | beginning
  | word (start : Nat)
  | span (start : Nat)
  | field (start : Nat)
  | afterField
  | afterSpan
  | threshold (start : Nat)

structure Draft where
  stage : Stage := .beginning
  place : Nat := 0
  directive : Directive := {}

def dropBytes? : Nat → List Char → Option (List Char)
  | 0, text => some text
  | _ + 1, [] => none
  | count + 1, c :: rest =>
    if c.utf8Size ≤ count + 1 then dropBytes? (count + 1 - c.utf8Size) rest else none

def takeBytes? : Nat → List Char → Option (List Char)
  | 0, _ => some []
  | _ + 1, [] => none
  | count + 1, c :: rest =>
    if c.utf8Size ≤ count + 1 then (takeBytes? (count + 1 - c.utf8Size) rest).map (c :: ·) else none

def cut (text : List Char) (start : Nat) (stop : Option Nat) : Except DirectiveFault (List Char) :=
  let behind := dropBytes? start text
  match stop with
  | none => behind.elim (.error .malformed) .ok
  | some stop => (behind.bind (takeBytes? (stop - start))).elim (.error .malformed) .ok

def startsTarget (c : Char) : Bool := Text.isAlphanumeric c || c == '-' || c == ':' || c == '_'

namespace Draft

/-- Moves on with the next character. A directive is a target, a span in square brackets with a
field in braces, and a threshold behind an equals sign. -/
def stageAfter (text : List Char) (draft : Draft) (c : Char) :
    Except DirectiveFault (Stage × Directive) := do
  let d := draft.directive
  let next := draft.place + 1
  let upTo (start : Nat) := cut text start (some draft.place)
  match draft.stage, c with
  | .beginning, '[' => return (.span next, d)
  | .beginning, c => if startsTarget c then return (.word draft.place, d) else throw .malformed
  | .word start, '=' => return (.threshold next, { d with target := ← upTo start })
  | .word start, '[' => return (.span next, { d with target := ← upTo start })
  | .span start, ']' => do
    -- the name makes no difference, but it is cut out, which may fail
    let _ ← upTo start
    return (.afterSpan, { d with withinSpan := true })
  | .span start, '{' => return (.field next, { d with withinSpan := !(← upTo start).isEmpty })
  | .field start, '}' =>
    return (.afterField, { d with field := ← FieldDemand.ofText (← upTo start) })
  | .afterField, ']' => return (.afterSpan, d)
  | .afterSpan, '=' => return (.threshold next, d)
  | .afterField, _ | .afterSpan, _ => throw .malformed
  | stage, _ => return (stage, d)

def step (text : List Char) (draft : Draft) (c : Char) : Except DirectiveFault Draft := do
  let (stage, directive) ← draft.stageAfter text c
  return ⟨stage, draft.place + c.utf8Size, directive⟩

/-- The directive at the end of its text. A word alone is a threshold or a target, and what is shown
without threshold is shown in full. -/
def finish (text : List Char) (draft : Draft) : Except DirectiveFault Directive := do
  let d := draft.directive
  match draft.stage with
  | .word start =>
    let word ← cut text start none
    match Threshold.ofName? word with
    | some threshold => return { d with threshold := threshold }
    | none => return { d with target := some word }
  | .threshold start =>
    let name ← cut text start none
    match name.isEmpty, Threshold.ofName? name with
    | true, _ => return d
    | false, some threshold => return { d with threshold := threshold }
    | false, none => throw .unknownThreshold
  | .afterSpan => return d
  | _ => throw .malformed

end Draft

def ofText (text : List Char) : Except DirectiveFault Directive := do
  -- places are counted in the trimmed text, and yet the parts are cut out of the whole one
  (← (Text.trimBlanks text).foldlM (Draft.step text) {}).finish text

/-- Whether a directive can be about an event at all. No event happens within a span. -/
def isStatic (directive : Directive) : Bool :=
  !directive.withinSpan && directive.field.all fun field => !field.isValued

def concerns (directive : Directive) (event : Event) : Bool :=
  directive.isStatic &&
    (directive.target.all fun target => target.isPrefixOf event.source.target.toList) &&
    directive.field.all fun field => event.fieldNames.contains field.name

/-- How closely a directive describes an event that it is about: by a long target, by a field, and
at last by the order of the names of fields. -/
def compareCloseness (a b : Directive) : Ordering :=
  (compare (rank a) (rank b)).then <| (compare (names a).length (names b).length).then <|
    compare (String.join (names a)) (String.join (names b))
where
  rank (directive : Directive) : Nat := directive.target.elim 0 fun target => target.length + 1
  names (directive : Directive) : List String := directive.field.toList.map (·.name)

end Directive

end Attestation

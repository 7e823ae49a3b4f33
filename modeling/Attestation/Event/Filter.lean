import Attestation.Event.Directive

namespace Attestation

structure Filter where
  directives : List Directive

namespace Filter

/-- The directive that counts for an event: of those that concern it the closest one, and of several
that are equally close the last. -/
def decisive? (filter : Filter) (event : Event) : Option Directive :=
  (filter.directives.filter fun directive => directive.concerns event).foldl
    (fun best? directive =>
      match best? with
      | some best => if directive.compareCloseness best == .lt then some best else some directive
      | none => some directive)
    none

def shows (filter : Filter) (event : Event) : Bool :=
  match filter.decisive? event with
  | some directive => directive.threshold.admits event.level
  | none => false

def parts (text : String) : List String := (text.splitOn ",").filter fun part => !part.isEmpty

def ofDirectives (threshold : Threshold) (directives : List Directive) : Filter :=
  ⟨if directives.isEmpty then [{ threshold := threshold }] else directives⟩

def ofText? (text : String) : Option Filter :=
  match (parts text).mapM fun part => Directive.ofText part.toList with
  | .ok directives => some (ofDirectives none directives)
  | .error _ => none

def complaint (part : String) (fault : DirectiveFault) : String :=
  "ignoring \x60" ++ part ++ "\x60: " ++ fault.message

/-- Reads a filter as far as it is understood, with complaints about the rest. Without any directive
only errors are shown. -/
def ofTextLeniently (text : String) : Filter × List String :=
  let read := (parts text).map fun part => (part, Directive.ofText part.toList)
  (ofDirectives (some .error) (read.filterMap fun
      | (_, .ok directive) => some directive
      | (_, .error _) => none),
    read.filterMap fun
      | (_, .ok _) => none
      | (part, .error fault) => some (complaint part fault))

end Filter

end Attestation

import Attestation.Check
import Attestation.Disclosed
import Attestation.Verdict
import Attestation.View

namespace Attestation

structure Submission where
  verdicts : Keyed Check Verdict := ∅
  disclosed : Disclosed := {}
  identity : Option Binding := none
  deriving DecidableEq, Inhabited

namespace Submission

open Json

def verdictDepth : Nat := 2

def readVerdicts (tree : Tree) : Read (Keyed Check Verdict) :=
  return .ofList (← tree.readEntries (Tree.readName Check.all Check.wireName)
    (Verdict.ofTree verdictDepth))

def layout : Layout Submission where
  fields :=
    [⟨"verdicts", fun tree s => return { s with verdicts := ← readVerdicts tree }⟩,
      ⟨"disclosed", fun tree s => return { s with disclosed := ← Disclosed.layout.read tree }⟩,
      ⟨"identity", fun tree s =>
        return { s with identity := ← tree.readOption Binding.layout.read }⟩]
  start := {}
  isPartial := true

def ofText (text : String) : Read Submission := Tree.readText layout.read text

def toDocument (s : Submission) : Document :=
  .object
    [("verdicts", .object (s.verdicts.entries.map fun entry =>
        (entry.1.wireName, entry.2.toDocument))),
      ("disclosed", s.disclosed.toDocument), ("identity", .ofOption Binding.toDocument s.identity)]

def toText (s : Submission) : String := s.toDocument.toText

def withVerdict (s : Submission) (check : Check) (verdict : Verdict) : Submission :=
  { s with verdicts := s.verdicts.insert check verdict }

end Submission

end Attestation

namespace Attestation

inductive Outcome where
  | notEvaluated
  | passed
  | failed
  deriving DecidableEq, Repr, Inhabited

namespace Outcome

def all : List Outcome := [.notEvaluated, .passed, .failed]

/-- The Boolean that stands for an outcome in a view: only a failure is `false`. -/
def flag : Outcome → Bool
  | .failed => false
  | _ => true

def isEvaluated : Outcome → Bool
  | .notEvaluated => false
  | _ => true

/-- A pass never takes a failure back. -/
def onPass : Outcome → Outcome
  | .failed => .failed
  | _ => .passed

def onFailure (_ : Outcome) : Outcome := .failed

def wireName : Outcome → String
  | .notEvaluated => "not_evaluated"
  | .passed => "passed"
  | .failed => "failed"

@[simp] theorem flag_eq_false_iff (o : Outcome) : o.flag = false ↔ o = .failed := by
  cases o <;> simp [flag]

@[simp] theorem flag_eq_true_iff (o : Outcome) : o.flag = true ↔ o ≠ .failed := by
  cases o <;> simp [flag]

end Outcome

/-- How sealing treats the checks that were never evaluated: `lenient` lets them count as passed,
`strict` refuses to seal. -/
inductive Policy where
  | lenient
  | strict
  deriving DecidableEq, Repr

namespace Policy

instance : Inhabited Policy := ⟨.strict⟩

def all : List Policy := [.lenient, .strict]

def wireName : Policy → String
  | .lenient => "lenient"
  | .strict => "strict"

def ofName? (name : String) : Option Policy :=
  all.find? fun p => p.wireName == name

theorem ofName?_wireName (p : Policy) : ofName? p.wireName = some p := by
  cases p <;> decide

end Policy

end Attestation

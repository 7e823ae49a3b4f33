import Attestation.AttributeChecker
import Attestation.Collector
import Attestation.Submission

namespace Attestation

inductive VerifierError where
  | report (error : ReportError)
  | refused (refusal : Refusal)
  | routine (check : Check) (reason : String)
  | duplicateRoutine (check : Check)
  | invalidSubmission (reason : String)

def VerifierError.message : VerifierError → String
  | .report error => "report error: " ++ error.message
  | .refused refusal => "verification refused: " ++ refusal.obstacle.message
  | .routine check reason => "check routine for " ++ check.wireName ++ " failed: " ++ reason
  | .duplicateRoutine check =>
    "a routine is already registered for check " ++ check.wireName
  | .invalidSubmission reason => "invalid submission: " ++ reason

structure Routine where
  check : Check
  delay : Nat := 0
  answer : Submission → Except VerifierError Verdict

def Routine.completionOrder (routines : List Routine) : List Routine :=
  routines.mergeSort fun a b => a.delay ≤ b.delay

structure VerifierOptions where
  policy : Policy := .strict
  toleranceDays : Int64 := 1
  deriving DecidableEq

structure Verifier where
  options : VerifierOptions
  requirements : Requirements
  routines : List Routine

namespace Verifier

def new (options : VerifierOptions) (requirements : Requirements) : Verifier :=
  ⟨options, requirements, []⟩

def routineChecks (v : Verifier) : List Check := v.routines.map (·.check)

def checker (v : Verifier) : AttributeChecker := .ofDays v.options.toleranceDays

def register (v : Verifier) (routine : Routine) : Except VerifierError (Verifier × Event) :=
  if routine.check ∈ v.routineChecks then .error (.duplicateRoutine routine.check)
  else .ok ({ v with routines := v.routines ++ [routine] }, .routineRegistered routine.check)

/-- The verdict of a routine. One that fails counts as a failure of its check. -/
def verdictOf (routine : Routine) (submission : Submission) : Verdict :=
  match routine.answer submission with
  | .ok verdict => verdict
  | .error error => .fail (.text error.message) (.text "routine verdict")

def errorEvents (attempt : Attempt) (submission : Submission) (routine : Routine) : List Event :=
  match routine.answer submission with
  | .ok _ => []
  | .error error => [.routineErrored attempt routine.check error.message]

def signalOf (check : Check) : Verdict → Signal
  | .pass => .pass check
  | .fail actual expected => .failure check actual expected

section

variable {σ : Type}

def sendAll (c : Collector σ) : List (Check × Verdict) → Except ReportError (Collector σ)
  | [] => .ok c
  | (check, verdict) :: rest => do sendAll (← c.send (signalOf check verdict)) rest

/-- What is reported of an attempt, in order: the supplied verdicts, the routines as they complete,
and the comparison of the attributes. -/
def verdicts (v : Verifier) (submission : Submission) (today : Date) (completed : List Routine) :
    List (Check × Verdict) :=
  submission.verdicts.entries ++ completed.map (fun r => (r.check, verdictOf r submission)) ++
    v.checker.evaluate submission.disclosed v.requirements today

/-- Lets routines send their verdicts as they complete. Each of them has a sender of its own, which
is dropped with it; that of the first is given, and those of the others follow. -/
def sendCompleted (submission : Submission) (c : Collector σ) (sender : Nat) :
    List Routine → Except ReportError (Collector σ)
  | [] => .ok c
  | routine :: rest => do
    let sent ← c.send (signalOf routine.check (verdictOf routine submission))
    sendCompleted submission (sent.dropSender sender) (sender + 1) rest

/-- Reports on an attempt. One sender serves for the supplied verdicts and for the comparison of the
attributes; those of the routines are all handed out before the first of them completes. -/
def gather (v : Verifier) (submission : Submission) (today : Date) (completed : List Routine)
    (c : Collector σ) : Except ReportError (Collector σ) := do
  let own := c.nextSender
  let supplied ← sendAll c.addSender submission.verdicts.entries
  let answered ← sendCompleted submission (supplied.addSenders completed.length)
    supplied.nextSender completed
  let compared ← sendAll answered (v.checker.evaluate submission.disclosed v.requirements today)
  return compared.dropSender own

theorem sendAll_eq (entries : List (Check × Verdict)) {c : Collector σ}
    (running : c.writer = .running) :
    sendAll c entries =
      .ok { c with queue := c.queue ++ entries.map fun entry => signalOf entry.1 entry.2 } := by
  induction entries generalizing c with
  | nil => simp [sendAll]
  | cons entry rest ih =>
    simp only [sendAll, Collector.send, if_pos running, Bind.bind, Except.bind]
    rw [ih (c := { c with queue := c.queue ++ [signalOf entry.1 entry.2] }) running]
    simp

theorem erase_first_of_range' {others : List Nat} {sender : Nat} (count : Nat)
    (earlier : ∀ other ∈ others, other < sender) :
    (others ++ List.range' sender (count + 1)).erase sender =
      others ++ List.range' (sender + 1) count := by
  have apart : sender ∉ others := fun member => Nat.lt_irrefl sender (earlier sender member)
  rw [List.erase_append_right _ apart, List.range'_succ, List.erase_cons_head]

theorem sendCompleted_eq (submission : Submission) (completed : List Routine) {c : Collector σ}
    {others : List Nat} {sender : Nat} (running : c.writer = .running)
    (held : c.senders = others ++ List.range' sender completed.length)
    (earlier : ∀ other ∈ others, other < sender) :
    sendCompleted submission c sender completed =
      .ok { c with
        queue := c.queue ++ completed.map fun r => signalOf r.check (verdictOf r submission)
        senders := others } := by
  induction completed generalizing c sender with
  | nil =>
    obtain rfl : c.senders = others := by simpa using held
    simp [sendCompleted]
  | cons routine rest ih =>
    let sent := { c with
      queue := c.queue ++ [signalOf routine.check (verdictOf routine submission)] }
    have left : (sent.dropSender sender).senders =
        others ++ List.range' (sender + 1) rest.length :=
      (congrArg (List.erase · sender) held).trans (erase_first_of_range' rest.length earlier)
    have later : ∀ other ∈ others, other < sender + 1 :=
      fun other member => Nat.lt_succ_of_lt (earlier other member)
    simp only [sendCompleted, Collector.send, if_pos running, Bind.bind, Except.bind]
    rw [ih (c := sent.dropSender sender) running left later]
    simp [sent, Collector.dropSender]

theorem gather_eq (v : Verifier) (submission : Submission) (today : Date)
    (completed : List Routine) {c : Collector σ} (running : c.writer = .running)
    (alone : c.senders = []) :
    v.gather submission today completed c =
      .ok { c with
        queue := c.queue ++ (v.verdicts submission today completed).map fun entry =>
          signalOf entry.1 entry.2
        nextSender := c.nextSender + 1 + completed.length } := by
  let supplied : Collector σ := { c.addSender with
    queue := c.queue ++ submission.verdicts.entries.map fun entry => signalOf entry.1 entry.2 }
  let answered : Collector σ := { supplied with
    queue := supplied.queue ++ completed.map fun r => signalOf r.check (verdictOf r submission)
    nextSender := supplied.nextSender + completed.length }
  have first : sendAll c.addSender submission.verdicts.entries = .ok supplied :=
    sendAll_eq _ running
  have earlier : ∀ sender ∈ supplied.senders, sender < supplied.nextSender := by
    simp [supplied, Collector.addSender, alone]
  have second : sendCompleted submission (supplied.addSenders completed.length)
      supplied.nextSender completed = .ok answered := by
    rw [Collector.addSenders_eq]
    exact sendCompleted_eq submission completed running rfl earlier
  have third := sendAll_eq (v.checker.evaluate submission.disclosed v.requirements today)
    (show answered.writer = .running from running)
  simp only [gather, first, second, third, Bind.bind, Except.bind]
  simp [Collector.dropSender, answered, supplied, Collector.addSender, alone, verdicts, pure,
    Except.pure]

theorem senders_of_gather (v : Verifier) (submission : Submission) (today : Date)
    (completed : List Routine) {observed : Observed σ} {c : Collector σ}
    (gathered : v.gather submission today completed (Collector.start observed) = .ok c) :
    c.senders = [] := by
  rw [v.gather_eq submission today completed rfl rfl] at gathered
  cases gathered
  rfl

end

/-- The identity is bound only when the proof has passed. -/
def bindingFor (attempt : Attempt) (submission : Submission) (proof : Outcome) :
    Option Binding × List Event :=
  match submission.identity, proof with
  | some identity, .passed => (some identity, [])
  | some _, outcome => (none, [.bindingWithheld attempt outcome])
  | none, _ => (none, [])

def collect (v : Verifier) (submission : Submission) (today : Date) (completed : List Routine)
    (observed : Observed (List Event)) : Except ReportError (Observed (List Event)) :=
  match gathered : v.gather submission today completed (Collector.start observed) with
  | .error error => .error error
  | .ok c => c.finish Observer.logging (v.senders_of_gather submission today completed gathered)

/-- Verifies a submission as of a day, with the routines completing in the given order. The log of
the attempt is returned with the result. -/
def verifyInOrder (v : Verifier) (attempt : Attempt) (submission : Submission) (today : Date)
    (completed : List Routine) : Except VerifierError Sealed × List Event :=
  let started : List Event :=
    .verificationStarted attempt submission.verdicts.entries.length v.routines.length ::
      completed.flatMap (errorEvents attempt submission)
  match v.collect submission today completed ⟨Report.new attempt, started⟩ with
  | .error error => (.error (.report error), started)
  | .ok observed =>
    let (binding, withheld) := bindingFor attempt submission (observed.report.outcomes .proof)
    let drained : Observed (List Event) :=
      { observed with kept := observed.kept ++ .writerDrained attempt :: withheld }
    let (result, events) := drained.sealWith Observer.logging binding v.options.policy
    (result.mapError .refused, events)

def verify (v : Verifier) (attempt : Attempt) (submission : Submission) (today : Date) :
    Except VerifierError Sealed × List Event :=
  v.verifyInOrder attempt submission today (Routine.completionOrder v.routines)

end Verifier

end Attestation

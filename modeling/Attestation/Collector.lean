import Attestation.Observer

namespace Attestation

inductive Writer where
  | running
  | ended
  | broken
  deriving DecidableEq

/-- Gathers the signals of many senders into one report. Signals wait in a queue, oldest first,
until the writer takes them. -/
structure Collector (σ : Type) where
  observed : Observed σ
  queue : List Signal
  senders : List Nat
  nextSender : Nat
  ownHandle : Bool
  writer : Writer

namespace Collector

variable {σ : Type}

def start (observed : Observed σ) : Collector σ := ⟨observed, [], [], 0, true, .running⟩

inductive Action where
  | newSender
  | clone (sender : Nat)
  | drop (sender : Nat)
  | send (sender : Nat) (signal : Signal)
  | take
  | release
  | conclude
  deriving DecidableEq

def addSender (c : Collector σ) : Collector σ :=
  { c with senders := c.senders ++ [c.nextSender], nextSender := c.nextSender + 1 }

def addSenders (c : Collector σ) : Nat → Collector σ
  | 0 => c
  | count + 1 => c.addSender.addSenders count

theorem addSenders_eq (c : Collector σ) (count : Nat) :
    c.addSenders count = { c with
      senders := c.senders ++ List.range' c.nextSender count
      nextSender := c.nextSender + count } := by
  induction count generalizing c with
  | zero => rw [addSenders, List.range'_zero, List.append_nil, Nat.add_zero]
  | succ count ih =>
    rw [addSenders, ih, addSender, List.append_assoc, List.range'_succ, List.singleton_append,
      Nat.add_assoc, Nat.add_comm 1]

def dropSender (c : Collector σ) (sender : Nat) : Collector σ :=
  { c with senders := c.senders.erase sender }

def send (c : Collector σ) (signal : Signal) : Except ReportError (Collector σ) :=
  if c.writer = .running then .ok { c with queue := c.queue ++ [signal] }
  else .error .collectorClosed

def apply (observer : Observer σ) (c : Collector σ) (signal : Signal) (rest : List Signal) :
    Collector σ :=
  let observed := (c.observed.record observer signal).1
  if observer.breaksOver signal.check then
    { c with observed := observed, queue := [], writer := .broken }
  else { c with observed := observed, queue := rest }

/-- The collector after an action, if the action is possible. A signal that is refused changes
nothing. -/
def act? (observer : Observer σ) (c : Collector σ) : Action → Option (Collector σ)
  | .newSender => if c.ownHandle then some c.addSender else none
  | .clone sender => if sender ∈ c.senders then some c.addSender else none
  | .drop sender =>
    if sender ∈ c.senders then some (c.dropSender sender) else none
  | .send sender signal =>
    if sender ∈ c.senders then
      match c.send signal with
      | .ok next => some next
      | .error _ => some c
    else none
  | .take =>
    match c.writer, c.queue with
    | .running, signal :: rest => some (c.apply observer signal rest)
    | _, _ => none
  | .release => if c.ownHandle then some { c with ownHandle := false } else none
  | .conclude =>
    if c.writer = .running ∧ c.queue = [] ∧ c.senders = [] ∧ c.ownHandle = false then
      some { c with writer := .ended }
    else none

def run? (observer : Observer σ) (c : Collector σ) (actions : List Action) :
    Option (Collector σ) :=
  actions.foldlM (fun c action => c.act? observer action) c

def drainQueue (observer : Observer σ) (c : Collector σ) : List Signal → Collector σ
  | [] => c
  | signal :: rest =>
    let next := c.apply observer signal rest
    if next.writer = .running then next.drainQueue observer rest else next

def drain (observer : Observer σ) (c : Collector σ) : Collector σ :=
  if c.writer = .running then c.drainQueue observer c.queue else c

/-- Gives the own handle up and waits for the writer to end. As it would wait forever while there
are senders, nobody may have one any more. -/
def finish (observer : Observer σ) (c : Collector σ) (_alone : c.senders = [] := by rfl) :
    Except ReportError (Observed σ) :=
  let drained := { c with ownHandle := false }.drain observer
  if drained.writer = .broken then .error (.writerFailed "the observer broke down")
  else .ok drained.observed

end Collector

end Attestation

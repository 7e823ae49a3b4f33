import Attestation.Proofs.Collector.Delivery
import Attestation.Verifier

namespace Attestation

namespace Collector

variable {σ : Type} {observer : Observer σ} {observed : Observed σ} {signals : List Signal}
  {c next : Collector σ}

def Reached (observer : Observer σ) (observed : Observed σ) (signals : List Signal)
    (c : Collector σ) : Prop :=
  ∃ actions sent, Run observer observed actions sent c ∧ sent.map (·.2) = signals

namespace Reached

theorem act (reached : Reached observer observed signals c) {action : Action}
    (step : Step observer c action next) :
    Reached observer observed (signals ++ (c.accepted? action).toList.map (·.2)) next := by
  obtain ⟨actions, sent, run, rfl⟩ := reached
  exact ⟨_, _, run.act step, List.map_append⟩

theorem addSender (reached : Reached observer observed signals c) (own : c.ownHandle = true) :
    Reached observer observed signals c.addSender := by
  simpa [accepted?] using reached.act (.newSender own)

theorem addSenders (reached : Reached observer observed signals c) (own : c.ownHandle = true)
    (count : Nat) : Reached observer observed signals (c.addSenders count) := by
  induction count generalizing c with
  | zero => exact reached
  | succ count ih => exact ih (reached.addSender own) own

theorem drop (reached : Reached observer observed signals c) {sender : Nat}
    (member : sender ∈ c.senders) : Reached observer observed signals (c.dropSender sender) := by
  simpa [accepted?] using reached.act (.drop member)

theorem send (reached : Reached observer observed signals c) {sender : Nat}
    (member : sender ∈ c.senders) (running : c.writer = .running) (signal : Signal) :
    Reached observer observed (signals ++ [signal]) { c with queue := c.queue ++ [signal] } := by
  have step : Step observer c (.send sender signal) _ := .send member running
  simpa [accepted?, send_of_running running] using reached.act step

end Reached

end Collector

namespace Verifier

open Collector

variable {σ : Type} {observer : Observer σ} {observed : Observed σ} {signals : List Signal}
  {c : Collector σ}

theorem reached_sendAll (reached : Reached observer observed signals c) {sender : Nat}
    (member : sender ∈ c.senders) (running : c.writer = .running)
    (entries : List (Check × Verdict)) :
    Reached observer observed (signals ++ entries.map fun entry => signalOf entry.1 entry.2)
      { c with queue := c.queue ++ entries.map fun entry => signalOf entry.1 entry.2 } := by
  induction entries generalizing signals c with
  | nil => simpa using reached
  | cons entry rest ih =>
    simpa using ih (reached.send member running (signalOf entry.1 entry.2)) member running

theorem reached_sendCompleted (reached : Reached observer observed signals c)
    (running : c.writer = .running) (submission : Submission) (completed : List Routine)
    {others : List Nat} {sender : Nat}
    (held : c.senders = others ++ List.range' sender completed.length)
    (earlier : ∀ other ∈ others, other < sender) :
    Reached observer observed
      (signals ++ completed.map fun r => signalOf r.check (verdictOf r submission))
      { c with
        queue := c.queue ++ completed.map fun r => signalOf r.check (verdictOf r submission)
        senders := others } := by
  induction completed generalizing signals c sender with
  | nil =>
    obtain rfl : c.senders = others := by simpa using held
    simpa using reached
  | cons routine rest ih =>
    have member : sender ∈ c.senders := by simp [held, List.range'_succ]
    have left : c.senders.erase sender = others ++ List.range' (sender + 1) rest.length :=
      (congrArg (List.erase · sender) held).trans (erase_first_of_range' rest.length earlier)
    have later : ∀ other ∈ others, other < sender + 1 :=
      fun other member => Nat.lt_succ_of_lt (earlier other member)
    have answered := reached.send member running
      (signalOf routine.check (verdictOf routine submission))
    simpa [dropSender] using ih (answered.drop member) running left later

variable (v : Verifier) (submission : Submission) (today : Date) (completed : List Routine)

/-- The verifier and its routines do with the collector what a run may do. -/
theorem reached_gather (observer : Observer σ) (observed : Observed σ) :
    ∃ c, v.gather submission today completed (Collector.start observed) = .ok c ∧
      Reached observer observed ((v.verdicts submission today completed).map fun entry =>
        signalOf entry.1 entry.2) c := by
  let signalsOf := List.map fun entry : Check × Verdict => signalOf entry.1 entry.2
  let supplied : Collector σ :=
    ⟨observed, signalsOf submission.verdicts.entries, [0], 1, true, .running⟩
  have started : Reached observer observed [] (Collector.start observed).addSender :=
    .addSender ⟨[], [], .start, rfl⟩ rfl
  have first : Reached observer observed (signalsOf submission.verdicts.entries) supplied :=
    reached_sendAll started (List.mem_singleton_self 0) rfl _
  have handed := first.addSenders rfl completed.length
  rw [addSenders_eq] at handed
  have earlier : ∀ sender ∈ [0], sender < 1 := by decide
  have second := reached_sendCompleted handed rfl submission completed rfl earlier
  have third := reached_sendAll second (List.mem_singleton_self 0) rfl
    (v.checker.evaluate submission.disclosed v.requirements today)
  have dropped := third.drop (List.mem_singleton_self 0)
  refine ⟨_, v.gather_eq submission today completed rfl rfl, ?_⟩
  simpa [dropSender, Collector.start, supplied, signalsOf, verdicts, Function.comp_def]
    using dropped

end Verifier

end Attestation

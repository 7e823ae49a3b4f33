import Attestation.Collector
import Attestation.Proofs.Observer.Notices
import Mathlib.Data.List.Induction

namespace Attestation.Collector

variable {σ : Type} {observer : Observer σ} {observed : Observed σ}

/-- What each action takes and what it changes. -/
inductive Step (observer : Observer σ) : Collector σ → Action → Collector σ → Prop where
  | newSender {c} (own : c.ownHandle = true) : Step observer c .newSender c.addSender
  | clone {c sender} (member : sender ∈ c.senders) : Step observer c (.clone sender) c.addSender
  | drop {c sender} (member : sender ∈ c.senders) :
    Step observer c (.drop sender) (c.dropSender sender)
  | send {c sender signal} (member : sender ∈ c.senders) (running : c.writer = .running) :
    Step observer c (.send sender signal) { c with queue := c.queue ++ [signal] }
  | refuse {c sender signal} (member : sender ∈ c.senders) (gone : c.writer ≠ .running) :
    Step observer c (.send sender signal) c
  | take {c signal rest} (running : c.writer = .running) (waiting : c.queue = signal :: rest) :
    Step observer c .take (c.apply observer signal rest)
  | release {c} (own : c.ownHandle = true) : Step observer c .release { c with ownHandle := false }
  | conclude {c} (running : c.writer = .running) (empty : c.queue = []) (alone : c.senders = [])
    (released : c.ownHandle = false) : Step observer c .conclude { c with writer := .ended }

theorem send_of_running {c : Collector σ} (running : c.writer = .running) (signal : Signal) :
    c.send signal = .ok { c with queue := c.queue ++ [signal] } :=
  if_pos running

theorem send_of_not_running {c : Collector σ} (gone : c.writer ≠ .running) (signal : Signal) :
    c.send signal = .error .collectorClosed :=
  if_neg gone

theorem act?_eq_some_iff (c : Collector σ) (action : Action) (next : Collector σ) :
    c.act? observer action = some next ↔ Step observer c action next := by
  constructor
  · intro acted
    cases action with
    | newSender =>
      obtain ⟨own, rfl⟩ : c.ownHandle = true ∧ c.addSender = next := by simpa [act?] using acted
      exact .newSender own
    | clone sender =>
      obtain ⟨member, rfl⟩ : sender ∈ c.senders ∧ c.addSender = next := by simpa [act?] using acted
      exact .clone member
    | drop sender =>
      obtain ⟨member, rfl⟩ :
          sender ∈ c.senders ∧ c.dropSender sender = next := by
        simpa [act?] using acted
      exact .drop member
    | send sender signal =>
      by_cases member : sender ∈ c.senders
      · by_cases running : c.writer = .running
        · have sent := send_of_running running signal
          obtain rfl : { c with queue := c.queue ++ [signal] } = next := by
            simpa [act?, member, sent] using acted
          exact .send member running
        · have refused := send_of_not_running running signal
          obtain rfl : c = next := by simpa [act?, member, refused] using acted
          exact .refuse member running
      · simp [act?, member] at acted
    | take =>
      cases running : c.writer <;> cases waiting : c.queue <;>
        simp only [act?, running, waiting] at acted
      all_goals cases acted
      exact .take running waiting
    | release =>
      obtain ⟨own, rfl⟩ : c.ownHandle = true ∧ { c with ownHandle := false } = next := by
        simpa [act?] using acted
      exact .release own
    | conclude =>
      obtain ⟨⟨running, empty, alone, released⟩, rfl⟩ :
          (c.writer = .running ∧ c.queue = [] ∧ c.senders = [] ∧ c.ownHandle = false) ∧
            { c with writer := .ended } = next := by
        simpa [act?] using acted
      exact .conclude running empty alone released
  · intro step
    cases step with
    | newSender own => exact if_pos own
    | clone member => exact if_pos member
    | drop member => exact if_pos member
    | send member running => simp [act?, member, send_of_running running]
    | refuse member gone => simp [act?, member, send_of_not_running gone]
    | take running waiting => simp [act?, running, waiting]
    | release own => exact if_pos own
    | conclude running empty alone released => exact if_pos ⟨running, empty, alone, released⟩

/-- What waiting for the writer has led to. There is nothing while the collector has its own handle
or the writer runs. -/
def returned? (c : Collector σ) : Option (Except ReportError (Observed σ)) :=
  match c.ownHandle, c.writer with
  | true, _ | false, .running => none
  | false, .ended => some (.ok c.observed)
  | false, .broken => some (.error (.writerFailed "the observer broke down"))

def accepted? (c : Collector σ) : Action → Option (Nat × Signal)
  | .send sender signal =>
    match c.send signal with
    | .ok _ => some (sender, signal)
    | .error _ => none
  | _ => none

inductive Run (observer : Observer σ) (observed : Observed σ) :
    List Action → List (Nat × Signal) → Collector σ → Prop where
  | start : Run observer observed [] [] (Collector.start observed)
  | act {actions sent c action next} (before : Run observer observed actions sent c)
    (step : Step observer c action next) :
    Run observer observed (actions ++ [action]) (sent ++ (c.accepted? action).toList) next

theorem run?_append (c : Collector σ) (actions : List Action) (action : Action) :
    c.run? observer (actions ++ [action]) =
      (c.run? observer actions).bind fun later => later.act? observer action := by
  simp [run?, List.foldlM_append]

theorem run?_eq_some_iff (actions : List Action) (c : Collector σ) :
    (Collector.start observed).run? observer actions = some c ↔
      ∃ sent, Run observer observed actions sent c := by
  constructor
  · intro ran
    induction actions using List.reverseRecOn generalizing c with
    | nil =>
      cases ran
      exact ⟨[], .start⟩
    | append_singleton actions action ih =>
      rw [run?_append] at ran
      obtain ⟨before, earlier, acted⟩ := Option.bind_eq_some_iff.mp ran
      obtain ⟨sent, run⟩ := ih before earlier
      exact ⟨_, run.act ((act?_eq_some_iff _ _ _).mp acted)⟩
  · rintro ⟨sent, run⟩
    induction run with
    | start => rfl
    | act before step ih =>
      rw [run?_append, ih, Option.bind_some]
      exact (act?_eq_some_iff _ _ _).mpr step

end Attestation.Collector

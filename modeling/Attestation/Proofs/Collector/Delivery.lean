import Attestation.Proofs.Collector.Runs

namespace Attestation.Collector

variable {σ : Type} {observer : Observer σ} {observed : Observed σ}

structure Handles (actions : List Action) (c : Collector σ) : Prop where
  distinct : c.senders.Nodup
  live : ∀ sender, sender ∈ c.senders ↔ sender < c.nextSender ∧ .drop sender ∉ actions
  known : ∀ sender, .drop sender ∈ actions → sender < c.nextSender

namespace Handles

variable {actions : List Action} {action : Action} {c next : Collector σ}

theorem keep (handles : Handles actions c) (senders : next.senders = c.senders)
    (count : next.nextSender = c.nextSender) (other : ∀ sender, action ≠ .drop sender) :
    Handles (actions ++ [action]) next where
  distinct := senders ▸ handles.distinct
  live sender := by
    have unlike : Action.drop sender ≠ action := fun same => other sender same.symm
    simp [senders, count, handles.live, unlike]
  known sender member := by
    have unlike : Action.drop sender ≠ action := fun same => other sender same.symm
    rw [count]
    exact handles.known sender (by simpa [unlike] using member)

theorem addSender (handles : Handles actions c) (other : ∀ sender, action ≠ .drop sender) :
    Handles (actions ++ [action]) c.addSender where
  distinct := by
    have fresh : c.nextSender ∉ c.senders := fun member => by
      have bound := ((handles.live _).mp member).1
      omega
    simpa [Collector.addSender, List.nodup_append] using
      ⟨handles.distinct, fun sender member same => fresh (same ▸ member)⟩
  live sender := by
    have unlike : Action.drop sender ≠ action := fun same => other sender same.symm
    have bound := handles.known sender
    simp only [Collector.addSender, List.mem_append, List.mem_singleton, handles.live, unlike,
      or_false]
    by_cases newest : sender = c.nextSender
    · subst newest
      have undropped : Action.drop c.nextSender ∉ actions := fun dropped => by
        have less := bound dropped
        omega
      simp [undropped]
    · constructor
      · rintro (⟨less, undropped⟩ | same)
        · exact ⟨by omega, undropped⟩
        · exact absurd same newest
      · rintro ⟨less, undropped⟩
        exact .inl ⟨by omega, undropped⟩
  known sender member := by
    have unlike : Action.drop sender ≠ action := fun same => other sender same.symm
    have bound := handles.known sender (by simpa [unlike] using member)
    exact Nat.lt_succ_of_lt bound

theorem drop (handles : Handles actions c) {sender : Nat} (member : sender ∈ c.senders) :
    Handles (actions ++ [.drop sender]) (c.dropSender sender) where
  distinct := handles.distinct.erase sender
  live s := by
    rw [dropSender, handles.distinct.mem_erase_iff, handles.live]
    simp only [List.mem_append, List.mem_singleton, Action.drop.injEq, not_or]
    constructor
    · rintro ⟨different, less, undropped⟩
      exact ⟨less, undropped, different⟩
    · rintro ⟨less, undropped, different⟩
      exact ⟨different, less, undropped⟩
  known s dropped := by
    rcases List.mem_append.mp dropped with earlier | now
    · exact handles.known s earlier
    · obtain rfl : s = sender := by simpa using now
      exact ((handles.live s).mp member).1

theorem step (handles : Handles actions c) (step : Step observer c action next) :
    Handles (actions ++ [action]) next := by
  cases step with
  | newSender own => exact handles.addSender (by simp)
  | clone member => exact handles.addSender (by simp)
  | drop member => exact handles.drop member
  | send member running => exact handles.keep rfl rfl (by simp)
  | refuse member gone => exact handles.keep rfl rfl (by simp)
  | take running waiting =>
    refine handles.keep ?_ ?_ (by simp) <;> (unfold Collector.apply; split <;> rfl)
  | release own => exact handles.keep rfl rfl (by simp)
  | conclude running empty alone released => exact handles.keep rfl rfl (by simp)

end Handles

/-- The writer ends last: when nothing waits, no sender is left and the own handle is given up. -/
structure Settled (c : Collector σ) : Prop where
  unbroken : c.writer ≠ .broken
  ended : c.writer = .ended → c.queue = [] ∧ c.senders = [] ∧ c.ownHandle = false

theorem apply_of_quiet (quiet : ∀ check, observer.breaksOver check = false) (c : Collector σ)
    (signal : Signal) (rest : List Signal) :
    c.apply observer signal rest =
      { c with observed := (c.observed.record observer signal).1, queue := rest } := by
  simp [Collector.apply, quiet]

namespace Settled

variable {action : Action} {c next : Collector σ}

theorem running (settled : Settled c) {sender : Nat} (member : sender ∈ c.senders) :
    c.writer = .running := by
  cases state : c.writer with
  | running => rfl
  | ended =>
    rw [(settled.ended state).2.1] at member
    cases member
  | broken => exact absurd state settled.unbroken

theorem of_running (running : c.writer = .running) : Settled c :=
  ⟨by simp [running], by simp [running]⟩

theorem step (quiet : ∀ check, observer.breaksOver check = false) (settled : Settled c)
    (step : Step observer c action next) : Settled next := by
  cases step with
  | newSender own =>
    refine ⟨settled.unbroken, fun state => ?_⟩
    have released := (settled.ended state).2.2
    rw [own] at released
    cases released
  | clone member => exact of_running (settled.running member)
  | drop member => exact of_running (settled.running member)
  | send member running => exact of_running running
  | refuse member gone => exact settled
  | take running waiting =>
    rw [apply_of_quiet quiet]
    exact of_running running
  | release own =>
    refine ⟨settled.unbroken, fun state => ?_⟩
    obtain ⟨empty, alone, -⟩ := settled.ended state
    exact ⟨empty, alone, rfl⟩
  | conclude running empty alone released => exact ⟨by simp, fun _ => ⟨empty, alone, released⟩⟩

end Settled

/-- What has been accepted is what the writer has taken and then what waits, and the report has got
what was taken. -/
def Applied (observer : Observer σ) (observed : Observed σ) (sent : List (Nat × Signal))
    (c : Collector σ) : Prop :=
  ∃ taken, sent.map (·.2) = taken ++ c.queue ∧ c.observed = observed.recordAll observer taken

theorem Applied.keep {sent : List (Nat × Signal)} {action : Action} {c next : Collector σ}
    (applied : Applied observer observed sent c) (silent : c.accepted? action = none)
    (queue : next.queue = c.queue) (report : next.observed = c.observed) :
    Applied observer observed (sent ++ (c.accepted? action).toList) next := by
  obtain ⟨taken, split, recorded⟩ := applied
  exact ⟨taken, by simpa [silent, queue] using split, report.trans recorded⟩

theorem Applied.step (quiet : ∀ check, observer.breaksOver check = false)
    {sent : List (Nat × Signal)} {action : Action} {c next : Collector σ}
    (applied : Applied observer observed sent c) (step : Step observer c action next) :
    Applied observer observed (sent ++ (c.accepted? action).toList) next := by
  have ⟨taken, split, recorded⟩ := applied
  cases step with
  | send member running =>
    refine ⟨taken, ?_, recorded⟩
    simp [accepted?, send_of_running running, split]
  | refuse member gone =>
    refine ⟨taken, ?_, recorded⟩
    simp [accepted?, send_of_not_running gone, split]
  | @take signal rest running waiting =>
    refine ⟨taken ++ [signal], ?_, ?_⟩
    · simp [accepted?, split, waiting, apply_of_quiet quiet]
    · rw [apply_of_quiet quiet, Observed.recordAll_append, ← recorded]
      rfl
  | newSender own => exact applied.keep rfl rfl rfl
  | clone member => exact applied.keep rfl rfl rfl
  | drop member => exact applied.keep rfl rfl rfl
  | release own => exact applied.keep rfl rfl rfl
  | conclude running empty alone released => exact applied.keep rfl rfl rfl

def requests (actions : List Action) (sender : Nat) : List Signal :=
  actions.filterMap fun
    | .send s signal => if s = sender then some signal else none
    | _ => none

def sentBy (sent : List (Nat × Signal)) (sender : Nat) : List Signal :=
  (sent.filter fun entry => entry.1 = sender).map (·.2)

theorem sentBy_append (left right : List (Nat × Signal)) (sender : Nat) :
    sentBy (left ++ right) sender = sentBy left sender ++ sentBy right sender := by
  simp [sentBy]

theorem requests_append (left right : List Action) (sender : Nat) :
    requests (left ++ right) sender = requests left sender ++ requests right sender :=
  List.filterMap_append

theorem Settled.sentBy_accepted? {action : Action} {c next : Collector σ} (settled : Settled c)
    (step : Step observer c action next) (sender : Nat) :
    sentBy (c.accepted? action).toList sender = requests [action] sender := by
  cases step with
  | @send s signal member running =>
    by_cases same : s = sender <;>
      simp [accepted?, send_of_running running, sentBy, requests, same]
  | refuse member gone => exact absurd (settled.running member) gone
  | newSender own => rfl
  | clone member => rfl
  | drop member => rfl
  | take running waiting => rfl
  | release own => rfl
  | conclude running empty alone released => rfl

namespace Run

variable {actions : List Action} {sent : List (Nat × Signal)} {c : Collector σ}

theorem handles (run : Run observer observed actions sent c) : Handles actions c := by
  induction run with
  | start =>
    exact ⟨List.nodup_nil, by simp [Collector.start], by simp⟩
  | act before step ih => exact ih.step step

theorem settled (quiet : ∀ check, observer.breaksOver check = false)
    (run : Run observer observed actions sent c) : Settled c := by
  induction run with
  | start => exact .of_running rfl
  | act before step ih => exact ih.step quiet step

theorem applied (quiet : ∀ check, observer.breaksOver check = false)
    (run : Run observer observed actions sent c) : Applied observer observed sent c := by
  induction run with
  | start => exact ⟨[], rfl, rfl⟩
  | act before step ih => exact ih.step quiet step

theorem sentBy_eq (quiet : ∀ check, observer.breaksOver check = false)
    (run : Run observer observed actions sent c) (sender : Nat) :
    sentBy sent sender = requests actions sender := by
  induction run with
  | start => rfl
  | act before step ih =>
    rw [sentBy_append, requests_append, ih, (before.settled quiet).sentBy_accepted? step]

theorem observed_eq (quiet : ∀ check, observer.breaksOver check = false)
    (run : Run observer observed actions sent c) (empty : c.queue = []) :
    c.observed = observed.recordAll observer (sent.map (·.2)) := by
  obtain ⟨taken, split, recorded⟩ := run.applied quiet
  rw [split, empty, List.append_nil]
  exact recorded

end Run

theorem drainQueue_observed (quiet : ∀ check, observer.breaksOver check = false) {c : Collector σ}
    (running : c.writer = .running) (signals : List Signal) :
    (c.drainQueue observer signals).writer = .running ∧
      (c.drainQueue observer signals).observed = c.observed.recordAll observer signals := by
  induction signals generalizing c with
  | nil => exact ⟨running, rfl⟩
  | cons signal signals ih =>
    have next : (c.apply observer signal signals).writer = .running := by
      rw [apply_of_quiet quiet]
      exact running
    have later := ih next
    rw [apply_of_quiet quiet] at next later
    simpa [drainQueue, apply_of_quiet quiet, next, Observed.recordAll_cons] using later

theorem finish_eq (quiet : ∀ check, observer.breaksOver check = false) {c : Collector σ}
    (settled : Settled c) (alone : c.senders = []) :
    c.finish observer alone = .ok (c.observed.recordAll observer c.queue) := by
  obtain ⟨before, queue, senders, count, own, writer⟩ := c
  cases writer with
  | running =>
    let waiting : Collector σ := ⟨before, queue, senders, count, false, .running⟩
    obtain ⟨state, recorded⟩ :=
      drainQueue_observed quiet (show waiting.writer = .running from rfl) queue
    simp [finish, drain, waiting, state, recorded]
  | ended =>
    have empty : queue = [] := (settled.ended rfl).1
    simp [finish, drain, empty]
  | broken => exact absurd rfl settled.unbroken

namespace Run

variable {actions : List Action} {sent : List (Nat × Signal)} {c : Collector σ}

theorem finish_eq (quiet : ∀ check, observer.breaksOver check = false)
    (run : Run observer observed actions sent c) (alone : c.senders = []) :
    c.finish observer alone = .ok (observed.recordAll observer (sent.map (·.2))) := by
  obtain ⟨taken, split, recorded⟩ := run.applied quiet
  rw [Collector.finish_eq quiet (run.settled quiet), split, Observed.recordAll_append, recorded]

theorem returned?_eq (quiet : ∀ check, observer.breaksOver check = false)
    (run : Run observer observed actions sent c) {result : Except ReportError (Observed σ)}
    (returned : c.returned? = some result) :
    c.senders = [] ∧ result = .ok (observed.recordAll observer (sent.map (·.2))) := by
  have settled := run.settled quiet
  cases own : c.ownHandle <;> cases state : c.writer <;>
    simp only [returned?, own, state] at returned
  · cases returned
  · obtain ⟨empty, alone, -⟩ := settled.ended state
    rw [← run.observed_eq quiet empty]
    exact ⟨alone, (Option.some.inj returned).symm⟩
  · exact absurd state settled.unbroken
  · cases returned
  · cases returned
  · cases returned

theorem exists_drained (quiet : ∀ check, observer.breaksOver check = false)
    (run : Run observer observed actions sent c) (running : c.writer = .running) :
    ∃ later final, Run observer observed (actions ++ later) sent final ∧ final.writer = .running ∧
      final.queue = [] ∧ final.senders = c.senders ∧ final.ownHandle = c.ownHandle := by
  induction waiting : c.queue generalizing actions c with
  | nil => exact ⟨[], c, by simpa using run, running, waiting, rfl, rfl⟩
  | cons signal rest ih =>
    have step : Step observer c .take _ := .take running waiting
    rw [apply_of_quiet quiet] at step
    have taken := run.act step
    rw [show c.accepted? .take = none from rfl, Option.toList_none, List.append_nil] at taken
    obtain ⟨later, final, reached, same⟩ := ih taken running rfl
    exact ⟨.take :: later, final, by simpa using reached, same⟩

theorem exists_returned (quiet : ∀ check, observer.breaksOver check = false)
    (run : Run observer observed actions sent c) (alone : c.senders = []) :
    ∃ later final, Run observer observed (actions ++ later) sent final ∧
      final.returned? = some (c.finish observer alone) := by
  have settled := run.settled quiet
  rw [run.finish_eq quiet alone]
  cases state : c.writer with
  | broken => exact absurd state settled.unbroken
  | ended =>
    obtain ⟨empty, -, released⟩ := settled.ended state
    refine ⟨[], c, by simpa using run, ?_⟩
    rw [← run.observed_eq quiet empty, returned?, released, state]
  | running =>
    obtain ⟨drains, drained, reached, running, empty, senders, own⟩ :=
      run.exists_drained quiet state
    rw [alone] at senders
    -- the own handle is given up last here; any order of the two would do
    obtain ⟨releases, released, handed, gone, same⟩ : ∃ later final,
        Run observer observed (actions ++ later) sent final ∧ final.ownHandle = false ∧
          final = { drained with ownHandle := false } := by
      cases held : drained.ownHandle with
      | false => exact ⟨drains, drained, reached, held, by rw [← held]⟩
      | true =>
        refine ⟨drains ++ [.release], _, ?_, rfl, rfl⟩
        simpa [accepted?] using reached.act (.release held)
    subst same
    refine ⟨releases ++ [.conclude], { drained with ownHandle := false, writer := .ended }, ?_, ?_⟩
    · simpa [accepted?] using handed.act (.conclude running empty senders rfl)
    · simp only [returned?]
      rw [← handed.observed_eq quiet empty]

theorem senders_eq_nil_iff (run : Run observer observed actions sent c) :
    c.senders = [] ↔ ∀ sender < c.nextSender, .drop sender ∈ actions := by
  have live := run.handles.live
  constructor
  · intro alone sender less
    by_contra undropped
    have member := (live sender).mpr ⟨less, undropped⟩
    rw [alone] at member
    cases member
  · intro dropped
    refine List.eq_nil_iff_forall_not_mem.mpr fun sender member => ?_
    obtain ⟨less, undropped⟩ := (live sender).mp member
    exact undropped (dropped sender less)

end Run

/-- No signal is lost or doubled, however the senders, the writer and the wait for it take turns. A
sender that has not been dropped is never refused; each sender's signals are accepted in its order;
the wait ends only when all senders have been dropped, with the report that has got the accepted
signals one by one and an observer who was told of each; and then it can end. -/
theorem run_delivers_signals (quiet : ∀ check, observer.breaksOver check = false)
    {actions : List Action} {sent : List (Nat × Signal)} {c : Collector σ}
    (run : Run observer observed actions sent c) :
    let signals := sent.map (·.2)
    let notices := observed.report.notices signals
    (∀ sender < c.nextSender, .drop sender ∉ actions → ∀ signal, ∃ next,
      c.send signal = .ok next ∧ c.act? observer (.send sender signal) = some next) ∧
    (∀ sender, sentBy sent sender = requests actions sender) ∧
    notices.map Notice.signal? = signals.map some ∧
    (∀ result, c.returned? = some result →
      (∀ sender < c.nextSender, .drop sender ∈ actions) ∧
      result = .ok ⟨observed.report.recordAll signals, notices.foldl observer.hear observed.kept⟩) ∧
    ((∀ sender < c.nextSender, .drop sender ∈ actions) → ∃ alone later final,
      Run observer observed (actions ++ later) sent final ∧
      final.returned? = some (c.finish observer alone)) := by
  refine ⟨?_, run.sentBy_eq quiet, Report.map_signal?_notices _ _, ?_, ?_⟩
  · intro sender less undropped signal
    have member := (run.handles.live sender).mpr ⟨less, undropped⟩
    have running := (run.settled quiet).running member
    exact ⟨_, send_of_running running signal,
      (act?_eq_some_iff _ _ _).mpr (.send member running)⟩
  · intro result returned
    obtain ⟨alone, same⟩ := run.returned?_eq quiet returned
    rw [Observed.recordAll_eq] at same
    exact ⟨run.senders_eq_nil_iff.mp alone, same⟩
  · intro dropped
    have alone := run.senders_eq_nil_iff.mpr dropped
    exact ⟨alone, run.exists_returned quiet alone⟩

/-- Two senders and a writer that lags behind: the signals stand in the order of the sends, also the
one that is sent after the wait has begun. -/
theorem run_delivers_signals_interleaved :
    ∃ c : Collector (List Note),
      (∀ check, Observer.recording.breaksOver check = false) ∧
      Run Observer.recording ⟨Report.new 0, []⟩
        [.newSender, .clone 0, .send 1 (.failure .ofac (.text "listed") .empty), .take,
          .send 0 (.pass .scope), .release, .send 1 (.pass .ofac), .drop 0, .take, .take, .drop 1,
          .conclude]
        [(1, .failure .ofac (.text "listed") .empty), (0, .pass .scope), (1, .pass .ofac)] c ∧
      c.returned? = some (.ok
        ⟨(Report.new 0).recordAll
          [.failure .ofac (.text "listed") .empty, .pass .scope, .pass .ofac],
          [.failure ⟨0, .ofac, .text "listed", .empty⟩ .failed, .pass .scope .passed,
            .pass .ofac .unchanged]⟩) := by
  have quiet : ∀ check, Observer.recording.breaksOver check = false := fun _ => rfl
  have run : ∃ c, Run Observer.recording ⟨Report.new 0, []⟩
      [.newSender, .clone 0, .send 1 (.failure .ofac (.text "listed") .empty), .take,
        .send 0 (.pass .scope), .release, .send 1 (.pass .ofac), .drop 0, .take, .take, .drop 1,
        .conclude]
      [(1, .failure .ofac (.text "listed") .empty), (0, .pass .scope), (1, .pass .ofac)] c ∧
      ∃ result, c.returned? = some result :=
    ⟨_, .act (.act (.act (.act (.act (.act (.act (.act (.act (.act (.act (.act .start
      (.newSender rfl)) (.clone (by decide))) (.send (by decide) rfl)) (.take rfl rfl))
      (.send (by decide) rfl)) (.release rfl)) (.send (by decide) rfl)) (.drop (by decide)))
      (.take rfl rfl)) (.take rfl rfl)) (.drop (by decide))) (.conclude rfl rfl rfl rfl), _, rfl⟩
  obtain ⟨c, run, result, returned⟩ := run
  obtain ⟨-, same⟩ := (run_delivers_signals quiet run).2.2.2.1 result returned
  refine ⟨c, quiet, run, ?_⟩
  rw [returned, same]
  rfl

end Attestation.Collector

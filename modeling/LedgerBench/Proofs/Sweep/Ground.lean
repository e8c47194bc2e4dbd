import LedgerBench.Sweep.Pass

/-! A sweep and the stop signal, wherever the sweep happens. The listener of a pass and the older
one of the sweep each look for the signal between the runs and between the passes; a look finds a
single signal, and of two it learns just that it has fallen behind. -/

namespace LedgerBench

open Shutdown (Channel Listener)

namespace Sweep

def RunOutcome.record : RunOutcome → RunRecord
  | .stopped record | .interrupted record => record

@[simp] theorem PassOutcome.records_after (record : RunRecord) (outcome : PassOutcome) :
    (outcome.after record).records = record :: outcome.records := by
  cases outcome <;> rfl

namespace Ground

variable {σ : Type}

def sent (ground : Ground σ) (s : σ) : Nat := (ground.channel s).sent

/-- A place where signals can only be added, and where a run can be stopped in the ordinary way only
if its listener had no signal to find when it began. -/
structure Lawful (ground : Ground σ) (report : List RunRecord → σ → σ) : Prop where
  handles : ∀ {n listener s result listener' s'},
    ground.runOnce n listener s = some (result, listener', s') →
      (ground.channel s').handles = (ground.channel s).handles
  sent_le : ∀ {n listener s result listener' s'},
    ground.runOnce n listener s = some (result, listener', s') → ground.sent s ≤ ground.sent s'
  unheard : ∀ {n k s record listener' s'}, 0 < (ground.channel s).handles →
    ground.runOnce n ⟨⟨k⟩, false⟩ s = some (.ok (.stopped record), listener', s') →
      ground.sent s ≤ k ∧ listener' = ⟨⟨k⟩, false⟩
  report_handles : ∀ records s,
    (ground.channel (report records s)).handles = (ground.channel s).handles
  sent_le_report : ∀ records s, ground.sent s ≤ ground.sent (report records s)

/-- The ground with the runs of another one wherever so many signals have been sent. -/
def altered (ground : Ground σ) (signals : Nat) (other : Ground σ) : Ground σ :=
  { ground with
    runOnce := fun n listener s =>
      if ground.sent s = signals then other.runOnce n listener s else ground.runOnce n listener s }

/-- Runs that were all stopped while no signal came, with their records, up to a next one. -/
inductive QuietRuns (ground : Ground σ) (listener : Listener) :
    Nat → σ → List RunRecord → Nat → σ → Prop
  | none {n : Nat} {s : σ} : QuietRuns ground listener n s [] n s
  | next {n m : Nat} {s s' last : σ} {record : RunRecord} {records : List RunRecord}
      (ran : ground.runOnce n listener s = some (.ok (.stopped record), listener, s'))
      (quiet : ground.sent s' = ground.sent s)
      (later : QuietRuns ground listener (n + 1) s' records m last) :
      QuietRuns ground listener n s (record :: records) m last

/-- Passes that were all completed and reported while no signal came. -/
inductive QuietPasses (ground : Ground σ) (report : List RunRecord → σ → σ) (range : Range) :
    Nat → σ → σ → Prop
  | none {s : σ} : QuietPasses ground report range 0 s s
  | next {count : Nat} {s s' last : σ} {records : List RunRecord}
      (passed : ground.pass range s = some (.ok (.completed records), s'))
      (quiet : ground.sent (report records s') = ground.sent s)
      (later : QuietPasses ground report range count (report records s') last) :
      QuietPasses ground report range (count + 1) s last

/-- What a sweep comes to with a pass that is its last. -/
def closing (report : List RunRecord → σ → σ) : Except RunError PassOutcome → σ → Bool × σ
  | .ok outcome, s => (true, report outcome.records s)
  | .error _, s => (false, s)

section Lawful

variable {ground : Ground σ} {report : List RunRecord → σ → σ} {k : Nat}

theorem runEach_of_found (ground : Ground σ) {s : σ} (hsent : ground.sent s = k + 1)
    (count n : Nat) :
    ground.runEach (count + 1) n ⟨⟨k⟩, false⟩ s = some (.ok (.interrupted []), s) := by
  have hlook := Listener.shouldShutdown_of_succ hsent
  simp only [runEach, hlook]

theorem runEach_of_stopped {s s' : σ} {listener listener' listener'' : Listener}
    {record : RunRecord} {n : Nat}
    (hlook : listener.shouldShutdown (ground.channel s) = (false, listener'))
    (hran : ground.runOnce n listener' s = some (.ok (.stopped record), listener'', s'))
    (count : Nat) :
    ground.runEach (count + 1) n listener s =
      (ground.runEach count (n + 1) listener'' s').map fun (result, last) =>
        (result.map (PassOutcome.after record), last) := by
  simp only [runEach, hlook, hran]
  cases ground.runEach count (n + 1) listener'' s' <;> rfl

theorem Lawful.runEach_kept (h : ground.Lawful report) {count n : Nat} {listener : Listener}
    {s s' : σ} {result : Except RunError PassOutcome}
    (hruns : ground.runEach count n listener s = some (result, s')) :
    (ground.channel s').handles = (ground.channel s).handles ∧ ground.sent s ≤ ground.sent s' := by
  induction count generalizing n listener s result with
  | zero =>
    cases hruns
    exact ⟨rfl, Nat.le_refl _⟩
  | succ count ih =>
    rcases hlook : listener.shouldShutdown (ground.channel s) with ⟨found, listener'⟩
    cases found with
    | true =>
      simp only [runEach, hlook] at hruns
      cases hruns
      exact ⟨rfl, Nat.le_refl _⟩
    | false =>
      cases hran : ground.runOnce n listener' s with
      | none =>
        simp only [runEach, hlook, hran] at hruns
        cases hruns
      | some ended =>
        obtain ⟨ending, listener'', middle⟩ := ended
        have hhandles := h.handles hran
        have hle := h.sent_le hran
        rcases ending with e | record | record
        · simp only [runEach, hlook, hran] at hruns
          cases hruns
          exact ⟨hhandles, hle⟩
        · rw [runEach_of_stopped hlook hran, Option.map_eq_some_iff] at hruns
          obtain ⟨⟨later, last⟩, hlater, heq⟩ := hruns
          cases heq
          obtain ⟨hhandles', hle'⟩ := ih hlater
          exact ⟨hhandles'.trans hhandles, Nat.le_trans hle hle'⟩
        · simp only [runEach, hlook, hran] at hruns
          cases hruns
          exact ⟨hhandles, hle⟩

/-! ### Where runs are started -/

theorem runEach_congr (ground ground' : Ground σ) (hchannel : ground'.channel = ground.channel)
    {listener listener' : Listener} {s : σ} {count n : Nat}
    (hlook : listener.shouldShutdown (ground.channel s) = (false, listener'))
    (hran : ground'.runOnce n listener' s = ground.runOnce n listener' s)
    (hrest : ∀ record listener'' s',
      ground.runOnce n listener' s = some (.ok (.stopped record), listener'', s') →
        ground'.runEach count (n + 1) listener'' s' = ground.runEach count (n + 1) listener'' s') :
    ground'.runEach (count + 1) n listener s = ground.runEach (count + 1) n listener s := by
  cases hruns : ground.runOnce n listener' s with
  | none => simp only [runEach, hchannel, hlook, hran, hruns]
  | some ended =>
    obtain ⟨e | record | record, listener'', s'⟩ := ended
    · simp only [runEach, hchannel, hlook, hran, hruns]
    · simp only [runEach, hchannel, hlook, hran, hruns, hrest record listener'' s' hruns]
    · simp only [runEach, hchannel, hlook, hran, hruns]

theorem sweep_congr (ground ground' : Ground σ) (hchannel : ground'.channel = ground.channel)
    {listener : Listener} {s : σ} {range : Range} {repeats : Bool} {limit : Nat}
    (hpass : ground'.pass range s = ground.pass range s)
    (hrest : ∀ records s' listener', ground.pass range s = some (.ok (.completed records), s') →
      listener.shouldShutdown (ground.channel (report records s')) = (false, listener') →
        ground'.sweep report range repeats limit listener' (report records s') =
          ground.sweep report range repeats limit listener' (report records s')) :
    ground'.sweep report range repeats (limit + 1) listener s =
      ground.sweep report range repeats (limit + 1) listener s := by
  cases hpassed : ground.pass range s with
  | none => simp only [sweep, hpass, hpassed]
  | some ended =>
    obtain ⟨e | records | records, s'⟩ := ended
    · simp only [sweep, hpass, hpassed]
    · rcases hlook : listener.shouldShutdown (ground.channel (report records s')) with
        ⟨found, listener'⟩
      cases found with
      | true => simp only [sweep, hchannel, hpass, hpassed, hlook]
      | false =>
        simp only [sweep, hchannel, hpass, hpassed, hlook, hrest records s' listener' hpassed hlook]
    · simp only [sweep, hpass, hpassed]

section Altered

variable {p : Nat} {other : Ground σ}

theorem altered_runOnce (other : Ground σ) {s : σ} {signals : Nat} (hne : ground.sent s ≠ signals)
    (n : Nat) (listener : Listener) :
    (ground.altered signals other).runOnce n listener s = ground.runOnce n listener s :=
  if_neg hne

/-- A pass that began before the first signal, or after the second one, starts no run while there is
just the one. -/
theorem Lawful.runEach_altered (h : ground.Lawful report) {s : σ}
    (hhandles : 0 < (ground.channel s).handles) (hk : k = p ∨ p + 2 ≤ k)
    (hle : k ≤ ground.sent s) (count n : Nat) :
    (ground.altered (p + 1) other).runEach count n ⟨⟨k⟩, false⟩ s =
      ground.runEach count n ⟨⟨k⟩, false⟩ s := by
  induction count generalizing n s with
  | zero => rfl
  | succ count ih =>
    rcases Nat.lt_trichotomy (ground.sent s) (k + 1) with hsent | hsent | hsent
    · -- nothing has come since the pass began
      have hsent : ground.sent s = k := by omega
      have hran := altered_runOnce other (show ground.sent s ≠ p + 1 by omega) n ⟨⟨k⟩, false⟩
      refine runEach_congr ground (ground.altered (p + 1) other) rfl
        (Listener.shouldShutdown_of_eq hhandles hsent) hran ?_
      intro record listener s' hran
      obtain ⟨-, rfl⟩ := h.unheard hhandles hran
      have hlater := h.sent_le hran
      exact ih (by rw [h.handles hran]; exact hhandles) (by omega) (n + 1)
    · rw [runEach_of_found ground hsent, runEach_of_found (ground.altered (p + 1) other) hsent]
    · -- the look has missed two, and the run that follows is not stopped in the ordinary way
      have hran := altered_runOnce other (show ground.sent s ≠ p + 1 by omega) n
        ⟨⟨ground.sent s - 1⟩, false⟩
      refine runEach_congr ground (ground.altered (p + 1) other) rfl
        (Listener.shouldShutdown_of_lt hsent) hran ?_
      intro record listener s' hran
      have hheard : ground.sent s ≤ ground.sent s - 1 := (h.unheard hhandles hran).1
      omega

theorem Lawful.sweep_altered (h : ground.Lawful report) {s : σ} {q : Nat} {range : Range}
    {repeats : Bool} (hhandles : 0 < (ground.channel s).handles) (hle : q ≤ ground.sent s)
    (hsent : ground.sent s = p ∧ q = p ∨ p + 2 ≤ ground.sent s ∧ p + 1 ≤ q) (limit : Nat) :
    (ground.altered (p + 1) other).sweep report range repeats limit ⟨⟨q⟩, false⟩ s =
      ground.sweep report range repeats limit ⟨⟨q⟩, false⟩ s := by
  induction limit generalizing s q with
  | zero => rfl
  | succ limit ih =>
    have hpass : (ground.altered (p + 1) other).pass range s = ground.pass range s :=
      h.runEach_altered hhandles (show ground.sent s = p ∨ p + 2 ≤ ground.sent s by omega)
        (Nat.le_refl _) _ _
    refine sweep_congr ground (ground.altered (p + 1) other) rfl hpass ?_
    intro records s' listener' hpassed hlook
    obtain ⟨hkept, hlater⟩ := h.runEach_kept hpassed
    have hafter := h.sent_le_report records s'
    have hopen : 0 < (ground.channel (report records s')).handles := by
      rw [h.report_handles, hkept]
      exact hhandles
    -- the sweep goes on only if its own listener has nothing to find, or two signals
    rcases Nat.lt_trichotomy (ground.sent (report records s')) (q + 1) with hnow | hnow | hnow
    · have hnow : ground.sent (report records s') = q := by omega
      rw [Listener.shouldShutdown_of_eq hopen hnow] at hlook
      cases hlook
      exact ih hopen (by omega) (by omega)
    · rw [Listener.shouldShutdown_of_succ hnow] at hlook
      cases hlook
    · rw [Listener.shouldShutdown_of_lt hnow] at hlook
      cases hlook
      change q + 1 < ground.sent (report records s') at hnow
      refine ih hopen (Nat.sub_le _ _) (.inr ⟨?_, ?_⟩)
      · omega
      · change p + 1 ≤ ground.sent (report records s') - 1
        omega

end Altered

/-! ### Where a sweep ends -/

theorem Lawful.runEach_signalled (h : ground.Lawful report) {n m : Nat} {s middle last : σ}
    {records : List RunRecord} {outcome : RunOutcome} {listener : Listener}
    (hhandles : 0 < (ground.channel s).handles) (hsent : ground.sent s = k)
    (hquiet : ground.QuietRuns ⟨⟨k⟩, false⟩ n s records m middle)
    (hran : ground.runOnce m ⟨⟨k⟩, false⟩ middle = some (.ok outcome, listener, last))
    (hlast : ground.sent last = k + 1) (count : Nat) :
    ∃ ending, ground.runEach (records.length + (count + 1)) n ⟨⟨k⟩, false⟩ s =
        some (.ok ending, last) ∧ ending.records = records ++ [outcome.record] := by
  induction hquiet with
  | none =>
    have hlook := Listener.shouldShutdown_of_eq hhandles hsent
    rw [List.length_nil, Nat.zero_add]
    cases outcome with
    | interrupted record =>
      refine ⟨.interrupted [record], ?_, rfl⟩
      simp only [runEach, hlook, hran]
    | stopped record =>
      obtain ⟨-, rfl⟩ := h.unheard hhandles hran
      rw [runEach_of_stopped hlook hran]
      -- the look before the next run, if there is one, finds the signal
      cases count with
      | zero => exact ⟨.completed [record], rfl, rfl⟩
      | succ count =>
        rw [runEach_of_found ground hlast]
        exact ⟨.interrupted [record], rfl, rfl⟩
  | @next n m s s' _ record records ran quiet later ih =>
    have hlook := Listener.shouldShutdown_of_eq hhandles hsent
    obtain ⟨ending, hruns, hrecords⟩ :=
      ih (by rw [h.handles ran]; exact hhandles) (quiet.trans hsent) hran
    refine ⟨ending.after record, ?_, ?_⟩
    · rw [List.length_cons, Nat.add_right_comm, runEach_of_stopped hlook ran, hruns]
      rfl
    · rw [PassOutcome.records_after, hrecords, List.cons_append]

theorem Lawful.quietPasses_kept (h : ground.Lawful report) {s last : σ} {range : Range}
    {count : Nat} (hquiet : ground.QuietPasses report range count s last) :
    (ground.channel last).handles = (ground.channel s).handles ∧
      ground.sent last = ground.sent s := by
  induction hquiet with
  | none => exact ⟨rfl, rfl⟩
  | next passed quiet _ ih =>
    refine ⟨ih.1.trans ?_, ih.2.trans quiet⟩
    rw [h.report_handles, (h.runEach_kept passed).1]

theorem sweep_once {s last : σ} {range : Range} {result : Except RunError PassOutcome}
    (hpassed : ground.pass range s = some (result, last)) (listener : Listener) (limit : Nat) :
    ground.sweep report range false (limit + 1) listener s = some (closing report result last) := by
  obtain e | records | records := result
  · simp only [sweep, hpassed, closing]
  · simp only [sweep, hpassed, closing, Bool.not_false, Bool.true_or, if_true]
    rfl
  · simp only [sweep, hpassed, closing]
    rfl

theorem sweep_of_closing {s last : σ} {range : Range} {result : Except RunError PassOutcome}
    (hpassed : ground.pass range s = some (result, last))
    (hsent : ground.sent (closing report result last).2 = k + 1) (repeats : Bool) (limit : Nat) :
    ground.sweep report range repeats (limit + 1) ⟨⟨k⟩, false⟩ s =
      some (closing report result last) := by
  obtain e | records | records := result
  · simp only [sweep, hpassed, closing]
  · have hlook : Listener.shouldShutdown ⟨⟨k⟩, false⟩ (ground.channel (report records last)) =
        (true, ⟨⟨k + 1⟩, true⟩) := Listener.shouldShutdown_of_succ hsent
    simp only [sweep, hpassed, closing, hlook, ite_self]
    rfl
  · simp only [sweep, hpassed, closing]
    rfl

theorem Lawful.sweep_signalled (h : ground.Lawful report) {s middle last : σ} {range : Range}
    {repeats : Bool} {count limit : Nat} {result : Except RunError PassOutcome}
    (hhandles : 0 < (ground.channel s).handles) (hsent : ground.sent s = k)
    (hquiet : ground.QuietPasses report range count s middle)
    (hmore : count = 0 ∨ repeats = true ∧ range.isEmpty = false) (hlimit : count < limit)
    (hpassed : ground.pass range middle = some (result, last))
    (hlast : ground.sent (closing report result last).2 = k + 1) :
    ground.sweep report range repeats limit ⟨⟨k⟩, false⟩ s = some (closing report result last) := by
  induction hquiet generalizing limit with
  | none =>
    cases limit with
    | zero => exact absurd hlimit (Nat.not_lt_zero _)
    | succ limit => exact sweep_of_closing hpassed hlast repeats limit
  | @next count s s' middle records passed quiet later ih =>
    obtain ⟨rfl, hnonempty⟩ := hmore.resolve_left (Nat.succ_ne_zero _)
    have hopen : 0 < (ground.channel (report records s')).handles := by
      rw [h.report_handles, (h.runEach_kept passed).1]
      exact hhandles
    have hlook := Listener.shouldShutdown_of_eq hopen (quiet.trans hsent)
    cases limit with
    | zero => exact absurd hlimit (Nat.not_lt_zero _)
    | succ limit =>
      simp only [sweep, passed, hnonempty, hlook, Bool.not_true, Bool.false_or,
        Bool.false_eq_true, if_false]
      exact ih hopen (quiet.trans hsent) (.inr ⟨rfl, hnonempty⟩) (Nat.lt_of_succ_lt_succ hlimit)
        hpassed

end Lawful
end Ground
end Sweep
end LedgerBench

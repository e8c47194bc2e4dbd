import LedgerBench.Proofs.Sweep.Ground

/-! The course of a pass: rounds in which a run is stopped in the ordinary way, one for each number
of seconds in turn, and then what ends the pass. A pass comes to what its course comes to, and every
pass has a course. -/

namespace LedgerBench.Sweep

open Shutdown (Listener)

namespace Ground

variable {σ : Type} {ground : Ground σ}

/-- Rounds from the run of `n` seconds on. In each the listener has nothing to report, and the run
that is then started is stopped in the ordinary way. The next one begins where it ended. -/
inductive Rounds (ground : Ground σ) :
    Nat → Listener → σ → List RunRecord → Listener → σ → Prop
  | none {n : Nat} {listener : Listener} {s : σ} : Rounds ground n listener s [] listener s
  | next {n : Nat} {listener heard listener' after : Listener} {s s' last : σ} {record : RunRecord}
      {records : List RunRecord}
      (looked : listener.shouldShutdown (ground.channel s) = (false, heard))
      (ran : ground.runOnce n heard s = some (.ok (.stopped record), listener', s'))
      (later : Rounds ground (n + 1) listener' s' records after last) :
      Rounds ground n listener s (record :: records) after last

/-- What ends a pass after the rounds that left some records, when the run of `n` seconds is next
and some number of runs is left. Then comes how many runs are started in this. -/
inductive Ends (ground : Ground σ) (n : Nat) (listener : Listener) (s : σ)
    (records : List RunRecord) : Nat → Nat → Option (Except RunError PassOutcome × σ) → Prop
  | completed : Ends ground n listener s records 0 0 (some (.ok (.completed records), s))
  | told {left : Nat} {heard : Listener}
      (looked : listener.shouldShutdown (ground.channel s) = (true, heard)) :
      Ends ground n listener s records (left + 1) 0 (some (.ok (.interrupted records), s))
  | failed {left : Nat} {heard listener' : Listener} {s' : σ} {e : RunError}
      (looked : listener.shouldShutdown (ground.channel s) = (false, heard))
      (ran : ground.runOnce n heard s = some (.error e, listener', s')) :
      Ends ground n listener s records (left + 1) 1 (some (.error e, s'))
  | interrupted {left : Nat} {heard listener' : Listener} {s' : σ} {record : RunRecord}
      (looked : listener.shouldShutdown (ground.channel s) = (false, heard))
      (ran : ground.runOnce n heard s = some (.ok (.interrupted record), listener', s')) :
      Ends ground n listener s records (left + 1) 1
        (some (.ok (.interrupted (records ++ [record])), s'))
  | endless {left : Nat} {heard : Listener}
      (looked : listener.shouldShutdown (ground.channel s) = (false, heard))
      (ran : ground.runOnce n heard s = none) : Ends ground n listener s records (left + 1) 1 none

/-- Rounds that leave some records, and then an end in which `more` runs are started; `count` runs
are to be made. -/
structure Course (ground : Ground σ) (n count : Nat) (listener : Listener) (s : σ)
    (records : List RunRecord) (more : Nat) (result : Option (Except RunError PassOutcome × σ)) :
    Prop where
  length_le : records.length ≤ count
  rounds_ends : ∃ heard middle, ground.Rounds n listener s records heard middle ∧
    ground.Ends (n + records.length) heard middle records (count - records.length) more result

def afterRound (record : RunRecord) (result : Option (Except RunError PassOutcome × σ)) :
    Option (Except RunError PassOutcome × σ) :=
  result.map fun (result, last) => (result.map (PassOutcome.after record), last)

variable {n count more : Nat} {listener heard listener' : Listener} {s s' middle : σ}
  {record : RunRecord} {records : List RunRecord}
  {result : Option (Except RunError PassOutcome × σ)}

theorem Ends.cons {left : Nat} (h : ground.Ends n listener s records left more result)
    (record : RunRecord) :
    ground.Ends n listener s (record :: records) left more (afterRound record result) := by
  cases h with
  | completed => exact .completed
  | told looked => exact .told looked
  | failed looked ran => exact .failed looked ran
  | interrupted looked ran => exact .interrupted looked ran
  | endless looked ran => exact .endless looked ran

theorem Course.next (looked : listener.shouldShutdown (ground.channel s) = (false, heard))
    (ran : ground.runOnce n heard s = some (.ok (.stopped record), listener', s'))
    (h : ground.Course (n + 1) count listener' s' records more result) :
    ground.Course n (count + 1) listener s (record :: records) more (afterRound record result) := by
  obtain ⟨hlength, heard', middle, rounds, ends⟩ := h
  refine ⟨Nat.succ_le_succ hlength, heard', middle, .next looked ran rounds, ?_⟩
  have hn : n + (record :: records).length = n + 1 + records.length := by
    rw [List.length_cons]
    omega
  have hleft : count + 1 - (record :: records).length = count - records.length := by
    rw [List.length_cons]
    omega
  rw [hn, hleft]
  exact ends.cons record

theorem Course.of_ends (ends : ground.Ends n listener s [] count more result) :
    ground.Course n count listener s [] more result :=
  ⟨Nat.zero_le _, listener, s, .none, ends⟩

theorem exists_course (ground : Ground σ) (count n : Nat) (listener : Listener) (s : σ) :
    ∃ records more,
      ground.Course n count listener s records more (ground.runEach count n listener s) := by
  induction count generalizing n listener s with
  | zero => exact ⟨[], 0, .of_ends .completed⟩
  | succ count ih =>
    rcases hlook : listener.shouldShutdown (ground.channel s) with ⟨found, heard⟩
    cases found with
    | true =>
      refine ⟨[], 0, .of_ends ?_⟩
      simp only [runEach, hlook]
      exact .told hlook
    | false =>
      cases hran : ground.runOnce n heard s with
      | none =>
        refine ⟨[], 1, .of_ends ?_⟩
        simp only [runEach, hlook, hran]
        exact .endless hlook hran
      | some ended =>
        obtain ⟨e | record | record, listener', s'⟩ := ended
        · refine ⟨[], 1, .of_ends ?_⟩
          simp only [runEach, hlook, hran]
          exact .failed hlook hran
        · obtain ⟨records, more, hcourse⟩ := ih (n + 1) listener' s'
          refine ⟨record :: records, more, ?_⟩
          rw [runEach_of_stopped hlook hran]
          exact hcourse.next hlook hran
        · refine ⟨[], 1, .of_ends ?_⟩
          simp only [runEach, hlook, hran]
          exact .interrupted hlook hran

theorem Ends.runEach_eq {left : Nat} (h : ground.Ends n listener s [] left more result) :
    ground.runEach left n listener s = result := by
  cases h with
  | completed => rfl
  | told looked => simp only [runEach, looked]
  | failed looked ran | endless looked ran => simp only [runEach, looked, ran]
  | interrupted looked ran =>
    simp only [runEach, looked, ran]
    rfl

theorem Ends.of_cons {left : Nat}
    (h : ground.Ends n listener s (record :: records) left more result) :
    ∃ rest, ground.Ends n listener s records left more rest ∧ afterRound record rest = result := by
  cases h with
  | completed => exact ⟨_, .completed, rfl⟩
  | told looked => exact ⟨_, .told looked, rfl⟩
  | failed looked ran => exact ⟨_, .failed looked ran, rfl⟩
  | interrupted looked ran => exact ⟨_, .interrupted looked ran, rfl⟩
  | endless looked ran => exact ⟨_, .endless looked ran, rfl⟩

theorem Rounds.runEach_eq {left : Nat} (h : ground.Rounds n listener s records heard middle)
    (ends : ground.Ends (n + records.length) heard middle records left more result) :
    ground.runEach (records.length + left) n listener s = result := by
  induction h generalizing result with
  | none =>
    rw [List.length_nil, Nat.zero_add]
    exact ends.runEach_eq
  | @next n _ _ _ _ _ _ _ record records looked ran _ ih =>
    have hn : n + (record :: records).length = n + 1 + records.length := by
      rw [List.length_cons]
      omega
    rw [hn] at ends
    obtain ⟨rest, hrest, rfl⟩ := ends.of_cons
    rw [List.length_cons, Nat.add_right_comm, runEach_of_stopped looked ran, ih hrest]
    rfl

theorem Course.runEach_eq (h : ground.Course n count listener s records more result) :
    ground.runEach count n listener s = result := by
  obtain ⟨hlength, heard, middle, rounds, ends⟩ := h
  have hruns := rounds.runEach_eq ends
  rwa [Nat.add_sub_cancel' hlength] at hruns

theorem runEach_eq_iff :
    ground.runEach count n listener s = result ↔
      ∃ records more, ground.Course n count listener s records more result := by
  constructor
  · rintro rfl
    exact exists_course ground count n listener s
  · rintro ⟨records, more, h⟩
    exact h.runEach_eq

/-! ### Which runs are started -/

def noting (ground : Ground σ) : Ground (σ × List Nat) where
  channel := fun (s, _) => ground.channel s
  runOnce := fun n listener (s, noted) =>
    (ground.runOnce n listener s).map fun (result, listener, s) =>
      (result, listener, s, noted ++ [n])

theorem noting_runOnce {ended : Except RunError RunOutcome × Listener × σ}
    (ran : ground.runOnce n listener s = some ended) (noted : List Nat) :
    ground.noting.runOnce n listener (s, noted) =
      some (ended.1, ended.2.1, ended.2.2, noted ++ [n]) := by
  simp only [noting, ran, Option.map_some]

theorem Rounds.noting (h : ground.Rounds n listener s records heard middle) (noted : List Nat) :
    ground.noting.Rounds n listener (s, noted) records heard
      (middle, noted ++ List.range' n records.length) := by
  induction h generalizing noted with
  | none =>
    rw [List.length_nil, List.range'_zero, List.append_nil]
    exact .none
  | @next n _ _ _ _ _ _ _ _ records looked ran _ ih =>
    have hrest := ih (noted ++ [n])
    rw [List.append_assoc, List.singleton_append, ← List.range'_succ] at hrest
    exact .next looked (noting_runOnce ran noted) hrest

theorem Ends.more_le {left : Nat} (h : ground.Ends n listener s records left more result) :
    more ≤ left := by
  cases h with
  | completed => exact Nat.le_refl 0
  | told => exact Nat.zero_le _
  | failed | interrupted | endless => exact Nat.le_add_left 1 _

theorem Ends.noting {left : Nat} (h : ground.Ends n listener s records left more result)
    (noted : List Nat) :
    ground.noting.Ends n listener (s, noted) records left more
      (result.map fun (result, last) => (result, last, noted ++ List.range' n more)) := by
  cases h with
  | completed =>
    simp only [Option.map_some, List.range'_zero, List.append_nil]
    exact .completed
  | told looked =>
    simp only [Option.map_some, List.range'_zero, List.append_nil]
    exact .told looked
  | failed looked ran => exact .failed looked (noting_runOnce ran noted)
  | interrupted looked ran => exact .interrupted looked (noting_runOnce ran noted)
  | endless looked ran =>
    refine .endless looked ?_
    simp only [Ground.noting, ran, Option.map_none]

/-- The runs that are started are those of the rounds and of the end, the shortest first. -/
theorem Course.noting (h : ground.Course n count listener s records more result)
    (noted : List Nat) :
    ground.noting.Course n count listener (s, noted) records more
      (result.map fun (result, last) =>
        (result, last, noted ++ List.range' n (records.length + more))) := by
  obtain ⟨hlength, heard, middle, rounds, ends⟩ := h
  refine ⟨hlength, heard, _, rounds.noting noted, ?_⟩
  have hends := ends.noting (noted ++ List.range' n records.length)
  have hrange (noted : List Nat) :
      noted ++ List.range' n records.length ++ List.range' (n + records.length) more =
        noted ++ List.range' n (records.length + more) := by
    rw [List.append_assoc, List.range'_append_1]
  simpa only [hrange] using hends

/-! ### The records -/

/-- The arguments of a run of `n` seconds: the configuration, and after it the options that belong to
that number. -/
def ArgsFor (conf : String) (n : Nat) (args : List String) : Prop :=
  ∃ options, args = ("--conf=" ++ conf) :: options ∧ options.Sublist ["--fg", "--net"] ∧
    ("--fg" ∈ options ↔ 2 ∣ n) ∧ ("--net" ∈ options ↔ 3 ∣ n)

/-- The record of a run of `n` seconds, whatever it says of how the run was stopped. -/
structure RecordFor (conf : String) (n : Nat) (record : RunRecord) : Prop where
  args : ArgsFor conf n record.args
  aliveFor : record.aliveFor = n

/-- A ground whose runs leave the record of a run with this configuration: with the time that the
stop took if the run was stopped, and without it if the run was interrupted. -/
structure Records (ground : Ground σ) (conf : String) : Prop where
  stopped : ∀ {n listener s record listener' s'},
    ground.runOnce n listener s = some (.ok (.stopped record), listener', s') →
      RecordFor conf n record ∧ ∃ took, record.stopTook = some took
  interrupted : ∀ {n listener s record listener' s'},
    ground.runOnce n listener s = some (.ok (.interrupted record), listener', s') →
      RecordFor conf n record ∧ record.stopTook = none

/-- The records of runs that were stopped, of `n` seconds and so on. -/
def StoppedFrom (conf : String) (n : Nat) (records : List RunRecord) : Prop :=
  ∀ i record, records[i]? = some record →
    RecordFor conf (n + i) record ∧ ∃ took, record.stopTook = some took

variable {conf : String}

theorem Rounds.stoppedFrom (h : ground.Rounds n listener s records heard middle)
    (hrecords : ground.Records conf) : StoppedFrom conf n records := by
  induction h with
  | none =>
    intro i record hrecord
    cases hrecord
  | @next n _ _ _ _ _ _ _ first rest _ ran _ ih =>
    intro i record hrecord
    cases i with
    | zero =>
      cases hrecord
      exact hrecords.stopped ran
    | succ i =>
      rw [Nat.add_comm i 1, ← Nat.add_assoc]
      exact ih i record hrecord

theorem Ends.outcome_eq {left : Nat} {outcome : PassOutcome} {last : σ}
    (h : ground.Ends n listener s records left more (some (.ok outcome, last)))
    (hrecords : ground.Records conf) :
    outcome = .completed records ∧ left = 0 ∧ more = 0 ∨
      outcome = .interrupted records ∧ 0 < left ∧ more = 0 ∨
      ∃ record, outcome = .interrupted (records ++ [record]) ∧ RecordFor conf n record ∧
        record.stopTook = none ∧ 0 < left ∧ more = 1 := by
  cases h with
  | completed => exact .inl ⟨rfl, rfl, rfl⟩
  | told looked => exact .inr (.inl ⟨rfl, Nat.succ_pos _, rfl⟩)
  | interrupted looked ran =>
    obtain ⟨hrecord, htook⟩ := hrecords.interrupted ran
    exact .inr (.inr ⟨_, rfl, hrecord, htook, Nat.succ_pos _, rfl⟩)

end Ground
end LedgerBench.Sweep

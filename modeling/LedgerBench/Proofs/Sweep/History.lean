import LedgerBench.Sweep.Config
import LedgerBench.Sweep.Run
import Mathlib.Data.List.Induction
import Mathlib.Tactic.Common

/-! What a run comes to after any history of happenings. While the server is left running, the first
of three happenings decides: it exits, its time is over, or the stop signal comes. Only in the
second case it is asked to stop, and then the run waits for it to be gone and silent, or no longer
than the watchdog does. -/

namespace LedgerBench.Sweep

/-- Happenings with their times, in the order in which a run is told of them. -/
abbrev History := List (Nat × Happening)

namespace Happening

/-- Whether it ends the time for which a server is left running. -/
def decides : Happening → Bool
  | .exited _ | .elapsed | .shutdown => true
  | .outputClosed | .overdue => false

def isExit : Happening → Bool
  | .exited _ => true
  | .elapsed | .shutdown | .outputClosed | .overdue => false

def isClosing : Happening → Bool
  | .outputClosed => true
  | .exited _ | .elapsed | .shutdown | .overdue => false

end Happening

namespace History

def hasExit (history : History) : Bool := history.any (·.2.isExit)

def hasClosing (history : History) : Bool := history.any (·.2.isClosing)

/-- The first happening that decides, with its time, and what comes before and after it. -/
structure First (history before : History) (time : Nat) (happening : Happening)
    (after : History) : Prop where
  eq : history = before ++ (time, happening) :: after
  undecided : ∀ e ∈ before, e.2.decides = false
  decides : happening.decides = true

/-- The server has exited during the second history, and its output has closed in one of the two. -/
def Finished (before during : History) : Prop :=
  (∃ e ∈ during, e.2.isExit = true) ∧ ∃ e ∈ before ++ during, e.2.isClosing = true

/-- With a watchdog, the server is not overdue. -/
def Timely (watchdog : Bool) (during : History) : Prop :=
  watchdog = true → ∀ time, (time, .overdue) ∉ during

end History

open History (First Finished Timely)

/-- What a run of `n` seconds comes to by a history, if it comes to anything, and what it does. -/
inductive Verdict (config : Config) (n : Nat) (history : History) :
    Option (Except RunError RunOutcome) → List Action → Prop where
  | undecided (hundecided : ∀ e ∈ history, e.2.decides = false) : Verdict config n history none []
  | exited {before after : History} {time : Nat} {status : WaitStatus}
      (hfirst : First history before time (.exited status) after) :
      Verdict config n history (some (.error (.exitedBeforeStop n status))) []
  | interrupted {before after : History} {time : Nat}
      (hfirst : First history before time .shutdown after) :
      Verdict config n history
        (some (.ok (.interrupted { RunRecord.start config.confPath n with stopTook := none }))) []
  | stopping {before during : History} {since : Nat}
      (hfirst : First history before since .elapsed during) (hunfinished : ¬Finished before during)
      (htimely : Timely config.abortOnStall during) : Verdict config n history none [.issueStop]
  | stopped {before during after : History} {since time : Nat} {last : Happening}
      (hfirst : First history before since .elapsed (during ++ (time, last) :: after))
      (hunfinished : ¬Finished before during) (htimely : Timely config.abortOnStall during)
      (hfinished : Finished before (during ++ [(time, last)])) :
      Verdict config n history
        (some (.ok (.stopped { RunRecord.start config.confPath n with
          stopTook := some (secondsOf (time - since)) }))) [.issueStop]
  | stalled {before during after : History} {since time : Nat}
      (hwatchdog : config.abortOnStall = true)
      (hfirst : First history before since .elapsed (during ++ (time, .overdue) :: after))
      (hunfinished : ¬Finished before during) (htimely : Timely config.abortOnStall during) :
      Verdict config n history (some (.error (.stalled n config.patience))) [.issueStop, .kill]

/-- What a run of `n` seconds has come to in a phase. -/
def Phase.result? (config : Config) (n : Nat) : Phase → Option (Except RunError RunOutcome)
  | .ended ending => some (ending.outcome config.confPath n config.patience)
  | .alive _ | .stopping .. => none

namespace History

variable {before during : History} {watchdog : Bool} {e : Nat × Happening}

theorem finished_iff :
    Finished before during ↔ (during.hasExit && (before ++ during).hasClosing) = true := by
  simp only [Finished, hasExit, hasClosing, Bool.and_eq_true, List.any_eq_true]

theorem Finished.mono (h : Finished before during) (e : Nat × Happening) :
    Finished before (during ++ [e]) := by
  obtain ⟨⟨exit, hmem, hexit⟩, closing, hmem', hclosing⟩ := h
  refine ⟨⟨exit, List.mem_append_left _ hmem, hexit⟩, closing, ?_, hclosing⟩
  rw [← List.append_assoc]
  exact List.mem_append_left _ hmem'

theorem Finished.last_ne (h : Finished before (during ++ [e]))
    (hunfinished : ¬Finished before during) : e.2 ≠ .overdue := by
  intro hoverdue
  refine hunfinished (finished_iff.2 ?_)
  have hfinished := finished_iff.1 h
  simpa [hasExit, hasClosing, hoverdue, Happening.isExit, Happening.isClosing] using hfinished

theorem not_finished_nil (before : History) : ¬Finished before [] := by
  rintro ⟨⟨_, hmem, -⟩, -⟩
  cases hmem

theorem Timely.nil (watchdog : Bool) : Timely watchdog [] := by
  rintro - time hmem
  cases hmem

theorem Timely.init (h : Timely watchdog (during ++ [e])) : Timely watchdog during :=
  fun hwatchdog time hmem => h hwatchdog time (List.mem_append_left _ hmem)

theorem Timely.last (h : Timely watchdog (during ++ [e])) (hwatchdog : watchdog = true) :
    e.2 ≠ .overdue :=
  fun he => h hwatchdog e.1 (he ▸ List.mem_append_right _ List.mem_cons_self)

end History

namespace Phase

variable {watchdog : Bool} {before during : History} {since : Nat}

theorem afterAll_append_singleton (watchdog : Bool) (history : History) (e : Nat × Happening)
    (phase : Phase) :
    phase.afterAll watchdog (history ++ [e]) =
      (((phase.afterAll watchdog history).1.after watchdog e.1 e.2).1,
        (phase.afterAll watchdog history).2 ++
          ((phase.afterAll watchdog history).1.after watchdog e.1 e.2).2.toList) := by
  rw [afterAll_append]
  simp [afterAll]

theorem afterAll_ended (watchdog : Bool) (history : History) (ending : Ending) :
    (ended ending).afterAll watchdog history = (ended ending, []) := by
  induction history with
  | nil => rfl
  | cons e rest ih =>
    rw [afterAll, after_ended]
    simp only [ih]
    rfl

theorem elapsed_of_issueStop {time : Nat} {happening : Happening} {phase : Phase}
    (h : (phase.after watchdog time happening).2 = some .issueStop) : happening = .elapsed := by
  cases happening with
  | elapsed => rfl
  | exited | shutdown | outputClosed => cases phase <;> cases h
  | overdue =>
    cases phase with
    | alive | ended => cases h
    | stopping => cases watchdog <;> cases h

theorem after_kill {time : Nat} {happening : Happening} {phase : Phase}
    (h : (phase.after watchdog time happening).2 = some .kill) :
    (phase.after watchdog time happening).1 = .ended .stalled := by
  cases phase with
  | alive | ended => cases happening <;> cases h
  | stopping =>
    cases happening with
    | exited | elapsed | shutdown | outputClosed => cases h
    | overdue =>
      cases watchdog with
      | false => cases h
      | true => rfl

theorem ended_of_kill {history : History} {phase : Phase}
    (hkill : .kill ∈ (phase.afterAll watchdog history).2) :
    (phase.afterAll watchdog history).1 = .ended .stalled := by
  induction history generalizing phase with
  | nil => cases hkill
  | cons e rest ih =>
    rcases List.mem_append.1 hkill with hkill | hkill
    · have hended := after_kill (Option.mem_toList.1 hkill)
      simp only [afterAll, hended, afterAll_ended]
    · exact ih hkill

theorem afterAll_undecided (h : ∀ e ∈ before, e.2.decides = false) (closed : Bool) :
    (alive closed).afterAll watchdog before = (alive (closed || before.hasClosing), []) := by
  induction before generalizing closed with
  | nil => simp [afterAll, History.hasClosing]
  | cons e rest ih =>
    obtain ⟨he, hrest⟩ := List.forall_mem_cons.1 h
    obtain ⟨time, happening⟩ := e
    cases happening with
    | exited | elapsed | shutdown => cases he
    | outputClosed | overdue =>
      simp [afterAll, Phase.after, ih hrest, History.hasClosing, Happening.isClosing]

/-- The run that waits since the stop command, after two histories before and during this time. -/
def waiting (since : Nat) (before during : History) : Phase :=
  .stopping since during.hasExit (before ++ during).hasClosing

theorem after_waiting (watchdog : Bool) (since : Nat) (hunfinished : ¬Finished before during)
    {e : Nat × Happening} (htimely : watchdog = true → e.2 ≠ .overdue) :
    (waiting since before during).after watchdog e.1 e.2 =
      (if (during ++ [e]).hasExit && (before ++ (during ++ [e])).hasClosing then
          .ended (.stopped (e.1 - since)) else waiting since before (during ++ [e]), none) := by
  have hopen := Bool.eq_false_iff.2 (mt History.finished_iff.2 hunfinished)
  obtain ⟨time, happening⟩ := e
  have hexit : (during ++ [(time, happening)]).hasExit = (during.hasExit || happening.isExit) := by
    simp [History.hasExit]
  have hclosing : (before ++ (during ++ [(time, happening)])).hasClosing =
      ((before ++ during).hasClosing || happening.isClosing) := by
    simp [History.hasClosing, Bool.or_assoc]
  rw [waiting, waiting, hexit, hclosing]
  cases happening with
  | exited | outputClosed =>
    simp [Phase.after, settled, Happening.isExit, Happening.isClosing]
  | elapsed | shutdown =>
    simp [Phase.after, Happening.isExit, Happening.isClosing, hopen]
  | overdue =>
    have hwatchdog : watchdog = false := Bool.eq_false_iff.2 fun h => htimely h rfl
    simp [Phase.after, Happening.isExit, Happening.isClosing, hopen, hwatchdog]

theorem afterAll_waiting (since : Nat) (hunfinished : ¬Finished before during)
    (htimely : Timely watchdog during) :
    (waiting since before []).afterAll watchdog during = (waiting since before during, []) := by
  induction during using List.reverseRecOn with
  | nil => rfl
  | append_singleton during e ih =>
    have hopen : ¬Finished before during := fun h => hunfinished (h.mono e)
    rw [afterAll_append_singleton, ih hopen htimely.init,
      after_waiting watchdog since hopen htimely.last, if_neg (mt History.finished_iff.2 hunfinished)]
    rfl

/-- What a run comes to by what has decided and by what came after that. -/
theorem afterAll_first {history after : History} {time : Nat} {happening : Happening}
    (hfirst : First history before time happening after) :
    start.afterAll watchdog history =
      (alive before.hasClosing).afterAll watchdog ((time, happening) :: after) := by
  rw [hfirst.eq, afterAll_append, start, afterAll_undecided hfirst.undecided]
  rfl

theorem afterAll_elapsed {history after : History}
    (hfirst : First history before since .elapsed after) :
    start.afterAll watchdog history =
      (((waiting since before []).afterAll watchdog after).1,
        .issueStop :: ((waiting since before []).afterAll watchdog after).2) := by
  rw [afterAll_first hfirst, waiting, List.append_nil]
  rfl

end Phase

namespace History

/-- Something decides, or nothing does. -/
theorem undecided_or_first (history : History) :
    (∀ e ∈ history, e.2.decides = false) ∨
      ∃ before time happening after, First history before time happening after := by
  cases hfound : history.find? (·.2.decides) with
  | none =>
    refine .inl fun e he => ?_
    simpa using List.find?_eq_none.1 hfound e he
  | some e =>
    obtain ⟨hdecides, before, after, heq, hundecided⟩ := List.find?_eq_some_iff_append.1 hfound
    refine .inr ⟨before, e.1, e.2, after, heq, fun e' he' => ?_, hdecides⟩
    simpa using hundecided e' he'

theorem waits_or_ends (watchdog : Bool) (before during : History) :
    ¬Finished before during ∧ Timely watchdog during ∨
      ∃ earlier time last later, during = earlier ++ (time, last) :: later ∧
        ¬Finished before earlier ∧ Timely watchdog earlier ∧
        (Finished before (earlier ++ [(time, last)]) ∨ watchdog = true ∧ last = .overdue) := by
  induction during using List.reverseRecOn with
  | nil => exact .inl ⟨not_finished_nil before, Timely.nil watchdog⟩
  | append_singleton during e ih =>
    rcases ih with ⟨hunfinished, htimely⟩ | ⟨earlier, time, last, later, rfl, hended⟩
    · by_cases hend : Finished before (during ++ [e]) ∨ watchdog = true ∧ e.2 = .overdue
      · exact .inr ⟨during, e.1, e.2, [], rfl, hunfinished, htimely, hend⟩
      · refine .inl ⟨fun h => hend (.inl h), fun hwatchdog time hmem => ?_⟩
        rcases List.mem_append.1 hmem with hmem | hmem
        · exact htimely hwatchdog time hmem
        · rw [List.mem_singleton] at hmem
          exact hend (.inr ⟨hwatchdog, congrArg Prod.snd hmem.symm⟩)
    · exact .inr ⟨earlier, time, last, later ++ [e], by simp, hended⟩

end History

variable {config : Config} {n : Nat} {history : History}
  {result : Option (Except RunError RunOutcome)} {actions : List Action}

theorem Verdict.computed (h : Verdict config n history result actions) :
    (Phase.start.afterAll config.abortOnStall history).1.result? config n = result ∧
      (Phase.start.afterAll config.abortOnStall history).2 = actions := by
  cases h with
  | undecided hundecided =>
    rw [Phase.start, Phase.afterAll_undecided hundecided]
    exact ⟨rfl, rfl⟩
  | exited hfirst | interrupted hfirst =>
    rw [Phase.afterAll_first hfirst]
    simp only [Phase.afterAll, Phase.after, Phase.afterAll_ended]
    exact ⟨rfl, rfl⟩
  | stopping hfirst hunfinished htimely =>
    rw [Phase.afterAll_elapsed hfirst, Phase.afterAll_waiting _ hunfinished htimely]
    exact ⟨rfl, rfl⟩
  | @stopped _ _ _ since _ _ hfirst hunfinished htimely hfinished =>
    have hlast := Phase.after_waiting config.abortOnStall since hunfinished
      fun _ => hfinished.last_ne hunfinished
    rw [if_pos (History.finished_iff.1 hfinished)] at hlast
    rw [Phase.afterAll_elapsed hfirst, Phase.afterAll_append,
      Phase.afterAll_waiting _ hunfinished htimely]
    simp only [Phase.afterAll, hlast, Phase.afterAll_ended]
    exact ⟨rfl, rfl⟩
  | stalled hwatchdog hfirst hunfinished htimely =>
    rw [Phase.afterAll_elapsed hfirst, Phase.afterAll_append,
      Phase.afterAll_waiting _ hunfinished htimely]
    simp only [Phase.afterAll, Phase.waiting, Phase.after, hwatchdog, if_true, Phase.afterAll_ended]
    exact ⟨rfl, rfl⟩

theorem Verdict.exists (config : Config) (n : Nat) (history : History) :
    ∃ result actions, Verdict config n history result actions := by
  rcases history.undecided_or_first with hundecided | ⟨before, time, happening, after, hfirst⟩
  · exact ⟨_, _, .undecided hundecided⟩
  cases happening with
  | exited => exact ⟨_, _, .exited hfirst⟩
  | shutdown => exact ⟨_, _, .interrupted hfirst⟩
  | outputClosed | overdue => cases hfirst.decides
  | elapsed =>
    rcases History.waits_or_ends config.abortOnStall before after with
      ⟨hunfinished, htimely⟩ | ⟨earlier, last, _, later, rfl, hunfinished, htimely, hended⟩
    · exact ⟨_, _, .stopping hfirst hunfinished htimely⟩
    · rcases hended with hfinished | ⟨hwatchdog, rfl⟩
      · exact ⟨_, _, .stopped hfirst hunfinished htimely hfinished⟩
      · exact ⟨_, _, .stalled hwatchdog hfirst hunfinished htimely⟩

/-- For every history there is one verdict, and it is what a run computes step by step. -/
theorem verdict_iff :
    Verdict config n history result actions ↔
      (Phase.start.afterAll config.abortOnStall history).1.result? config n = result ∧
        (Phase.start.afterAll config.abortOnStall history).2 = actions := by
  refine ⟨Verdict.computed, fun ⟨hresult, hactions⟩ => ?_⟩
  obtain ⟨result', actions', hverdict⟩ := Verdict.exists config n history
  obtain ⟨hresult', hactions'⟩ := hverdict.computed
  rwa [← hresult, ← hactions, hresult', hactions']

end LedgerBench.Sweep

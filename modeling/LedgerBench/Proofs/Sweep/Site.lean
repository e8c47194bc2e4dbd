import LedgerBench.Proofs.Sweep.Ground
import LedgerBench.Sweep.Site

/-! A machine as the place of a sweep: while a run goes on, only a stop signal that ends the run
changes what its listener has heard. -/

namespace LedgerBench.Sweep

open Shutdown (Channel Listener)

theorem channel_takeSignal (site : Site) : site.takeSignal.channel = site.channel.send := by
  unfold Site.takeSignal
  cases site.notice <;> rfl

/-- The listener of a run is as it was when it had passed `k` signals, unless it has ended the run.
-/
def Progress.Unmoved (k : Nat) (progress : Progress) : Prop :=
  progress.listener = ⟨⟨k⟩, false⟩ ∨ progress.phase = .ended .interrupted

namespace Progress

variable {config : Config} {k : Nat} {progress progress' : Progress} {site site' : Site}

theorem tell_kept {happening : Happening}
    (h : progress.tell config happening site = .ok (progress', site')) :
    progress'.listener = progress.listener ∧ site'.channel = site.channel ∧
      progress'.phase =
        (progress.phase.after config.abortOnStall site.system.clock happening).1 := by
  rcases hafter : progress.phase.after config.abortOnStall site.system.clock happening with
    ⟨phase, _ | _ | _⟩
  · simp only [tell, hafter] at h
    cases h
    exact ⟨rfl, rfl, rfl⟩
  · simp only [tell, hafter] at h
    cases hlaunched : site.system.launch config.serverPath (stopArgs config.confPath) ⟨false, false⟩
      with
    | error e =>
      simp only [hlaunched] at h
      cases h
    | ok launched =>
      simp only [hlaunched] at h
      cases h
      exact ⟨rfl, rfl, rfl⟩
  · simp only [tell, hafter] at h
    cases h
    exact ⟨rfl, rfl, rfl⟩

theorem Unmoved.tell {happening : Happening} (hkept : progress.Unmoved k)
    (h : progress.tell config happening site = .ok (progress', site')) : progress'.Unmoved k := by
  obtain ⟨hlistener, -, hphase⟩ := tell_kept h
  rcases hkept with hkept | hended
  · exact .inl (hlistener.trans hkept)
  · rw [hended, Phase.after_ended] at hphase
    exact .inr hphase

theorem tellAll_cons (happening : Happening) (rest : List Happening) (progress : Progress)
    (site : Site) :
    progress.tellAll config (happening :: rest) site =
      progress.tell config happening site >>= fun (progress, site) =>
        progress.tellAll config rest site := rfl

theorem tellAll_kept {happenings : List Happening}
    (h : progress.tellAll config happenings site = .ok (progress', site')) :
    site'.channel = site.channel ∧ (progress.Unmoved k → progress'.Unmoved k) := by
  induction happenings generalizing progress site with
  | nil =>
    cases h
    exact ⟨rfl, id⟩
  | cons happening rest ih =>
    rw [tellAll_cons] at h
    cases htold : progress.tell config happening site with
    | error e =>
      rw [htold] at h
      cases h
    | ok told =>
      obtain ⟨middle, site''⟩ := told
      rw [htold] at h
      obtain ⟨hchannel, hkept⟩ := ih h
      exact ⟨hchannel.trans (tell_kept htold).2.1, fun hprogress => hkept (hprogress.tell htold)⟩

theorem advance_kept (h : progress.advance config site = some (.ok (progress', site'))) :
    site'.channel.handles = site.channel.handles ∧ site.channel.sent ≤ site'.channel.sent ∧
      (progress.Unmoved k → progress'.Unmoved k) := by
  cases hturn : site.turn? progress.deadline with
  | none =>
    simp only [advance, hturn] at h
    cases h
  | some turn =>
    cases turn with
    | deadline time =>
      simp only [advance, hturn, Option.some.injEq] at h
      have hchannel := (tell_kept h).2.1
      refine ⟨congrArg Channel.handles hchannel, ?_, fun hkept => Unmoved.tell ?_ h⟩
      · exact Nat.le_of_eq (congrArg Channel.sent hchannel).symm
      · exact hkept
    | process =>
      simp only [advance, hturn, Option.some.injEq] at h
      obtain ⟨hchannel, hkept⟩ := tellAll_kept (k := k) h
      refine ⟨congrArg Channel.handles hchannel, ?_, hkept⟩
      exact Nat.le_of_eq (congrArg Channel.sent hchannel).symm
    | signal =>
      have hsent : site.takeSignal.channel = site.channel.send := channel_takeSignal site
      cases hphase : progress.phase with
      | alive closed =>
        rcases hwait : progress.listener.waitIsOver site.takeSignal.channel with ⟨isOver, listener⟩
        simp only [advance, hturn, hphase, hwait, Option.some.injEq] at h
        have hchannel := (tellAll_kept (k := k) h).1.trans hsent
        refine ⟨?_, ?_, fun hkept => ?_⟩
        · rw [hchannel]
          rfl
        · rw [hchannel]
          exact Nat.le_succ _
        · cases isOver with
          | true =>
            rw [if_pos rfl, tellAll_cons] at h
            cases h
            exact .inr rfl
          | false =>
            have hlistener : progress.listener = ⟨⟨k⟩, false⟩ := by
              rcases hkept with hkept | hended
              · exact hkept
              · rw [hphase] at hended
                cases hended
            rw [hlistener] at hwait
            cases h
            exact .inl (Listener.waitIsOver_eq_false hwait).2
      | stopping | ended =>
        simp only [advance, hturn, hphase, Option.some.injEq] at h
        cases h
        rw [hsent]
        exact ⟨rfl, Nat.le_succ _, id⟩

theorem finish_kept {fuel : Nat} {result : Except RunError Ending} {listener : Listener}
    (h : progress.finish config fuel site = some (result, listener, site')) :
    site'.channel.handles = site.channel.handles ∧ site.channel.sent ≤ site'.channel.sent ∧
      (progress.Unmoved k → ∀ took, result = .ok (.stopped took) → listener = ⟨⟨k⟩, false⟩) := by
  induction fuel generalizing progress site with
  | zero => cases h
  | succ fuel ih =>
    cases hphase : progress.phase with
    | ended ending =>
      simp only [finish, hphase, Option.some.injEq, Prod.mk.injEq] at h
      obtain ⟨rfl, rfl, rfl⟩ := h
      refine ⟨rfl, Nat.le_refl _, fun hkept took hstopped => ?_⟩
      cases hstopped
      refine hkept.resolve_right fun hinterrupted => ?_
      rw [hphase] at hinterrupted
      cases hinterrupted
    | alive | stopping =>
      simp only [finish, hphase] at h
      cases hadvanced : progress.advance config site with
      | none =>
        rw [hadvanced] at h
        cases h
      | some after =>
        rw [hadvanced] at h
        cases after with
        | error e =>
          cases h
          refine ⟨rfl, Nat.le_refl _, fun _ took hstopped => ?_⟩
          cases hstopped
        | ok after =>
          obtain ⟨hhandles, hle, hkept⟩ := advance_kept (k := k) hadvanced
          obtain ⟨hhandles', hle', hkept'⟩ := ih h
          exact ⟨hhandles'.trans hhandles, Nat.le_trans hle hle', fun hprogress =>
            hkept' (hkept hprogress)⟩

end Progress

variable {config : Config}

theorem runOnce_kept {n : Nat} {listener listener' : Listener} {site site' : Site}
    {result : Except RunError RunOutcome}
    (h : runOnce config n listener site = some (result, listener', site')) :
    site'.channel.handles = site.channel.handles ∧ site.channel.sent ≤ site'.channel.sent ∧
      ∀ k record, listener = ⟨⟨k⟩, false⟩ → result = .ok (.stopped record) →
        site.channel.sent ≤ k ∧ listener' = ⟨⟨k⟩, false⟩ := by
  cases hlaunched : site.system.launch config.serverPath (startArgs config.confPath n)
      ⟨true, true⟩ with
  | error e =>
    simp only [runOnce, hlaunched] at h
    cases h
    refine ⟨rfl, Nat.le_refl _, fun k record _ hstopped => ?_⟩
    cases hstopped
  | ok launched =>
    obtain ⟨server, system⟩ := launched
    rcases hwait : listener.waitIsOver site.channel with ⟨isOver, heard⟩
    cases isOver with
    | true =>
      simp only [runOnce, hlaunched, hwait, if_true] at h
      cases h
      refine ⟨rfl, Nat.le_refl _, fun k record _ hstopped => ?_⟩
      cases hstopped
    | false =>
      simp only [runOnce, hlaunched, hwait, Bool.false_eq_true, if_false] at h
      cases hfinished : Progress.finish config stepLimit
          ⟨server, .start, some (system.clock + 1000000 * n), heard⟩ { site with system } with
      | none =>
        rw [hfinished] at h
        cases h
      | some finished =>
        obtain ⟨ending, heard', last⟩ := finished
        rw [hfinished] at h
        have hkept := fun k => Progress.finish_kept (k := k) hfinished
        cases ending with
        | error e =>
          cases h
          refine ⟨(hkept 0).1, (hkept 0).2.1, fun k record _ hstopped => ?_⟩
          cases hstopped
        | ok ending =>
          cases h
          refine ⟨(hkept 0).1, (hkept 0).2.1, fun k record hlistener hstopped => ?_⟩
          subst hlistener
          obtain ⟨hpassed, hheard⟩ := Listener.waitIsOver_eq_false hwait
          cases ending with
          | stopped took => exact ⟨hpassed, (hkept k).2.2 (.inl hheard) took rfl⟩
          | interrupted | exitedBeforeStop | stalled => cases hstopped

/-- A machine is a lawful place for a sweep, whatever comes in while the records are written, as
long as handles stay and signals are only added. -/
theorem Site.ground_lawful (config : Config) {report : List RunRecord → Site → Site}
    (hhandles : ∀ records site, (report records site).channel.handles = site.channel.handles)
    (hsent : ∀ records site, site.channel.sent ≤ (report records site).channel.sent) :
    (Site.ground config).Lawful report where
  handles h := (runOnce_kept h).1
  sent_le h := (runOnce_kept h).2.1
  unheard _ h := (runOnce_kept h).2.2 _ _ rfl rfl
  report_handles := hhandles
  sent_le_report := hsent

end LedgerBench.Sweep

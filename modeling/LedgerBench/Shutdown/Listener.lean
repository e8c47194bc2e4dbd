import LedgerBench.Shutdown.Channel

/-! Listeners for the stop signal. Once a listener has seen the signal it stays triggered. -/

namespace LedgerBench.Shutdown

structure Listener where
  receiver : Receiver
  triggered : Bool
  deriving Repr, DecidableEq

def Channel.listen (channel : Channel) : Listener := ⟨channel.subscribe, false⟩

namespace Listener

/-- Whether the signal has come by now. Having lagged is not yet the signal. -/
def shouldShutdown (listener : Listener) (channel : Channel) : Bool × Listener :=
  if listener.triggered then (true, listener)
  else
    let (reception, receiver) := listener.receiver.receive channel
    let triggered := reception == .signal || reception == .closed
    (triggered, ⟨receiver, triggered⟩)

/-- Whether waiting for the signal is over by now. Whatever arrives ends the wait. -/
def waitIsOver (listener : Listener) (channel : Channel) : Bool × Listener :=
  if listener.triggered then (true, listener)
  else
    let (reception, receiver) := listener.receiver.receive channel
    let triggered := reception != .empty
    (triggered, ⟨receiver, triggered⟩)

@[simp] theorem shouldShutdown_of_triggered {listener : Listener} (h : listener.triggered = true)
    (channel : Channel) : listener.shouldShutdown channel = (true, listener) := by
  simp [shouldShutdown, h]

theorem triggered_shouldShutdown (listener : Listener) (channel : Channel) :
    (listener.shouldShutdown channel).2.triggered = (listener.shouldShutdown channel).1 := by
  unfold shouldShutdown
  split <;> simp_all

section Look

variable {channel : Channel} {k : Nat}

theorem shouldShutdown_of_eq (hhandles : 0 < channel.handles) (hsent : channel.sent = k) :
    shouldShutdown ⟨⟨k⟩, false⟩ channel = (false, ⟨⟨k⟩, false⟩) := by
  have hopen : channel.handles ≠ 0 := Nat.ne_of_gt hhandles
  simp [shouldShutdown, Receiver.receive, hsent, hopen]

theorem shouldShutdown_of_succ (hsent : channel.sent = k + 1) :
    shouldShutdown ⟨⟨k⟩, false⟩ channel = (true, ⟨⟨k + 1⟩, true⟩) := by
  simp [shouldShutdown, Receiver.receive, hsent]

/-- Of several new signals a look learns only that it has fallen behind. -/
theorem shouldShutdown_of_lt (hsent : k + 1 < channel.sent) :
    shouldShutdown ⟨⟨k⟩, false⟩ channel = (false, ⟨⟨channel.sent - 1⟩, false⟩) := by
  have hnew : k < channel.sent := Nat.lt_of_succ_lt hsent
  have hmore : k + 1 ≠ channel.sent := Nat.ne_of_lt hsent
  simp [shouldShutdown, Receiver.receive, hnew, hmore]

theorem waitIsOver_of_eq (hhandles : 0 < channel.handles) (hsent : channel.sent = k) :
    waitIsOver ⟨⟨k⟩, false⟩ channel = (false, ⟨⟨k⟩, false⟩) := by
  have hopen : channel.handles ≠ 0 := Nat.ne_of_gt hhandles
  simp [waitIsOver, Receiver.receive, hsent, hopen]

theorem waitIsOver_eq_false {listener : Listener}
    (h : waitIsOver ⟨⟨k⟩, false⟩ channel = (false, listener)) :
    channel.sent ≤ k ∧ listener = ⟨⟨k⟩, false⟩ := by
  by_cases hnew : k < channel.sent
  · by_cases hone : k + 1 = channel.sent
    · simp [waitIsOver, Receiver.receive, hnew, hone] at h
    · simp [waitIsOver, Receiver.receive, hnew, hone] at h
  · by_cases hgone : channel.handles = 0
    · simp [waitIsOver, Receiver.receive, hnew, hgone] at h
    · simp [waitIsOver, Receiver.receive, hnew, hgone] at h
      exact ⟨Nat.le_of_not_lt hnew, h.symm⟩

end Look

end Listener
end LedgerBench.Shutdown

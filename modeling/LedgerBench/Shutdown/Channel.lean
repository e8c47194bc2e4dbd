/-! The channel that carries the stop signal. It keeps the newest signal alone, so a receiver that
has fallen behind is told so once and then finds the newest signal. -/

namespace LedgerBench.Shutdown

/-- The signals that were sent, and the handles that can still send. -/
structure Channel where
  sent : Nat
  handles : Nat
  deriving Repr, DecidableEq

/-- The number of signals that a receiver has behind it. -/
structure Receiver where
  passed : Nat
  deriving Repr, DecidableEq

/-- What a receiver finds when it looks. It lags when signals were replaced before it looked. -/
inductive Reception where
  | signal
  | lagged
  | empty
  | closed
  deriving Repr, DecidableEq

namespace Channel

def start : Channel := ⟨0, 1⟩

def send (channel : Channel) : Channel :=
  { channel with sent := channel.sent + 1 }

def addHandle (channel : Channel) : Channel :=
  { channel with handles := channel.handles + 1 }

def dropHandle (channel : Channel) : Channel :=
  { channel with handles := channel.handles - 1 }

def subscribe (channel : Channel) : Receiver := ⟨channel.sent⟩

end Channel

def Receiver.receive (receiver : Receiver) (channel : Channel) : Reception × Receiver :=
  if receiver.passed < channel.sent then
    if receiver.passed + 1 = channel.sent then (.signal, ⟨channel.sent⟩)
    else (.lagged, ⟨channel.sent - 1⟩)
  else if channel.handles = 0 then (.closed, receiver)
  else (.empty, receiver)

namespace Receiver

theorem receive_subscribe (channel : Channel) (h : 0 < channel.handles) :
    channel.subscribe.receive channel = (.empty, channel.subscribe) := by
  have : channel.handles ≠ 0 := by omega
  simp [receive, Channel.subscribe, this]

/-- After the news of having lagged comes the newest signal. -/
theorem receive_of_lagged {receiver later : Receiver} {channel : Channel}
    (h : receiver.receive channel = (.lagged, later)) :
    later.receive channel = (.signal, channel.subscribe) := by
  unfold receive at h
  split at h
  · split at h
    · simp at h
    · obtain ⟨-, rfl⟩ := Prod.mk.injEq .. ▸ h
      have h1 : channel.sent - 1 < channel.sent := by omega
      have h2 : channel.sent - 1 + 1 = channel.sent := by omega
      simp [receive, h1, h2, Channel.subscribe]
  · split at h <;> simp at h

end Receiver
end LedgerBench.Shutdown

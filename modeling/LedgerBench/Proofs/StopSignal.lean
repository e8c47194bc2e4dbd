import LedgerBench.Shutdown.Listener
import Mathlib.Data.List.DropRight
import Mathlib.Data.List.Induction

/-! What a listener answers in the course of any history of signals, handles and looks. A look finds
the stop signal unless a signal has replaced another one that was still to be found; after such a
look the next one finds it, if nothing is sent in between. -/

namespace LedgerBench.Shutdown

/-- What can happen once a listener is there. Without a handle nobody can send a signal or make
another handle. -/
inductive Event where
  | signal
  | cloneHandle
  | dropHandle
  | look
  deriving Repr, DecidableEq

namespace Event

def handles (count : Nat) : Event → Nat
  | .cloneHandle => if count = 0 then 0 else count + 1
  | .dropHandle => count - 1
  | .signal | .look => count

def step (state : Channel × Listener) : Event → Channel × Listener
  | .signal => (if state.1.handles = 0 then state.1 else state.1.send, state.2)
  | .cloneHandle => (if state.1.handles = 0 then state.1 else state.1.addHandle, state.2)
  | .dropHandle => (state.1.dropHandle, state.2)
  | .look => (state.1, (state.2.shouldShutdown state.1).2)

theorem handles_step (event : Event) (state : Channel × Listener) :
    (event.step state).1.handles = event.handles state.1.handles := by
  cases event with
  | signal | cloneHandle =>
    by_cases h : state.1.handles = 0 <;> simp [step, handles, h, Channel.send, Channel.addHandle]
  | dropHandle | look => rfl

theorem sent_step (event : Event) (state : Channel × Listener) :
    (event.step state).1.sent =
      state.1.sent + if event = .signal ∧ state.1.handles ≠ 0 then 1 else 0 := by
  cases event with
  | signal | cloneHandle =>
    by_cases h : state.1.handles = 0 <;> simp [step, h, Channel.send, Channel.addHandle]
  | dropHandle | look => rfl

theorem listener_step {event : Event} (h : event ≠ .look) (state : Channel × Listener) :
    (event.step state).2 = state.2 := by
  cases event with
  | signal | cloneHandle | dropHandle => rfl
  | look => exact absurd rfl h

end Event

/-- A channel and a listener that was made on it, after a history. -/
def watched (channel : Channel) (history : List Event) : Channel × Listener :=
  history.foldl Event.step (channel, channel.listen)

/-- What a look answers right after a history. -/
def answerAfter (channel : Channel) (history : List Event) : Bool :=
  let state := watched channel history
  (state.2.shouldShutdown state.1).1

/-! ### Histories -/

def handlesAfter (count : Nat) (history : List Event) : Nat :=
  history.foldl Event.handles count

def sentIn : Nat → List Event → Nat
  | _, [] => 0
  | count, event :: rest =>
    (if event = .signal ∧ count ≠ 0 then 1 else 0) + sentIn (event.handles count) rest

def untilLook (history : List Event) : List Event :=
  history.rdropWhile (· ≠ .look)

/-- The signals that were sent before the last look. -/
def sentBeforeLook (count : Nat) (history : List Event) : Nat :=
  sentIn count (untilLook history)

/-- A signal was sent, or the last handle is gone. -/
def Stopped (count : Nat) (history : List Event) : Prop :=
  0 < sentIn count history ∨ handlesAfter count history = 0

/-- A signal has come since the last look, and it was not the first one. -/
def Overrun (count : Nat) (history : List Event) : Prop :=
  sentBeforeLook count history < sentIn count history ∧ 1 < sentIn count history

@[simp] theorem watched_append_singleton (channel : Channel) (history : List Event)
    (event : Event) :
    watched channel (history ++ [event]) = event.step (watched channel history) := by
  simp [watched]

@[simp] theorem handlesAfter_append_singleton (count : Nat) (history : List Event)
    (event : Event) :
    handlesAfter count (history ++ [event]) = event.handles (handlesAfter count history) := by
  simp [handlesAfter]

@[simp] theorem sentIn_append_singleton (count : Nat) (history : List Event) (event : Event) :
    sentIn count (history ++ [event]) =
      sentIn count history +
        if event = .signal ∧ handlesAfter count history ≠ 0 then 1 else 0 := by
  induction history generalizing count with
  | nil => simp only [List.nil_append, sentIn, handlesAfter, List.foldl_nil, Nat.zero_add]; rfl
  | cons first rest ih => simp only [List.cons_append, sentIn, ih, Nat.add_assoc]; rfl

theorem untilLook_append_look (history : List Event) :
    untilLook (history ++ [.look]) = history ++ [.look] := by
  simp [untilLook]

theorem untilLook_append_of_ne (history : List Event) {event : Event} (h : event ≠ .look) :
    untilLook (history ++ [event]) = untilLook history := by
  simp [untilLook, h]

@[simp] theorem sentBeforeLook_append_look (count : Nat) (history : List Event) :
    sentBeforeLook count (history ++ [.look]) = sentIn count history := by
  simp [sentBeforeLook, untilLook_append_look]

theorem sentBeforeLook_append_of_ne (count : Nat) (history : List Event) {event : Event}
    (h : event ≠ .look) :
    sentBeforeLook count (history ++ [event]) = sentBeforeLook count history := by
  rw [sentBeforeLook, untilLook_append_of_ne history h, sentBeforeLook]

/-- A look right after the history finds the stop signal, whatever was looked at before. -/
def Finds (count : Nat) (history : List Event) : Prop :=
  Stopped count history ∧ ¬Overrun count history

/-- Some look of the history found the stop signal. -/
def FoundIn (count : Nat) (history : List Event) : Prop :=
  ∃ earlier later, history = earlier ++ .look :: later ∧ Finds count earlier

theorem foundIn_append_singleton {count : Nat} {history : List Event} {event : Event} :
    FoundIn count (history ++ [event]) ↔
      FoundIn count history ∨ (event = .look ∧ Finds count history) := by
  constructor
  · rintro ⟨earlier, later, heq, hfinds⟩
    rcases List.eq_nil_or_concat later with rfl | ⟨rest, last, rfl⟩
    · obtain ⟨rfl, hevent⟩ := List.append_inj' heq rfl
      exact .inr ⟨by simpa using hevent, hfinds⟩
    · rw [List.concat_eq_append, ← List.cons_append, ← List.append_assoc] at heq
      exact .inl ⟨earlier, rest, (List.append_inj' heq rfl).1, hfinds⟩
  · rintro (⟨earlier, later, rfl, hfinds⟩ | ⟨rfl, hfinds⟩)
    · exact ⟨earlier, later ++ [event], by simp, hfinds⟩
    · exact ⟨history, [], rfl, hfinds⟩

theorem Stopped.append {count : Nat} {history : List Event} (h : Stopped count history)
    (later : List Event) : Stopped count (history ++ later) := by
  induction later using List.reverseRecOn with
  | nil => simpa using h
  | append_singleton later event ih =>
    rw [← List.append_assoc]
    rcases ih with hsent | hgone
    · left
      rw [sentIn_append_singleton]
      omega
    · right
      rw [handlesAfter_append_singleton, hgone]
      cases event <;> rfl

theorem FoundIn.stopped {count : Nat} {history : List Event} (h : FoundIn count history) :
    Stopped count history := by
  obtain ⟨earlier, later, rfl, hfinds⟩ := h
  exact hfinds.1.append _

theorem Stopped.finds_append_look {count : Nat} {history : List Event} (h : Stopped count history) :
    Finds count (history ++ [.look]) := by
  refine ⟨h.append _, fun hoverrun => ?_⟩
  simpa using hoverrun.1

/-! ### Runs -/

/-- What a history says about the channel and the listener after it. A listener that has found
nothing has at most one of the signals from before its last look still to read. -/
structure Tracks (channel : Channel) (history : List Event) (state : Channel × Listener) :
    Prop where
  sent : state.1.sent = channel.sent + sentIn channel.handles history
  handles : state.1.handles = handlesAfter channel.handles history
  triggered : state.2.triggered = true ↔ FoundIn channel.handles history
  unread : state.2.triggered = false →
    state.2.receiver.passed + (min 1 (sentBeforeLook channel.handles history) +
      (sentIn channel.handles history - sentBeforeLook channel.handles history)) = state.1.sent

theorem sentBeforeLook_le (count : Nat) (history : List Event) :
    sentBeforeLook count history ≤ sentIn count history := by
  induction history using List.reverseRecOn with
  | nil => exact le_rfl
  | append_singleton history event ih =>
    by_cases h : event = .look
    · subst h
      simp
    · rw [sentBeforeLook_append_of_ne _ _ h, sentIn_append_singleton]
      omega

/-- A look of a listener that has found nothing yet finds the signal, or learns that the newest one
has replaced another and is then one signal behind. -/
theorem Tracks.look {channel : Channel} {history : List Event} {state : Channel × Listener}
    (h : Tracks channel history state) (hnot : state.2.triggered = false) :
    ((state.2.shouldShutdown state.1).1 = true ↔ Finds channel.handles history) ∧
      ((state.2.shouldShutdown state.1).1 = false →
        (state.2.shouldShutdown state.1).2.receiver.passed +
          min 1 (sentIn channel.handles history) = state.1.sent) := by
  obtain ⟨⟨sent, handles⟩, ⟨⟨passed⟩, triggered⟩⟩ := state
  obtain rfl : triggered = false := hnot
  have hunread := h.unread rfl
  have hhandles := h.handles
  have hle := sentBeforeLook_le channel.handles history
  simp only [Finds, Stopped, Overrun, ← hhandles] at hunread ⊢
  by_cases hnew : passed < sent
  · by_cases hone : passed + 1 = sent
    · simp [Listener.shouldShutdown, Receiver.receive, hnew, hone]
      omega
    · simp [Listener.shouldShutdown, Receiver.receive, hnew, hone]
      omega
  · by_cases hgone : handles = 0
    · simp [Listener.shouldShutdown, Receiver.receive, hnew, hgone]
      omega
    · simp [Listener.shouldShutdown, Receiver.receive, hnew, hgone]
      omega

theorem Tracks.step_of_ne {channel : Channel} {history : List Event} {state : Channel × Listener}
    (h : Tracks channel history state) {event : Event} (hne : event ≠ .look) :
    Tracks channel (history ++ [event]) (event.step state) where
  sent := by rw [event.sent_step, h.sent, h.handles, sentIn_append_singleton, Nat.add_assoc]
  handles := by rw [event.handles_step, h.handles, handlesAfter_append_singleton]
  triggered := by
    rw [Event.listener_step hne, h.triggered, foundIn_append_singleton]
    simp [hne]
  unread hnot := by
    rw [Event.listener_step hne] at hnot ⊢
    have hunread := h.unread hnot
    have hle := sentBeforeLook_le channel.handles history
    rw [event.sent_step, sentBeforeLook_append_of_ne _ _ hne, sentIn_append_singleton, ← h.handles]
    omega

theorem Tracks.step_look {channel : Channel} {history : List Event} {state : Channel × Listener}
    (h : Tracks channel history state) :
    Tracks channel (history ++ [.look]) (Event.look.step state) where
  sent := by rw [Event.sent_step, h.sent, h.handles, sentIn_append_singleton, Nat.add_assoc]
  handles := by rw [Event.handles_step, h.handles, handlesAfter_append_singleton]
  triggered := by
    rw [foundIn_append_singleton, ← h.triggered]
    simp only [Event.step, Listener.triggered_shouldShutdown]
    cases hfound : state.2.triggered with
    | true => simp [hfound]
    | false => simp [(h.look hfound).1]
  unread hnot := by
    simp only [Event.step, Listener.triggered_shouldShutdown] at hnot ⊢
    cases hfound : state.2.triggered with
    | true => simp [hfound] at hnot
    | false => simpa using (h.look hfound).2 hnot

theorem tracks_watched (channel : Channel) (history : List Event) :
    Tracks channel history (watched channel history) := by
  induction history using List.reverseRecOn with
  | nil =>
    refine ⟨rfl, rfl, ⟨nofun, ?_⟩, fun _ => rfl⟩
    rintro ⟨earlier, later, heq, -⟩
    simp at heq
  | append_singleton history event ih =>
    rw [watched_append_singleton]
    by_cases hlook : event = .look
    · subst hlook
      exact ih.step_look
    · exact ih.step_of_ne hlook

theorem answerAfter_iff (channel : Channel) (history : List Event) :
    answerAfter channel history = true ↔
      Finds channel.handles history ∨ FoundIn channel.handles history := by
  have htracks := tracks_watched channel history
  rw [← htracks.triggered, answerAfter]
  cases hfound : (watched channel history).2.triggered with
  | true => simp [hfound]
  | false => simp [(htracks.look hfound).1]

/-- A look answers true exactly if the stop signal has come, or the last handle is gone, and no signal
has replaced another since the last look, or if an earlier look has found it. So no look answers true
too early, and a single signal is never missed; but of two signals between two looks nothing is seen
at first. A second look finds what was missed, and from then on the answer stays true. -/
theorem looks_find_stop (channel : Channel) (history : List Event) :
    (answerAfter channel history = true ↔
      Finds channel.handles history ∨ FoundIn channel.handles history) ∧
    (answerAfter channel history = true → Stopped channel.handles history) ∧
    (sentIn channel.handles history ≤ 1 →
      (answerAfter channel history = true ↔ Stopped channel.handles history)) ∧
    (Stopped channel.handles history → answerAfter channel (history ++ [.look]) = true) ∧
    (answerAfter channel history = true →
      ∀ later, answerAfter channel (history ++ .look :: later) = true) := by
  have hiff := answerAfter_iff channel history
  have hstopped : answerAfter channel history = true → Stopped channel.handles history := by
    rw [hiff]
    exact fun h => h.elim And.left FoundIn.stopped
  refine ⟨hiff, hstopped, fun hone => ⟨hstopped, fun h => ?_⟩, fun h => ?_, fun h later => ?_⟩
  · exact hiff.2 (.inl ⟨h, fun hoverrun => by have := hoverrun.2; omega⟩)
  · exact (answerAfter_iff channel _).2 (.inl h.finds_append_look)
  · refine (answerAfter_iff channel _).2 (.inr ?_)
    rcases hiff.1 h with hfinds | ⟨earlier, rest, rfl, hfinds⟩
    · exact ⟨history, later, rfl, hfinds⟩
    · exact ⟨earlier, rest ++ .look :: later, by simp, hfinds⟩

/-- Two signals before the first look: the look finds nothing, though both were sent. -/
theorem two_signals_missed :
    Stopped Channel.start.handles [.signal, .signal] ∧
      answerAfter .start [.signal, .signal] = false := by
  exact ⟨.inl (by decide), by decide⟩

end LedgerBench.Shutdown

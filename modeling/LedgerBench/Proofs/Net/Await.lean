import LedgerBench.Net.WebSocket

/-! What a request reads before its answer comes. Arrivals are read in order: pings, pongs and
messages with another number are passed over, and the first message with the number of the request
is its answer. Everything behind the answer stays unread, and so does everything behind what ends
the wait without one. -/

namespace LedgerBench

namespace Json

theorem field?_cons (first name : String) (value : Json) (rest : List (String × Json)) :
    (object ((first, value) :: rest)).field? name =
      if first = name then some value else (object rest).field? name := by
  by_cases h : first = name <;> simp [field?, h]

theorem field?_putMember (name other : String) (value : Json) (members : List (String × Json)) :
    (object (putMember name value members)).field? other =
      if name = other then some value else (object members).field? other := by
  induction members with
  | nil => exact field?_cons name other value []
  | cons member rest ih =>
    obtain ⟨first, old⟩ := member
    simp only [putMember]
    split
    · rw [field?_cons]
    · split
      · next hsame =>
        subst hsame
        by_cases h : name = other <;> simp [field?_cons, h]
      · next hdiffer =>
        rw [field?_cons, field?_cons, ih]
        by_cases h : name = other
        · subst h
          simp [Ne.symm hdiffer]
        · simp [h]

end Json

namespace Net.WebSocket

/-- A frame whose text is a JSON value. -/
inductive Carries : Frame → Json → Prop
  | text {text : String} {envelope : Json} (reads : Json.parse? text = some envelope) :
      Carries (.text text) envelope
  | binary {bytes : List UInt8} {chars : List Char} {envelope : Json}
      (decodes : Text.readUtf8 bytes = .ok chars)
      (reads : Json.parse? (String.ofList chars) = some envelope) :
      Carries (.binary bytes) envelope

/-- What a request passes over. -/
inductive PassedOver (id : UInt64) : Arrival → Prop
  | ping : PassedOver id (.frame .ping)
  | pong : PassedOver id (.frame .pong)
  | other {frame : Frame} {envelope : Json} (carries : Carries frame envelope)
      (differs : envelope.wordField? "id" ≠ some id) : PassedOver id (.frame frame)

/-- Among some arrivals, the answer to a request and what comes behind it. -/
structure Answered (id : UInt64) (arrivals : List Arrival) (envelope : Json)
    (rest : List Arrival) : Prop where
  carried : ∃ passed frame, arrivals = passed ++ .frame frame :: rest ∧
    (∀ arrival ∈ passed, PassedOver id arrival) ∧ Carries frame envelope
  number : envelope.wordField? "id" = some id

/-- What ends the wait for an answer, and the failure that it is. -/
inductive EndsWait : Arrival → RemoteError → Prop
  | silence : EndsWait .silence .timeout
  | close : EndsWait (.frame .close) .closed
  | notUtf8 {bytes : List UInt8} {e : Text.Utf8Error} (fails : Text.readUtf8 bytes = .error e) :
      EndsWait (.frame (.binary bytes)) (.decode ("binary message is not UTF-8: " ++ e.message))
  | notJson {text : String} (unread : Json.parse? text = none) :
      EndsWait (.frame (.text text)) (.decode "<json>")
  | bytesNotJson {bytes : List UInt8} {chars : List Char} (decodes : Text.readUtf8 bytes = .ok chars)
      (unread : Json.parse? (String.ofList chars) = none) :
      EndsWait (.frame (.binary bytes)) (.decode "<json>")

/-- Among some arrivals, what ends the wait for an answer and what comes behind it. When all has been
passed over, or the stream is at its end, nothing is left behind. -/
inductive Unanswered (id : UInt64) : List Arrival → RemoteError → List Arrival → Prop
  | nothing {passed : List Arrival} (passes : ∀ arrival ∈ passed, PassedOver id arrival) :
      Unanswered id passed .timeout []
  | reset {passed later : List Arrival} (passes : ∀ arrival ∈ passed, PassedOver id arrival) :
      Unanswered id (passed ++ .reset :: later)
        (.transport "WebSocket protocol error: Connection reset without closing handshake") []
  | ended {passed rest : List Arrival} {arrival : Arrival} {error : RemoteError}
      (passes : ∀ arrival ∈ passed, PassedOver id arrival) (ends : EndsWait arrival error) :
      Unanswered id (passed ++ arrival :: rest) error rest

theorem Unanswered.cons {id : UInt64} {arrival : Arrival} {arrivals rest : List Arrival}
    {error : RemoteError} (harrival : PassedOver id arrival)
    (h : Unanswered id arrivals error rest) : Unanswered id (arrival :: arrivals) error rest := by
  cases h with
  | nothing passes => exact .nothing (List.forall_mem_cons.2 ⟨harrival, passes⟩)
  | reset passes => exact .reset (List.forall_mem_cons.2 ⟨harrival, passes⟩)
  | ended passes ends => exact .ended (List.forall_mem_cons.2 ⟨harrival, passes⟩) ends

theorem frameText_of_carries {frame : Frame} {envelope : Json} (h : Carries frame envelope) :
    ∃ text, frameText frame = some (.ok text) ∧ Json.parse? text = some envelope := by
  cases h with
  | text reads => exact ⟨_, rfl, reads⟩
  | binary decodes reads => exact ⟨_, by simp only [frameText, decodes], reads⟩

/-- Failures after which nothing can be sent any more. -/
def LosesLink : RemoteError → Prop
  | .closed | .transport _ => True
  | .remote .. | .timeout | .decode _ => False

theorem await_passedOver {id : UInt64} {arrival : Arrival} (h : PassedOver id arrival)
    (rest : List Arrival) : await id (arrival :: rest) = await id rest := by
  cases h with
  | ping | pong => rfl
  | other carries differs =>
    obtain ⟨text, htext, hreads⟩ := frameText_of_carries carries
    cases carries <;> simp only [await, htext, hreads, differs, if_false]

theorem await_carries {id : UInt64} {frame : Frame} {envelope : Json} (h : Carries frame envelope)
    (hnumber : envelope.wordField? "id" = some id) (rest : List Arrival) :
    await id (.frame frame :: rest) = (.ok envelope, .active, rest) := by
  obtain ⟨text, htext, hreads⟩ := frameText_of_carries h
  cases h <;> simp only [await, htext, hreads, hnumber, if_true]

theorem await_endsWait {id : UInt64} {arrival : Arrival} {error : RemoteError}
    (h : EndsWait arrival error) (rest : List Arrival) :
    ∃ phase, await id (arrival :: rest) = (.error error, phase, rest) ∧
      (phase = .active ↔ ¬LosesLink error) := by
  cases h with
  | silence => exact ⟨_, rfl, by simp [LosesLink]⟩
  | close => exact ⟨_, rfl, by simp [LosesLink]⟩
  | notUtf8 fails =>
    exact ⟨.active, by simp only [await, frameText, fails], by simp [LosesLink]⟩
  | notJson unread =>
    exact ⟨.active, by simp only [await, frameText, unread, brokenMessage], by simp [LosesLink]⟩
  | bytesNotJson decodes unread =>
    exact ⟨.active, by simp only [await, frameText, decodes, unread, brokenMessage],
      by simp [LosesLink]⟩

theorem arrival_cases (id : UInt64) (arrival : Arrival) :
    PassedOver id arrival ∨
      (∃ frame envelope, arrival = .frame frame ∧ Carries frame envelope ∧
        envelope.wordField? "id" = some id) ∨
      arrival = .reset ∨ ∃ error, EndsWait arrival error := by
  have hcarried : ∀ {frame envelope}, Carries frame envelope →
      PassedOver id (.frame frame) ∨ ∃ other answer, Arrival.frame frame = .frame other ∧
        Carries other answer ∧ answer.wordField? "id" = some id := by
    intro frame envelope hcarries
    by_cases hnumber : envelope.wordField? "id" = some id
    · exact .inr ⟨frame, envelope, rfl, hcarries, hnumber⟩
    · exact .inl (.other hcarries hnumber)
  cases arrival with
  | reset => exact .inr (.inr (.inl rfl))
  | silence => exact .inr (.inr (.inr ⟨_, .silence⟩))
  | frame frame =>
    cases frame with
    | ping => exact .inl .ping
    | pong => exact .inl .pong
    | close => exact .inr (.inr (.inr ⟨_, .close⟩))
    | text text =>
      cases hreads : Json.parse? text with
      | none => exact .inr (.inr (.inr ⟨_, .notJson hreads⟩))
      | some envelope => exact (hcarried (.text hreads)).imp_right .inl
    | binary bytes =>
      cases hdecodes : Text.readUtf8 bytes with
      | error e => exact .inr (.inr (.inr ⟨_, .notUtf8 hdecodes⟩))
      | ok chars =>
        cases hreads : Json.parse? (String.ofList chars) with
        | none => exact .inr (.inr (.inr ⟨_, .bytesNotJson hdecodes hreads⟩))
        | some envelope => exact (hcarried (.binary hdecodes hreads)).imp_right .inl

theorem await_reset (id : UInt64) (later : List Arrival) :
    await id (.reset :: later) = (.error connectionReset, .terminated, []) := rfl

theorem await_append {id : UInt64} {passed : List Arrival}
    (h : ∀ arrival ∈ passed, PassedOver id arrival) (rest : List Arrival) :
    await id (passed ++ rest) = await id rest := by
  induction passed with
  | nil => rfl
  | cons arrival passed ih =>
    obtain ⟨harrival, hpassed⟩ := List.forall_mem_cons.1 h
    rw [List.cons_append, await_passedOver harrival, ih hpassed]

/-- A wait comes to the first answer or to what ends it, whichever stands first, and what is behind
that stays unread. The connection is lost only with a failure that says so. -/
theorem await_cases (id : UInt64) (arrivals : List Arrival) :
    (∃ envelope rest, await id arrivals = (.ok envelope, .active, rest) ∧
      Answered id arrivals envelope rest) ∨
    ∃ error phase rest, await id arrivals = (.error error, phase, rest) ∧
      Unanswered id arrivals error rest ∧ (phase = .active ↔ ¬LosesLink error) := by
  induction arrivals with
  | nil => exact .inr ⟨_, _, _, rfl, .nothing (List.forall_mem_nil _), by simp [LosesLink]⟩
  | cons arrival later ih =>
    rcases arrival_cases id arrival with hpassed | ⟨frame, envelope, rfl, hcarries, hnumber⟩ | rfl |
      ⟨error, hends⟩
    · rw [await_passedOver hpassed]
      rcases ih with ⟨envelope, rest, hread, ⟨passed, frame, rfl, hall, hcarries⟩, hnumber⟩ |
        ⟨error, phase, rest, hread, hunanswered, hphase⟩
      · exact .inl ⟨envelope, rest, hread, ⟨arrival :: passed, frame, rfl,
          List.forall_mem_cons.2 ⟨hpassed, hall⟩, hcarries⟩, hnumber⟩
      · exact .inr ⟨error, phase, rest, hread, hunanswered.cons hpassed, hphase⟩
    · exact .inl ⟨envelope, later, await_carries hcarries hnumber later,
        ⟨[], frame, rfl, List.forall_mem_nil _, hcarries⟩, hnumber⟩
    · exact .inr ⟨_, _, _, await_reset id later, .reset (List.forall_mem_nil _),
        by simp [LosesLink, connectionReset]⟩
    · obtain ⟨phase, hread, hphase⟩ := await_endsWait hends later
      exact .inr ⟨error, phase, later, hread, .ended (List.forall_mem_nil _) hends,
        hphase⟩

/-- A request gets an answer exactly if it is the first message with its number and nothing else than
what is passed over comes before it. -/
theorem answered_iff {id : UInt64} {arrivals rest : List Arrival} {envelope : Json} :
    Answered id arrivals envelope rest ↔
      (await id arrivals).1 = .ok envelope ∧ (await id arrivals).2.2 = rest := by
  constructor
  · rintro ⟨⟨passed, frame, rfl, hpassed, hcarries⟩, hnumber⟩
    rw [await_append hpassed, await_carries hcarries hnumber]
    exact ⟨rfl, rfl⟩
  · rintro ⟨hreply, rfl⟩
    rcases await_cases id arrivals with ⟨answer, unread, hread, hanswered⟩ |
      ⟨error, phase, unread, hread, -⟩
    · rw [hread] at hreply ⊢
      cases hreply
      exact hanswered
    · rw [hread] at hreply
      cases hreply

theorem unanswered_iff {id : UInt64} {arrivals rest : List Arrival} {error : RemoteError} :
    Unanswered id arrivals error rest ↔
      (await id arrivals).1 = .error error ∧ (await id arrivals).2.2 = rest := by
  constructor
  · intro h
    cases h with
    | nothing passes =>
      rw [← List.append_nil arrivals, await_append passes]
      exact ⟨rfl, rfl⟩
    | reset passes =>
      rw [await_append passes, await_reset]
      exact ⟨rfl, rfl⟩
    | ended passes ends =>
      obtain ⟨phase, hread, -⟩ := await_endsWait ends rest
      rw [await_append passes, hread]
      exact ⟨rfl, rfl⟩
  · rintro ⟨hreply, rfl⟩
    rcases await_cases id arrivals with ⟨answer, unread, hread, -⟩ |
      ⟨error', phase, unread, hread, hunanswered, -⟩
    · rw [hread] at hreply
      cases hreply
    · rw [hread] at hreply ⊢
      cases hreply
      exact hunanswered

/-- A connection is lost only with a failure that says so. -/
theorem await_active_iff (id : UInt64) (arrivals : List Arrival) :
    (await id arrivals).2.1 = .active ↔
      ∀ error, (await id arrivals).1 = .error error → ¬LosesLink error := by
  rcases await_cases id arrivals with ⟨answer, unread, hread, -⟩ |
    ⟨error, phase, unread, hread, -, hphase⟩
  · simp [hread]
  · simpa [hread] using hphase

end Net.WebSocket
end LedgerBench

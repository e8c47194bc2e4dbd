import LedgerBench.Proofs.Net.Await
import Mathlib.Algebra.Group.Nat.Defs
import Mathlib.Data.List.Induction

/-! Requests over one connection and their answers. The state that requests share is the number of the
next one and what has come in and is still unread; a history of requests hands both on, so that the
answer of one request is never taken for that of another. -/

namespace LedgerBench.Net.WebSocket

/-- What happens to a connection: a request, with how the other side reacts if it is sent, what
comes in while no request waits, and its end. -/
inductive Event where
  | request (command : String) (params : Json) (reaction : List Arrival)
  | arrive (arrivals : List Arrival)
  | close

/-- A request to which the other side reacts in the given way. -/
def requestReacting (socket : WebSocket) (command : String) (params : Json)
    (reaction : List Arrival) : Except RemoteError Json × WebSocket :=
  request command params (socket.reacting reaction)

namespace Event

def step (socket : WebSocket) : Event → WebSocket
  | .request command params reaction => (socket.requestReacting command params reaction).2
  | .arrive arrivals => { socket with incoming := socket.incoming ++ arrivals }
  | .close => (WebSocket.close socket).2

def isRequest : Event → Bool
  | .request .. => true
  | .arrive _ | .close => false

def reply? (socket : WebSocket) : Event → Option (Except RemoteError Json)
  | .request command params reaction => some (socket.requestReacting command params reaction).1
  | .arrive _ | .close => none

/-- An event with which the connection ends: it is given up, or a request fails because of it. -/
def Ends (socket : WebSocket) (event : Event) : Prop :=
  event = .close ∨ ∃ error, event.reply? socket = some (.error error) ∧ LosesLink error

end Event

/-- A connection after some events. -/
def after (socket : WebSocket) (history : List Event) : WebSocket :=
  history.foldl Event.step socket

/-- The number of requests in a history, sent or not. -/
def asked (history : List Event) : Nat :=
  history.countP Event.isRequest

def membersOf : Json → Option (List (String × Json))
  | .object members => some members
  | .null => some []
  | _ => none

/-- A request that is sent: the connection stands, and the parameters are an object or missing. -/
def IsSent (socket : WebSocket) (params : Json) : Prop :=
  socket.phase = .active ∧ (membersOf params).isSome

/-- The frame of a request: its number and its command stand in place of any members of those names,
and all others are those of the parameters. -/
structure IsMessage (number : Nat) (command : String) (params message : Json) : Prop where
  number : message.field? "id" = some (.natural number)
  command : message.field? "command" = some (.string command)
  others : ∀ name, name ≠ "id" → name ≠ "command" → message.field? name = params.field? name

@[simp] theorem after_append_singleton (socket : WebSocket) (history : List Event)
    (event : Event) : socket.after (history ++ [event]) = event.step (socket.after history) := by
  simp [after]

theorem field?_of_membersOf {params : Json} {members : List (String × Json)}
    (h : membersOf params = some members) (name : String) :
    (Json.object members).field? name = params.field? name := by
  cases params with
  | object fields => cases h; rfl
  | null => cases h; rfl
  | bool | number | string | array => cases h

theorem isMessage {params : Json} {members : List (String × Json)}
    (h : membersOf params = some members) (number : Nat) (command : String) :
    IsMessage number command params (message (UInt64.ofNat number) command members) where
  number := by
    simp only [message, Json.setField, Json.field?_putMember]
    rfl
  command := by simp only [message, Json.setField, Json.field?_putMember, if_true]
  others name hid hcommand := by
    simp only [message, Json.setField, Json.field?_putMember, hid.symm, hcommand.symm, if_false,
      field?_of_membersOf h]

theorem requestReacting_sent {socket : WebSocket} (hactive : socket.phase = .active)
    {params : Json} {members : List (String × Json)} (h : membersOf params = some members)
    (command : String) (reaction : List Arrival) :
    let read := await socket.nextId (socket.incoming ++ reaction)
    socket.requestReacting command params reaction =
      (read.1, { phase := read.2.1, nextId := socket.nextId + 1, incoming := read.2.2
                 reaction := []
                 sent := socket.sent ++ [message socket.nextId command members] }) := by
  cases params with
  | object fields =>
    cases h
    simp only [requestReacting, request, reacting, exchange, hactive]
  | null =>
    cases h
    simp only [requestReacting, request, reacting, exchange, hactive]
  | bool | number | string | array => cases h

theorem requestReacting_unsent {socket : WebSocket} {params : Json} (h : ¬socket.IsSent params)
    (command : String) (reaction : List Arrival) :
    ∃ error, socket.requestReacting command params reaction =
      (.error error, { socket with nextId := socket.nextId + 1, reaction }) ∧
      (socket.phase = .active → ¬LosesLink error) := by
  cases hmembers : membersOf params with
  | none =>
    cases params with
    | bool | number | string | array => exact ⟨_, rfl, fun _ => by simp [LosesLink]⟩
    | object | null => cases hmembers
  | some members =>
    have hphase : socket.phase ≠ .active := fun hactive => h ⟨hactive, by rw [hmembers]; rfl⟩
    cases params with
    | object | null =>
      cases hlost : socket.phase with
      | active => exact absurd hlost hphase
      | closedByPeer | terminated | released =>
        simp only [requestReacting, request, reacting, exchange, hlost]
        refine ⟨_, rfl, fun hactive => ?_⟩
        cases hactive
    | bool | number | string | array => cases hmembers

theorem nextId_step (socket : WebSocket) (event : Event) :
    (event.step socket).nextId = socket.nextId + if event.isRequest then 1 else 0 := by
  cases event with
  | request command params reaction =>
    by_cases hsent : socket.IsSent params
    · obtain ⟨members, hmembers⟩ := Option.isSome_iff_exists.1 hsent.2
      simp [Event.step, Event.isRequest, requestReacting_sent hsent.1 hmembers]
    · obtain ⟨error, hreply, -⟩ := requestReacting_unsent hsent command reaction
      simp [Event.step, Event.isRequest, hreply]
  | arrive | close => simp [Event.step, Event.isRequest, WebSocket.close]

theorem nextId_after (history : List Event) :
    (start.after history).nextId = UInt64.ofNat (asked history + 1) := by
  induction history using List.reverseRecOn with
  | nil => rfl
  | append_singleton history event ih =>
    rw [after_append_singleton, nextId_step, ih]
    cases event <;> simp [asked, Event.isRequest]

theorem phase_step (socket : WebSocket) (event : Event) :
    (event.step socket).phase = .active ↔ socket.phase = .active ∧ ¬event.Ends socket := by
  cases event with
  | arrive arrivals => simp [Event.step, Event.Ends, Event.reply?]
  | close => simp [Event.step, Event.Ends, WebSocket.close]
  | request command params reaction =>
    by_cases hsent : socket.IsSent params
    · obtain ⟨members, hmembers⟩ := Option.isSome_iff_exists.1 hsent.2
      have hlost := await_active_iff socket.nextId (socket.incoming ++ reaction)
      simp [Event.step, Event.Ends, Event.reply?, requestReacting_sent hsent.1 hmembers, hsent.1,
        hlost]
    · obtain ⟨error, hreply, hkept⟩ := requestReacting_unsent hsent command reaction
      simpa [Event.step, Event.Ends, Event.reply?, hreply] using hkept

theorem phase_after (history : List Event) :
    (start.after history).phase = .active ↔
      ∀ earlier event later, history = earlier ++ event :: later →
        ¬event.Ends (start.after earlier) := by
  induction history using List.reverseRecOn with
  | nil => simp [after, start]
  | append_singleton history event ih =>
    rw [after_append_singleton, phase_step, ih]
    constructor
    · rintro ⟨hbefore, hevent⟩ earlier first later heq
      rcases List.eq_nil_or_concat later with rfl | ⟨rest, last, rfl⟩
      · obtain ⟨rfl, hsame⟩ := List.append_inj' heq rfl
        cases hsame
        exact hevent
      · rw [List.concat_eq_append, ← List.cons_append, ← List.append_assoc] at heq
        exact hbefore earlier first rest (List.append_inj' heq rfl).1
    · intro h
      refine ⟨?_, h history event [] rfl⟩
      rintro earlier first later rfl
      exact h earlier first (later ++ [event]) (by simp)

theorem requestReacting_answered {socket : WebSocket} {params : Json} (hsent : socket.IsSent params)
    (command : String) {reaction rest : List Arrival} {envelope : Json}
    (h : Answered socket.nextId (socket.incoming ++ reaction) envelope rest) :
    (socket.requestReacting command params reaction).1 = .ok envelope ∧
      (socket.requestReacting command params reaction).2.incoming = rest := by
  obtain ⟨members, hmembers⟩ := Option.isSome_iff_exists.1 hsent.2
  rw [requestReacting_sent hsent.1 hmembers]
  exact answered_iff.1 h

/-- Whatever has happened on a connection before, the next request has the next number. It is sent in
one frame, if the connection stands, and its answer is the first message with its number, if nothing
comes before that but pings, pongs and messages with other numbers. So the answer that another request
has missed is none for this one. What is behind the answer, or else behind what ended the wait, stays
unread. The connection stands until it is closed or a request fails because of it; after a timeout and
after a message that could not be read the request after it gets its answer. -/
theorem replies_are_matched {history : List Event} (hcount : asked history + 1 < 2 ^ 64)
    (command : String) (params : Json) (reaction : List Arrival) :
    let socket := start.after history
    let number := asked history + 1
    let outcome := socket.requestReacting command params reaction
    let unread := socket.incoming ++ reaction
    (socket.IsSent params →
      (∃ message, IsMessage number command params message ∧
        outcome.2.sent = socket.sent ++ [message]) ∧
      (∀ envelope rest, outcome.1 = .ok envelope ∧ outcome.2.incoming = rest ↔
        Answered (UInt64.ofNat number) unread envelope rest) ∧
      ∀ error rest, outcome.1 = .error error ∧ outcome.2.incoming = rest ↔
        Unanswered (UInt64.ofNat number) unread error rest) ∧
    (¬socket.IsSent params →
      (∃ error, outcome.1 = .error error) ∧ outcome.2.sent = socket.sent ∧
        outcome.2.incoming = socket.incoming) ∧
    (∀ envelope other, outcome.1 = .ok envelope → other < 2 ^ 64 →
      envelope.wordField? "id" = some (UInt64.ofNat other) → other = number) ∧
    (socket.phase = .active ↔ ∀ earlier event later, history = earlier ++ event :: later →
      ¬event.Ends (start.after earlier)) ∧
    (socket.phase = .active →
      outcome.1 = .error .timeout ∨ (∃ text, outcome.1 = .error (.decode text)) →
      ∀ command' params' reaction' envelope rest, (membersOf params').isSome →
        Answered (UInt64.ofNat (number + 1)) (outcome.2.incoming ++ reaction') envelope rest →
        let later := outcome.2.requestReacting command' params' reaction'
        later.1 = .ok envelope ∧ later.2.incoming = rest) := by
  intro socket number outcome unread
  have hid : socket.nextId = UInt64.ofNat number := nextId_after history
  have hsent : ∀ members, socket.phase = .active → membersOf params = some members →
      outcome = ((await (UInt64.ofNat number) unread).1,
        { phase := (await (UInt64.ofNat number) unread).2.1, nextId := socket.nextId + 1
          incoming := (await (UInt64.ofNat number) unread).2.2, reaction := []
          sent := socket.sent ++ [message (UInt64.ofNat number) command members] }) := by
    intro members hactive hmembers
    rw [← hid]
    exact requestReacting_sent hactive hmembers command reaction
  refine ⟨fun ⟨hactive, hsome⟩ => ?_, fun hunsent => ?_, ?_, phase_after history, ?_⟩
  · obtain ⟨members, hmembers⟩ := Option.isSome_iff_exists.1 hsome
    rw [hsent members hactive hmembers]
    exact ⟨⟨_, isMessage hmembers number command, rfl⟩, fun _ _ => answered_iff.symm,
      fun _ _ => unanswered_iff.symm⟩
  · obtain ⟨error, hreply, -⟩ := requestReacting_unsent hunsent command reaction
    rw [show outcome = _ from hreply]
    exact ⟨⟨error, rfl⟩, rfl, rfl⟩
  · intro envelope other hreply hother hword
    by_cases his : socket.IsSent params
    · obtain ⟨members, hmembers⟩ := Option.isSome_iff_exists.1 his.2
      rw [hsent members his.1 hmembers] at hreply
      have hnumber := (answered_iff.2 ⟨hreply, rfl⟩).number
      rw [hnumber, Option.some.injEq] at hword
      have hnat := congrArg UInt64.toNat hword
      rw [UInt64.toNat_ofNat_of_lt' hcount, UInt64.toNat_ofNat_of_lt' hother] at hnat
      exact hnat.symm
    · obtain ⟨error, hfailed, -⟩ := requestReacting_unsent his command reaction
      simp only [outcome, hfailed] at hreply
      cases hreply
  · intro hactive hfailed command' params' reaction' envelope rest hparams hanswered
    -- the failed request is one more event, with which the connection does not end
    have hkept : outcome.2.phase = .active := by
      refine (phase_step socket (.request command params reaction)).2 ⟨hactive, ?_⟩
      rintro (hclose | ⟨error, hreply, hlost⟩)
      · cases hclose
      · have herror : outcome.1 = .error error := Option.some.inj hreply
        rcases hfailed with htimeout | ⟨text, hdecode⟩
        · cases htimeout.symm.trans herror
          exact hlost
        · cases hdecode.symm.trans herror
          exact hlost
    have hnext : outcome.2.nextId = UInt64.ofNat (number + 1) := by
      change ((Event.request command params reaction).step socket).nextId = _
      rw [nextId_step, hid]
      simp [Event.isRequest]
    rw [← hnext] at hanswered
    exact requestReacting_answered ⟨hkept, hparams⟩ command' hanswered

/-- A request has timed out, and the next one comes upon a broken message, behind which the late answer
to the first one stays unread. The third request passes it over. -/
theorem late_replies_passed_over :
    let history : List Event := [.request "account_info" .null [.silence]]
    let socket := start.after history
    let reaction : List Arrival :=
      [.frame (.text "oops"), .frame (.text "\x7b\"id\":1,\"status\":\"success\"\x7d")]
    let failed := socket.requestReacting "account_lines" .null reaction
    let reaction' : List Arrival :=
      [.frame .ping, .frame (.text "[7]"), .frame (.text "\x7b\"id\":3\x7d"), .frame .close]
    let outcome := failed.2.requestReacting "ledger_accept" .null reaction'
    asked history + 1 < 2 ^ 64 ∧ socket.IsSent .null ∧ failed.1 = .error (.decode "<json>") ∧
      failed.2.incoming = [.frame (.text "\x7b\"id\":1,\"status\":\"success\"\x7d")] ∧
      outcome.1 = .ok (.object [("id", .natural 3)]) ∧ outcome.2.incoming = [.frame .close] := by
  intro history socket reaction failed reaction' outcome
  have hcount : asked history + 1 < 2 ^ 64 := by decide
  have hsent : socket.IsSent .null := ⟨rfl, rfl⟩
  obtain ⟨hmatched, -, -, -, hlater⟩ := replies_are_matched hcount "account_lines" .null reaction
  have hbroken : Json.parse? "oops" = none := by rfl
  have hfailed : failed.1 = .error (.decode "<json>") ∧
      failed.2.incoming = [.frame (.text "\x7b\"id\":1,\"status\":\"success\"\x7d")] :=
    ((hmatched hsent).2.2 _ _).2 (.ended (List.forall_mem_nil _) (.notJson hbroken))
  refine ⟨hcount, hsent, hfailed.1, hfailed.2, ?_⟩
  refine hlater rfl (.inr ⟨_, hfailed.1⟩) "ledger_accept" .null reaction' _ _ rfl ?_
  rw [hfailed.2]
  refine ⟨⟨_ :: reaction'.take 2, .text "\x7b\"id\":3\x7d", rfl, ?_, .text rfl⟩, rfl⟩
  have hlate : Json.parse? "\x7b\"id\":1,\"status\":\"success\"\x7d" =
      some (.object [("id", .natural 1), ("status", .string "success")]) := by rfl
  have hnews : Json.parse? "[7]" = some (.array [.natural 7]) := by rfl
  intro arrival hmem
  simp only [reaction', List.take_succ_cons, List.take_zero, List.mem_cons, List.not_mem_nil,
    or_false] at hmem
  rcases hmem with rfl | rfl | rfl
  · exact .other (.text hlate) (by decide)
  · exact .ping
  · exact .other (.text hnews) (by decide)

end LedgerBench.Net.WebSocket

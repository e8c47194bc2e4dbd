import LedgerBench.Proofs.AccountHistory
import LedgerBench.Proofs.Ledger.Effect

/-! A request is done as a whole or not at all: whatever is refused leaves the server as it was, and
a transaction that does not succeed takes at most a sequence number. -/

namespace LedgerBench

namespace Ledger

/-- Of a ledger nothing changes but the number of one account, which is one more than before. -/
structure TakesNumber (before after : Ledger) (sender : String) : Prop where
  own : ∃ old, before.account? sender = some old ∧
    after.account? sender = some { old with sequence := old.sequence + 1 }
  others : ∀ address, address ≠ sender → after.account? address = before.account? address
  lines : after.lines = before.lines

theorem takesNumber_bumpSequence {ledger : Ledger} {sender : String} {old : Account}
    (h : ledger.account? sender = some old) :
    TakesNumber ledger (ledger.bumpSequence sender) sender where
  own := by
    refine ⟨old, h, ?_⟩
    rw [account?] at h
    simp only [account?, bumpSequence, Register.get?_update_self, h, Option.map_some]
  others _ hne := Register.get?_update_of_ne _ _ hne
  lines := rfl

/-- A transaction that fails takes the number of its sender exactly if its code is a `tec` one. -/
theorem apply_of_not_success {ledger : Ledger} {tx : Transaction}
    (h : (ledger.apply tx).1 ≠ .success) :
    (¬['t', 'e', 'c'] <+: (ledger.apply tx).1.code.toList → (ledger.apply tx).2 = ledger) ∧
      (['t', 'e', 'c'] <+: (ledger.apply tx).1.code.toList →
        TakesNumber ledger (ledger.apply tx).2 tx.account) := by
  rcases ledger.apply_cases tx with ⟨after, _, _, ha⟩ | ⟨r, _, ha⟩
  · rw [ha] at h
    exact absurd rfl h
  · have hclaimed : r.isClaimed = true ↔ ['t', 'e', 'c'] <+: r.code.toList :=
      List.isPrefixOf_iff_prefix
    rw [ha, ← hclaimed]
    refine ⟨fun hkept => if_neg hkept, fun htaken => ?_⟩
    have hcode : takesSequence (ledger.apply tx).1.code = true := by
      rw [ha, takesSequence, Bool.or_eq_true]
      exact .inr htaken
    obtain ⟨sequence, hsequence⟩ := Option.isSome_iff_exists.1 (known_of_takesSequence hcode)
    obtain ⟨old, hold, -⟩ := Option.map_eq_some_iff.1 hsequence
    rw [if_pos htaken]
    exact takesNumber_bumpSequence hold

end Ledger

namespace Server

/-- The envelope of an answer. -/
def IsSuccess (envelope : Json) : Prop :=
  envelope.stringField? "status" = some "success" ∧
    ∃ result, envelope.field? "result" = some result

/-- The envelope of a refusal. -/
def IsFailure (envelope : Json) : Prop :=
  envelope.stringField? "status" = some "error" ∧
    (∃ code, envelope.stringField? "error" = some code) ∧
    ∃ message, envelope.stringField? "error_message" = some message

theorem isSuccess_envelope (result : Json) : IsSuccess (envelope (.ok result)) :=
  ⟨rfl, result, rfl⟩

theorem isFailure_envelope (refusal : Refusal) : IsFailure (envelope (.error refusal)) :=
  ⟨rfl, ⟨refusal.code, rfl⟩, refusal.message, rfl⟩

theorem Handled.envelope_cases {server after : Server} {command : String} {params : Json}
    {answer : Answer} (h : Handled server command params answer after) :
    IsSuccess (envelope answer) ∨ IsFailure (envelope answer) ∧ after = server := by
  cases h with
  | refused refusal => exact .inr ⟨isFailure_envelope refusal, rfl⟩
  | queried result _ => exact .inl (isSuccess_envelope result)
  | recovered _ _ => exact .inl (isSuccess_envelope _)
  | proposed _ _ => exact .inl (isSuccess_envelope _)
  | submitted _ _ => exact .inl (isSuccess_envelope _)
  | accepted _ => exact .inl (isSuccess_envelope _)

theorem Handled.eq_of_query {server after : Server} {command : String} {params : Json}
    {answer : Answer} (h : Handled server command params answer after)
    (hcommand : command ∉ ["wallet_propose", "submit", "ledger_accept"]) : after = server := by
  cases h with
  | refused _ => rfl
  | queried _ _ => rfl
  | recovered hc _ => exact absurd (by simp [hc]) hcommand
  | proposed hc _ => exact absurd (by simp [hc]) hcommand
  | submitted hc _ => exact absurd (by simp [hc]) hcommand
  | accepted hc => exact absurd (by simp [hc]) hcommand

theorem engineResult_envelope (answer : Answer) (code : String) :
    (envelope answer).path? ["result", "engine_result"] = some (.string code) ↔
      ∃ result, answer = .ok result ∧ result.field? "engine_result" = some (.string code) := by
  cases answer with
  | error refusal => simp [envelope, Json.path?, Json.field?]
  | ok result => simp [envelope, Json.path?, Json.field?]

theorem Handled.of_failure {server after : Server} {params : Json} {answer : Answer} {code : String}
    (h : Handled server "submit" params answer after)
    (hcode : (envelope answer).path? ["result", "engine_result"] = some (.string code))
    (hfailed : code ≠ "tesSUCCESS") :
    ∃ sender, (params.field? "tx_json").bind (Json.stringField? "Account") = some sender ∧
      (¬['t', 'e', 'c'] <+: code.toList → after = server) ∧
      (['t', 'e', 'c'] <+: code.toList → after = { server with current := after.current } ∧
        Ledger.TakesNumber server.current after.current sender) := by
  obtain ⟨result, rfl, hresult⟩ := (engineResult_envelope answer code).1 hcode
  cases h with
  | queried _ hcommand => exact absurd (by simp) hcommand
  | recovered hcommand _ => exact absurd hcommand (by decide)
  | proposed hcommand _ => exact absurd hcommand (by decide)
  | accepted hcommand => exact absurd hcommand (by decide)
  | @submitted tx _ htx =>
    obtain ⟨_, json, -, -, hjson, hdecoded⟩ := of_signedTransaction htx
    obtain rfl : (server.current.apply tx).1.code = code := by
      simpa [submitResult, Json.field?] using hresult
    have hfailed : (server.current.apply tx).1 ≠ .success := fun he => hfailed (by rw [he]; rfl)
    obtain ⟨hkept, htaken⟩ := Ledger.apply_of_not_success hfailed
    refine ⟨tx.account, ?_, fun hcode => ?_, fun hcode => ⟨rfl, htaken hcode⟩⟩
    · rw [hjson]
      exact (Transaction.fields_of_ofJson hdecoded).1
    · rw [hkept hcode]

/-- Every request to an open server gets an envelope, of a result or of a refusal. A refusal and a
query leave the server as it was, and so does a transaction that fails, but for the number of its
sender, which grows by one exactly if the code of the failure is a `tec` one. A closed server stays as
it is and answers nothing. -/
theorem requests_are_atomic (keys : KeySource) (calls : List Call) (command : String)
    (params : Json) :
    let server := (start keys).after calls
    (server.closed = false → ∃ reply after, server.request command params = (.ok reply, after) ∧
      (IsSuccess reply ∨ IsFailure reply ∧ after = server) ∧
      (command ∉ ["wallet_propose", "submit", "ledger_accept"] → after = server) ∧
      ∀ code, command = "submit" →
        reply.path? ["result", "engine_result"] = some (.string code) → code ≠ "tesSUCCESS" →
          ∃ sender, (params.field? "tx_json").bind (Json.stringField? "Account") = some sender ∧
            (¬['t', 'e', 'c'] <+: code.toList → after = server) ∧
            (['t', 'e', 'c'] <+: code.toList → after = { server with current := after.current } ∧
              Ledger.TakesNumber server.current after.current sender)) ∧
    (server.closed = true → server.request command params = (.error .closed, server)) ∧
    ∀ later, (server.close.after later).request command params = (.error .closed, server.close) := by
  intro server
  refine ⟨fun hopen => ?_, fun hclosed => request_of_closed hclosed command params, fun later => ?_⟩
  · obtain ⟨answer, after, hh, he⟩ := request_handled hopen command params
    refine ⟨_, after, he, hh.envelope_cases, hh.eq_of_query, ?_⟩
    rintro code rfl hcode hfailed
    exact hh.of_failure hcode hfailed
  · have hclosed : server.close.closed = true := rfl
    rw [after_closed later hclosed, request_of_closed hclosed]

/-- The root account pays dollars to an account that nobody has heard of. -/
def unknownPayeeParams : Json :=
  .object [("secret", .string genesisPassphrase),
    ("tx_json", (Transaction.payment genesisAddress "rNobody" (.issued 5 "USD" "rNobody")
      false).toJson)]

theorem unknown_payee_takes_number :
    let server := (start (.seeded 0)).after []
    ∃ reply after, server.request "submit" unknownPayeeParams = (.ok reply, after) ∧
      reply.path? ["result", "engine_result"] = some (.string "tecPATH_DRY") ∧
      after = { server with current := after.current } ∧
      after.current.account? genesisAddress = some ⟨genesisDrops, .none, 2⟩ ∧
      after.current.account? "rNobody" = none ∧ after.current.lines = .empty := by
  intro server
  obtain ⟨reply, after, he, -, -, hsubmit⟩ :=
    (requests_are_atomic (.seeded 0) [] "submit" unknownPayeeParams).1 rfl
  have hrequested : ((server.request "submit" unknownPayeeParams).1.toOption.bind
      (·.path? ["result", "engine_result"])).bind Json.string? = some "tecPATH_DRY" := by
    decide +kernel
  rw [he] at hrequested
  have hcode : reply.path? ["result", "engine_result"] = some (.string "tecPATH_DRY") := by
    obtain ⟨json, hjson, htext⟩ := Option.bind_eq_some_iff.1 hrequested
    cases json with
    | string text =>
      cases htext
      exact hjson
    | null | bool | number | array | object => cases htext
  obtain ⟨sender, hsender, -, htaken⟩ := hsubmit "tecPATH_DRY" rfl hcode (by decide)
  obtain rfl : genesisAddress = sender := Option.some.inj hsender
  obtain ⟨hafter, ⟨old, hold, hnew⟩, hothers, hlines⟩ := htaken (by decide)
  have hgenesis : server.current.account? genesisAddress = some ⟨genesisDrops, .none, 1⟩ :=
    Register.get?_insert_self _ _ _
  cases hold.symm.trans hgenesis
  have hnobody : "rNobody" ≠ genesisAddress := by decide
  exact ⟨reply, after, he, hcode, hafter, hnew, (hothers _ hnobody).trans (by decide +kernel),
    hlines⟩

end Server
end LedgerBench

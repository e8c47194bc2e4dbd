import LedgerBench.Proofs.Ledger.Codec
import LedgerBench.Proofs.Server.Handled
import Mathlib.Data.List.Induction

/-! The history of a server tells which accounts there are and how far their sequence numbers have
come. It is read off the requests and the replies alone, whatever the server keeps. -/

namespace LedgerBench

/-- The account that a payment of drops goes to. -/
def Transaction.payee? : Transaction → Option String
  | .payment _ destination (.native _) _ => some destination
  | _ => none

namespace Ledger

def sequence? (ledger : Ledger) (address : String) : Option UInt32 :=
  (ledger.account? address).map Account.sequence

theorem sequence?_update {ledger : Ledger} {account : String} {change : Account → Account}
    (h : ∀ root, (change root).sequence = root.sequence) (address : String) :
    ({ ledger with accounts := ledger.accounts.update account change } : Ledger).sequence? address =
      ledger.sequence? address := by
  by_cases ha : address = account
  · subst ha
    simp only [sequence?, account?, Register.get?_update_self, Option.map_map, Function.comp_def, h]
  · simp only [sequence?, account?, Register.get?_update_of_ne _ _ ha]

theorem sequence?_debit {ledger : Ledger} {source : String} {payer : Account}
    (h : ledger.account? source = some payer) (drops : UInt64) (address : String) :
    ((debit ledger.accounts source payer drops).get? address).map Account.sequence =
      ledger.sequence? address := by
  by_cases ha : address = source
  · subst ha
    simp only [debit, Register.get?_insert_self, sequence?, h, Option.map_some]
  · simp only [debit, Register.get?_insert_of_ne _ _ ha, sequence?, account?]

/-- An effect keeps all sequence numbers, and a payee that is new starts with the first one. -/
theorem Effect.sequence?_eq {ledger after : Ledger} {tx : Transaction} (h : Effect ledger tx after)
    (address : String) :
    after.sequence? address =
      (ledger.sequence? address).or (if tx.payee? = some address then some 1 else none) := by
  have hkept (hnone : tx.payee? = none) : ledger.sequence? address =
      (ledger.sequence? address).or (if tx.payee? = some address then some 1 else none) := by
    rw [hnone, if_neg nofun, Option.or_none]
  cases h with
  | settings _ =>
    refine Eq.trans (sequence?_update ?_ address) (hkept rfl)
    exact fun _ => rfl
  | adjusted _ _ => exact hkept rfl
  | opened _ _ => exact hkept rfl
  | moved _ => exact hkept rfl
  | @paid source destination drops _ payer _ hpayer _ =>
    have hdebit := sequence?_debit hpayer drops address
    by_cases ha : address = destination
    · subst ha
      simp only [sequence?, account?, credit, Register.get?_insert_self, Option.map_some, payee,
        Transaction.payee?, if_true] at hdebit ⊢
      rw [← hdebit]
      cases (debit ledger.accounts source payer drops).get? address <;> rfl
    · have hne : ¬some destination = some address := fun he => ha (Option.some.inj he).symm
      rw [Transaction.payee?, if_neg hne, Option.or_none, ← hdebit]
      simp only [sequence?, account?, credit, Register.get?_insert_of_ne _ _ ha]

theorem sequence?_bumpSequence (ledger : Ledger) (account address : String) :
    (ledger.bumpSequence account).sequence? address =
      (ledger.sequence? address).map (· + if account = address then 1 else 0) := by
  by_cases ha : account = address
  · subst ha
    simp only [sequence?, bumpSequence, account?, Register.get?_update_self, Option.map_map,
      Function.comp_def, if_true]
  · have hne : address ≠ account := Ne.symm ha
    simp [sequence?, bumpSequence, account?, Register.get?_update_of_ne _ _ hne, ha,
      Function.comp_def]

theorem apply_of_unknown {ledger : Ledger} {tx : Transaction}
    (h : ledger.account? tx.account = none) :
    ledger.apply tx = (.other "terNO_ACCOUNT", ledger) := by
  have hc : ledger.accounts.contains tx.account = false := by
    simpa [Register.contains, account?] using h
  simp only [apply, hc, Bool.false_eq_true, if_false]

/-- The results that use up a sequence number. -/
def takesSequence (code : String) : Bool :=
  code == "tesSUCCESS" || ['t', 'e', 'c'].isPrefixOf code.toList

theorem code_ne_success {r : EngineResult} (h : r ∈ refusals) : r.code ≠ "tesSUCCESS" := by
  simp only [refusals, List.mem_cons, List.not_mem_nil, or_false] at h
  rcases h with rfl | rfl | rfl | rfl | rfl | rfl | rfl <;> decide

theorem takesSequence_of_refusal {r : EngineResult} (h : r ∈ refusals) :
    takesSequence r.code = r.isClaimed := by
  simp only [takesSequence, beq_false_of_ne (code_ne_success h), Bool.false_or,
    EngineResult.isClaimed]

theorem known_of_takesSequence {ledger : Ledger} {tx : Transaction}
    (h : takesSequence (ledger.apply tx).1.code = true) :
    (ledger.sequence? tx.account).isSome := by
  cases hroot : ledger.account? tx.account with
  | some root => simp [sequence?, hroot]
  | none =>
    rw [apply_of_unknown hroot] at h
    exact absurd h (show ¬takesSequence "terNO_ACCOUNT" = true by decide)

/-- What a transaction does to the sequence numbers, by the code of its result. -/
theorem sequence?_apply (ledger : Ledger) (tx : Transaction) (address : String) :
    (ledger.apply tx).2.sequence? address =
      ((ledger.sequence? address).or
        (if tx.payee? = some address ∧ (ledger.apply tx).1.code = "tesSUCCESS"
          then some 1 else none)).map
        (· + if tx.account = address ∧ takesSequence (ledger.apply tx).1.code = true
          then 1 else 0) := by
  rcases ledger.apply_cases tx with ⟨after, he, _, ha⟩ | ⟨r, hr, ha⟩
  · have hcode : EngineResult.success.code = "tesSUCCESS" := rfl
    have htakes : takesSequence "tesSUCCESS" = true := by decide
    simp only [ha, hcode, htakes, and_true, sequence?_bumpSequence, he.sequence?_eq]
  · simp only [ha, code_ne_success hr, takesSequence_of_refusal hr, and_false, if_false,
      Option.or_none]
    cases r.isClaimed with
    | true => simp only [if_true, and_true, sequence?_bumpSequence]
    | false => simp

end Ledger

namespace Transaction

/-- The sender and the payee of a transaction, as they stand in its JSON. -/
theorem fields_of_ofJson {json : Json} {buildPath : Bool} {tx : Transaction}
    (h : ofJson json buildPath = .ok tx) :
    json.stringField? "Account" = some tx.account ∧
      ∀ address, tx.payee? = some address ↔ json.stringField? "TransactionType" = some "Payment" ∧
        (json.stringField? "Amount").isSome ∧ json.stringField? "Destination" = some address := by
  obtain ⟨kind, hkind, h⟩ := of_bind_ok h
  rw [stringField?_of_textField hkind]
  split at h
  · obtain ⟨account, haccount, h⟩ := of_bind_ok h
    obtain ⟨set, -, h⟩ := of_bind_ok h
    obtain ⟨clear, -, h⟩ := of_bind_ok h
    cases h
    exact ⟨stringField?_of_textField haccount, fun address => by simp [payee?]⟩
  · obtain ⟨account, haccount, h⟩ := of_bind_ok h
    obtain ⟨limit, -, h⟩ := of_bind_ok h
    cases h
    exact ⟨stringField?_of_textField haccount, fun address => by simp [payee?]⟩
  · obtain ⟨account, haccount, h⟩ := of_bind_ok h
    obtain ⟨destination, hdestination, h⟩ := of_bind_ok h
    obtain ⟨amount, hamount, h⟩ := of_bind_ok h
    cases h
    refine ⟨stringField?_of_textField haccount, fun address => ?_⟩
    rw [isSome_of_amountField hamount, stringField?_of_textField hdestination]
    cases amount <;> simp [payee?, Amount.isNative]
  · cases h

end Transaction

namespace Server

/-- A request together with the reply that it got. -/
structure Exchange where
  command : String
  params : Json
  reply : Except RemoteError Json

namespace Exchange

def txText? (exchange : Exchange) (name : String) : Option String :=
  if exchange.command = "submit" then
    (exchange.params.field? "tx_json").bind (Json.stringField? name)
  else none

def code? (exchange : Exchange) : Option String :=
  match exchange.reply with
  | .ok envelope => (envelope.path? ["result", "engine_result"]).bind Json.string?
  | .error _ => none

/-- Whether a payment of drops to the account succeeded. -/
def pays (exchange : Exchange) (address : String) : Bool :=
  exchange.txText? "TransactionType" == some "Payment" && (exchange.txText? "Amount").isSome &&
    exchange.txText? "Destination" == some address && exchange.code? == some "tesSUCCESS"

/-- Whether a transaction of the account succeeded or failed with a claimed result. -/
def takes (exchange : Exchange) (address : String) : Bool :=
  exchange.txText? "Account" == some address && exchange.code?.any Ledger.takesSequence

theorem pays_of_code {exchange : Exchange} (h : exchange.code? = none) (address : String) :
    exchange.pays address = false := by
  simp [pays, h]

theorem takes_of_code {exchange : Exchange} (h : exchange.code? = none) (address : String) :
    exchange.takes address = false := by
  simp [takes, h]

theorem pays_of_command {exchange : Exchange} (h : exchange.command ≠ "submit")
    (address : String) : exchange.pays address = false := by
  simp [pays, txText?, h]

theorem takes_of_command {exchange : Exchange} (h : exchange.command ≠ "submit")
    (address : String) : exchange.takes address = false := by
  simp [takes, txText?, h]

end Exchange

def exchange? (server : Server) : Call → Option Exchange
  | .request command params => some ⟨command, params, (server.request command params).1⟩
  | .close => none

def history (server : Server) : List Call → List Exchange
  | [] => []
  | call :: rest => (server.exchange? call).toList ++ (server.step call).history rest

theorem history_append_singleton (server : Server) (calls : List Call) (call : Call) :
    server.history (calls ++ [call]) =
      server.history calls ++ ((server.after calls).exchange? call).toList := by
  induction calls generalizing server with
  | nil => exact List.append_nil _
  | cons first rest ih =>
    simp only [List.cons_append, history, ih, List.append_assoc]
    rfl

/-- One exchange takes a ledger to another: the payee of a successful payment is in it, and the
sender of a transaction that took a sequence number was in it before and has the next one. -/
structure Shows (exchange : Exchange) (before after : Ledger) : Prop where
  sequence : ∀ address, after.sequence? address =
    ((before.sequence? address).or (if exchange.pays address then some 1 else none)).map
      (· + if exchange.takes address then 1 else 0)
  sender : ∀ address, exchange.takes address → (before.sequence? address).isSome

theorem Shows.of_unchanged {exchange : Exchange} {ledger : Ledger}
    (hpays : ∀ address, exchange.pays address = false)
    (htakes : ∀ address, exchange.takes address = false) : Shows exchange ledger ledger where
  sequence address := by simp [hpays, htakes]
  sender address h := by simp [htakes] at h

section Submitted

variable {params json : Json} {tx : Transaction} {result : EngineResult}

/-- The exchange in which a transaction was taken up and had a result. -/
def submission (params : Json) (tx : Transaction) (result : EngineResult) : Exchange :=
  ⟨"submit", params, .ok (envelope (.ok (submitResult tx result)))⟩

theorem txText?_submission (hjson : params.field? "tx_json" = some json) (name : String) :
    (submission params tx result).txText? name = json.stringField? name := by
  simp only [submission, Exchange.txText?, if_true, hjson, Option.bind_some]

theorem code?_submission : (submission params tx result).code? = some result.code := rfl

theorem pays_submission (hjson : params.field? "tx_json" = some json) {buildPath : Bool}
    (htx : Transaction.ofJson json buildPath = .ok tx) (address : String) :
    (submission params tx result).pays address = true ↔
      tx.payee? = some address ∧ result.code = "tesSUCCESS" := by
  rw [(Transaction.fields_of_ofJson htx).2]
  simp only [Exchange.pays, txText?_submission hjson, code?_submission, Bool.and_eq_true,
    beq_iff_eq, Option.some.injEq, and_assoc]

theorem takes_submission (hjson : params.field? "tx_json" = some json) {buildPath : Bool}
    (htx : Transaction.ofJson json buildPath = .ok tx) (address : String) :
    (submission params tx result).takes address = true ↔
      tx.account = address ∧ Ledger.takesSequence result.code = true := by
  simp only [Exchange.takes, txText?_submission hjson, code?_submission, Bool.and_eq_true,
    beq_iff_eq, (Transaction.fields_of_ofJson htx).1, Option.some.injEq, Option.any_some]

end Submitted

theorem shows_submission {server : Server} {params : Json} {tx : Transaction}
    (htx : server.signedTransaction params = .ok tx) :
    Shows (submission params tx (server.current.apply tx).1) server.current
      (server.current.apply tx).2 := by
  obtain ⟨secret, json, -, -, hjson, hdecoded⟩ := of_signedTransaction htx
  refine ⟨fun address => ?_, fun address htakes => ?_⟩
  · simp only [server.current.sequence?_apply, pays_submission hjson hdecoded,
      takes_submission hjson hdecoded]
  · obtain ⟨rfl, hcode⟩ := (takes_submission hjson hdecoded address).1 htakes
    exact Ledger.known_of_takesSequence hcode

theorem Handled.shows {server after : Server} {command : String} {params : Json} {answer : Answer}
    (h : Handled server command params answer after) :
    Shows ⟨command, params, .ok (envelope answer)⟩ server.current after.current := by
  -- only a submit request has a transaction, and only a result has an engine result
  have hother (hcommand : command ≠ "submit") :
      Shows ⟨command, params, .ok (envelope answer)⟩ server.current server.current :=
    .of_unchanged (Exchange.pays_of_command hcommand) (Exchange.takes_of_command hcommand)
  cases h with
  | refused refusal => exact .of_unchanged (Exchange.pays_of_code rfl) (Exchange.takes_of_code rfl)
  | queried _ hcommand => exact hother fun he => hcommand (by simp [he])
  | recovered hcommand _ => exact hother (by rw [hcommand]; decide)
  | proposed hcommand _ => exact hother (by rw [hcommand]; decide)
  | submitted hcommand htx =>
    subst hcommand
    exact shows_submission htx
  | accepted hcommand => exact hother (by rw [hcommand]; decide)

/-- Whether there is an account after a history: the first one is, and those that drops were paid
to. -/
def Known (history : List Exchange) (address : String) : Prop :=
  address = genesisAddress ∨ ∃ exchange ∈ history, exchange.pays address = true

/-- How many sequence numbers of an account a history has taken. -/
def taken (history : List Exchange) (address : String) : Nat :=
  history.countP fun exchange => exchange.takes address

theorem known_append_singleton {history : List Exchange} {exchange : Exchange} {address : String} :
    Known (history ++ [exchange]) address ↔
      Known history address ∨ exchange.pays address = true := by
  simp [Known, or_and_right, exists_or, or_assoc]

theorem taken_append_singleton (history : List Exchange) (exchange : Exchange) (address : String) :
    taken (history ++ [exchange]) address =
      taken history address + if exchange.takes address then 1 else 0 := by
  simp [taken, List.countP_append, List.countP_singleton]

/-- What a history tells of a ledger. An account starts with one and has taken no number before. -/
structure Tells (history : List Exchange) (ledger : Ledger) : Prop where
  known : ∀ address, Known history address →
    ledger.sequence? address = some (UInt32.ofNat (1 + taken history address))
  unknown : ∀ address, ¬Known history address →
    ledger.sequence? address = none ∧ taken history address = 0

theorem Tells.append {history : List Exchange} {exchange : Exchange} {before after : Ledger}
    (h : Tells history before) (hshows : Shows exchange before after) :
    Tells (history ++ [exchange]) after := by
  have hnew (address : String) (hnot : ¬Known history address) :
      exchange.takes address = false ∧ taken (history ++ [exchange]) address = 0 ∧
        after.sequence? address = if exchange.pays address then some 1 else none := by
    obtain ⟨hnone, hzero⟩ := h.unknown address hnot
    have htakes : exchange.takes address = false := by
      by_contra hc
      have hsender := hshows.sender address (by simpa using hc)
      rw [hnone] at hsender
      cases hsender
    refine ⟨htakes, by simp [taken_append_singleton, htakes, hzero], ?_⟩
    rw [hshows.sequence, hnone, htakes]
    cases exchange.pays address <;> rfl
  refine ⟨fun address hknown => ?_, fun address hnot => ?_⟩
  · by_cases hold : Known history address
    · rw [hshows.sequence, h.known address hold, taken_append_singleton, ← Nat.add_assoc,
        Option.some_or, Option.map_some]
      cases exchange.takes address with
      | true => rw [if_pos rfl, if_pos rfl, UInt32.ofNat_add _ 1]; rfl
      | false => rw [if_neg nofun, if_neg nofun, UInt32.add_zero, Nat.add_zero]
    · obtain ⟨-, hzero, hsequence⟩ := hnew address hold
      have hpays : exchange.pays address = true :=
        (known_append_singleton.1 hknown).resolve_left hold
      rw [hsequence, hzero, if_pos hpays]
      rfl
  · rw [known_append_singleton, not_or] at hnot
    obtain ⟨-, hzero, hsequence⟩ := hnew address hnot.1
    exact ⟨by rw [hsequence, if_neg hnot.2], hzero⟩

theorem tells_history (keys : KeySource) (calls : List Call) :
    Tells ((start keys).history calls) ((start keys).after calls).current := by
  induction calls using List.reverseRecOn with
  | nil =>
    refine ⟨fun address hknown => ?_, fun address hnot => ⟨?_, rfl⟩⟩
    · obtain rfl : address = genesisAddress := by simpa [Known, history] using hknown
      exact congrArg (Option.map Account.sequence) (Register.get?_insert_self _ _ _)
    · have hne : address ≠ genesisAddress := fun he => hnot (.inl he)
      exact congrArg (Option.map Account.sequence) (Register.get?_insert_of_ne _ _ hne)
  | append_singleton calls call ih =>
    rw [history_append_singleton, after_append_singleton]
    cases call with
    | close => simpa [exchange?, step, close] using ih
    | request command params =>
      refine ih.append ?_
      cases hclosed : ((start keys).after calls).closed with
      | true =>
        simp only [step, request_of_closed hclosed]
        exact .of_unchanged (Exchange.pays_of_code rfl) (Exchange.takes_of_code rfl)
      | false =>
        obtain ⟨answer, after, hhandled, he⟩ := request_handled hclosed command params
        simp only [step, he]
        exact hhandled.shows

namespace Call

def isSubmit : Call → Bool
  | .request command _ => command == "submit"
  | .close => false

end Call

theorem taken_append (xs ys : List Exchange) (address : String) :
    taken (xs ++ ys) address = taken xs address + taken ys address :=
  List.countP_append

theorem taken_exchange?_le (server : Server) (call : Call) (address : String) :
    taken (server.exchange? call).toList address ≤ if call.isSubmit then 1 else 0 := by
  cases call with
  | close => exact Nat.zero_le _
  | request command params =>
    by_cases hcommand : command = "submit"
    · have hsubmit : Call.isSubmit (.request command params) = true := by
        simp [Call.isSubmit, hcommand]
      rw [hsubmit, if_pos rfl]
      exact List.countP_le_length
    · have htakes : Exchange.takes ⟨command, params, (server.request command params).1⟩ address =
          false := Exchange.takes_of_command hcommand address
      simp [taken, exchange?, htakes]

theorem taken_le_submits (server : Server) (calls : List Call) (address : String) :
    taken (server.history calls) address ≤ calls.countP Call.isSubmit := by
  induction calls generalizing server with
  | nil => exact Nat.le_refl _
  | cons call rest ih =>
    rw [history, taken_append, List.countP_cons, Nat.add_comm]
    exact Nat.add_le_add (ih _) (server.taken_exchange?_le call address)

/-- After fewer submits than would exhaust the 32-bit numbers, the accounts of the open ledger are
the first one and those that a payment of drops has reached, and the sequence number of each is one
more than the number of its transactions that succeeded or failed with a claimed result. -/
theorem accounts_told_by_history (keys : KeySource) (calls : List Call)
    (hfew : calls.countP Call.isSubmit < 2 ^ 32 - 1) :
    let history := (start keys).history calls
    let ledger := ((start keys).after calls).current
    ∀ address,
      ((ledger.account? address).isSome ↔ address = genesisAddress ∨
        ∃ exchange ∈ history, exchange.pays address = true) ∧
      ∀ account, ledger.account? address = some account →
        account.sequence.toNat = 1 + history.countP fun exchange => exchange.takes address := by
  intro history ledger address
  have htells : Tells history ledger := tells_history keys calls
  have hknown : (ledger.account? address).isSome ↔ Known history address := by
    by_cases hold : Known history address
    · obtain ⟨account, haccount, -⟩ := Option.map_eq_some_iff.1 (htells.known address hold)
      simp [hold, haccount]
    · simp [hold, Option.map_eq_none_iff.1 (htells.unknown address hold).1]
  refine ⟨hknown, fun account haccount => ?_⟩
  have hsequence := htells.known address (hknown.1 (by simp [haccount]))
  simp only [Ledger.sequence?, haccount, Option.map_some, Option.some.injEq] at hsequence
  have hfits : 1 + taken history address < UInt32.size := by
    have hle := (start keys).taken_le_submits calls address
    change 1 + taken ((start keys).history calls) address < 2 ^ 32
    omega
  rw [hsequence, UInt32.toNat_ofNat_of_lt' hfits]
  rfl

/-- The first account pays itself and another one, trusts an account that is not there, which is a
claimed failure, and pays nothing, which is not. -/
def spentCalls : List Call :=
  [Transaction.payment genesisAddress genesisAddress (.native 1000) false,
    .payment genesisAddress "rAlice" (.native 1000) false,
    .trustSet genesisAddress (.issued 100 "USD" "rNobody") 0,
    .payment genesisAddress "rAlice" (.native 0) false].map fun tx =>
    .request "submit" (.object [("secret", .string genesisPassphrase), ("tx_json", tx.toJson)])

theorem spent_accounts_told :
    let ledger := ((start (.seeded 0)).after spentCalls).current
    spentCalls.countP Call.isSubmit < 2 ^ 32 - 1 ∧ (ledger.account? "rAlice").isSome ∧
      ∀ account, ledger.account? genesisAddress = some account → account.sequence.toNat = 4 := by
  intro ledger
  have hfew : spentCalls.countP Call.isSubmit < 2 ^ 32 - 1 := by decide
  have hpaid : ∃ exchange ∈ (start (.seeded 0)).history spentCalls,
      exchange.pays "rAlice" = true := by
    decide +kernel
  have htaken : ((start (.seeded 0)).history spentCalls).countP
      (fun exchange => exchange.takes genesisAddress) = 3 := by
    decide +kernel
  have htold := accounts_told_by_history (.seeded 0) spentCalls hfew
  refine ⟨hfew, (htold "rAlice").1.2 (.inr hpaid), fun account haccount => ?_⟩
  rw [(htold genesisAddress).2 account haccount, htaken]

end Server
end LedgerBench

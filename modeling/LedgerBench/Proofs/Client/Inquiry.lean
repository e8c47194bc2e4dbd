import LedgerBench.Client.Basic
import Mathlib.Tactic.Common

/-! Operations of the client as inquiries. An inquiry is one request, whose result is taken out of
the envelope and read; how it ends depends on the reply alone, whatever the connection is. -/

namespace LedgerBench.Client

inductive Misreading where
  | decode (text : String)
  | broken

def Misreading.toFault : Misreading → Fault
  | .decode text => .remote (.decode text)
  | .broken => .broken

/-- A request, how its result is read, and the name under which all of it is recorded. -/
structure Inquiry (α : Type) where
  name : String
  command : String
  params : Json
  read : Json → Except Misreading α

def recordOf {α : Type} (name : String) : Except Fault α → Reporter → Reporter
  | .ok _, reporter => reporter.add ⟨name, some 0, false⟩
  | .error (.remote _), reporter => reporter.add ⟨name, some 0, true⟩
  | .error .broken, reporter => reporter

variable {σ α : Type}

namespace Inquiry

def outcome (inquiry : Inquiry α) : Except RemoteError Json → Except Fault α
  | .error e => .error (.remote e)
  | .ok envelope =>
    match resultOf inquiry.command envelope with
    | .error e => .error (.remote e)
    | .ok result => (inquiry.read result).mapError Misreading.toFault

def run [Transport σ] (inquiry : Inquiry α) : ClientM σ α := fun session =>
  let (reply, link) := Transport.request inquiry.command inquiry.params session.link
  let outcome := inquiry.outcome reply
  (outcome, ⟨link, recordOf inquiry.name outcome session.reporter⟩)

theorem recorded_call [Transport σ] (inquiry : Inquiry α) {next : Json → ClientM σ α}
    (hnext : ∀ result session,
      next result session = ((inquiry.read result).mapError Misreading.toFault, session)) :
    recorded inquiry.name (call inquiry.command inquiry.params >>= next) = inquiry.run := by
  funext session
  rcases hreply : Transport.request inquiry.command inquiry.params session.link with ⟨reply, link⟩
  have hcall : (call inquiry.command inquiry.params >>= next) session =
      (inquiry.outcome reply, { session with link }) := by
    simp only [bind, ExceptT.bind, ExceptT.mk, StateT.bind, call, hreply]
    cases reply with
    | error e => rfl
    | ok envelope =>
      cases hresult : resultOf inquiry.command envelope with
      | error e =>
        simp only [outcome, hresult]
        rfl
      | ok result =>
        simp only [outcome, hresult]
        exact hnext result _
  simp only [recorded, hcall, run, hreply]
  rcases inquiry.outcome reply with (e | _) | a <;> rfl

/-! ### How a result is read -/

def reading (command : String) (read : Json → Except String α) (result : Json) :
    Except Misreading α :=
  (read result).mapError fun text => .decode (command ++ " response: " ++ text)

theorem decoded_eq (command : String) (read : Json → Except String α) (result : Json)
    (session : Session σ) :
    decoded command read result session =
      ((reading command read result).mapError Misreading.toFault, session) := by
  unfold decoded reading
  cases read result <;> rfl

def readFlags (info : Json) : Except Misreading RootFlags :=
  match (info.path? ["account_data", "Flags"]).bind Json.word? with
  | some bits => .ok ⟨bits.toUInt32⟩
  | none => .error (.decode "account_info has no Flags")

/-- The lines in a result, null when it has none; only of an object and of null can they be asked. -/
def linesIn : Json → Option Json
  | .object members => some (((Json.object members).field? "lines").getD .null)
  | .null => some .null
  | _ => none

theorem linesOf_eq (result : Json) :
    (linesOf result : ClientM σ Json) = match linesIn result with
      | some lines => pure lines
      | none => throw .broken := by
  cases result <;> rfl

def readLines (result : Json) : Except Misreading (List TrustLine) :=
  match linesIn result with
  | some lines => reading "account_lines" (Json.readList TrustLine.shape.read) lines
  | none => .error .broken

def readEntry (result : Json) : Except Misreading LineEntry :=
  let flags := ((result.path? ["node", "Flags"]).bind Json.word?).getD 0
  match result.path? ["node", "Balance"] with
  | none => .error (.decode "line state has no Balance")
  | some balance =>
    match Amount.ofJson balance with
    | .error e => .error (.decode e.message)
    | .ok (.native _) => .error (.decode "line state balance is not an issued amount")
    | .ok (.issued value _ _) => .ok ⟨⟨flags.toUInt32⟩, value⟩

/-! ### The operations -/

def walletPropose (passphrase : Option String) : Inquiry KeyPair where
  name := "wallet_propose"
  command := "wallet_propose"
  params := match passphrase with
    | some phrase => Json.object [("passphrase", .string phrase)]
    | none => .object []
  read := reading "wallet_propose" KeyPair.shape.read

def submit (tx : Transaction) (secret : String) : Inquiry Submitted where
  name := "submit"
  command := "submit"
  params := submitParams tx secret
  read := reading "submit" Submitted.shape.read

def ledgerAccept : Inquiry Unit where
  name := "ledger_accept"
  command := "ledger_accept"
  params := .object []
  read := fun _ => .ok ()

def accountFlags (account : String) (ledger : LedgerSelector) : Inquiry RootFlags where
  name := "account_flags"
  command := "account_info"
  params := .object [("account", .string account), ("ledger_index", .string ledger.name)]
  read := readFlags

def accountLines (account : String) (peer : Option String) (ledger : LedgerSelector) :
    Inquiry (List TrustLine) where
  name := "account_lines"
  command := "account_lines"
  params :=
    let query := [("account", Json.string account), ("ledger_index", .string ledger.name)]
    .object <| match peer with
      | some p => query ++ [("peer", .string p)]
      | none => query
  read := readLines

def lineEntry (account issuer currency : String) (ledger : LedgerSelector) :
    Inquiry LineEntry where
  name := "divvy_balance"
  command := "ledger_entry"
  params :=
    .object [("divvy_state", .object
        [("accounts", .array [.string account, .string issuer]), ("currency", .string currency)]),
      ("ledger_index", .string ledger.name)]
  read := readEntry

def findPaths (source destination : String) (amount : Amount) (currencies : List String) :
    Inquiry PathsFound where
  name := "path_find"
  command := "divvy_path_find"
  params :=
    .object [("destination_account", .string destination),
      ("destination_amount", amount.toJson), ("source_account", .string source),
      ("source_currencies", .array (currencies.map fun c => .object [("currency", .string c)]))]
  read := reading "divvy_path_find" PathsFound.shape.read

end Inquiry

section Operations

variable [Transport σ]

theorem walletPropose_eq (passphrase : Option String) :
    (walletPropose passphrase : ClientM σ KeyPair) = (Inquiry.walletPropose passphrase).run :=
  (Inquiry.walletPropose passphrase).recorded_call fun _ _ => Inquiry.decoded_eq ..

theorem submit_eq (tx : Transaction) (secret : String) :
    (submit tx secret : ClientM σ Submitted) = (Inquiry.submit tx secret).run :=
  (Inquiry.submit tx secret).recorded_call fun _ _ => Inquiry.decoded_eq ..

theorem ledgerAccept_eq : (ledgerAccept : ClientM σ Unit) = Inquiry.ledgerAccept.run :=
  Inquiry.ledgerAccept.recorded_call fun _ _ => rfl

theorem accountFlags_eq (account : String) (ledger : LedgerSelector) :
    (accountFlags account ledger : ClientM σ RootFlags) =
      (Inquiry.accountFlags account ledger).run := by
  refine (Inquiry.accountFlags account ledger).recorded_call fun info session => ?_
  simp only [Inquiry.accountFlags, Inquiry.readFlags]
  cases (info.path? ["account_data", "Flags"]).bind Json.word? <;> rfl

theorem accountLines_eq (account : String) (peer : Option String) (ledger : LedgerSelector) :
    (accountLines account peer ledger : ClientM σ (List TrustLine)) =
      (Inquiry.accountLines account peer ledger).run := by
  refine (Inquiry.accountLines account peer ledger).recorded_call fun result session => ?_
  simp only [Inquiry.accountLines, Inquiry.readLines, Inquiry.linesOf_eq]
  cases Inquiry.linesIn result with
  | some lines => exact Inquiry.decoded_eq ..
  | none => rfl

theorem lineEntry_eq (account issuer currency : String) (ledger : LedgerSelector) :
    (lineEntry account issuer currency ledger : ClientM σ LineEntry) =
      (Inquiry.lineEntry account issuer currency ledger).run := by
  refine (Inquiry.lineEntry account issuer currency ledger).recorded_call fun result session => ?_
  simp only [Inquiry.lineEntry, Inquiry.readEntry]
  cases result.path? ["node", "Balance"] with
  | none => rfl
  | some balance =>
    rcases hamount : Amount.ofJson balance with e | _ | _ <;> simp only [hamount] <;> rfl

theorem findPaths_eq (source destination : String) (amount : Amount) (currencies : List String) :
    (findPaths source destination amount currencies : ClientM σ PathsFound) =
      (Inquiry.findPaths source destination amount currencies).run :=
  (Inquiry.findPaths source destination amount currencies).recorded_call fun _ _ =>
    Inquiry.decoded_eq ..

end Operations

/-! ### How operations end -/

namespace Inquiry

theorem resultOf_ne_closed (command : String) (envelope : Json) :
    resultOf command envelope ≠ .error .closed := by
  intro h
  unfold resultOf at h
  split at h
  · split at h <;> cases h
  · simp only [RemoteError.ofEnvelope, reduceCtorEq, Except.error.injEq] at h
  · cases h

theorem outcome_closed_iff (inquiry : Inquiry α) (reply : Except RemoteError Json) :
    inquiry.outcome reply = .error (.remote .closed) ↔ reply = .error .closed := by
  cases reply with
  | error e => simp [outcome]
  | ok envelope =>
    simp only [outcome, reduceCtorEq, iff_false]
    split
    next e hresult =>
      rintro ⟨⟩
      exact resultOf_ne_closed _ _ hresult
    next result hresult =>
      rcases inquiry.read result with misreading | a
      · cases misreading <;> simp [Except.mapError, Misreading.toFault]
      · simp [Except.mapError]

theorem outcome_broken_iff (inquiry : Inquiry α) (reply : Except RemoteError Json) :
    inquiry.outcome reply = .error .broken ↔
      ∃ envelope result, reply = .ok envelope ∧ resultOf inquiry.command envelope = .ok result ∧
        inquiry.read result = .error .broken := by
  cases reply with
  | error e => simp [outcome]
  | ok envelope =>
    simp only [outcome]
    split
    next e hresult => simp [hresult]
    next result hresult =>
      rcases hread : inquiry.read result with misreading | a
      · cases misreading <;> simp [Except.mapError, Misreading.toFault, hresult, hread]
      · simp [Except.mapError, hresult, hread]

theorem reading_ne_broken (command : String) (read : Json → Except String α) (result : Json) :
    reading command read result ≠ .error .broken := by
  unfold reading
  cases read result <;> nofun

theorem readFlags_ne_broken (info : Json) : readFlags info ≠ .error .broken := by
  unfold readFlags
  split <;> nofun

theorem readEntry_ne_broken (result : Json) : readEntry result ≠ .error .broken := by
  unfold readEntry
  dsimp only
  repeat' split
  all_goals nofun

theorem readLines_broken_iff {result : Json} :
    readLines result = .error .broken ↔ result ≠ .null ∧ ∀ members, result ≠ .object members := by
  unfold readLines
  cases result with
  | null | object => simp [linesIn, reading_ne_broken]
  | bool | number | string | array => simp [linesIn]

theorem run_broken_iff [Transport σ] (inquiry : Inquiry α) (f : α → Answer) (session : Session σ) :
    ((do return f (← inquiry.run) : ClientM σ Answer) session).1 = .error .broken ↔
      ∃ envelope result,
        (Transport.request inquiry.command inquiry.params session.link).1 = .ok envelope ∧
          resultOf inquiry.command envelope = .ok result ∧ inquiry.read result = .error .broken := by
  rw [← outcome_broken_iff]
  simp only [bind, ExceptT.bind, ExceptT.mk, StateT.bind, run]
  rcases inquiry.outcome (Transport.request inquiry.command inquiry.params session.link).1 with
    (e | _) | a
  · exact ⟨nofun, nofun⟩
  · exact ⟨fun _ => rfl, fun _ => rfl⟩
  · exact ⟨nofun, nofun⟩

theorem run_ne_broken [Transport σ] (inquiry : Inquiry α)
    (h : ∀ result, inquiry.read result ≠ .error .broken) (f : α → Answer) (session : Session σ) :
    ((do return f (← inquiry.run) : ClientM σ Answer) session).1 ≠ .error .broken := by
  rw [Ne, run_broken_iff]
  rintro ⟨_, result, -, -, hread⟩
  exact h result hread

end Inquiry

theorem resultOf_ok_iff {command : String} {envelope result : Json} :
    resultOf command envelope = .ok result ↔
      envelope.stringField? "status" = some "success" ∧ envelope.field? "result" = some result := by
  unfold resultOf
  split
  next hstatus => cases envelope.field? "result" <;> simp [hstatus]
  next hstatus => simp [hstatus]
  next hstatus _ => exact ⟨nofun, fun h => (hstatus h.1).elim⟩

/-- The operation asks for lines, and what it gets for a result has no fields and is not null. -/
def FindsNoLines [Transport σ] (operation : Operation) (session : Session σ) : Prop :=
  ∃ account peer ledger envelope result, operation = .accountLines account peer ledger ∧
    (Transport.request "account_lines" (Inquiry.accountLines account peer ledger).params
      session.link).1 = .ok envelope ∧
    envelope.stringField? "status" = some "success" ∧ envelope.field? "result" = some result ∧
    result ≠ .null ∧ ∀ members, result ≠ .object members

theorem perform_broken_iff [Transport σ] (operation : Operation) (session : Session σ) :
    (perform operation session).1 = .error .broken ↔ FindsNoLines operation session := by
  -- all operations but one read every result to the end
  cases operation with
  | accountLines account peer ledger =>
    rw [perform, accountLines_eq, Inquiry.run_broken_iff]
    constructor
    · rintro ⟨envelope, result, hreply, hresult, hread⟩
      obtain ⟨hstatus, hfield⟩ := resultOf_ok_iff.mp hresult
      exact ⟨account, peer, ledger, envelope, result, rfl, hreply, hstatus, hfield,
        Inquiry.readLines_broken_iff.mp hread⟩
    · rintro ⟨_, _, _, envelope, result, ⟨⟩, hreply, hstatus, hfield, hshape⟩
      exact ⟨envelope, result, hreply, resultOf_ok_iff.mpr ⟨hstatus, hfield⟩,
        Inquiry.readLines_broken_iff.mpr hshape⟩
  | walletPropose passphrase =>
    refine iff_of_false ?_ nofun
    rw [perform, walletPropose_eq]
    exact Inquiry.run_ne_broken _ (Inquiry.reading_ne_broken _ _) _ session
  | submit tx secret =>
    refine iff_of_false ?_ nofun
    rw [perform, submit_eq]
    exact Inquiry.run_ne_broken _ (Inquiry.reading_ne_broken _ _) _ session
  | ledgerAccept =>
    refine iff_of_false ?_ nofun
    rw [perform, ledgerAccept_eq]
    exact Inquiry.run_ne_broken _ (fun _ h => by cases h) (fun _ => .done) session
  | disconnect =>
    refine iff_of_false ?_ nofun
    simp only [perform, Client.disconnect, bind, ExceptT.bind, ExceptT.mk, StateT.bind]
    rcases (Transport.close session.link).1 with e | ⟨⟩ <;> nofun
  | accountFlags account ledger =>
    refine iff_of_false ?_ nofun
    rw [perform, accountFlags_eq]
    exact Inquiry.run_ne_broken _ Inquiry.readFlags_ne_broken _ session
  | lineEntry account issuer currency ledger =>
    refine iff_of_false ?_ nofun
    rw [perform, lineEntry_eq]
    exact Inquiry.run_ne_broken _ Inquiry.readEntry_ne_broken _ session
  | findPaths source destination amount currencies =>
    refine iff_of_false ?_ nofun
    rw [perform, findPaths_eq]
    exact Inquiry.run_ne_broken _ (Inquiry.reading_ne_broken _ _) _ session

/-- Whatever a connection brings, an operation ends with an answer or with an error of the client.
The one exception is asking for the lines of a result that can hold none. -/
theorem operations_end [Transport σ] (operation : Operation) (session : Session σ) :
    ((∃ answer, (perform operation session).1 = .ok answer) ∨
        ∃ e, (perform operation session).1 = .error (.remote e)) ↔
      ¬FindsNoLines operation session := by
  rw [← perform_broken_iff]
  rcases (perform operation session).1 with (e | _) | answer <;> simp

/-- A list where the lines are expected within an object. -/
def listForLines : Session ScriptedTransport :=
  ⟨⟨[.ok (.object [("result", .array []), ("status", .string "success")])], []⟩, .start true⟩

theorem listForLines_breaks_off :
    ¬∀ operation : Operation,
      (∃ answer, (perform operation listForLines).1 = .ok answer) ∨
        ∃ e, (perform operation listForLines).1 = .error (.remote e) := by
  intro h
  have hbroken :
      (perform (.accountLines "rAlice" none .current) listForLines).1 = .error .broken := rfl
  rcases h (.accountLines "rAlice" none .current) with ⟨answer, hends⟩ | ⟨e, hends⟩ <;>
    cases hbroken.symm.trans hends

end LedgerBench.Client

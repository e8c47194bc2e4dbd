import LedgerBench.Net.Connect
import LedgerBench.Proofs.Client.Inquiry
import LedgerBench.Proofs.Client.Refinement

/-! A client over a connection in memory. It does what a client of the server behind the connection
does, so the answers of the server itself are its answers too. -/

namespace LedgerBench.Client

/-- The session over a connection in memory. -/
def throughMemory (session : Session Server) : Session Link :=
  ⟨.memory session.link, session.reporter⟩

/-- The same work over a connection in memory and on the server behind it. -/
def Carried {α : Type} (work : ClientM Link α) (work' : ClientM Server α) : Prop :=
  ∀ session, work (throughMemory session) = ((work' session).1, throughMemory (work' session).2)

theorem carried_run {α : Type} (inquiry : Inquiry α) : Carried inquiry.run inquiry.run :=
  fun _ => rfl

theorem carried_walletPropose (passphrase : Option String) :
    Carried (walletPropose passphrase) (walletPropose passphrase) := by
  simp only [walletPropose_eq, carried_run]

theorem carried_submit (tx : Transaction) (secret : String) :
    Carried (submit tx secret) (submit tx secret) := by
  simp only [submit_eq, carried_run]

theorem carried_ledgerAccept : Carried ledgerAccept ledgerAccept := by
  simp only [ledgerAccept_eq, carried_run]

theorem carried_accountFlags (account : String) (ledger : LedgerSelector) :
    Carried (accountFlags account ledger) (accountFlags account ledger) := by
  simp only [accountFlags_eq, carried_run]

theorem carried_accountLines (account : String) (peer : Option String) (ledger : LedgerSelector) :
    Carried (accountLines account peer ledger) (accountLines account peer ledger) := by
  simp only [accountLines_eq, carried_run]

theorem carried_lineEntry (account issuer currency : String) (ledger : LedgerSelector) :
    Carried (lineEntry account issuer currency ledger)
      (lineEntry account issuer currency ledger) := by
  simp only [lineEntry_eq, carried_run]

theorem carried_findPaths (source destination : String) (amount : Amount)
    (currencies : List String) :
    Carried (findPaths source destination amount currencies)
      (findPaths source destination amount currencies) := by
  simp only [findPaths_eq, carried_run]

/-! ### Answers -/

/-- What is made of an answer can be taken back. -/
theorem run_of_map {σ α : Type} {work : ClientM σ α} {f : α → Answer} (hf : f.Injective)
    {session last : Session σ} {result : Except Fault α}
    (h : (do return f (← work) : ClientM σ Answer) session = (result.map f, last)) :
    work session = (result, last) := by
  simp only [Bind.bind, ExceptT.bind, ExceptT.mk, StateT.bind] at h
  rcases hwork : work session with ⟨fault | a, later⟩
  · rw [hwork] at h
    cases result with
    | error fault' =>
      cases h
      rfl
    | ok b => cases h
  · rw [hwork] at h
    cases result with
    | error fault' => cases h
    | ok b =>
      have hsame : (Except.ok (ε := Fault) (f a), later) = (Except.ok (f b), last) := h
      simp only [Prod.mk.injEq, Except.ok.injEq] at hsame
      rw [hf hsame.1, hsame.2]

section Answers

variable {server : Server} (hopen : server.closed = false) (reporter : Reporter)

/-- The answer of a server in memory, by what it answers on its own. -/
theorem memory_answers {α : Type} {work : ClientM Link α} {work' : ClientM Server α}
    (hcarried : Carried work work') {f : α → Answer} (hf : f.Injective) {name? : Option String}
    {operation : Operation}
    (hdirect : (do return f (← work') : ClientM Server Answer) ⟨server, reporter⟩ =
      ended reporter name? (direct server operation))
    (outcome : Except Server.Refusal α) {after : Server}
    (houtcome : direct server operation = (outcome.map f, after)) :
    ∃ reporter', work ⟨.memory server, reporter⟩ =
      (outcome.mapError faultOf, ⟨.memory after, reporter'⟩) := by
  have hrun : work' ⟨server, reporter⟩ =
      (outcome.mapError faultOf, (ended reporter name? (direct server operation)).2) := by
    refine run_of_map hf (hdirect.trans ?_)
    rw [houtcome]
    cases outcome <;> rfl
  have hlink := hcarried ⟨server, reporter⟩
  rw [hrun, houtcome] at hlink
  exact ⟨_, hlink⟩

include hopen

theorem walletPropose_memory :
    ∃ reporter', walletPropose none ⟨Link.memory server, reporter⟩ =
      (.ok server.keys.draw.1,
        ⟨.memory ({ server with keys := server.keys.draw.2 }.withKeys server.keys.draw.1),
          reporter'⟩) :=
  memory_answers reporter (carried_walletPropose none) (f := Answer.keys)
    (fun _ _ h => by injection h) (walletPropose_direct hopen reporter none)
    (.ok server.keys.draw.1) rfl

theorem recoverGenesis_memory :
    ∃ reporter', walletPropose (some genesisPassphrase) ⟨Link.memory server, reporter⟩ =
      (.ok ⟨genesisAddress, genesisPassphrase⟩,
        ⟨.memory (server.withKeys ⟨genesisAddress, genesisPassphrase⟩), reporter'⟩) :=
  memory_answers reporter (carried_walletPropose _) (f := Answer.keys) (fun _ _ h => by injection h)
    (walletPropose_direct hopen reporter _) (.ok ⟨genesisAddress, genesisPassphrase⟩) rfl

theorem submit_memory {tx : Transaction} {secret : String}
    (hsecret : server.secrets.get? secret = some tx.account) :
    ∃ reporter', submit tx secret ⟨Link.memory server, reporter⟩ =
      (.ok ⟨(server.current.apply tx).1, ""⟩,
        ⟨.memory { server with current := (server.current.apply tx).2 }, reporter'⟩) :=
  memory_answers reporter (carried_submit tx secret) (f := Answer.submitted)
    (fun _ _ h => by injection h) (submit_direct hopen reporter tx secret)
    (.ok ⟨(server.current.apply tx).1, ""⟩) (if_pos hsecret)

theorem submit_memory_refused {tx : Transaction} {secret : String}
    (hsecret : server.secrets.get? secret ≠ some tx.account) :
    ∃ reporter', submit tx secret ⟨Link.memory server, reporter⟩ =
      (.error (faultOf badSecret), ⟨.memory server, reporter'⟩) :=
  memory_answers reporter (carried_submit tx secret) (f := Answer.submitted)
    (fun _ _ h => by injection h) (submit_direct hopen reporter tx secret) (.error badSecret)
    (if_neg hsecret)

theorem ledgerAccept_memory :
    ∃ reporter', ledgerAccept ⟨Link.memory server, reporter⟩ =
      (.ok (), ⟨.memory { server with validated := server.current, index := server.index + 1 },
        reporter'⟩) :=
  memory_answers reporter carried_ledgerAccept (f := fun _ => Answer.done) (fun _ _ _ => rfl)
    (ledgerAccept_direct hopen reporter) (.ok ()) rfl

theorem accountFlags_memory {account : String} {ledger : LedgerSelector} {root : Account}
    (hroot : (ledger.pick server).account? account = some root) :
    ∃ reporter', accountFlags account ledger ⟨Link.memory server, reporter⟩ =
      (.ok root.flags, ⟨.memory server, reporter'⟩) :=
  memory_answers reporter (carried_accountFlags account ledger) (f := Answer.flags)
    (fun _ _ h => by injection h) (accountFlags_direct hopen reporter account ledger)
    (.ok root.flags) (by simp only [direct, hroot]; rfl)

theorem accountLines_memory {account : String} {ledger : LedgerSelector} {root : Account}
    (hroot : (ledger.pick server).account? account = some root) (peer : Option String) :
    ∃ reporter', accountLines account peer ledger ⟨Link.memory server, reporter⟩ =
      (.ok (((ledger.pick server).linesOf account peer).map .ofView),
        ⟨.memory server, reporter'⟩) :=
  memory_answers reporter (carried_accountLines account peer ledger) (f := Answer.lines)
    (fun _ _ h => by injection h) (accountLines_direct hopen reporter account peer ledger)
    (.ok (((ledger.pick server).linesOf account peer).map .ofView))
    (by simp only [direct, hroot]; rfl)

theorem lineEntry_memory {account issuer currency : String} {ledger : LedgerSelector}
    (hline : (ledger.pick server).line? account issuer currency = none) :
    ∃ reporter', lineEntry account issuer currency ledger ⟨Link.memory server, reporter⟩ =
      (.error (faultOf entryNotFound), ⟨.memory server, reporter'⟩) :=
  memory_answers reporter (carried_lineEntry account issuer currency ledger) (f := Answer.entry)
    (fun _ _ h => by injection h) (lineEntry_direct hopen reporter account issuer currency ledger)
    (.error entryNotFound) (by simp only [direct, hline]; rfl)

theorem findPaths_memory {source destination currency issuer : String} {value : Float}
    {currencies : List String} {root : Account}
    (hroot : server.current.account? source = some root) (hcurrency : currency ∈ currencies) :
    ∃ reporter', findPaths source destination (.issued value currency issuer) currencies
        ⟨Link.memory server, reporter⟩ =
      (.ok ⟨PathAlternative.ofPaths currency
          (server.current.findPaths source destination currency value)⟩,
        ⟨.memory server, reporter'⟩) :=
  memory_answers reporter (carried_findPaths source destination _ currencies) (f := Answer.paths)
    (fun _ _ h => by injection h) (findPaths_direct hopen reporter source destination _ currencies)
    (.ok ⟨PathAlternative.ofPaths currency
      (server.current.findPaths source destination currency value)⟩)
    (by simp only [direct, directPaths, hroot, if_pos hcurrency]; rfl)

end Answers

end LedgerBench.Client

import LedgerBench.Proofs.Fixture.Memory
import LedgerBench.Proofs.Integrity
import LedgerBench.Proofs.Ledger.Routes

/-! Handing in transactions and accepting them, against a server in memory. The helpers hand in the
same way and differ in what they accept: nothing, whatever came of the transaction, or only what has
succeeded. A list of trust lines is a run of the last of them. -/

namespace LedgerBench.Fixture

open StepM (bind_ok bind_error)

variable {ε α : Type} {scene : Scene (Bench ε) (Fixture Link)} {reporter : Reporter}
  {server later : Server} {book : AccountBook} {tx : Transaction} {pair : String × String}
  {failure : Failure}

/-- How some work on the scene ends, and the server that it leaves behind the connection. Nothing
else of the scene is different but that the reporter has heard of more operations. -/
def Ends (scene : Scene (Bench ε) (Fixture Link)) (work : FixtureM Link ε α)
    (result : Except Failure α) (after : Server) : Prop :=
  ∃ reporter, work scene = (result, linkedTo scene reporter after scene.value.book)

/-! ### Without the right secret -/

/-- Why a transaction of an account is not taken whose secret is missing or wrong. -/
def unsigned (book : AccountBook) (account : String) : Failure :=
  match book.secretFor account with
  | .ok _ => (Client.faultOf Client.badSecret).toFailure
  | .error failure => failure

theorem submit_unsigned (hopen : server.closed = false)
    (hknows : ¬KnowsSecret book server tx.account) (scene : Scene (Bench ε) (Fixture Link))
    (reporter : Reporter) :
    ∃ reporter', submit tx (linkedTo scene reporter server book) =
      (.error (unsigned book tx.account), linkedTo scene reporter' server book) := by
  cases hsecret : book.secretFor tx.account with
  | error failure =>
    have hmissing : (linkedTo scene reporter server book).value.book.secretFor tx.account =
        .error failure := hsecret
    refine ⟨reporter, ?_⟩
    rw [submit, bind_ok (connected_linkedTo ..), bind_ok (get_ok _),
      bind_error (ofExcept_error hmissing _), unsigned, hsecret]
  | ok secret =>
    have hwrong : server.secrets.get? secret ≠ some tx.account :=
      fun hknown => hknows ⟨secret, hsecret, hknown⟩
    obtain ⟨reporter', hsubmit⟩ := Client.submit_memory_refused hopen reporter hwrong
    have hfound : (linkedTo scene reporter server book).value.book.secretFor tx.account =
        .ok secret := hsecret
    refine ⟨reporter', ?_⟩
    rw [submit, bind_ok (connected_linkedTo ..), bind_ok (get_ok _),
      bind_ok (ofExcept_ok hfound _), bind_error (call_error_linkedTo hsubmit scene book), unsigned,
      hsecret]

/-! ### Trust lines one after the other -/

def limitOf (book : AccountBook) (pair : String × String) : Except Failure Transaction :=
  match book.address pair.1, book.amount pair.2 with
  | .error failure, _ => .error failure
  | .ok _, .error failure => .error failure
  | .ok account, .ok limit => .ok (.trustSet account limit 0)

def limitContext (pair : String × String) : String :=
  s!"Could not set credit limit {pair.2} for [{pair.1}]"

/-- Each pair of the list is carried out and accepted before the next. -/
inductive SetsLimits (book : AccountBook) : Server → List (String × String) → Server → Prop
  | nil {server : Server} : SetsLimits book server [] server
  | cons {server last : Server} {tx : Transaction} {pair : String × String}
      {rest : List (String × String)} (hlimit : limitOf book pair = .ok tx)
      (hknows : KnowsSecret book server tx.account)
      (hsuccess : (server.current.apply tx).1 = .success)
      (hrest : SetsLimits book (server.take tx).settle rest last) :
      SetsLimits book server (pair :: rest) last

/-- A pair that fails, with what it leaves of the server: it cannot be read, nobody has signed it,
or the ledger does not carry it out. -/
inductive StopsAt (book : AccountBook) (server : Server) (pair : String × String) :
    Failure → Server → Prop
  | unread {failure : Failure} (hlimit : limitOf book pair = .error failure) :
      StopsAt book server pair failure server
  | unsigned {tx : Transaction} (hlimit : limitOf book pair = .ok tx)
      (hknows : ¬KnowsSecret book server tx.account) :
      StopsAt book server pair ((unsigned book tx.account).inContext (limitContext pair)) server
  | refused {tx : Transaction} (hlimit : limitOf book pair = .ok tx)
      (hknows : KnowsSecret book server tx.account)
      (hfails : (server.current.apply tx).1 ≠ .success) :
      StopsAt book server pair
        ((notSucceeded tx (server.current.apply tx).1).inContext (limitContext pair))
        (server.take tx)

theorem creditLimit_eq (hlimit : limitOf book pair = .ok tx) (scene : Scene (Bench ε) (Fixture Link))
    (reporter : Reporter) (server : Server) :
    creditLimit pair.1 pair.2 (linkedTo scene reporter server book) =
      (submitTransaction tx).inContext (limitContext pair)
        (linkedTo scene reporter server book) := by
  unfold limitOf at hlimit
  split at hlimit
  · cases hlimit
  · cases hlimit
  next account limit haddress hamount =>
    cases hlimit
    rw [creditLimit, bind_ok (address_linkedTo haddress ..), bind_ok (amount_linkedTo hamount ..)]
    rfl

theorem creditLimit_unread (hlimit : limitOf book pair = .error failure)
    (scene : Scene (Bench ε) (Fixture Link)) (reporter : Reporter) (server : Server) :
    creditLimit pair.1 pair.2 (linkedTo scene reporter server book) =
      (.error failure, linkedTo scene reporter server book) := by
  unfold limitOf at hlimit
  split at hlimit
  next failure' haddress =>
    cases hlimit
    rw [creditLimit]
    exact bind_error (ofExcept_error haddress _) _
  next account failure' haddress hamount =>
    cases hlimit
    rw [creditLimit, bind_ok (address_linkedTo haddress ..)]
    exact bind_error (ofExcept_error hamount _) _
  · cases hlimit

theorem creditLimit_linkedTo (hopen : server.closed = false) (book : AccountBook)
    (pair : String × String) (scene : Scene (Bench ε) (Fixture Link)) (reporter : Reporter) :
    ∃ reporter',
      (∃ tx, limitOf book pair = .ok tx ∧ KnowsSecret book server tx.account ∧
        (server.current.apply tx).1 = .success ∧
        creditLimit pair.1 pair.2 (linkedTo scene reporter server book) =
          (.ok (), linkedTo scene reporter' (server.take tx).settle book)) ∨
      ∃ failure after, StopsAt book server pair failure after ∧
        creditLimit pair.1 pair.2 (linkedTo scene reporter server book) =
          (.error failure, linkedTo scene reporter' after book) := by
  cases hlimit : limitOf book pair with
  | error failure =>
    exact ⟨reporter, .inr ⟨failure, server, .unread hlimit,
      creditLimit_unread hlimit scene reporter server⟩⟩
  | ok tx =>
    have hsame := creditLimit_eq hlimit scene reporter server
    by_cases hknows : KnowsSecret book server tx.account
    · by_cases hsuccess : (server.current.apply tx).1 = .success
      · obtain ⟨reporter', hran⟩ :=
          submitTransaction_linkedTo hopen hknows hsuccess scene reporter
        exact ⟨reporter', .inl ⟨tx, rfl, hknows, hsuccess, hsame.trans (inContext_ok hran _)⟩⟩
      · obtain ⟨reporter', hran⟩ := submitTransaction_error hopen hknows hsuccess scene reporter
        exact ⟨reporter', .inr ⟨_, _, .refused hlimit hknows hsuccess,
          hsame.trans (inContext_error hran _)⟩⟩
    · obtain ⟨reporter', hsubmit⟩ := submit_unsigned hopen hknows scene reporter
      have hran : submitTransaction tx (linkedTo scene reporter server book) = _ :=
        bind_error hsubmit _
      exact ⟨reporter', .inr ⟨_, _, .unsigned hlimit hknows,
        hsame.trans (inContext_error hran _)⟩⟩

theorem creditLimits_linkedTo (hopen : server.closed = false) (book : AccountBook)
    (limits : List (String × String)) (scene : Scene (Bench ε) (Fixture Link))
    (reporter : Reporter) :
    ∃ reporter' done middle, SetsLimits book server done middle ∧
      (limits = done ∧ creditLimits limits (linkedTo scene reporter server book) =
        (.ok (), linkedTo scene reporter' middle book) ∨
      ∃ pair rest failure after, limits = done ++ pair :: rest ∧
        StopsAt book middle pair failure after ∧
        creditLimits limits (linkedTo scene reporter server book) =
          (.error failure, linkedTo scene reporter' after book)) := by
  -- over the pairs; what comes before the first that fails grows at its front
  induction limits generalizing server reporter with
  | nil => exact ⟨reporter, [], server, .nil, .inl ⟨rfl, rfl⟩⟩
  | cons pair rest ih =>
    obtain ⟨first, hfirst⟩ := creditLimit_linkedTo hopen book pair scene reporter
    rcases hfirst with ⟨tx, hlimit, hknows, hsuccess, hran⟩ | ⟨failure, after, hstops, hran⟩
    · obtain ⟨reporter', done, middle, hdone, hrest⟩ :=
        ih (show (server.take tx).settle.closed = false from hopen) first
      have hall : creditLimits (pair :: rest) (linkedTo scene reporter server book) =
          creditLimits rest (linkedTo scene first (server.take tx).settle book) :=
        bind_ok hran _
      refine ⟨reporter', pair :: done, middle, .cons hlimit hknows hsuccess hdone, ?_⟩
      rcases hrest with ⟨heq, hlast⟩ | ⟨bad, others, failure, after, heq, hstops, hlast⟩
      · exact .inl ⟨congrArg (pair :: ·) heq, hall.trans hlast⟩
      · exact .inr ⟨bad, others, failure, after, congrArg (pair :: ·) heq, hstops,
          hall.trans hlast⟩
    · exact ⟨first, [], server, .nil, .inr ⟨pair, rest, failure, after, rfl, hstops,
        bind_error hran _⟩⟩

/-! ### What is validated -/

theorem StopsAt.keeps {after : Server} (h : StopsAt book server pair failure after) :
    after.validated = server.validated ∧ after.index = server.index := by
  cases h <;> exact ⟨rfl, rfl⟩

theorem SetsLimits.validated {done : List (String × String)} (h : SetsLimits book server done later)
    (hvalidated : server.validated = server.current ∨ done ≠ []) :
    later.validated = later.current := by
  induction h with
  | nil => exact hvalidated.resolve_right (fun hne => hne rfl)
  | cons _ _ _ _ ih => exact ih (.inl rfl)

theorem SetsLimits.lasts {done : List (String × String)}
    (h : SetsLimits book server done later) : server.current.Lasts later.current := by
  induction h with
  | nil => exact .refl _
  | cons _ _ _ _ ih => exact (Ledger.lasts_apply _ _).trans ih

theorem exists_line {account : String} {limit : Amount} {flags : UInt32} {ledger : Ledger}
    (hsuccess : (ledger.apply (.trustSet account limit flags)).1 = .success) :
    ∃ value currency issuer, limit = .issued value currency issuer ∧
      .between account issuer currency ∈
        (ledger.apply (.trustSet account limit flags)).2.lines.keys := by
  rcases ledger.apply_cases (.trustSet account limit flags) with
    ⟨after, heffect, -, happly⟩ | ⟨r, hr, happly⟩
  · rw [happly]
    cases heffect with
    | @adjusted _ currency issuer value _ _ line _ hline =>
      refine ⟨value, currency, issuer, rfl, ?_⟩
      show _ ∈ (Register.update ..).keys
      rw [Register.keys_update]
      exact Register.mem_keys_iff.2 (Option.isSome_of_eq_some hline)
    | @opened _ currency issuer value _ _ _ _ =>
      exact ⟨value, currency, issuer, rfl, Register.mem_keys_insert.2 (.inl rfl)⟩
  · have hnot : ∀ r ∈ Ledger.refusals, r ≠ .success := by decide
    exact absurd (by rw [happly] at hsuccess; exact hsuccess) (hnot r hr)

def HasLine (book : AccountBook) (ledger : Ledger) (pair : String × String) : Prop :=
  ∃ account value currency issuer, book.address pair.1 = .ok account ∧
    book.amount pair.2 = .ok (.issued value currency issuer) ∧
    (ledger.line? account issuer currency).isSome

theorem SetsLimits.hasLine {done : List (String × String)}
    (h : SetsLimits book server done later) : ∀ pair ∈ done, HasLine book later.current pair := by
  induction h with
  | nil => exact fun _ hmem => absurd hmem List.not_mem_nil
  | @cons server last tx pair rest hlimit _ hsuccess hrest ih =>
    refine List.forall_mem_cons.2 ⟨?_, ih⟩
    unfold limitOf at hlimit
    split at hlimit
    · cases hlimit
    · cases hlimit
    next account limit haddress hamount =>
      cases hlimit
      obtain ⟨value, currency, issuer, rfl, hline⟩ := exists_line hsuccess
      exact ⟨account, value, currency, issuer, haddress, hamount,
        Register.mem_keys_iff.1 (hrest.lasts.lines _ hline)⟩

/-- What the helpers for transactions accept. Handing in gives the result of the ledger and changes
the open ledger alone. With `submitAndAccept` the open ledger is validated afterwards, whatever the
result; with `submitTransaction` only after a success, and without one it fails. Trust lines are set
in order up to the first that fails, and the lines of the pairs before it are validated. -/
theorem submissions_settle (hlink : scene.value.remote = some (.memory server))
    (hopen : server.closed = false) :
    (∀ tx, KnowsSecret scene.value.book server tx.account →
      let result := (server.current.apply tx).1
      Ends scene (submit tx) (.ok result) (server.take tx) ∧
        Ends scene (submitAndAccept tx) (.ok result) (server.take tx).settle ∧
        (result = .success → Ends scene (submitTransaction tx) (.ok ()) (server.take tx).settle) ∧
        (result ≠ .success → Ends scene (submitTransaction tx)
          (.error (.plain (tx.typeName ++ " failed with " ++ result.code))) (server.take tx))) ∧
    ∀ limits, ∃ done middle, SetsLimits scene.value.book server done middle ∧
      (done ≠ [] → middle.validated = middle.current) ∧
      (∀ pair ∈ done, HasLine scene.value.book middle.validated pair) ∧
      (limits = done ∧ Ends scene (creditLimits limits) (.ok ()) middle ∨
        ∃ pair rest failure after, limits = done ++ pair :: rest ∧
          StopsAt scene.value.book middle pair failure after ∧
          after.validated = middle.validated ∧ after.index = middle.index ∧
          Ends scene (creditLimits limits) (.error failure) after) := by
  have hself := linkedTo_self hlink
  constructor
  · intro tx hknows result
    obtain ⟨r₁, hsubmit⟩ := submit_linkedTo hopen hknows scene scene.stage.reporter
    obtain ⟨r₂, haccept⟩ := submitAndAccept_linkedTo hopen hknows scene scene.stage.reporter
    rw [hself] at hsubmit haccept
    refine ⟨⟨r₁, hsubmit⟩, ⟨r₂, haccept⟩, fun hsuccess => ?_, fun hfails => ?_⟩
    · obtain ⟨r₃, hran⟩ :=
        submitTransaction_linkedTo hopen hknows hsuccess scene scene.stage.reporter
      exact ⟨r₃, hself ▸ hran⟩
    · obtain ⟨r₃, hran⟩ := submitTransaction_error hopen hknows hfails scene scene.stage.reporter
      exact ⟨r₃, hself ▸ hran⟩
  · intro limits
    obtain ⟨reporter', done, middle, hdone, hlast⟩ :=
      creditLimits_linkedTo hopen scene.value.book limits scene scene.stage.reporter
    rw [hself] at hlast
    have hvalidated : done ≠ [] → middle.validated = middle.current :=
      fun hne => hdone.validated (.inr hne)
    refine ⟨done, middle, hdone, hvalidated, fun pair hpair => ?_, ?_⟩
    · rw [hvalidated (List.ne_nil_of_mem hpair)]
      exact hdone.hasLine pair hpair
    · rcases hlast with ⟨heq, hran⟩ | ⟨pair, rest, failure, after, heq, hstops, hran⟩
      · exact .inl ⟨heq, reporter', hran⟩
      · obtain ⟨hsame, hindex⟩ := hstops.keeps
        exact .inr ⟨pair, rest, failure, after, heq, hstops, hsame, hindex, reporter', hran⟩

/-- An account with a line asks for RequireAuth and is refused it. A list of trust lines ends at an
account whose secret the server does not know. -/
theorem twoLines_submissions :
    let server : Server := { Server.start (.seeded 1) with
      current := Ledger.twoLines
      validated := Ledger.twoLines
      secrets := Register.empty.insert "sBob" "rBob" }
    let book := (AccountBook.empty.insert "bob" ⟨"rBob", "sBob"⟩).insert "alice" ⟨"rAlice", "sAlice"⟩
    let scene := bareScene server book
    let refused := Transaction.accountSet "rBob" 0 (some .requireAuth) none
    scene.value.remote = some (.memory server) ∧ server.closed = false ∧
      KnowsSecret book server "rBob" ∧ ¬KnowsSecret book server "rAlice" ∧
      Ends scene (submitAndAccept refused) (.ok .owners) (server.take refused).settle ∧
      Ends scene (submitTransaction refused)
        (.error (.plain "AccountSet failed with tecOWNERS")) (server.take refused) ∧
      ∃ after, Ends scene (creditLimits [("alice", "5/EUR/bob"), ("bob", "5/EUR/alice")])
        (.error ((unsigned book "rAlice").inContext
          "Could not set credit limit 5/EUR/bob for [alice]")) after := by
  intro server book scene refused
  have hlink : scene.value.remote = some (.memory server) := rfl
  have hopen : server.closed = false := rfl
  have hbob : KnowsSecret book server "rBob" := ⟨"sBob", by decide +kernel, by decide +kernel⟩
  have halice : ¬KnowsSecret book server "rAlice" := by
    rintro ⟨secret, hsecret, hknown⟩
    have hsame : book.secretFor "rAlice" = .ok "sAlice" := by decide +kernel
    cases hsame.symm.trans hsecret
    revert hknown
    decide +kernel
  have hresult : (server.current.apply refused).1 = .owners := by decide +kernel
  obtain ⟨htx, hlimits⟩ := submissions_settle hlink hopen
  obtain ⟨-, haccept, -, hfails⟩ := htx refused hbob
  rw [hresult] at haccept
  replace hfails := hfails (by rw [hresult]; exact nofun)
  rw [hresult] at hfails
  refine ⟨hlink, hopen, hbob, halice, haccept, hfails, ?_⟩
  -- the first pair is not signed, so nothing of the list is done
  have hlimit : limitOf book ("alice", "5/EUR/bob") =
      .ok (.trustSet "rAlice" (.issued 5 "EUR" "rBob") 0) := by
    decide +kernel
  obtain ⟨done, middle, hdone, -, -, hlast⟩ :=
    hlimits [("alice", "5/EUR/bob"), ("bob", "5/EUR/alice")]
  cases hdone with
  | cons hfirst hknows _ _ =>
    rcases hlast with ⟨heq, -⟩ | ⟨_, _, _, _, heq, -⟩
    all_goals
      obtain ⟨rfl, -⟩ := List.cons.inj heq
      cases hlimit.symm.trans hfirst
      exact absurd hknows halice
  | nil =>
    rcases hlast with ⟨heq, -⟩ | ⟨pair, rest, failure, after, heq, hstops, -, -, hran⟩
    · cases heq
    · cases heq
      cases hstops with
      | unread hbad => cases hlimit.symm.trans hbad
      | unsigned hfirst _ =>
        cases hlimit.symm.trans hfirst
        exact ⟨_, hran⟩
      | refused hfirst hknows _ =>
        cases hlimit.symm.trans hfirst
        exact absurd hknows halice

end LedgerBench.Fixture

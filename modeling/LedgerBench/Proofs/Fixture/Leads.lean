import LedgerBench.Proofs.Fixture.Memory

/-! What steps against a ledger in memory lead to. A situation is what a scenario can tell apart
between its steps: the ledger, with everything that was handed in accepted, the keys that are left,
and the accounts that it knows by name. -/

namespace LedgerBench.Fixture

open StepM (bind_ok bind_error)

variable {ε α β : Type}

structure Situation where
  ledger : Ledger
  keys : KeySource
  book : AccountBook

/-- A server that keeps the ledger of a situation and knows the secrets of its accounts. -/
structure Serves (server : Server) (s : Situation) : Prop where
  isOpen : server.closed = false
  current : server.current = s.ledger
  validated : server.validated = s.ledger
  keys : server.keys = s.keys
  secrets : ∀ pair ∈ s.book.accounts.values, server.secrets.get? pair.secret = some pair.address

def serverless (base : Scene (Bench ε) (Fixture Link)) : Scene (Bench ε) (Fixture Link) :=
  { base with value := { base.value with server := none } }

def onServer (base : Scene (Bench ε) (Fixture Link)) (reporter : Reporter) (server : Server)
    (book : AccountBook) : Scene (Bench ε) (Fixture Link) :=
  { base with stage := { base.stage with reporter }, value := ⟨some (.memory server), book, none⟩ }

def At (base : Scene (Bench ε) (Fixture Link)) (s : Situation)
    (scene : Scene (Bench ε) (Fixture Link)) : Prop :=
  ∃ reporter server, scene = onServer base reporter server s.book ∧ Serves server s

/-- Wherever the one situation is met, the work succeeds with the value and leaves the other. -/
def Leads (base : Scene (Bench ε) (Fixture Link)) (work : FixtureM Link ε α) (s : Situation) (a : α)
    (s' : Situation) : Prop :=
  ∀ scene, At base s scene → ∃ scene', work scene = (.ok a, scene') ∧ At base s' scene'

section Leads

variable {base : Scene (Bench ε) (Fixture Link)} {s s' s'' : Situation} {a : α} {b : β}

theorem Leads.pure (a : α) : Leads base (Pure.pure a) s a s :=
  fun scene hat => ⟨scene, rfl, hat⟩

theorem Leads.bind {work : FixtureM Link ε α} {next : α → FixtureM Link ε β}
    (h : Leads base work s a s') (hnext : Leads base (next a) s' b s'') :
    Leads base (work >>= next) s b s'' := by
  intro scene hat
  obtain ⟨scene', hran, hat'⟩ := h scene hat
  obtain ⟨scene'', hran', hat''⟩ := hnext scene' hat'
  exact ⟨scene'', (bind_ok hran next).trans hran', hat''⟩

theorem Leads.inContext {work : FixtureM Link ε α} (h : Leads base work s a s')
    (context : String) : Leads base (work.inContext context) s a s' := by
  intro scene hat
  obtain ⟨scene', hran, hat'⟩ := h scene hat
  exact ⟨scene', inContext_ok hran context, hat'⟩

theorem Leads.address {name found : String} (h : s.book.address name = .ok found) :
    Leads base (address name) s found s := by
  rintro _ ⟨reporter, server, rfl, hserves⟩
  exact ⟨_, ofExcept_ok h _, reporter, server, rfl, hserves⟩

theorem Leads.amount {text : String} {amount : Amount} (h : s.book.amount text = .ok amount) :
    Leads base (Fixture.amount text) s amount s := by
  rintro _ ⟨reporter, server, rfl, hserves⟩
  exact ⟨_, ofExcept_ok h _, reporter, server, rfl, hserves⟩

theorem Leads.connected : Leads base connected s () s := by
  rintro _ ⟨reporter, server, rfl, hserves⟩
  exact ⟨_, rfl, reporter, server, rfl, hserves⟩

end Leads

/-! ### Operations -/

section Operations

variable {base : Scene (Bench ε) (Fixture Link)} {reporter reporter' : Reporter}
  {server later : Server} {a : α}

theorem call_ok {op : ClientM Link α}
    (h : op ⟨.memory server, reporter⟩ = (.ok a, ⟨.memory later, reporter'⟩))
    (base : Scene (Bench ε) (Fixture Link)) (book : AccountBook) :
    call op (onServer base reporter server book) = (.ok a, onServer base reporter' later book) :=
  call_linkedTo h (serverless base) book

theorem Serves.knowsSecret {s : Situation} (hserves : Serves server s) {name : String}
    {pair : KeyPair} (hname : s.book.get? name = some pair) :
    KnowsSecret s.book server pair.address := by
  obtain ⟨known, hknown, haddress, hsecret⟩ := AccountBook.exists_secretFor
    (List.mem_map_of_mem (Register.mem_entries_of_get? hname))
  exact ⟨known.secret, hsecret, haddress ▸ hserves.secrets known hknown⟩

def Situation.apply (s : Situation) (tx : Transaction) : Situation :=
  { s with ledger := (s.ledger.apply tx).2 }

theorem Serves.accepted {s : Situation} (h : Serves server s) (tx : Transaction) :
    Serves (server.take tx).settle (s.apply tx) := by
  have hcurrent : (server.current.apply tx).2 = (s.ledger.apply tx).2 := by rw [h.current]
  exact ⟨h.isOpen, hcurrent, hcurrent, h.keys, h.secrets⟩

variable {s : Situation} {name : String} {pair : KeyPair} {tx : Transaction}

theorem Leads.submitAndAccept (hname : s.book.get? name = some pair)
    (htx : tx.account = pair.address) :
    Leads base (submitAndAccept tx) s (s.ledger.apply tx).1 (s.apply tx) := by
  rintro _ ⟨reporter, server, rfl, hserves⟩
  have hknows : KnowsSecret s.book server tx.account := htx ▸ hserves.knowsSecret hname
  obtain ⟨reporter', hran⟩ := submitAndAccept_linkedTo hserves.isOpen hknows
    (serverless base) reporter
  refine ⟨_, ?_, reporter', _, rfl, hserves.accepted tx⟩
  rw [← hserves.current]
  exact hran

theorem Leads.submitTransaction (hname : s.book.get? name = some pair)
    (htx : tx.account = pair.address) (hsuccess : (s.ledger.apply tx).1 = .success) :
    Leads base (submitTransaction tx) s () (s.apply tx) := by
  rintro _ ⟨reporter, server, rfl, hserves⟩
  have hknows : KnowsSecret s.book server tx.account := htx ▸ hserves.knowsSecret hname
  rw [← hserves.current] at hsuccess
  obtain ⟨reporter', hran⟩ := submitTransaction_linkedTo hserves.isOpen hknows hsuccess
    (serverless base) reporter
  exact ⟨_, hran, reporter', _, rfl, hserves.accepted tx⟩

theorem Serves.pick {s : Situation} (h : Serves server s) (ledger : LedgerSelector) :
    ledger.pick server = s.ledger := by
  cases ledger
  · exact h.current
  · exact h.validated
  · exact h.validated

theorem Leads.query {op : ClientM Link α}
    (h : ∀ server reporter, Serves server s → ∃ reporter',
      op ⟨.memory server, reporter⟩ = (.ok a, ⟨.memory server, reporter'⟩)) :
    Leads base (call op) s a s := by
  rintro _ ⟨reporter, server, rfl, hserves⟩
  obtain ⟨reporter', hop⟩ := h server reporter hserves
  exact ⟨_, call_ok hop base s.book, reporter', server, rfl, hserves⟩

variable {address : String} {root : Account}

theorem Leads.accountFlags (haddress : s.book.address name = .ok address)
    (hroot : s.ledger.account? address = some root) (ledger : LedgerSelector) :
    Leads base (accountFlags name ledger) s root.flags s := by
  refine Leads.connected.bind ((Leads.address haddress).bind (.query ?_))
  intro server reporter hserves
  exact Client.accountFlags_memory hserves.isOpen reporter (by rw [hserves.pick, hroot])

theorem Leads.accountLines {peer peerAddress : Option String}
    (haddress : s.book.address name = .ok address)
    (hpeer : ∀ base : Scene (Bench ε) (Fixture Link), Leads base (address? peer) s peerAddress s)
    (hroot : s.ledger.account? address = some root) (ledger : LedgerSelector) :
    Leads base (accountLines name peer ledger) s
      ((s.ledger.linesOf address peerAddress).map .ofView) s := by
  refine Leads.connected.bind ((Leads.address haddress).bind ((hpeer base).bind (.query ?_)))
  intro server reporter hserves
  rw [← hserves.pick ledger]
  exact Client.accountLines_memory hserves.isOpen reporter (by rw [hserves.pick, hroot]) _

theorem Leads.address?_none : Leads base (address? none) s none s :=
  .pure none

theorem Leads.address?_some (haddress : s.book.address name = .ok address) :
    Leads base (address? (some name)) s (some address) s :=
  (Leads.address haddress).bind (.pure _)

theorem Leads.lineEntry {issuer issuerAddress currency : String}
    (haddress : s.book.address name = .ok address)
    (hissuer : s.book.address issuer = .ok issuerAddress)
    (hline : s.ledger.line? address issuerAddress currency = none) (ledger : LedgerSelector) :
    Leads base (lineEntry name issuer currency ledger) s
      (.error (.remote "entryNotFound" "Entry not found.")) s := by
  refine Leads.connected.bind ((Leads.address haddress).bind ((Leads.address hissuer).bind ?_))
  rintro _ ⟨reporter, server, rfl, hserves⟩
  obtain ⟨reporter', hop⟩ := Client.lineEntry_memory hserves.isOpen reporter
    (by rwa [hserves.pick ledger])
  have hask : ask (Client.lineEntry address issuerAddress currency ledger)
      (onServer base reporter server s.book) =
        (.ok (.error (Client.faultOf Client.entryNotFound)),
          onServer base reporter' server s.book) := by
    simp only [ask, onServer, hop]
  exact ⟨_, bind_ok hask _, reporter', server, rfl, hserves⟩

theorem Leads.findPaths {target destination currency issuer text : String} {value : Float}
    {currencies : List String} (haddress : s.book.address name = .ok address)
    (htarget : s.book.address target = .ok destination)
    (hamount : s.book.amount text = .ok (.issued value currency issuer))
    (hcurrency : currency ∈ currencies) (hroot : s.ledger.account? address = some root) :
    Leads base (findPaths name target text currencies) s
      ⟨PathAlternative.ofPaths currency
        (s.ledger.findPaths address destination currency value)⟩ s := by
  refine Leads.connected.bind ((Leads.address haddress).bind ((Leads.address htarget).bind
    ((Leads.amount hamount).bind (.query ?_))))
  intro server reporter hserves
  rw [← hserves.current]
  exact Client.findPaths_memory hserves.isOpen reporter (by rw [hserves.current, hroot]) hcurrency

/-! ### Accounts -/

def Situation.meet (s : Situation) (name : String) : Situation :=
  ⟨s.ledger, s.keys.draw.2, s.book.insert name s.keys.draw.1⟩

theorem mem_values_insert {book : AccountBook} {pair known : KeyPair}
    (h : known ∈ (book.insert name pair).accounts.values) :
    known = pair ∨ known ∈ book.accounts.values := by
  obtain ⟨entry, hentry, rfl⟩ := List.mem_map.1 h
  refine Register.forall_insertEntry (p := fun entry => entry.2 = pair ∨
    entry.2 ∈ book.accounts.values) (.inl rfl) (fun old hold => .inr ?_) entry hentry
  exact List.mem_map_of_mem hold

/-- New keys are known to the server, which keeps the secrets that it knew if theirs is none of
them. -/
theorem Serves.meet (h : Serves server s)
    (hfresh : ∀ pair ∈ s.book.accounts.values, pair.secret ≠ s.keys.draw.1.secret) (name : String) :
    Serves server.propose (s.meet name) := by
  refine ⟨h.isOpen, h.current, h.validated, congrArg (·.draw.2) h.keys, fun pair hpair => ?_⟩
  rw [Server.propose, h.keys]
  rcases mem_values_insert hpair with rfl | hknown
  · exact Register.get?_insert_self ..
  · exact (Register.get?_insert_of_ne _ _ (hfresh pair hknown)).trans (h.secrets pair hknown)

end Operations

end LedgerBench.Fixture

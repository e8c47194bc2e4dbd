import LedgerBench.Proofs.Fixture.Accounts

/-! Accounts that are created one after the other. Each round draws keys, enters them in the book
under the name, lets the payer fund the account and sets a flag on it, and accepts the ledger after
each transaction. The secret of the payer is looked up anew in every round, in the book that the
rounds before have changed. -/

namespace LedgerBench

/-! ### Names -/

namespace AccountBook

variable {book : AccountBook} {name address : String} {pair : KeyPair}

theorem exists_of_secretFor {secret : String} (h : book.secretFor address = .ok secret) :
    ∃ known ∈ book.accounts.values, known.address = address := by
  cases hfound : book.accounts.values.find? (·.address == address) with
  | none =>
    simp only [secretFor, hfound] at h
    cases h
  | some known =>
    exact ⟨known, List.mem_of_find?_eq_some hfound, by simpa using List.find?_some hfound⟩

/-- Another name does not change which secret an address has, nor does another account under a name
that stood for a different address. -/
theorem secretFor_insert_of_ne (hne : pair.address ≠ address)
    (hold : ∀ old, book.get? name = some old → old.address ≠ address) :
    (book.insert name pair).secretFor address = book.secretFor address := by
  have hentries : ∀ e ∈ book.accounts.entries, compare name e.1 = .eq →
      (e.2.address == address) = false := by
    rintro ⟨other, old⟩ hmem heq
    obtain rfl := Std.LawfulEqCmp.eq_of_compare heq
    have hget : book.get? name = some old := Register.get?_eq_some_iff.2 hmem
    exact beq_eq_false_iff_ne.2 (hold old hget)
  have hfind : (book.insert name pair).accounts.values.find? (·.address == address) =
      book.accounts.values.find? (·.address == address) :=
    Register.find?_values_insertEntry (p := fun known : KeyPair => known.address == address)
      (beq_eq_false_iff_ne.2 hne) hentries
  rw [secretFor, hfind, secretFor]

theorem secretFor_insert_self
    (hfresh : ∀ known ∈ book.accounts.values, known.address ≠ pair.address) :
    (book.insert name pair).secretFor pair.address = .ok pair.secret := by
  have hmem : pair ∈ (book.insert name pair).accounts.values :=
    List.mem_map_of_mem (Register.mem_entries_of_get? (Register.get?_insert_self ..))
  obtain ⟨known, hknown, haddress, hsecret⟩ := exists_secretFor hmem
  rcases Fixture.mem_values_insert hknown with rfl | hold
  · exact hsecret
  · exact absurd haddress (hfresh known hold)

/-- Each name stands for the account of the pair at its place. -/
def Resolves (book : AccountBook) (names : List String) (pairs : List KeyPair) : Prop :=
  List.Forall₂ (fun name pair => book.address name = .ok pair.address) names pairs

theorem resolves_insertAll {names : List String} {pairs : List KeyPair}
    (hlength : names.length = pairs.length) (hnames : names.Nodup) :
    (book.insertAll (names.zip pairs)).Resolves names pairs := by
  induction names generalizing book pairs with
  | nil =>
    obtain rfl := List.length_eq_zero_iff.1 hlength.symm
    exact .nil
  | cons name rest ih =>
    cases pairs with
    | nil => cases hlength
    | cons pair others =>
      obtain ⟨hname, hrest⟩ := List.nodup_cons.1 hnames
      have hlength' : rest.length = others.length := Nat.succ.inj hlength
      refine .cons ?_ (ih hlength' hrest)
      have hkeys : (rest.zip others).map Prod.fst = rest :=
        List.map_fst_zip (Nat.le_of_eq hlength')
      refine Fixture.address_of_get? ?_
      show ((book.insert name pair).insertAll (rest.zip others)).get? name = some pair
      rw [get?_insertAll_of_not_mem (by rwa [hkeys])]
      exact Register.get?_insert_self ..

end AccountBook

/-! ### The ledger -/

namespace Ledger

variable {ledger : Ledger} {payer address : String} {drops : UInt64}

/-- Why a payment is not carried out whose payer does not have the drops. -/
def unpaid (ledger : Ledger) (payer : String) : EngineResult :=
  if (ledger.account? payer).isSome then .unfundedPayment else .other "terNO_ACCOUNT"

theorem payment_unfunded (hdrops : drops ≠ 0) (hfunds : ledger.funds payer < drops.toNat) :
    (ledger.apply (.payment payer address (.native drops) false)).1 = ledger.unpaid payer := by
  cases hpayer : ledger.account? payer with
  | none =>
    have hunknown : ledger.accounts.contains payer = false :=
      Option.isSome_eq_false_iff.2 (Option.isNone_iff_eq_none.2 hpayer)
    simp only [apply, Transaction.account, hunknown, unpaid, hpayer]
    rfl
  | some root =>
    have hlt : root.balance < drops := by
      rwa [UInt64.lt_iff_toNat_lt, ← funds_of_account? hpayer]
    rw [apply_fst (.payment payer address (.native drops) false) hpayer]
    simp only [applyKind, applyPayment, payNative, if_neg hdrops, hpayer, if_pos hlt, unpaid]
    rfl

theorem unpaid_ne_success (ledger : Ledger) (payer : String) : ledger.unpaid payer ≠ .success := by
  unfold unpaid
  split <;> exact nofun

end Ledger

namespace Fixture

open StepM (bind_ok bind_error)

variable {ε : Type} {scene : Scene (Bench ε) (Fixture Link)} {reporter : Reporter}
  {server : Server} {book : AccountBook} {payer name : String} {names : List String}
  {drops : UInt64} {defaultDivvy : Bool}

/-- The accounts of the pairs are new and have their drops and their flags. The payer has paid for
them and keeps its own flags. Every other account and every line is as it was. -/
structure Created (before after : Ledger) (payer : String) (drops : UInt64) (defaultDivvy : Bool)
    (pairs : List KeyPair) : Prop where
  new : ∀ pair ∈ pairs, before.account? pair.address = none ∧
    after.account? pair.address =
      some ⟨drops, newFlags defaultDivvy, if defaultDivvy then 2 else 1⟩
  funds : after.funds payer + pairs.length * drops.toNat = before.funds payer
  flags : (after.account? payer).map Account.flags = (before.account? payer).map Account.flags
  others : ∀ address, address ≠ payer → address ∉ pairs.map KeyPair.address →
    after.account? address = before.account? address
  lines : after.lines = before.lines

theorem Created.nil (ledger : Ledger) (payer : String) (drops : UInt64) (defaultDivvy : Bool) :
    Created ledger ledger payer drops defaultDivvy [] :=
  ⟨nofun, by simp, rfl, fun _ _ _ => rfl, rfl⟩

theorem Created.cons {before middle after : Ledger} {pair : KeyPair} {pairs : List KeyPair}
    (h : Created before middle payer drops defaultDivvy [pair])
    (hrest : Created middle after payer drops defaultDivvy pairs)
    (hnodup : ((pair :: pairs).map KeyPair.address).Nodup)
    (hpayer : ∀ known ∈ pair :: pairs, known.address ≠ payer) :
    Created before after payer drops defaultDivvy (pair :: pairs) := by
  obtain ⟨hnew, hnodup⟩ := List.nodup_cons.1 hnodup
  obtain ⟨hfirst, hothers⟩ := List.forall_mem_cons.1 hpayer
  refine ⟨List.forall_mem_cons.2 ⟨?_, fun known hknown => ?_⟩, ?_, hrest.flags.trans h.flags,
    fun address hne hmem => ?_, hrest.lines.trans h.lines⟩
  · obtain ⟨hbefore, hmiddle⟩ := h.new pair List.mem_cons_self
    exact ⟨hbefore, (hrest.others _ hfirst hnew).trans hmiddle⟩
  · obtain ⟨hmiddle, hafter⟩ := hrest.new known hknown
    have hother : known.address ∉ [pair].map KeyPair.address := fun hmem =>
      hnew (List.mem_singleton.1 hmem ▸ List.mem_map_of_mem hknown)
    exact ⟨(h.others _ (hothers known hknown) hother).symm.trans hmiddle, hafter⟩
  · have hone := h.funds
    have hmany := hrest.funds
    rw [List.length_singleton, one_mul] at hone
    rw [List.length_cons, Nat.succ_mul]
    omega
  · obtain ⟨hhead, htail⟩ := List.ne_and_not_mem_of_not_mem_cons hmem
    rw [hrest.others address hne htail, h.others address hne (by simpa using hhead)]

/-- A payment to a new account, and the flag that it asks for. -/
theorem created_single {ledger : Ledger} {pair : KeyPair} (hne : payer ≠ pair.address)
    (hnew : ledger.account? pair.address = none) (hdrops : drops ≠ 0)
    (hfunds : drops.toNat ≤ ledger.funds payer) :
    let paid := ledger.apply (.payment payer pair.address (.native drops) false)
    let set := paid.2.apply (.accountSet pair.address 0 (some .defaultDivvy) none)
    paid.1 = .success ∧ Created ledger paid.2 payer drops false [pair] ∧
      set.1 = .success ∧ Created ledger set.2 payer drops true [pair] := by
  intro paid set
  cases hroot : ledger.account? payer with
  | none =>
    have hzero : ledger.funds payer = 0 := by rw [Ledger.funds, hroot]; rfl
    rw [hzero, Nat.le_zero] at hfunds
    exact absurd (UInt64.toNat_inj.1 hfunds) hdrops
  | some root =>
    obtain ⟨hpaid, hlines, hpayer, hmade, hothers⟩ :=
      Ledger.payment_new hroot hnew hdrops hfunds false
    obtain ⟨hset, hflagged⟩ := Ledger.accountSet_defaultDivvy hmade
    have hflag : RootFlags.none.union .defaultDivvy = newFlags true := by decide
    have hsame : paid.2.SameButFlags set.2 pair.address (newFlags true) := by
      rw [← hflag]
      exact hflagged
    have hbalance : (root.balance - drops).toNat + drops.toNat = root.balance.toNat := by
      rw [Ledger.funds_of_account? hroot] at hfunds
      rw [UInt64.toNat_sub_of_le _ _ (UInt64.le_iff_toNat_le.2 hfunds)]
      omega
    have hfirst : Created ledger paid.2 payer drops false [pair] := by
      refine ⟨List.forall_mem_singleton.2 ⟨hnew, hmade⟩, ?_, by rw [hpayer, hroot]; rfl,
        fun address hother hmem => hothers address hother (by simpa using hmem), hlines⟩
      rw [Ledger.funds_of_account? hpayer, Ledger.funds_of_account? hroot, List.length_singleton,
        one_mul]
      exact hbalance
    refine ⟨hpaid, hfirst, hset, List.forall_mem_singleton.2 ⟨hnew, hsame.account? hmade⟩, ?_, ?_,
      ?_, hsame.1.trans hfirst.lines⟩
    · rw [hsame.funds_eq]
      exact hfirst.funds
    · rw [hsame.account?_of_ne hne]
      exact hfirst.flags
    · intro address hother hmem
      rw [hsame.account?_of_ne (by simpa using hmem)]
      exact hfirst.others address hother hmem

/-! ### One round -/

/-- What it takes to create accounts for the names. The payer's secret is right and none of the
names stands for the payer. Nothing of the next keys is in use: their addresses are all different,
not in the ledger and not in the book, and no secret is that of the payer, as it would be for keys
that the server does not know. -/
structure Prepared (server : Server) (book : AccountBook) (payer : String) (names : List String) :
    Prop where
  isOpen : server.closed = false
  knows : KnowsSecret book server payer
  kept : ∀ name ∈ names, ∀ pair, book.get? name = some pair → pair.address ≠ payer
  distinct : ((server.keys.next names.length).map KeyPair.address).Nodup
  accounts : ∀ pair ∈ server.keys.next names.length, server.current.account? pair.address = none
  secrets : ∀ pair ∈ server.keys.next names.length, book.secretFor payer ≠ .ok pair.secret
  unnamed : ∀ pair ∈ server.keys.next names.length, ∀ known ∈ book.accounts.values,
    known.address ≠ pair.address

theorem Prepared.ne_payer (h : Prepared server book payer names) {pair : KeyPair}
    (hpair : pair ∈ server.keys.next names.length) : pair.address ≠ payer := by
  obtain ⟨secret, hsecret, -⟩ := h.knows
  obtain ⟨known, hknown, rfl⟩ := AccountBook.exists_of_secretFor hsecret
  exact (h.unnamed pair hpair known hknown).symm

section Round

variable (h : Prepared server book payer (name :: names))

include h

theorem Prepared.secretFor :
    (book.insert name server.keys.draw.1).secretFor payer = book.secretFor payer :=
  AccountBook.secretFor_insert_of_ne (h.ne_payer List.mem_cons_self) (h.kept name List.mem_cons_self)

theorem Prepared.knows_payer :
    KnowsSecret (book.insert name server.keys.draw.1) server.propose payer := by
  obtain ⟨secret, hsecret, hknown⟩ := h.knows
  have hne : secret ≠ server.keys.draw.1.secret := by
    rintro rfl
    exact h.secrets _ List.mem_cons_self hsecret
  exact ⟨secret, h.secretFor.trans hsecret, (Register.get?_insert_of_ne _ _ hne).trans hknown⟩

theorem Prepared.knows_new : KnowsSecret (book.insert name server.keys.draw.1) server.propose
    server.keys.draw.1.address :=
  ⟨_, AccountBook.secretFor_insert_self (h.unnamed _ List.mem_cons_self),
    Register.get?_insert_self ..⟩

/-- After the round there is still everything that the others take. -/
theorem Prepared.next {later : Server} (hopen : later.closed = false)
    (hsecrets : later.secrets = server.propose.secrets) (hkeys : later.keys = server.keys.draw.2)
    (hcreated : Created server.current later.current payer drops defaultDivvy
      [server.keys.draw.1]) :
    Prepared later (book.insert name server.keys.draw.1) payer names := by
  obtain ⟨hnew, hnodup⟩ := List.nodup_cons.1 h.distinct
  have hmem {pair : KeyPair} (hpair : pair ∈ later.keys.next names.length) :
      pair ∈ server.keys.next (name :: names).length := by
    rw [hkeys] at hpair
    exact List.mem_cons_of_mem _ hpair
  have hne {pair : KeyPair} (hpair : pair ∈ later.keys.next names.length) :
      pair.address ≠ server.keys.draw.1.address := by
    rw [hkeys] at hpair
    exact fun heq => hnew (heq ▸ List.mem_map_of_mem hpair)
  refine ⟨hopen, ?_, fun other hother pair hpair => ?_, by rwa [hkeys], fun pair hpair => ?_,
    fun pair hpair => ?_, fun pair hpair known hknown => ?_⟩
  · obtain ⟨secret, hsecret, hknown⟩ := h.knows_payer
    exact ⟨secret, hsecret, by rwa [hsecrets]⟩
  · by_cases heq : other = name
    · rw [heq, get?_insert_self] at hpair
      obtain rfl := Option.some.inj hpair
      exact h.ne_payer List.mem_cons_self
    · rw [get?_insert_of_ne heq] at hpair
      exact h.kept other (List.mem_cons_of_mem _ hother) pair hpair
  · rw [hcreated.others _ (h.ne_payer (hmem hpair)) (by simpa using hne hpair)]
    exact h.accounts pair (hmem hpair)
  · rw [h.secretFor]
    exact h.secrets pair (hmem hpair)
  · rcases mem_values_insert hknown with rfl | hold
    · exact (hne hpair).symm
    · exact h.unnamed pair (hmem hpair) known hold

end Round

theorem createAccount_funded (h : Prepared server book payer (name :: names)) (hdrops : drops ≠ 0)
    (hfunds : drops.toNat ≤ server.current.funds payer) (defaultDivvy : Bool)
    (scene : Scene (Bench ε) (Fixture Link)) (reporter : Reporter) :
    ∃ reporter' later, createAccount payer (.native drops) defaultDivvy name
        (linkedTo scene reporter server book) =
          (.ok (), linkedTo scene reporter' later (book.insert name server.keys.draw.1)) ∧
      later.validated = later.current ∧ later.keys = server.keys.draw.2 ∧
      Created server.current later.current payer drops defaultDivvy [server.keys.draw.1] ∧
      Prepared later (book.insert name server.keys.draw.1) payer names := by
  let payment := Transaction.payment payer server.keys.draw.1.address (.native drops) false
  let setting := Transaction.accountSet server.keys.draw.1.address 0 (some .defaultDivvy) none
  let paid := (server.propose.take payment).settle
  have hopen : server.propose.closed = false := h.isOpen
  have hknows : KnowsSecret _ server.propose payment.account := h.knows_payer
  have hopen' : paid.closed = false := h.isOpen
  have hknows' : KnowsSecret _ paid setting.account := h.knows_new
  obtain ⟨hpaid, hfirst, hset, hsecond⟩ := created_single
    (h.ne_payer List.mem_cons_self).symm (h.accounts _ List.mem_cons_self) hdrops hfunds
  obtain ⟨reporter₁, hkeys⟩ := createAccount_linkedTo h.isOpen payer (.native drops) defaultDivvy
    name scene reporter book
  obtain ⟨reporter₂, hpay⟩ := submitTransaction_linkedTo hopen hknows hpaid scene reporter₁
  replace hpay := inContext_ok hpay s!"Could not fund [{name}]"
  cases defaultDivvy with
  | false =>
    exact ⟨reporter₂, paid, hkeys.trans (bind_ok hpay _), rfl, rfl, hfirst,
      h.next h.isOpen rfl rfl hfirst⟩
  | true =>
    obtain ⟨reporter₃, hflag⟩ := submitTransaction_linkedTo hopen' hknows' hset scene reporter₂
    replace hflag := inContext_ok hflag s!"Could not set DefaultDivvy on [{name}]"
    exact ⟨reporter₃, (paid.take setting).settle, hkeys.trans ((bind_ok hpay _).trans hflag), rfl,
      rfl, hsecond, h.next h.isOpen rfl rfl hsecond⟩

theorem createAccount_unfunded (h : Prepared server book payer (name :: names))
    (hdrops : drops ≠ 0) (hfunds : server.current.funds payer < drops.toNat) (defaultDivvy : Bool)
    (scene : Scene (Bench ε) (Fixture Link)) (reporter : Reporter) :
    ∃ reporter' later, createAccount payer (.native drops) defaultDivvy name
        (linkedTo scene reporter server book) =
          (.error ⟨[s!"Could not fund [{name}]"],
              .plain ("Payment failed with " ++ (server.current.unpaid payer).code)⟩,
            linkedTo scene reporter' later (book.insert name server.keys.draw.1)) ∧
      later.validated = server.validated := by
  let payment := Transaction.payment payer server.keys.draw.1.address (.native drops) false
  have hopen : server.propose.closed = false := h.isOpen
  have hknows : KnowsSecret _ server.propose payment.account := h.knows_payer
  have hresult : (server.current.apply payment).1 = server.current.unpaid payer :=
    Ledger.payment_unfunded hdrops hfunds
  have hfails : (server.propose.current.apply payment).1 ≠ .success := fun hsuccess =>
    Ledger.unpaid_ne_success server.current payer (hresult.symm.trans hsuccess)
  obtain ⟨reporter₁, hkeys⟩ := createAccount_linkedTo h.isOpen payer (.native drops) defaultDivvy
    name scene reporter book
  obtain ⟨reporter₂, hpay⟩ := submitTransaction_error hopen hknows hfails scene reporter₁
  have hfailure : notSucceeded payment (server.propose.current.apply payment).1 =
      .plain ("Payment failed with " ++ (server.current.unpaid payer).code) :=
    congrArg (fun r : EngineResult => Failure.plain ("Payment failed with " ++ r.code)) hresult
  rw [hfailure] at hpay
  replace hpay := inContext_error hpay s!"Could not fund [{name}]"
  exact ⟨reporter₂, server.propose.take payment, hkeys.trans (bind_error hpay _), rfl⟩

/-! ### All rounds -/

theorem Prepared.of_append {rest : List String} (h : Prepared server book payer (names ++ rest)) :
    Prepared server book payer names := by
  have hnext : server.keys.next (names ++ rest).length =
      server.keys.next names.length ++ (server.keys.rest names.length).next rest.length := by
    rw [List.length_append, KeySource.next_add]
  have hdistinct := h.distinct
  have haccounts := h.accounts
  have hsecrets := h.secrets
  have hunnamed := h.unnamed
  rw [hnext, List.map_append] at hdistinct
  rw [hnext, List.forall_mem_append] at haccounts hsecrets hunnamed
  exact ⟨h.isOpen, h.knows, fun name hname => h.kept name (List.mem_append_left _ hname),
    hdistinct.of_append_left, haccounts.1, hsecrets.1, hunnamed.1⟩

theorem createAll_funded {rest : List String} (h : Prepared server book payer (names ++ rest))
    (hdrops : drops ≠ 0) (hfunds : names.length * drops.toNat ≤ server.current.funds payer)
    (defaultDivvy : Bool) (scene : Scene (Bench ε) (Fixture Link)) (reporter : Reporter) :
    ∃ reporter' later, names.forM (createAccount payer (.native drops) defaultDivvy)
        (linkedTo scene reporter server book) = (.ok (), linkedTo scene reporter' later
          (book.insertAll (names.zip (server.keys.next names.length)))) ∧
      (names = [] → later = server) ∧
      (names ≠ [] ∨ server.validated = server.current → later.validated = later.current) ∧
      later.keys = server.keys.rest names.length ∧
      Created server.current later.current payer drops defaultDivvy
        (server.keys.next names.length) ∧
      Prepared later (book.insertAll (names.zip (server.keys.next names.length))) payer rest := by
  -- what a round needs is there after each of them, and what the rounds have created adds up
  induction names generalizing server book reporter with
  | nil =>
    exact ⟨reporter, server, rfl, fun _ => rfl, fun h => h.resolve_left (fun hne => hne rfl), rfl,
      .nil .., h⟩
  | cons name more ih =>
    have hone : drops.toNat ≤ server.current.funds payer := by
      rw [List.length_cons, Nat.succ_mul] at hfunds
      omega
    obtain ⟨first, middle, hran, hvalidated, hkeys, hcreated, hprepared⟩ :=
      createAccount_funded h hdrops hone defaultDivvy scene reporter
    have hleft : more.length * drops.toNat ≤ middle.current.funds payer := by
      have hpaid := hcreated.funds
      rw [List.length_cons, Nat.succ_mul] at hfunds
      rw [List.length_singleton, one_mul] at hpaid
      omega
    obtain ⟨reporter', later, hrest, -, hlast, hdrawn, hothers, hlater⟩ := ih hprepared hleft first
    rw [hkeys] at hrest hdrawn hothers hlater
    have hall := h.of_append
    exact ⟨reporter', later, (bind_ok hran _).trans hrest, nofun, fun _ => hlast (.inr hvalidated),
      hdrawn, hcreated.cons hothers hall.distinct fun _ hknown => hall.ne_payer hknown, hlater⟩

theorem insertAll_concat (book : AccountBook) (done : List String) (name : String)
    (keys : KeySource) :
    (book.insertAll (done.zip (keys.next done.length))).insert name
        (keys.rest done.length).draw.1 =
      book.insertAll ((done ++ [name]).zip (keys.next (done ++ [name]).length)) := by
  have hlength : done.length = (keys.next done.length).length := (keys.length_next _).symm
  rw [List.length_append, keys.next_add, List.zip_append hlength]
  simp only [AccountBook.insertAll, List.foldl_append]
  rfl

theorem createAccounts_eq (hlink : scene.value.remote = some (.memory server))
    {funder text : String} (hpayer : scene.value.book.address funder = .ok payer) {amount : Amount}
    (hamount : scene.value.book.amount text = .ok amount) (names : List String)
    (defaultDivvy : Bool) :
    createAccounts funder text names defaultDivvy scene =
      names.forM (createAccount payer amount defaultDivvy)
        (linkedTo scene scene.stage.reporter server scene.value.book) := by
  rw [linkedTo_self hlink, createAccounts, ← linkedTo_self hlink,
    bind_ok (address_linkedTo hpayer ..), bind_ok (amount_linkedTo hamount ..)]

/-- What `createAccounts` does over a connection to a server in memory, from any ledger and any book,
as long as nothing of the next keys is in use. If the payer has the drops for all accounts, all are
created. If it has them for those of `done` only, these are created and validated, and the next name
is the one whose account cannot be funded. -/
theorem createAccounts_law (hlink : scene.value.remote = some (.memory server))
    {funder text : String} (hpayer : scene.value.book.address funder = .ok payer)
    (hamount : scene.value.book.amount text = .ok (.native drops)) (hdrops : drops ≠ 0)
    (hnames : names.Nodup) (hprepared : Prepared server scene.value.book payer names)
    (defaultDivvy : Bool) :
    let keys := server.keys
    let funds := server.current.funds payer
    (names ≠ [] → names.length * drops.toNat ≤ funds →
      ∃ reporter after book, createAccounts funder text names defaultDivvy scene =
          (.ok (), linkedTo scene reporter after book) ∧
        after.validated = after.current ∧ book.Resolves names (keys.next names.length) ∧
        Created server.current after.current payer drops defaultDivvy (keys.next names.length)) ∧
    ∀ done name rest, names = done ++ name :: rest →
      done.length * drops.toNat ≤ funds → funds < (done.length + 1) * drops.toNat →
      ∃ reporter after book, createAccounts funder text names defaultDivvy scene =
          (.error ⟨[s!"Could not fund [{name}]"],
              .plain ("Payment failed with " ++ (server.current.unpaid payer).code)⟩,
            linkedTo scene reporter after book) ∧
        book.Resolves (done ++ [name]) (keys.next (done ++ [name]).length) ∧
        (done = [] → after.validated = server.validated) ∧
        (done ≠ [] → Created server.current after.validated payer drops defaultDivvy
          (keys.next done.length)) := by
  intro keys funds
  have hstart := createAccounts_eq hlink hpayer hamount names defaultDivvy
  constructor
  · intro hne hfunds
    have hall : Prepared server scene.value.book payer (names ++ []) := by
      rwa [List.append_nil]
    obtain ⟨reporter, after, hran, -, hvalidated, -, hcreated, -⟩ :=
      createAll_funded hall hdrops hfunds defaultDivvy scene scene.stage.reporter
    exact ⟨reporter, after, _, hstart.trans hran, hvalidated (.inl hne),
      AccountBook.resolves_insertAll (keys.length_next _).symm hnames, hcreated⟩
  · rintro done name rest rfl hdone hshort
    obtain ⟨first, middle, hran, hsame, hvalidated, hkeys, hcreated, hready⟩ :=
      createAll_funded hprepared hdrops hdone defaultDivvy scene scene.stage.reporter
    have hfunds : middle.current.funds payer < drops.toNat := by
      have hpaid := hcreated.funds
      rw [KeySource.length_next] at hpaid
      rw [Nat.succ_mul] at hshort
      omega
    have hunpaid : middle.current.unpaid payer = server.current.unpaid payer := by
      have hknown := congrArg Option.isSome hcreated.flags
      simp only [Option.isSome_map] at hknown
      rw [Ledger.unpaid, Ledger.unpaid, hknown]
    obtain ⟨reporter, after, hfails, hkept⟩ :=
      createAccount_unfunded hready hdrops hfunds defaultDivvy scene first
    rw [hkeys, hunpaid, insertAll_concat] at hfails
    have hnodup : (done ++ [name]).Nodup :=
      hnames.sublist (List.Sublist.append_left (List.singleton_sublist.2 List.mem_cons_self) done)
    refine ⟨reporter, after,
      scene.value.book.insertAll ((done ++ [name]).zip (keys.next (done ++ [name]).length)), ?_,
      AccountBook.resolves_insertAll (keys.length_next _).symm hnodup, fun hnil => ?_,
      fun hne => ?_⟩
    · have happend : (done ++ name :: rest).forM
          (createAccount payer (.native drops) defaultDivvy : String → FixtureM Link ε Unit) =
            (do done.forM _; (name :: rest).forM _) := List.forM_append
      rw [hstart, happend, bind_ok hran]
      exact bind_error hfails _
    · rw [hkept, hsame hnil]
    · rw [hkept, hvalidated (.inl hne)]
      exact hcreated

/-- The root account pays ten thousand XDV to each of two accounts; sixty thousand million it has only
once. -/
theorem seeded_accounts :
    let server := Server.start (.seeded 1)
    let book := AccountBook.empty.insert rootAccount rootKeys
    let scene := bareScene server book
    let names := ["alice", "bob"]
    Prepared server book genesisAddress names ∧
      (∃ reporter after book, createAccounts "root" "10000.0" names true scene =
          (.ok (), linkedTo scene reporter after book) ∧
        after.validated = after.current ∧
        after.current.funds genesisAddress + 20000000000 = 100000000000000000) ∧
      ∃ reporter after book, createAccounts "root" "60000000000.0" names true scene =
          (.error ⟨["Could not fund [bob]"], .plain "Payment failed with tecUNFUNDED_PAYMENT"⟩,
            linkedTo scene reporter after book) ∧
        Created server.current after.validated genesisAddress 60000000000000000 true
          (server.keys.next 1) := by
  intro server book scene names
  have hknows : KnowsSecret book server genesisAddress :=
    ⟨genesisPassphrase, by decide +kernel, by decide +kernel⟩
  have hkept : ∀ name ∈ names, ∀ pair, book.get? name = some pair →
      pair.address ≠ genesisAddress := by
    intro name hname pair hpair
    have hnone : ∀ name ∈ names, book.get? name = none := by decide +kernel
    rw [hnone name hname] at hpair
    cases hpair
  have hprepared : Prepared server book genesisAddress names :=
    ⟨rfl, hknows, hkept, by decide +kernel, by decide +kernel, by decide +kernel,
      by decide +kernel⟩
  have hlink : scene.value.remote = some (.memory server) := rfl
  have hroot : scene.value.book.address "root" = .ok genesisAddress := by decide +kernel
  have hfunds : server.current.funds genesisAddress = 100000000000000000 := by decide +kernel
  refine ⟨hprepared, ?_, ?_⟩
  · have hamount : scene.value.book.amount "10000.0" = .ok (.native 10000000000) := by
      decide +kernel
    have hcost : (server.keys.next names.length).length * (10000000000 : UInt64).toNat =
        20000000000 := by decide +kernel
    obtain ⟨reporter, after, later, hran, hvalidated, -, hcreated⟩ :=
      (createAccounts_law hlink hroot hamount (by decide) (by decide) hprepared true).1 (by decide)
        (by rw [hfunds]; decide +kernel)
    have hpaid := hcreated.funds
    rw [hcost, hfunds] at hpaid
    exact ⟨reporter, after, later, hran, hvalidated, hpaid⟩
  · have hamount : scene.value.book.amount "60000000000.0" = .ok (.native 60000000000000000) := by
      decide +kernel
    obtain ⟨reporter, after, later, hran, -, -, hcreated⟩ := (createAccounts_law hlink hroot hamount
      (by decide) (by decide) hprepared true).2 ["alice"] "bob" [] rfl
      (by rw [hfunds]; decide +kernel) (by rw [hfunds]; decide +kernel)
    have hcode : (server.current.unpaid genesisAddress).code = "tecUNFUNDED_PAYMENT" := by
      decide +kernel
    rw [hcode] at hran
    exact ⟨reporter, after, later, hran, hcreated (by decide)⟩

end Fixture
end LedgerBench

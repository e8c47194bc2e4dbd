import LedgerBench.Proofs.Ledger.LineView

/-! The part of a ledger that is left when balances of the native currency and sequence numbers are
taken away: the flags of its accounts and its lines. Transactions that succeed change a sketch at one
place. -/

namespace LedgerBench

namespace Ledger

/-! ### Sketches -/

structure Sketch where
  flags : String → Option RootFlags
  lines : LineKey → Option Line

def sketch (ledger : Ledger) : Sketch where
  flags address := (ledger.account? address).map Account.flags
  lines := ledger.lines.get?

theorem linesOf_between {ledger : Ledger} {a b currency : String} {line : Line} {peer : Option String}
    (hne : a ≠ b) (hpeer : ∀ p ∈ peer, p = b)
    (hline : ledger.sketch.lines (.between a b currency) = some line)
    (honly : ∀ key line', ledger.sketch.lines key = some line' → Touches a peer key →
      key = .between a b currency) :
    ledger.linesOf a peer = [⟨b, currency, line.balanceFor (.between a b currency) a,
      line.side (.between a b currency) a, line.side (.between a b currency) b⟩] := by
  have htouches : Touches a peer (.between a b currency) :=
    (touches_between_iff hne).2 (.inl ⟨rfl, hpeer⟩)
  rw [linesOf_eq_singleton hline htouches honly, viewFrom_between hne]

def funds (ledger : Ledger) (address : String) : Nat :=
  ((ledger.account? address).map fun account => account.balance.toNat).getD 0

theorem funds_of_account? {ledger : Ledger} {address : String} {root : Account}
    (h : ledger.account? address = some root) : ledger.funds address = root.balance.toNat := by
  rw [funds, h]
  rfl

theorem account?_of_flags {ledger : Ledger} {address : String} {flags : RootFlags}
    (h : ledger.sketch.flags address = some flags) :
    ∃ root, ledger.account? address = some root ∧ root.flags = flags :=
  Option.map_eq_some_iff.1 h

theorem sketch_eq_of {ledger later : Ledger} {flags : String → Option RootFlags}
    (hflags : ∀ address, (later.account? address).map Account.flags = flags address)
    (hlines : later.lines = ledger.lines) :
    later.sketch = { ledger.sketch with flags := flags } := by
  simp only [sketch, hflags, hlines]

theorem account?_update (accounts : Register String Account) (lines : Register LineKey Line)
    (address other : String) (f : Account → Account) :
    (Ledger.mk (accounts.update address f) lines).account? other =
      if other = address then (accounts.get? other).map f else accounts.get? other := by
  by_cases h : other = address
  · subst h
    rw [if_pos rfl]
    exact Register.get?_update_self ..
  · rw [if_neg h]
    exact Register.get?_update_of_ne _ _ h

theorem account?_bumpSequence (ledger : Ledger) (address other : String) :
    (ledger.bumpSequence address).account? other = (ledger.account? other).map fun root =>
      if other = address then { root with sequence := root.sequence + 1 } else root := by
  rw [bumpSequence, account?_update]
  by_cases h : other = address
  · simp only [h, if_true]
    rfl
  · simp only [h, if_false]
    exact Option.map_id'.symm

theorem sketch_bumpSequence (ledger : Ledger) (address : String) :
    (ledger.bumpSequence address).sketch = ledger.sketch := by
  have hflags : ∀ other, ((ledger.bumpSequence address).account? other).map Account.flags =
      (ledger.account? other).map Account.flags := by
    intro other
    rw [bumpSequence, account?_update]
    split
    · rw [Option.map_map]
      rfl
    · rfl
  simp only [sketch, hflags]
  rfl

theorem funds_bumpSequence (ledger : Ledger) (address other : String) :
    (ledger.bumpSequence address).funds other = ledger.funds other := by
  unfold funds
  rw [bumpSequence, account?_update]
  split
  · rw [Option.map_map]
    rfl
  · rfl

/-- A transaction of a known account has its effect and then counts. -/
theorem apply_of_applyKind {ledger after : Ledger} (tx : Transaction) {flags : RootFlags}
    (hknown : ledger.sketch.flags tx.account = some flags)
    (h : ledger.applyKind tx = (.success, after)) :
    ledger.apply tx = (.success, after.bumpSequence tx.account) := by
  obtain ⟨root, hroot, -⟩ := account?_of_flags hknown
  have hcontains : ledger.accounts.contains tx.account = true := by
    rw [Register.contains, show ledger.accounts.get? tx.account = some root from hroot]
    rfl
  simp only [apply, hcontains, if_true, h]
  rfl

/-- A transaction that changes lines only leaves of its account a new sequence number. -/
theorem apply_of_lines {ledger : Ledger} (tx : Transaction) {root : Account}
    {lines : Register LineKey Line}
    (h : ledger.account? tx.account = some root)
    (hkind : ledger.applyKind tx = (.success, { ledger with lines })) :
    (ledger.apply tx).1 = .success ∧ (ledger.apply tx).2.lines = lines ∧
      ∀ address, (ledger.apply tx).2.account? address = (ledger.account? address).map fun root =>
        if address = tx.account then { root with sequence := root.sequence + 1 } else root := by
  have hknown : ledger.sketch.flags tx.account = some root.flags :=
    congrArg (Option.map Account.flags) h
  rw [apply_of_applyKind tx hknown hkind]
  exact ⟨rfl, rfl, account?_bumpSequence _ tx.account⟩

/-! ### Transactions -/

section Transactions

variable {ledger : Ledger} {account : String} {flags : RootFlags}

/-- What is left to show of a transaction once its effect is known. -/
theorem of_applyKind (tx : Transaction) {after : Ledger}
    (hknown : ledger.sketch.flags tx.account = some flags)
    (h : ledger.applyKind tx = (.success, after)) :
    (ledger.apply tx).1 = .success ∧ (ledger.apply tx).2.sketch = after.sketch ∧
      (ledger.apply tx).2.funds = after.funds := by
  rw [apply_of_applyKind tx hknown h]
  exact ⟨rfl, sketch_bumpSequence .., funext fun _ => funds_bumpSequence ..⟩

theorem applyKind_accountSet {word : UInt32} {set : Option AccountFlag}
    (hauth : (flagsToSet word set).contains .requireAuth = true → ledger.ownerCount account = 0)
    (clear : Option AccountFlag) :
    ledger.applyKind (.accountSet account word set clear) = (.success, { ledger with
      accounts := ledger.accounts.update account fun root =>
        { root with flags :=
          (root.flags.union (flagsToSet word set)).without (flagsToClear word clear) } }) := by
  have hfree : ((flagsToSet word set).contains .requireAuth &&
      decide (ledger.ownerCount account > 0)) = false := by
    cases hset : (flagsToSet word set).contains .requireAuth with
    | false => rfl
    | true => simp [hauth hset]
  simp only [applyKind, applyAccountSet, hfree]
  rfl

theorem apply_accountSet_owners (hknown : ledger.sketch.flags account = some flags)
    (howner : 0 < ledger.ownerCount account) {word : UInt32} {set : Option AccountFlag}
    (hauth : (flagsToSet word set).contains .requireAuth = true) (clear : Option AccountFlag) :
    ledger.apply (.accountSet account word set clear) =
      (.owners, ledger.bumpSequence account) := by
  obtain ⟨root, hroot, -⟩ := account?_of_flags hknown
  have hcontains : ledger.accounts.contains account = true := by
    rw [Register.contains, show ledger.accounts.get? account = some root from hroot]
    rfl
  have hkind : ledger.applyKind (.accountSet account word set clear) = (.owners, ledger) := by
    simp only [applyKind, applyAccountSet, hauth, howner, decide_true, Bool.and_true, if_true]
  simp only [apply, Transaction.account, hcontains, if_true, hkind]
  rfl

/-- Two ledgers that differ in the flags and the next sequence number of one account at most. -/
def SameButFlags (ledger later : Ledger) (a : String) (flags : RootFlags) : Prop :=
  later.lines = ledger.lines ∧
    ∀ address, later.account? address = (ledger.account? address).map fun root =>
      if address = a then { root with flags, sequence := root.sequence + 1 } else root

theorem SameButFlags.account? {later : Ledger} {root : Account}
    (h : ledger.SameButFlags later account flags) (ha : ledger.account? account = some root) :
    later.account? account = some { root with flags, sequence := root.sequence + 1 } := by
  rw [h.2, ha, Option.map_some, if_pos rfl]

theorem SameButFlags.account?_of_ne {later : Ledger} {other : String}
    (h : ledger.SameButFlags later account flags) (hne : other ≠ account) :
    later.account? other = ledger.account? other := by
  rw [h.2]
  simp only [if_neg hne]
  exact Option.map_id'

theorem SameButFlags.sketch_eq {later : Ledger} {root : Account}
    (h : ledger.SameButFlags later account flags) (ha : ledger.account? account = some root) :
    later.sketch = { ledger.sketch with
      flags := Function.update ledger.sketch.flags account (some flags) } := by
  refine sketch_eq_of (fun other => ?_) h.1
  by_cases hother : other = account
  · rw [hother, Function.update_self, h.account? ha]
    rfl
  · rw [Function.update_of_ne hother, h.account?_of_ne hother]
    rfl

theorem SameButFlags.funds_eq {later : Ledger} (h : ledger.SameButFlags later account flags) :
    later.funds = ledger.funds := by
  funext other
  rw [funds, h.2, Option.map_map, funds]
  congr 2
  funext root
  by_cases hother : other = account
  · simp only [Function.comp_apply, if_pos hother]
  · simp only [Function.comp_apply, if_neg hother]

theorem apply_accountSet {root : Account} (ha : ledger.account? account = some root)
    {word : UInt32} {set : Option AccountFlag}
    (hauth : (flagsToSet word set).contains .requireAuth = true → ledger.ownerCount account = 0)
    (clear : Option AccountFlag) :
    let out := ledger.apply (.accountSet account word set clear)
    out.1 = .success ∧ ledger.SameButFlags out.2 account
      ((root.flags.union (flagsToSet word set)).without (flagsToClear word clear)) := by
  intro out
  have hknown : ledger.sketch.flags account = some root.flags :=
    congrArg (Option.map Account.flags) ha
  have hout : out = _ := apply_of_applyKind (.accountSet account word set clear) hknown
    (applyKind_accountSet hauth clear)
  rw [hout]
  refine ⟨rfl, rfl, fun address => ?_⟩
  rw [account?_bumpSequence, account?_update]
  by_cases haddress : address = account
  · subst haddress
    have hget : ledger.accounts.get? address = some root := ha
    simp [Transaction.account, ha, hget]
  · simp only [haddress, if_false, Transaction.account]
    rfl

theorem accountSet_defaultDivvy {root : Account} (ha : ledger.account? account = some root) :
    let out := ledger.apply (.accountSet account 0 (some .defaultDivvy) none)
    out.1 = .success ∧ ledger.SameButFlags out.2 account (root.flags.union .defaultDivvy) := by
  have hset : flagsToSet 0 (some .defaultDivvy) = .defaultDivvy := by decide
  have hfree : (flagsToSet 0 (some .defaultDivvy)).contains .requireAuth = true →
      ledger.ownerCount account = 0 := by
    have hnot : (flagsToSet 0 (some .defaultDivvy)).contains .requireAuth = false := by decide
    rw [hnot]
    exact nofun
  have hclear : ∀ flags : RootFlags, flags.without (flagsToClear 0 none) = flags := by
    intro flags
    have hnone : flagsToClear 0 none = .none := by decide
    rw [hnone]
    exact congrArg RootFlags.mk (by simp [RootFlags.none])
  have hdone := apply_accountSet ha hfree none
  rwa [hset, hclear] at hdone

theorem accountSet_sketch (hknown : ledger.sketch.flags account = some flags) (word : UInt32)
    (set clear : Option AccountFlag)
    (hauth : (flagsToSet word set).contains .requireAuth = true → ledger.ownerCount account = 0) :
    (ledger.apply (.accountSet account word set clear)).1 = .success ∧
      (ledger.apply (.accountSet account word set clear)).2.sketch =
        { ledger.sketch with
          flags := Function.update ledger.sketch.flags account
            (some ((flags.union (flagsToSet word set)).without (flagsToClear word clear))) } ∧
      (ledger.apply (.accountSet account word set clear)).2.funds = ledger.funds := by
  obtain ⟨root, ha, rfl⟩ := account?_of_flags hknown
  obtain ⟨hsuccess, hsame⟩ := apply_accountSet ha hauth clear
  exact ⟨hsuccess, hsame.sketch_eq ha, hsame.funds_eq⟩

theorem accountSet_owners (hknown : ledger.sketch.flags account = some flags)
    (howner : 0 < ledger.ownerCount account) {word : UInt32} {set : Option AccountFlag}
    (hauth : (flagsToSet word set).contains .requireAuth = true) (clear : Option AccountFlag) :
    (ledger.apply (.accountSet account word set clear)).1 = .owners ∧
      (ledger.apply (.accountSet account word set clear)).2.sketch = ledger.sketch := by
  rw [apply_accountSet_owners hknown howner hauth clear]
  exact ⟨rfl, sketch_bumpSequence ..⟩

theorem applyKind_payment_new {destination : String} {drops : UInt64} {payer : Account}
    (hpayer : ledger.account? account = some payer) (hnew : ledger.account? destination = none)
    (hdrops : drops ≠ 0) (hle : drops ≤ payer.balance) (buildPath : Bool) :
    ledger.applyKind (.payment account destination (.native drops) buildPath) =
      (.success, { ledger with
        accounts := (ledger.accounts.insert account
          { payer with balance := payer.balance - drops }).insert destination
            ⟨drops, .none, 1⟩ }) := by
  have hne : destination ≠ account := by
    rintro rfl
    rw [hpayer] at hnew
    cases hnew
  have hget : ledger.accounts.get? destination = none := hnew
  have hmake : credit (debit ledger.accounts account payer drops) destination drops =
      (ledger.accounts.insert account { payer with balance := payer.balance - drops }).insert
        destination ⟨drops, .none, 1⟩ := by
    rw [credit, payee, debit, Register.get?_insert_of_ne _ _ hne, hget, Option.getD_none,
      UInt64.zero_add]
  simp only [applyKind, applyPayment, payNative, if_neg hdrops, hpayer,
    if_neg (UInt64.not_lt.2 hle), hmake]

/-- A payment moves the drops to an account that is new; no other account changes. -/
theorem payment_new {destination : String} {drops : UInt64} {payer : Account}
    (hpayer : ledger.account? account = some payer) (hnew : ledger.account? destination = none)
    (hdrops : drops ≠ 0) (hfunds : drops.toNat ≤ ledger.funds account) (buildPath : Bool) :
    let out := ledger.apply (.payment account destination (.native drops) buildPath)
    out.1 = .success ∧ out.2.lines = ledger.lines ∧
      out.2.account? account =
        some { payer with balance := payer.balance - drops, sequence := payer.sequence + 1 } ∧
      out.2.account? destination = some ⟨drops, .none, 1⟩ ∧
      ∀ other, other ≠ account → other ≠ destination →
        out.2.account? other = ledger.account? other := by
  intro out
  have hne : account ≠ destination := by
    rintro rfl
    rw [hpayer] at hnew
    cases hnew
  have hle : drops ≤ payer.balance := by
    rwa [UInt64.le_iff_toNat_le, ← funds_of_account? hpayer]
  have hknown : ledger.sketch.flags account = some payer.flags :=
    congrArg (Option.map Account.flags) hpayer
  have hout : out = _ :=
    apply_of_applyKind (.payment account destination (.native drops) buildPath) hknown
      (applyKind_payment_new hpayer hnew hdrops hle buildPath)
  rw [hout]
  refine ⟨rfl, rfl, ?_, ?_, fun other hsource hother => ?_⟩
  · rw [account?_bumpSequence, account?, Register.get?_insert_of_ne _ _ hne,
      Register.get?_insert_self, Option.map_some]
    exact congrArg some (if_pos rfl)
  · rw [account?_bumpSequence, account?, Register.get?_insert_self, Option.map_some]
    exact congrArg some (if_neg hne.symm)
  · rw [account?_bumpSequence, account?, Register.get?_insert_of_ne _ _ hother,
      Register.get?_insert_of_ne _ _ hsource]
    show Option.map (fun root => if other = account then _ else root) _ = _
    simp only [if_neg hsource]
    exact Option.map_id'

theorem payment_sketch {destination : String} {drops : UInt64} {buildPath : Bool}
    (hknown : ledger.sketch.flags account = some flags)
    (hnew : ledger.sketch.flags destination = none) (hdrops : drops ≠ 0)
    (hfunds : drops.toNat ≤ ledger.funds account) :
    (ledger.apply (.payment account destination (.native drops) buildPath)).1 = .success ∧
      (ledger.apply (.payment account destination (.native drops) buildPath)).2.sketch =
        { ledger.sketch with
          flags := Function.update ledger.sketch.flags destination (some .none) } ∧
      (ledger.apply (.payment account destination (.native drops) buildPath)).2.funds account =
        ledger.funds account - drops.toNat := by
  obtain ⟨payer, hpayer, rfl⟩ := account?_of_flags hknown
  obtain ⟨hsuccess, hlines, hsource, hmade, hothers⟩ :=
    payment_new hpayer (Option.map_eq_none_iff.1 hnew) hdrops hfunds buildPath
  refine ⟨hsuccess, ?_, ?_⟩
  · refine sketch_eq_of (fun other => ?_) hlines
    by_cases hother : other = destination
    · rw [hother, Function.update_self, hmade]
      rfl
    · rw [Function.update_of_ne hother]
      by_cases hpaying : other = account
      · rw [hpaying, hsource, hknown]
        rfl
      · rw [hothers other hpaying hother]
        rfl
  · rw [funds_of_account? hpayer] at hfunds ⊢
    rw [funds_of_account? hsource]
    exact UInt64.toNat_sub_of_le _ _ (UInt64.le_iff_toNat_le.2 hfunds)

theorem applyKind_trustSet_new {currency issuer : String} {peer : Account}
    (hpeer : ledger.account? issuer = some peer)
    (hline : ledger.line? account issuer currency = none) (value : Float) (word : UInt32) :
    ledger.applyKind (.trustSet account (.issued value currency issuer) word) =
      (.success, { ledger with
        lines := ledger.lines.insert (.between account issuer currency)
          (newLine (.between account issuer currency) account issuer value
            (word &&& TrustSetFlag.setNoDivvy.bits != 0)
            (peer.flags.contains .defaultDivvy)) }) := by
  replace hline : ledger.lines.get? (.between account issuer currency) = none := hline
  simp only [applyKind, applyTrustSet, hpeer, Register.contains, hline]
  rfl

theorem applyKind_trustSet_line {currency issuer : String} {peer : Account} {line : Line}
    (hpeer : ledger.account? issuer = some peer)
    (hline : ledger.line? account issuer currency = some line) (value : Float) (word : UInt32) :
    ledger.applyKind (.trustSet account (.issued value currency issuer) word) =
      (.success, { ledger with
        lines := ledger.lines.update (.between account issuer currency)
          (adjustLine (.between account issuer currency) account value
            (word &&& TrustSetFlag.setNoDivvy.bits != 0)
            (word &&& TrustSetFlag.clearNoDivvy.bits != 0)) }) := by
  replace hline : ledger.lines.get? (.between account issuer currency) = some line := hline
  simp only [applyKind, applyTrustSet, hpeer, Register.contains, hline]
  rfl

theorem trustSet_sketch_new {currency issuer : String} {peerFlags : RootFlags}
    (hknown : ledger.sketch.flags account = some flags)
    (hissuer : ledger.sketch.flags issuer = some peerFlags)
    (hline : ledger.sketch.lines (.between account issuer currency) = none) (value : Float)
    (word : UInt32) :
    (ledger.apply (.trustSet account (.issued value currency issuer) word)).1 = .success ∧
      (ledger.apply (.trustSet account (.issued value currency issuer) word)).2.sketch =
        { ledger.sketch with
          lines := Function.update ledger.sketch.lines (.between account issuer currency)
            (some (newLine (.between account issuer currency) account issuer value
              (word &&& TrustSetFlag.setNoDivvy.bits != 0) (peerFlags.contains .defaultDivvy))) } := by
  obtain ⟨peer, hpeer, rfl⟩ := account?_of_flags hissuer
  obtain ⟨hsuccess, hsketch, -⟩ :=
    of_applyKind (.trustSet account (.issued value currency issuer) word) hknown
      (applyKind_trustSet_new hpeer hline value word)
  refine ⟨hsuccess, hsketch.trans (congrArg (Sketch.mk _) (funext fun key => ?_))⟩
  by_cases hkey : key = .between account issuer currency
  · subst hkey
    rw [Function.update_self, Register.get?_insert_self]
  · rw [Function.update_of_ne hkey, Register.get?_insert_of_ne _ _ hkey]
    rfl

theorem trustSet_sketch_line {currency issuer : String} {peerFlags : RootFlags} {line : Line}
    (hknown : ledger.sketch.flags account = some flags)
    (hissuer : ledger.sketch.flags issuer = some peerFlags)
    (hline : ledger.sketch.lines (.between account issuer currency) = some line) (value : Float)
    (word : UInt32) :
    (ledger.apply (.trustSet account (.issued value currency issuer) word)).1 = .success ∧
      (ledger.apply (.trustSet account (.issued value currency issuer) word)).2.sketch =
        { ledger.sketch with
          lines := Function.update ledger.sketch.lines (.between account issuer currency)
            (some (adjustLine (.between account issuer currency) account value
              (word &&& TrustSetFlag.setNoDivvy.bits != 0)
              (word &&& TrustSetFlag.clearNoDivvy.bits != 0) line)) } := by
  obtain ⟨peer, hpeer, rfl⟩ := account?_of_flags hissuer
  obtain ⟨hsuccess, hsketch, -⟩ :=
    of_applyKind (.trustSet account (.issued value currency issuer) word) hknown
      (applyKind_trustSet_line hpeer hline value word)
  replace hline : ledger.lines.get? (.between account issuer currency) = some line := hline
  refine ⟨hsuccess, hsketch.trans (congrArg (Sketch.mk _) (funext fun key => ?_))⟩
  by_cases hkey : key = .between account issuer currency
  · subst hkey
    rw [Function.update_self, Register.get?_update_self, hline]
    rfl
  · rw [Function.update_of_ne hkey, Register.get?_update_of_ne _ _ hkey]
    rfl

end Transactions

end Ledger
end LedgerBench

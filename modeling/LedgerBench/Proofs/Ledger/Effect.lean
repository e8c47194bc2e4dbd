import LedgerBench.Ledger.Apply
import LedgerBench.Proofs.Register

/-! What transactions do to a ledger. `Effect` lists every change that a transaction can make, apart
from the sequence number of its account, and when it makes it. A transaction that makes none of them
is refused, and then at most the sequence number changes. -/

namespace LedgerBench.Ledger

/-- The ledger after a transaction that succeeds, but for the sequence number. -/
inductive Effect (ledger : Ledger) : Transaction → Ledger → Prop where
  | settings {account : String} {flags : UInt32} {set clear : Option AccountFlag}
      (hauth : (flagsToSet flags set).contains .requireAuth = true →
        ledger.ownerCount account = 0) :
      Effect ledger (.accountSet account flags set clear)
        { ledger with
          accounts := ledger.accounts.update account fun root =>
            { root with
              flags := (root.flags.union (flagsToSet flags set)).without
                (flagsToClear flags clear) } }
  | adjusted {account currency issuer : String} {value : Float} {flags : UInt32} {peer : Account}
      {line : Line} (hpeer : ledger.account? issuer = some peer)
      (hline : ledger.line? account issuer currency = some line) :
      Effect ledger (.trustSet account (.issued value currency issuer) flags)
        { ledger with
          lines := ledger.lines.update (.between account issuer currency)
            (adjustLine (.between account issuer currency) account value
              (flags &&& TrustSetFlag.setNoDivvy.bits != 0)
              (flags &&& TrustSetFlag.clearNoDivvy.bits != 0)) }
  | opened {account currency issuer : String} {value : Float} {flags : UInt32} {peer : Account}
      (hpeer : ledger.account? issuer = some peer)
      (hline : ledger.line? account issuer currency = none) :
      Effect ledger (.trustSet account (.issued value currency issuer) flags)
        { ledger with
          lines := ledger.lines.insert (.between account issuer currency)
            (newLine (.between account issuer currency) account issuer value
              (flags &&& TrustSetFlag.setNoDivvy.bits != 0)
              (peer.flags.contains .defaultDivvy)) }
  | moved {source destination currency issuer : String} {value : Float} {buildPath : Bool}
      {path : List String}
      (hpath : ledger.paymentPath source destination currency value buildPath = some path) :
      Effect ledger (.payment source destination (.issued value currency issuer) buildPath)
        (ledger.moveAlong path currency value)
  | paid {source destination : String} {drops : UInt64} {buildPath : Bool} {payer : Account}
      (hdrops : drops ≠ 0) (hpayer : ledger.account? source = some payer)
      (hfunds : drops ≤ payer.balance) :
      Effect ledger (.payment source destination (.native drops) buildPath)
        { ledger with
          accounts := credit (debit ledger.accounts source payer drops) destination drops }

def refusals : List EngineResult :=
  [.owners, .badLimit, .noDestination, .badAmount, .unfundedPayment, .pathDry,
    .other "terNO_ACCOUNT"]

theorem applyAccountSet_cases (ledger : Ledger) (account : String) (flags : UInt32)
    (set clear : Option AccountFlag) :
    (∃ after, Effect ledger (.accountSet account flags set clear) after ∧
      ledger.applyAccountSet account flags set clear = (.success, after)) ∨
    ∃ r ∈ refusals, ledger.applyAccountSet account flags set clear = (r, ledger) := by
  by_cases h : (flagsToSet flags set).contains .requireAuth && ledger.ownerCount account > 0
  · exact .inr ⟨.owners, by simp [refusals], by simp only [applyAccountSet, h, if_true]⟩
  · refine .inl ⟨_, .settings fun ha => ?_, by simp only [applyAccountSet, h]; rfl⟩
    simpa [ha] using h

theorem applyTrustSet_cases (ledger : Ledger) (account : String) (limit : Amount) (flags : UInt32) :
    (∃ after, Effect ledger (.trustSet account limit flags) after ∧
      ledger.applyTrustSet account limit flags = (.success, after)) ∨
    ∃ r ∈ refusals, ledger.applyTrustSet account limit flags = (r, ledger) := by
  cases limit with
  | native drops => exact .inr ⟨.badLimit, by simp [refusals], rfl⟩
  | issued value currency issuer =>
    cases hpeer : ledger.account? issuer with
    | none => exact .inr ⟨.noDestination, by simp [refusals], by simp only [applyTrustSet, hpeer]⟩
    | some peer =>
      left
      cases hline : ledger.line? account issuer currency with
      | none =>
        have hc : ledger.lines.contains (.between account issuer currency) = false := by
          simpa [line?, Register.contains] using hline
        exact ⟨_, .opened hpeer hline, by simp only [applyTrustSet, hpeer, hc]; rfl⟩
      | some line =>
        have hc : ledger.lines.contains (.between account issuer currency) = true := by
          simp only [line?] at hline
          simp [Register.contains, hline]
        exact ⟨_, .adjusted hpeer hline, by simp only [applyTrustSet, hpeer, hc, if_true]⟩

theorem applyPayment_cases (ledger : Ledger) (source destination : String) (amount : Amount)
    (buildPath : Bool) :
    (∃ after, Effect ledger (.payment source destination amount buildPath) after ∧
      ledger.applyPayment source destination amount buildPath = (.success, after)) ∨
    ∃ r ∈ refusals, ledger.applyPayment source destination amount buildPath = (r, ledger) := by
  cases amount with
  | issued value currency issuer =>
    cases hpath : ledger.paymentPath source destination currency value buildPath with
    | none => exact .inr ⟨.pathDry, by simp [refusals], by simp only [applyPayment, hpath]⟩
    | some path => exact .inl ⟨_, .moved hpath, by simp only [applyPayment, hpath]⟩
  | native drops =>
    simp only [applyPayment, payNative]
    by_cases hdrops : drops = 0
    · exact .inr ⟨.badAmount, by simp [refusals], by simp only [hdrops, if_true]⟩
    · cases hpayer : ledger.account? source with
      | none =>
        exact .inr ⟨.other "terNO_ACCOUNT", by simp [refusals], by simp only [hdrops, if_false]⟩
      | some payer =>
        by_cases hfunds : payer.balance < drops
        · exact .inr ⟨.unfundedPayment, by simp [refusals],
            by simp only [hdrops, if_false, hfunds, if_true]⟩
        · exact .inl ⟨_, .paid hdrops hpayer (UInt64.not_lt.1 hfunds),
            by simp only [hdrops, if_false, hfunds]⟩

theorem applyKind_cases (ledger : Ledger) (tx : Transaction) :
    (∃ after, Effect ledger tx after ∧ ledger.applyKind tx = (.success, after)) ∨
    ∃ r ∈ refusals, ledger.applyKind tx = (r, ledger) := by
  cases tx with
  | accountSet account flags set clear => exact applyAccountSet_cases ..
  | trustSet account limit flags => exact applyTrustSet_cases ..
  | payment source destination amount buildPath => exact applyPayment_cases ..

theorem apply_fst {ledger : Ledger} (tx : Transaction) {root : Account}
    (h : ledger.account? tx.account = some root) :
    (ledger.apply tx).1 = (ledger.applyKind tx).1 := by
  have hcontains : ledger.accounts.contains tx.account = true := Option.isSome_of_eq_some h
  simp only [apply, hcontains, if_true]
  split <;> rfl

/-- A transaction either has one of the listed effects and takes a sequence number, or is refused
and takes one only if the refusal is a claimed one. -/
theorem apply_cases (ledger : Ledger) (tx : Transaction) :
    (∃ after, Effect ledger tx after ∧ (ledger.account? tx.account).isSome ∧
      ledger.apply tx = (.success, after.bumpSequence tx.account)) ∨
    ∃ r ∈ refusals,
      ledger.apply tx = (r, if r.isClaimed then ledger.bumpSequence tx.account else ledger) := by
  by_cases hc : ledger.accounts.contains tx.account
  · rcases ledger.applyKind_cases tx with ⟨after, he, hk⟩ | ⟨r, hr, hk⟩
    · refine .inl ⟨after, he, hc, ?_⟩
      simp only [apply, hc, if_true, hk]
      rfl
    · refine .inr ⟨r, hr, ?_⟩
      have hs : r.isSuccess = false := by
        simp only [refusals, List.mem_cons, List.not_mem_nil, or_false] at hr
        rcases hr with rfl | rfl | rfl | rfl | rfl | rfl | rfl <;> rfl
      simp only [apply, hc, if_true, hk, hs, Bool.false_or]
      split <;> rfl
  · refine .inr ⟨.other "terNO_ACCOUNT", by simp [refusals], ?_⟩
    have hn : (EngineResult.other "terNO_ACCOUNT").isClaimed = false := by decide
    simp only [apply, hc, hn]
    rfl

end LedgerBench.Ledger

import LedgerBench.Proofs.Integrity
import LedgerBench.Proofs.PaymentBalance

/-! Routes that pass no account twice. A line of an account to itself is opened with a limit of zero
for both of its sides, since these are one and the same, and takes nothing above zero then. Once the
account sets a limit on it a second time, the line takes value, and a route can start with it. -/

namespace LedgerBench

/-- The line of an account to itself, of which the low side alone is used, as long as it takes
nothing above zero. -/
structure Line.Shut (line : Line) : Prop where
  limit : line.low.limit = 0
  balance : ¬line.balance < 0

theorem Line.Shut.nonpos {line : Line} (h : line.Shut) {value : Float}
    (hvalue : line.low.limit - line.balance ≥ value) : value ≤ 0 := by
  rw [h.limit] at hvalue
  obtain ⟨a, b, ha, hb, hle⟩ := (Decimal.le_iff_extended value (0 - line.balance)).1 hvalue
  have hnot : ¬0 < b := fun hpos => Decimal.not_pos_zero_sub h.balance
    ((Decimal.lt_iff_extended 0 (0 - line.balance)).2 ⟨0, b, Decimal.extended?_zero, hb, hpos⟩)
  exact (Decimal.le_iff_extended value 0).2
    ⟨a, 0, ha, Decimal.extended?_zero, hle.trans (not_lt.1 hnot)⟩

theorem Line.Shut.transfer {line : Line} (h : line.Shut) {value : Float} (hvalue : value ≤ 0)
    {key : LineKey} {account : String} (hkey : key.low = account) :
    (line.transfer key account value).Shut := by
  rw [Line.transfer, if_pos hkey]
  exact ⟨h.limit, Decimal.not_sub_neg h.balance hvalue⟩

theorem LineKey.low_between_self (a currency : String) : (between a a currency).low = a := by
  rcases between_cases a a currency with hk | hk <;> rw [hk]

theorem LineKey.between_self_eq_iff {a b c x y : String} :
    between b c y = between a a x ↔ b = a ∧ c = a ∧ y = x := by
  constructor
  · intro h
    have hfirst := eq_or_eq_of_between_eq h
    have hsecond := eq_or_eq_of_between_eq ((between_comm c b y).trans h)
    rcases between_cases b c y with hk | hk <;> rcases between_cases a a x with hk' | hk' <;>
      (rw [hk, hk'] at h; cases h; simp)
  · rintro ⟨rfl, rfl, rfl⟩
    rfl

namespace Ledger

variable {ledger after : Ledger} {account currency : String} {n : Nat}

/-- Whether a transaction sets a limit of the account on a line to itself. -/
def limitsItself (account currency : String) : Transaction → Bool
  | .trustSet sender (.issued _ c issuer) _ =>
    sender == account && issuer == account && c == currency
  | _ => false

/-- How many of some transactions, one after the other, succeed in that. -/
def selfLimits (account currency : String) : Ledger → List Transaction → Nat
  | _, [] => 0
  | ledger, tx :: txs =>
    (if limitsItself account currency tx && (ledger.apply tx).1.isSuccess then 1 else 0) +
      selfLimits account currency (ledger.apply tx).2 txs

/-- What is known of the line of an account to itself after it has set `n` limits on it. -/
structure SelfLine (account currency : String) (n : Nat) (ledger : Ledger) : Prop where
  unopened : n = 0 → ledger.line? account account currency = none
  shut : n ≤ 1 → ∀ line, ledger.line? account account currency = some line → line.Shut

theorem shut_newLine (key : LineKey) (value : Float) (noDivvy ripples : Bool)
    (hkey : key.low = account) : (newLine key account account value noDivvy ripples).Shut := by
  have hzero : ¬(0 : Float) < 0 := by decide +kernel
  simp only [newLine, Line.setSide, hkey, if_true]
  exact ⟨rfl, hzero⟩

theorem capacity_self (line : Line)
    (hline : ledger.line? account account currency = some line) :
    ledger.capacity account account currency = line.low.limit - line.balance := by
  simp only [capacity, hline, Line.side, Line.balanceFor, LineKey.low_between_self, if_true]

theorem capacity_of_mem_findPaths {source destination currency : String} {value : Float}
    {path : List String} (h : path ∈ ledger.findPaths source destination currency value) :
    ∀ hop ∈ hops path, ledger.capacity hop.1 hop.2 currency ≥ value := by
  rcases mem_findPaths.1 h with ⟨hcapacity, rfl⟩ | ⟨view, -, ⟨-, -, hcarries⟩, rfl⟩
  · simpa [hops] using hcapacity
  · simp only [carriesThrough, Bool.and_eq_true, decide_eq_true_iff] at hcarries
    simpa [hops] using hcarries.1

theorem shut_foldl_moveHop {lines : Register LineKey Line} {hops : List (String × String)}
    {other : String} {value : Float}
    (hvalue : ∀ hop ∈ hops, LineKey.between hop.1 hop.2 other = .between account account currency →
      value ≤ 0)
    (hshut : ∀ line, lines.get? (.between account account currency) = some line → line.Shut) :
    ∀ line, (hops.foldl (moveHop other value) lines).get? (.between account account currency) =
      some line → line.Shut := by
  induction hops generalizing lines with
  | nil => exact hshut
  | cons hop rest ih =>
    obtain ⟨hfirst, hrest⟩ := List.forall_mem_cons.1 hvalue
    refine ih hrest fun line hline => ?_
    by_cases hkey : LineKey.between hop.1 hop.2 other = .between account account currency
    · have hlow : (LineKey.between hop.1 hop.2 other).low = hop.1 := by
        rw [hkey, LineKey.low_between_self, (LineKey.between_self_eq_iff.1 hkey).1]
      rw [moveHop, ← hkey, Register.get?_update_self, Option.map_eq_some_iff] at hline
      obtain ⟨old, hold, rfl⟩ := hline
      exact (hshut old (hkey ▸ hold)).transfer (hfirst hkey) hlow
    · rw [moveHop, Register.get?_update_of_ne _ _ (Ne.symm hkey)] at hline
      exact hshut line hline

theorem line?_moveAlong_eq_none {a b other : String} (path : List String) (value : Float)
    (h : ledger.line? a b currency = none) :
    (ledger.moveAlong path other value).line? a b currency = none := by
  have hkeys := keys_moveAlong ledger path other value
  rw [line?, ← Option.not_isSome_iff_eq_none, ← Register.mem_keys_iff, hkeys,
    Register.mem_keys_iff, Option.not_isSome_iff_eq_none]
  exact h

theorem SelfLine.of_line? (h : SelfLine account currency n ledger)
    (hline : after.line? account account currency = ledger.line? account account currency) :
    SelfLine account currency n after := by
  obtain ⟨hunopened, hshut⟩ := h
  rw [← hline] at hunopened hshut
  exact ⟨hunopened, hshut⟩

theorem SelfLine.moveAlong (h : SelfLine account currency n ledger)
    {source destination other : String} {value : Float} {path : List String}
    (hpath : path ∈ ledger.findPaths source destination other value) :
    SelfLine account currency n (ledger.moveAlong path other value) := by
  refine ⟨fun hn => line?_moveAlong_eq_none path value (h.unopened hn), fun hn => ?_⟩
  refine shut_foldl_moveHop (fun hop hhop hkey => ?_) (h.shut hn)
  have hcapacity := capacity_of_mem_findPaths hpath hop hhop
  obtain ⟨hsource, htarget, rfl⟩ := LineKey.between_self_eq_iff.1 hkey
  rw [hsource, htarget] at hcapacity
  cases hline : ledger.line? account account other with
  | none => simpa only [capacity, hline] using hcapacity
  | some line =>
    rw [capacity_self line hline] at hcapacity
    exact (h.shut hn line hline).nonpos hcapacity

theorem limitsItself_iff {tx : Transaction} : limitsItself account currency tx = true ↔
    ∃ value flags, tx = .trustSet account (.issued value currency account) flags := by
  constructor
  · intro h
    cases tx with
    | accountSet | payment => cases h
    | trustSet sender limit flags =>
      cases limit with
      | native drops => cases h
      | issued value other issuer =>
        simp only [limitsItself, Bool.and_eq_true, beq_iff_eq] at h
        obtain ⟨⟨rfl, rfl⟩, rfl⟩ := h
        exact ⟨value, flags, rfl⟩
  · rintro ⟨value, flags, rfl⟩
    simp [limitsItself]

/-- All other transactions leave the line of the account to itself unopened or shut. -/
theorem Effect.selfLine {tx : Transaction} (heffect : Effect ledger tx after)
    (h : SelfLine account currency n ledger) (hother : ¬limitsItself account currency tx = true) :
    SelfLine account currency n after := by
  have hkey {sender issuer other : String} {value : Float} {flags : UInt32}
      (htx : tx = .trustSet sender (.issued value other issuer) flags) :
      LineKey.between account account currency ≠ .between sender issuer other := by
    intro heq
    obtain ⟨rfl, rfl, rfl⟩ := LineKey.between_self_eq_iff.1 heq.symm
    exact hother (limitsItself_iff.2 ⟨value, flags, htx⟩)
  cases heffect with
  | settings _ => exact h.of_line? rfl
  | paid _ _ _ => exact h.of_line? rfl
  | moved hpath => exact h.moveAlong (paymentPath_mem hpath)
  | adjusted _ _ => exact h.of_line? (Register.get?_update_of_ne _ _ (hkey rfl))
  | opened _ _ => exact h.of_line? (Register.get?_insert_of_ne _ _ (hkey rfl))

/-- The first limit opens the line, and only a second one can make it take something. -/
theorem Effect.selfLine_succ {tx : Transaction} (heffect : Effect ledger tx after)
    (h : SelfLine account currency n ledger) (hown : limitsItself account currency tx = true) :
    SelfLine account currency (n + 1) after := by
  obtain ⟨value, flags, rfl⟩ := limitsItself_iff.1 hown
  refine ⟨fun hn => absurd hn (Nat.succ_ne_zero n), fun hn line hline => ?_⟩
  have hnone := h.unopened (Nat.le_zero.1 (Nat.le_of_succ_le_succ hn))
  cases heffect with
  | adjusted _ hold =>
    rw [hold] at hnone
    cases hnone
  | opened _ _ =>
    rw [line?, Register.get?_insert_self, Option.some.injEq] at hline
    rw [← hline]
    exact shut_newLine _ _ _ _ (LineKey.low_between_self account currency)

theorem selfLine_apply (h : SelfLine account currency n ledger) (tx : Transaction) :
    SelfLine account currency
      (n + if limitsItself account currency tx && (ledger.apply tx).1.isSuccess then 1 else 0)
      (ledger.apply tx).2 := by
  rcases ledger.apply_cases tx with ⟨after, heffect, -, ha⟩ | ⟨r, hr, ha⟩
  · have hsuccess : (EngineResult.success).isSuccess = true := rfl
    rw [ha, hsuccess, Bool.and_true]
    by_cases hown : limitsItself account currency tx = true
    · rw [if_pos hown]
      exact (heffect.selfLine_succ h hown).of_line? rfl
    · rw [if_neg hown]
      exact (heffect.selfLine h hown).of_line? rfl
  · have hrefused : r.isSuccess = false := by
      simp only [refusals, List.mem_cons, List.not_mem_nil, or_false] at hr
      rcases hr with rfl | rfl | rfl | rfl | rfl | rfl | rfl <;> rfl
    rw [ha, hrefused, Bool.and_false, if_neg Bool.false_ne_true, Nat.add_zero]
    split <;> exact h.of_line? rfl

theorem selfLine_applyAll (h : SelfLine account currency n ledger) (txs : List Transaction) :
    SelfLine account currency (n + selfLimits account currency ledger txs)
      (ledger.applyAll txs) := by
  induction txs generalizing ledger n with
  | nil => exact h
  | cons tx txs ih =>
    rw [selfLimits, ← Nat.add_assoc]
    exact ih (selfLine_apply h tx)

theorem selfLine_genesis (root : String) (drops : UInt64) :
    SelfLine account currency 0 (genesis root drops) :=
  ⟨fun _ => rfl, fun _ _ hline => nomatch hline⟩

/-- A route that passes no account twice: the direct line, or through one other account. -/
inductive Simple (source destination : String) : List String → Prop
  | direct (hne : source ≠ destination) : Simple source destination [source, destination]
  | through {through : String} (hne : source ≠ destination) (hsource : through ≠ source)
      (hdestination : through ≠ destination) :
      Simple source destination [source, through, destination]

theorem Simple.nodup {source destination : String} {path : List String}
    (h : Simple source destination path) : path.Nodup := by
  cases h with
  | direct hne => simpa using hne
  | through hne hsource hdestination => simpa using ⟨⟨hsource.symm, hne⟩, hdestination⟩

theorem simple_or_of_mem_findPaths {source destination : String} {value : Float}
    {path : List String} (hne : source ≠ destination) (hvalue : 0 < value)
    (hpath : path ∈ ledger.findPaths source destination currency value) :
    Simple source destination path ∨
      path = [source, source, destination] ∧ ledger.Takes source source currency value := by
  rcases eq_of_mem_findPaths hpath with rfl | ⟨through, rfl⟩
  · exact .inl (.direct hne)
  · obtain ⟨hdestination, hfirst, -, -⟩ := (through_mem_findPaths hvalue ..).1 hpath
    by_cases hsource : through = source
    · subst hsource
      exact .inr ⟨rfl, hfirst⟩
    · exact .inl (.through hne hsource hdestination)

theorem SelfLine.not_takes (h : SelfLine account currency n ledger) (hn : n ≤ 1) {value : Float}
    (hvalue : 0 < value) : ¬ledger.Takes account account currency value := by
  intro htakes
  have hcapacity := (capacity_ge_iff hvalue ..).2 htakes
  obtain ⟨line, hline, -⟩ := htakes
  rw [capacity_self line hline] at hcapacity
  exact Decimal.not_le_zero_of_pos hvalue ((h.shut hn line hline).nonpos hcapacity)

/-- Whatever transactions have led to a ledger, each route found for a value above zero is the
direct line or goes through one other account, and so passes no account twice, as long as its source
has not set a limit on a line to itself for a second time. Then one more may be found, which starts
with that line. -/
theorem findPaths_simple (root : String) (drops : UInt64) (txs : List Transaction)
    {source destination : String} (hne : source ≠ destination) (currency : String) {value : Float}
    (hvalue : 0 < value) :
    let ledger := (genesis root drops).applyAll txs
    let paths := ledger.findPaths source destination currency value
    (selfLimits source currency (genesis root drops) txs ≤ 1 →
      ∀ path ∈ paths, path.Nodup ∧ Simple source destination path) ∧
    ∀ path ∈ paths, path.Nodup ∧ Simple source destination path ∨
      path = [source, source, destination] ∧ ledger.Takes source source currency value := by
  intro ledger paths
  have hstart : SelfLine source currency 0 (genesis root drops) := selfLine_genesis root drops
  have hself := selfLine_applyAll hstart txs
  rw [Nat.zero_add] at hself
  have hpaths : ∀ path ∈ paths, path.Nodup ∧ Simple source destination path ∨
      path = [source, source, destination] ∧ ledger.Takes source source currency value := by
    intro path hpath
    rcases simple_or_of_mem_findPaths hne hvalue hpath with hsimple | hloop
    · exact .inl ⟨hsimple.nodup, hsimple⟩
    · exact .inr hloop
  refine ⟨fun honce path hpath => ?_, hpaths⟩
  exact (hpaths path hpath).resolve_right fun hloop => hself.not_takes honce hvalue hloop.2

/-- An account that has opened a line to itself, and what another one takes of it. -/
def selfLimited : List Transaction :=
  [.payment "rRoot" "rAlice" (.native 10) false, .accountSet "rRoot" 0 (some .defaultDivvy) none,
    .trustSet "rAlice" (.issued 100 "USD" "rRoot") 0,
    .trustSet "rRoot" (.issued 100 "USD" "rRoot") 0]

theorem selfLimited_simple :
    let ledger := (genesis "rRoot" 1000).applyAll selfLimited
    "rRoot" ≠ "rAlice" ∧ (0 : Float) < 50 ∧
      selfLimits "rRoot" "USD" (genesis "rRoot" 1000) selfLimited = 1 ∧
      ledger.line? "rRoot" "rRoot" "USD" ≠ none ∧
      ledger.findPaths "rRoot" "rAlice" "USD" 50 ≠ [] ∧
      ∀ path ∈ ledger.findPaths "rRoot" "rAlice" "USD" 50, path.Nodup := by
  intro ledger
  have hne : "rRoot" ≠ "rAlice" := by decide
  have hvalue : (0 : Float) < 50 := by decide +kernel
  have honce : selfLimits "rRoot" "USD" (genesis "rRoot" 1000) selfLimited = 1 := by
    decide +kernel
  have hsimple := (findPaths_simple "rRoot" 1000 selfLimited hne "USD" hvalue).1 honce.le
  exact ⟨hne, hvalue, honce, by decide +kernel, by decide +kernel,
    fun path hpath => (hsimple path hpath).1⟩

/-- The second limit makes the account the one between itself and the other. -/
theorem second_limit_loops :
    let txs := selfLimited ++ [.trustSet "rRoot" (.issued 100 "USD" "rRoot") 0]
    let ledger := (genesis "rRoot" 1000).applyAll txs
    "rRoot" ≠ "rAlice" ∧ (0 : Float) < 50 ∧
      ledger.findPaths "rRoot" "rAlice" "USD" 50 =
        [["rRoot", "rAlice"], ["rRoot", "rRoot", "rAlice"]] ∧
      ¬["rRoot", "rRoot", "rAlice"].Nodup := by
  refine ⟨by decide, ?_, ?_, by decide⟩ <;> decide +kernel

end Ledger
end LedgerBench

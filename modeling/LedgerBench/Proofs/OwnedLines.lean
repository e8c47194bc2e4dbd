import LedgerBench.Proofs.Authority
import LedgerBench.Proofs.Ledger.LineView
import LedgerBench.Proofs.Ledger.Sketch

/-! The lines that an account has to keep in the ledger, and what others can do to their number.
They can open a line to an account; its side of that line has no limit, and NoDivvy exactly if the
account has no DefaultDivvy. Such a side counts as its own although another account asked for the
line. -/

namespace LedgerBench.Ledger

variable {ledger : Ledger} {a : String}

/-! ### The number of lines -/

def owns (a : String) (entry : LineKey × Line) : Bool :=
  (entry.1.low == a || entry.1.high == a) && LineView.isOwned (viewFrom a entry.1 entry.2)

theorem ownerCount_eq (ledger : Ledger) (a : String) :
    ledger.ownerCount a = ledger.lines.entries.countP (owns a) := by
  rw [ownerCount, linesOf_none, List.countP_map, List.countP_filter]
  refine List.countP_congr fun entry _ => ?_
  rw [Function.comp_apply, Bool.and_comm]
  rfl

/-- Only the account's own side of a line counts. -/
theorem owns_congr {key : LineKey} {line line' : Line}
    (h : key.low = a ∨ key.high = a → line'.side key a = line.side key a) :
    owns a (key, line') = owns a (key, line) := by
  by_cases hends : key.low = a ∨ key.high = a
  · simp only [owns, viewFrom, LineView.isOwned, h hends]
  · have hnone : (key.low == a || key.high == a) = false := by simpa using hends
    simp only [owns, hnone, Bool.false_and]

theorem ownerCount_moveAlong (ledger : Ledger) (path : List String) (currency : String)
    (value : Float) (a : String) :
    (ledger.moveAlong path currency value).ownerCount a = ledger.ownerCount a := by
  rw [ownerCount_eq, ownerCount_eq, moveAlong]
  dsimp only
  generalize ledger.lines = lines
  induction hops path generalizing lines with
  | nil => rfl
  | cons hop rest ih =>
    refine (ih _).trans (Register.countP_update _ fun line _ => ?_)
    exact owns_congr fun _ => Line.side_transfer ..

/-! ### What others do -/

/-- Whether a transaction opens a line to an account that has no DefaultDivvy. -/
def imposes (ledger : Ledger) (a : String) : Transaction → Bool
  | .trustSet account (.issued _ currency issuer) _ =>
    issuer == a && (ledger.account? account).isSome &&
      (ledger.account? a).any (fun root => !root.flags.contains .defaultDivvy) &&
      (ledger.line? account a currency).isNone
  | _ => false

/-- How many of some transactions, one after the other, open such a line. -/
def imposed (a : String) : Ledger → List Transaction → Nat
  | _, [] => 0
  | ledger, tx :: txs =>
    (if ledger.imposes a tx then 1 else 0) + imposed a (ledger.apply tx).2 txs

theorem imposes_eq_owns {account currency issuer : String} {value : Float} {flags : UInt32}
    {peer : Account} (hsender : (ledger.account? account).isSome)
    (hpeer : ledger.account? issuer = some peer)
    (hline : ledger.line? account issuer currency = none) (hother : account ≠ a) :
    ledger.imposes a (.trustSet account (.issued value currency issuer) flags) =
      owns a (.between account issuer currency, newLine (.between account issuer currency) account
        issuer value (flags &&& TrustSetFlag.setNoDivvy.bits != 0)
        (peer.flags.contains .defaultDivvy)) := by
  by_cases hissuer : issuer = a
  · subst hissuer
    have hends : ((LineKey.between account issuer currency).low == issuer ||
        (LineKey.between account issuer currency).high == issuer) = true := by
      rcases LineKey.between_cases account issuer currency with hk | hk <;> simp [hk]
    have hzero : ((0 : Float) != 0) = false := by decide +kernel
    simp [imposes, owns, viewFrom, LineView.isOwned, hsender, hpeer, hline, hends,
      side_newLine_peer, hzero]
  · have hends : ((LineKey.between account issuer currency).low == a ||
        (LineKey.between account issuer currency).high == a) = false := by
      rw [Bool.eq_false_iff]
      intro hends
      rcases LineKey.eq_or_eq_of_ends (by simpa using hends) with rfl | rfl
      · exact hother rfl
      · exact hissuer rfl
    simp [imposes, owns, hends, hissuer]

theorem Effect.ownerCount_after {after : Ledger} {tx : Transaction} (h : Effect ledger tx after)
    (hsender : (ledger.account? tx.account).isSome) (hother : tx.account ≠ a) :
    after.ownerCount a = ledger.ownerCount a + if ledger.imposes a tx then 1 else 0 := by
  cases h with
  | settings _ => rfl
  | paid _ _ _ => rfl
  | moved _ => exact ownerCount_moveAlong ..
  | @adjusted account currency issuer value flags peer line _ hline =>
    have hnone : ledger.imposes a (.trustSet account (.issued value currency issuer) flags) =
        false := by
      by_cases hissuer : issuer = a
      · subst hissuer
        simp [imposes, hline]
      · simp [imposes, hissuer]
    rw [hnone, ownerCount_eq, ownerCount_eq]
    refine Register.countP_update _ fun old _ => owns_congr fun hends => ?_
    -- the side that is changed is that of the sender
    obtain rfl : a = issuer := (LineKey.eq_or_eq_of_ends hends).resolve_left (Ne.symm hother)
    exact Line.side_setSide_other _ (LineKey.joins_between hother currency) _
  | @opened account currency issuer value flags peer hpeer hline =>
    replace hsender : (ledger.account? account).isSome = true := hsender
    replace hother : account ≠ a := hother
    rw [imposes_eq_owns hsender hpeer hline hother, ownerCount_eq, ownerCount_eq]
    exact Register.countP_insert _ _ hline

theorem apply_fst_of_imposes {tx : Transaction} (h : ledger.imposes a tx = true) :
    (ledger.apply tx).1 = .success := by
  cases tx with
  | accountSet | payment => cases h
  | trustSet account limit flags =>
    cases limit with
    | native drops => cases h
    | issued value currency issuer =>
      simp only [imposes, Bool.and_eq_true, beq_iff_eq, Option.any_eq_true,
        Option.isNone_iff_eq_none, Option.isSome_iff_exists] at h
      obtain ⟨⟨⟨rfl, root, hroot⟩, peer, hpeer, -⟩, hline⟩ := h
      rw [apply_fst (.trustSet account (.issued value currency issuer) flags) hroot,
        applyKind_trustSet_new hpeer hline]

/-- Others add to the lines of an account those that they impose, and change nothing else about
their number. -/
theorem ownerCount_apply {tx : Transaction} (hother : tx.account ≠ a) :
    (ledger.apply tx).2.ownerCount a =
      ledger.ownerCount a + if ledger.imposes a tx then 1 else 0 := by
  rcases ledger.apply_cases tx with ⟨after, he, hsender, ha⟩ | ⟨r, hr, ha⟩
  · rw [ha]
    exact he.ownerCount_after hsender hother
  · have hnone : ledger.imposes a tx = false := by
      rw [Bool.eq_false_iff]
      intro himposes
      have hsuccess := apply_fst_of_imposes himposes
      rw [ha] at hsuccess
      obtain rfl : r = .success := hsuccess
      simp [refusals] at hr
    rw [ha, hnone]
    dsimp only
    split <;> rfl

theorem ownerCount_applyAll {txs : List Transaction} (hothers : ∀ tx ∈ txs, tx.account ≠ a) :
    (ledger.applyAll txs).ownerCount a = ledger.ownerCount a + imposed a ledger txs := by
  induction txs generalizing ledger with
  | nil => rfl
  | cons tx txs ih =>
    obtain ⟨hother, hothers⟩ := List.forall_mem_cons.1 hothers
    rw [imposed, ← Nat.add_assoc, ← ownerCount_apply hother]
    exact ih hothers

/-! ### RequireAuth -/

theorem apply_accountSet_fst {root : Account} (ha : ledger.account? a = some root) (flags : UInt32)
    (set clear : Option AccountFlag) :
    (ledger.apply (.accountSet a flags set clear)).1 =
      if (flagsToSet flags set).contains .requireAuth && ledger.ownerCount a > 0 then .owners
      else .success := by
  rw [apply_fst (.accountSet a flags set clear) ha, applyKind, applyAccountSet]
  split <;> rfl

theorem Reachable.supply_lt (h : ledger.Reachable) : ledger.supply < 2 ^ 64 := by
  refine h.induction (P := fun ledger => ledger.supply < 2 ^ 64) (fun root drops => ?_) ?_
  · rw [supply_genesis]
    exact drops.toNat_lt
  · intro ledger tx hfits
    rwa [supply_apply hfits]

theorem Reachable.flags_apply {root : Account} (h : ledger.Reachable)
    (ha : ledger.account? a = some root) {tx : Transaction} (hother : tx.account ≠ a) :
    ∃ next, (ledger.apply tx).2.account? a = some next ∧ next.flags = root.flags := by
  obtain ⟨next, hnext, hflags, -⟩ := (apply_spares h.supply_lt tx (Ne.symm hother)).account root ha
  exact ⟨next, hnext, hflags⟩

theorem Reachable.exists_applyAll {root : Account} (h : ledger.Reachable)
    (ha : ledger.account? a = some root) {txs : List Transaction}
    (hothers : ∀ tx ∈ txs, tx.account ≠ a) :
    ∃ later, (ledger.applyAll txs).account? a = some later := by
  induction txs generalizing ledger root with
  | nil => exact ⟨root, ha⟩
  | cons tx txs ih =>
    obtain ⟨hother, hothers⟩ := List.forall_mem_cons.1 hothers
    obtain ⟨next, hnext, -⟩ := h.flags_apply ha hother
    exact ih (h.apply tx) hnext hothers

/-- Nothing is imposed on an account that has DefaultDivvy, which others cannot take from it. -/
theorem Reachable.imposed_eq_zero {root : Account} (h : ledger.Reachable)
    (ha : ledger.account? a = some root) (hdivvy : root.flags.contains .defaultDivvy = true)
    {txs : List Transaction} (hothers : ∀ tx ∈ txs, tx.account ≠ a) : imposed a ledger txs = 0 := by
  induction txs generalizing ledger root with
  | nil => rfl
  | cons tx txs ih =>
    obtain ⟨hother, hothers⟩ := List.forall_mem_cons.1 hothers
    have hnone : ledger.imposes a tx = false := by
      cases tx with
      | accountSet | payment => rfl
      | trustSet account limit flags =>
        cases limit with
        | native drops => rfl
        | issued value currency issuer => simp [imposes, ha, hdivvy]
    obtain ⟨next, hnext, hflags⟩ := h.flags_apply ha hother
    have hrest := ih (h.apply tx) hnext (by rw [hflags, hdivvy]) hothers
    rw [imposed, hnone, hrest]
    rfl

/-- Whatever others do, an account has to keep as many lines as before, and those that were opened to
it while it had no DefaultDivvy. If there are none of these, it may set RequireAuth as before. -/
theorem owned_lines_are_own {root : Account} (h : ledger.Reachable)
    (ha : ledger.account? a = some root) (txs : List Transaction)
    (hothers : ∀ tx ∈ txs, tx.account ≠ a) :
    let after := ledger.applyAll txs
    after.ownerCount a = ledger.ownerCount a + imposed a ledger txs ∧
      (root.flags.contains .defaultDivvy = true → imposed a ledger txs = 0) ∧
      (imposed a ledger txs = 0 → ∀ flags set clear,
        (after.apply (.accountSet a flags set clear)).1 =
          (ledger.apply (.accountSet a flags set clear)).1) := by
  intro after
  have hcount : after.ownerCount a = _ := ownerCount_applyAll hothers
  obtain ⟨later, hlater⟩ := h.exists_applyAll ha hothers
  refine ⟨hcount, fun hdivvy => h.imposed_eq_zero ha hdivvy hothers,
    fun hnone flags set clear => ?_⟩
  rw [hnone] at hcount
  rw [apply_accountSet_fst hlater, apply_accountSet_fst ha, hcount, Nat.add_zero]

/-- An account with DefaultDivvy may still set RequireAuth after another one has opened a line to
it. -/
theorem rippling_account_owns_nothing :
    let ledger := (genesis "rRoot" 1000).applyAll
      [.payment "rRoot" "rAlice" (.native 10) false,
        .accountSet "rAlice" 0 (some .defaultDivvy) none]
    let txs := [Transaction.trustSet "rRoot" (.issued 100 "USD" "rAlice") 0]
    ledger.Reachable ∧ (∃ root, ledger.account? "rAlice" = some root) ∧
      (∀ tx ∈ txs, tx.account ≠ "rAlice") ∧
      (ledger.applyAll txs).line? "rRoot" "rAlice" "USD" ≠ none ∧
      (ledger.applyAll txs).ownerCount "rAlice" = ledger.ownerCount "rAlice" ∧
      ((ledger.applyAll txs).apply
          (.accountSet "rAlice" AccountSetFlag.requireAuth.bits none none)).1 =
        (ledger.apply (.accountSet "rAlice" AccountSetFlag.requireAuth.bits none none)).1 := by
  intro ledger txs
  have hreachable : ledger.Reachable := ⟨_, _, _, rfl⟩
  have hsome : (ledger.account? "rAlice").isSome = true := by decide +kernel
  obtain ⟨root, hroot⟩ := Option.isSome_iff_exists.1 hsome
  have hothers : ∀ tx ∈ txs, tx.account ≠ "rAlice" := by decide
  have hdivvy : (ledger.account? "rAlice").any (fun root => root.flags.contains .defaultDivvy) =
      true := by
    decide +kernel
  rw [hroot, Option.any_some] at hdivvy
  obtain ⟨hcount, hzero, hresult⟩ := owned_lines_are_own hreachable hroot txs hothers
  have hnone := hzero hdivvy
  rw [hnone] at hcount
  exact ⟨hreachable, ⟨root, hroot⟩, hothers, by decide +kernel, hcount, hresult hnone _ _ _⟩

/-- An account that has never done anything is made to keep a line, and may no longer set
RequireAuth. -/
theorem other_makes_owner :
    let ledger := (genesis "rRoot" 1000).applyAll [.payment "rRoot" "rAlice" (.native 10) false]
    let tx := Transaction.trustSet "rRoot" (.issued 100 "USD" "rAlice") 0
    let auth := Transaction.accountSet "rAlice" AccountSetFlag.requireAuth.bits none none
    ledger.Reachable ∧ (ledger.account? "rAlice").isSome ∧ tx.account ≠ "rAlice" ∧
      ledger.ownerCount "rAlice" = 0 ∧ (ledger.apply tx).2.ownerCount "rAlice" = 1 ∧
      (ledger.apply auth).1 = .success ∧ ((ledger.apply tx).2.apply auth).1 = .owners := by
  refine ⟨⟨_, _, _, rfl⟩, ?_, ?_, ?_, ?_, ?_, ?_⟩ <;> decide +kernel

end LedgerBench.Ledger

import LedgerBench.Proofs.Ledger.Sketch
import LedgerBench.Proofs.Ledger.Total
import LedgerBench.Proofs.Payment

/-! Payments of an issued currency keep value. A payment changes the balances of the lines on its path
and the sequence number of its sender, and nothing else. Without rounding, the source holds less by
the value, the destination more, and every other account as much as before. -/

namespace LedgerBench

theorem Line.transfer_between {a b : String} (hne : a ≠ b) (currency : String) (line : Line)
    (value : Float) :
    line.transfer (.between a b currency) a value =
      { line with
        balance := if a < b then line.balance - value else line.balance + value } := by
  unfold Line.transfer LineKey.between
  by_cases h : a < b
  · simp [h]
  · simp [h, hne.symm]

namespace Ledger

section Hops

variable {accounts : Register String Account} {lines : Register LineKey Line}
  {hops : List (String × String)} {currency : String} {value : Float}

/-- Hops between different accounts, over different lines. -/
structure Apart (hops : List (String × String)) (currency : String) : Prop where
  ends : ∀ hop ∈ hops, hop.1 ≠ hop.2
  keys : hops.Pairwise fun hop other =>
    LineKey.between hop.1 hop.2 currency ≠ .between other.1 other.2 currency

theorem foldl_moveHop_other {key : LineKey}
    (h : ∀ hop ∈ hops, key ≠ .between hop.1 hop.2 currency) :
    (hops.foldl (moveHop currency value) lines).get? key = lines.get? key := by
  induction hops generalizing lines with
  | nil => rfl
  | cons hop rest ih =>
    obtain ⟨hkey, hrest⟩ := List.forall_mem_cons.1 h
    rw [List.foldl_cons, ih hrest, moveHop, Register.get?_update_of_ne _ _ hkey]

theorem Apart.foldl_moveHop (h : Apart hops currency) {hop : String × String} (hhop : hop ∈ hops) :
    (hops.foldl (moveHop currency value) lines).get? (.between hop.1 hop.2 currency) =
      (lines.get? (.between hop.1 hop.2 currency)).map fun line =>
        line.transfer (.between hop.1 hop.2 currency) hop.1 value := by
  obtain ⟨-, hkeys⟩ := h
  induction hops generalizing lines with
  | nil => cases hhop
  | cons first rest ih =>
    obtain ⟨hfirst, hrest⟩ := List.pairwise_cons.1 hkeys
    rw [List.foldl_cons]
    rcases List.mem_cons.1 hhop with rfl | hmem
    · rw [foldl_moveHop_other hfirst, moveHop, Register.get?_update_self]
    · rw [ih hmem hrest, moveHop, Register.get?_update_of_ne _ _ (hfirst hop hmem).symm]

/-- What hops do to the totals, when nothing is rounded: each adds to one end what it takes from the
other. -/
theorem Apart.total_foldl_moveHop (h : Apart hops currency) {amount : ℚ}
    (hexact : ∀ hop ∈ hops, ∃ line, lines.get? (.between hop.1 hop.2 currency) = some line ∧
      line.MovesExactly (.between hop.1 hop.2 currency) hop.1 value amount) (account : String) :
    total ⟨accounts, hops.foldl (moveHop currency value) lines⟩ account currency =
      total ⟨accounts, lines⟩ account currency + (hops.map fun hop =>
        (if account = hop.2 then amount else 0) - (if account = hop.1 then amount else 0)).sum := by
  obtain ⟨hends, hkeys⟩ := h
  induction hops generalizing lines with
  | nil => simp
  | cons hop rest ih =>
    obtain ⟨hne, hends⟩ := List.forall_mem_cons.1 hends
    obtain ⟨hfirst, hkeys⟩ := List.pairwise_cons.1 hkeys
    obtain ⟨⟨line, hline, hmoves⟩, hexact⟩ := List.forall_mem_cons.1 hexact
    have hlater : ∀ later ∈ rest, ∃ line,
        (moveHop currency value lines hop).get? (.between later.1 later.2 currency) = some line ∧
          line.MovesExactly (.between later.1 later.2 currency) later.1 value amount := by
      intro later hmem
      obtain ⟨line, hline, hmoves⟩ := hexact later hmem
      refine ⟨line, ?_, hmoves⟩
      rwa [moveHop, Register.get?_update_of_ne _ _ (hfirst later hmem).symm]
    rw [List.foldl_cons, ih hlater hends hkeys, total_moveHop hne hline hmoves, List.map_cons,
      List.sum_cons]
    ring

end Hops

/-- The path of a payment: the direct line if it takes the value, else a route through one other
account, which is only for a payment that asks for a path. -/
inductive Taken (ledger : Ledger) (source destination currency : String) (value : Float)
    (buildPath : Bool) : List String → Prop
  | direct (takes : ledger.Takes source destination currency value) :
      Taken ledger source destination currency value buildPath [source, destination]
  | through {through : String} (asked : buildPath = true)
      (dry : ¬ledger.Takes source destination currency value)
      (source_ne : source ≠ through) (ne_destination : through ≠ destination)
      (first : ledger.Takes source through currency value)
      (second : ledger.Takes through destination currency value) :
      Taken ledger source destination currency value buildPath [source, through, destination]

variable {ledger : Ledger} {source destination currency : String} {value : Float}
  {buildPath : Bool} {path : List String}

theorem taken_of_paymentPath (hvalue : 0 < value)
    (hpath : ledger.paymentPath source destination currency value buildPath = some path) :
    Taken ledger source destination currency value buildPath path := by
  have hmem := paymentPath_mem hpath
  by_cases htakes : ledger.Takes source destination currency value
  · -- the direct line comes first, and every payment takes it
    have hhead := head_findPaths ((direct_mem_findPaths hvalue ..).2 htakes)
    obtain ⟨rest, hpaths⟩ := List.head?_eq_some_iff.1 hhead
    rw [paymentPath, hpaths, List.find?_cons_of_pos (by simp)] at hpath
    cases hpath
    exact .direct htakes
  · rcases eq_of_mem_findPaths hmem with rfl | ⟨through, rfl⟩
    · exact absurd ((direct_mem_findPaths hvalue ..).1 hmem) htakes
    · obtain ⟨hdestination, hfirst, hsecond, -⟩ := (through_mem_findPaths hvalue ..).1 hmem
      have hasked := List.find?_some hpath
      have hsource : source ≠ through := by
        rintro rfl
        exact htakes hsecond
      exact .through (by simpa using hasked) htakes hsource hdestination hfirst hsecond

theorem Taken.apart (h : Taken ledger source destination currency value buildPath path)
    (hne : source ≠ destination) : Apart (hops path) currency := by
  cases h with
  | direct => exact ⟨by simpa [hops] using hne, by simp [hops]⟩
  | @through through _ _ hsource hdestination =>
    refine ⟨by simpa [hops] using ⟨hsource, hdestination⟩, ?_⟩
    have hkeys : LineKey.between source through currency ≠
        .between through destination currency := by
      intro heq
      rcases LineKey.eq_or_eq_of_between_eq heq with hs | hs
      · exact hsource hs
      · exact hne hs
    simpa [hops] using hkeys

theorem Taken.takes (h : Taken ledger source destination currency value buildPath path) :
    ∀ hop ∈ hops path, ledger.Takes hop.1 hop.2 currency value := by
  cases h with
  | direct takes => simpa [hops] using takes
  | through _ _ _ _ first second => simpa [hops] using ⟨first, second⟩

theorem Taken.gain (h : Taken ledger source destination currency value buildPath path)
    (amount : ℚ) (account : String) :
    ((hops path).map fun hop =>
        (if account = hop.2 then amount else 0) - (if account = hop.1 then amount else 0)).sum =
      (if account = destination then amount else 0) - (if account = source then amount else 0) := by
  cases h with
  | direct => simp [hops]
  | through =>
    simp only [hops, List.tail_cons, List.zip_cons_cons, List.zip_nil_right, List.map_cons,
      List.map_nil, List.sum_cons, List.sum_nil]
    ring

theorem Taken.line?_moveAlong (h : Taken ledger source destination currency value buildPath path)
    (hne : source ≠ destination) {hop : String × String} (hhop : hop ∈ hops path) :
    ∃ line, ledger.line? hop.1 hop.2 currency = some line ∧
      (ledger.moveAlong path currency value).line? hop.1 hop.2 currency = some { line with
        balance := if hop.1 < hop.2 then line.balance - value else line.balance + value } := by
  have hapart := h.apart hne
  obtain ⟨line, hline, -⟩ := h.takes hop hhop
  have hmoved : (ledger.moveAlong path currency value).line? hop.1 hop.2 currency =
      (ledger.line? hop.1 hop.2 currency).map fun line =>
        line.transfer (.between hop.1 hop.2 currency) hop.1 value :=
    hapart.foldl_moveHop hhop
  refine ⟨line, hline, ?_⟩
  rw [hmoved, hline, Option.map_some, Line.transfer_between (hapart.ends hop hhop)]

theorem Taken.total_moveAlong (h : Taken ledger source destination currency value buildPath path)
    (hne : source ≠ destination) {amount : ℚ}
    (hexact : ∀ hop ∈ hops path, ∀ line, ledger.line? hop.1 hop.2 currency = some line →
      line.MovesExactly (.between hop.1 hop.2 currency) hop.1 value amount) (account : String) :
    (ledger.moveAlong path currency value).total account currency =
      ledger.total account currency +
        ((if account = destination then amount else 0) -
          (if account = source then amount else 0)) := by
  have hmoves : ∀ hop ∈ hops path, ∃ line,
      ledger.lines.get? (.between hop.1 hop.2 currency) = some line ∧
        line.MovesExactly (.between hop.1 hop.2 currency) hop.1 value amount := by
    intro hop hhop
    obtain ⟨line, hline, -⟩ := h.takes hop hhop
    exact ⟨line, hline, hexact hop hhop line hline⟩
  rw [← h.gain]
  exact (h.apart hne).total_foldl_moveHop hmoves account

/-- A payment of a value above zero goes along the direct line, or else through one other account if
it asks for a path. The balances of the lines on this path change, each by the value that is taken
from its low account or given to it, and the sequence number of the sender; everything else stays.
If no sum and no difference is rounded, the source holds less by the value, the destination more,
and all others as much as before. -/
theorem payment_conserves_value {issuer : String} (hne : source ≠ destination) (hvalue : 0 < value)
    (hpay : (ledger.apply (.payment source destination (.issued value currency issuer)
      buildPath)).1 = .success) :
    let after := (ledger.apply (.payment source destination (.issued value currency issuer)
      buildPath)).2
    ∃ path, ledger.paymentPath source destination currency value buildPath = some path ∧
      Taken ledger source destination currency value buildPath path ∧
      (∀ hop ∈ hops path, ∃ line, ledger.line? hop.1 hop.2 currency = some line ∧
        after.line? hop.1 hop.2 currency = some { line with
          balance := if hop.1 < hop.2 then line.balance - value else line.balance + value }) ∧
      (∀ key, (∀ hop ∈ hops path, key ≠ .between hop.1 hop.2 currency) →
        after.lines.get? key = ledger.lines.get? key) ∧
      (∀ address, after.account? address = (ledger.account? address).map fun root =>
        if address = source then { root with sequence := root.sequence + 1 } else root) ∧
      ∀ amount,
        (∀ hop ∈ hops path, ∀ line, ledger.line? hop.1 hop.2 currency = some line →
          line.MovesExactly (.between hop.1 hop.2 currency) hop.1 value amount) →
        after.total source currency = ledger.total source currency - amount ∧
        after.total destination currency = ledger.total destination currency + amount ∧
        ∀ account, account ≠ source → account ≠ destination →
          after.total account currency = ledger.total account currency := by
  intro after
  obtain ⟨path, hpath, hafter⟩ := payment_success hpay
  have htaken := taken_of_paymentPath hvalue hpath
  replace hafter : after = (ledger.moveAlong path currency value).bumpSequence source := hafter
  rw [hafter]
  refine ⟨path, hpath, htaken, fun hop hhop => htaken.line?_moveAlong hne hhop,
    fun key hkey => foldl_moveHop_other hkey, fun address => account?_bumpSequence _ source address,
    fun amount hexact => ?_⟩
  have htotal := htaken.total_moveAlong hne hexact
  refine ⟨(htotal source).trans ?_, (htotal destination).trans ?_,
    fun account hsource hdestination => (htotal account).trans ?_⟩
  · rw [if_neg hne, if_pos rfl]
    ring
  · rw [if_pos rfl, if_neg hne.symm]
    ring
  · rw [if_neg hdestination, if_neg hsource]
    ring

/-- Fifty move through the account in the middle, which then holds as much as before. -/
theorem twoLines_payment_conserves :
    let tx := Transaction.payment "rAlice" "rCarol" (.issued 50 "USD" "rCarol") true
    let after := (twoLines.apply tx).2
    "rAlice" ≠ "rCarol" ∧ (0 : Float) < 50 ∧ (twoLines.apply tx).1 = .success ∧
      after.total "rAlice" "USD" = twoLines.total "rAlice" "USD" - 50 ∧
      after.total "rCarol" "USD" = twoLines.total "rCarol" "USD" + 50 ∧
      after.total "rBob" "USD" = twoLines.total "rBob" "USD" := by
  intro tx after
  have hne : "rAlice" ≠ "rCarol" := by decide
  have hvalue : (0 : Float) < 50 := by decide +kernel
  have hpay : (twoLines.apply tx).1 = .success := by decide +kernel
  obtain ⟨path, hpath, -, -, -, -, htotals⟩ := payment_conserves_value hne hvalue hpay
  have hroute : twoLines.paymentPath "rAlice" "rCarol" "USD" 50 true =
      some ["rAlice", "rBob", "rCarol"] := by
    decide +kernel
  obtain rfl := Option.some.inj (hpath.symm.trans hroute)
  let fresh : Line := ⟨0, ⟨0, true⟩, ⟨100, false⟩⟩
  have hfirst : twoLines.line? "rAlice" "rBob" "USD" = some fresh := by decide +kernel
  have hsecond : twoLines.line? "rBob" "rCarol" "USD" = some fresh := by decide +kernel
  have hexact : ∀ hop ∈ hops ["rAlice", "rBob", "rCarol"], ∀ line,
      twoLines.line? hop.1 hop.2 "USD" = some line →
        line.MovesExactly (.between hop.1 hop.2 "USD") hop.1 50 50 := by
    intro hop hhop line hline
    rcases List.mem_cons.1 hhop with rfl | hhop
    · obtain rfl := Option.some.inj (hfirst.symm.trans hline)
      exact ⟨0, by decide +kernel, by decide +kernel, by decide +kernel⟩
    · obtain rfl := List.mem_singleton.1 hhop
      obtain rfl := Option.some.inj (hsecond.symm.trans hline)
      exact ⟨0, by decide +kernel, by decide +kernel, by decide +kernel⟩
  obtain ⟨hsource, hdestination, hothers⟩ := htotals 50 hexact
  exact ⟨hne, hvalue, hpay, hsource, hdestination, hothers "rBob" (by decide) (by decide)⟩

end Ledger
end LedgerBench

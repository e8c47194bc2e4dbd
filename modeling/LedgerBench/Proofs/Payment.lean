import LedgerBench.Proofs.Decimal.Sum
import LedgerBench.Proofs.Ledger.Routes

/-! What a payment of an issued currency does to its destination. A value above zero takes lines that
exist, and one that is not below zero never lowers what the destination holds on the last of them.
Nothing keeps a value from being below zero, and then the balances move the other way. -/

namespace LedgerBench

namespace Line

theorem transfer_not_lower {source destination : String} (hne : source ≠ destination)
    {value : Float} (hvalue : 0 ≤ value) (line : Line) (currency : String) :
    ¬(line.transfer (.between source destination currency) source value).balanceFor
          (.between source destination currency) destination <
        line.balanceFor (.between source destination currency) destination := by
  rcases LineKey.between_cases source destination currency with hkey | hkey
  · rw [hkey]
    simp only [transfer, balanceFor, if_true, if_neg hne, Decimal.neg_lt_neg_iff]
    exact Decimal.not_lt_sub hvalue line.balance
  · rw [hkey]
    simp only [transfer, balanceFor, if_true, if_neg hne.symm]
    exact Decimal.not_add_lt hvalue line.balance

end Line

namespace Ledger

theorem paymentPath_mem {ledger : Ledger} {source destination currency : String} {value : Float}
    {buildPath : Bool} {path : List String}
    (h : ledger.paymentPath source destination currency value buildPath = some path) :
    path ∈ ledger.findPaths source destination currency value :=
  List.mem_of_find?_eq_some h

theorem takes_of_mem_findPaths {ledger : Ledger} {source destination currency : String}
    {value : Float} (hvalue : 0 < value) {path : List String}
    (h : path ∈ ledger.findPaths source destination currency value) :
    ∀ hop ∈ hops path, ledger.Takes hop.1 hop.2 currency value := by
  rcases eq_of_mem_findPaths h with rfl | ⟨through, rfl⟩
  · have htakes := (direct_mem_findPaths hvalue ..).1 h
    simpa [hops] using htakes
  · obtain ⟨-, hfirst, hsecond, -⟩ := (through_mem_findPaths hvalue ..).1 h
    simpa [hops] using ⟨hfirst, hsecond⟩

theorem line?_moveHop_self (ledger : Ledger) (lines : Register LineKey Line)
    (source target currency : String) (value : Float) :
    line? { ledger with lines := moveHop currency value lines (source, target) } source target
        currency =
      (lines.get? (.between source target currency)).map fun line =>
        line.transfer (.between source target currency) source value :=
  Register.get?_update_self ..

/-- The last line of a path is changed by its last hop only, which ends at the destination. -/
theorem moveAlong_last {ledger : Ledger} {source destination currency : String} {value : Float}
    (hne : source ≠ destination) {path : List String}
    (h : path ∈ ledger.findPaths source destination currency value) :
    ∃ last, (hops path).getLast? = some (last, destination) ∧ last ≠ destination ∧
      (ledger.moveAlong path currency value).line? last destination currency =
        (ledger.line? last destination currency).map fun line =>
          line.transfer (.between last destination currency) last value := by
  rcases mem_findPaths.1 h with ⟨-, rfl⟩ | ⟨view, -, ⟨-, hpeer, -⟩, rfl⟩
  · exact ⟨source, rfl, hne, line?_moveHop_self ledger ledger.lines ..⟩
  · refine ⟨view.peer, rfl, hpeer, ?_⟩
    have hkey : LineKey.between view.peer destination currency ≠
        .between source view.peer currency := by
      intro heq
      have hswapped : LineKey.between destination view.peer currency =
          .between source view.peer currency := by
        rwa [LineKey.between_comm]
      rcases LineKey.eq_or_eq_of_between_eq hswapped with hd | hd
      · exact hne hd.symm
      · exact hpeer hd.symm
    have hfirst : (moveHop currency value ledger.lines (source, view.peer)).get?
          (.between view.peer destination currency) =
        ledger.line? view.peer destination currency :=
      Register.get?_update_of_ne _ _ hkey
    have hlast := line?_moveHop_self ledger
      (moveHop currency value ledger.lines (source, view.peer)) view.peer destination currency value
    rwa [hfirst] at hlast

theorem payment_success {ledger : Ledger} {source destination currency issuer : String}
    {value : Float} {buildPath : Bool}
    (h : (ledger.apply (.payment source destination (.issued value currency issuer)
      buildPath)).1 = .success) :
    ∃ path, ledger.paymentPath source destination currency value buildPath = some path ∧
      (ledger.apply (.payment source destination (.issued value currency issuer) buildPath)).2 =
        (ledger.moveAlong path currency value).bumpSequence source := by
  rcases ledger.apply_cases (.payment source destination (.issued value currency issuer) buildPath)
    with ⟨after, he, -, ha⟩ | ⟨r, hr, ha⟩
  · cases he with
    | moved hpath => exact ⟨_, hpath, by rw [ha]; rfl⟩
  · rw [ha] at h
    obtain rfl : r = .success := h
    simp [refusals] at hr

/-- A payment of a value above zero goes along lines that exist and can take the value. As long as
the value is not below zero, what the destination holds on the last line of the path is not lower
after it than before. -/
theorem payment_not_taken_from_destination {ledger : Ledger}
    {source destination currency issuer : String} {value : Float} {buildPath : Bool}
    (hne : source ≠ destination) (hvalue : 0 ≤ value)
    (hpay : (ledger.apply (.payment source destination (.issued value currency issuer)
      buildPath)).1 = .success) :
    let after := (ledger.apply (.payment source destination (.issued value currency issuer)
      buildPath)).2
    ∃ path, ledger.paymentPath source destination currency value buildPath = some path ∧
      (0 < value → ∀ hop ∈ hops path, ledger.Takes hop.1 hop.2 currency value) ∧
      ∃ last, (hops path).getLast? = some (last, destination) ∧
        ∀ line, ledger.line? last destination currency = some line →
          ∃ moved, after.line? last destination currency = some moved ∧
            ¬moved.balanceFor (.between last destination currency) destination <
              line.balanceFor (.between last destination currency) destination := by
  intro after
  obtain ⟨path, hpath, hafter⟩ := payment_success hpay
  have hmem := paymentPath_mem hpath
  obtain ⟨last, hlast, hother, hmoved⟩ := moveAlong_last hne hmem
  refine ⟨path, hpath, fun hpos => takes_of_mem_findPaths hpos hmem, last, hlast, ?_⟩
  intro line hline
  rw [hline, Option.map_some] at hmoved
  refine ⟨_, ?_, line.transfer_not_lower hother hvalue currency⟩
  show after.line? last destination currency = _
  rw [← hmoved]
  show (ledger.apply _).2.line? last destination currency = _
  rw [hafter]
  rfl

/-- Through two lines, the second of which takes the value. -/
theorem twoLines_payment :
    "rAlice" ≠ "rCarol" ∧ (0 : Float) ≤ 50 ∧
      (twoLines.apply (.payment "rAlice" "rCarol" (.issued 50 "USD" "rCarol") true)).1 = .success ∧
      ∃ path, twoLines.paymentPath "rAlice" "rCarol" "USD" 50 true = some path ∧
        ∀ hop ∈ hops path, twoLines.Takes hop.1 hop.2 "USD" 50 := by
  have hvalue : (0 : Float) ≤ 50 := by decide +kernel
  have hpay : (twoLines.apply
      (.payment "rAlice" "rCarol" (.issued 50 "USD" "rCarol") true)).1 = .success := by
    decide +kernel
  obtain ⟨path, hpath, htakes, -⟩ :=
    payment_not_taken_from_destination (by decide) hvalue hpay
  exact ⟨by decide, hvalue, hpay, path, hpath, htakes (by decide +kernel)⟩

/-- A payment of a value below zero succeeds between accounts without a line, and over a line it
takes from the destination. -/
theorem negative_payment_takes :
    twoLines.Reachable ∧
      twoLines.line? "rRoot" "rAlice" "USD" = none ∧
      (twoLines.apply (.payment "rRoot" "rAlice" (.issued (-5) "USD" "rAlice") false)).1 =
        .success ∧
      (twoLines.apply (.payment "rAlice" "rBob" (.issued (-5) "USD" "rBob") false)).1 = .success ∧
      ∃ line moved, twoLines.line? "rAlice" "rBob" "USD" = some line ∧
        (twoLines.apply (.payment "rAlice" "rBob" (.issued (-5) "USD" "rBob") false)).2.line?
          "rAlice" "rBob" "USD" = some moved ∧
        moved.balanceFor (.between "rAlice" "rBob" "USD") "rBob" <
          line.balanceFor (.between "rAlice" "rBob" "USD") "rBob" := by
  refine ⟨⟨_, _, _, rfl⟩, by decide +kernel, by decide +kernel, by decide +kernel,
    ⟨0, ⟨0, true⟩, ⟨100, false⟩⟩, ⟨5, ⟨0, true⟩, ⟨100, false⟩⟩, ?_, ?_, ?_⟩ <;> decide +kernel

end Ledger
end LedgerBench

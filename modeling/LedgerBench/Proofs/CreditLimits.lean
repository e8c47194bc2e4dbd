import LedgerBench.Proofs.Decimal.Exact
import LedgerBench.Proofs.PaymentBalance

/-! Payments of an issued currency respect the limits of those who receive it. The room that is left
on a line is looked at before anything moves, from the receiver's side; the balance is changed from
the side of the account that comes first in byte order. Where neither is rounded, the two agree. -/

namespace LedgerBench

namespace Line

variable {key : LineKey} {a b : String} {line : Line} {value : Float}

/-- Value moves along a line without rounding, neither in the room that the other account has for it
nor in the new balance. -/
structure Unrounded (line : Line) (key : LineKey) (source target : String) (value : Float) :
    Prop where
  room : Decimal.SubExact (line.side key target).limit (line.balanceFor key target)
  moved : if key.low = source then Decimal.SubExact line.balance value
    else Decimal.AddExact line.balance value

theorem unrounded_of_whole (hlimit : Decimal.Whole (line.side key b).limit)
    (hbalance : Decimal.Whole line.balance) (hvalue : Decimal.Whole value) :
    line.Unrounded key a b value := by
  refine ⟨hlimit.sub_exact ?_, ?_⟩
  · unfold balanceFor
    split
    · exact hbalance
    · exact hbalance.neg
  · split
    · exact hbalance.sub_exact hvalue
    · exact hbalance.add_exact hvalue

theorem Unrounded.balanceFor_le (h : line.Unrounded key a b value) (hjoins : key.Joins a b)
    (hvalue : 0 < value) (hroom : (line.side key b).limit - line.balanceFor key b ≥ value) :
    (line.transfer key a value).balanceFor key b ≤ (line.side key b).limit := by
  obtain ⟨⟨l, held, hlimit, hheld, hleft⟩, hmoved⟩ := h
  obtain ⟨v, room, hv, hroomValue, hle⟩ := (Decimal.le_iff_extended _ _).1 hroom
  obtain rfl := Option.some.inj (hleft.symm.trans hroomValue)
  have hsum : held + v ≤ l := by
    rw [add_comm]
    exact EReal.add_le_of_le_sub hle
  refine (Decimal.le_iff_extended _ _).2 ⟨held + v, l, ?_, hlimit, hsum⟩
  rcases hjoins.ends with ⟨hlow, -⟩ | ⟨hlow, -⟩
  · -- the receiver comes second: what it holds is the balance with the other sign
    have hother : key.low ≠ b := hlow.trans_ne hjoins.ne
    rw [if_pos hlow] at hmoved
    obtain ⟨balance, v', hbalance, hv', hdifference⟩ := hmoved
    obtain rfl := Option.some.inj (hv.symm.trans hv')
    have hpos : v ≠ ⊥ := by
      rintro rfl
      exact Decimal.extended?_ne_bot hvalue hv
    have hfinite : balance ≠ ⊤ ∨ v ≠ ⊤ := by
      by_contra hboth
      obtain ⟨rfl, rfl⟩ := by simpa using hboth
      rw [Decimal.extended?_top_sub_top hbalance hv] at hdifference
      cases hdifference
    rw [balanceFor, if_neg hother, Decimal.extended?_neg, hbalance] at hheld
    obtain rfl : -balance = held := Option.some.inj hheld
    rw [balanceFor, if_neg hother, transfer, if_pos hlow, Decimal.extended?_neg, hdifference,
      Option.map_some, EReal.neg_sub (.inr hpos) hfinite]
  · have hother : key.low ≠ a := hlow.trans_ne hjoins.ne.symm
    rw [if_neg hother] at hmoved
    obtain ⟨balance, v', hbalance, hv', hsum'⟩ := hmoved
    obtain rfl := Option.some.inj (hv.symm.trans hv')
    rw [balanceFor, if_pos hlow, hbalance] at hheld
    obtain rfl : balance = held := Option.some.inj hheld
    rw [balanceFor, if_pos hlow, transfer, if_neg hother, hsum']

end Line

namespace Ledger

/-- After a payment of a value above zero to another account, each account that a hop of its path
leads to holds no more on that line than its limit there, unless something is rounded on the line.
Whole numbers up to `2 ^ 52` are not. -/
theorem payment_within_limits {ledger : Ledger} {source destination currency issuer : String}
    {value : Float} {buildPath : Bool} (hne : source ≠ destination) (hvalue : 0 < value)
    (hpay : (ledger.apply (.payment source destination (.issued value currency issuer)
      buildPath)).1 = .success) :
    let after := (ledger.apply (.payment source destination (.issued value currency issuer)
      buildPath)).2
    ∃ path, ledger.paymentPath source destination currency value buildPath = some path ∧
      ∀ hop ∈ hops path, ∃ line moved,
        ledger.line? hop.1 hop.2 currency = some line ∧
        after.line? hop.1 hop.2 currency = some moved ∧
        (line.Unrounded (.between hop.1 hop.2 currency) hop.1 hop.2 value →
          moved.balanceFor (.between hop.1 hop.2 currency) hop.2 ≤
            (moved.side (.between hop.1 hop.2 currency) hop.2).limit) ∧
        (Decimal.Whole (line.side (.between hop.1 hop.2 currency) hop.2).limit →
          Decimal.Whole line.balance → Decimal.Whole value →
          line.Unrounded (.between hop.1 hop.2 currency) hop.1 hop.2 value) := by
  intro after
  obtain ⟨path, hpath, hafter⟩ := payment_success hpay
  have htaken := taken_of_paymentPath hvalue hpath
  have hapart := htaken.apart hne
  replace hafter : after = (ledger.moveAlong path currency value).bumpSequence source := hafter
  refine ⟨path, hpath, fun hop hhop => ?_⟩
  obtain ⟨line, hline, hroom⟩ := htaken.takes hop hhop
  have hmoved : after.line? hop.1 hop.2 currency =
      (ledger.line? hop.1 hop.2 currency).map fun line =>
        line.transfer (.between hop.1 hop.2 currency) hop.1 value := by
    rw [hafter]
    exact hapart.foldl_moveHop hhop
  rw [hline] at hmoved
  refine ⟨line, _, hline, hmoved, fun hunrounded => ?_, Line.unrounded_of_whole⟩
  have hjoins := LineKey.joins_between (hapart.ends hop hhop) currency
  rw [Line.side_transfer]
  exact hunrounded.balanceFor_le hjoins hvalue hroom

/-- Fifty move along two lines with a limit of a hundred. -/
theorem twoLines_payment_within_limits :
    let after := (twoLines.apply (.payment "rAlice" "rCarol" (.issued 50 "USD" "rCarol") true)).2
    "rAlice" ≠ "rCarol" ∧ (0 : Float) < 50 ∧
      (twoLines.apply (.payment "rAlice" "rCarol" (.issued 50 "USD" "rCarol") true)).1 = .success ∧
      ∃ first second, after.line? "rAlice" "rBob" "USD" = some first ∧
        after.line? "rBob" "rCarol" "USD" = some second ∧
        first.balanceFor (.between "rAlice" "rBob" "USD") "rBob" ≤
          (first.side (.between "rAlice" "rBob" "USD") "rBob").limit ∧
        second.balanceFor (.between "rBob" "rCarol" "USD") "rCarol" ≤
          (second.side (.between "rBob" "rCarol" "USD") "rCarol").limit := by
  intro after
  have hne : "rAlice" ≠ "rCarol" := by decide
  have hvalue : (0 : Float) < 50 := by decide +kernel
  have hpay : (twoLines.apply
      (.payment "rAlice" "rCarol" (.issued 50 "USD" "rCarol") true)).1 = .success := by
    decide +kernel
  obtain ⟨path, hpath, hhops⟩ := payment_within_limits hne hvalue hpay
  have hroute : twoLines.paymentPath "rAlice" "rCarol" "USD" 50 true =
      some ["rAlice", "rBob", "rCarol"] := by
    decide +kernel
  obtain rfl := Option.some.inj (hpath.symm.trans hroute)
  let fresh : Line := ⟨0, ⟨0, true⟩, ⟨100, false⟩⟩
  have hfresh : ∀ hop ∈ hops ["rAlice", "rBob", "rCarol"],
      twoLines.line? hop.1 hop.2 "USD" = some fresh ∧
        (fresh.side (.between hop.1 hop.2 "USD") hop.2).limit = 100 := by
    decide +kernel
  have hwithin : ∀ hop ∈ hops ["rAlice", "rBob", "rCarol"], ∃ moved,
      after.line? hop.1 hop.2 "USD" = some moved ∧
        moved.balanceFor (.between hop.1 hop.2 "USD") hop.2 ≤
          (moved.side (.between hop.1 hop.2 "USD") hop.2).limit := by
    intro hop hhop
    obtain ⟨line, moved, hline, hmoved, hle, hexact⟩ := hhops hop hhop
    obtain ⟨hfound, hlimit⟩ := hfresh hop hhop
    obtain rfl := Option.some.inj (hfound.symm.trans hline)
    refine ⟨moved, hmoved, hle (hexact ?_ ?_ ?_)⟩
    · rw [hlimit]
      exact ⟨100, by norm_num, by decide +kernel⟩
    · exact ⟨0, by norm_num, by decide +kernel⟩
    · exact ⟨50, by norm_num, by decide +kernel⟩
  obtain ⟨first, hfirst, hfirstLe⟩ := hwithin ("rAlice", "rBob") (by simp [hops])
  obtain ⟨second, hsecond, hsecondLe⟩ := hwithin ("rBob", "rCarol") (by simp [hops])
  exact ⟨hne, hvalue, hpay, first, second, hfirst, hsecond, hfirstLe, hsecondLe⟩

end Ledger
end LedgerBench

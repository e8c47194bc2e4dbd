import LedgerBench.Ledger.Apply
import LedgerBench.Proofs.Decimal.Value
import LedgerBench.Proofs.Ledger.LineView
import Mathlib.Tactic.Ring

/-! What an account holds over all its lines in a currency, as an exact number. Value that moves along
a line without being rounded is taken from one end and given to the other. -/

namespace LedgerBench

namespace Register

variable {κ α : Type} [Ord κ] [Std.LawfulEqOrd κ]

theorem map_changeEntry_of_ne {k : κ} {l : List (κ × α)} (h : ∀ e ∈ l, e.1 ≠ k) (f : α → α) :
    l.map (changeEntry k f) = l := by
  refine (List.map_congr_left fun e he => ?_).trans (List.map_id l)
  have hne : compare k e.1 ≠ .eq := fun heq => h e he (Std.LawfulEqCmp.eq_of_compare heq).symm
  simp [changeEntry, hne]

/-- A change to what is held under a key changes a sum by what is new there, less what was there. -/
theorem sum_update (measure : κ × α → ℚ) {r : Register κ α} {k : κ} {a : α}
    (h : r.get? k = some a) (f : α → α) :
    ((r.update k f).entries.map measure).sum =
      (r.entries.map measure).sum + measure (k, f a) - measure (k, a) := by
  obtain ⟨before, after, hentries⟩ := List.append_of_mem (mem_entries_of_get? h)
  have hordered := r.ordered
  rw [hentries, List.pairwise_append, List.pairwise_cons] at hordered
  obtain ⟨-, ⟨hafter, -⟩, hbefore⟩ := hordered
  have hlt {e e' : κ × α} (hlt : compare e.1 e'.1 = .lt) : e.1 ≠ e'.1 := by
    intro heq
    rw [heq, Std.ReflOrd.compare_self] at hlt
    cases hlt
  have hchanged : (r.update k f).entries = before ++ (k, f a) :: after := by
    have hself : changeEntry k f (k, a) = (k, f a) := by
      simp [changeEntry, Std.ReflOrd.compare_self]
    simp only [update, hentries]
    rw [List.map_append, List.map_cons, hself,
      map_changeEntry_of_ne fun e he => hlt (hbefore e he _ List.mem_cons_self),
      map_changeEntry_of_ne fun e he => (hlt (hafter e he)).symm]
  rw [hchanged, hentries]
  simp only [List.map_append, List.map_cons, List.sum_append, List.sum_cons]
  ring

end Register

namespace Line

variable {key : LineKey} {a b : String} {line : Line} {value : Float} {amount : ℚ}

/-- Value moves along a line without being rounded: the double that is added to the balance, or taken
from it, stands for the amount, and the new balance for the exact sum or difference. -/
def MovesExactly (line : Line) (key : LineKey) (source : String) (value : Float) (amount : ℚ) :
    Prop :=
  ∃ balance, Decimal.rational? line.balance = some balance ∧
    Decimal.rational? value = some amount ∧
    Decimal.rational? (line.transfer key source value).balance =
      some (if key.low = source then balance - amount else balance + amount)

/-- What an account holds on a line; nothing if it is neither of the two accounts. -/
def holding (account : String) (key : LineKey) (line : Line) : ℚ :=
  if key.low = account ∨ key.high = account then
    (Decimal.rational? (line.balanceFor key account)).getD 0
  else 0

theorem holding_low (line : Line) (hlow : key.low = a) :
    line.holding a key = (Decimal.rational? line.balance).getD 0 := by
  simp [holding, balanceFor, hlow]

theorem holding_high (line : Line) (hlow : key.low ≠ a) (hhigh : key.high = a) :
    line.holding a key = -(Decimal.rational? line.balance).getD 0 := by
  simp only [holding, balanceFor, hlow, hhigh, or_true, if_true, if_false, Decimal.rational?_neg]
  cases Decimal.rational? line.balance <;> simp

theorem holding_other (line : Line) (hlow : key.low ≠ a) (hhigh : key.high ≠ a) :
    line.holding a key = 0 :=
  if_neg (not_or.2 ⟨hlow, hhigh⟩)

/-- Which end of the line comes first in byte order makes no difference to who loses the amount and
who gains it. -/
theorem MovesExactly.holding_transfer (h : line.MovesExactly key a value amount)
    (hjoins : key.Joins a b) (account : String) :
    (line.transfer key a value).holding account key =
      line.holding account key +
        ((if account = b then amount else 0) - (if account = a then amount else 0)) := by
  obtain ⟨balance, hbalance, -, hmoved⟩ := h
  have hne := hjoins.ne
  rcases hjoins.ends with ⟨hlow, hhigh⟩ | ⟨hlow, hhigh⟩
  · rw [if_pos hlow] at hmoved
    by_cases ha : account = a
    · subst ha
      rw [holding_low _ hlow, holding_low _ hlow, hmoved, hbalance, if_neg hne, if_pos rfl]
      simp [sub_eq_add_neg]
    · by_cases hb : account = b
      · subst hb
        have hfirst : key.low ≠ account := by rwa [hlow]
        rw [holding_high _ hfirst hhigh, holding_high _ hfirst hhigh, hmoved, hbalance, if_pos rfl,
          if_neg ha]
        simp only [Option.getD_some]
        ring
      · have hfirst : key.low ≠ account := by rw [hlow]; exact Ne.symm ha
        have hsecond : key.high ≠ account := by rw [hhigh]; exact Ne.symm hb
        rw [holding_other _ hfirst hsecond, holding_other _ hfirst hsecond, if_neg ha, if_neg hb]
        ring
  · have hsource : key.low ≠ a := by rw [hlow]; exact hne.symm
    rw [if_neg hsource] at hmoved
    by_cases ha : account = a
    · subst ha
      rw [holding_high _ hsource hhigh, holding_high _ hsource hhigh, hmoved, hbalance, if_neg hne,
        if_pos rfl]
      simp only [Option.getD_some]
      ring
    · by_cases hb : account = b
      · subst hb
        rw [holding_low _ hlow, holding_low _ hlow, hmoved, hbalance, if_pos rfl, if_neg ha]
        simp
      · have hfirst : key.low ≠ account := by rw [hlow]; exact Ne.symm hb
        have hsecond : key.high ≠ account := by rw [hhigh]; exact Ne.symm ha
        rw [holding_other _ hfirst hsecond, holding_other _ hfirst hsecond, if_neg ha, if_neg hb]
        ring

end Line

namespace Ledger

/-- The sum of what an account holds on its lines in a currency. A balance that is no number, or is
too large for one, does not count. -/
def total (ledger : Ledger) (account currency : String) : ℚ :=
  (((ledger.linesOf account none).filter fun view => view.currency == currency).map fun view =>
    (Decimal.rational? view.balance).getD 0).sum

theorem total_eq (ledger : Ledger) (account currency : String) :
    ledger.total account currency =
      (ledger.lines.entries.map fun entry =>
        if entry.1.currency = currency then entry.2.holding account entry.1 else 0).sum := by
  simp only [total, linesOf, Option.all_none, List.filter_true, viewFrom, Line.holding]
  induction ledger.lines.entries with
  | nil => rfl
  | cons entry rest ih =>
    obtain ⟨key, line⟩ := entry
    by_cases hends : key.low = account ∨ key.high = account <;>
      by_cases hcurrency : key.currency = currency <;>
        simp [hends, hcurrency, ih]

/-- What a hop does to the totals, when nothing is rounded. -/
theorem total_moveHop {accounts : Register String Account} {lines : Register LineKey Line}
    {a b currency : String} (hne : a ≠ b) {line : Line} {value : Float} {amount : ℚ}
    (hline : lines.get? (.between a b currency) = some line)
    (h : line.MovesExactly (.between a b currency) a value amount) (account : String) :
    total ⟨accounts, moveHop currency value lines (a, b)⟩ account currency =
      total ⟨accounts, lines⟩ account currency +
        ((if account = b then amount else 0) - (if account = a then amount else 0)) := by
  have hcurrency : (LineKey.between a b currency).currency = currency := by
    rcases LineKey.between_cases a b currency with hkey | hkey <;> rw [hkey]
  rw [total_eq, total_eq, moveHop, Register.sum_update _ hline]
  simp only [hcurrency, if_true, h.holding_transfer (LineKey.joins_between hne currency)]
  ring

end Ledger
end LedgerBench

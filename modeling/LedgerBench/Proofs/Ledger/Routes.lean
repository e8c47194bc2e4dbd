import LedgerBench.Proofs.Decimal.Order
import LedgerBench.Proofs.Ledger.Reachable

/-! The routes of trust lines that a ledger finds are those that can carry the value: the direct line
and each route through one other account, which may have NoDivvy on one of its two sides but not on
both. -/

namespace LedgerBench

/-- A line without its NoDivvy flags. -/
def Line.unflagged (line : Line) : Line :=
  { line with
    low := { line.low with noDivvy := false }
    high := { line.high with noDivvy := false } }

namespace Ledger

/-- A line from one account to another that can take the value: the limit of the second account,
less what it is owed, is as much. -/
def Takes (ledger : Ledger) (source target currency : String) (value : Float) : Prop :=
  ∃ line, ledger.line? source target currency = some line ∧
    value ≤ (line.side (.between source target currency) target).limit -
      line.balanceFor (.between source target currency) target

/-- An account with NoDivvy on its own side of a line. -/
def HasNoDivvy (ledger : Ledger) (account other currency : String) : Prop :=
  ∃ line, ledger.line? account other currency = some line ∧
    (line.side (.between account other currency) account).noDivvy = true

/-- Two ledgers whose lines differ in nothing but NoDivvy. -/
def SameButNoDivvy (ledger other : Ledger) : Prop :=
  ∀ key, (ledger.lines.get? key).map Line.unflagged = (other.lines.get? key).map Line.unflagged

theorem capacity_ge_iff {value : Float} (hvalue : 0 < value) (ledger : Ledger)
    (source target currency : String) :
    ledger.capacity source target currency ≥ value ↔
      ledger.Takes source target currency value := by
  unfold capacity Takes
  cases hline : ledger.line? source target currency with
  | none => simpa using Decimal.not_le_zero_of_pos hvalue
  | some line => simp

theorem refuses_iff (ledger : Ledger) (account other currency : String) :
    ledger.refuses account other currency = true ↔ ledger.HasNoDivvy account other currency := by
  unfold refuses HasNoDivvy
  cases hline : ledger.line? account other currency with
  | none => simp
  | some line => simp

theorem canRipple_iff (ledger : Ledger) (before through after currency : String) :
    ledger.canRipple before through after currency = true ↔
      ¬(ledger.HasNoDivvy through before currency ∧ ledger.HasNoDivvy through after currency) := by
  rw [← refuses_iff, ← refuses_iff, canRipple]
  simp only [Bool.not_eq_true', Bool.and_eq_false_iff, not_and_or, Bool.not_eq_true]

theorem carriesThrough_iff {value : Float} (hvalue : 0 < value) (ledger : Ledger)
    (source through destination currency : String) :
    ledger.carriesThrough source through destination currency value = true ↔
      ledger.Takes source through currency value ∧
        ledger.Takes through destination currency value ∧
        ¬(ledger.HasNoDivvy through source currency ∧
          ledger.HasNoDivvy through destination currency) := by
  rw [← capacity_ge_iff hvalue, ← capacity_ge_iff hvalue, ← canRipple_iff]
  simp [carriesThrough, and_assoc]

theorem linesOf_none (ledger : Ledger) (account : String) :
    ledger.linesOf account none =
      (ledger.lines.entries.filter fun entry =>
        entry.1.low == account || entry.1.high == account).map
          fun entry => viewFrom account entry.1 entry.2 := by
  simp only [linesOf, Option.all_none, List.filter_true]

theorem Takes.exists_view {ledger : Ledger} {source target currency : String} {value : Float}
    (h : ledger.Takes source target currency value) :
    ∃ view ∈ ledger.linesOf source none, view.peer = target ∧ view.currency = currency := by
  obtain ⟨line, hline, -⟩ := h
  have hmem := Register.mem_entries_of_get? hline
  rw [linesOf_none]
  rcases LineKey.between_cases source target currency with hk | hk
  · rw [hk] at hmem
    refine ⟨_, List.mem_map_of_mem (List.mem_filter.2 ⟨hmem, ?_⟩), ?_⟩ <;> simp [viewFrom]
  · rw [hk] at hmem
    refine ⟨_, List.mem_map_of_mem (List.mem_filter.2 ⟨hmem, ?_⟩), ?_⟩
    · simp
    · by_cases hs : target = source <;> simp [viewFrom, hs]

/-- An account sees each of its lines once. -/
theorem Oriented.linesOf_pairwise {ledger : Ledger} (h : ledger.Oriented) (account : String) :
    (ledger.linesOf account none).Pairwise fun view other =>
      view.currency = other.currency → view.peer ≠ other.peer := by
  rw [linesOf_none, List.pairwise_map]
  refine (ledger.lines.ordered.filter _).imp_of_mem ?_
  intro entry other hentry hother hlt hcurrency hpeer
  obtain ⟨hentry, htouch⟩ := List.mem_filter.1 hentry
  obtain ⟨hother, htouch'⟩ := List.mem_filter.1 hother
  have hkey : entry.1 = other.1 := by
    rw [LineKey.eq_between (h entry hentry) (by simpa using htouch),
      LineKey.eq_between (h other hother) (by simpa using htouch')]
    simp only [viewFrom] at hcurrency hpeer
    rw [hcurrency, hpeer]
  rw [hkey, Std.ReflOrd.compare_self] at hlt
  cases hlt

theorem mem_findPaths {ledger : Ledger} {source destination currency : String} {value : Float}
    {path : List String} :
    path ∈ ledger.findPaths source destination currency value ↔
      (ledger.capacity source destination currency ≥ value ∧ path = [source, destination]) ∨
      ∃ view ∈ ledger.linesOf source none,
        (view.currency = currency ∧ view.peer ≠ destination ∧
          ledger.carriesThrough source view.peer destination currency value = true) ∧
        [source, view.peer, destination] = path := by
  by_cases hc : ledger.capacity source destination currency ≥ value <;>
    simp [findPaths, hc, List.mem_map, List.mem_filter, and_assoc]

theorem eq_of_mem_findPaths {ledger : Ledger} {source destination currency : String} {value : Float}
    {path : List String} (h : path ∈ ledger.findPaths source destination currency value) :
    path = [source, destination] ∨ ∃ through, path = [source, through, destination] := by
  rcases mem_findPaths.1 h with ⟨-, h⟩ | ⟨view, -, -, h⟩
  · exact .inl h
  · exact .inr ⟨view.peer, h.symm⟩

theorem direct_mem_iff (ledger : Ledger) (source destination currency : String) (value : Float) :
    [source, destination] ∈ ledger.findPaths source destination currency value ↔
      ledger.capacity source destination currency ≥ value := by
  rw [mem_findPaths]
  simp

theorem direct_mem_findPaths {value : Float} (hvalue : 0 < value) (ledger : Ledger)
    (source destination currency : String) :
    [source, destination] ∈ ledger.findPaths source destination currency value ↔
      ledger.Takes source destination currency value := by
  rw [direct_mem_iff, capacity_ge_iff hvalue]

theorem through_mem_findPaths {value : Float} (hvalue : 0 < value) (ledger : Ledger)
    (source through destination currency : String) :
    [source, through, destination] ∈ ledger.findPaths source destination currency value ↔
      through ≠ destination ∧ ledger.Takes source through currency value ∧
        ledger.Takes through destination currency value ∧
        ¬(ledger.HasNoDivvy through source currency ∧
          ledger.HasNoDivvy through destination currency) := by
  rw [mem_findPaths, ← carriesThrough_iff hvalue]
  constructor
  · rintro (⟨-, h⟩ | ⟨view, -, ⟨-, hne, hcarries⟩, h⟩)
    · simp at h
    · obtain rfl : view.peer = through := by simpa using h
      exact ⟨hne, hcarries⟩
  · rintro ⟨hne, hcarries⟩
    obtain ⟨view, hview, rfl, rfl⟩ := ((carriesThrough_iff hvalue ..).1 hcarries).1.exists_view
    exact .inr ⟨view, hview, ⟨rfl, hne, hcarries⟩, rfl⟩

theorem Oriented.findPaths_nodup {ledger : Ledger} (h : ledger.Oriented)
    (source destination currency : String) (value : Float) :
    (ledger.findPaths source destination currency value).Nodup := by
  have hthrough : ((((ledger.linesOf source none).filter fun view =>
      view.currency == currency && view.peer != destination &&
        ledger.carriesThrough source view.peer destination currency value).map
          fun view => [source, view.peer, destination])).Nodup := by
    rw [List.Nodup, List.pairwise_map]
    refine ((h.linesOf_pairwise source).filter _).imp_of_mem ?_
    intro view other hview hother hpeer heq
    simp only [List.mem_filter, Bool.and_eq_true, beq_iff_eq] at hview hother
    exact hpeer (hview.2.1.1.trans hother.2.1.1.symm) (by simpa using heq)
  simp only [findPaths]
  refine List.nodup_append.2 ⟨?_, hthrough, ?_⟩
  · split <;> simp
  · intro direct hdirect path hpath heq
    obtain ⟨view, -, rfl⟩ := List.mem_map.1 hpath
    split at hdirect
    · simp [heq] at hdirect
    · cases hdirect

theorem head_findPaths {ledger : Ledger} {source destination currency : String} {value : Float}
    (h : [source, destination] ∈ ledger.findPaths source destination currency value) :
    (ledger.findPaths source destination currency value).head? = some [source, destination] := by
  rcases mem_findPaths.1 h with ⟨hc, -⟩ | ⟨view, -, -, heq⟩
  · simp [findPaths, hc]
  · simp at heq

/-! ### NoDivvy -/

theorem SameButNoDivvy.exists_line {ledger other : Ledger} (h : ledger.SameButNoDivvy other)
    {source target currency : String} {line : Line}
    (hline : ledger.line? source target currency = some line) :
    ∃ line', other.line? source target currency = some line' ∧
      (∀ key account, (line'.side key account).limit = (line.side key account).limit) ∧
      line'.balance = line.balance := by
  have hsame := h (.between source target currency)
  rw [show ledger.lines.get? (.between source target currency) = some line from hline,
    Option.map_some] at hsame
  obtain ⟨line', hline', heq⟩ := Option.map_eq_some_iff.1 hsame.symm
  refine ⟨line', hline', fun key account => ?_, ?_⟩
  · have hlimit := congrArg (fun l : Line => (l.side key account).limit) heq
    by_cases hk : key.low = account <;> simpa [Line.unflagged, Line.side, hk] using hlimit
  · simpa [Line.unflagged] using congrArg Line.balance heq

theorem SameButNoDivvy.takes {ledger other : Ledger} (h : ledger.SameButNoDivvy other)
    {source target currency : String} {value : Float}
    (ht : ledger.Takes source target currency value) :
    other.Takes source target currency value := by
  obtain ⟨line, hline, hle⟩ := ht
  obtain ⟨line', hline', hlimit, hbalance⟩ := h.exists_line hline
  refine ⟨line', hline', ?_⟩
  rw [hlimit, Line.balanceFor, hbalance]
  exact hle

theorem SameButNoDivvy.capacity_eq {ledger other : Ledger} (h : ledger.SameButNoDivvy other)
    (source target currency : String) :
    other.capacity source target currency = ledger.capacity source target currency := by
  cases hline : ledger.line? source target currency with
  | none =>
    have hsame := h (.between source target currency)
    rw [show ledger.lines.get? (.between source target currency) = none from hline] at hsame
    have hnone : other.line? source target currency = none :=
      Option.map_eq_none_iff.1 hsame.symm
    simp only [capacity, hline, hnone]
  | some line =>
    obtain ⟨line', hline', hlimit, hbalance⟩ := h.exists_line hline
    simp only [capacity, hline, hline', hlimit, Line.balanceFor, hbalance]

/-- For a value above zero the routes found are the direct line, if it can take the value, and each
route through one other account whose two lines can take it, unless that account has NoDivvy on its
own side of both. No route is found twice, and the direct one comes first. NoDivvy on any other side
takes no route away. -/
theorem findPaths_sound_complete {ledger : Ledger} (h : ledger.Reachable) {value : Float}
    (hvalue : 0 < value) (source destination currency : String) :
    let paths := ledger.findPaths source destination currency value
    ([source, destination] ∈ paths ↔ ledger.Takes source destination currency value) ∧
      (∀ through, [source, through, destination] ∈ paths ↔
        through ≠ destination ∧ ledger.Takes source through currency value ∧
          ledger.Takes through destination currency value ∧
          ¬(ledger.HasNoDivvy through source currency ∧
            ledger.HasNoDivvy through destination currency)) ∧
      (∀ path ∈ paths, path = [source, destination] ∨
        ∃ through, path = [source, through, destination]) ∧
      paths.Nodup ∧
      ([source, destination] ∈ paths → paths.head? = some [source, destination]) ∧
      ∀ other, ledger.SameButNoDivvy other → ∀ path ∈ paths,
        (∀ through, path = [source, through, destination] →
          ¬(other.HasNoDivvy through source currency ∧
            other.HasNoDivvy through destination currency)) →
        path ∈ other.findPaths source destination currency value := by
  intro paths
  refine ⟨direct_mem_findPaths hvalue .., fun through => through_mem_findPaths hvalue ..,
    fun path hpath => eq_of_mem_findPaths hpath, h.oriented.findPaths_nodup .., head_findPaths, ?_⟩
  intro other hsame path hpath hflags
  rcases eq_of_mem_findPaths hpath with rfl | ⟨through, rfl⟩
  · rw [direct_mem_findPaths hvalue] at hpath ⊢
    exact hsame.takes hpath
  · obtain ⟨hne, hfirst, hsecond, -⟩ := (through_mem_findPaths hvalue ..).1 hpath
    rw [through_mem_findPaths hvalue]
    exact ⟨hne, hsame.takes hfirst, hsame.takes hsecond, hflags through rfl⟩

/-- A ledger in which a second account trusts the first one, and a third the second. -/
def twoLines : Ledger :=
  (genesis "rRoot" 1000).applyAll
    [.payment "rRoot" "rAlice" (.native 10) false, .payment "rRoot" "rBob" (.native 10) false,
      .payment "rRoot" "rCarol" (.native 10) false,
      .trustSet "rBob" (.issued 100 "USD" "rAlice") 0,
      .trustSet "rCarol" (.issued 100 "USD" "rBob") 0]

theorem twoLines_route :
    twoLines.Reachable ∧ (0 : Float) < 50 ∧ twoLines.HasNoDivvy "rBob" "rCarol" "USD" ∧
      ["rAlice", "rBob", "rCarol"] ∈ twoLines.findPaths "rAlice" "rCarol" "USD" 50 := by
  have hreachable : twoLines.Reachable := ⟨_, _, _, rfl⟩
  have hvalue : (0 : Float) < 50 := by decide +kernel
  have hfirst : twoLines.Takes "rAlice" "rBob" "USD" 50 :=
    ⟨⟨0, ⟨0, true⟩, ⟨100, false⟩⟩, by decide +kernel, by decide +kernel⟩
  have hsecond : twoLines.Takes "rBob" "rCarol" "USD" 50 :=
    ⟨⟨0, ⟨0, true⟩, ⟨100, false⟩⟩, by decide +kernel, by decide +kernel⟩
  have hone : twoLines.HasNoDivvy "rBob" "rCarol" "USD" :=
    ⟨⟨0, ⟨0, true⟩, ⟨100, false⟩⟩, by decide +kernel, by decide +kernel⟩
  have hother : ¬twoLines.HasNoDivvy "rBob" "rAlice" "USD" := by
    rw [← refuses_iff]
    decide +kernel
  refine ⟨hreachable, hvalue, hone, ?_⟩
  have hroutes := findPaths_sound_complete hreachable hvalue "rAlice" "rCarol" "USD"
  exact (hroutes.2.1 "rBob").2 ⟨by decide, hfirst, hsecond, fun h => hother h.1⟩

end Ledger
end LedgerBench

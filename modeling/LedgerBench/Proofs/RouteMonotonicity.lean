import LedgerBench.Proofs.LineViews
import LedgerBench.Proofs.Decimal.Value
import LedgerBench.Proofs.TrustSet

/-! Routes go and come with NoDivvy and with the value. An account that sets NoDivvy on a line can
only take routes away, one that clears it can only add some, and less value finds every route that
more value finds. What remains keeps its order, which is that of the keys. -/

namespace LedgerBench

namespace Line

variable {key : LineKey} {a b : String} {limit : Float} {line after : Line}

theorem Adjusted.noDivvy_of_set (h : line.Adjusted key a b limit TrustSetFlag.setNoDivvy.bits after)
    (account : String) (haccount : account = a ∨ account = b)
    (hset : (line.side key account).noDivvy = true) : (after.side key account).noDivvy = true := by
  have hasked : TrustSetFlag.setNoDivvy.IsIn TrustSetFlag.setNoDivvy.bits := by decide
  have hnone : ¬TrustSetFlag.clearNoDivvy.IsIn TrustSetFlag.setNoDivvy.bits := by decide
  rcases haccount with rfl | rfl
  · by_cases hsettled : line.balanceFor key account ≥ 0
    · exact h.set hasked hsettled
    · rw [h.keep hnone fun hboth => hsettled hboth.2, hset]
  · rwa [h.peer]

theorem Adjusted.noDivvy_of_clear
    (h : line.Adjusted key a b limit TrustSetFlag.clearNoDivvy.bits after) (account : String)
    (haccount : account = a ∨ account = b) (hset : (after.side key account).noDivvy = true) :
    (line.side key account).noDivvy = true := by
  have hasked : TrustSetFlag.clearNoDivvy.IsIn TrustSetFlag.clearNoDivvy.bits := by decide
  have hnone : ¬TrustSetFlag.setNoDivvy.IsIn TrustSetFlag.clearNoDivvy.bits := by decide
  rcases haccount with rfl | rfl
  · rw [h.clear hasked fun hboth => hnone hboth.1] at hset
    cases hset
  · rwa [← h.peer]

theorem Adjusted.unflagged_eq {flags : UInt32} (hjoins : key.Joins a b)
    (h : line.Adjusted key a b (line.side key a).limit flags after) :
    after.unflagged = line.unflagged := by
  have hlimit := h.limit
  have hpeer := h.peer
  rcases hjoins.ends with ⟨hlow, -⟩ | ⟨hlow, -⟩
  · simp only [side, hlow, if_true, if_neg hjoins.ne] at hlimit hpeer
    simp only [unflagged, hlimit, hpeer, h.balance]
  · simp only [side, hlow, if_true, if_neg hjoins.ne.symm] at hlimit hpeer
    simp only [unflagged, hlimit, hpeer, h.balance]

end Line

namespace Ledger

variable {ledger later : Ledger} {a b source destination currency : String} {value less : Float}

/-- The accounts that an account has lines with in a currency, in the order of the keys. -/
def neighbours (ledger : Ledger) (source currency : String) : List String :=
  ((ledger.linesOf source none).filter fun view => view.currency == currency).map LineView.peer

theorem neighbours_eq (ledger : Ledger) (source currency : String) :
    ledger.neighbours source currency =
      (ledger.lines.keys.filter fun key =>
        key.currency == currency && (key.low == source || key.high == source)).map
          fun key => if key.low = source then key.high else key.low := by
  simp only [neighbours, linesOf_none, Register.keys, List.filter_map, List.map_map,
    List.filter_filter]
  rfl

theorem findPaths_eq (ledger : Ledger) (source destination currency : String) (value : Float) :
    ledger.findPaths source destination currency value =
      (if ledger.capacity source destination currency ≥ value then [[source, destination]]
        else []) ++
      ((ledger.neighbours source currency).filter fun through =>
        through != destination &&
          ledger.carriesThrough source through destination currency value).map
            fun through => [source, through, destination] := by
  simp only [findPaths, neighbours, List.filter_map, List.map_map, List.filter_filter]
  congr 3
  funext view
  rw [Bool.and_assoc, Bool.and_comm]
  rfl

/-- Two ledgers with the same keys: where the later one takes a value, the first one takes the other
value, and where the first one has NoDivvy, so has the later one. -/
structure Restricts (later : Ledger) (value : Float) (ledger : Ledger) (other : Float) : Prop where
  keys : later.lines.keys = ledger.lines.keys
  capacity (source target currency : String) : later.capacity source target currency ≥ value →
    ledger.capacity source target currency ≥ other
  refuses (account other currency : String) : ledger.refuses account other currency = true →
    later.refuses account other currency = true

theorem Restricts.carriesThrough {other : Float} (h : later.Restricts value ledger other)
    {through : String}
    (hcarries : later.carriesThrough source through destination currency value = true) :
    ledger.carriesThrough source through destination currency other = true := by
  simp only [Ledger.carriesThrough, Bool.and_eq_true, decide_eq_true_iff] at hcarries ⊢
  obtain ⟨⟨hfirst, hsecond⟩, hripple⟩ := hcarries
  refine ⟨⟨h.capacity _ _ _ hfirst, h.capacity _ _ _ hsecond⟩, ?_⟩
  rw [canRipple, Bool.not_eq_true', ← Bool.not_eq_true, Bool.and_eq_true] at hripple ⊢
  exact fun hboth => hripple ⟨h.refuses _ _ _ hboth.1, h.refuses _ _ _ hboth.2⟩

theorem Restricts.findPaths_sublist {other : Float} (h : later.Restricts value ledger other) :
    (later.findPaths source destination currency value).Sublist
      (ledger.findPaths source destination currency other) := by
  have hneighbours : later.neighbours source currency = ledger.neighbours source currency := by
    rw [neighbours_eq, neighbours_eq, h.keys]
  rw [findPaths_eq, findPaths_eq, hneighbours]
  refine List.Sublist.append ?_ (List.Sublist.map _ (List.monotone_filter_right _ ?_))
  · split
    · next hcapacity => rw [if_pos (h.capacity _ _ _ hcapacity)]
    · exact List.nil_sublist _
  · intro through hthrough
    rw [Bool.and_eq_true] at hthrough ⊢
    exact ⟨hthrough.1, h.carriesThrough hthrough.2⟩

theorem restricts_of_le (ledger : Ledger) (h : less ≤ value) :
    ledger.Restricts value ledger less where
  keys := rfl
  capacity _ _ _ hcapacity := Decimal.le_trans h hcapacity
  refuses _ _ _ hrefuses := hrefuses

/-! ### One line that changes -/

/-- Two ledgers that differ in one line at most, and in nothing but NoDivvy there. -/
structure Reflagged (a b currency : String) (line after : Line) (ledger later : Ledger) : Prop where
  keys : later.lines.keys = ledger.lines.keys
  first : ledger.line? a b currency = some line
  second : later.line? a b currency = some after
  others : ∀ key, key ≠ .between a b currency → later.lines.get? key = ledger.lines.get? key
  unflagged : after.unflagged = line.unflagged

theorem Reflagged.symm {line after : Line} (h : Reflagged a b currency line after ledger later) :
    Reflagged a b currency after line later ledger where
  keys := h.keys.symm
  first := h.second
  second := h.first
  others key hkey := (h.others key hkey).symm
  unflagged := h.unflagged.symm

theorem Reflagged.sameButNoDivvy {line after : Line}
    (h : Reflagged a b currency line after ledger later) : ledger.SameButNoDivvy later := by
  intro key
  by_cases hkey : key = .between a b currency
  · have hfirst : ledger.lines.get? key = some line := hkey ▸ h.first
    have hsecond : later.lines.get? key = some after := hkey ▸ h.second
    rw [hfirst, hsecond, Option.map_some, Option.map_some, h.unflagged]
  · rw [h.others key hkey]

theorem Reflagged.refuses {line after : Line} {code : String}
    (h : Reflagged a b code line after ledger later)
    (hends : ∀ account, account = a ∨ account = b →
      (line.side (.between a b code) account).noDivvy = true →
        (after.side (.between a b code) account).noDivvy = true)
    {account other currency : String} (hrefuses : ledger.refuses account other currency = true) :
    later.refuses account other currency = true := by
  by_cases hkey : LineKey.between account other currency = .between a b code
  · have hbefore : ledger.line? account other currency = some line := by
      rw [line?, hkey]
      exact h.first
    have hafter : later.line? account other currency = some after := by
      rw [line?, hkey]
      exact h.second
    simp only [Ledger.refuses, hbefore, hafter, hkey] at hrefuses ⊢
    exact hends account (LineKey.eq_or_eq_of_between_eq hkey) hrefuses
  · have hsame : later.line? account other currency = ledger.line? account other currency :=
      h.others _ hkey
    simpa only [Ledger.refuses, hsame] using hrefuses

theorem Reflagged.restricts {line after : Line} (h : Reflagged a b currency line after ledger later)
    (hends : ∀ account, account = a ∨ account = b →
      (line.side (.between a b currency) account).noDivvy = true →
        (after.side (.between a b currency) account).noDivvy = true)
    (value : Float) : later.Restricts value ledger value where
  keys := h.keys
  capacity _ _ _ hcapacity := by rwa [← h.sameButNoDivvy.capacity_eq]
  refuses _ _ _ hrefuses := h.refuses hends hrefuses

theorem reflagged_trustSet {root peer : Account} (ha : ledger.account? a = some root)
    (hb : ledger.account? b = some peer) (hne : a ≠ b) {line : Line}
    (hline : ledger.line? a b currency = some line) (flags : UInt32) :
    let limit := (line.side (.between a b currency) a).limit
    let out := ledger.apply (.trustSet a (.issued limit currency b) flags)
    out.1 = .success ∧ ∃ after, Reflagged a b currency line after ledger out.2 ∧
      line.Adjusted (.between a b currency) a b limit flags after := by
  intro limit out
  obtain ⟨hsuccess, hkeys, ⟨after, hafter, hadjusted⟩, hothers, -⟩ :=
    trustSet_line ha hb hne hline limit flags
  have hunflagged := hadjusted.unflagged_eq (LineKey.joins_between hne currency)
  exact ⟨hsuccess, after, ⟨hkeys, hline, hafter, hothers, hunflagged⟩, hadjusted⟩

/-- Setting NoDivvy on a line and keeping the limit takes routes away at most, clearing it adds some
at most, and neither matters to the direct line. Of a lower value every route is found that is found
of a higher one. -/
theorem findPaths_monotone (ledger : Ledger) :
    (ledger.Reachable → ∀ a b code line, a ≠ b → ledger.line? a b code = some line →
      let limit := (line.side (.between a b code) a).limit
      let setting := ledger.apply
        (.trustSet a (.issued limit code b) TrustSetFlag.setNoDivvy.bits)
      let clearing := ledger.apply
        (.trustSet a (.issued limit code b) TrustSetFlag.clearNoDivvy.bits)
      setting.1 = .success ∧ clearing.1 = .success ∧
        ∀ source destination currency value,
          let paths := ledger.findPaths source destination currency value
          let fewer := setting.2.findPaths source destination currency value
          let more := clearing.2.findPaths source destination currency value
          fewer.Sublist paths ∧ paths.Sublist more ∧
            ([source, destination] ∈ fewer ↔ [source, destination] ∈ paths) ∧
            ([source, destination] ∈ more ↔ [source, destination] ∈ paths)) ∧
    ∀ source destination currency value less, less ≤ value →
      (ledger.findPaths source destination currency value).Sublist
        (ledger.findPaths source destination currency less) := by
  refine ⟨fun hreachable a b code line hne hline => ?_,
    fun _ _ _ _ _ hle => (ledger.restricts_of_le hle).findPaths_sublist⟩
  intro limit setting clearing
  obtain ⟨ha, hb⟩ := hreachable.anchored.account_isSome hline
  obtain ⟨root, ha⟩ := Option.isSome_iff_exists.1 ha
  obtain ⟨peer, hb⟩ := Option.isSome_iff_exists.1 hb
  obtain ⟨hsetting, set, hset, hsetLine⟩ :=
    reflagged_trustSet ha hb hne hline TrustSetFlag.setNoDivvy.bits
  obtain ⟨hclearing, cleared, hclear, hclearLine⟩ :=
    reflagged_trustSet ha hb hne hline TrustSetFlag.clearNoDivvy.bits
  refine ⟨hsetting, hclearing, fun source destination currency value => ?_⟩
  intro paths fewer more
  refine ⟨(hset.restricts hsetLine.noDivvy_of_set value).findPaths_sublist,
    (hclear.symm.restricts hclearLine.noDivvy_of_clear value).findPaths_sublist, ?_, ?_⟩
  · rw [direct_mem_iff, direct_mem_iff, hset.sameButNoDivvy.capacity_eq]
  · rw [direct_mem_iff, direct_mem_iff, hclear.sameButNoDivvy.capacity_eq]

/-- The account in the middle takes its route away, and a lower value has the route as well. -/
theorem twoLines_findPaths_monotone :
    let line : Line := ⟨0, ⟨0, true⟩, ⟨100, false⟩⟩
    let limit := (line.side (.between "rBob" "rAlice" "USD") "rBob").limit
    let setting := twoLines.apply
      (.trustSet "rBob" (.issued limit "USD" "rAlice") TrustSetFlag.setNoDivvy.bits)
    twoLines.Reachable ∧ "rBob" ≠ "rAlice" ∧ twoLines.line? "rBob" "rAlice" "USD" = some line ∧
      setting.1 = .success ∧ setting.2.findPaths "rAlice" "rCarol" "USD" 50 = [] ∧
      (setting.2.findPaths "rAlice" "rCarol" "USD" 50).Sublist
        (twoLines.findPaths "rAlice" "rCarol" "USD" 50) ∧
      (40 : Float) ≤ 50 ∧ twoLines.findPaths "rAlice" "rCarol" "USD" 50 ≠ [] ∧
      (twoLines.findPaths "rAlice" "rCarol" "USD" 50).Sublist
        (twoLines.findPaths "rAlice" "rCarol" "USD" 40) := by
  intro line limit setting
  have hreachable : twoLines.Reachable := ⟨_, _, _, rfl⟩
  have hne : "rBob" ≠ "rAlice" := by decide
  have hline : twoLines.line? "rBob" "rAlice" "USD" = some line := by decide +kernel
  have hle : (40 : Float) ≤ 50 := by decide +kernel
  obtain ⟨hflags, hvalues⟩ := findPaths_monotone twoLines
  obtain ⟨hsuccess, -, hroutes⟩ := hflags hreachable _ _ _ line hne hline
  obtain ⟨hfewer, -⟩ := hroutes "rAlice" "rCarol" "USD" 50
  exact ⟨hreachable, hne, hline, hsuccess, by decide +kernel, hfewer, hle, by decide +kernel,
    hvalues _ _ _ _ _ hle⟩

end Ledger
end LedgerBench

import LedgerBench.Proofs.Ledger.Sketch

/-! Ledgers with few lines: one alone, or two that make a route. What one account sees or can pay
there does not depend on which account of a line comes first. -/

namespace LedgerBench.Ledger

theorem eq_or_of_update {lines : LineKey → Option Line} {key other : LineKey} {new line : Line}
    (h : Function.update lines key (some new) other = some line) :
    other = key ∨ lines other = some line := by
  by_cases hkey : other = key
  · exact .inl hkey
  · rw [Function.update_of_ne hkey] at h
    exact .inr h

/-! ### One line -/

section Alone

variable {ledger : Ledger} {lines : LineKey → Option Line} {key : LineKey} {line : Line}
  {a b currency : String}

structure Alone (lines : LineKey → Option Line) (key : LineKey) (line : Line) : Prop where
  line : lines key = some line
  only : ∀ other line', lines other = some line' → other = key

theorem Alone.first {after : LineKey → Option Line} (hnone : ∀ key, lines key = none)
    (hafter : after = Function.update lines key (some line)) : Alone after key line := by
  subst hafter
  refine ⟨Function.update_self .., fun other line' hother => ?_⟩
  rcases eq_or_of_update hother with hkey | hold
  · exact hkey
  · rw [hnone] at hold
    cases hold

theorem Alone.redraw {after : LineKey → Option Line} {new : Line} (h : Alone lines key line)
    (hafter : after = Function.update lines key (some new)) : Alone after key new := by
  subst hafter
  exact ⟨Function.update_self .., fun other line' hother =>
    (eq_or_of_update hother).elim id (h.only other line')⟩

theorem Alone.eq_none (h : Alone lines key line) {other : LineKey} (hne : other ≠ key) :
    lines other = none := by
  cases hother : lines other with
  | none => rfl
  | some line' => exact absurd (h.only other line' hother) hne

theorem Alone.linesOf (h : Alone ledger.sketch.lines (.between a b currency) line) (hne : a ≠ b) :
    ledger.linesOf a none = [⟨b, currency, line.balanceFor (.between a b currency) a,
      line.side (.between a b currency) a, line.side (.between a b currency) b⟩] :=
  linesOf_between hne nofun h.line fun key' line' hline _ => h.only key' line' hline

theorem Alone.linesOf_peer (h : Alone ledger.sketch.lines (.between a b currency) line)
    (hne : a ≠ b) :
    ledger.linesOf b none = [⟨a, currency, line.balanceFor (.between a b currency) b,
      line.side (.between a b currency) b, line.side (.between a b currency) a⟩] := by
  rw [LineKey.between_comm] at h ⊢
  exact h.linesOf hne.symm

end Alone

/-! ### Value through another account -/

section Through

variable {ledger : Ledger} {lines : LineKey → Option Line} {first second : Line}
  {source through destination currency issuer : String} {value : Float}

/-- Two lines make a route to the destination, and the source has no other line to spend on. -/
structure Route (lines : LineKey → Option Line) (source through destination currency : String)
    (first second : Line) : Prop where
  source_ne : source ≠ through
  through_ne : through ≠ destination
  ends_ne : source ≠ destination
  first : lines (.between source through currency) = some first
  second : lines (.between through destination currency) = some second
  only : ∀ key line, lines key = some line → Touches source none key →
    key = .between source through currency

section Hops

variable (hsource : source ≠ through) (hthrough : through ≠ destination)
  (hends : source ≠ destination)

include hthrough hends

theorem hops_ne (currency : String) :
    LineKey.between source through currency ≠ .between through destination currency := by
  rw [LineKey.between_comm through destination]
  intro heq
  rcases LineKey.eq_or_eq_of_between_eq heq.symm with hd | hd
  · exact hends hd.symm
  · exact hthrough hd.symm

include hsource

theorem not_touches_second :
    ¬Touches source none (.between through destination currency) := by
  intro htouches
  rcases (touches_between_iff hthrough).1 htouches with ⟨heq, -⟩ | ⟨heq, -⟩
  · exact hsource heq
  · exact hends heq

theorem Route.of_lines {middle after : LineKey → Option Line} (hnone : ∀ key, lines key = none)
    (hmiddle : middle = Function.update lines (.between source through currency) (some first))
    (hafter : after = Function.update middle (.between through destination currency) (some second)) :
    Route after source through destination currency first second := by
  have hfirst := Alone.first hnone hmiddle
  subst hafter
  refine ⟨hsource, hthrough, hends, ?_, Function.update_self .., ?_⟩
  · rw [Function.update_of_ne (hops_ne hthrough hends currency)]
    exact hfirst.line
  · intro key line hline htouches
    rcases eq_or_of_update hline with rfl | hold
    · exact absurd htouches (not_touches_second hsource hthrough hends)
    · exact hfirst.only key line hold

end Hops

theorem Route.redraw_first (h : Route lines source through destination currency first second)
    (line : Line) :
    Route (Function.update lines (.between source through currency) (some line)) source through
      destination currency line second := by
  refine ⟨h.source_ne, h.through_ne, h.ends_ne, Function.update_self .., ?_, ?_⟩
  · rw [Function.update_of_ne (hops_ne h.through_ne h.ends_ne currency).symm]
    exact h.second
  · intro key other hother htouches
    exact (eq_or_of_update hother).elim id fun hold => h.only key other hold htouches

theorem Route.redraw_second (h : Route lines source through destination currency first second)
    (line : Line) :
    Route (Function.update lines (.between through destination currency) (some line)) source through
      destination currency first line := by
  refine ⟨h.source_ne, h.through_ne, h.ends_ne, ?_, Function.update_self .., ?_⟩
  · rw [Function.update_of_ne (hops_ne h.through_ne h.ends_ne currency)]
    exact h.first
  · intro key other hother htouches
    rcases eq_or_of_update hother with rfl | hold
    · exact absurd htouches (not_touches_second h.source_ne h.through_ne h.ends_ne)
    · exact h.only key other hold htouches

theorem Route.direct (h : Route ledger.sketch.lines source through destination currency first second) :
    ledger.line? source destination currency = none := by
  cases hline : ledger.line? source destination currency with
  | none => rfl
  | some line =>
    have hkey := h.only (.between source destination currency) line hline
      ((touches_between_iff h.ends_ne).2 (.inl ⟨rfl, nofun⟩))
    rw [LineKey.between_comm source destination, LineKey.between_comm source through] at hkey
    rcases LineKey.eq_or_eq_of_between_eq hkey with hd | hd
    · exact absurd hd.symm h.through_ne
    · exact absurd hd.symm h.ends_ne

theorem Route.linesOf (h : Route ledger.sketch.lines source through destination currency first second) :
    ledger.linesOf source none =
      [⟨through, currency, first.balanceFor (.between source through currency) source,
        first.side (.between source through currency) source,
        first.side (.between source through currency) through⟩] :=
  linesOf_between h.source_ne nofun h.first h.only

theorem Route.findPaths
    (h : Route ledger.sketch.lines source through destination currency first second)
    (hvalue : 0 < value) :
    ledger.findPaths source destination currency value =
      if ledger.carriesThrough source through destination currency value then
        [[source, through, destination]]
      else [] := by
  have hdry : ¬ledger.capacity source destination currency ≥ value := by
    rw [capacity_ge_iff hvalue]
    rintro ⟨line, hline, -⟩
    rw [h.direct] at hline
    cases hline
  by_cases hcarries : ledger.carriesThrough source through destination currency value = true
  · simp [Ledger.findPaths, hdry, h.linesOf, hcarries, h.through_ne]
  · simp [Ledger.findPaths, hdry, h.linesOf, hcarries]

theorem Route.carriesThrough
    (h : Route ledger.sketch.lines source through destination currency first second)
    (hfirst : value ≤ (first.side (.between source through currency) through).limit -
      first.balanceFor (.between source through currency) through)
    (hsecond : value ≤ (second.side (.between through destination currency) destination).limit -
      second.balanceFor (.between through destination currency) destination)
    (hripples : (first.side (.between source through currency) through).noDivvy = false) :
    ledger.carriesThrough source through destination currency value = true := by
  have hline : ledger.line? source through currency = some first := h.first
  have hback : ledger.line? through source currency = some first := by
    rw [line?, LineKey.between_comm]
    exact h.first
  have hlast : ledger.line? through destination currency = some second := h.second
  simp only [Ledger.carriesThrough, capacity, hline, hlast, canRipple, refuses, hback,
    LineKey.between_comm through source, hripples, Bool.false_and, Bool.not_false, Bool.and_true,
    Bool.and_eq_true, decide_eq_true_eq]
  exact ⟨hfirst, hsecond⟩

theorem Route.not_carriesThrough
    (h : Route ledger.sketch.lines source through destination currency first second)
    (hback : (first.side (.between source through currency) through).noDivvy = true)
    (hon : (second.side (.between through destination currency) through).noDivvy = true) :
    ledger.carriesThrough source through destination currency value = false := by
  have hline : ledger.line? through source currency = some first := by
    rw [line?, LineKey.between_comm]
    exact h.first
  have hlast : ledger.line? through destination currency = some second := h.second
  simp only [Ledger.carriesThrough, canRipple, refuses, hline, hlast,
    LineKey.between_comm through source, hback, hon, Bool.and_true, Bool.not_true, Bool.and_false]

theorem Route.payment
    (h : Route ledger.sketch.lines source through destination currency first second)
    {flags : RootFlags} (hknown : ledger.sketch.flags source = some flags) (hvalue : 0 < value)
    (hcarries : ledger.carriesThrough source through destination currency value = true) :
    (ledger.apply (.payment source destination (.issued value currency issuer) true)).1 =
        .success ∧
      (ledger.apply (.payment source destination (.issued value currency issuer) true)).2.sketch =
        { ledger.sketch with
          lines := Function.update
            (Function.update ledger.sketch.lines (.between source through currency)
              (some (first.transfer (.between source through currency) source value)))
            (.between through destination currency)
            (some (second.transfer (.between through destination currency) through value)) } := by
  have hpath : ledger.paymentPath source destination currency value true =
      some [source, through, destination] := by
    simp [paymentPath, h.findPaths hvalue, hcarries]
  have hkind : ledger.applyKind (.payment source destination (.issued value currency issuer) true) =
      (.success, ledger.moveAlong [source, through, destination] currency value) := by
    simp only [applyKind, applyPayment, hpath]
  obtain ⟨hsuccess, hsketch, -⟩ :=
    of_applyKind (.payment source destination (.issued value currency issuer) true) hknown hkind
  have hfirst : ledger.lines.get? (.between source through currency) = some first := h.first
  have hsecond : ledger.lines.get? (.between through destination currency) = some second := h.second
  refine ⟨hsuccess, hsketch.trans (congrArg (Sketch.mk _) (funext fun key => ?_))⟩
  show (moveHop currency value (moveHop currency value ledger.lines (source, through))
    (through, destination)).get? key = _
  by_cases hlast : key = .between through destination currency
  · subst hlast
    rw [Function.update_self, moveHop, Register.get?_update_self, moveHop,
      Register.get?_update_of_ne _ _ (hops_ne h.through_ne h.ends_ne currency).symm, hsecond]
    rfl
  · rw [Function.update_of_ne hlast, moveHop, Register.get?_update_of_ne _ _ hlast, moveHop]
    by_cases hkey : key = .between source through currency
    · subst hkey
      rw [Function.update_self, Register.get?_update_self, hfirst]
      rfl
    · rw [Function.update_of_ne hkey, Register.get?_update_of_ne _ _ hkey]
      rfl

end Through

/-! ### Two lines of one account -/

section Fork

variable {ledger : Ledger} {lines : LineKey → Option Line} {first second : Line}
  {hub a b currency : String}

/-- All the lines there are join one account with two others. -/
structure Fork (lines : LineKey → Option Line) (hub a b currency : String) (first second : Line) :
    Prop where
  first_ne : hub ≠ a
  second_ne : hub ≠ b
  ends_ne : a ≠ b
  first : lines (.between hub a currency) = some first
  second : lines (.between hub b currency) = some second
  only : ∀ key line, lines key = some line →
    key = .between hub a currency ∨ key = .between hub b currency

theorem Fork.of_lines {middle after : LineKey → Option Line} (hfirst : hub ≠ a) (hsecond : hub ≠ b)
    (hends : a ≠ b) (hnone : ∀ key, lines key = none)
    (hmiddle : middle = Function.update lines (.between hub a currency) (some first))
    (hafter : after = Function.update middle (.between hub b currency) (some second)) :
    Fork after hub a b currency first second := by
  have halone := Alone.first hnone hmiddle
  have hkeys := hops_ne hsecond hends currency
  rw [LineKey.between_comm a hub] at hkeys
  subst hafter
  refine ⟨hfirst, hsecond, hends, ?_, Function.update_self .., fun key line hline => ?_⟩
  · rw [Function.update_of_ne hkeys]
    exact halone.line
  · exact (eq_or_of_update hline).symm.imp_left (halone.only key line)

theorem Fork.swap (h : Fork lines hub a b currency first second) :
    Fork lines hub b a currency second first :=
  ⟨h.second_ne, h.first_ne, h.ends_ne.symm, h.second, h.first,
    fun key line hline => (h.only key line hline).symm⟩

theorem Fork.linesOf_hub (h : Fork ledger.sketch.lines hub a b currency first second) :
    ledger.linesOf hub (some a) =
      [⟨a, currency, first.balanceFor (.between hub a currency) hub,
        first.side (.between hub a currency) hub, first.side (.between hub a currency) a⟩] := by
  refine linesOf_between h.first_ne (by simp) h.first fun key line hline htouches => ?_
  rcases h.only key line hline with hkey | rfl
  · exact hkey
  · rcases (touches_between_iff h.second_ne).1 htouches with ⟨-, hpeer⟩ | ⟨heq, -⟩
    · exact absurd (hpeer a rfl) h.ends_ne
    · exact absurd heq h.second_ne

theorem Fork.linesOf_end (h : Fork ledger.sketch.lines hub a b currency first second) :
    ledger.linesOf a (some hub) =
      [⟨hub, currency, first.balanceFor (.between hub a currency) a,
        first.side (.between hub a currency) a, first.side (.between hub a currency) hub⟩] := by
  have hline := h.first
  have honly := h.only
  rw [LineKey.between_comm hub a] at hline honly ⊢
  refine linesOf_between h.first_ne.symm (by simp) hline fun key line' hline' htouches => ?_
  rcases honly key line' hline' with hkey | rfl
  · exact hkey
  · rcases (touches_between_iff h.second_ne).1 htouches with ⟨heq, -⟩ | ⟨heq, -⟩
    · exact absurd heq.symm h.first_ne
    · exact absurd heq h.ends_ne

end Fork

end LedgerBench.Ledger

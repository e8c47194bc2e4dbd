import LedgerBench.Proofs.Suites.AccountSet

/-! The scenarios about NoDivvy pass: each line is opened and changed as the scenario expects of it,
whichever of its accounts comes first. -/

namespace LedgerBench.Suites

open Fixture Ledger

variable {ε : Type}

theorem setAndClear_passes (name : String) :
    Passes (⟨name, Unit, setAndClear⟩ : Scenario (Bench ε) (Fixture Link)) 1 := by
  intro base sent keys hquiet hkeys
  obtain ⟨s, alice, hcreate, hroot, halice, hne, hnone, hdrawn⟩ := cast_alice base hkeys
  have hentry : Leads base (lineEntry "alice" rootAccount "USD" .current) s _ s :=
    .lineEntry halice.address hroot.address (hnone _) _
  obtain ⟨s₁, hset, hdrawn₁⟩ :=
    Leads.opens hroot halice parse_limit_alice base (hnone _) (some .setNoDivvy)
  have hroot₁ := hroot.redraws hdrawn₁
  have halice₁ := halice.redraws hdrawn₁
  have halone₁ := Alone.first hnone hdrawn₁.lines
  obtain ⟨s₂, hclear, hdrawn₂⟩ :=
    Leads.adjusts hroot₁ halice₁ parse_limit_alice base halone₁.line (some .clearNoDivvy)
  have hroot₂ := hroot₁.redraws hdrawn₂
  have halice₂ := halice₁.redraws hdrawn₂
  have halone₂ := halone₁.redraw hdrawn₂.lines
  have hview₁ := halone₁.linesOf hne
  have hpeer₁ := halone₁.linesOf_peer hne
  rw [side_newLine_own (LineKey.joins_between hne _)] at hview₁ hpeer₁
  have hview₂ := halone₂.linesOf hne
  have hpeer₂ := halone₂.linesOf_peer hne
  rw [side_adjustLine_self] at hview₂ hpeer₂
  have hall (s : Situation) (base : Scene (Bench ε) (Fixture Link)) :
      Leads base (address? none) s none s := .address?_none
  refine ⟨s₂, ?_, hdrawn₂.keys.trans (hdrawn₁.keys.trans hdrawn)⟩
  refine .cons hquiet hcreate ?_
  refine .cons hquiet (hentry.bind (.ensure rfl _)) ?_
  refine .cons hquiet hset ?_
  refine .cons hquiet ((Leads.firstLine hroot₁ (hall s₁) hview₁ _).bind (.ensure rfl _)) ?_
  refine .cons hquiet ((Leads.firstLine halice₁ (hall s₁) hpeer₁ _).bind (.ensure rfl _)) ?_
  refine .cons hquiet hclear ?_
  refine .cons hquiet ((Leads.firstLine hroot₂ (hall s₂) hview₂ _).bind (.ensure rfl _)) ?_
  refine .cons hquiet ((Leads.firstLine halice₂ (hall s₂) hpeer₂ _).bind (.ensure rfl _)) ?_
  exact .nil _ _

/-! ### Through bob -/

/-- Alice can pay carol through bob and knows no other way; all three go by their names. -/
structure Linked (s : Situation) (keys : KeySource) (alice bob carol : KeyPair)
    (first second : Line) : Prop where
  hasAlice : s.Has "alice" alice .defaultDivvy
  hasBob : s.Has "bob" bob .defaultDivvy
  hasCarol : s.Has "carol" carol .defaultDivvy
  route : Route s.ledger.sketch.lines alice.address bob.address carol.address "USD" first second
  keys : s.keys = keys.rest 3

section Linked

variable {s s' : Situation} {keys : KeySource} {alice bob carol : KeyPair} {first second : Line}

theorem Linked.redraw (h : Linked s keys alice bob carol first second)
    {lines : LineKey → Option Line} (hdrawn : s.Redraws s' lines) {first' second' : Line}
    (hroute : Route lines alice.address bob.address carol.address "USD" first' second') :
    Linked s' keys alice bob carol first' second' := by
  rw [← hdrawn.lines] at hroute
  exact ⟨h.hasAlice.redraws hdrawn, h.hasBob.redraws hdrawn, h.hasCarol.redraws hdrawn, hroute,
    hdrawn.keys.trans h.keys⟩

theorem linked_start (base : Scene (Bench ε) (Fixture Link)) (hkeys : keys.Distinct 3) :
    ∃ s s' alice bob carol, Leads base createAliceBobCarol (.start keys) () s ∧
      Leads base bobAndCarolLimits s () s' ∧ Linked s' keys alice bob carol
        (newLine (.between alice.address bob.address "USD") bob.address alice.address 100 false true)
        (newLine (.between bob.address carol.address "USD") carol.address bob.address 100 false
          true) := by
  obtain ⟨s, cast, hcreate, hcast, hdrawn⟩ :=
    cast_createAccounts base ["alice", "bob", "carol"] hkeys (by decide) (by decide) true
  obtain ⟨alice, _, halice, hothers, rfl⟩ := List.forall₂_cons_left_iff.1 hcast.members
  obtain ⟨bob, _, hbob, hlast, rfl⟩ := List.forall₂_cons_left_iff.1 hothers
  obtain ⟨carol, _, hcarol, hnil, rfl⟩ := List.forall₂_cons_left_iff.1 hlast
  obtain rfl := List.forall₂_nil_left_iff.1 hnil
  have hdistinct := hcast.addresses
  simp only [List.map_cons, List.map_nil, List.nodup_cons, List.mem_cons, not_or] at hdistinct
  obtain ⟨-, ⟨hab, hac, -⟩, ⟨hbc, -⟩, -⟩ := hdistinct
  obtain ⟨s₁, hcredit₁, hdrawn₁⟩ := Leads.credits hbob halice parse_limit_alice base (hcast.lines _)
  rw [LineKey.between_comm] at hdrawn₁
  have hfree : s₁.ledger.sketch.lines (.between carol.address bob.address "USD") = none := by
    rw [LineKey.between_comm]
    exact (Alone.first hcast.lines hdrawn₁.lines).eq_none (hops_ne hbc hac "USD").symm
  obtain ⟨s₂, hcredit₂, hdrawn₂⟩ :=
    Leads.credits (hcarol.redraws hdrawn₁) (hbob.redraws hdrawn₁) parse_limit_bob base hfree
  rw [LineKey.between_comm] at hdrawn₂
  refine ⟨s, s₂, alice, bob, carol, hcreate,
    Leads.creditLimits_cons hcredit₁ (Leads.creditLimits_cons hcredit₂ (.pure _)),
    (halice.redraws hdrawn₁).redraws hdrawn₂, (hbob.redraws hdrawn₁).redraws hdrawn₂,
    (hcarol.redraws hdrawn₁).redraws hdrawn₂,
    .of_lines hab hbc hac hcast.lines hdrawn₁.lines hdrawn₂.lines,
    hdrawn₂.keys.trans (hdrawn₁.keys.trans hdrawn)⟩

end Linked

/-- A line on which one account is in debt and could still owe more. Both let value through. -/
structure Owes (key : LineKey) (line : Line) (debtor creditor : String) : Prop where
  ripples : (line.side key debtor).noDivvy = false
  ripplesBack : (line.side key creditor).noDivvy = false
  debt : ¬line.balanceFor key debtor ≥ 0
  room : 1 ≤ (line.side key creditor).limit - line.balanceFor key creditor

section Owes

variable {key : LineKey} {debtor creditor : String} (h : key.Joins debtor creditor)

include h

theorem owes_transfer :
    Owes key ((newLine key creditor debtor 100 false true).transfer key debtor 50) debtor
      creditor := by
  have hzero := balance_newLine key creditor debtor 100 false true
  refine ⟨?_, ?_, ?_, ?_⟩
  · rw [Line.side_transfer, side_newLine_peer]
    rfl
  · rw [Line.side_transfer, side_newLine_own h.symm]
  · rcases Line.balanceFor_transfer_source _ hzero key debtor 50 with hb | hb <;> rw [hb] <;>
      decide +kernel
  · rw [Line.side_transfer, side_newLine_own h.symm]
    rcases Line.balanceFor_transfer_target _ hzero h 50 with hb | hb <;> rw [hb] <;>
      decide +kernel

theorem Owes.adjust {line : Line} (howes : Owes key line debtor creditor) (limit : Float) :
    Owes key (adjustLine key debtor limit true false line) debtor creditor := by
  refine ⟨?_, ?_, ?_, ?_⟩
  · rw [noDivvy_adjustLine_of_debt howes.debt, howes.ripples]
  · rw [side_adjustLine_peer h, howes.ripplesBack]
  · rw [balanceFor_adjustLine]
    exact howes.debt
  · rw [side_adjustLine_peer h, balanceFor_adjustLine]
    exact howes.room

end Owes

theorem negativeBalance_passes (name : String) :
    Passes (⟨name, Unit, negativeBalance⟩ : Scenario (Bench ε) (Fixture Link)) 3 := by
  intro base sent keys hquiet hkeys
  obtain ⟨s, s₁, alice, bob, carol, hcreate, hcredit, h₁⟩ := linked_start base hkeys
  have hfifty : Amount.parse "50/USD/carol" = .ok (.issued 50 "USD" "carol") := by decide +kernel
  have hone : Amount.parse "1/USD/carol" = .ok (.issued 1 "USD" "carol") := by decide +kernel
  have hjoins := LineKey.joins_between h₁.route.source_ne "USD"
  have hjoins' := LineKey.joins_between h₁.route.through_ne "USD"
  have hroom (balance : Float) (h : balance = 0 ∨ balance = -0) : 50 ≤ 100 - balance := by
    rcases h with rfl | rfl <;> decide +kernel
  have hcarries₁ : s₁.ledger.carriesThrough alice.address bob.address carol.address "USD" 50 =
      true := by
    refine h₁.route.carriesThrough ?_ ?_ ?_
    · rw [side_newLine_own hjoins.symm]
      exact hroom _ (Line.balanceFor_of_zero _ (balance_newLine ..) ..)
    · rw [side_newLine_own hjoins'.symm]
      exact hroom _ (Line.balanceFor_of_zero _ (balance_newLine ..) ..)
    · rw [side_newLine_own hjoins.symm]
  obtain ⟨s₂, hpay, hdrawn₂⟩ :=
    Leads.pays h₁.hasAlice h₁.hasCarol hfifty base h₁.route (by decide +kernel) hcarries₁
  have h₂ := h₁.redraw hdrawn₂ ((h₁.route.redraw_first _).redraw_second _)
  obtain ⟨s₃, hset, hdrawn₃⟩ :=
    Leads.adjusts h₂.hasAlice h₂.hasBob parse_limit_bob base h₂.route.first (some .setNoDivvy)
  have h₃ := h₂.redraw hdrawn₃ (h₂.route.redraw_first _)
  obtain ⟨s₄, hset', hdrawn₄⟩ :=
    Leads.adjusts h₃.hasBob h₃.hasCarol parse_limit_carol base h₃.route.second (some .setNoDivvy)
  have h₄ := h₃.redraw hdrawn₄ (h₃.route.redraw_second _)
  -- alice still owes bob, and bob carol
  have hfirst := Owes.adjust hjoins (owes_transfer hjoins) 100
  have hsecond := Owes.adjust hjoins' (owes_transfer hjoins') 100
  have hcarries₄ := h₄.route.carriesThrough hfirst.room hsecond.room hfirst.ripplesBack
  have hpaths : Leads base (findPaths "alice" "carol" "1/USD/carol" ["USD"]) s₄ _ s₄ :=
    .pathsTo h₄.hasAlice h₄.hasCarol hone (by simp)
  rw [h₄.route.findPaths (by decide +kernel), if_pos hcarries₄] at hpaths
  obtain ⟨root, hroot, -⟩ := h₄.hasAlice.account
  have hlines : Leads base (accountLines "alice" none .current) s₄ _ s₄ :=
    .accountLines h₄.hasAlice.address (fun _ => .address?_none) hroot _
  rw [h₄.route.linesOf] at hlines
  refine ⟨s₄, ?_, h₄.keys⟩
  refine .cons hquiet hcreate ?_
  refine .cons hquiet hcredit ?_
  refine .cons hquiet hpay ?_
  refine .cons hquiet hset ?_
  refine .cons hquiet hset' ?_
  refine .cons hquiet (hpaths.bind (.ensure rfl _)) ?_
  refine .cons hquiet (hlines.bind (.ensure (congrArg not hfirst.ripples) _)) ?_
  exact .nil _ _

theorem pairwise_passes (name : String) :
    Passes (⟨name, Unit, pairwise⟩ : Scenario (Bench ε) (Fixture Link)) 3 := by
  intro base sent keys hquiet hkeys
  obtain ⟨s, s₁, alice, bob, carol, hcreate, hcredit, h₁⟩ := linked_start base hkeys
  have hone : Amount.parse "1/USD/carol" = .ok (.issued 1 "USD" "carol") := by decide +kernel
  have hfirst := h₁.route.first
  rw [LineKey.between_comm] at hfirst
  obtain ⟨s₂, hset, hdrawn₂⟩ :=
    Leads.adjusts h₁.hasBob h₁.hasAlice parse_limit_alice base hfirst (some .setNoDivvy)
  rw [LineKey.between_comm] at hdrawn₂
  have h₂ := h₁.redraw hdrawn₂ (h₁.route.redraw_first _)
  obtain ⟨s₃, hset', hdrawn₃⟩ :=
    Leads.adjusts h₂.hasBob h₂.hasCarol parse_limit_carol base h₂.route.second (some .setNoDivvy)
  have h₃ := h₂.redraw hdrawn₃ (h₂.route.redraw_second _)
  -- bob owes nothing yet, so that NoDivvy is set on both of his lines
  have hclosed : s₃.ledger.findPaths alice.address carol.address "USD" 1 = [] := by
    rw [h₃.route.findPaths (by decide +kernel), h₃.route.not_carriesThrough
      (noDivvy_adjustLine_of_zero (balance_newLine ..) _ _ 100 false)
      (noDivvy_adjustLine_of_zero (balance_newLine ..) _ _ 100 false)]
    rfl
  have hpaths : Leads base (findPaths "alice" "carol" "1/USD/carol" ["USD"]) s₃ _ s₃ :=
    .pathsTo h₃.hasAlice h₃.hasCarol hone (by simp)
  rw [hclosed] at hpaths
  obtain ⟨tx, s₄, htx, hsubmit, hdrawn₄⟩ :=
    Leads.dries h₃.hasAlice h₃.hasCarol hone base hclosed
  refine ⟨s₄, ?_, hdrawn₄.trans h₃.keys⟩
  refine .cons hquiet hcreate ?_
  refine .cons hquiet hcredit ?_
  refine .cons hquiet hset ?_
  refine .cons hquiet hset' ?_
  refine .cons hquiet (hpaths.bind (.ensure rfl _)) ?_
  refine .cons hquiet (htx.bind (hsubmit.bind (.ensure rfl _))) ?_
  exact .nil _ _

/-! ### Lines by default -/

theorem defaultDivvyNewLine_passes (name : String) :
    Passes (⟨name, Unit, defaultDivvyNewLine⟩ : Scenario (Bench ε) (Fixture Link)) 2 := by
  intro base sent keys hquiet hkeys
  obtain ⟨s, cast, hcreate, hcast, hdrawn⟩ :=
    cast_createAccounts base ["alice", "bob"] hkeys (by decide) (by decide) false
  obtain ⟨alice, _, halice, hlast, rfl⟩ := List.forall₂_cons_left_iff.1 hcast.members
  obtain ⟨bob, _, hbob, hnil, rfl⟩ := List.forall₂_cons_left_iff.1 hlast
  obtain rfl := List.forall₂_nil_left_iff.1 hnil
  have hdistinct := hcast.addresses
  simp only [List.map_cons, List.map_nil, List.nodup_cons, List.mem_cons, not_or] at hdistinct
  obtain ⟨⟨hra, hrb, -⟩, ⟨hab, -⟩, -⟩ := hdistinct
  obtain ⟨s₁, hsetting, hbob₁, hkept, hlines₁, hdrawn₁⟩ := Leads.setsDefault base hbob
  have hroot₁ := hkept _ _ _ hcast.root hrb
  have halice₁ := hkept _ _ _ halice hab
  have hnone : ∀ key, s₁.ledger.sketch.lines key = none := by
    rw [hlines₁]
    exact hcast.lines
  obtain ⟨s₂, htrust₂, hdrawn₂⟩ := Leads.opens hroot₁ halice₁ parse_limit_alice base (hnone _) none
  have hfree : s₂.ledger.sketch.lines (.between rootKeys.address bob.address "USD") = none := by
    have hkeys := hops_ne hrb hab "USD"
    rw [LineKey.between_comm alice.address] at hkeys
    exact (Alone.first hnone hdrawn₂.lines).eq_none hkeys.symm
  have hroot₂ := hroot₁.redraws hdrawn₂
  obtain ⟨s₃, htrust₃, hdrawn₃⟩ :=
    Leads.opens hroot₂ (hbob₁.redraws hdrawn₂) parse_limit_bob base hfree none
  have hroot₃ := hroot₂.redraws hdrawn₃
  have halice₃ := (halice₁.redraws hdrawn₂).redraws hdrawn₃
  have hbob₃ := (hbob₁.redraws hdrawn₂).redraws hdrawn₃
  -- alice has NoDivvy on her side, and bob, who set DefaultDivvy, has not
  have hfork := Fork.of_lines hra hrb hab hnone hdrawn₂.lines hdrawn₃.lines
  have hroot_alice := hfork.linesOf_hub
  have halice_root := hfork.linesOf_end
  rw [side_newLine_peer] at hroot_alice halice_root
  have hroot_bob := hfork.swap.linesOf_hub
  have hbob_root := hfork.swap.linesOf_end
  rw [side_newLine_own (LineKey.joins_between hrb _)] at hroot_bob hbob_root
  have hpeer {name : String} {pair : KeyPair} {flags : RootFlags} (h : s₃.Has name pair flags)
      (base : Scene (Bench ε) (Fixture Link)) :
      Leads base (address? (some name)) s₃ (some pair.address) s₃ := .address?_some h.address
  refine ⟨s₃, ?_, hdrawn₃.keys.trans (hdrawn₂.keys.trans (hdrawn₁.trans hdrawn))⟩
  refine .cons hquiet hcreate ?_
  refine .cons hquiet ((Leads.address hbob.address).bind hsetting) ?_
  refine .cons hquiet htrust₂ ?_
  refine .cons hquiet htrust₃ ?_
  refine .cons hquiet ((Leads.firstLine hroot₃ (hpeer halice₃) hroot_alice _).bind
    (.ensure rfl _)) ?_
  refine .cons hquiet ((Leads.firstLine halice₃ (hpeer hroot₃) halice_root _).bind
    (.ensure rfl _)) ?_
  refine .cons hquiet ((Leads.firstLine hroot₃ (hpeer hbob₃) hroot_bob _).bind
    (.ensure rfl _)) ?_
  refine .cons hquiet ((Leads.firstLine hbob₃ (hpeer hroot₃) hbob_root _).bind
    (.ensure rfl _)) ?_
  exact .nil _ _

end LedgerBench.Suites

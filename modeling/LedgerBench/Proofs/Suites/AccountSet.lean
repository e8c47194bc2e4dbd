import LedgerBench.Proofs.Fixture.Play
import LedgerBench.Proofs.Suites.Steps

/-! The scenarios about account settings pass: from what the ledger holds before a step follows what
the step finds, whatever the addresses of the accounts are. -/

namespace LedgerBench.Suites

open Fixture Ledger

variable {ε : Type}

theorem nullAccountSet_passes (name : String) :
    Passes (⟨name, Unit, nullAccountSet⟩ : Scenario (Bench ε) (Fixture Link)) 0 := by
  intro base sent keys hquiet _
  have hroot := has_root_start keys
  obtain ⟨s, hsubmit, hafter, -, hkeys⟩ :=
    Leads.accountSet base hroot (fun _ => rfl) 0
  refine ⟨s, ?_, hkeys⟩
  refine .cons hquiet ((Leads.rootAccountSet hroot).bind (hsubmit.bind (.ensure rfl _))) ?_
  refine .cons hquiet ((Leads.flagsOf hafter _).bind (.ensure (by decide) _)) ?_
  exact .nil _ _

theorem flagRoundTrip_passes (name title : String) {setFlag clearFlag : AccountSetFlag}
    {flag : RootFlags} (hset : (flagsAfter (0 ||| setFlag.bits) .none).contains flag = true)
    (hclear : (flagsAfter (0 ||| clearFlag.bits)
      (flagsAfter (0 ||| setFlag.bits) .none)).contains flag = false) :
    Passes (⟨name, Option EngineResult, flagRoundTrip title setFlag clearFlag flag⟩ :
      Scenario (Bench ε) (Fixture Link)) 0 := by
  intro base sent keys hquiet _
  have hroot := has_root_start keys
  obtain ⟨s, hsubmit, hafter, hlines, hkeys⟩ :=
    Leads.accountSet base hroot (fun _ => rfl) (0 ||| setFlag.bits)
  obtain ⟨s', hsubmit', hafter', -, hkeys'⟩ :=
    Leads.accountSet base hafter hlines (0 ||| clearFlag.bits)
  have hgone : (!(flagsAfter (0 ||| clearFlag.bits)
      (flagsAfter (0 ||| setFlag.bits) .none)).contains flag) = true := by
    rw [hclear]
    rfl
  refine ⟨s', ?_, hkeys'.trans hkeys⟩
  refine .cons hquiet ((Leads.rootAccountSet hroot).bind (hsubmit.bind (.pure _))) ?_
  refine .cons hquiet ((Leads.ensure rfl _).bind
    ((Leads.flagsOf hafter _).bind ((Leads.ensure hset _).bind (.pure _)))) ?_
  refine .cons hquiet ((Leads.rootAccountSet hafter).bind (hsubmit'.bind (.pure _))) ?_
  refine .cons hquiet ((Leads.ensure rfl _).bind
    ((Leads.flagsOf hafter' _).bind ((Leads.ensure hgone _).bind (.pure _)))) ?_
  exact .nil _ _

theorem cast_alice (base : Scene (Bench ε) (Fixture Link)) {keys : KeySource}
    (hkeys : keys.Distinct 1) :
    ∃ s alice, Leads base (createAccounts rootAccount "10000.0" ["alice"] true) (.start keys) () s ∧
      s.Has rootAccount rootKeys .none ∧ s.Has "alice" alice .defaultDivvy ∧
      rootKeys.address ≠ alice.address ∧ (∀ key, s.ledger.sketch.lines key = none) ∧
      s.keys = keys.rest 1 := by
  obtain ⟨s, cast, hcreate, hcast, hdrawn⟩ :=
    cast_createAccounts base ["alice"] hkeys (by decide) (by decide) true
  obtain ⟨alice, _, halice, hnil, rfl⟩ := List.forall₂_cons_left_iff.1 hcast.members
  obtain rfl := List.forall₂_nil_left_iff.1 hnil
  exact ⟨s, alice, hcreate, hcast.root, halice, List.pairwise_pair.1 hcast.addresses, hcast.lines,
    hdrawn⟩

theorem requireAuthWithOwnedLines_passes (name : String) :
    Passes (⟨name, Unit, requireAuthWithOwnedLines⟩ : Scenario (Bench ε) (Fixture Link)) 1 := by
  intro base sent keys hquiet hkeys
  obtain ⟨s, alice, hcreate, hroot, halice, hne, hnone, hdrawn⟩ := cast_alice base hkeys
  obtain ⟨s₁, hcredit, hdrawn₁⟩ := Leads.credits hroot halice parse_limit_alice base (hnone _)
  have hroot₁ := hroot.redraws hdrawn₁
  have halone := Alone.first hnone hdrawn₁.lines
  -- the limit is what makes the root account own the line
  have howner : 0 < s₁.ledger.ownerCount rootKeys.address := by
    have hlimited : ((100 : Float) != 0) = true := by decide +kernel
    rw [ownerCount, halone.linesOf hne, side_newLine_own (LineKey.joins_between hne _)]
    simp [LineView.isOwned, hlimited]
  have hauth : (flagsToSet (0 ||| AccountSetFlag.requireAuth.bits) none).contains .requireAuth =
      true := by decide
  obtain ⟨s₂, hsubmit, hroot₂, hdrawn₂⟩ := Leads.ownsLines base hroot₁ howner hauth
  refine ⟨s₂, ?_, hdrawn₂.trans (hdrawn₁.keys.trans hdrawn)⟩
  refine .cons hquiet hcreate ?_
  refine .cons hquiet (Leads.creditLimits_cons hcredit (.pure _)) ?_
  refine .cons hquiet ((Leads.rootAccountSet hroot₁).bind (hsubmit.bind (.ensure rfl _))) ?_
  refine .cons hquiet ((Leads.flagsOf hroot₂ _).bind (.ensure (by decide) _)) ?_
  exact .nil _ _

end LedgerBench.Suites

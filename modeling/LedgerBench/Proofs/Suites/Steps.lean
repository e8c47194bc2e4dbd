import LedgerBench.Proofs.Fixture.Cast
import LedgerBench.Proofs.Ledger.FewLines
import LedgerBench.Proofs.PathFinding
import LedgerBench.Suites.NoDivvy

/-! What the steps of the built-in suites lead to: each looks at a situation, or changes one line of
it. -/

namespace LedgerBench.Fixture

open Ledger Suites

variable {ε : Type} {base : Scene (Bench ε) (Fixture Link)} {s : Situation}
  {account issuer : String} {own peer : KeyPair} {flags peerFlags : RootFlags}

theorem Leads.ensure {condition : Bool} (h : condition = true) (text : String) :
    Leads base (ensure condition text) s () s := by
  rw [Suites.ensure, if_pos h]
  exact .pure ()

theorem Leads.flagsOf (h : s.Has account own flags) (ledger : LedgerSelector) :
    Leads base (Fixture.accountFlags account ledger) s flags s := by
  obtain ⟨root, hroot, rfl⟩ := h.account
  exact .accountFlags h.address hroot ledger

theorem Leads.firstLine (h : s.Has account own flags) {other otherAddress : Option String}
    (hother : ∀ base : Scene (Bench ε) (Fixture Link),
      Leads base (address? other) s otherAddress s) {view : LineView} {rest : List LineView}
    (hlines : s.ledger.linesOf own.address otherAddress = view :: rest) (ledger : LedgerSelector) :
    Leads base (firstLine account other ledger) s (.ofView view) s := by
  obtain ⟨root, hroot, -⟩ := h.account
  have hall : Leads base (Fixture.accountLines account other ledger) s _ s :=
    .accountLines h.address hother hroot ledger
  rw [hlines] at hall
  exact hall.bind (.pure _)

/-! ### Account settings -/

/-- The flags after an AccountSet with this flag word. -/
def flagsAfter (word : UInt32) (flags : RootFlags) : RootFlags :=
  (flags.union (flagsToSet word none)).without (flagsToClear word none)

theorem ownerCount_of_no_lines {ledger : Ledger} (h : ∀ key, ledger.sketch.lines key = none)
    (address : String) : ledger.ownerCount address = 0 := by
  have hnone : ledger.linesOf address none = [] := by
    refine linesOf_eq_nil fun key line hline => ?_
    have hempty : ledger.lines.get? key = none := h key
    rw [hempty] at hline
    cases hline
  rw [ownerCount, hnone]
  rfl

theorem Leads.rootAccountSet (h : s.Has rootAccount rootKeys flags) :
    Leads base rootAccountSet s (.accountSet rootKeys.address 0 none none) s :=
  (Leads.address h.address).bind (.pure _)

theorem Leads.accountSet (base : Scene (Bench ε) (Fixture Link)) (h : s.Has rootAccount rootKeys flags)
    (hlines : ∀ key, s.ledger.sketch.lines key = none) (word : UInt32) :
    ∃ s', Leads base (Fixture.submitAndAccept (.accountSet rootKeys.address word none none)) s
        .success s' ∧
      s'.Has rootAccount rootKeys (flagsAfter word flags) ∧
      (∀ key, s'.ledger.sketch.lines key = none) ∧ s'.keys = s.keys := by
  obtain ⟨hsuccess, hsketch, -⟩ := accountSet_sketch h.flags word none none
    fun _ => ownerCount_of_no_lines hlines _
  have hsubmit : Leads base
      (Fixture.submitAndAccept (.accountSet rootKeys.address word none none)) s _ _ :=
    .submitAndAccept h.named rfl
  rw [hsuccess] at hsubmit
  refine ⟨_, hsubmit, ⟨h.named, ?_⟩, ?_, rfl⟩
  · have hflags := congrArg Sketch.flags hsketch
    exact (congrFun hflags _).trans (by simp only [Function.update_self, flagsAfter])
  · rw [Situation.apply, hsketch]
    exact hlines

theorem Leads.ownsLines (base : Scene (Bench ε) (Fixture Link))
    (h : s.Has rootAccount rootKeys flags) (howner : 0 < s.ledger.ownerCount rootKeys.address)
    {word : UInt32} (hauth : (flagsToSet word none).contains .requireAuth = true) :
    ∃ s', Leads base (Fixture.submitAndAccept (.accountSet rootKeys.address word none none)) s
        .owners s' ∧ s'.Has rootAccount rootKeys flags ∧ s'.keys = s.keys := by
  obtain ⟨hresult, hsketch⟩ := accountSet_owners h.flags howner hauth none
  have hsubmit : Leads base
      (Fixture.submitAndAccept (.accountSet rootKeys.address word none none)) s _ _ :=
    .submitAndAccept h.named rfl
  rw [hresult] at hsubmit
  refine ⟨_, hsubmit, ⟨h.named, ?_⟩, rfl⟩
  rw [Situation.apply, hsketch]
  exact h.flags

theorem Leads.setsDefault (base : Scene (Bench ε) (Fixture Link)) (h : s.Has account own flags) :
    ∃ s', Leads base (Fixture.submitTransaction
        (.accountSet own.address 0 (some .defaultDivvy) none)) s () s' ∧
      s'.Has account own (flags.union .defaultDivvy) ∧
      (∀ name pair kept, s.Has name pair kept → pair.address ≠ own.address →
        s'.Has name pair kept) ∧
      s'.ledger.sketch.lines = s.ledger.sketch.lines ∧ s'.keys = s.keys := by
  obtain ⟨hsuccess, hsketch, -⟩ := setDefaultDivvy_sketch h.flags
  have hflags := congrArg Sketch.flags hsketch
  refine ⟨_, .submitTransaction h.named rfl hsuccess, ⟨h.named, ?_⟩, ?_, ?_, rfl⟩
  · exact (congrFun hflags _).trans (by simp only [Function.update_self])
  · intro name pair kept hkept hne
    refine ⟨hkept.named, (congrFun hflags _).trans ?_⟩
    simp only [Function.update_of_ne hne, hkept.flags]
  · rw [Situation.apply, hsketch]

/-! ### Limits of trust -/

theorem parse_limit_alice : Amount.parse "100/USD/alice" = .ok (.issued 100 "USD" "alice") := by
  decide +kernel

theorem parse_limit_bob : Amount.parse "100/USD/bob" = .ok (.issued 100 "USD" "bob") := by
  decide +kernel

theorem parse_limit_carol : Amount.parse "100/USD/carol" = .ok (.issued 100 "USD" "carol") := by
  decide +kernel

def trustWord (flag : Option TrustSetFlag) : UInt32 :=
  flag.elim 0 (0 ||| ·.bits)

theorem trustWord_set (flag : Option TrustSetFlag) :
    (trustWord flag &&& TrustSetFlag.setNoDivvy.bits != 0) = decide (flag = some .setNoDivvy) := by
  rcases flag with _ | _ | _ <;> decide

theorem trustWord_clear (flag : Option TrustSetFlag) :
    (trustWord flag &&& TrustSetFlag.clearNoDivvy.bits != 0) =
      decide (flag = some .clearNoDivvy) := by
  rcases flag with _ | _ | _ <;> decide

section Trust

variable {limit currency : String} {value : Float} (ha : s.Has account own flags)
  (hi : s.Has issuer peer peerFlags) (hparse : Amount.parse limit = .ok (.issued value currency issuer))

include ha hi hparse

theorem Leads.submitTrustSet {flag : Option TrustSetFlag}
    (hsuccess : (s.ledger.apply (.trustSet own.address (.issued value currency peer.address)
      (trustWord flag))).1 = .success) :
    Leads base (submitTrustSet account limit flag) s ()
      (s.apply (.trustSet own.address (.issued value currency peer.address) (trustWord flag))) := by
  have htx : Leads base (Suites.trustSet account limit flag) s
      (.trustSet own.address (.issued value currency peer.address) (trustWord flag)) s := by
    refine (Leads.address ha.address).bind ((Leads.amount (hi.amount hparse)).bind ?_)
    cases flag <;> exact .pure _
  exact htx.bind (.submitTransaction ha.named rfl hsuccess)

theorem Leads.creditLimit
    (hsuccess : (s.ledger.apply
      (.trustSet own.address (.issued value currency peer.address) 0)).1 = .success) :
    Leads base (creditLimit account limit) s ()
      (s.apply (.trustSet own.address (.issued value currency peer.address) 0)) :=
  (Leads.address ha.address).bind ((Leads.amount (hi.amount hparse)).bind
    ((Leads.submitTransaction ha.named rfl hsuccess).inContext _))

theorem Leads.opens (base : Scene (Bench ε) (Fixture Link))
    (hline : s.ledger.sketch.lines (.between own.address peer.address currency) = none)
    (flag : Option TrustSetFlag) :
    ∃ s', Leads base (Suites.submitTrustSet account limit flag) s () s' ∧
      s.Redraws s' (Function.update s.ledger.sketch.lines
        (.between own.address peer.address currency)
        (some (newLine (.between own.address peer.address currency) own.address peer.address value
          (decide (flag = some .setNoDivvy)) (peerFlags.contains .defaultDivvy)))) := by
  obtain ⟨hsuccess, hsketch⟩ :=
    trustSet_sketch_new ha.flags hi.flags hline value (trustWord flag)
  rw [trustWord_set] at hsketch
  exact ⟨_, .submitTrustSet ha hi hparse hsuccess, rfl, rfl, hsketch⟩

theorem Leads.adjusts (base : Scene (Bench ε) (Fixture Link)) {line : Line}
    (hline : s.ledger.sketch.lines (.between own.address peer.address currency) = some line)
    (flag : Option TrustSetFlag) :
    ∃ s', Leads base (Suites.submitTrustSet account limit flag) s () s' ∧
      s.Redraws s' (Function.update s.ledger.sketch.lines
        (.between own.address peer.address currency)
        (some (adjustLine (.between own.address peer.address currency) own.address value
          (decide (flag = some .setNoDivvy)) (decide (flag = some .clearNoDivvy)) line))) := by
  obtain ⟨hsuccess, hsketch⟩ :=
    trustSet_sketch_line ha.flags hi.flags hline value (trustWord flag)
  rw [trustWord_set, trustWord_clear] at hsketch
  exact ⟨_, .submitTrustSet ha hi hparse hsuccess, rfl, rfl, hsketch⟩

theorem Leads.credits (base : Scene (Bench ε) (Fixture Link))
    (hline : s.ledger.sketch.lines (.between own.address peer.address currency) = none) :
    ∃ s', Leads base (Fixture.creditLimit account limit) s () s' ∧
      s.Redraws s' (Function.update s.ledger.sketch.lines
        (.between own.address peer.address currency)
        (some (newLine (.between own.address peer.address currency) own.address peer.address value
          false (peerFlags.contains .defaultDivvy)))) := by
  obtain ⟨hsuccess, hsketch⟩ :=
    trustSet_sketch_new ha.flags hi.flags hline value 0
  exact ⟨_, .creditLimit ha hi hparse hsuccess, rfl, rfl, hsketch⟩

end Trust

theorem Leads.creditLimits_cons {limits : List (String × String)} {limit : String}
    {s' s'' : Situation} (h : Leads base (Fixture.creditLimit account limit) s () s')
    (hrest : Leads base (creditLimits limits) s' () s'') :
    Leads base (creditLimits ((account, limit) :: limits)) s () s'' :=
  h.bind hrest

/-! ### Payments -/

section Payments

variable {destination text currency : String} {value : Float} (ha : s.Has account own flags)
  (hd : s.Has destination peer peerFlags)
  (hparse : Amount.parse text = .ok (.issued value currency destination))

include ha hd hparse

theorem Leads.pathsTo {currencies : List String} (hcurrency : currency ∈ currencies) :
    Leads base (Fixture.findPaths account destination text currencies) s
      ⟨PathAlternative.ofPaths currency
        (s.ledger.findPaths own.address peer.address currency value)⟩ s := by
  obtain ⟨root, hroot, -⟩ := ha.account
  exact .findPaths ha.address hd.address (hd.amount hparse) hcurrency hroot

theorem Leads.paymentByPath :
    Leads base (Suites.paymentByPath account destination text) s
      (.payment own.address peer.address (.issued value currency peer.address) true) s :=
  (Leads.address ha.address).bind ((Leads.address hd.address).bind
    ((Leads.amount (hd.amount hparse)).bind (.pure _)))

theorem Leads.dries (base : Scene (Bench ε) (Fixture Link))
    (hclosed : s.ledger.findPaths own.address peer.address currency value = []) :
    ∃ tx s', Leads base (Suites.paymentByPath account destination text) s tx s ∧
      Leads base (Fixture.submitAndAccept tx) s .pathDry s' ∧ s'.keys = s.keys := by
  obtain ⟨root, hroot, -⟩ := ha.account
  have hdry := apply_payment_issued hroot peer.address currency peer.address value
  rw [hclosed, if_pos rfl] at hdry
  have hsubmit : Leads base (Fixture.submitAndAccept
      (.payment own.address peer.address (.issued value currency peer.address) true)) s _ _ :=
    .submitAndAccept ha.named rfl
  rw [hdry] at hsubmit
  exact ⟨_, _, .paymentByPath ha hd hparse, hsubmit, rfl⟩

theorem Leads.pays (base : Scene (Bench ε) (Fixture Link)) {through : String} {first second : Line}
    (hroute : Route s.ledger.sketch.lines own.address through peer.address currency first second)
    (hvalue : 0 < value)
    (hcarries : s.ledger.carriesThrough own.address through peer.address currency value = true) :
    ∃ s', Leads base (Suites.paymentByPath account destination text >>=
        Fixture.submitTransaction) s () s' ∧
      s.Redraws s' (Function.update
        (Function.update s.ledger.sketch.lines (.between own.address through currency)
          (some (first.transfer (.between own.address through currency) own.address value)))
        (.between through peer.address currency)
        (some (second.transfer (.between through peer.address currency) through value))) := by
  obtain ⟨hsuccess, hsketch⟩ := hroute.payment ha.flags hvalue hcarries
  exact ⟨_, (Leads.paymentByPath ha hd hparse).bind (.submitTransaction ha.named rfl hsuccess),
    rfl, rfl, hsketch⟩

end Payments

end LedgerBench.Fixture

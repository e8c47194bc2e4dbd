import LedgerBench.Proofs.Fixture.Accounts

/-! Who takes part in a scenario: the root account and those that were created for it, each under its
name. They keep their names and flags while their lines change. -/

namespace LedgerBench.Fixture

open Ledger

structure Situation.Has (s : Situation) (name : String) (pair : KeyPair) (flags : RootFlags) :
    Prop where
  named : s.book.get? name = some pair
  flags : s.ledger.sketch.flags pair.address = some flags

section Has

variable {s s' : Situation} {name other : String} {pair : KeyPair} {flags : RootFlags}

theorem Situation.Has.address (h : s.Has name pair flags) : s.book.address name = .ok pair.address :=
  address_of_get? h.named

theorem Situation.Has.account (h : s.Has name pair flags) :
    ∃ root, s.ledger.account? pair.address = some root ∧ root.flags = flags :=
  account?_of_flags h.flags

theorem Situation.Has.amount (h : s.Has name pair flags) {text currency : String} {value : Float}
    (hparse : Amount.parse text = .ok (.issued value currency name)) :
    s.book.amount text = .ok (.issued value currency pair.address) := by
  simp only [AccountBook.amount, hparse, Amount.issuer?, h.address]
  rfl

/-! ### Accounts that are created -/

variable {drops : UInt64} {n : Nat} {defaultDivvy : Bool}

theorem Situation.Has.create (h : s.Has name pair flags) (hready : s.Ready drops (n + 1))
    (hdrops : drops ≠ 0) (hname : name ≠ other) (haddress : pair.address ≠ s.keys.draw.1.address) :
    (s.create drops defaultDivvy other).Has name pair flags := by
  refine ⟨?_, ?_⟩
  · rw [s.create_book, get?_insert_of_ne hname]
    exact h.named
  · rw [(hready.create hdrops defaultDivvy other).1]
    exact (Function.update_of_ne haddress ..).trans h.flags

theorem Situation.Ready.has_create (hready : s.Ready drops (n + 1)) (hdrops : drops ≠ 0)
    (defaultDivvy : Bool) (name : String) :
    (s.create drops defaultDivvy name).Has name s.keys.draw.1 (newFlags defaultDivvy) := by
  refine ⟨?_, ?_⟩
  · rw [s.create_book]
    exact get?_insert_self ..
  · rw [(hready.create hdrops defaultDivvy name).1]
    exact Function.update_self ..

theorem Situation.Has.createAll {names : List String} (h : s.Has name pair flags)
    (hready : s.Ready drops names.length) (hdrops : drops ≠ 0) (hnames : rootAccount ∉ names)
    (hname : name ∉ names)
    (haddress : pair.address ∉ (s.keys.next names.length).map KeyPair.address) :
    (s.createAll drops defaultDivvy names).Has name pair flags := by
  induction names generalizing s with
  | nil => exact h
  | cons first rest ih =>
    obtain ⟨hroot, hroots⟩ := List.ne_and_not_mem_of_not_mem_cons hnames
    obtain ⟨hfirst, hrest⟩ := List.ne_and_not_mem_of_not_mem_cons hname
    obtain ⟨hnew, hnews⟩ := List.ne_and_not_mem_of_not_mem_cons haddress
    refine ih (h.create hready hdrops hfirst hnew) (hready.next hdrops hroot.symm defaultDivvy)
      hroots hrest ?_
    rwa [s.create_keys]

theorem Situation.Ready.members {names : List String} (hready : s.Ready drops names.length)
    (hdrops : drops ≠ 0) (hroot : rootAccount ∉ names) (hnames : names.Nodup)
    (defaultDivvy : Bool) :
    List.Forall₂ (fun name pair =>
        (s.createAll drops defaultDivvy names).Has name pair (newFlags defaultDivvy))
      names (s.keys.next names.length) := by
  induction names generalizing s with
  | nil => exact .nil
  | cons name rest ih =>
    obtain ⟨hne, hrest⟩ := List.ne_and_not_mem_of_not_mem_cons hroot
    obtain ⟨hname, hnodup⟩ := List.nodup_cons.1 hnames
    have hnext := hready.next hdrops hne.symm defaultDivvy
    have hlater := ih hnext hrest hnodup
    have haddress := (List.nodup_cons.1 hready.addresses).1
    rw [s.create_keys] at hlater
    refine .cons ((hready.has_create hdrops defaultDivvy name).createAll hnext hdrops hrest hname ?_)
      hlater
    rwa [s.create_keys]

theorem Situation.Ready.lines_createAll {names : List String} (hready : s.Ready drops names.length)
    (hdrops : drops ≠ 0) (hroot : rootAccount ∉ names) (defaultDivvy : Bool) :
    (s.createAll drops defaultDivvy names).ledger.sketch.lines = s.ledger.sketch.lines := by
  induction names generalizing s with
  | nil => rfl
  | cons name rest ih =>
    obtain ⟨hne, hrest⟩ := List.ne_and_not_mem_of_not_mem_cons hroot
    have hlater := ih (hready.next hdrops hne.symm defaultDivvy) hrest
    rw [(hready.create hdrops defaultDivvy name).1] at hlater
    exact hlater

end Has

/-- The root account and the accounts that were created have different addresses, and there is no
line between any of them yet. -/
structure Cast (s : Situation) (names : List String) (cast : List KeyPair) (flags : RootFlags) :
    Prop where
  root : s.Has rootAccount rootKeys .none
  members : List.Forall₂ (fun name pair => s.Has name pair flags) names cast
  addresses : ((rootKeys :: cast).map KeyPair.address).Nodup
  lines : ∀ key, s.ledger.sketch.lines key = none

theorem has_root_start (keys : KeySource) :
    (Situation.start keys).Has rootAccount rootKeys .none := by
  have haccount : (Situation.start keys).ledger.account? genesisAddress =
      some ⟨genesisDrops, .none, 1⟩ := Register.get?_insert_self ..
  refine ⟨get?_insert_self .., ?_⟩
  simp only [sketch, rootKeys, haccount, Option.map_some]

theorem cast_createAccounts {ε : Type} (base : Scene (Bench ε) (Fixture Link)) {keys : KeySource}
    (names : List String) (h : keys.Distinct names.length) (hnames : (rootAccount :: names).Nodup)
    (hfunds : names.length * startDrops.toNat ≤ genesisDrops.toNat) (defaultDivvy : Bool) :
    ∃ s cast, Leads base (createAccounts rootAccount "10000.0" names defaultDivvy) (.start keys) () s ∧
      Cast s names cast (newFlags defaultDivvy) ∧ s.keys = keys.rest names.length := by
  have hready := ready_start h hfunds
  have hdrops : startDrops ≠ 0 := by decide
  obtain ⟨hroot, hnodup⟩ := List.nodup_cons.1 hnames
  have hfree : rootKeys.address ∉ (keys.next names.length).map KeyPair.address := by
    intro hmem
    obtain ⟨pair, hpair, heq⟩ := List.mem_map.1 hmem
    exact h.genesis pair hpair heq
  refine ⟨(Situation.start keys).createAll startDrops defaultDivvy names, _,
    .createAccounts hready hroot defaultDivvy,
    ⟨(has_root_start keys).createAll hready hdrops hroot hroot hfree,
      hready.members hdrops hroot hnodup defaultDivvy, List.nodup_cons.2 ⟨hfree, h.addresses⟩, ?_⟩,
    Situation.createAll_keys ..⟩
  intro key
  rw [hready.lines_createAll hdrops hroot]
  rfl

/-! ### Lines that change -/

/-- The situation after lines were changed, and nothing else that a scenario looks at. -/
structure Situation.Redraws (s s' : Situation) (lines : LineKey → Option Line) : Prop where
  keys : s'.keys = s.keys
  book : s'.book = s.book
  sketch : s'.ledger.sketch = { s.ledger.sketch with lines }

theorem Situation.Redraws.lines {s s' : Situation} {lines : LineKey → Option Line}
    (h : s.Redraws s' lines) : s'.ledger.sketch.lines = lines := by
  rw [h.sketch]

theorem Situation.Has.redraws {s s' : Situation} {name : String} {pair : KeyPair}
    {flags : RootFlags} {lines : LineKey → Option Line} (h : s.Has name pair flags)
    (hdrawn : s.Redraws s' lines) : s'.Has name pair flags := by
  refine ⟨?_, ?_⟩
  · rw [hdrawn.book]
    exact h.named
  · rw [hdrawn.sketch]
    exact h.flags

end LedgerBench.Fixture

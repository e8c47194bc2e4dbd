import LedgerBench.Proofs.Authority
import LedgerBench.Proofs.Fixture.Leads
import LedgerBench.Proofs.Ledger.Sketch

/-! Accounts that a scenario creates. Each gets the next keys that are drawn; the root account pays
for it. New keys that are all different leave the accounts of before as they were. -/

namespace LedgerBench

namespace KeySource

def next : Nat → KeySource → List KeyPair
  | 0, _ => []
  | n + 1, source => source.draw.1 :: next n source.draw.2

def rest : Nat → KeySource → KeySource
  | 0, source => source
  | n + 1, source => rest n source.draw.2

theorem length_next (n : Nat) (source : KeySource) : (source.next n).length = n := by
  induction n generalizing source with
  | zero => rfl
  | succ n ih => rw [next, List.length_cons, ih]

theorem next_add (m n : Nat) (source : KeySource) :
    source.next (m + n) = source.next m ++ (source.rest m).next n := by
  induction m generalizing source with
  | zero => rw [Nat.zero_add]; rfl
  | succ m ih => rw [Nat.add_right_comm, next, ih]; rfl

theorem rest_add (m n : Nat) (source : KeySource) :
    source.rest (m + n) = (source.rest m).rest n := by
  induction m generalizing source with
  | zero => rw [Nat.zero_add]; rfl
  | succ m ih => rw [Nat.add_right_comm, rest, ih]; rfl

theorem isDrawn_of_mem_next {n : Nat} {source : KeySource} {pair : KeyPair}
    (h : pair ∈ source.next n) : pair.IsDrawn := by
  induction n generalizing source with
  | zero => cases h
  | succ n ih =>
    rcases List.mem_cons.1 h with rfl | h
    · exact source.isDrawn source.drawn
    · exact ih h

/-- The next keys have addresses and secrets that are all different, and no address is that of the
account that every ledger starts with. -/
structure Distinct (source : KeySource) (n : Nat) : Prop where
  addresses : ((source.next n).map KeyPair.address).Nodup
  secrets : ((source.next n).map KeyPair.secret).Nodup
  genesis : ∀ pair ∈ source.next n, pair.address ≠ genesisAddress

theorem Distinct.split {source : KeySource} {m n : Nat} (h : source.Distinct (m + n)) :
    source.Distinct m ∧ (source.rest m).Distinct n := by
  obtain ⟨haddresses, hsecrets, hgenesis⟩ := h
  rw [next_add, List.map_append] at haddresses hsecrets
  rw [next_add, List.forall_mem_append] at hgenesis
  exact ⟨⟨haddresses.of_append_left, hsecrets.of_append_left, hgenesis.1⟩,
    ⟨haddresses.of_append_right, hsecrets.of_append_right, hgenesis.2⟩⟩

end KeySource

namespace Fixture

open Ledger

variable {ε : Type} {base : Scene (Bench ε) (Fixture Link)}

def rootKeys : KeyPair := ⟨genesisAddress, genesisPassphrase⟩

def Situation.start (keys : KeySource) : Situation :=
  ⟨.genesis genesisAddress genesisDrops, keys, AccountBook.empty.insert rootAccount rootKeys⟩

def Situation.pay (drops : UInt64) (s : Situation) (name : String) : Situation :=
  (s.meet name).apply (.payment genesisAddress s.keys.draw.1.address (.native drops) false)

def Situation.create (drops : UInt64) (defaultDivvy : Bool) (s : Situation) (name : String) :
    Situation :=
  if defaultDivvy then
    (s.pay drops name).apply (.accountSet s.keys.draw.1.address 0 (some .defaultDivvy) none)
  else s.pay drops name

def Situation.createAll (drops : UInt64) (defaultDivvy : Bool) (s : Situation)
    (names : List String) : Situation :=
  names.foldl (Situation.create drops defaultDivvy) s

/-- What it takes to create a number of accounts: the root account can pay for them, and nothing of
their keys is in use. -/
structure Situation.Ready (s : Situation) (drops : UInt64) (n : Nat) : Prop where
  root : s.book.get? rootAccount = some rootKeys
  known : ∃ flags, s.ledger.sketch.flags genesisAddress = some flags
  funds : n * drops.toNat ≤ s.ledger.funds genesisAddress
  addresses : ((s.keys.next n).map KeyPair.address).Nodup
  secrets : ((s.keys.next n).map KeyPair.secret).Nodup
  new : ∀ pair ∈ s.keys.next n, s.ledger.sketch.flags pair.address = none
  fresh : ∀ pair ∈ s.keys.next n, ∀ known ∈ s.book.accounts.values, known.secret ≠ pair.secret

theorem address_of_get? {book : AccountBook} {name : String} {pair : KeyPair}
    (h : book.get? name = some pair) : book.address name = .ok pair.address := by
  simp only [AccountBook.address, h]

theorem get?_insert_of_ne {book : AccountBook} {name other : String} (h : other ≠ name)
    (pair : KeyPair) : (book.insert name pair).get? other = book.get? other :=
  Register.get?_insert_of_ne _ _ h

theorem get?_insert_self (book : AccountBook) (name : String) (pair : KeyPair) :
    (book.insert name pair).get? name = some pair :=
  Register.get?_insert_self ..

def newFlags (defaultDivvy : Bool) : RootFlags :=
  if defaultDivvy then .defaultDivvy else .none

section Create

variable {s : Situation} {drops : UInt64} {n : Nat} {name : String}

theorem Situation.Ready.pay (h : s.Ready drops (n + 1)) (hdrops : drops ≠ 0) (name : String) :
    ((s.meet name).ledger.apply
        (.payment genesisAddress s.keys.draw.1.address (.native drops) false)).1 = .success ∧
      (s.pay drops name).ledger.sketch =
        { s.ledger.sketch with
          flags := Function.update s.ledger.sketch.flags s.keys.draw.1.address (some .none) } ∧
      (s.pay drops name).ledger.funds genesisAddress =
        s.ledger.funds genesisAddress - drops.toNat := by
  obtain ⟨flags, hknown⟩ := h.known
  have hnew := h.new _ List.mem_cons_self
  have hle : drops.toNat ≤ s.ledger.funds genesisAddress := by
    have hfunds := h.funds
    rw [Nat.add_mul] at hfunds
    omega
  exact payment_sketch hknown hnew hdrops hle

theorem Situation.Ready.paid_flags (h : s.Ready drops (n + 1)) (hdrops : drops ≠ 0)
    (name : String) :
    (s.pay drops name).ledger.sketch.flags s.keys.draw.1.address = some .none := by
  rw [(h.pay hdrops name).2.1]
  exact Function.update_self ..

theorem setDefaultDivvy_sketch {ledger : Ledger} {account : String} {flags : RootFlags}
    (hknown : ledger.sketch.flags account = some flags) :
    (ledger.apply (.accountSet account 0 (some .defaultDivvy) none)).1 = .success ∧
      (ledger.apply (.accountSet account 0 (some .defaultDivvy) none)).2.sketch =
        { ledger.sketch with
          flags := Function.update ledger.sketch.flags account
            (some (flags.union .defaultDivvy)) } ∧
      (ledger.apply (.accountSet account 0 (some .defaultDivvy) none)).2.funds = ledger.funds := by
  obtain ⟨root, ha, rfl⟩ := account?_of_flags hknown
  obtain ⟨hsuccess, hsame⟩ := accountSet_defaultDivvy ha
  exact ⟨hsuccess, hsame.sketch_eq ha, hsame.funds_eq⟩

theorem Situation.Ready.create (h : s.Ready drops (n + 1)) (hdrops : drops ≠ 0)
    (defaultDivvy : Bool) (name : String) :
    (s.create drops defaultDivvy name).ledger.sketch =
        { s.ledger.sketch with
          flags := Function.update s.ledger.sketch.flags s.keys.draw.1.address
            (some (newFlags defaultDivvy)) } ∧
      (s.create drops defaultDivvy name).ledger.funds genesisAddress =
        s.ledger.funds genesisAddress - drops.toNat := by
  obtain ⟨-, hpaid, hfunds⟩ := h.pay hdrops name
  cases defaultDivvy with
  | false => exact ⟨hpaid, hfunds⟩
  | true =>
    obtain ⟨-, hset, hsame⟩ := setDefaultDivvy_sketch (h.paid_flags hdrops name)
    refine ⟨hset.trans ?_, (congrFun hsame _).trans hfunds⟩
    rw [hpaid]
    simp only [Function.update_idem]
    rfl

theorem Situation.create_keys (s : Situation) (drops : UInt64) (defaultDivvy : Bool)
    (name : String) : (s.create drops defaultDivvy name).keys = s.keys.draw.2 := by
  cases defaultDivvy <;> rfl

theorem Situation.create_book (s : Situation) (drops : UInt64) (defaultDivvy : Bool)
    (name : String) :
    (s.create drops defaultDivvy name).book = s.book.insert name s.keys.draw.1 := by
  cases defaultDivvy <;> rfl

theorem Situation.Ready.next (h : s.Ready drops (n + 1)) (hdrops : drops ≠ 0)
    (hname : name ≠ rootAccount) (defaultDivvy : Bool) :
    (s.create drops defaultDivvy name).Ready drops n := by
  obtain ⟨hsketch, hfunds⟩ := h.create hdrops defaultDivvy name
  obtain ⟨haddress, haddresses⟩ := List.nodup_cons.1 h.addresses
  obtain ⟨hsecret, hsecrets⟩ := List.nodup_cons.1 h.secrets
  have hkeys := s.create_keys drops defaultDivvy name
  have hbook := s.create_book drops defaultDivvy name
  refine ⟨?_, ?_, ?_, by rwa [hkeys], by rwa [hkeys], ?_, ?_⟩
  · rw [hbook, get?_insert_of_ne hname.symm]
    exact h.root
  · obtain ⟨flags, hknown⟩ := h.known
    rw [hsketch]
    by_cases heq : genesisAddress = s.keys.draw.1.address
    · exact ⟨_, by rw [heq]; exact Function.update_self ..⟩
    · exact ⟨flags, (Function.update_of_ne heq ..).trans hknown⟩
  · have hall := h.funds
    rw [Nat.add_mul] at hall
    omega
  · intro pair hpair
    rw [hkeys] at hpair
    have hne : pair.address ≠ s.keys.draw.1.address := fun heq =>
      haddress (heq ▸ List.mem_map_of_mem hpair)
    rw [hsketch]
    exact (Function.update_of_ne hne ..).trans (h.new pair (List.mem_cons_of_mem _ hpair))
  · intro pair hpair known hknown
    rw [hkeys] at hpair
    rw [hbook] at hknown
    rcases mem_values_insert hknown with rfl | hold
    · exact fun heq => hsecret (heq ▸ List.mem_map_of_mem hpair)
    · exact h.fresh pair (List.mem_cons_of_mem _ hpair) known hold

theorem Leads.createAccount (h : s.Ready drops (n + 1)) (hdrops : drops ≠ 0)
    (hname : name ≠ rootAccount) (defaultDivvy : Bool) :
    Leads base (createAccount genesisAddress (.native drops) defaultDivvy name) s ()
      (s.create drops defaultDivvy name) := by
  rintro _ ⟨reporter, server, rfl, hserves⟩
  obtain ⟨reporter', hkeys⟩ := createAccount_linkedTo hserves.isOpen genesisAddress (.native drops)
    defaultDivvy name (serverless base) reporter s.book
  rw [hserves.keys] at hkeys
  have hmet : At base (s.meet name) (linkedTo (serverless base) reporter' server.propose
      (s.book.insert name s.keys.draw.1)) :=
    ⟨reporter', _, rfl, hserves.meet (h.fresh _ List.mem_cons_self) name⟩
  have hroot : (s.book.insert name s.keys.draw.1).get? rootAccount = some rootKeys := by
    rw [get?_insert_of_ne hname.symm]
    exact h.root
  have hpay : Leads base (Fixture.submitTransaction
      (.payment genesisAddress s.keys.draw.1.address (.native drops) false)) (s.meet name) ()
      (s.pay drops name) :=
    .submitTransaction hroot rfl (h.pay hdrops name).1
  suffices hrest : Leads base _ (s.meet name) () (s.create drops defaultDivvy name) by
    obtain ⟨scene, hran, hat⟩ := hrest _ hmet
    exact ⟨scene, hkeys.trans hran, hat⟩
  refine (hpay.inContext _).bind ?_
  cases defaultDivvy with
  | false => exact .pure ()
  | true =>
    have hself : (s.pay drops name).book.get? name = some s.keys.draw.1 := get?_insert_self ..
    have hset := (setDefaultDivvy_sketch (h.paid_flags hdrops name)).1
    exact (Leads.submitTransaction hself rfl hset).inContext _

theorem Leads.createAll {names : List String} (h : s.Ready drops names.length) (hdrops : drops ≠ 0)
    (hnames : rootAccount ∉ names) (defaultDivvy : Bool) :
    Leads base (names.forM (Fixture.createAccount genesisAddress (.native drops) defaultDivvy)) s ()
      (s.createAll drops defaultDivvy names) := by
  induction names generalizing s with
  | nil => exact .pure ()
  | cons name rest ih =>
    obtain ⟨hname, hrest⟩ := List.ne_and_not_mem_of_not_mem_cons hnames
    exact (Leads.createAccount h hdrops hname.symm defaultDivvy).bind
      (ih (h.next hdrops hname.symm defaultDivvy) hrest)

theorem Situation.createAll_keys (s : Situation) (drops : UInt64) (defaultDivvy : Bool)
    (names : List String) :
    (s.createAll drops defaultDivvy names).keys = s.keys.rest names.length := by
  induction names generalizing s with
  | nil => rfl
  | cons name rest ih =>
    rw [Situation.createAll, List.foldl_cons, ← Situation.createAll, ih, s.create_keys]
    rfl

end Create

theorem ready_start {keys : KeySource} {n : Nat} (h : keys.Distinct n) {drops : UInt64}
    (hfunds : n * drops.toNat ≤ genesisDrops.toNat) : (Situation.start keys).Ready drops n := by
  have haccount : ∀ address, (Situation.start keys).ledger.account? address =
      if address = genesisAddress then some ⟨genesisDrops, .none, 1⟩ else none := by
    intro address
    by_cases heq : address = genesisAddress
    · subst heq
      rw [if_pos rfl]
      exact Register.get?_insert_self ..
    · rw [if_neg heq]
      exact Register.get?_insert_of_ne _ _ heq
  refine ⟨get?_insert_self .., ⟨.none, ?_⟩, ?_, h.addresses, h.secrets, ?_, ?_⟩
  · simp only [sketch, haccount, if_true, Option.map_some]
  · simpa only [funds, haccount, if_true, Option.map_some, Option.getD_some] using hfunds
  · intro pair hpair
    simp only [sketch, haccount, if_neg (h.genesis pair hpair), Option.map_none]
  · intro pair hpair known hknown
    rcases mem_values_insert hknown with rfl | hold
    · exact Server.ne_genesisPassphrase (KeySource.isDrawn_of_mem_next hpair)
    · cases hold

/-- What every created account is paid: ten thousand XDV. -/
def startDrops : UInt64 := 10000000000

theorem Leads.createAccounts {s : Situation} {names : List String}
    (h : s.Ready startDrops names.length) (hnames : rootAccount ∉ names) (defaultDivvy : Bool) :
    Leads base (createAccounts rootAccount "10000.0" names defaultDivvy) s ()
      (s.createAll startDrops defaultDivvy names) := by
  have hamount : s.book.amount "10000.0" = .ok (.native startDrops) := by
    have hparse : Amount.parse "10000.0" = .ok (.native startDrops) := by decide +kernel
    simp only [AccountBook.amount, hparse]
    rfl
  exact (Leads.address (address_of_get? h.root)).bind ((Leads.amount hamount).bind
    (Leads.createAll h (by decide) hnames defaultDivvy))

end Fixture
end LedgerBench

import LedgerBench.Fixture.AccountBook
import LedgerBench.Proofs.Register
import LedgerBench.Proofs.Text.ByteOrder

/-! The names of an account book and the keys they stand for, after any entries. A name stands for
the keys of its last entry. A secret is looked up the other way round, by an address, and is found
under the least of the names that stand for this address then. -/

namespace LedgerBench.AccountBook

/-- The book with a list of accounts under their names. -/
def insertAll (book : AccountBook) (entries : List (String × KeyPair)) : AccountBook :=
  entries.foldl (fun book entry => book.insert entry.1 entry.2) book

/-- The keys of the last entry under a name. -/
def Latest (entries : List (String × KeyPair)) (name : String) (keys : KeyPair) : Prop :=
  ∃ earlier later, entries = earlier ++ (name, keys) :: later ∧ name ∉ later.map Prod.fst

section Entries

variable {book : AccountBook} {entries : List (String × KeyPair)} {name : String} {keys : KeyPair}

theorem get?_insertAll_of_not_mem (h : name ∉ entries.map Prod.fst) :
    (book.insertAll entries).get? name = book.get? name := by
  induction entries generalizing book with
  | nil => rfl
  | cons entry rest ih =>
    obtain ⟨hne, hrest⟩ := List.ne_and_not_mem_of_not_mem_cons h
    exact (ih hrest).trans (Register.get?_insert_of_ne _ _ hne)

theorem insertAll_append_singleton :
    book.insertAll (entries ++ [(name, keys)]) = (book.insertAll entries).insert name keys := by
  rw [insertAll, List.foldl_append]
  rfl

theorem exists_latest_of_mem (h : name ∈ entries.map Prod.fst) :
    ∃ keys, Latest entries name keys := by
  induction entries with
  | nil => cases h
  | cons entry rest ih =>
    by_cases hrest : name ∈ rest.map Prod.fst
    · obtain ⟨keys, earlier, later, rfl, hlater⟩ := ih hrest
      exact ⟨keys, entry :: earlier, later, rfl, hlater⟩
    · rcases List.mem_cons.1 h with rfl | hmem
      · exact ⟨entry.2, [], rest, rfl, hrest⟩
      · exact absurd hmem hrest

theorem Latest.mem (h : Latest entries name keys) : name ∈ entries.map Prod.fst := by
  obtain ⟨earlier, later, rfl, -⟩ := h
  simp

theorem Latest.get?_eq (h : Latest entries name keys) :
    (book.insertAll entries).get? name = some keys := by
  obtain ⟨earlier, later, rfl, hlater⟩ := h
  simp only [insertAll, List.foldl_append, List.foldl_cons]
  exact (get?_insertAll_of_not_mem hlater).trans (Register.get?_insert_self ..)

theorem get?_insertAll_eq_some_iff :
    (empty.insertAll entries).get? name = some keys ↔ Latest entries name keys := by
  refine ⟨fun h => ?_, Latest.get?_eq⟩
  have hmem : name ∈ entries.map Prod.fst := by
    by_contra hnot
    rw [get?_insertAll_of_not_mem hnot] at h
    cases h
  obtain ⟨last, hlast⟩ := exists_latest_of_mem hmem
  obtain rfl : last = keys := Option.some.inj (hlast.get?_eq.symm.trans h)
  exact hlast

end Entries

section Lookup

variable {entries : List (String × KeyPair)}

theorem names_ordered (book : AccountBook) :
    book.names.Pairwise fun a b => Text.utf8 a.toList < Text.utf8 b.toList := by
  rw [names, Register.keys, List.pairwise_map]
  exact book.accounts.ordered.imp fun h => Text.utf8_lt_iff.2 (compare_lt_iff_lt.1 h)

theorem mem_names_insertAll {name : String} :
    name ∈ (empty.insertAll entries).names ↔ name ∈ entries.map Prod.fst := by
  rw [names, Register.mem_keys_iff, Option.isSome_iff_exists]
  constructor
  · rintro ⟨keys, h⟩
    exact (get?_insertAll_eq_some_iff.1 h).mem
  · intro h
    obtain ⟨keys, hkeys⟩ := exists_latest_of_mem h
    exact ⟨keys, hkeys.get?_eq⟩

theorem Latest.address_eq {name : String} {keys : KeyPair} (h : Latest entries name keys) :
    (empty.insertAll entries).address name = .ok keys.address := by
  simp only [address, h.get?_eq]

theorem secretFor_eq_ok_iff {book : AccountBook} {address secret : String} :
    book.secretFor address = .ok secret ↔
      ∃ keys, book.accounts.values.find? (·.address == address) = some keys ∧
        keys.secret = secret := by
  unfold secretFor
  split
  · next keys hkeys => simp [hkeys]
  · next hnone => simp [hnone]

/-- The secret is that of the least name whose keys have the address. -/
theorem secretFor_insertAll_iff {address secret : String} :
    (empty.insertAll entries).secretFor address = .ok secret ↔
      ∃ name keys, Latest entries name keys ∧ keys.address = address ∧ keys.secret = secret ∧
        ∀ other known, Latest entries other known → known.address = address →
          Text.utf8 name.toList ≤ Text.utf8 other.toList := by
  have hleast (name other : String) :
      compare name other ≠ .gt ↔ Text.utf8 name.toList ≤ Text.utf8 other.toList := by
    rw [Text.utf8_le_iff, compare_le_iff_le]
  have hget (name : String) (keys : KeyPair) :
      (empty.insertAll entries).accounts.get? name = some keys ↔ Latest entries name keys :=
    get?_insertAll_eq_some_iff
  simp only [secretFor_eq_ok_iff, Register.find?_values_eq_some_iff, hget, beq_iff_eq, hleast]
  constructor
  · rintro ⟨keys, ⟨name, hlatest, haddress, hnames⟩, hsecret⟩
    exact ⟨name, keys, hlatest, haddress, hsecret, hnames⟩
  · rintro ⟨name, keys, hlatest, haddress, hsecret, hnames⟩
    exact ⟨keys, ⟨name, hlatest, haddress, hnames⟩, hsecret⟩

/-- An address of the book has the secret of some account that has this address. -/
theorem exists_secretFor {book : AccountBook} {pair : KeyPair}
    (hmem : pair ∈ book.accounts.values) : ∃ known ∈ book.accounts.values,
      known.address = pair.address ∧ book.secretFor pair.address = .ok known.secret := by
  cases hfound : book.accounts.values.find? (·.address == pair.address) with
  | none =>
    have hnone := List.find?_eq_none.1 hfound pair hmem
    simp at hnone
  | some known =>
    have haddress : known.address = pair.address := by simpa using List.find?_some hfound
    exact ⟨known, List.mem_of_find?_eq_some hfound, haddress, by simp only [secretFor, hfound]⟩

theorem exists_secretFor_insertAll_iff {address : String} :
    (∃ secret, (empty.insertAll entries).secretFor address = .ok secret) ↔
      ∃ name keys, Latest entries name keys ∧ keys.address = address := by
  constructor
  · rintro ⟨secret, h⟩
    obtain ⟨name, keys, hlatest, haddress, -⟩ := secretFor_insertAll_iff.1 h
    exact ⟨name, keys, hlatest, haddress⟩
  · rintro ⟨name, keys, hlatest, rfl⟩
    have hmem : keys ∈ (empty.insertAll entries).accounts.values :=
      List.mem_map_of_mem (Register.mem_entries_of_get? hlatest.get?_eq)
    obtain ⟨known, -, -, hsecret⟩ := exists_secretFor hmem
    exact ⟨known.secret, hsecret⟩

theorem latest_append_singleton_iff {name other : String} {keys known : KeyPair} :
    Latest (entries ++ [(name, keys)]) other known ↔
      other = name ∧ known = keys ∨ other ≠ name ∧ Latest entries other known := by
  rw [← get?_insertAll_eq_some_iff, insertAll_append_singleton, ← get?_insertAll_eq_some_iff]
  by_cases hname : other = name
  · subst hname
    have hget : ((empty.insertAll entries).insert other keys).get? other = some keys :=
      Register.get?_insert_self ..
    simp [hget, eq_comm]
  · have hget : ((empty.insertAll entries).insert name keys).get? other =
        (empty.insertAll entries).get? other := Register.get?_insert_of_ne _ _ hname
    simp [hget, hname]

end Lookup

/-- After any entries the names are those that were entered, in the order of their bytes, and each
stands for the keys of its last entry. An address has a secret as long as a name stands for it, that
of the least such name; so names that stand for different addresses are found again by them, and an
address is forgotten with its only name. -/
theorem names_find_secrets (entries : List (String × KeyPair)) :
    let book := empty.insertAll entries
    book.names.Pairwise (fun a b => Text.utf8 a.toList < Text.utf8 b.toList) ∧
    (∀ name, name ∈ book.names ↔ ∃ keys, (name, keys) ∈ entries) ∧
    (∀ name ∈ book.names, ∃ keys, Latest entries name keys) ∧
    (∀ name keys, Latest entries name keys → book.address name = .ok keys.address) ∧
    (∀ address, (∃ secret, book.secretFor address = .ok secret) ↔
      ∃ name keys, Latest entries name keys ∧ keys.address = address) ∧
    (∀ address secret, book.secretFor address = .ok secret ↔
      ∃ name keys, Latest entries name keys ∧ keys.address = address ∧ keys.secret = secret ∧
        ∀ other known, Latest entries other known → known.address = address →
          Text.utf8 name.toList ≤ Text.utf8 other.toList) ∧
    ((∀ name keys other known, Latest entries name keys → Latest entries other known →
        keys.address = known.address → name = other) →
      ∀ name keys, Latest entries name keys →
        (book.address name >>= book.secretFor) = .ok keys.secret) ∧
    ∀ name keys address, (∀ other known, Latest entries other known → known.address = address →
        other = name) → keys.address ≠ address →
      ∀ secret, (book.insert name keys).secretFor address ≠ .ok secret := by
  intro book
  refine ⟨book.names_ordered, fun name => ?_, fun name h => ?_, fun _ _ => Latest.address_eq,
    fun _ => exists_secretFor_insertAll_iff, fun _ _ => secretFor_insertAll_iff, ?_, ?_⟩
  · rw [mem_names_insertAll]
    simp
  · exact exists_latest_of_mem (mem_names_insertAll.1 h)
  · intro hdistinct name keys hlatest
    rw [hlatest.address_eq]
    refine secretFor_insertAll_iff.2 ⟨name, keys, hlatest, rfl, rfl, fun other known hother h => ?_⟩
    rw [hdistinct other known name keys hother hlatest h]
    exact List.le_refl _
  · intro name keys address honly hne secret hsecret
    rw [← insertAll_append_singleton] at hsecret
    obtain ⟨other, known, hlatest, rfl, -⟩ := secretFor_insertAll_iff.1 hsecret
    rcases latest_append_singleton_iff.1 hlatest with ⟨-, rfl⟩ | ⟨hother, hlatest⟩
    · exact hne rfl
    · exact hother (honly other known hlatest rfl)

/-- The first address of a name that is entered twice is forgotten. -/
theorem renamed_forgotten :
    let old : KeyPair := ⟨"rOld", "sOld"⟩
    let new : KeyPair := ⟨"rNew", "sNew"⟩
    let entries := [("bob", old), ("alice", ⟨"rAlice", "sAlice"⟩)]
    let book := empty.insertAll entries
    (∀ name keys other known, Latest entries name keys → Latest entries other known →
        keys.address = known.address → name = other) ∧
      Latest entries "bob" old ∧ (book.address "bob" >>= book.secretFor) = .ok "sOld" ∧
      ∀ secret, (book.insert "bob" new).secretFor "rOld" ≠ .ok secret := by
  intro old new entries book
  obtain ⟨-, -, -, -, -, -, hfound, hforgotten⟩ := names_find_secrets entries
  have hlatest : ∀ name keys, Latest entries name keys ↔
      name = "alice" ∧ keys = ⟨"rAlice", "sAlice"⟩ ∨ name = "bob" ∧ keys = old := by
    intro name keys
    have hnone : ¬Latest [] name keys := fun h => List.not_mem_nil h.mem
    have hbob : Latest ([] ++ [("bob", old)]) name keys ↔ _ := latest_append_singleton_iff
    have halice : Latest ([("bob", old)] ++ [("alice", ⟨"rAlice", "sAlice"⟩)]) name keys ↔ _ :=
      latest_append_singleton_iff
    simp only [hnone, and_false, or_false, List.nil_append] at hbob
    refine halice.trans (or_congr_right ?_)
    rw [hbob, and_iff_right_iff_imp]
    rintro ⟨rfl, -⟩
    decide
  have hdistinct : ∀ name keys other known, Latest entries name keys →
      Latest entries other known → keys.address = known.address → name = other := by
    intro name keys other known hname hother
    rcases (hlatest _ _).1 hname with ⟨rfl, rfl⟩ | ⟨rfl, rfl⟩ <;>
      rcases (hlatest _ _).1 hother with ⟨rfl, rfl⟩ | ⟨rfl, rfl⟩ <;> decide
  have hbob : Latest entries "bob" old := (hlatest _ _).2 (.inr ⟨rfl, rfl⟩)
  refine ⟨hdistinct, hbob, hfound hdistinct "bob" old hbob,
    hforgotten "bob" new "rOld" (fun other known hother haddress => ?_) (by decide)⟩
  rcases (hlatest _ _).1 hother with ⟨rfl, rfl⟩ | ⟨rfl, rfl⟩
  · exact absurd haddress (by decide)
  · rfl

end LedgerBench.AccountBook

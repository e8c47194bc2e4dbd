/-! Keys of accounts and the source from which new ones are drawn. -/

namespace LedgerBench

structure KeyPair where
  address : String
  secret : String
  deriving Repr, DecidableEq

namespace KeyPair

def alphabet : List Char :=
  "rpshnaf39wBUDNEGHJKLM4PQRST7VWXYZ2bcdeCg65jkm8oFqi1tuvAxyz".toList

def IsFormed (letter : Char) (length : Nat) (text : String) : Prop :=
  ∃ rest, text = String.ofList (letter :: rest) ∧ rest.length = length ∧ ∀ c ∈ rest, c ∈ alphabet

def IsDrawn (pair : KeyPair) : Prop :=
  IsFormed 'r' 33 pair.address ∧ IsFormed 's' 28 pair.secret

end KeyPair

structure KeySource where
  key : Nat → KeyPair
  isDrawn : ∀ n, (key n).IsDrawn
  drawn : Nat

namespace KeySource

def draw (source : KeySource) : KeyPair × KeySource :=
  (source.key source.drawn, { source with drawn := source.drawn + 1 })

def advance (state : UInt64) : UInt64 :=
  state * 6364136223846793005 + 1442695040888963407

def charOf (state : UInt64) : Char :=
  KeyPair.alphabet.getD ((state >>> 33).toNat % 58) 'r'

theorem charOf_mem (state : UInt64) : charOf state ∈ KeyPair.alphabet := by
  have hlen : KeyPair.alphabet.length = 58 := by decide
  have hlt : (state >>> 33).toNat % 58 < KeyPair.alphabet.length := by omega
  rw [charOf, List.getD_eq_getElem?_getD, List.getElem?_eq_getElem hlt]
  exact List.getElem_mem hlt

def drawChars : Nat → UInt64 → List Char × UInt64
  | 0, state => ([], state)
  | n + 1, state =>
    let next := advance state
    let (rest, last) := drawChars n next
    (charOf next :: rest, last)

theorem drawChars_formed (n : Nat) (state : UInt64) :
    (drawChars n state).1.length = n ∧ ∀ c ∈ (drawChars n state).1, c ∈ KeyPair.alphabet := by
  induction n generalizing state with
  | zero => simp [drawChars]
  | succ n ih =>
    obtain ⟨hlen, hmem⟩ := ih (advance state)
    simp only [drawChars, List.length_cons, hlen, List.forall_mem_cons]
    exact ⟨trivial, charOf_mem _, hmem⟩

def drawPair (state : UInt64) : KeyPair × UInt64 :=
  let address := drawChars 33 state
  let secret := drawChars 28 address.2
  (⟨String.ofList ('r' :: address.1), String.ofList ('s' :: secret.1)⟩, secret.2)

theorem drawPair_isDrawn (state : UInt64) : (drawPair state).1.IsDrawn := by
  have ha := drawChars_formed 33 state
  have hs := drawChars_formed 28 (drawChars 33 state).2
  simp only [drawPair]
  exact ⟨⟨_, rfl, ha⟩, ⟨_, rfl, hs⟩⟩

def pairAt (n : Nat) (state : UInt64) : KeyPair :=
  (drawPair (Nat.repeat (fun s => (drawPair s).2) n state)).1

def seeded (seed : UInt64) : KeySource where
  key n := pairAt n seed
  isDrawn _ := drawPair_isDrawn _
  drawn := 0

end KeySource
end LedgerBench

/-! Blank characters and trimming. A character is blank when the character database gives it the
property `White_Space`, so a no-break space is trimmed and a zero-width space is not. -/

namespace LedgerBench.Text

/-- The characters with the property `White_Space`. -/
def isBlank (c : Char) : Bool :=
  let n := c.toNat
  (9 ≤ n && n ≤ 13) || n == 0x20 || n == 0x85 || n == 0xA0 || n == 0x1680 ||
    (0x2000 ≤ n && n ≤ 0x200A) || n == 0x2028 || n == 0x2029 || n == 0x202F || n == 0x205F ||
    n == 0x3000

theorem isBlank_of_isWhitespace {c : Char} (h : c.isWhitespace = true) : isBlank c = true := by
  simp only [Char.isWhitespace, Bool.or_eq_true, decide_eq_true_eq] at h
  rcases h with ((rfl | rfl) | rfl) | rfl <;> decide

def trimBlanks (s : List Char) : List Char :=
  ((s.dropWhile isBlank).reverse.dropWhile isBlank).reverse

theorem trimBlanks_eq_self {s : List Char} (h : ∀ c ∈ s, isBlank c = false) : trimBlanks s = s := by
  have hdrop (t : List Char) (ht : ∀ c ∈ t, isBlank c = false) : t.dropWhile isBlank = t := by
    cases t with
    | nil => rfl
    | cons c rest => simp [ht c List.mem_cons_self]
  rw [trimBlanks, hdrop s h, hdrop s.reverse fun c hc => h c (List.mem_reverse.1 hc),
    List.reverse_reverse]

/-- The parts of a text between the occurrences of a character; one more than there are of them. -/
def splitAtEach (c : Char) : List Char → List (List Char)
  | [] => [[]]
  | d :: rest =>
    if d = c then [] :: splitAtEach c rest
    else
      match splitAtEach c rest with
      | [] => [[d]]
      | part :: parts => (d :: part) :: parts

theorem splitAtEach_ne_nil (c : Char) (s : List Char) : splitAtEach c s ≠ [] := by
  cases s with
  | nil => simp [splitAtEach]
  | cons d rest =>
    simp only [splitAtEach]
    split
    · simp
    · split <;> simp

theorem length_splitAtEach (c : Char) (s : List Char) :
    (splitAtEach c s).length = s.count c + 1 := by
  induction s with
  | nil => rfl
  | cons d rest ih =>
    by_cases h : d = c
    · simp [splitAtEach, h, ih]
    · have hd : (d == c) = false := by simpa using h
      simp only [splitAtEach, h, List.count_cons, hd, Bool.false_eq_true, ↓reduceIte,
        Nat.add_zero]
      cases hs : splitAtEach c rest with
      | nil => exact absurd hs (splitAtEach_ne_nil c rest)
      | cons part parts => simpa [hs] using ih

theorem splitAtEach_of_not_mem {c : Char} {s : List Char} (h : c ∉ s) : splitAtEach c s = [s] := by
  induction s with
  | nil => rfl
  | cons d rest ih =>
    have hne : d ≠ c := fun heq => h (heq ▸ List.mem_cons_self)
    simp [splitAtEach, hne, ih fun hmem => h (List.mem_cons_of_mem d hmem)]

def occursIn (part : List Char) : List Char → Bool
  | [] => part.isEmpty
  | c :: rest => part.isPrefixOf (c :: rest) || occursIn part rest

end LedgerBench.Text

import LedgerBench.Net.Percent

/-! Labels in small letters, digits and hyphens. The plain characters of a label come first, and
after the last hyphen the others follow in the order of their code points, each as the distance from
the one before it. A distance is written in digits of base 36, the lowest first; a digit below the
threshold of its place is the last one. The thresholds adapt to the distances so far. -/

namespace LedgerBench.Net.Domain.Punycode

def isPlain (c : Char) : Bool :=
  c.toNat < 0x80

def digitChar (d : Nat) : Char :=
  if d < 26 then Char.ofNat ('a'.toNat + d) else Char.ofNat ('0'.toNat + (d - 26))

def digitValue (c : Char) : Option Nat :=
  if 'a' ≤ c ∧ c ≤ 'z' then some (c.toNat - 'a'.toNat)
  else if '0' ≤ c ∧ c ≤ '9' then some (c.toNat - '0'.toNat + 26)
  else none

theorem digitValue_digitChar {d : Nat} (h : d < 36) : digitValue (digitChar d) = some d := by
  have all : ∀ e ∈ List.range 36, digitValue (digitChar e) = some e := by decide
  exact all d (List.mem_range.mpr h)

def threshold (bias place : Nat) : Nat :=
  if place ≤ bias then 1 else if bias + 26 ≤ place then 26 else place - bias

theorem threshold_bounds (bias place : Nat) :
    1 ≤ threshold bias place ∧ threshold bias place ≤ 26 := by
  unfold threshold
  split
  · omega
  · split <;> omega

def reduce (distance count : Nat) : Nat × Nat :=
  if 455 < distance then reduce (distance / 35) (count + 36) else (distance, count)
termination_by distance
decreasing_by exact Nat.div_lt_self (by omega) (by omega)

def adapt (distance length : Nat) (isFirst : Bool) : Nat :=
  let half := if isFirst then distance / 700 else distance / 2
  let (rest, count) := reduce (half + half / length) 0
  count + 36 * rest / (rest + 38)

/-! ### Writing -/

def digits (bias place distance : Nat) : List Char :=
  let t := threshold bias place
  if distance < t then [digitChar distance]
  else
    digitChar (t + (distance - t) % (36 - t)) ::
      digits bias (place + 36) ((distance - t) / (36 - t))
termination_by distance
decreasing_by
  have h := threshold_bounds bias place
  have := Nat.div_le_self (distance - threshold bias place) (36 - threshold bias place)
  omega

structure Writing where
  written : List Char
  distance : Nat
  bias : Nat
  done : Nat

def Writing.pass (plain wanted : Nat) (w : Writing) (c : Char) : Writing :=
  if c.toNat < wanted then { w with distance := w.distance + 1 }
  else if c.toNat = wanted then
    { written := (digits w.bias 36 w.distance).reverse ++ w.written
      distance := 0
      bias := adapt w.distance (w.done + 1) (w.done == plain)
      done := w.done + 1 }
  else w

/-- Passes over the label once for each of its code points that are not plain. -/
def writeAll (label : List Char) (plain : Nat) : Nat → Writing → List Nat → Writing
  | _, w, [] => w
  | floor, w, wanted :: rest =>
    let w := { w with distance := w.distance + (wanted - floor) * (w.done + 1) }
    let w := label.foldl (Writing.pass plain wanted) w
    writeAll label plain (wanted + 1) { w with distance := w.distance + 1 } rest

def encode (label : List Char) : List Char :=
  let plain := label.filter isPlain
  let others := ((label.filter fun c => !isPlain c).map Char.toNat).eraseDups.mergeSort
  let w := writeAll label plain.length 0x80 ⟨[], 0, 72, plain.length⟩ others
  plain ++ (if plain.isEmpty then [] else ['-']) ++ w.written.reverse

/-! ### Reading -/

/-- Reads a distance; the weight of a digit depends on the thresholds before it. -/
def readDistance (bias : Nat) : Nat → Nat → Nat → List Char → Option (Nat × List Char)
  | _, _, _, [] => none
  | place, weight, sum, c :: rest =>
    match digitValue c with
    | none => none
    | some d =>
      if d < threshold bias place then some (sum + d * weight, rest)
      else
        readDistance bias (place + 36) (weight * (36 - threshold bias place)) (sum + d * weight)
          rest

theorem length_of_readDistance {bias place weight sum : Nat} {s rest : List Char} {n : Nat}
    (h : readDistance bias place weight sum s = some (n, rest)) : rest.length < s.length := by
  induction s generalizing place weight sum with
  | nil => simp [readDistance] at h
  | cons c s ih =>
    rw [readDistance] at h
    split at h
    · simp at h
    · split at h
      · cases h; simp
      · have := ih h
        simp only [List.length_cons]
        omega

/-- Puts the characters that the digits tell of into a text. Of these `code` was the last one, and
the next stands at `position` or after it. -/
def readAll (bias code position : Nat) (text s : List Char) : Option (List Char) :=
  if s.isEmpty then some text
  else
    match h : readDistance bias 36 1 0 s with
    | none => none
    | some (distance, rest) =>
      let length := text.length + 1
      let sum := position + distance
      let code := code + sum / length
      if code.isValidChar then
        let text := text.insertIdx (sum % length) (Char.ofNat code)
        readAll (adapt distance length (position == 0)) code (sum % length + 1) text rest
      else none
termination_by s.length
decreasing_by exact length_of_readDistance h

/-- The label that a text stands for. A hyphen has to have something before it. -/
def decode (s : List Char) : Option (List Char) :=
  match s.reverse.dropWhile (· != '-') with
  | [] => readAll 72 0x80 0 [] s
  | [_] => none
  | _ :: plain => readAll 72 0x80 0 plain.reverse (s.reverse.takeWhile (· != '-')).reverse

end LedgerBench.Net.Domain.Punycode

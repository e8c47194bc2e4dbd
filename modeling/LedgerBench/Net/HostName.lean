import LedgerBench.Decimal.Digits
import LedgerBench.Net.Domain.Name

/-! The host of an address: a name, or an IP address in one of its spellings. -/

namespace LedgerBench.Net

open Text (hexValue)

inductive UrlError where
  | relativeWithoutBase
  | emptyHost
  | invalidPort
  | invalidIpv4
  | invalidIpv6
  | invalidDomainCharacter
  | invalidDomainName
  deriving Repr, DecidableEq

def UrlError.message : UrlError → String
  | .relativeWithoutBase => "relative URL without a base"
  | .emptyHost => "empty host"
  | .invalidPort => "invalid port number"
  | .invalidIpv4 => "invalid IPv4 address"
  | .invalidIpv6 => "invalid IPv6 address"
  | .invalidDomainCharacter => "invalid domain character"
  | .invalidDomainName => "invalid international domain name"

inductive HostName where
  | name (text : String)
  | ipv4 (address : Nat)
  | ipv6 (pieces : List Nat)
  deriving Repr, DecidableEq

def readInBase (base : Nat) (s : List Char) : Option Nat :=
  s.foldl (fun n c => do
    let d ← hexValue c
    let n ← n
    if d < base then some (base * n + d) else none) (some 0)

/-! ### Four numbers -/

/-- A part of an address in decimal, octal after `0`, or hexadecimal after `0x`. -/
def readIpv4Part : List Char → Option Nat
  | [] => none
  | ['0'] => some 0
  | '0' :: 'x' :: rest => readInBase 16 rest
  | '0' :: 'X' :: rest => readInBase 16 rest
  | '0' :: rest => readInBase 8 rest
  | s => readInBase 10 s

/-- The parts between the points; a point at the end counts for nothing. -/
def dottedParts (s : List Char) : List (List Char) :=
  let parts := Text.splitAtEach '.' s
  if parts.length > 1 && parts.getLast? == some [] then parts.dropLast else parts

def endsInNumber (s : List Char) : Bool :=
  match (dottedParts s).getLast? with
  | none | some [] => false
  | some ('0' :: 'x' :: rest) => rest.all fun c => (hexValue c).isSome
  | some ('0' :: 'X' :: rest) => rest.all fun c => (hexValue c).isSome
  | some last => last.all Decimal.isDigit

/-- Puts the parts together: each but the last is a byte, and the last fills what is left. -/
def joinIpv4 : List Nat → Option Nat
  | [] => none
  | numbers =>
    let firsts := numbers.dropLast
    let last := numbers.getLastD 0
    if numbers.length ≤ 4 && firsts.all (· < 256) && last < Nat.pow 256 (5 - numbers.length) then
      some (firsts.foldl (fun n b => 256 * n + b) 0 * Nat.pow 256 (5 - numbers.length) + last)
    else none

def readIpv4 (s : List Char) : Option Nat :=
  ((dottedParts s).mapM readIpv4Part).bind joinIpv4

def ipv4Text (n : Nat) : List Char :=
  ['.'].intercalate
    ([n / Nat.pow 256 3 % 256, n / Nat.pow 256 2 % 256, n / 256 % 256, n % 256].map Decimal.digits)

/-! ### Eight pieces -/

def splitAtGap : List Char → Option (List Char × List Char)
  | ':' :: ':' :: rest => some ([], rest)
  | c :: rest => (splitAtGap rest).map fun (a, b) => (c :: a, b)
  | [] => none

def readByte (s : List Char) : Option Nat :=
  if s.length > 1 && s.head? == some '0' then none
  else if s.isEmpty then none
  else (Decimal.readDigits 0 s).filter (· < 256)

/-- The pieces of one group; four numbers with points are two pieces and stand last. -/
def readGroup (isLast : Bool) (s : List Char) : Option (List Nat) :=
  if s.contains '.' then
    match isLast, (Text.splitAtEach '.' s).mapM readByte with
    | true, some [a, b, c, d] => some [256 * a + b, 256 * c + d]
    | _, _ => none
  else if s.isEmpty || s.length > 4 then none
  else (readInBase 16 s).map fun n => [n]

def readGroups (atEnd : Bool) (s : List Char) : Option (List Nat) :=
  if s.isEmpty then some []
  else
    let groups := Text.splitAtEach ':' s
    (groups.mapIdx fun i g => readGroup (atEnd && i + 1 == groups.length) g).mapM id
      |>.map List.flatten

def readIpv6 (s : List Char) : Option (List Nat) :=
  match splitAtGap s with
  | none => (readGroups true s).filter fun pieces => pieces.length == 8
  | some (left, right) => do
    let before ← readGroups right.isEmpty left
    let after ← readGroups true right
    let given := before.length + after.length
    if given ≤ 7 then
      some (before ++ List.replicate (8 - given) 0 ++ after)
    else none

def pieceText (n : Nat) : List Char :=
  Nat.toDigits 16 n

def zerosAtStart (pieces : List Nat) : Nat :=
  (pieces.takeWhile (· == 0)).length

/-- Where the first of the longest runs of zeros starts, and its length. -/
def longestGap (pieces : List Nat) : Nat × Nat :=
  (List.range pieces.length).foldl
    (fun (best : Nat × Nat) i =>
      let run := zerosAtStart (pieces.drop i)
      if best.2 < run then (i, run) else best) (0, 0)

def ipv6Text (pieces : List Nat) : List Char :=
  let groups := fun ps => [':'].intercalate (ps.map pieceText)
  let (start, length) := longestGap pieces
  if length < 2 then groups pieces
  else groups (pieces.take start) ++ ':' :: ':' :: groups (pieces.drop (start + length))

/-! ### Hosts -/

def HostName.read (s : List Char) : Except UrlError HostName :=
  match s with
  | '[' :: rest =>
    if rest.getLast? = some ']' then
      match readIpv6 rest.dropLast with
      | some pieces => .ok (.ipv6 pieces)
      | none => .error .invalidIpv6
    else .error .invalidIpv6
  | s =>
    match Text.readUtf8 (percentDecode s) with
    | .error _ => .error .invalidDomainName
    | .ok decoded =>
      match Domain.plainName decoded with
      | none => .error .invalidDomainName
      | some [] => .error .emptyHost
      | some plain =>
        if endsInNumber plain then
          match readIpv4 plain with
          | some n => .ok (.ipv4 n)
          | none => .error .invalidIpv4
        else .ok (.name (String.ofList plain))

def HostName.text : HostName → List Char
  | .name text => text.toList
  | .ipv4 n => ipv4Text n
  | .ipv6 pieces => '[' :: ipv6Text pieces ++ [']']

end LedgerBench.Net

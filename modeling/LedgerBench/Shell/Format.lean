import LedgerBench.Decimal.Places
import LedgerBench.Decimal.Reading
import LedgerBench.Json.Printer
import LedgerBench.Shell.Scope

/-! Texts as the commands `echo` and `printf` write them. -/

namespace LedgerBench.Shell.Format

def escapeOf? (c : Char) : Option Char :=
  match c with
  | 'a' => some '\x07'
  | 'b' => some '\x08'
  | 'e' => some '\x1b'
  | 'f' => some '\x0c'
  | 'n' => some '\n'
  | 'r' => some '\r'
  | 't' => some '\t'
  | 'v' => some '\x0b'
  | '\\' => some '\\'
  | _ => none

def takeOctal (digits : List Char) : Char × List Char :=
  let (value, count) := takeDigits 8 0 0 (digits.take 3)
  (Char.ofNat (value % 256), digits.drop count)

def takeEscape : List Char → List Char × List Char
  | [] => (['\\'], [])
  | c :: rest =>
    match escapeOf? c with
    | some e => ([e], rest)
    | none =>
      if '0' ≤ c ∧ c ≤ '7' then
        let (e, rest) := takeOctal (c :: rest)
        ([e], rest)
      else (['\\', c], rest)

/-- A text with its escapes put in, and whether it went on to its end: `\c` stops it. A number with
the base 8 may have one more digit if it begins with a zero. -/
def unescaped : Nat → List Char → List Char × Bool
  | 0, _ | _, [] => ([], true)
  | _ + 1, '\\' :: 'c' :: _ => ([], false)
  | fuel + 1, '\\' :: rest =>
    let (first, rest) := match rest with
      | '0' :: d :: more => if '0' ≤ d ∧ d ≤ '7' then takeEscape (d :: more) else takeEscape rest
      | rest => takeEscape rest
    let (more, isWhole) := unescaped fuel rest
    (first ++ more, isWhole)
  | fuel + 1, c :: rest =>
    let (more, isWhole) := unescaped fuel rest
    (c :: more, isWhole)

def echo (args : List String) : String :=
  let (args, ended) := match args with
    | "-n" :: rest => (rest, false)
    | args => (args, true)
  let text := (Json.joined " " args).toList
  let (text, isWhole) := unescaped text.length text
  String.ofList (if ended && isWhole then text ++ ['\n'] else text)

inductive Count where
  | fixed (n : Nat)
  | argument
  deriving Repr, DecidableEq

inductive Segment where
  | char (c : Char)
  | directive (flags : List Char) (width precision : Option Count) (kind : Char)
  | invalid (text : String)
  deriving Repr, DecidableEq

def takeCount : List Char → Option Count × List Char
  | '*' :: rest => (some .argument, rest)
  | text =>
    let (n, count) := takeDigits 10 0 0 text
    (if count = 0 then none else some (.fixed n), text.drop count)

def takeDirective (text : List Char) : Segment × List Char :=
  let isFlag := fun c => "#-+ 0".toList.contains c
  let flags := text.takeWhile isFlag
  let (width, rest) := takeCount (text.dropWhile isFlag)
  let (precision, rest) := match rest with
    | '.' :: rest =>
      let (count, rest) := takeCount rest
      (some (count.getD (.fixed 0)), rest)
    | rest => (none, rest)
  match rest with
  | c :: rest =>
    if "diouxXeEfFgGaAcsb".toList.contains c then (.directive flags width precision c, rest)
    else (.invalid (String.ofList ('%' :: text.take 1)), rest)
  | [] => (.invalid (String.ofList ('%' :: text.take 1)), [])

def segments : Nat → List Char → List Segment
  | 0, _ | _, [] => []
  | fuel + 1, '%' :: '%' :: rest => .char '%' :: segments fuel rest
  | fuel + 1, '%' :: rest =>
    let (segment, rest) := takeDirective rest
    segment :: segments fuel rest
  | fuel + 1, '\\' :: rest =>
    let (text, rest) := takeEscape rest
    text.map .char ++ segments fuel rest
  | fuel + 1, c :: rest => .char c :: segments fuel rest

def numberOf (text : String) : Int × Bool :=
  match text.toList with
  | '\'' :: c :: _ | '"' :: c :: _ => (c.toNat, true)
  | ['\''] | ['"'] => (0, true)
  | chars =>
    let digits := chars.dropWhile isSpace
    let (negative, digits) := match digits with
      | '-' :: rest => (true, rest)
      | '+' :: rest => (false, rest)
      | rest => (false, rest)
    match takeNumber true digits with
    | some (n, rest) => (if negative then -n else n, rest.isEmpty)
    | none => (0, chars.isEmpty)

def padded (flags : List Char) (width : Nat) (text : List Char) : List Char :=
  let blanks := List.replicate (width - text.length) ' '
  if flags.contains '-' then text ++ blanks else blanks ++ text

def paddedNumber (flags : List Char) (width : Nat) (precision : Option Nat) (sign digits : List Char) :
    List Char :=
  let digits := List.replicate (precision.getD 1 - digits.length) '0' ++ digits
  if flags.contains '0' && !flags.contains '-' && precision.isNone then
    sign ++ List.replicate (width - sign.length - digits.length) '0' ++ digits
  else padded flags width (sign ++ digits)

def signOf (flags : List Char) (negative : Bool) : List Char :=
  if negative then ['-']
  else if flags.contains '+' then ['+']
  else if flags.contains ' ' then [' ']
  else []

def wholeText (flags : List Char) (width : Nat) (precision : Option Nat) (kind : Char) (n : Int) :
    List Char :=
  let word := (n.emod (Nat.pow 2 64)).toNat
  let number (sign digits : List Char) := paddedNumber flags width precision sign digits
  let marked (mark : String) := if flags.contains '#' && word != 0 then mark.toList else []
  match kind with
  | 'u' => number [] (Nat.toDigits 10 word)
  | 'o' => number (marked "0") (Nat.toDigits 8 word)
  | 'x' => number (marked "0x") (Nat.toDigits 16 word)
  | 'X' => number (marked "0X") ((Nat.toDigits 16 word).map Char.toUpper)
  | _ => number (signOf flags (n < 0)) (Nat.toDigits 10 n.natAbs)

def realText (flags : List Char) (width : Nat) (precision : Option Nat) (x : Float) : List Char :=
  let places := precision.getD 6
  let text := (Decimal.fixedText (max places 1) x).toList
  let digits := text.filter (· != '-')
  let digits := if places = 0 then digits.takeWhile (· != '.') else digits
  paddedNumber flags width none (signOf flags (text.head? == some '-')) digits

structure Written where
  text : List Char
  args : List String
  status : Nat
  isOver : Bool

def countOf (args : List String) : Option Count → Option Int × List String
  | none => (none, args)
  | some (.fixed n) => (some n, args)
  | some .argument => (some (numberOf (args.headD "")).1, args.tail)

def writeDirective (flags : List Char) (width precision : Option Count) (kind : Char)
    (args : List String) : Written :=
  let (width, args) := countOf args width
  let (precision, args) := countOf args precision
  let flags := if width.any (· < 0) then '-' :: flags else flags
  let width := (width.getD 0).natAbs
  let precision := (precision.filter (0 ≤ ·)).map Int.toNat
  let arg := args.headD ""
  let cut (text : List Char) := match precision with
    | some n => text.take n
    | none => text
  match kind with
  | 's' => ⟨padded flags width (cut arg.toList), args.tail, 0, false⟩
  | 'c' => ⟨padded flags width (arg.toList.take 1), args.tail, 0, false⟩
  | 'b' =>
    let (text, isWhole) := unescaped arg.length arg.toList
    ⟨padded flags width (cut text), args.tail, 0, !isWhole⟩
  | 'd' | 'i' | 'o' | 'u' | 'x' | 'X' =>
    let (n, isNumber) := numberOf arg
    ⟨wholeText flags width precision kind n, args.tail, if isNumber then 0 else 1, false⟩
  | _ =>
    match if arg.isEmpty then .ok 0 else Decimal.readReal arg.toList with
    | .ok x => ⟨realText flags width precision x, args.tail, 0, false⟩
    | .error _ => ⟨realText flags width precision 0, args.tail, 1, false⟩

def writeOnce : List Segment → List String → Written
  | [], args => ⟨[], args, 0, false⟩
  | segment :: rest, args =>
    let first : Written := match segment with
      | .char c => ⟨[c], args, 0, false⟩
      | .directive flags width precision kind => writeDirective flags width precision kind args
      | .invalid _ => ⟨[], args, 2, true⟩
    if first.isOver then first
    else
      let more := writeOnce rest first.args
      { more with text := first.text ++ more.text, status := max first.status more.status }

def writeAll (segments : List Segment) : Nat → List String → List Char × Nat
  | 0, _ => ([], 0)
  | fuel + 1, args =>
    let once := writeOnce segments args
    if once.isOver || once.args.isEmpty || once.args.length = args.length then
      (once.text, once.status)
    else
      let (text, status) := writeAll segments fuel once.args
      (once.text ++ text, max once.status status)

def printf (args : List String) : String × Nat :=
  match if args.head? == some "--" then args.tail else args with
  | [] => ("", 2)
  | format :: args =>
    let (text, status) :=
      writeAll (segments format.length format.toList) (args.length + 1) args
    (String.ofList text, status)

end LedgerBench.Shell.Format

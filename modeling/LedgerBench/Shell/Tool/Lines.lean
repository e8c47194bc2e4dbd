import LedgerBench.Json.Printer
import LedgerBench.Shell.Scope
import LedgerBench.Shell.Tool.Basic
import LedgerBench.Shell.Tool.Regex

/-! Tools that work on the lines and characters of texts. -/

namespace LedgerBench.Shell.Tool

/-! ### Parts of a text -/

/-- A count in the old way, a hyphen with a number in the first place, as a value of the option `n`. -/
def oldCounts : List String → List String
  | [] => []
  | word :: rest =>
    match word.toList with
    | '-' :: c :: digits =>
      (if Decimal.isDigit c then "-n" ++ String.ofList (c :: digits) else word) :: rest
    | _ => word :: rest

def signedOf? (text : String) : Option (Option Char × Nat) :=
  match text.toList with
  | [] => none
  | c :: rest =>
    if c = '-' ∨ c = '+' then
      if rest.isEmpty then none else (Decimal.readDigits 0 rest).map fun n => (some c, n)
    else (Decimal.readDigits 0 (c :: rest)).map fun n => (none, n)

def countOptions : Known :=
  ⟨"qvfFzr", "ncs", [("lines", 'n'), ("bytes", 'c'), ("quiet", 'q'), ("follow", 'f')]⟩

/-- The first lines or characters of a text, all but some if the count has a minus sign. -/
def headOf (byLine : Bool) (count : Option Char × Nat) (text : String) : String :=
  let take {α : Type} (parts : List α) : List α :=
    if count.1 == some '-' then parts.take (parts.length - count.2) else parts.take count.2
  if byLine then textOfLines (take (linesOf text)) else String.ofList (take text.toList)

/-- The last lines or characters of a text, or those from one on if the count has a plus sign. -/
def tailOf (byLine : Bool) (count : Option Char × Nat) (text : String) : String :=
  let take {α : Type} (parts : List α) : List α :=
    if count.1 == some '+' then parts.drop (count.2 - 1) else parts.drop (parts.length - count.2)
  if byLine then textOfLines (take (linesOf text)) else String.ofList (take text.toList)

def partTool (name : String) (part : Bool → Option Char × Nat → String → String) : Tool :=
  fun w args =>
    withOptions w countOptions false 1 (oldCounts args) fun given =>
      let byLine := !given.has 'c'
      match signedOf? (((given.value? 'c').or (given.value? 'n')).getD "10") with
      | none => fails w name "invalid number" 1
      | some count =>
        if name = "head" && count.1 != some '-' && given.operands.isEmpty then
          .pass (if byLine then .lines count.2 else .characters count.2)
        else
          overTexts w name 1 given.operands fun texts =>
            let parts := texts.map fun (path, text) =>
              let part := part byLine count text
              if given.operands.length > 1 && !given.has 'q' then
                "==> " ++ path ++ " <==\n" ++ part
              else part
            (Json.joined (if given.operands.length > 1 && !given.has 'q' then "\n" else "") parts, 0)

def cat : Tool := fun w args =>
  withOptions w ⟨"nbsvetuAET", "", []⟩ false 1 args fun given =>
    if given.options.isEmpty && (given.operands.isEmpty || given.operands == ["-"]) then .pass .all
    else overText w "cat" given.operands fun text =>
      if given.has 'n' then
        let lines := (linesOf text).zipIdx 1
        textOfLines (lines.map fun (line, n) =>
          List.replicate (6 - (toString n).length) ' ' ++ (toString n).toList ++ '\t' :: line)
      else text

def lineTool (name : String) (change : List (List Char) → List (List Char)) : Tool :=
  fun w args =>
    withOptions w ⟨"", "", []⟩ false 1 args fun given =>
      overText w name given.operands fun text => textOfLines (change (linesOf text))

/-! ### Counting -/

def wordsOf (text : List Char) : List (List Char) :=
  (Text.splitAtEach ' ' (text.map fun c => if isSpace c then ' ' else c)).filter fun w => !w.isEmpty

def wc : Tool := fun w args =>
  let known : Known := ⟨"clmwL", "", [("lines", 'l'), ("words", 'w'), ("bytes", 'c'), ("chars", 'm')]⟩
  withOptions w known false 1 args fun given =>
    overTexts w "wc" 1 given.operands fun texts =>
      let kinds := if given.options.isEmpty then "lwc".toList else
        "lwmcL".toList.filter given.has
      let count (text : String) (kind : Char) : Nat :=
        match kind with
        | 'l' => text.toList.count '\n'
        | 'w' => (wordsOf text.toList).length
        | 'm' => text.length
        | 'L' => ((linesOf text).map List.length).foldl max 0
        | _ => Scope.sizeOf text
      let rows := texts.map fun (path, text) => (path, kinds.map (count text))
      let rows := if texts.length > 1 then
        let totals := rows.foldl (fun sums row => sums.zipWith Nat.add row.2) (kinds.map fun _ => 0)
        rows ++ [("total", totals)] else rows
      let isOpen := given.operands.isEmpty || given.operands.contains "-"
      let width := if kinds.length = 1 && texts.length = 1 then 1 else if isOpen then 7 else
        (rows.flatMap fun row => row.2.map fun n => (toString n).length).foldl max 1
      let text := rows.map fun (path, counts) =>
        let cells := counts.map fun n =>
          String.ofList (List.replicate (width - (toString n).length) ' ') ++ toString n
        Json.joined " " cells ++ (if given.operands.isEmpty then "" else " " ++ path) ++ "\n"
      (String.join text, 0)

/-! ### Characters and fields -/

def trSet : Nat → List Char → List Char
  | 0, _ | _, [] => []
  | fuel + 1, '[' :: ':' :: rest =>
    let name := String.ofList (rest.takeWhile Char.isAlpha)
    let members := (List.range 128).map Char.ofNat
    members.filter (isOfKind name) ++ trSet fuel (rest.drop (name.length + 2))
  | fuel + 1, '\\' :: c :: rest =>
    let char := match c with
      | 'n' => '\n'
      | 't' => '\t'
      | 'r' => '\r'
      | '0' => '\x00'
      | c => c
    char :: trSet fuel rest
  | fuel + 1, first :: '-' :: last :: rest =>
    (List.range' first.toNat (last.toNat + 1 - first.toNat)).map Char.ofNat ++ trSet fuel rest
  | fuel + 1, c :: rest => c :: trSet fuel rest

def squeezed (isKind : Char → Bool) : List Char → List Char
  | c :: d :: rest =>
    if c = d && isKind c then squeezed isKind (d :: rest) else c :: squeezed isKind (d :: rest)
  | text => text

def tr : Tool := fun w args =>
  let known : Known := ⟨"cCdst", "", [("delete", 'd'), ("squeeze-repeats", 's'), ("complement", 'c')]⟩
  withOptions w known true 1 args fun given =>
    let set := fun (text : String) => trSet text.length text.toList
    let inverted := given.has 'c' || given.has 'C'
    let isIn (members : List Char) (c : Char) : Bool := members.contains c != inverted
    let result : Option (String → List Char) :=
      match given.has 'd', given.has 's', given.operands with
      | true, false, [one] => some fun text => text.toList.filter fun c => !isIn (set one) c
      | true, true, [one, two] => some fun text =>
        squeezed (set two).contains (text.toList.filter fun c => !isIn (set one) c)
      | false, true, [one] => some fun text => squeezed (isIn (set one)) text.toList
      | false, squeeze, [one, two] => some fun text =>
        let target := set two
        let change (c : Char) : Char :=
          if inverted then if isIn (set one) c then target.getLastD c else c
          else
            match (set one).idxOf? c with
            | some i => (target[i]?).getD (target.getLastD c)
            | none => c
        let changed := text.toList.map change
        if squeeze then squeezed target.contains changed else changed
      | _, _, _ => none
    match result with
    | none => fails w "tr" "missing operand" 1
    | some make => overText w "tr" [] fun text => String.ofList (make text)

def rangesOf? (text : String) : Option (List (Nat × Option Nat)) :=
  let positive (digits : List Char) : Option Nat :=
    if digits.isEmpty then none else (Decimal.readDigits 0 digits).filter (· != 0)
  (Text.splitAtEach ',' text.toList).mapM fun part =>
    match Text.splitAtEach '-' part with
    | [one] => (positive one).map fun n => (n, some n)
    | [low, high] => do
      if low.isEmpty && high.isEmpty then none
      let low ← if low.isEmpty then some 1 else positive low
      let high ← if high.isEmpty then some none else (Decimal.readDigits 0 high).map some
      return (low, high)
    | _ => none

def cut : Tool := fun w args =>
  let known : Known := ⟨"snx", "bcdfo", [("delimiter", 'd'), ("fields", 'f'), ("characters", 'c'),
    ("bytes", 'b'), ("only-delimited", 's'), ("complement", 'x'), ("output-delimiter", 'o')]⟩
  withOptions w known false 1 args fun given =>
    let byField := given.has 'f'
    let list := ((given.value? 'f').or (given.value? 'c')).or (given.value? 'b')
    let isSingle := ((given.value? 'd').getD "").length ≤ 1
    match (list.bind rangesOf?).filter fun _ => isSingle with
    | none => fails w "cut" "you must specify a list of bytes, characters, or fields" 1
    | some ranges =>
      let between := ((given.value? 'd').bind (·.toList.head?)).getD '\t'
      let joint := ((given.value? 'o').map String.toList).getD [between]
      let isChosen (n : Nat) : Bool :=
        (ranges.any fun (low, high) => low ≤ n && high.all (n ≤ ·)) != given.has 'x'
      let chosen {α : Type} (parts : List α) : List α :=
        ((parts.zipIdx 1).filter fun p => isChosen p.2).map (·.1)
      let change (line : List Char) : Option (List Char) :=
        if !byField then some (chosen line)
        else if !line.contains between then if given.has 's' then none else some line
        else some ((chosen (Text.splitAtEach between line)).intersperse joint).flatten
      overText w "cut" given.operands fun text =>
        textOfLines ((linesOf text).filterMap change)

/-! ### Order -/

/-- The number at the beginning of a text, in units of a billionth. -/
def leadingNumber (text : List Char) : Int :=
  let text := text.dropWhile isSpace
  let (negative, digits) := match text with
    | '-' :: rest => (true, rest)
    | rest => (false, rest)
  let whole := digits.takeWhile Decimal.isDigit
  let fraction := match digits.drop whole.length with
    | '.' :: rest => rest.takeWhile Decimal.isDigit
    | _ => []
  let places := (fraction ++ List.replicate 9 '0').take 9
  let n := ((Decimal.readDigits 0 (whole ++ places)).getD 0 : Int)
  if negative then -n else n

structure SortKey where
  first : Nat
  last : Option Nat
  flags : List Char

def SortKey.ofText? (text : String) : Option SortKey := do
  let parts := Text.splitAtEach ',' text.toList
  let number (part : List Char) : Option Nat :=
    let digits := part.takeWhile Decimal.isDigit
    if digits.isEmpty then none else Decimal.readDigits 0 digits
  let flags := parts.flatMap fun part => part.filter Char.isAlpha
  match parts with
  | [one] => return ⟨← number one, none, flags⟩
  | [one, two] => return ⟨← number one, some (← number two), flags⟩
  | _ => none

/-- The fields of a line. Without a separator each begins with the blanks before it. -/
def sortFields (separator : Option Char) (line : List Char) : List (List Char) :=
  match separator with
  | some c => Text.splitAtEach c line
  | none => cut (line.length + 1) line
where
  cut : Nat → List Char → List (List Char)
    | 0, _ | _, [] => []
    | fuel + 1, line =>
      let blanks := line.takeWhile isSpace
      let word := (line.drop blanks.length).takeWhile fun c => !isSpace c
      (blanks ++ word) :: cut fuel (line.drop (blanks.length + word.length))

def SortKey.part (separator : Option Char) (key : SortKey) (line : List Char) : List Char :=
  let fields := sortFields separator line
  let chosen := match key.last with
    | some last => (fields.take last).drop (key.first - 1)
    | none => fields.drop (key.first - 1)
  match separator with
  | some c => (chosen.intersperse [c]).flatten
  | none => chosen.flatten

def compareTexts (flags : List Char) (a b : List Char) : Ordering :=
  let order :=
    if flags.contains 'n' || flags.contains 'g' then compare (leadingNumber a) (leadingNumber b)
    else
      let plain (text : List Char) : String :=
        let text := if flags.contains 'b' then text.dropWhile isSpace else text
        String.ofList (if flags.contains 'f' then text.map Char.toUpper else text)
      compare (plain a) (plain b)
  if flags.contains 'r' then order.swap else order

def sort : Tool := fun w args =>
  let known : Known := ⟨"nrufbsgVhcC", "kto", [("reverse", 'r'), ("unique", 'u'),
    ("numeric-sort", 'n'), ("key", 'k'), ("field-separator", 't'), ("stable", 's'),
    ("output", 'o'), ("check", 'c'), ("ignore-case", 'f')]⟩
  withOptions w known false 2 args fun given =>
    let flags := (given.options.map (·.1)).filter fun c => "nrfbg".toList.contains c
    let separator := (given.value? 't').bind (·.toList.head?)
    match ((given.options.filter fun o => o.1 == 'k').map (·.2)).mapM SortKey.ofText? with
    | none => fails w "sort" "invalid number at field start" 2
    | some keys =>
      let ofKeys (a b : List Char) : Ordering :=
        if keys.isEmpty then compareTexts flags a b
        else
          keys.foldl (fun order key =>
            let own := if key.flags.isEmpty then flags else key.flags
            order.then (compareTexts own (key.part separator a) (key.part separator b))) .eq
      let order (a b : List Char) : Ordering :=
        let last := compareTexts (flags.filter (· == 'r')) a b
        if given.has 'u' || given.has 's' then ofKeys a b else (ofKeys a b).then last
      let isBefore (a b : List Char) : Bool := order a b != .gt
      let sorted (lines : List (List Char)) : List (List Char) :=
        let lines := lines.mergeSort isBefore
        if given.has 'u' then lines.eraseRepsBy fun a b => ofKeys a b == .eq else lines
      let isChecked := given.has 'c' || given.has 'C'
      let answer := overTexts w "sort" 2 given.operands fun texts =>
        let lines := texts.flatMap fun t => linesOf t.2
        if isChecked then ("", if sorted lines == lines then 0 else 1)
        else (textOfLines (sorted lines), 0)
      match answer, given.value? 'o' with
      | .done texts machine status, some path =>
        match machine.newPlace path with
        | .ok place =>
          let text := String.join ((texts.filter fun t => t.1 = 1).map (·.2))
          .done (texts.filter fun t => t.1 ≠ 1) (machine.write place text) status
        | .error e => fails w "sort" (path ++ ": " ++ e.reason) 2
      | answer, _ => answer

def runs : List (List Char) → List (List Char × Nat)
  | [] => []
  | line :: rest =>
    match runs rest with
    | (next, n) :: more => if line = next then (line, n + 1) :: more else (line, 1) :: (next, n) :: more
    | [] => [(line, 1)]

def uniq : Tool := fun w args =>
  withOptions w ⟨"cdui", "fsw", [("count", 'c'), ("repeated", 'd'), ("unique", 'u')]⟩ false 1 args
    fun given =>
      overText w "uniq" (given.operands.take 1) fun text =>
        let found := (runs (linesOf text)).filter fun (_, n) =>
          (!given.has 'd' || n > 1) && (!given.has 'u' || n = 1)
        textOfLines (found.map fun (line, n) =>
          if given.has 'c' then
            List.replicate (7 - (toString n).length) ' ' ++ (toString n).toList ++ ' ' :: line
          else line)

/-- A number with a point somewhere inside: its value in units of its last place, and how many places
there are. -/
def pointed? (text : String) : Option (Int × Nat) :=
  let (negative, digits) := match text.toList with
    | '-' :: rest => (true, rest)
    | '+' :: rest => (false, rest)
    | rest => (false, rest)
  let (whole, fraction) := (digits.takeWhile (· != '.'), (digits.dropWhile (· != '.')).tail)
  if whole.isEmpty && fraction.isEmpty then none
  else
    (Decimal.readDigits 0 (whole ++ fraction)).map fun n =>
      (if negative then -n else n, fraction.length)

def pointedText (places : Nat) (n : Int) : String :=
  let digits := (toString n.natAbs).toList
  let digits := List.replicate (places + 1 - digits.length) '0' ++ digits
  let whole := digits.take (digits.length - places)
  let fraction := digits.drop whole.length
  String.ofList ((if n < 0 then ['-'] else []) ++ whole ++
    (if places = 0 then [] else '.' :: fraction))

def zeroPadded (width : Nat) (text : String) : String :=
  let zeros := List.replicate (width - text.length) '0'
  match text.toList with
  | '-' :: rest => String.ofList ('-' :: zeros ++ rest)
  | digits => String.ofList (zeros ++ digits)

/-- The options of `seq`, after which even what begins with a hyphen may be a number. -/
def seqOptions (separator : String) (isWide : Bool) : List String → String × Bool × List String
  | "-s" :: text :: rest => seqOptions text isWide rest
  | "-w" :: rest => seqOptions separator true rest
  | "--" :: rest => (separator, isWide, rest)
  | word :: rest =>
    match word.toList with
    | '-' :: 's' :: c :: letters => seqOptions (String.ofList (c :: letters)) isWide rest
    | _ => (separator, isWide, word :: rest)
  | [] => (separator, isWide, [])

def seq : Tool := fun w args =>
  let (separator, isWide, args) := seqOptions "\n" false args
  match args.mapM pointed? with
  | none => fails w "seq" "invalid argument" 1
  | some numbers =>
    let places := (numbers.map (·.2)).foldl max 0
    let numbers := numbers.map fun (n, own) => n * Nat.pow 10 (places - own)
    let one : Int := Nat.pow 10 places
    let row := match numbers with
      | [last] => some (one, one, last)
      | [first, last] => some (first, one, last)
      | [first, step, last] => if step = 0 then none else some (first, step, last)
      | _ => none
    match row with
    | none => fails w "seq" "invalid operands" 1
    | some (first, step, last) =>
      let count := ((last - first).fdiv step + 1).toNat
      let texts := (List.range count).map fun (i : Nat) => pointedText places (first + step * i)
      let width := (texts.map String.length).foldl max 0
      let texts := if isWide then texts.map (zeroPadded width) else texts
      prints w (if texts.isEmpty then "" else Json.joined separator texts ++ "\n") 0

/-! ### Searching -/

structure Search where
  patterns : List (Sum (List Char) Regex)
  folded : Bool
  inverted : Bool
  wholeLine : Bool
  wholeWord : Bool

def Search.find? (s : Search) (line : List Char) : Option Regex.Match :=
  let isWordChar := fun c => isNameRest c
  let isFitting (m : Regex.Match) : Bool :=
    (!s.wholeLine || (m.before.isEmpty && m.after.isEmpty)) &&
      (!s.wholeWord || (!m.before.getLast?.any isWordChar && !m.after.head?.any isWordChar))
  let wrap (r : Regex) : Regex := if s.wholeLine then .both .start (.both r .finish) else r
  s.patterns.findSome? fun pattern =>
    let r := match pattern with
      | .inl text => text.foldr (fun c r => Regex.both (.char c) r) .empty
      | .inr r => r
    (Regex.find? s.folded (wrap r) true line).filter isFitting

def Search.finds (s : Search) (line : List Char) : Bool :=
  (s.find? line).isSome != s.inverted

def Search.findAll (s : Search) : Nat → List Char → List (List Char)
  | 0, _ => []
  | fuel + 1, line =>
    match s.find? line with
    | none => []
    | some m =>
      if m.found.isEmpty then s.findAll fuel (m.after.drop 1)
      else m.found :: s.findAll fuel m.after

def grep (extended fixed : Bool) : Tool := fun w args =>
  let known : Known := ⟨"qcvixFEGwnosLlhHraz", "emABC",
    [("quiet", 'q'), ("silent", 'q'), ("count", 'c'), ("invert-match", 'v'), ("ignore-case", 'i'),
      ("line-regexp", 'x'), ("fixed-strings", 'F'), ("extended-regexp", 'E'), ("regexp", 'e'),
      ("word-regexp", 'w'), ("line-number", 'n'), ("only-matching", 'o'),
      ("files-with-matches", 'l'), ("max-count", 'm')]⟩
  withOptions w known false 2 args fun given =>
    let asked := (given.options.filter fun o => o.1 == 'e').map (·.2)
    let (texts, files) := match asked, given.operands with
      | [], text :: files => ([text], files)
      | asked, files => (asked, files)
    let texts := texts.flatMap fun text => (Text.splitAtEach '\n' text.toList).map String.ofList
    let isFixed := fixed || given.has 'F'
    let compiled := texts.mapM fun text =>
      if isFixed then some (Sum.inl text.toList)
      else (Regex.ofText? (extended || given.has 'E') text).map Sum.inr
    match compiled with
    | none => fails w "grep" "invalid pattern" 2
    | some patterns =>
      if texts.isEmpty then fails w "grep" "no pattern" 2
      else
        let s : Search := ⟨patterns, given.has 'i', given.has 'v', given.has 'x', given.has 'w'⟩
        if given.has 'q' && files.isEmpty then
          .pass (.until (fun line => s.finds line.toList) "")
        else
          overTexts w "grep" 2 files fun texts =>
            let limit := ((given.value? 'm').bind (·.toNat?))
            let hits (text : String) : List (List Char × Nat) :=
              let found := ((linesOf text).zipIdx 1).filter fun l => s.finds l.1
              match limit with
              | some n => found.take n
              | none => found
            let named (path : String) : String :=
              if (files.length > 1 && !given.has 'h') || given.has 'H' then path ++ ":" else ""
            let shown (path text : String) : String :=
              let hits := hits text
              if given.has 'q' then ""
              else if given.has 'l' then if hits.isEmpty then "" else path ++ "\n"
              else if given.has 'L' then if hits.isEmpty then path ++ "\n" else ""
              else if given.has 'c' then named path ++ toString hits.length ++ "\n"
              else
                String.join (hits.flatMap fun (line, n) =>
                  let number := if given.has 'n' then toString n ++ ":" else ""
                  let texts := if given.has 'o' then s.findAll (line.length + 1) line else [line]
                  texts.map fun text => named path ++ number ++ String.ofList text ++ "\n")
            let any := texts.any fun t => !(hits t.2).isEmpty
            (String.join (texts.map fun t => shown t.1 t.2), if any then 0 else 1)

end LedgerBench.Shell.Tool

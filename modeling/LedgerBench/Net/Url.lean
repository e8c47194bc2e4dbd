import LedgerBench.Net.HostName

/-! Addresses such as `ws://127.0.0.1:6006`. Those of the web have a host and are put into one
spelling; of all others only the scheme counts, though a broken host is still refused. -/

namespace LedgerBench.Net

structure Url where
  scheme : String
  username : String
  password : String
  host : Option HostName
  port : Option Nat
  path : String
  query : Option String
  fragment : Option String
  deriving Repr, DecidableEq

namespace Url

def webSchemes : List (String × Nat) :=
  [("http", 80), ("https", 443), ("ws", 80), ("wss", 443), ("ftp", 21)]

/-- The text without the blanks and controls at its ends and without tabs and line breaks. -/
def cleaned (s : List Char) : List Char :=
  let isEdge := fun (c : Char) => decide (c.toNat ≤ 0x20)
  (((s.dropWhile isEdge).reverse.dropWhile isEdge).reverse).filter
    fun c => c != '\t' && c != '\n' && c != '\r'

def splitScheme (s : List Char) : Option (String × List Char) :=
  let scheme := s.takeWhile fun c => c.isAlphanum || c == '+' || c == '-' || c == '.'
  match scheme, s.drop scheme.length with
  | first :: _, ':' :: rest =>
    if first.isAlpha then some (String.ofList (scheme.map Char.toLower), rest) else none
  | _, _ => none

def cutAt (stop : Char → Bool) (s : List Char) : List Char × List Char :=
  (s.takeWhile fun c => !stop c, s.dropWhile fun c => !stop c)

def splitAuthority (web : Bool) (s : List Char) : List Char × List Char :=
  cutAt (fun c => c == '/' || c == '?' || c == '#' || (web && c == '\\')) s

/-- Cuts at the last at sign; the first part is `none` without one. -/
def splitUser (s : List Char) : Option (List Char) × List Char :=
  match s.reverse.dropWhile (· != '@') with
  | [] => (none, s)
  | _ :: before => (some before.reverse, (s.reverse.takeWhile (· != '@')).reverse)

/-- Cuts at the colon of the port, which stands outside brackets. -/
def splitPort : Bool → List Char → List Char × Option (List Char)
  | _, [] => ([], none)
  | inside, c :: rest =>
    if c = ':' ∧ inside = false then ([], some rest)
    else
      let stillInside := if c = '[' then true else if c = ']' then false else inside
      let (host, port) := splitPort stillInside rest
      (c :: host, port)

/-- Reads a port; the usual one and none at all are the same. -/
def readPort (usual : Option Nat) : Option (List Char) → Except UrlError (Option Nat)
  | none => .ok none
  | some [] => .ok none
  | some ds =>
    match Decimal.readDigits 0 ds with
    | some n =>
      if n < 65536 then .ok (if some n = usual then none else some n) else .error .invalidPort
    | none => .error .invalidPort

def isSingleDot (s : List Char) : Bool :=
  let low := s.map Char.toLower
  low == ['.'] || low == "%2e".toList

def isDoubleDot (s : List Char) : Bool :=
  let low := s.map Char.toLower
  [["..".toList, ".%2e".toList], ["%2e.".toList, "%2e%2e".toList]].any (·.contains low)

def followDots : List (List Char) → List (List Char) → List (List Char)
  | done, [] => done.reverse
  | done, segment :: rest =>
    if isDoubleDot segment then
      followDots (if rest.isEmpty then [] :: done.tail else done.tail) rest
    else if isSingleDot segment then followDots (if rest.isEmpty then [] :: done else done) rest
    else followDots (percentEncode pathReserved segment :: done) rest

def webPath (s : List Char) : List Char :=
  let s := s.map fun c => if c = '\\' then '/' else c
  let segments := Text.splitAtEach '/' (if s.head? = some '/' then s.tail else s)
  '/' :: ['/'].intercalate (followDots [] segments)

def splitTail (s : List Char) : List Char × Option (List Char) × Option (List Char) :=
  let (front, fragment) := cutAt (· == '#') s
  let (path, query) := cutAt (· == '?') front
  (path, if query.isEmpty then none else some query.tail,
    if fragment.isEmpty then none else some fragment.tail)

def readUser : Option (List Char) → List Char × List Char
  | none => ([], [])
  | some user =>
    let (name, password) := cutAt (· == ':') user
    (percentEncode userReserved name, percentEncode userReserved password.tail)

def readWeb (scheme : String) (usual : Nat) (s : List Char) : Except UrlError Url := do
  let (authority, rest) := splitAuthority true (s.dropWhile fun c => c == '/' || c == '\\')
  let (user, hostAndPort) := splitUser authority
  let (hostText, portText) := splitPort false hostAndPort
  if hostText.isEmpty then .error .emptyHost
  let host ← HostName.read hostText
  let port ← readPort (some usual) portText
  let (name, password) := readUser user
  let (path, query, fragment) := splitTail rest
  return {
    scheme
    username := String.ofList name
    password := String.ofList password
    host := some host
    port
    path := String.ofList (webPath path)
    query := query.map fun q => String.ofList (percentEncode queryReserved q)
    fragment := fragment.map fun f => String.ofList (percentEncode fragmentReserved f) }

def checkOpaqueHost (s : List Char) : Except UrlError Unit :=
  match s with
  | '[' :: _ => discard (HostName.read s)
  | s =>
    if s.any fun c => c == '\x00' || c == ' ' || c == '<' || c == '>' || c == '\\' || c == ']' ||
        c == '^' || c == '|' || c == '[' then .error .invalidDomainCharacter
    else .ok ()

/-- Looks at the authority of an address outside the web, which may do without a host if nobody is
named. A port may end at a backslash. -/
def checkOpaqueAuthority (authority rest : List Char) : Except UrlError Unit := do
  let (user, hostAndPort) := splitUser authority
  let (host, port) := splitPort false hostAndPort
  let wantsHost := port.isSome || match user with
    | none => false
    | some [] => !rest.isEmpty
    | some name => name != [':']
  if host.isEmpty && wantsHost then .error .emptyHost
  checkOpaqueHost host
  discard (readPort none (port.map (·.takeWhile (· != '\\'))))

def readOther (scheme : String) (s : List Char) : Except UrlError Url := do
  match s with
  | '/' :: '/' :: rest =>
    let (authority, rest) := splitAuthority false rest
    checkOpaqueAuthority authority rest
  | _ => pure ()
  let (path, query, fragment) := splitTail s
  return {
    scheme
    username := ""
    password := ""
    host := none
    port := none
    path := String.ofList (percentEncode [] path)
    query := query.map fun q => String.ofList (percentEncode queryReserved q)
    fragment := fragment.map fun f => String.ofList (percentEncode fragmentReserved f) }

/-- Whether a text is a letter with a colon or a bar, which names a drive and no host. -/
def isDrive : List Char → Bool
  | [letter, mark] => letter.isAlpha && (mark == ':' || mark == '|')
  | _ => false

def checkFileHost (host : List Char) : Except UrlError Unit :=
  if host.isEmpty || isDrive host then .ok () else discard (HostName.read host)

def readFile (scheme : String) (s : List Char) : Except UrlError Url := do
  let isSlash (c : Char) : Bool := c == '/' || c == '\\'
  if (s.take 2).length = 2 && (s.take 2).all isSlash then
    checkFileHost (splitAuthority true (s.drop 2)).1
  readOther scheme (s.dropWhile isSlash)

def parse (text : String) : Except UrlError Url :=
  match splitScheme (cleaned text.toList) with
  | none => .error .relativeWithoutBase
  | some (scheme, rest) =>
    match webSchemes.lookup scheme with
    | some usual => readWeb scheme usual rest
    | none => if scheme = "file" then readFile scheme rest else readOther scheme rest

def userText (url : Url) : String :=
  if url.username.isEmpty && url.password.isEmpty then ""
  else if url.password.isEmpty then url.username ++ "@"
  else url.username ++ ":" ++ url.password ++ "@"

def text (url : Url) : String :=
  let authority := match url.host with
    | none => ""
    | some host =>
      "//" ++ url.userText ++ String.ofList host.text ++
        (match url.port with
          | some n => ":" ++ toString n
          | none => "")
  url.scheme ++ ":" ++ authority ++ url.path ++
    ((url.query.map ("?" ++ ·)).getD "") ++ ((url.fragment.map ("#" ++ ·)).getD "")

end Url
end LedgerBench.Net

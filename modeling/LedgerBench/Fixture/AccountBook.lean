import LedgerBench.Failure
import LedgerBench.Register
import LedgerBench.Server.Keys

/-! The names that scenarios use for accounts, with their keys. A text that is no known name can
stand for an address itself, so that steps can mix the two. -/

namespace LedgerBench

/-- The name of the funded account that every ledger starts with. -/
def rootAccount : String := "root"

structure AccountBook where
  accounts : Register String KeyPair

namespace AccountBook

def empty : AccountBook := ⟨.empty⟩

instance : Inhabited AccountBook := ⟨empty⟩

def insert (book : AccountBook) (name : String) (keys : KeyPair) : AccountBook :=
  ⟨book.accounts.insert name keys⟩

def get? (book : AccountBook) (name : String) : Option KeyPair :=
  book.accounts.get? name

def names (book : AccountBook) : List String :=
  book.accounts.keys

/-- Whether a text has the length and the first letter of an address. -/
def looksLikeAddress (text : String) : Bool :=
  ['r'].isPrefixOf text.toList && 25 ≤ text.utf8ByteSize && text.utf8ByteSize ≤ 35

/-- The address of a named account, or the text itself if it looks like an address. -/
def address (book : AccountBook) (nameOrAddress : String) : Except Failure String :=
  match book.get? nameOrAddress with
  | some keys => .ok keys.address
  | none =>
    if looksLikeAddress nameOrAddress then .ok nameOrAddress
    else .error (.plain
      s!"Unknown account [{nameOrAddress}], create it with 'create_accounts' first")

/-- The secret of the first name, in the order of the names, whose account has the address. -/
def secretFor (book : AccountBook) (address : String) : Except Failure String :=
  match book.accounts.values.find? (·.address == address) with
  | some keys => .ok keys.secret
  | none => .error (.plain s!"No secret known for account [{address}]")

/-- Reads an amount such as `100/USD/alice` and puts the address for an issuer's name. -/
def amount (book : AccountBook) (text : String) : Except Failure Amount :=
  match Amount.parse text with
  | .error e => .error ⟨[s!"Invalid amount [{text}]"], .amount e⟩
  | .ok parsed =>
    match parsed.issuer? with
    | none => .ok parsed
    | some issuer => (book.address issuer).map parsed.withIssuer

end AccountBook
end LedgerBench

import LedgerBench.Ledger.Path
import LedgerBench.Ledger.Transaction

/-! What a transaction does to the ledger. A transaction of an unknown account does nothing; one
that succeeds, or fails with a claimed result, uses up a sequence number of its account; and one
that does not succeed changes nothing else. -/

namespace LedgerBench.Ledger

/-! ### Account settings -/

def flagAsked (word : UInt32) (bit : AccountSetFlag) (flag : RootFlags) : RootFlags :=
  if word &&& bit.bits != 0 then flag else .none

def flagsAsked (word : UInt32) (tag auth xdv : AccountSetFlag) (setting : Option AccountFlag) :
    RootFlags :=
  (((flagAsked word tag .requireDestTag).union (flagAsked word auth .requireAuth)).union
    (flagAsked word xdv .disallowXdv)).union ((setting.map AccountFlag.rootFlag).getD .none)

def flagsToSet (word : UInt32) (setting : Option AccountFlag) : RootFlags :=
  flagsAsked word .requireDestTag .requireAuth .disallowXdv setting

def flagsToClear (word : UInt32) (setting : Option AccountFlag) : RootFlags :=
  flagsAsked word .optionalDestTag .optionalAuth .allowXdv setting

/-- Sets flags, then clears flags. RequireAuth is refused to an account that owns lines. -/
def applyAccountSet (ledger : Ledger) (account : String) (flags : UInt32)
    (set clear : Option AccountFlag) : EngineResult × Ledger :=
  let toSet := flagsToSet flags set
  let toClear := flagsToClear flags clear
  if toSet.contains .requireAuth && ledger.ownerCount account > 0 then (.owners, ledger)
  else
    (.success, { ledger with
      accounts := ledger.accounts.update account fun root =>
        { root with flags := (root.flags.union toSet).without toClear } })

/-! ### Trust lines -/

/-- A new line: only its opener has a limit, and the other side lets value ripple only if that
account wants it by default. -/
def newLine (key : LineKey) (account issuer : String) (limit : Float) (noDivvy : Bool)
    (issuerRipples : Bool) : Line :=
  let blank : Line := ⟨0, ⟨0, false⟩, ⟨0, false⟩⟩
  (blank.setSide key account ⟨limit, noDivvy⟩).setSide key issuer ⟨0, !issuerRipples⟩

/-- The account's side of a line with another limit. NoDivvy can be set only by an account that
does not owe on the line. -/
def adjustLine (key : LineKey) (account : String) (limit : Float) (set clear : Bool)
    (line : Line) : Line :=
  let side := line.side key account
  let noDivvy :=
    if set && line.balanceFor key account ≥ 0 then true
    else if clear then false
    else side.noDivvy
  line.setSide key account ⟨limit, noDivvy⟩

def applyTrustSet (ledger : Ledger) (account : String) (limit : Amount) (flags : UInt32) :
    EngineResult × Ledger :=
  match limit with
  | .native _ => (.badLimit, ledger)
  | .issued value currency issuer =>
    match ledger.account? issuer with
    | none => (.noDestination, ledger)
    | some peer =>
      let set := flags &&& TrustSetFlag.setNoDivvy.bits != 0
      let clear := flags &&& TrustSetFlag.clearNoDivvy.bits != 0
      let key := LineKey.between account issuer currency
      let lines :=
        if ledger.lines.contains key then
          ledger.lines.update key (adjustLine key account value set clear)
        else
          ledger.lines.insert key
            (newLine key account issuer value set (peer.flags.contains .defaultDivvy))
      (.success, { ledger with lines })

/-! ### Payments -/

def moveHop (currency : String) (value : Float) (lines : Register LineKey Line)
    (hop : String × String) : Register LineKey Line :=
  let key := LineKey.between hop.1 hop.2 currency
  lines.update key fun line => line.transfer key hop.1 value

def hops (path : List String) : List (String × String) :=
  path.zip path.tail

def moveAlong (ledger : Ledger) (path : List String) (currency : String) (value : Float) : Ledger :=
  { ledger with lines := (hops path).foldl (moveHop currency value) ledger.lines }

/-- The path that a payment takes: the first one found, which must be the direct line unless the
payment asks for a path. -/
def paymentPath (ledger : Ledger) (source destination currency : String) (value : Float)
    (buildPath : Bool) : Option (List String) :=
  (ledger.findPaths source destination currency value).find? fun path =>
    buildPath || path.length == 2

def debit (accounts : Register String Account) (address : String) (payer : Account)
    (drops : UInt64) : Register String Account :=
  accounts.insert address { payer with balance := payer.balance - drops }

/-- The account that drops go to, which comes into being if it is new. -/
def payee (accounts : Register String Account) (address : String) : Account :=
  (accounts.get? address).getD ⟨0, .none, 1⟩

def credit (accounts : Register String Account) (address : String) (drops : UInt64) :
    Register String Account :=
  let account := payee accounts address
  accounts.insert address { account with balance := account.balance + drops }

def payNative (ledger : Ledger) (source destination : String) (drops : UInt64) :
    EngineResult × Ledger :=
  if drops = 0 then (.badAmount, ledger)
  else
    match ledger.account? source with
    | none => (.other "terNO_ACCOUNT", ledger)
    | some payer =>
      if payer.balance < drops then (.unfundedPayment, ledger)
      else
        let debited := debit ledger.accounts source payer drops
        (.success, { ledger with accounts := credit debited destination drops })

def applyPayment (ledger : Ledger) (source destination : String) (amount : Amount)
    (buildPath : Bool) : EngineResult × Ledger :=
  match amount with
  | .native drops => ledger.payNative source destination drops
  | .issued value currency _ =>
    match ledger.paymentPath source destination currency value buildPath with
    | some path => (.success, ledger.moveAlong path currency value)
    | none => (.pathDry, ledger)

/-! ### Transactions -/

def applyKind (ledger : Ledger) : Transaction → EngineResult × Ledger
  | .accountSet account flags set clear => ledger.applyAccountSet account flags set clear
  | .trustSet account limit flags => ledger.applyTrustSet account limit flags
  | .payment account destination amount buildPath =>
    ledger.applyPayment account destination amount buildPath

def bumpSequence (ledger : Ledger) (account : String) : Ledger :=
  { ledger with
    accounts := ledger.accounts.update account fun root =>
      { root with sequence := root.sequence + 1 } }

def apply (ledger : Ledger) (tx : Transaction) : EngineResult × Ledger :=
  if ledger.accounts.contains tx.account then
    let (result, after) := ledger.applyKind tx
    if result.isSuccess || result.isClaimed then (result, after.bumpSequence tx.account)
    else (result, after)
  else (.other "terNO_ACCOUNT", ledger)

end LedgerBench.Ledger

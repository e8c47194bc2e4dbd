import LedgerBench.Ledger.Amount
import LedgerBench.Ledger.Flags

/-! Transactions and their JSON form. Whether the server is to look for a path is not part of a
payment's JSON; it stands in the request around it. -/

namespace LedgerBench

inductive Transaction where
  | accountSet (account : String) (flags : UInt32) (setFlag clearFlag : Option AccountFlag)
  | trustSet (account : String) (limit : Amount) (flags : UInt32)
  | payment (account destination : String) (amount : Amount) (buildPath : Bool)
  deriving Repr, DecidableEq

namespace Transaction

def account : Transaction → String
  | .accountSet account .. => account
  | .trustSet account .. => account
  | .payment account .. => account

def typeName : Transaction → String
  | .accountSet .. => "AccountSet"
  | .trustSet .. => "TrustSet"
  | .payment .. => "Payment"

def buildPath : Transaction → Bool
  | .payment _ _ _ buildPath => buildPath
  | _ => false

/-! Each of the following changes only the type of transaction that it is about. -/

def withAccountSetFlag (tx : Transaction) (flag : AccountSetFlag) : Transaction :=
  match tx with
  | .accountSet account flags set clear => .accountSet account (flags ||| flag.bits) set clear
  | tx => tx

def withTrustSetFlag (tx : Transaction) (flag : TrustSetFlag) : Transaction :=
  match tx with
  | .trustSet account limit flags => .trustSet account limit (flags ||| flag.bits)
  | tx => tx

def withSetFlag (tx : Transaction) (flag : AccountFlag) : Transaction :=
  match tx with
  | .accountSet account flags _ clear => .accountSet account flags (some flag) clear
  | tx => tx

def withClearFlag (tx : Transaction) (flag : AccountFlag) : Transaction :=
  match tx with
  | .accountSet account flags set _ => .accountSet account flags set (some flag)
  | tx => tx

def withBuildPath (tx : Transaction) (enabled : Bool) : Transaction :=
  match tx with
  | .payment account destination amount _ => .payment account destination amount enabled
  | tx => tx

/-- Equality of transactions in which an undefined value equals nothing. -/
def sameAs : Transaction → Transaction → Bool
  | .accountSet a f s c, .accountSet a' f' s' c' => a == a' && f == f' && s == s' && c == c'
  | .trustSet a l f, .trustSet a' l' f' => a == a' && l.sameAs l' && f == f'
  | .payment a d m b, .payment a' d' m' b' => a == a' && d == d' && m.sameAs m' && b == b'
  | _, _ => false

def word32 (n : UInt32) : Json :=
  .number (.natural n.toUInt64)

def flagMember (name : String) : Option AccountFlag → List (String × Json)
  | none => []
  | some flag => [(name, word32 flag.value)]

def toJson : Transaction → Json
  | .accountSet account flags set clear =>
    .object (("Account", .string account) :: flagMember "ClearFlag" clear ++
      ("Flags", word32 flags) :: flagMember "SetFlag" set ++
      [("TransactionType", .string "AccountSet")])
  | .trustSet account limit flags =>
    .object [("Account", .string account), ("Flags", word32 flags),
      ("LimitAmount", limit.toJson), ("TransactionType", .string "TrustSet")]
  | .payment account destination amount _ =>
    .object [("Account", .string account), ("Amount", amount.toJson),
      ("Destination", .string destination), ("TransactionType", .string "Payment")]

def textField (tx : Json) (name : String) : Except DecodeError String :=
  match tx.stringField? name with
  | some s => .ok s
  | none => .error (.missingInTransaction name)

def amountField (tx : Json) (name : String) : Except DecodeError Amount :=
  match tx.field? name with
  | some j => Amount.ofJson j
  | none => .error (.missingInTransaction name)

/-- An account setting by its number, of which the low 32 bits count. -/
def settingField (tx : Json) (name : String) : Except DecodeError (Option AccountFlag) :=
  match tx.wordField? name with
  | none => .ok none
  | some value =>
    match AccountFlag.ofValue? value.toUInt32 with
    | some flag => .ok (some flag)
    | none => .error (.unknownFlag name value)

def ofJson (tx : Json) (buildPath : Bool) : Except DecodeError Transaction := do
  let flags := ((tx.wordField? "Flags").getD 0).toUInt32
  match ← textField tx "TransactionType" with
  | "AccountSet" =>
    let account ← textField tx "Account"
    let set ← settingField tx "SetFlag"
    let clear ← settingField tx "ClearFlag"
    .ok (.accountSet account flags set clear)
  | "TrustSet" =>
    let account ← textField tx "Account"
    let limit ← amountField tx "LimitAmount"
    .ok (.trustSet account limit flags)
  | "Payment" =>
    let account ← textField tx "Account"
    let destination ← textField tx "Destination"
    let amount ← amountField tx "Amount"
    .ok (.payment account destination amount buildPath)
  | other => .error (.unsupportedType other)

end Transaction

inductive EngineResult where
  | success
  | pathDry
  | noDestination
  | lineRedundant
  | unfundedPayment
  | owners
  | destinationIsSource
  | badAmount
  | badLimit
  | invalidFlag
  | other (code : String)
  deriving Repr, DecidableEq

namespace EngineResult

def code : EngineResult → String
  | .success => "tesSUCCESS"
  | .pathDry => "tecPATH_DRY"
  | .noDestination => "tecNO_DST"
  | .lineRedundant => "tecNO_LINE_REDUNDANT"
  | .unfundedPayment => "tecUNFUNDED_PAYMENT"
  | .owners => "tecOWNERS"
  | .destinationIsSource => "temDST_IS_SRC"
  | .badAmount => "temBAD_AMOUNT"
  | .badLimit => "temBAD_LIMIT"
  | .invalidFlag => "temINVALID_FLAG"
  | .other code => code

def ofCode : String → EngineResult
  | "tesSUCCESS" => .success
  | "tecPATH_DRY" => .pathDry
  | "tecNO_DST" => .noDestination
  | "tecNO_LINE_REDUNDANT" => .lineRedundant
  | "tecUNFUNDED_PAYMENT" => .unfundedPayment
  | "tecOWNERS" => .owners
  | "temDST_IS_SRC" => .destinationIsSource
  | "temBAD_AMOUNT" => .badAmount
  | "temBAD_LIMIT" => .badLimit
  | "temINVALID_FLAG" => .invalidFlag
  | code => .other code

def isSuccess (r : EngineResult) : Bool :=
  r == .success

/-- Whether the transaction failed but still uses up a sequence number. -/
def isClaimed (r : EngineResult) : Bool :=
  ['t', 'e', 'c'].isPrefixOf r.code.toList

end EngineResult
end LedgerBench

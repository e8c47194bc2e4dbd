import LedgerBench.Client.Error
import LedgerBench.Decimal.Reading
import LedgerBench.Json.Shape
import LedgerBench.Ledger.Transaction
import LedgerBench.Server.Keys

/-! The records that a client reads out of a server's answers, and their shapes. -/

namespace LedgerBench

structure Submitted where
  result : EngineResult
  message : String
  deriving Repr, DecidableEq

structure TrustLine where
  account : String
  balance : Float
  currency : String
  limit : Float
  limitPeer : Float
  noDivvy : Bool
  noDivvyPeer : Bool
  deriving Repr, DecidableEq

/-- The entry of a line between two accounts, the balance seen from the low one. -/
structure LineEntry where
  flags : LineFlags
  balance : Float
  deriving Repr, DecidableEq

structure PathStep where
  account : Option String
  currency : Option String
  deriving Repr, DecidableEq

structure PathAlternative where
  paths : List (List PathStep)
  deriving Repr, DecidableEq

structure PathsFound where
  alternatives : List PathAlternative
  deriving Repr, DecidableEq

/-- Which ledger a query reads. The current one holds what is not accepted yet. -/
inductive LedgerSelector where
  | current
  | closed
  | validated
  deriving Repr, DecidableEq

def LedgerSelector.name : LedgerSelector → String
  | .current => "current"
  | .closed => "closed"
  | .validated => "validated"

open Json

def readNumberText (j : Json) : Except String Float := do
  let text ← readText j
  match Decimal.readReal text.toList with
  | .ok x => .ok x
  | .error e => .error e.message

def requiredField {α β : Type} (name : String) (read : Json → Except String β)
    (set : β → α → α) : FieldShape α :=
  ⟨name, true, fun j r => return set (← read j) r⟩

def optionalField {α β : Type} (name : String) (read : Json → Except String β)
    (set : β → α → α) : FieldShape α :=
  ⟨name, false, fun j r => return set (← read j) r⟩

def KeyPair.shape : Shape KeyPair where
  name := "Wallet"
  empty := ⟨"", ""⟩
  fields :=
    [requiredField "account_id" readText fun s r => { r with address := s },
      requiredField "master_seed" readText fun s r => { r with secret := s }]

def Submitted.shape : Shape Submitted where
  name := "SubmitResult"
  empty := ⟨.other "", ""⟩
  fields :=
    [requiredField "engine_result" readText fun s r => { r with result := .ofCode s },
      optionalField "engine_result_message" readText fun s r => { r with message := s }]

def TrustLine.shape : Shape TrustLine where
  name := "TrustLine"
  empty := ⟨"", 0, "", 0, 0, false, false⟩
  fields :=
    [requiredField "account" readText fun s r => { r with account := s },
      requiredField "balance" readNumberText fun x r => { r with balance := x },
      requiredField "currency" readText fun s r => { r with currency := s },
      requiredField "limit" readNumberText fun x r => { r with limit := x },
      requiredField "limit_peer" readNumberText fun x r => { r with limitPeer := x },
      optionalField "no_divvy" readBool fun b r => { r with noDivvy := b },
      optionalField "no_divvy_peer" readBool fun b r => { r with noDivvyPeer := b }]

def PathStep.shape : Shape PathStep where
  name := "PathStep"
  empty := ⟨none, none⟩
  fields :=
    [optionalField "account" (readOptional readText) fun s r => { r with account := s },
      optionalField "currency" (readOptional readText) fun s r => { r with currency := s }]

def PathAlternative.shape : Shape PathAlternative where
  name := "PathAlternative"
  empty := ⟨[]⟩
  fields :=
    [optionalField "paths_computed" (readList (readList PathStep.shape.read)) fun ps _ => ⟨ps⟩]

def PathsFound.shape : Shape PathsFound where
  name := "PathFindResult"
  empty := ⟨[]⟩
  fields := [optionalField "alternatives" (readList PathAlternative.shape.read) fun as _ => ⟨as⟩]

end LedgerBench

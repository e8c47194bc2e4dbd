import LedgerBench.Text.Blank
import LedgerBench.Decimal.Binary
import LedgerBench.Decimal.Notation
import LedgerBench.Decimal.Reading
import LedgerBench.Json.Printer

/-! Amounts of the native currency, counted in drops, and of issued currencies.

Written by people, `10000.0` is a native amount in XDV and `100/USD/alice` an issued one. In JSON a
native amount is the text of its drops and an issued one an object of three texts. -/

namespace LedgerBench

inductive Amount where
  | native (drops : UInt64)
  | issued (value : Float) (currency issuer : String)
  deriving Repr, DecidableEq

inductive AmountError where
  | invalidValue (text : String)
  | invalidFormat (text : String)
  | negativeNative (text : String)
  deriving Repr, DecidableEq

def AmountError.message : AmountError → String
  | .invalidValue text => s!"amount [{text}] is not a number"
  | .invalidFormat text => s!"amount [{text}] must be `value` or `value/currency/issuer`"
  | .negativeNative text => s!"native amount [{text}] must not be negative"

inductive DecodeError where
  | nativeAmount (text : String)
  | missingInAmount (field : String)
  | amountValue (text : String)
  | notAnAmount (found : Json)
  | missingInTransaction (field : String)
  | unknownFlag (field : String) (value : UInt64)
  | unsupportedType (name : String)

def DecodeError.message : DecodeError → String
  | .nativeAmount text => s!"invalid native amount [{text}]"
  | .missingInAmount field => s!"amount is missing [{field}]"
  | .amountValue text => s!"invalid amount [{text}]"
  | .notAnAmount found => s!"invalid amount {found.compact}"
  | .missingInTransaction field => s!"transaction is missing [{field}]"
  | .unknownFlag field value => s!"unknown {field} [{value}]"
  | .unsupportedType name => s!"unsupported transaction type [{name}]"

namespace Amount

def dropsPerXdv : Float := 1000000

def readValue (part : List Char) : Option Float :=
  match Decimal.readReal (Text.trimBlanks part) with
  | .ok x => if x.isFinite then some x else none
  | .error _ => none

def dropsOf (xdv : Float) : UInt64 :=
  Decimal.nearestWord (xdv * dropsPerXdv)

/-- Reads an amount as people write it. The shape is checked before the number. -/
def parse (text : String) : Except AmountError Amount :=
  match Text.splitAtEach '/' text.toList with
  | [part] =>
    match readValue part with
    | none => .error (.invalidValue text)
    | some x => if x < 0 then .error (.negativeNative text) else .ok (.native (dropsOf x))
  | [part, currency, issuer] =>
    if currency.isEmpty || issuer.isEmpty then .error (.invalidFormat text)
    else
      match readValue part with
      | none => .error (.invalidValue text)
      | some x => .ok (.issued x (String.ofList currency) (String.ofList issuer))
  | _ => .error (.invalidFormat text)

def isNative : Amount → Bool
  | .native _ => true
  | .issued .. => false

def currency : Amount → String
  | .native _ => "XDV"
  | .issued _ currency _ => currency

def issuer? : Amount → Option String
  | .native _ => none
  | .issued _ _ issuer => some issuer

/-- The amount with another issuer; a native amount has none and stays as it is. -/
def withIssuer (a : Amount) (issuer : String) : Amount :=
  match a with
  | .native drops => .native drops
  | .issued value currency _ => .issued value currency issuer

/-- Equality of the numbers, so that an undefined value equals nothing. -/
def sameAs : Amount → Amount → Bool
  | .native a, .native b => a == b
  | .issued x c i, .issued y d j => x == y && c == d && i == j
  | _, _ => false

def toJson : Amount → Json
  | .native drops => .string (toString drops.toNat)
  | .issued value currency issuer =>
    .object [("currency", .string currency), ("issuer", .string issuer),
      ("value", .string (Decimal.textOf Decimal.plain value))]

def textField (j : Json) (name : String) : Except DecodeError String :=
  match j.stringField? name with
  | some s => .ok s
  | none => .error (.missingInAmount name)

def ofJson : Json → Except DecodeError Amount
  | .string text =>
    match Decimal.readWord text.toList with
    | some drops => .ok (.native drops)
    | none => .error (.nativeAmount text)
  | .object members => do
    let j := Json.object members
    let text ← textField j "value"
    match Decimal.readReal text.toList with
    | .error _ => .error (.amountValue text)
    | .ok value =>
      let currency ← textField j "currency"
      let issuer ← textField j "issuer"
      .ok (.issued value currency issuer)
  | found => .error (.notAnAmount found)

end Amount
end LedgerBench

import LedgerBench.Json.Printer
import LedgerBench.Text.Unseen

/-! Reading records out of JSON values. A shape names the fields of a record in order and says how
each is read; the record may be written as an object, whose members are read in the order of their
names, or as an array of its fields. The errors name what was found and what was wanted. -/

namespace LedgerBench.Json

/-- How text is shown inside an error: quoted, with unseen characters as code points. -/
def quotedForError (s : String) : String :=
  let escape (c : Char) : List Char :=
    if c = '"' then ['\\', '"']
    else if c = '\\' then ['\\', '\\']
    else if c = '\n' then ['\\', 'n']
    else if c = '\r' then ['\\', 'r']
    else if c = '\t' then ['\\', 't']
    else if c.toNat = 0 then ['\\', '0']
    else if Text.isUnseen c then
      '\\' :: 'u' :: '\x7b' :: Nat.toDigits 16 c.toNat ++ ['\x7d']
    else [c]
  String.ofList ('"' :: s.toList.flatMap escape ++ ['"'])

def described : Json → String
  | .null => "null"
  | .bool true => "boolean `true`"
  | .bool false => "boolean `false`"
  | .number (.real x) => "floating point `" ++ Decimal.textOf Decimal.json x ++ "`"
  | .number n => "integer `" ++ n.text ++ "`"
  | .string s => "string " ++ quotedForError s
  | .array _ => "sequence"
  | .object _ => "map"

def wrongKind (found : Json) (wanted : String) : String :=
  "invalid type: " ++ found.described ++ ", expected " ++ wanted

def readText : Json → Except String String
  | .string s => .ok s
  | j => .error (wrongKind j "a string")

def readBool : Json → Except String Bool
  | .bool b => .ok b
  | j => .error (wrongKind j "a boolean")

def readOptional {α : Type} (read : Json → Except String α) : Json → Except String (Option α)
  | .null => .ok none
  | j => (read j).map some

def readList {α : Type} (read : Json → Except String α) : Json → Except String (List α)
  | .array items => items.mapM read
  | j => .error (wrongKind j "a sequence")

structure FieldShape (α : Type) where
  name : String
  required : Bool
  put : Json → α → Except String α

structure Shape (α : Type) where
  name : String
  empty : α
  fields : List (FieldShape α)

namespace Shape

variable {α : Type}

def readMember (shape : Shape α) (record : α) (member : String × Json) :
    Except String α :=
  match shape.fields.find? (·.name == member.1) with
  | some field => field.put member.2 record
  | none => .ok record

def readPositions (shape : Shape α) :
    Nat → List (FieldShape α) → List Json → α → Except String (α × List Json)
  | _, [], items, record => .ok (record, items)
  | n, field :: fields, [], record =>
    if field.required then
      let count := shape.fields.length
      let noun := if count = 1 then "element" else "elements"
      .error s!"invalid length {n}, expected struct {shape.name} with {count} {noun}"
    else shape.readPositions (n + 1) fields [] record
  | n, field :: fields, item :: items, record => do
    shape.readPositions (n + 1) fields items (← field.put item record)

def read (shape : Shape α) : Json → Except String α
  | .object members => do
    let record ← members.foldlM shape.readMember shape.empty
    match shape.fields.find? fun f => f.required && !members.any (·.1 == f.name) with
    | some missing => .error ("missing field `" ++ missing.name ++ "`")
    | none => .ok record
  | .array items => do
    let (record, left) ← shape.readPositions 0 shape.fields items shape.empty
    if left.isEmpty then .ok record
    else .error s!"invalid length {items.length}, expected fewer elements in array"
  | j => .error (wrongKind j ("struct " ++ shape.name))

end Shape
end LedgerBench.Json

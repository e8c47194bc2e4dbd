/-! JSON values. An object is a list of members; the functions here keep the members in increasing
order of their names, each name once, and reading a member takes the first of its name. -/

namespace LedgerBench

/-- A number is a 64-bit whole number where it can be and a double otherwise. -/
inductive Json.Number where
  | natural (n : UInt64)
  | negative (n : Int64)
  | real (x : Float)
  deriving Repr, BEq, DecidableEq

inductive Json where
  | null
  | bool (b : Bool)
  | number (n : Json.Number)
  | string (s : String)
  | array (items : List Json)
  | object (members : List (String × Json))
  deriving Repr, BEq, Inhabited

namespace Json

def natural (n : Nat) : Json :=
  .number (.natural (UInt64.ofNat n))

/-- Puts a member at its place in the order of the names, over any member of the same name. -/
def putMember (name : String) (value : Json) : List (String × Json) → List (String × Json)
  | [] => [(name, value)]
  | (other, old) :: rest =>
    if name < other then (name, value) :: (other, old) :: rest
    else if name = other then (name, value) :: rest
    else (other, old) :: putMember name value rest

/-- The object with the given members; of two with one name the later stands. -/
def record (members : List (String × Json)) : Json :=
  .object (members.foldl (fun done (name, value) => putMember name value done) [])

def field? (name : String) : Json → Option Json
  | .object members => (members.find? (·.1 == name)).map (·.2)
  | _ => none

def path? : List String → Json → Option Json
  | [], j => some j
  | name :: names, j => (j.field? name).bind (path? names)

/-- An object with one more member; other values are left alone. -/
def setField (j : Json) (name : String) (value : Json) : Json :=
  match j with
  | .object members => .object (putMember name value members)
  | j => j

def string? : Json → Option String
  | .string s => some s
  | _ => none

def bool? : Json → Option Bool
  | .bool b => some b
  | _ => none

def word? : Json → Option UInt64
  | .number (.natural n) => some n
  | _ => none

def array? : Json → Option (List Json)
  | .array items => some items
  | _ => none

def stringField? (name : String) (j : Json) : Option String :=
  (j.field? name).bind string?

def wordField? (name : String) (j : Json) : Option UInt64 :=
  (j.field? name).bind word?

/-- A number, or null for an infinity or an undefined number. -/
def ofFloat (x : Float) : Json :=
  if x.isFinite then .number (.real x) else .null

end Json
end LedgerBench

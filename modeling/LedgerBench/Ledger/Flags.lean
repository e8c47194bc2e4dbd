/-! The flags of transactions, accounts and trust lines, each set of them a 32-bit word. -/

namespace LedgerBench

inductive AccountSetFlag where
  | requireDestTag
  | optionalDestTag
  | requireAuth
  | optionalAuth
  | disallowXdv
  | allowXdv
  deriving Repr, DecidableEq

def AccountSetFlag.bits : AccountSetFlag → UInt32
  | .requireDestTag => 0x00010000
  | .optionalDestTag => 0x00020000
  | .requireAuth => 0x00040000
  | .optionalAuth => 0x00080000
  | .disallowXdv => 0x00100000
  | .allowXdv => 0x00200000

inductive TrustSetFlag where
  | setNoDivvy
  | clearNoDivvy
  deriving Repr, DecidableEq

def TrustSetFlag.bits : TrustSetFlag → UInt32
  | .setNoDivvy => 0x00020000
  | .clearNoDivvy => 0x00040000

structure RootFlags where
  bits : UInt32
  deriving Repr, DecidableEq, Inhabited

namespace RootFlags

def none : RootFlags := ⟨0⟩
def requireDestTag : RootFlags := ⟨0x00020000⟩
def requireAuth : RootFlags := ⟨0x00040000⟩
def disallowXdv : RootFlags := ⟨0x00080000⟩
def defaultDivvy : RootFlags := ⟨0x00800000⟩

def contains (flags wanted : RootFlags) : Bool :=
  flags.bits &&& wanted.bits == wanted.bits

def union (a b : RootFlags) : RootFlags :=
  ⟨a.bits ||| b.bits⟩

def without (a b : RootFlags) : RootFlags :=
  ⟨a.bits &&& ~~~b.bits⟩

def named : List (String × RootFlags) :=
  [("REQUIRE_DEST_TAG", requireDestTag), ("REQUIRE_AUTH", requireAuth),
    ("DISALLOW_XDV", disallowXdv), ("DEFAULT_DIVVY", defaultDivvy)]

private def alternatives : List String → String
  | [] => "0x0"
  | [s] => s
  | s :: rest => s ++ " | " ++ alternatives rest

/-- The set flags by name, the bits without a name together as one hexadecimal number. -/
def description (flags : RootFlags) : String :=
  let names := (named.filter fun (_, f) => flags.contains f).map (·.1)
  let unnamed := named.foldl (fun left (_, f) => left.without f) flags
  let rest :=
    if unnamed.bits = 0 then []
    else ["0x" ++ String.ofList (Nat.toDigits 16 unnamed.bits.toNat)]
  "AccountRootFlags(" ++ alternatives (names ++ rest) ++ ")"

end RootFlags

/-- Account settings that an AccountSet names by number in `SetFlag` and `ClearFlag`. -/
inductive AccountFlag where
  | requireDest
  | requireAuth
  | disallowXdv
  | defaultDivvy
  deriving Repr, DecidableEq

namespace AccountFlag

def value : AccountFlag → UInt32
  | .requireDest => 1
  | .requireAuth => 2
  | .disallowXdv => 3
  | .defaultDivvy => 8

def ofValue? (n : UInt32) : Option AccountFlag :=
  if n = 1 then some .requireDest
  else if n = 2 then some .requireAuth
  else if n = 3 then some .disallowXdv
  else if n = 8 then some .defaultDivvy
  else none

def rootFlag : AccountFlag → RootFlags
  | .requireDest => .requireDestTag
  | .requireAuth => .requireAuth
  | .disallowXdv => .disallowXdv
  | .defaultDivvy => .defaultDivvy

end AccountFlag

/-- The flags of a trust line's entry. The low side is the account that comes first in byte
order. -/
structure LineFlags where
  bits : UInt32
  deriving Repr, DecidableEq, Inhabited

namespace LineFlags

def lowNoDivvy : UInt32 := 0x00100000
def highNoDivvy : UInt32 := 0x00200000

def ofSides (low high : Bool) : LineFlags :=
  ⟨(if low then lowNoDivvy else 0) ||| (if high then highNoDivvy else 0)⟩

end LineFlags
end LedgerBench

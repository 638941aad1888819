import EmergencyDial.Flag.Basic
import EmergencyDial.Text.Blank
import EmergencyDial.Text.Hex

/-! Flag sets as text: items with bars between them, each a name or bits in hexadecimal. -/
namespace EmergencyDial
open Text

inductive FlagTextError
  | emptyItem
  | badHex
  | unknownName
deriving DecidableEq, Repr

def FlagTextError.message : FlagTextError → String
  | .emptyItem => "encountered empty flag"
  | .badHex => "invalid hex flag"
  | .unknownName => "unrecognized named flag"

namespace FlagSet
variable {k : FlagKind}

/-- The names, and the bits that no flag names. -/
def items (a : FlagSet k) : List (List Char) :=
  a.names.map String.toList ++
    if a.surplus = 0 then [] else ['0' :: 'x' :: Hex.digits a.surplus.toNat]

def write (a : FlagSet k) : List Char := [' ', '|', ' '].intercalate a.items

/-- A word in hexadecimal, with or without a plus in front. -/
def hexWord? (cs : List Char) : Option UInt32 :=
  match (if cs.head? = some '+' then cs.tail else cs) with
  | [] => none
  | c :: cs => (Hex.value? (c :: cs)).bind fun n =>
    if h : n < UInt32.size then some (.ofNatLT n h) else none

def readItem (k : FlagKind) : List Char → Except FlagTextError UInt32
  | [] => .error .emptyItem
  | '0' :: 'x' :: cs => (hexWord? cs).elim (.error .badHex) .ok
  | cs => ((k.flags.find? fun f => f.name.toList = cs).map Flag.bit).elim (.error .unknownName) .ok

def readItems : FlagSet k → List (List Char) → Except FlagTextError (FlagSet k)
  | a, [] => .ok a
  | a, cs :: css => readItem k (trim cs) >>= fun b => readItems (a.union ⟨b⟩) css

/-- The union of the items; a blank text has none. -/
def read (cs : List Char) : Except FlagTextError (FlagSet k) :=
  if trim cs = [] then .ok empty else readItems empty (cs.splitOn '|')

end FlagSet
end EmergencyDial

import EmergencyDial.Json.Doc.Printer
import EmergencyDial.Json.Doc.Reader
import EmergencyDial.Json.Error

/-! Values as documents and as texts. -/
namespace EmergencyDial.Json

/-- How values of a type are written as documents, and read. -/
structure Codec (α : Type) where
  write : α → Doc
  read : Doc → Reading α

namespace Codec
variable {α β : Type}

/-- The text of a value. -/
def render (c : Codec α) (a : α) : String := (c.write a).render

/-- Reads the whole of a text; only blanks may follow the value. -/
def parse (c : Codec α) (s : String) : Reading α :=
  let (d, rest) := readDoc s.toList
  c.read d >>= fun a => if rest.isEmpty then .ok a else .error .malformed

def text : Codec String where
  write := .text
  read
    | .text s => .ok s
    | d => d.refuse .text

def bool : Codec Bool where
  write := .bool
  read
    | .bool b => .ok b
    | d => d.refuse .bool

/-- An integer for which there is a value. -/
def readInt (wanted : Wanted) (f : Int → Option α) : Doc → Reading α
  | .number n =>
    match n.value? with
    | some (.integer k) => (f k).elim (fault (.outOfRange k wanted)) .ok
    | _ => (Doc.number n).refuse wanted
  | d => d.refuse wanted

def int32 : Codec Int32 where
  write k := .number (.ofInt k.toInt)
  read := readInt .id fun k => if -0x80000000 ≤ k ∧ k < 0x80000000 then some (.ofInt k) else none

def uint64 : Codec UInt64 where
  write n := .number (.ofNat n.toNat)
  read := readInt .count fun k => if 0 ≤ k ∧ k < 0x10000000000000000 then some (.ofNat k.toNat) else none

def readItems (c : Codec α) : List Doc → Reading (List α)
  | [] => .ok []
  | d :: ds => c.read d >>= fun a => (readItems c ds).map (a :: ·)

def list (c : Codec α) : Codec (List α) where
  write as := .list (as.map c.write)
  read
    | .list ds => c.readItems ds
    | d => d.refuse .list

/-- A value or `null`. -/
def optional (c : Codec α) : Codec (Option α) where
  write a := a.elim .null c.write
  read
    | .null => .ok none
    | d => (c.read d).map some

/-- The same documents for another type. -/
def via (c : Codec α) (f : α → β) (g : β → α) : Codec β where
  write b := c.write (g b)
  read d := (c.read d).map f

def flags (k : FlagKind) : Codec (FlagSet k) where
  write a := .text (String.ofList a.write)
  read
    | .text s => (FlagSet.read s.toList).mapError fun e => .faulty (.badFlags e)
    | d => d.refuse .flags

/-- The choice of a name. -/
def choose (choices : List α) (name : α → String) (s : String) : Reading α :=
  match choices.find? fun a => name a = s with
  | some a => .ok a
  | none => fault (.unknownChoice s (choices.map name))

/-- One of several values by its name, which may also be the only key of an object, with the value
`null`. -/
def choice (choices : List α) (name : α → String) : Codec α where
  write a := .text (name a)
  read
    | .text s => choose choices name s
    | .object ((.text s, d) :: es) => do
      let a ← choose choices name s
      match d, es with
      | .null, [] => .ok a
      | .null, _ => .error .malformed
      | d, _ => d.refuse .nothing
    | _ => .error .malformed

end Codec
end EmergencyDial.Json

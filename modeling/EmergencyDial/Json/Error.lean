import EmergencyDial.Flag.Text
import EmergencyDial.Json.Doc
import EmergencyDial.Text.Quoted

/-! Why a text is not read, and the words for it. -/
namespace EmergencyDial.Json
open Decimal

/-- What a document turned out to be. -/
inductive Found
  | null
  | bool (b : Bool)
  | number (n : Number)
  | text (s : String)
  | list
  | object
deriving Repr

inductive Wanted
  | text
  | bool
  | id
  | count
  | list
  | flags
  | record (name : String)
  | nothing
deriving Repr

/-- A fault of a document that is sound as JSON: it is of another kind or a number out of range, a
choice or a set of flags does not exist, or the fields of a record do not add up. -/
inductive Fault
  | unfit (found : Found) (wanted : Wanted)
  | outOfRange (n : Int) (wanted : Wanted)
  | unknownChoice (name : String) (choices : List String)
  | badFlags (e : FlagTextError)
  | repeatedField (name : String)
  | missingField (name : String)
  | tooShort (length : Nat) (record : String) (fields : Nat)
deriving Repr

/-- A `malformed` text is no JSON, or goes on where its type leaves no room. -/
inductive ReadError
  | malformed
  | faulty (f : Fault)
deriving Repr

def Number.display : Number → String
  | .integer n => s!"integer `{n}`"
  | .float negative x =>
    "floating point `" ++ String.ofList ((if negative then ['-'] else []) ++ x.text) ++ "`"

def Found.display : Found → String
  | .null => "null"
  | .bool b => s!"boolean `{b}`"
  | .number n => n.display
  | .text s => "string " ++ Text.quoted s
  | .list => "sequence"
  | .object => "map"

def Wanted.display : Wanted → String
  | .text => "a string"
  | .bool => "a boolean"
  | .id => "i32"
  | .count => "usize"
  | .list => "a sequence"
  | .flags => "a string value of `|` separated flags"
  | .record name => "struct " ++ name
  | .nothing => "unit"

def Fault.message : Fault → String
  | .unfit found wanted => "invalid type: " ++ found.display ++ ", expected " ++ wanted.display
  | .outOfRange n wanted => s!"invalid value: integer `{n}`, expected " ++ wanted.display
  | .unknownChoice name choices =>
    "unknown variant `" ++ name ++ "`, expected one of " ++
      ", ".intercalate (choices.map fun c => "`" ++ c ++ "`")
  | .badFlags e => e.message
  | .repeatedField name => "duplicate field `" ++ name ++ "`"
  | .missingField name => "missing field `" ++ name ++ "`"
  | .tooShort length record fields =>
    s!"invalid length {length}, expected struct " ++ record ++
      (if fields = 1 then " with 1 element" else s!" with {fields} elements")

abbrev Reading := Except ReadError

namespace Reading
variable {α β γ : Type} {x : Reading α} {b : β}

theorem bind_eq_ok {f : α → Reading β} : x >>= f = .ok b ↔ ∃ a, x = .ok a ∧ f a = .ok b := by
  cases x with
  | error e => exact ⟨nofun, fun ⟨_, h, _⟩ => nomatch h⟩
  | ok a => exact ⟨fun h => ⟨a, rfl, h⟩, fun ⟨_, rfl, h⟩ => h⟩

theorem map_eq_ok {f : α → β} : x.map f = .ok b ↔ ∃ a, x = .ok a ∧ f a = b := by
  cases x <;> simp [Except.map]

theorem bind_map_eq_ok {y : Reading γ} {f : α → γ → β} :
    (x >>= fun a => y.map (f a)) = .ok b ↔ ∃ a c, x = .ok a ∧ y = .ok c ∧ f a c = b := by
  simp only [bind_eq_ok, map_eq_ok, exists_and_left]

end Reading

def fault (f : Fault) : Reading α := .error (.faulty f)

/-- What a document is; a text without sense or a number out of range is nothing. -/
def Doc.found : Doc → Reading Found
  | .null => .ok .null
  | .bool b => .ok (.bool b)
  | .number n => n.value?.elim (.error .malformed) fun v => .ok (.number v)
  | .text s => .ok (.text s)
  | .list _ => .ok .list
  | .object _ => .ok .object
  | .garbled | .broken => .error .malformed

/-- The error of a document that is not of the kind wanted. -/
def Doc.refuse (d : Doc) (wanted : Wanted) : Reading α :=
  d.found >>= fun found => fault (.unfit found wanted)

end EmergencyDial.Json

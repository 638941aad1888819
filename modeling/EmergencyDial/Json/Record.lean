import EmergencyDial.Json.Codec

/-! Records: objects with one value for each field, or lists of these values in order. -/
namespace EmergencyDial.Json

/-- A field may be left out if there is a value to stand for it then. -/
structure Field where
  name : String
  Value : Type
  codec : Codec Value
  absent : Option Value

/-- A value for each field. -/
@[reducible] def Values : List Field → Type
  | [] => Unit
  | f :: fs => f.Value × Values fs

/-- A value for each field that was met. -/
@[reducible] def Slots : List Field → Type
  | [] => Unit
  | f :: fs => Option f.Value × Slots fs

def Slots.empty : (fs : List Field) → Slots fs
  | [] => ()
  | _ :: fs => (none, empty fs)

/-- Reads an entry into the slot of its field, which must be free. The value of any other key is
passed over. -/
def Slots.put : (fs : List Field) → Slots fs → String → Doc → Reading (Slots fs)
  | [], _, _, d => if d.complete then .ok () else .error .malformed
  | f :: fs, (slot, slots), key, d =>
    if f.name = key then
      match slot with
      | some _ => fault (.repeatedField key)
      | none => (f.codec.read d).map fun a => (some a, slots)
    else (put fs slots key d).map fun slots => (slot, slots)

/-- Reads entries in the order of the text. -/
def Slots.fill (fs : List Field) : Slots fs → List (Doc × Doc) → Reading (Slots fs)
  | slots, [] => .ok slots
  | slots, (.text key, d) :: es => slots.put fs key d >>= fun slots => fill fs slots es
  | _, _ => .error .malformed

/-- Completes the slots that are free. -/
def Slots.values : (fs : List Field) → Slots fs → Reading (Values fs)
  | [], _ => .ok ()
  | f :: fs, (slot, slots) =>
    match slot.or f.absent with
    | some a => (values fs slots).map fun as => (a, as)
    | none => fault (.missingField f.name)

namespace Values

/-- Reads items from the field with number `i` on. The last fields may be left out. -/
def ofItems (record : String) (count : Nat) :
    (fs : List Field) → (i : Nat) → List Doc → Reading (Values fs)
  | [], _, [] => .ok ()
  | [], _, _ :: _ => .error .malformed
  | f :: fs, i, [] =>
    match f.absent with
    | some a => (ofItems record count fs (i + 1) []).map fun as => (a, as)
    | none => fault (.tooShort i record count)
  | f :: fs, i, d :: ds =>
    f.codec.read d >>= fun a => (ofItems record count fs (i + 1) ds).map fun as => (a, as)

def write : (fs : List Field) → Values fs → List (String × Doc)
  | [], _ => []
  | f :: fs, (a, as) => (f.name, f.codec.write a) :: write fs as

end Values

/-- The fields of a type, in order. -/
structure Record (α : Type) where
  name : String
  fields : List Field
  make : Values fields → α
  view : α → Values fields
  make_view : ∀ a, make (view a) = a := by intros; rfl
  view_make : ∀ as, view (make as) = as := by intros; rfl

namespace Record
variable {α : Type}

def read (r : Record α) : Doc → Reading α
  | .object es => do
    let slots ← (Slots.empty r.fields).fill r.fields es
    return r.make (← slots.values)
  | .list ds => (Values.ofItems r.name r.fields.length r.fields 0 ds).map r.make
  | d => d.refuse (.record r.name)

def codec (r : Record α) : Codec α where
  write a := .record (Values.write r.fields (r.view a))
  read := r.read

end Record
end EmergencyDial.Json

import EmergencyDial.Json.Numeral

/-! Documents of JSON, as far as they could be read. -/
namespace EmergencyDial.Json

/-- `garbled` is a text whose escapes do not pair into characters. `broken` stands where reading
stopped: in a list for the items from there on, in an object for a key and its value, or for a value
alone. The keys of an object are documents, since a key may be garbled, and an object may break off
at one. -/
inductive Doc
  | null
  | bool (b : Bool)
  | number (n : Numeral)
  | text (s : String)
  | garbled
  | list (items : List Doc)
  | object (entries : List (Doc × Doc))
  | broken
deriving Repr

namespace Doc

def isKey : Doc → Bool
  | .text _ | .garbled => true
  | _ => false

mutual
/-- Whether the document was read to its end, which is all that is asked of a value nobody looks
at. -/
def complete : Doc → Bool
  | .broken => false
  | .list ds => completeItems ds
  | .object es => completeEntries es
  | _ => true

def completeItems : List Doc → Bool
  | [] => true
  | d :: ds => d.complete && completeItems ds

def completeEntries : List (Doc × Doc) → Bool
  | [] => true
  | (k, d) :: es => k.isKey && d.complete && completeEntries es
end

@[simp] theorem complete_list (ds : List Doc) : (list ds).complete = ds.all complete := by
  rw [complete]
  induction ds with
  | nil => simp [completeItems]
  | cons d ds ih => simp [completeItems, ih]

@[simp] theorem complete_object (es : List (Doc × Doc)) :
    (object es).complete = es.all fun e => e.1.isKey && e.2.complete := by
  rw [complete]
  induction es with
  | nil => simp [completeEntries]
  | cons e es ih => simp [completeEntries, ih]

/-- A list of documents that is an object's entries under the given names. -/
def record (es : List (String × Doc)) : Doc := .object (es.map fun e => (.text e.1, e.2))

@[simp] theorem record_inj {es fs : List (String × Doc)} : record es = record fs ↔ es = fs := by
  refine ⟨fun h => ?_, congrArg record⟩
  refine List.map_inj_right ?_ |>.1 (Doc.object.inj h)
  rintro ⟨k, d⟩ ⟨l, e⟩ he
  simpa using he

theorem complete_record {es : List (String × Doc)} (h : ∀ e ∈ es, e.2.complete = true) :
    (record es).complete = true := by
  rw [record, complete_object, List.all_map, List.all_eq_true]
  exact fun e he => h e he

end Doc
end EmergencyDial.Json

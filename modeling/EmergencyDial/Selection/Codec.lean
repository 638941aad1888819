import EmergencyDial.Selection.Basic

/-! Selections and selectors as documents. -/
namespace EmergencyDial
open Json

def Selector.record : Record Selector where
  name := "SelectorConfig"
  fields := [⟨"scheme", Scheme, Scheme.codec, some .tel⟩]
  make := fun (scheme, _) => { scheme }
  view s := (s.scheme, ())

def Selector.codec : Codec Selector := record.codec

def Snapshot.doc (s : Snapshot) : Doc :=
  .record
    [("handle", (Codec.optional Handle.codec).write s.handle),
      ("can_place_emergency_call", Codec.bool.write s.canPlaceEmergencyCalls),
      ("radio_id", SubscriptionId.codec.write s.subscription),
      ("country_iso", Codec.text.write s.country),
      ("promoted_numbers", (Codec.optional (Codec.list EmergencyNumber.codec)).write s.promoted)]

def Source.doc : Source → Doc
  | .byDefault => .record [("kind", .text "default_radio")]
  | .callCapable position =>
    .record [("kind", .text "call_capable"), ("position", .number (.ofNat position))]

def Selection.doc (s : Selection) : Doc :=
  .record [("info", s.snapshot.doc), ("source", s.source.doc)]

end EmergencyDial

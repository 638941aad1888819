import EmergencyDial.Device.Plan
import EmergencyDial.Proofs.Flag.Text
import EmergencyDial.Proofs.Json.Record
import EmergencyDial.Selection.Codec

/-! Every value of every type is read back from its text. -/
namespace EmergencyDial
open Json Codec

theorem lawful_flags (k : FlagKind) : (flags k).Lawful where
  proper _ := Doc.proper_text _
  read_write a := by
    simp only [flags, String.toList_ofList, FlagSet.read_write]
    rfl

theorem SubscriptionId.lawful_codec : SubscriptionId.codec.Lawful :=
  lawful_via lawful_int32 fun _ => rfl

theorem Handle.lawful_codec : Handle.codec.Lawful := lawful_via lawful_text fun _ => rfl

theorem Routing.lawful_codec : Routing.codec.Lawful := by
  apply lawful_choice
  · intro r
    cases r <;> decide
  · intro r s
    cases r <;> cases s <;> decide

theorem Scheme.lawful_codec : Scheme.codec.Lawful := by
  apply lawful_choice
  · intro s
    cases s <;> decide
  · intro s t
    cases s <;> cases t <;> decide

theorem EmergencyNumber.lawful_record : EmergencyNumber.record.Lawful := by
  refine ⟨by decide, ?_⟩
  simp only [EmergencyNumber.record, List.forall_mem_cons]
  exact ⟨lawful_text, lawful_text, lawful_text, lawful_flags _, lawful_flags _,
    Routing.lawful_codec, nofun⟩

theorem EmergencyNumber.lawful_codec : EmergencyNumber.codec.Lawful := lawful_record.codec

theorem lawful_optional_handle : (optional Handle.codec).Lawful :=
  lawful_optional Handle.lawful_codec nofun

theorem lawful_optional_numbers : (optional (list EmergencyNumber.codec)).Lawful :=
  lawful_optional (lawful_list EmergencyNumber.lawful_codec) nofun

theorem Account.lawful_record : Account.record.Lawful := by
  refine ⟨by decide, ?_⟩
  simp only [Account.record, List.forall_mem_cons]
  exact ⟨Handle.lawful_codec, lawful_flags _, nofun⟩

theorem Account.lawful_codec : Account.codec.Lawful := lawful_record.codec

theorem Selector.lawful_record : Selector.record.Lawful := by
  refine ⟨by decide, ?_⟩
  simp only [Selector.record, List.forall_mem_cons]
  exact ⟨Scheme.lawful_codec, nofun⟩

theorem Selector.lawful_codec : Selector.codec.Lawful := lawful_record.codec

theorem RadioPlan.lawful_record : RadioPlan.record.Lawful := by
  refine ⟨by decide, ?_⟩
  simp only [RadioPlan.record, List.forall_mem_cons]
  exact ⟨lawful_text, lawful_optional SubscriptionId.lawful_codec nofun, lawful_flags _,
    lawful_optional lawful_text nofun, lawful_bool, lawful_bool, nofun⟩

theorem RadioPlan.lawful_codec : RadioPlan.codec.Lawful := lawful_record.codec

theorem NumbersPlan.lawful_record : NumbersPlan.record.Lawful := by
  refine ⟨by decide, ?_⟩
  simp only [NumbersPlan.record, List.forall_mem_cons]
  exact ⟨SubscriptionId.lawful_codec, lawful_optional_numbers, nofun⟩

theorem NumbersPlan.lawful_codec : NumbersPlan.codec.Lawful := lawful_record.codec

theorem DevicePlan.lawful_record : DevicePlan.record.Lawful := by
  refine ⟨by decide, ?_⟩
  simp only [DevicePlan.record, List.forall_mem_cons]
  exact ⟨lawful_optional lawful_uint64 nofun, lawful_optional lawful_text nofun,
    lawful_list RadioPlan.lawful_codec, lawful_list NumbersPlan.lawful_codec, lawful_bool, nofun⟩

theorem DevicePlan.lawful_codec : DevicePlan.codec.Lawful := lawful_record.codec

/-- The text that comes of reading a text and writing its value. -/
def Json.Codec.respell {α : Type} (c : Codec α) (s : String) : Reading String :=
  (c.parse s).map c.render

/-- The text of a value is read as that value. Any text that is read at all can be written anew
without changing its value, and once written anew it stays as it is. -/
structure Json.Codec.RoundTrips {α : Type} (c : Codec α) : Prop where
  parse_render : ∀ a, c.parse (c.render a) = .ok a
  parse_respell : ∀ s t, c.respell s = .ok t → c.parse t = c.parse s
  respell_respell : ∀ s t, c.respell s = .ok t → c.respell t = .ok t

theorem roundTrips_of_lawful {α : Type} {c : Codec α} (h : c.Lawful) : c.RoundTrips where
  parse_render := h.parse_render
  parse_respell s t hs := by
    obtain ⟨a, ha, rfl⟩ := Reading.map_eq_ok.1 hs
    rw [h.parse_render, ha]
  respell_respell s t hs := by
    obtain ⟨a, _, rfl⟩ := Reading.map_eq_ok.1 hs
    exact Reading.map_eq_ok.2 ⟨a, h.parse_render a, rfl⟩

theorem codecs_roundTrip :
    SubscriptionId.codec.RoundTrips ∧
    (flags .services).RoundTrips ∧
    (flags .origins).RoundTrips ∧
    (flags .capabilities).RoundTrips ∧
    Routing.codec.RoundTrips ∧
    EmergencyNumber.codec.RoundTrips ∧
    Handle.codec.RoundTrips ∧
    Account.codec.RoundTrips ∧
    Scheme.codec.RoundTrips ∧
    Selector.codec.RoundTrips ∧
    RadioPlan.codec.RoundTrips ∧
    NumbersPlan.codec.RoundTrips ∧
    DevicePlan.codec.RoundTrips := by
  refine ⟨?_, ?_, ?_, ?_, ?_, ?_, ?_, ?_, ?_, ?_, ?_, ?_, ?_⟩ <;> apply roundTrips_of_lawful
  · exact SubscriptionId.lawful_codec
  · exact lawful_flags .services
  · exact lawful_flags .origins
  · exact lawful_flags .capabilities
  · exact Routing.lawful_codec
  · exact EmergencyNumber.lawful_codec
  · exact Handle.lawful_codec
  · exact Account.lawful_codec
  · exact Scheme.lawful_codec
  · exact Selector.lawful_codec
  · exact RadioPlan.lawful_codec
  · exact NumbersPlan.lawful_codec
  · exact DevicePlan.lawful_codec

end EmergencyDial

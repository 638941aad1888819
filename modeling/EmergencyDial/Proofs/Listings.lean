import EmergencyDial.Proofs.Json.Listing
import EmergencyDial.Proofs.RoundTrip

/-! What can be left out of the records that are read, and that their fields stand in any order. -/
namespace EmergencyDial
open Json

/-- Each record is read from its fields in any order and spelling. What may be left out, and what
stands for it then, is given with the names of the fields. -/
theorem records_readAlike :
    EmergencyNumber.codec.ReadsAlike
      [("number", none), ("country_iso", some (.text "")), ("mnc", some (.text "")),
        ("categories", some (.text "")), ("sources", some (.text "")),
        ("routing", some (.text "unknown"))] ∧
    Account.codec.ReadsAlike [("handle", none), ("capabilities", some (.text ""))] ∧
    Selector.codec.ReadsAlike [("scheme", some (.text "tel"))] ∧
    RadioPlan.codec.ReadsAlike
      [("handle", none), ("subscription", some .null),
        ("capabilities",
          some (.text "CALL_PROVIDER | SIM_SUBSCRIPTION | PLACE_EMERGENCY_CALLS")),
        ("country_iso", some .null), ("account_registered", some (.bool true)),
        ("call_capable", some (.bool true))] ∧
    NumbersPlan.codec.ReadsAlike [("subscription", none), ("numbers", some .null)] ∧
    DevicePlan.codec.ReadsAlike
      [("radio_count", some .null), ("default_radio", some .null), ("radios", some (.list [])),
        ("emergency_numbers", some (.list [])), ("numbers_unavailable", some (.bool false))] := by
  refine ⟨?_, ?_, ?_, ?_, ?_, ?_⟩
  · exact EmergencyNumber.lawful_record.readsAlike
  · exact Account.lawful_record.readsAlike
  · exact Selector.lawful_record.readsAlike
  · exact RadioPlan.lawful_record.readsAlike
  · exact NumbersPlan.lawful_record.readsAlike
  · exact DevicePlan.lawful_record.readsAlike

/-- The handle comes last, the other fields of an ordinary radio are mostly left out, and there is
an entry with values that could not be read. -/
def shuffledEntries : List (String × Doc) :=
  [("call_capable", .bool true),
    ("x", .list [.garbled, .number ⟨true, ['0'], some ['5'], some ⟨false, ['4', '0', '0']⟩⟩]),
    ("subscription", .number (.ofInt 7)), ("handle", .text "sim\"0")]

theorem proper_shuffledEntries : (Doc.record shuffledEntries).Proper := by
  have hn : Numeral.Proper ⟨true, ['0'], some ['5'], some ⟨false, ['4', '0', '0']⟩⟩ := by
    constructor <;> simp [Digits]
  apply Doc.proper_record
  simp only [shuffledEntries, List.forall_mem_cons]
  refine ⟨Doc.proper_bool _, Doc.proper_list ?_, Doc.proper_number _, Doc.proper_text _, nofun⟩
  simp only [List.forall_mem_cons]
  exact ⟨Doc.proper_of_token rfl rfl trivial, Doc.proper_of_token rfl rfl hn, nofun⟩

/-- One of the keys is half a surrogate pair, and spells no text. -/
def garbledRadio : Doc := .object [(.text "handle", .text "sim0"), (.garbled, .null)]

theorem proper_garbledRadio : garbledRadio.Proper where
  complete := rfl
  tokens := by
    simp only [garbledRadio, Doc.tokens, Doc.furtherEntries]
    simp [Token.Proper]

theorem shuffledEntries_read :
    (Doc.record shuffledEntries).SpelledAs (Doc.record shuffledEntries).render ∧
      RadioPlan.codec.parse (Doc.record shuffledEntries).render =
        .ok { handle := "sim\"0", subscription := some ⟨7⟩ } ∧
      ∃ e, RadioPlan.codec.parse garbledRadio.render = .error e := by
  obtain ⟨-, -, -, hr, -, -⟩ := records_readAlike
  have hs := proper_shuffledEntries.spelledAs_render
  have hg := hr.garbled _ .null _ (by simp) rfl proper_garbledRadio.spelledAs_render
  refine ⟨hs, ?_, hg⟩
  refine hr.object _ [("handle", .text "sim\"0"), ("subscription", .number (.ofInt 7)),
    ("capabilities", .text "CALL_PROVIDER | SIM_SUBSCRIPTION | PLACE_EMERGENCY_CALLS"),
    ("country_iso", .null), ("account_registered", .bool true), ("call_capable", .bool true)]
    _ _ rfl ?_ hs
  constructor
  · simp [shuffledEntries]
  · simp [shuffledEntries]
  · simp [shuffledEntries]
  · simp [shuffledEntries, Doc.complete, Doc.completeItems]

example : RadioPlan.codec.parse
    "\x7b \"call_capable\": true,\n\"x\": [\"\\uDC00\", -0.5E+400], \"h\\u0061ndle\":\"sim\"\x7d " =
      .ok { handle := "sim" } := by cbv

end EmergencyDial

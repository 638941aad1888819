import EmergencyDial.Proofs.Device.Load
import EmergencyDial.Proofs.Json.Listing
import EmergencyDial.Proofs.RoundTrip
import Mathlib.Data.List.Forall2

/-! Ordinary radios come out the same from a text that describes them and from plans made by hand. -/
namespace EmergencyDial
open Device Json

/-- What there is to say of an ordinary radio. -/
structure OrdinaryRadio where
  handle : String
  subscription : Int32
  country : String
deriving DecidableEq, Repr

namespace OrdinaryRadio

def plan (o : OrdinaryRadio) : RadioPlan := .ordinary o.handle o.subscription o.country

/-- The plan with the country as it is told. -/
def told (o : OrdinaryRadio) : RadioPlan where
  handle := o.handle
  subscription := some ⟨o.subscription⟩
  country := some o.country

def entries (o : OrdinaryRadio) : List (String × Doc) :=
  [("handle", .text o.handle), ("subscription", .number (.ofInt o.subscription.toInt)),
    ("country_iso", .text o.country)]

/-- An object with these three entries, in any order, and with no other. -/
def DescribedBy (o : OrdinaryRadio) (d : Doc) : Prop := ∃ es, es.Perm o.entries ∧ d = .record es

end OrdinaryRadio

variable {o : OrdinaryRadio} {os : List OrdinaryRadio} {d : Doc} {ds : List Doc} {t : String}
  {es : List (String × Doc)} {ps : List RadioPlan} {p : DevicePlan}

theorem ofPlan_told (o : OrdinaryRadio) : Radio.ofPlan o.told = Radio.ofPlan o.plan := by
  have hc : Radio.named (some o.country) = Radio.named o.plan.country := by
    by_cases he : o.country = "" <;>
      simp [OrdinaryRadio.plan, RadioPlan.ordinary, Radio.named, Option.filter, he]
  simp only [Radio.ofPlan, OrdinaryRadio.told, hc]
  rfl

/-- Of the two plans only one drops an empty country. -/
theorem told_eq_plan_iff : o.told = o.plan ↔ o.country ≠ "" := by
  by_cases he : o.country = "" <;>
    simp [OrdinaryRadio.told, OrdinaryRadio.plan, RadioPlan.ordinary, he]

theorem write_told (o : OrdinaryRadio) :
    Values.write RadioPlan.record.fields (RadioPlan.record.view o.told) =
      [("handle", .text o.handle), ("subscription", .number (.ofInt o.subscription.toInt)),
        ("capabilities", (Codec.flags .capabilities).write Capabilities.ordinary),
        ("country_iso", .text o.country), ("account_registered", .bool true),
        ("call_capable", .bool true)] := rfl

/-- What is not told is what an ordinary radio has anyway. -/
theorem listing_of_perm (h : es.Perm o.entries) :
    Listing (RadioPlan.record.fields.map Field.layout)
      (Values.write RadioPlan.record.fields (RadioPlan.record.view o.told)) es := by
  rw [write_told]
  constructor
  · intro e he _
    have hm := h.mem_iff.1 he
    simp only [OrdinaryRadio.entries, List.mem_cons, List.not_mem_nil, or_false] at hm
    rcases hm with rfl | rfl | rfl <;> simp
  · intro e _
    have hn : (es.map Prod.fst).Nodup := by
      rw [(h.map Prod.fst).nodup_iff]
      change ["handle", "subscription", "country_iso"].Nodup
      decide
    exact List.nodup_iff_count_le_one.1 hn e.1
  · -- the three that are missing say what their fields are without them
    intro e he hm
    rw [(h.map Prod.fst).mem_iff] at hm
    simp only [List.mem_cons, List.not_mem_nil, or_false] at he
    rcases he with rfl | rfl | rfl | rfl | rfl | rfl
    · simp [OrdinaryRadio.entries] at hm
    · simp [OrdinaryRadio.entries] at hm
    · simp [RadioPlan.record, Field.layout]
    · simp [OrdinaryRadio.entries] at hm
    · simp [RadioPlan.record, Field.layout, Codec.bool]
    · simp [RadioPlan.record, Field.layout, Codec.bool]
  · intro e he _
    have hm := h.mem_iff.1 he
    simp only [OrdinaryRadio.entries, List.mem_cons, List.not_mem_nil, or_false] at hm
    rcases hm with rfl | rfl | rfl <;> rfl

namespace OrdinaryRadio.DescribedBy

theorem read_eq (h : o.DescribedBy d) : RadioPlan.codec.read d = .ok o.told := by
  obtain ⟨es, hp, rfl⟩ := h
  exact RadioPlan.lawful_record.read_listing (listing_of_perm hp)

theorem complete (h : o.DescribedBy d) : d.complete = true := by
  obtain ⟨es, hp, rfl⟩ := h
  exact Doc.complete_record
    (complete_of_listing RadioPlan.lawful_record.codecs (listing_of_perm hp))

end OrdinaryRadio.DescribedBy

theorem readItems_of_described (h : List.Forall₂ OrdinaryRadio.DescribedBy os ds) :
    RadioPlan.codec.readItems ds = .ok (os.map OrdinaryRadio.told) := by
  induction h with
  | nil => rfl
  | cons hd _ ih => exact Reading.bind_map_eq_ok.2 ⟨_, _, hd.read_eq, ih, rfl⟩

theorem complete_of_described (h : List.Forall₂ OrdinaryRadio.DescribedBy os ds) :
    (Doc.list ds).complete = true := by
  rw [Doc.complete_list, List.all_eq_true]
  induction h with
  | nil => exact nofun
  | cons hd _ ih => exact List.forall_mem_cons.2 ⟨hd.complete, ih⟩

/-- A device may be described by its radios alone. -/
theorem read_radios (h : RadioPlan.codec.readItems ds = .ok ps) :
    DevicePlan.codec.read (.record [("radios", .list ds)]) = .ok { radios := ps } := by
  have hl : (Codec.list RadioPlan.codec).read (.list ds) = .ok ps := h
  apply Record.read_of_holds
  exact ⟨Or.inr ⟨rfl, rfl⟩, Or.inr ⟨rfl, rfl⟩, Or.inl ⟨.list ds, rfl, hl⟩, Or.inr ⟨rfl, rfl⟩,
    Or.inr ⟨rfl, rfl⟩, nofun⟩

theorem parse_of_described (h : List.Forall₂ OrdinaryRadio.DescribedBy os ds)
    (ht : (Doc.record [("radios", .list ds)]).SpelledAs t) :
    DevicePlan.codec.parse t = .ok { radios := os.map OrdinaryRadio.told } := by
  have hc : (Doc.record [("radios", .list ds)]).complete = true := by
    apply Doc.complete_record
    simpa only [List.forall_mem_singleton] using complete_of_described h
  rw [Codec.parse_of_spelledAs hc ht, read_radios (readItems_of_described h)]

/-- What a plan says of a radio counts as far as the radio shows it. -/
theorem value_load_of_map_ofPlan (h : p.radios.map Radio.ofPlan = ps.map Radio.ofPlan) :
    (load p).value = (load { p with radios := ps }).value := by
  simp only [value_load, ofPlan, h]

/-- Radios that are planned are added as they would be by hand, or the first handle that repeats an
earlier one is where it fails either way. -/
theorem load_radios (ps : List RadioPlan) :
    (∃ d, (load { radios := ps }).value = .ok d ∧
      empty.run (ps.map .addRadio) = (d, ps.map fun p => .added ⟨p.handle⟩)) ∨
    ∃ h, (load { radios := ps }).value = .error (.duplicateHandle h) ∧
      (empty.run (ps.map .addRadio)).2.find? Outcome.isRefused = some (.duplicateHandle h) := by
  rcases nodup_or_duplicate ps with hn | ⟨before, r, after, rfl, hn, hr⟩
  · have hl : ofPlan { radios := ps } = .ok (DevicePlan.device { radios := ps }) :=
      ofPlan_of_nodup hn fun _ hd => nomatch hd
    exact Or.inl ⟨_, (value_load _).trans hl, run_addRadios (nodup_map_handle_iff.2 hn)⟩
  · exact Or.inr ⟨_, value_load_iff.2 (.duplicateHandle rfl hn hr), find?_isRefused_addRadios hn hr⟩

/-- The text that describes an ordinary radio is read as a plan of the radio that is planned by hand;
the plans themselves differ in an empty country. A device that is described by ordinary radios is the
device that adding them makes, or it is refused for the handle that adding them is refused for. -/
theorem ordinary_radios_alike :
    (∀ (o : OrdinaryRadio) (d : Doc) (t : String), o.DescribedBy d → d.SpelledAs t →
      ∃ p, RadioPlan.codec.parse t = .ok p ∧
        Radio.ofPlan p = Radio.ofPlan (.ordinary o.handle o.subscription o.country) ∧
        (p = .ordinary o.handle o.subscription o.country ↔ o.country ≠ "")) ∧
    ∀ (os : List OrdinaryRadio) (ds : List Doc) (t : String),
      List.Forall₂ OrdinaryRadio.DescribedBy os ds →
      (Doc.record [("radios", .list ds)]).SpelledAs t →
      (∃ d, (loadText t).value = .ok d ∧
        empty.run (os.map fun o => .addRadio (.ordinary o.handle o.subscription o.country)) =
          (d, os.map fun o => .added ⟨o.handle⟩)) ∨
      ∃ h, (loadText t).value = .error (.duplicateHandle h) ∧
        (empty.run (os.map fun o => .addRadio (.ordinary o.handle o.subscription o.country))).2.find?
          Outcome.isRefused = some (.duplicateHandle h) := by
  constructor
  · intro o d t ho ht
    refine ⟨o.told, ?_, ofPlan_told o, told_eq_plan_iff⟩
    rw [Codec.parse_of_spelledAs ho.complete ht, ho.read_eq]
  · intro os ds t ho ht
    have hr : (os.map OrdinaryRadio.told).map Radio.ofPlan =
        (os.map OrdinaryRadio.plan).map Radio.ofPlan := by
      rw [List.map_map, List.map_map]
      exact List.map_congr_left fun o _ => ofPlan_told o
    have hl := load_radios (os.map OrdinaryRadio.plan)
    rw [List.map_map, List.map_map] at hl
    rw [value_loadText (parse_of_described ho ht),
      value_load_of_map_ofPlan (p := { radios := os.map OrdinaryRadio.told }) hr]
    exact hl

/-- One radio has the id of no subscription and is in no network. Its entries are listed backwards. -/
def borderRadios : List OrdinaryRadio := [⟨"sim\"0", -2147483648, ""⟩, ⟨"sim1", 7, "us"⟩]

def borderDocs : List Doc :=
  [.record [("country_iso", .text ""), ("subscription", .number (.ofInt (-2147483648))),
      ("handle", .text "sim\"0")],
    .record [("handle", .text "sim1"), ("country_iso", .text "us"), ("subscription", .number (.ofInt 7))]]

theorem described_borderDocs : List.Forall₂ OrdinaryRadio.DescribedBy borderRadios borderDocs :=
  .cons ⟨_, List.reverse_perm (OrdinaryRadio.entries ⟨"sim\"0", -2147483648, ""⟩), rfl⟩
    (.cons ⟨_, (List.Perm.swap _ _ []).cons _, rfl⟩ .nil)

theorem proper_borderDocs : ∀ d ∈ borderDocs, d.Proper := by
  simp only [borderDocs, List.forall_mem_cons]
  refine ⟨Doc.proper_record ?_, Doc.proper_record ?_, nofun⟩
  · simp only [List.forall_mem_cons]
    exact ⟨Doc.proper_text _, Doc.proper_number _, Doc.proper_text _, nofun⟩
  · simp only [List.forall_mem_cons]
    exact ⟨Doc.proper_text _, Doc.proper_text _, Doc.proper_number _, nofun⟩

theorem borderRadios_alike :
    (∃ p, RadioPlan.codec.parse (Doc.record (OrdinaryRadio.entries ⟨"sim\"0", -2147483648, ""⟩)).render =
        .ok p ∧ p ≠ .ordinary "sim\"0" (-2147483648) "" ∧
      Radio.ofPlan p = Radio.ofPlan (.ordinary "sim\"0" (-2147483648) "")) ∧
    (loadText (Doc.record [("radios", .list borderDocs)]).render).value = .ok
      (empty.run [.addRadio (.ordinary "sim\"0" (-2147483648) ""),
        .addRadio (.ordinary "sim1" 7 "us")]).1 ∧
    (empty.run [.addRadio (.ordinary "sim\"0" (-2147483648) ""),
        .addRadio (.ordinary "sim1" 7 "us")]).1 =
      { radios :=
          [⟨⟨"sim\"0"⟩, ⟨-2147483648⟩, .ordinary, none, true, true⟩,
            ⟨⟨"sim1"⟩, ⟨7⟩, .ordinary, some "us", true, true⟩] } ∧
    (loadText (Doc.record [("radios", .list (borderDocs ++ borderDocs))]).render).value =
      .error (.duplicateHandle ⟨"sim\"0"⟩) := by
  obtain ⟨hone, hall⟩ := ordinary_radios_alike
  have hentries : (Doc.record (OrdinaryRadio.entries ⟨"sim\"0", -2147483648, ""⟩)).Proper := by
    apply Doc.proper_record
    simp only [OrdinaryRadio.entries, List.forall_mem_cons]
    exact ⟨Doc.proper_text _, Doc.proper_number _, Doc.proper_text _, nofun⟩
  have hspelled : ∀ {ds : List Doc}, (∀ d ∈ ds, d.Proper) →
      (Doc.record [("radios", .list ds)]).SpelledAs (Doc.record [("radios", .list ds)]).render := by
    intro ds hds
    apply Doc.Proper.spelledAs_render
    apply Doc.proper_record
    simpa only [List.forall_mem_singleton] using Doc.proper_list hds
  refine ⟨?_, ?_, rfl, ?_⟩
  · obtain ⟨p, hp, hr, hne⟩ := hone _ _ _ ⟨_, .refl _, rfl⟩ hentries.spelledAs_render
    exact ⟨p, hp, fun he => hne.1 he rfl, hr⟩
  · obtain ⟨d, hd, hrun⟩ | ⟨h, _, hh⟩ := hall _ _ _ described_borderDocs (hspelled proper_borderDocs)
    · rw [hd]
      exact congrArg (fun r => Except.ok r.1) hrun.symm
    · cases (show none = some _ from hh)
  · obtain ⟨d, _, hrun⟩ | ⟨h, hd, hh⟩ := hall _ _ _
      (List.rel_append described_borderDocs described_borderDocs)
      (hspelled (List.forall_mem_append.2 ⟨proper_borderDocs, proper_borderDocs⟩))
    · cases (show true = false from congrArg (fun r => r.2.any Outcome.isRefused) hrun)
    · cases (show some (Outcome.duplicateHandle ⟨"sim\"0"⟩) = some _ from hh)
      exact hd

end EmergencyDial

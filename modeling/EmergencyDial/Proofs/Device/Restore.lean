import EmergencyDial.Proofs.Device.Coherence
import EmergencyDial.Proofs.RoundTrip

/-! A device is restored from the text of the plan that it can be read off as. -/
namespace EmergencyDial
open Device

/-- A radio as it is, with every field given. -/
def Radio.plan (r : Radio) : RadioPlan where
  handle := r.handle.id
  subscription := some r.subscription
  capabilities := r.capabilities
  country := r.country
  registered := r.registered
  callCapable := r.callCapable

/-- A device as it is, its radios and its lists in order. -/
def Device.plan (d : Device) : DevicePlan where
  count := d.count
  defaultRadio := d.defaultRadio.map Handle.id
  radios := d.radios.map Radio.plan
  numbers := d.numbers.entries.map fun e => ⟨e.1, e.2⟩
  unavailable := d.unavailable

variable {d : Device} {r : Radio} {h : Handle}

theorem named_of_ne {c : Option String} (hc : c ≠ some "") : Radio.named c = c := by
  cases c with
  | none => rfl
  | some c =>
    have hne : c ≠ "" := fun he => hc (congrArg some he)
    simp [Radio.named, Option.filter, hne]

theorem ofPlan_plan (hc : r.country ≠ some "") : Radio.ofPlan r.plan = r := by
  simp only [Radio.ofPlan, Radio.plan, named_of_ne hc, Option.getD_some]

theorem handles_plan (d : Device) : d.plan.handles = d.handles.map Handle.id := by
  simp [DevicePlan.handles, Device.plan, Device.handles, Radio.plan, Function.comp_def]

theorem mem_handles_plan : h.id ∈ d.plan.handles ↔ h ∈ d.handles := by
  rw [handles_plan]
  exact List.mem_map_of_injective handle_id_injective

/-- Nothing is lost, since no radio is in a network without a country. -/
theorem device_plan (ho : Orderly d.radios) : d.plan.device = d := by
  have hr : d.plan.radios.map Radio.ofPlan = d.radios := by
    rw [Device.plan, List.map_map]
    exact (List.map_congr_left fun r hm => ofPlan_plan (ho.named r hm)).trans (List.map_id _)
  have hn : ById.ofList (d.plan.numbers.map fun l => (l.subscription, l.numbers)) = d.numbers := by
    simp [Device.plan, Function.comp_def, ById.ofList_entries]
  have hd : d.plan.defaultRadio.map Handle.mk = d.defaultRadio := by
    simp [Device.plan, Function.comp_def]
  rw [DevicePlan.device, hr, hn, hd]
  rfl

theorem value_loadText_plan (d : Device) :
    (loadText (DevicePlan.codec.render d.plan)).value = (load d.plan).value :=
  value_loadText (DevicePlan.lawful_codec.parse_render d.plan)

theorem nodup_handles_plan (ho : Orderly d.radios) : d.plan.handles.Nodup := by
  rw [handles_plan]
  exact ho.distinct.map handle_id_injective

theorem defaultRadio_plan (hd : d.defaultRadio = some h) : d.plan.defaultRadio = some h.id := by
  rw [Device.plan, hd, Option.map_some]

/-- Whatever has been done to a device, it comes back from its text as it is; only a default that is
none of its radios stands in the way. -/
theorem device_restored (hr : d.Reachable) :
    ((∀ h, d.defaultRadio = some h → h ∈ d.handles) →
      (loadText (DevicePlan.codec.render d.plan)).value = .ok d) ∧
    ∀ h, d.defaultRadio = some h → h ∉ d.handles →
      (loadText (DevicePlan.codec.render d.plan)).value = .error (.unknownDefault h) := by
  have ho := orderly_reachable hr
  have hn := nodup_handles_plan ho
  rw [value_loadText_plan]
  constructor
  · intro hd
    have hd' : ∀ i, d.plan.defaultRadio = some i → i ∈ d.plan.handles := by
      intro i hi
      obtain ⟨h, hh, rfl⟩ := Option.map_eq_some_iff.1 hi
      exact mem_handles_plan.2 (hd h hh)
    rw [value_load, ofPlan_of_nodup hn hd', device_plan ho]
  · intro h hd hm
    exact value_load_iff.2 (.unknownDefault hn (defaultRadio_plan hd) (mt mem_handles_plan.1 hm))

/-- A radio without a subscription and one whose capabilities have no name, a count of its own, a
list of which nothing is known, and texts that need escapes. -/
def storedDevice : Device :=
  (Device.empty.run [.addRadio { handle := "\"sim\\0\"", country := some "" },
    .addRadio (.ordinary "sim\n1" (-7) "us"), .setCapabilities ⟨"sim\n1"⟩ ⟨0x8000_0010⟩,
    .setNumbers ⟨3⟩ none, .setNumbers ⟨-7⟩ (some [{ number := "112", services := ⟨0x81⟩ }]),
    .setCount 18446744073709551615, .setDefault (some ⟨"sim\n1"⟩), .setUnavailable true]).1

theorem storedDevice_restored : storedDevice.Reachable ∧
    (∀ h, storedDevice.defaultRadio = some h → h ∈ storedDevice.handles) ∧
    storedDevice =
      { count := some 18446744073709551615
        radios :=
          [⟨⟨"\"sim\\0\""⟩, ⟨-1⟩, .ordinary, none, true, true⟩,
            ⟨⟨"sim\n1"⟩, ⟨-7⟩, ⟨0x8000_0010⟩, some "us", true, true⟩]
        defaultRadio := some ⟨"sim\n1"⟩
        numbers :=
          ⟨[(⟨-7⟩, some [{ number := "112", services := ⟨0x81⟩ }]), (⟨3⟩, none)], by decide⟩
        unavailable := true } ∧
    (loadText (DevicePlan.codec.render storedDevice.plan)).value = .ok storedDevice := by
  have hr : storedDevice.Reachable := reachable_iff.2 ⟨_, rfl⟩
  have hd : ∀ h, storedDevice.defaultRadio = some h → h ∈ storedDevice.handles := by
    rintro h ⟨⟩
    decide
  exact ⟨hr, hd, rfl, (device_restored hr).1 hd⟩

end EmergencyDial

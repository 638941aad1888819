import EmergencyDial.Proofs.Device.Load

/-! What holds of a device after any steps. -/
namespace EmergencyDial
open Device

variable {d : Device} {h : Handle} {a : Account} {r : Radio} {c : String} {i : SubscriptionId}
  {rs rs' : List Radio} {ss : List Step} {Q : Device → Prop}

/-- Devices to start with: one without radios, or one that is loaded. -/
inductive Device.Initial : Device → Prop
  | empty : Initial .empty
  | load {p : DevicePlan} {d : Device} (h : (Device.load p).value = .ok d) : Initial d
  | loadText {s : String} {d : Device} (h : (Device.loadText s).value = .ok d) : Initial d

/-- What any steps make of a device to start with. -/
def Device.Reachable (d : Device) : Prop := ∃ d₀ ss, Device.Initial d₀ ∧ (d₀.run ss).1 = d

theorem run_of_load {p : DevicePlan} (hv : (load p).value = .ok d) : (empty.run p.steps).1 = d := by
  obtain ⟨hn, rfl⟩ := eq_device_of_load hv
  exact run_steps hn

/-- A device to start with could as well be built step by step. -/
theorem run_of_initial (hi : d.Initial) : ∃ ss, (empty.run ss).1 = d := by
  cases hi with
  | empty => exact ⟨[], rfl⟩
  | @load p _ hv => exact ⟨p.steps, run_of_load hv⟩
  | @loadText s _ hv =>
    rw [loadText] at hv
    split at hv
    · next p _ => exact ⟨p.steps, run_of_load hv⟩
    · cases hv

theorem reachable_iff : d.Reachable ↔ ∃ ss, (empty.run ss).1 = d := by
  constructor
  · rintro ⟨d₀, ts, hi, rfl⟩
    obtain ⟨ss, rfl⟩ := run_of_initial hi
    exact ⟨ss ++ ts, by rw [run_append]⟩
  · rintro ⟨ss, rfl⟩
    exact ⟨.empty, ss, .empty, rfl⟩

theorem Device.Reachable.run (hr : d.Reachable) (ss : List Step) : (d.run ss).1.Reachable := by
  obtain ⟨d₀, ts, hi, rfl⟩ := hr
  exact ⟨d₀, ts ++ ss, hi, by rw [run_append]⟩

theorem invariant_run (hs : ∀ d s, Q d → Q (d.step s).1) (hd : Q d) (ss : List Step) :
    Q (d.run ss).1 := by
  induction ss generalizing d with
  | nil => exact hd
  | cons s ss ih => exact ih (hs d s hd)

theorem Device.Reachable.invariant (hr : d.Reachable) (he : Q .empty)
    (hs : ∀ d s, Q d → Q (d.step s).1) : Q d := by
  obtain ⟨ss, rfl⟩ := reachable_iff.1 hr
  exact invariant_run hs he ss

/-- No two radios share a handle, and none is in a network without a country. -/
structure Orderly (rs : List Radio) : Prop where
  distinct : (rs.map Radio.handle).Nodup
  named : ∀ r ∈ rs, r.country ≠ some ""

theorem orderly_added {p : RadioPlan} (ho : Orderly rs)
    (hn : (⟨p.handle⟩ : Handle) ∉ rs.map Radio.handle) : Orderly (rs ++ [.ofPlan p]) where
  distinct := by
    simpa using ho.distinct.concat hn
  named r hm := by
    rcases List.mem_append.1 hm with hm | hm
    · exact ho.named r hm
    · obtain rfl := List.mem_singleton.1 hm
      exact Radio.named_ne_empty

theorem orderly_adjusted {f : Radio → Radio} {q : Radio → Bool} (ho : Orderly rs)
    (hf : Radio.Adjusts f) : Orderly (changeFirst q f rs) where
  distinct := by
    rw [map_changeFirst fun r => (hf r).handle]
    exact ho.distinct
  named r hm := by
    rcases mem_changeFirst hm with hm | ⟨r', hm', rfl⟩
    · exact ho.named r hm
    · exact (hf r').named (ho.named r' hm')

theorem orderly_radioChange (hc : RadioChange rs rs') (ho : Orderly rs) : Orderly rs' := by
  cases hc with
  | kept => exact ho
  | added p hn => exact orderly_added ho hn
  | adjusted h hf => exact orderly_adjusted ho hf

theorem orderly_reachable (hr : d.Reachable) : Orderly d.radios := by
  apply hr.invariant (Q := fun d => Orderly d.radios)
  · exact ⟨List.nodup_nil, nofun⟩
  · exact fun d s => orderly_radioChange (radioChange_step d s)

theorem eq_of_handle_eq {r' : Radio} (ho : Orderly d.radios) (hm : r ∈ d.radios)
    (hm' : r' ∈ d.radios) (he : r.handle = r'.handle) : r = r' :=
  List.inj_on_of_nodup_map ho.distinct hm hm' he

theorem radio?_eq_some_iff (ho : Orderly d.radios) :
    d.radio? h = some r ↔ r ∈ d.radios ∧ r.handle = h := by
  constructor
  · exact of_radio?_eq_some
  · rintro ⟨hm, rfl⟩
    obtain ⟨r', hr⟩ := exists_radio?_of_mem (mem_handles.2 ⟨r, hm, rfl⟩)
    obtain ⟨hm', he⟩ := of_radio?_eq_some hr
    rw [hr, eq_of_handle_eq ho hm hm' he.symm]

theorem account?_eq_some_iff : d.account? h = some a ↔
    ∃ r, d.radio? h = some r ∧ r.registered = true ∧ a = ⟨h, r.capabilities⟩ := by
  rw [Device.account?, Option.bind_eq_some_iff]
  constructor
  · rintro ⟨r, hr, ha⟩
    obtain ⟨_, rfl⟩ := of_radio?_eq_some hr
    simp only [Radio.account?, Option.ite_none_right_eq_some, Option.some.injEq] at ha
    exact ⟨r, hr, ha.1, ha.2.symm⟩
  · rintro ⟨r, hr, hg, rfl⟩
    obtain ⟨_, rfl⟩ := of_radio?_eq_some hr
    exact ⟨r, hr, by simp [Radio.account?, hg]⟩

theorem subscription_of_radio? (hr : d.radio? h = some r) : d.subscription h = r.subscription := by
  rw [Device.subscription, hr]
  rfl

/-- The country of a subscription is that of the first radio that has it. -/
theorem country?_eq_some_iff : d.country? i = some c ↔ 0 ≤ i.value.toInt ∧
    ∃ before r after, d.radios = before ++ r :: after ∧ (∀ r' ∈ before, r'.subscription ≠ i) ∧
      r.subscription = i ∧ r.country = some c := by
  by_cases hi : 0 ≤ i.value.toInt
  · simp only [Device.country?, SubscriptionId.isValid, hi, decide_true, if_true, true_and,
      Option.bind_eq_some_iff, List.find?_eq_some_iff_append, decide_eq_true_eq,
      Bool.not_eq_true', decide_eq_false_iff_not]
    constructor
    · rintro ⟨r, ⟨hs, before, after, hd, hb⟩, hc⟩
      exact ⟨before, r, after, hd, hb, hs, hc⟩
    · rintro ⟨before, r, after, hd, hb, hs, hc⟩
      exact ⟨r, ⟨hs, before, after, hd, hb⟩, hc⟩
  · simp [Device.country?, SubscriptionId.isValid, hi]

theorem country?_ne_empty (ho : Orderly d.radios) : d.country? i ≠ some "" := by
  intro hc
  obtain ⟨_, before, r, after, hd, _, _, hr⟩ := country?_eq_some_iff.1 hc
  exact ho.named r (by simp [hd]) hr

theorem country?_of_neg (hi : i.value.toInt < 0) : d.country? i = none := by
  cases hc : d.country? i with
  | none => rfl
  | some c =>
    have := (country?_eq_some_iff.1 hc).1
    omega

theorem callCapable_sublist (d : Device) : d.callCapable.Sublist d.handles :=
  List.filter_sublist.map Radio.handle

/-- The answers of a device fit together. -/
structure Device.Coherent (d : Device) : Prop where
  distinct : (d.radios.map Radio.handle).Nodup
  named : ∀ r ∈ d.radios, r.country ≠ some ""
  country_named : ∀ i, d.platform.country? i ≠ some ""
  country_of_neg : ∀ i, i.value.toInt < 0 → d.platform.country? i = none
  callCapable_distinct : d.platform.enumeration.callCapable.Nodup
  callCapable_inOrder :
    d.platform.enumeration.callCapable.Sublist (d.radios.map Radio.handle)
  account_handle : ∀ h a, d.platform.accounts.account? h = some a → a.handle = h
  account_subscription : ∀ h a, d.platform.accounts.account? h = some a →
    ∃ r ∈ d.radios, r.handle = h ∧ (∀ r' ∈ d.radios, r'.handle = h → r' = r) ∧
      d.platform.accounts.subscription a = r.subscription

theorem coherent_of_reachable (hr : d.Reachable) : d.Coherent := by
  have ho := orderly_reachable hr
  refine ⟨ho.distinct, ho.named, fun i => country?_ne_empty ho, fun i => country?_of_neg,
    ho.distinct.sublist (callCapable_sublist d), callCapable_sublist d, ?_, ?_⟩
  · intro h a ha
    obtain ⟨r, _, _, rfl⟩ := account?_eq_some_iff.1 ha
    rfl
  · intro h a ha
    obtain ⟨r, hr, _, rfl⟩ := account?_eq_some_iff.1 ha
    obtain ⟨hm, he⟩ := of_radio?_eq_some hr
    refine ⟨r, hm, he, ?_, subscription_of_radio? hr⟩
    intro r' hm' he'
    exact eq_of_handle_eq ho hm' hm (he'.trans he.symm)

/-- Two radios share a subscription, and the third has none. -/
def sharedPlan : DevicePlan where
  defaultRadio := some "sim1"
  radios := [{ handle := "sim0", subscription := some ⟨1⟩, country := some "" },
    .ordinary "sim1" 1 "us", { handle := "sim2", registered := false, callCapable := false }]

/-- A radio is refused, one leaves its network, and one that is not there is to change. -/
def sharedDevice : Device :=
  (sharedPlan.device.run [.addRadio (.ordinary "sim1" 7 "ca"), .setCountry ⟨"sim1"⟩ (some ""),
    .setCapabilities ⟨"sim0"⟩ ⟨0x8000_0010⟩, .setCountry ⟨"sim9"⟩ (some "fr")]).1

theorem sharedDevice_coherent : sharedDevice.Reachable ∧ sharedDevice.Coherent := by
  have hn : sharedPlan.handles.Nodup := by decide
  have hd : ∀ h, sharedPlan.defaultRadio = some h → h ∈ sharedPlan.handles := by
    rintro h ⟨⟩
    decide
  have hv : (load sharedPlan).value = .ok sharedPlan.device := by
    rw [value_load, ofPlan_of_nodup hn hd]
  have hr : sharedDevice.Reachable := ⟨sharedPlan.device, _, .load hv, rfl⟩
  exact ⟨hr, coherent_of_reachable hr⟩

end EmergencyDial

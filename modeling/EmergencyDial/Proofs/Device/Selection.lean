import EmergencyDial.Proofs.Device.Coherence
import EmergencyDial.Proofs.Selection.Qualification

/-! Selection on a simulated device, from what the device holds. -/
namespace EmergencyDial

/-- All that makes a radio fit for shortcuts. The country is that of the first radio with the
subscription, which may be another one. -/
structure Device.Fit (d : Device) (r : Radio) (c : String) (ns : List EmergencyNumber) : Prop where
  mem : r ∈ d.radios
  registered : r.registered = true
  capable : r.capabilities.bits &&& 0x10 = 0x10
  subscribed : 0 ≤ r.subscription.value.toInt
  country : ∃ before first after, d.radios = before ++ first :: after ∧
    (∀ r' ∈ before, r'.subscription ≠ r.subscription) ∧ first.subscription = r.subscription ∧
    first.country = some c
  available : d.unavailable = false
  listed : d.numbers.find? r.subscription = some (some ns)
  promoted : ∃ n ∈ ns, n.services.bits &&& 0x07 ≠ 0

def Device.Ready (d : Device) (h : Handle) : Prop := ∃ r c ns, r.handle = h ∧ d.Fit r c ns

def Device.Radioless (d : Device) : Prop := d.count = some 0 ∨ d.count = none ∧ d.radios = []

def Device.NothingToPromote (d : Device) : Prop :=
  d.unavailable = true ∨
    ∀ i ns, d.numbers.find? i = some (some ns) → ∀ n ∈ ns, n.services.bits &&& 0x07 = 0

/-- The default is for telephone numbers only. -/
def Device.DefaultReady (d : Device) (s : Scheme) : Prop :=
  s = .tel ∧ ∃ h, d.defaultRadio = some h ∧ d.Ready h

def Device.callCapableRadios (d : Device) : List Radio := d.radios.filter (·.callCapable)

/-- What a radio is seen as once it is fit. -/
def Radio.fitSnapshot (r : Radio) (c : String) (ns : List EmergencyNumber) : Snapshot :=
  ⟨some r.handle, true, r.subscription, c, some (promote ns)⟩

/-- Each outcome of a selection on a device, with all that leads to it. -/
inductive Device.Picks (d : Device) (s : Scheme) : Except SelectionError Selection → Prop
  | noRadio (hc : d.Radioless) : Picks d s (.error .noRadio)
  | nothingPromoted (hc : ¬ d.Radioless) (hp : d.NothingToPromote) :
    Picks d s (.error .nothingPromoted)
  | byDefault {r : Radio} {c : String} {ns : List EmergencyNumber} (hc : ¬ d.Radioless)
      (hp : ¬ d.NothingToPromote) (hs : s = .tel) (hd : d.defaultRadio = some r.handle)
      (hf : d.Fit r c ns) : Picks d s (.ok ⟨r.fitSnapshot c ns, .byDefault⟩)
  | callCapable {k : Nat} {r : Radio} {c : String} {ns : List EmergencyNumber}
      (hc : ¬ d.Radioless) (hp : ¬ d.NothingToPromote) (hd : ¬ d.DefaultReady s)
      (hk : d.callCapableRadios[k]? = some r) (hf : d.Fit r c ns)
      (hn : ∀ j < k, ∀ r', d.callCapableRadios[j]? = some r' → ¬ d.Ready r'.handle) :
    Picks d s (.ok ⟨r.fitSnapshot c ns, .callCapable k⟩)
  | noneSufficient (hc : ¬ d.Radioless) (hp : ¬ d.NothingToPromote) (hd : ¬ d.DefaultReady s)
      (hn : ∀ r ∈ d.radios, r.callCapable = true → ¬ d.Ready r.handle) :
    Picks d s (.error .noneSufficient)

variable {d : Device} {h : Handle} {a : Account} {r : Radio} {c : String} {i : SubscriptionId}
  {ns : List EmergencyNumber} {s : Scheme} {k : Nat} {x : Except SelectionError Selection}

theorem numbers?_bind_eq_some {l : Option (List EmergencyNumber)} :
    (d.platform.numbers?.bind fun m => m.find? i) = some l ↔
      d.unavailable = false ∧ d.numbers.find? i = some l := by
  change (d.numbers?.bind _) = _ ↔ _
  rw [Device.numbers?]
  cases d.unavailable <;> simp

/-- The platform finds a handle fit by the radio that the device has for it. -/
theorem platform_fit_iff (ho : Orderly d.radios) : d.platform.Fit h a c ns ↔
    ∃ r, r.handle = h ∧ a = ⟨h, r.capabilities⟩ ∧ d.Fit r c ns := by
  constructor
  · intro hf
    obtain ⟨r, hr, hg, rfl⟩ := account?_eq_some_iff.1 hf.account
    obtain ⟨hm, he⟩ := of_radio?_eq_some hr
    have hi : d.platform.accounts.subscription ⟨h, r.capabilities⟩ = r.subscription :=
      subscription_of_radio? hr
    have hc := hf.country
    have hl := hf.listed
    rw [hi] at hc hl
    obtain ⟨hs, before, first, after, hfirst⟩ := country?_eq_some_iff.1 hc
    obtain ⟨hu, hl⟩ := numbers?_bind_eq_some.1 hl
    exact ⟨r, he, rfl, hm, hg, hf.capable, hs, ⟨before, first, after, hfirst⟩, hu, hl,
      hf.promoted⟩
  · rintro ⟨r, rfl, rfl, hf⟩
    have hr : d.radio? r.handle = some r := (radio?_eq_some_iff ho).2 ⟨hf.mem, rfl⟩
    have hi : d.platform.accounts.subscription ⟨r.handle, r.capabilities⟩ = r.subscription :=
      subscription_of_radio? hr
    have hc : d.country? r.subscription = some c :=
      country?_eq_some_iff.2 ⟨hf.subscribed, hf.country⟩
    refine ⟨account?_eq_some_iff.2 ⟨r, hr, hf.registered, rfl⟩, hf.capable, ?_, ?_, ?_, hf.promoted⟩
    · rw [hi]
      exact hc
    · rintro rfl
      exact country?_ne_empty ho hc
    · rw [hi]
      exact numbers?_bind_eq_some.2 ⟨hf.available, hf.listed⟩

theorem sufficient_iff_ready (ho : Orderly d.radios) : d.platform.Sufficient h ↔ d.Ready h := by
  rw [sufficient_iff]
  constructor
  · rintro ⟨a, c, ns, hf⟩
    obtain ⟨r, he, _, hf⟩ := (platform_fit_iff ho).1 hf
    exact ⟨r, c, ns, he, hf⟩
  · rintro ⟨r, c, ns, he, hf⟩
    exact ⟨⟨h, r.capabilities⟩, c, ns, (platform_fit_iff ho).2 ⟨r, he, rfl, hf⟩⟩

theorem snapshot_of_fit (ho : Orderly d.radios) (hf : d.Fit r c ns) :
    d.platform.snapshot d.platform.promoted r.handle = r.fitSnapshot c ns := by
  have hp : d.platform.Fit r.handle ⟨r.handle, r.capabilities⟩ c ns :=
    (platform_fit_iff ho).2 ⟨r, rfl, rfl, hf⟩
  have hr : d.radio? r.handle = some r := (radio?_eq_some_iff ho).2 ⟨hf.mem, rfl⟩
  have hi : d.platform.accounts.subscription ⟨r.handle, r.capabilities⟩ = r.subscription :=
    subscription_of_radio? hr
  rw [hp.snapshot_eq, hi, Radio.fitSnapshot]

theorem radioCount_eq_zero_iff : d.platform.enumeration.radioCount = 0 ↔ d.Radioless := by
  change d.radioCount = 0 ↔ _
  rw [Device.radioCount, Device.Radioless]
  cases d.count with
  | none => simp
  | some n => simp [← UInt64.toNat_inj]

theorem isEmpty_promoted_iff_device :
    d.platform.promoted.isEmpty = true ↔ d.NothingToPromote := by
  rw [isEmpty_promoted_iff, Platform.NothingToPromote, Device.NothingToPromote]
  simp only [numbers?_bind_eq_some]
  cases d.unavailable <;> simp

theorem isEmpty_promoted_eq_false_iff :
    d.platform.promoted.isEmpty = false ↔ ¬ d.NothingToPromote := by
  rw [← isEmpty_promoted_iff_device, Bool.not_eq_true]

theorem defaultRadio?_eq_some_iff :
    d.platform.defaultRadio? s = some h ↔ s = .tel ∧ d.defaultRadio = some h := by
  change d.defaultRadio? s = some h ↔ _
  cases s <;> simp [Device.defaultRadio?]

theorem defaultReady_iff (ho : Orderly d.radios) :
    (∀ h, d.platform.defaultRadio? s = some h → ¬ d.platform.Sufficient h) ↔
      ¬ d.DefaultReady s := by
  simp only [defaultRadio?_eq_some_iff, sufficient_iff_ready ho, Device.DefaultReady]
  grind

theorem callCapable_getElem? : d.platform.enumeration.callCapable[k]? = some h ↔
    ∃ r, d.callCapableRadios[k]? = some r ∧ r.handle = h := by
  change (d.callCapableRadios.map Radio.handle)[k]? = some h ↔ _
  rw [List.getElem?_map, Option.map_eq_some_iff]

theorem mem_callCapable : h ∈ d.platform.enumeration.callCapable ↔
    ∃ r ∈ d.radios, r.callCapable = true ∧ r.handle = h := by
  change h ∈ d.callCapableRadios.map Radio.handle ↔ _
  simp [Device.callCapableRadios, and_assoc]

theorem picks_of_decision (ho : Orderly d.radios) (hx : Decision d.platform s x) :
    d.Picks s x := by
  cases hx with
  | noRadio hc => exact .noRadio (radioCount_eq_zero_iff.1 hc)
  | nothingPromoted hc hp =>
    exact .nothingPromoted (mt radioCount_eq_zero_iff.2 hc) (isEmpty_promoted_iff_device.1 hp)
  | @byDefault h hc hp hd hs =>
    obtain ⟨rfl, hd⟩ := defaultRadio?_eq_some_iff.1 hd
    obtain ⟨r, c, ns, rfl, hf⟩ := (sufficient_iff_ready ho).1 hs
    rw [snapshot_of_fit ho hf]
    exact .byDefault (mt radioCount_eq_zero_iff.2 hc) (isEmpty_promoted_eq_false_iff.1 hp) rfl hd hf
  | @callCapable h k hc hp hd hk hs hf =>
    obtain ⟨r, hr, rfl⟩ := callCapable_getElem?.1 hk
    obtain ⟨r', c, ns, he, hfit⟩ := (sufficient_iff_ready ho).1 hs
    have hm : r ∈ d.radios := (List.mem_filter.1 (List.mem_of_getElem? hr)).1
    obtain rfl := eq_of_handle_eq ho hfit.mem hm he
    rw [snapshot_of_fit ho hfit]
    refine .callCapable (mt radioCount_eq_zero_iff.2 hc) (isEmpty_promoted_eq_false_iff.1 hp)
      ((defaultReady_iff ho).1 hd) hr hfit ?_
    intro j hj r' hr'
    exact mt (sufficient_iff_ready ho).2 (hf j hj _ (callCapable_getElem?.2 ⟨r', hr', rfl⟩))
  | noneSufficient hc hp hd hn =>
    refine .noneSufficient (mt radioCount_eq_zero_iff.2 hc) (isEmpty_promoted_eq_false_iff.1 hp)
      ((defaultReady_iff ho).1 hd) ?_
    intro r hr hcc
    exact mt (sufficient_iff_ready ho).2 (hn _ (mem_callCapable.2 ⟨r, hr, hcc, rfl⟩))

theorem decision_of_picks (ho : Orderly d.radios) (hx : d.Picks s x) :
    Decision d.platform s x := by
  cases hx with
  | noRadio hc => exact .noRadio (radioCount_eq_zero_iff.2 hc)
  | nothingPromoted hc hp =>
    exact .nothingPromoted (mt radioCount_eq_zero_iff.1 hc) (isEmpty_promoted_iff_device.2 hp)
  | @byDefault r c ns hc hp hs hd hf =>
    rw [← snapshot_of_fit ho hf]
    exact .byDefault (mt radioCount_eq_zero_iff.1 hc) (isEmpty_promoted_eq_false_iff.2 hp)
      (defaultRadio?_eq_some_iff.2 ⟨hs, hd⟩) ((sufficient_iff_ready ho).2 ⟨r, c, ns, rfl, hf⟩)
  | @callCapable k r c ns hc hp hd hk hf hn =>
    rw [← snapshot_of_fit ho hf]
    refine .callCapable (mt radioCount_eq_zero_iff.1 hc) (isEmpty_promoted_eq_false_iff.2 hp)
      ((defaultReady_iff ho).2 hd) (callCapable_getElem?.2 ⟨r, hk, rfl⟩)
      ((sufficient_iff_ready ho).2 ⟨r, c, ns, rfl, hf⟩) ?_
    intro j hj g hg
    obtain ⟨r', hr', rfl⟩ := callCapable_getElem?.1 hg
    exact mt (sufficient_iff_ready ho).1 (hn j hj r' hr')
  | noneSufficient hc hp hd hn =>
    refine .noneSufficient (mt radioCount_eq_zero_iff.1 hc) (isEmpty_promoted_eq_false_iff.2 hp)
      ((defaultReady_iff ho).2 hd) ?_
    intro h hm
    obtain ⟨r, hr, hcc, rfl⟩ := mem_callCapable.1 hm
    exact mt (sufficient_iff_ready ho).1 (hn r hr hcc)

/-- A radio of a device is sufficient by what the device holds of it, of the first radio with its
subscription and of its numbers; and the selection goes by that. -/
theorem device_selection (hr : d.Reachable) :
    (∀ h, (d.platform.snapshot d.platform.promoted h).isSufficient = true ↔ d.Ready h) ∧
    ∀ (sel : Selector) x, (sel.tryPick d.platform).value = x ↔ d.Picks sel.scheme x := by
  have ho := orderly_reachable hr
  refine ⟨fun h => sufficient_iff_ready ho, ?_⟩
  intro sel x
  rw [value_tryPick_iff]
  exact ⟨picks_of_decision ho, decision_of_picks ho⟩

/-- The first radio may not place emergency calls, but its network is that of the second; the default
has no subscription. -/
def sharedNetwork : Device :=
  (Device.empty.run [
    .addRadio ⟨"sim0", some ⟨1⟩, ⟨0x06⟩, some "us", true, true⟩,
    .addRadio ⟨"sim1", some ⟨1⟩, ⟨0x8000_0010⟩, none, true, true⟩,
    .addRadio ⟨"sim2", none, .ordinary, some "ca", true, true⟩,
    .setDefault (some ⟨"sim2"⟩),
    .setNumbers ⟨-1⟩ (some [⟨"112", "", "", ⟨0x01⟩, ⟨0x10⟩, .unknown⟩]),
    .setNumbers ⟨1⟩ (some [⟨"911", "", "", ⟨0x81⟩, ⟨0⟩, .unknown⟩])]).1

theorem sharedNetwork_selection : sharedNetwork.Reachable ∧
    sharedNetwork.Ready ⟨"sim1"⟩ ∧ ¬ sharedNetwork.Ready ⟨"sim2"⟩ ∧
    sharedNetwork.Picks .tel (.ok ⟨⟨some ⟨"sim1"⟩, true, ⟨1⟩, "us",
      some [⟨"911", "", "", ⟨0x81⟩, ⟨0⟩, .unknown⟩]⟩, .callCapable 1⟩) := by
  have hr : sharedNetwork.Reachable := reachable_iff.2 ⟨_, rfl⟩
  obtain ⟨hs, hp⟩ := device_selection hr
  refine ⟨hr, (hs _).1 ?_, mt (hs _).2 ?_, (hp {} _).1 ?_⟩
  · decide
  · decide
  · rfl

end EmergencyDial

import EmergencyDial.Proofs.Device.Adjustment
import EmergencyDial.Proofs.Device.Snapshot

/-! What a change of one radio, or of one list, reaches of what a device shows. -/
namespace EmergencyDial

variable {d : Device} {h g : Handle} {r : Radio} {f : Radio → Radio} {before after : List Radio}

/-- Adjusted radios keep their subscriptions, and a device its numbers. -/
theorem snapshot_mapRadios (hf : Radio.Adjusts f) (h : Handle) : (d.mapRadios f).snapshot h =
    { d.snapshot h with
      canPlaceEmergencyCalls := ((d.mapRadios f).account? h).any (·.canPlaceEmergencyCalls)
      country := (Device.country? (d.mapRadios f) (d.snapshot h).subscription).getD "" } := by
  have hres : ∀ r, (f r).resolved = r.resolved := fun r => by
    simp only [Radio.resolved, (hf r).registered, (hf r).subscription]
  have hi : ((d.mapRadios f).platform.snapshot (d.mapRadios f).platform.promoted h).subscription =
      (d.platform.snapshot d.platform.promoted h).subscription := by
    rw [subscription_snapshot, subscription_snapshot, radio?_mapRadios hf]
    cases d.radio? h with
    | none => rfl
    | some r => exact hres r
  exact snapshot_of_subscription_eq hi

theorem account?_setCapabilities (hr : d.radio? h = some r) (c : Capabilities) :
    ((d.mapRadios (Radio.adjustAt h (Radio.setCapabilities c))).account? h).any
        (·.canPlaceEmergencyCalls) =
      (r.registered && Account.canPlaceEmergencyCalls ⟨h, c⟩) := by
  obtain ⟨_, rfl⟩ := of_radio?_eq_some hr
  rw [Device.account?, radio?_mapRadios (adjusts_adjustAt (adjusts_setCapabilities c)), hr,
    Option.map_some, Radio.adjustAt, if_pos rfl]
  cases hg : r.registered <;> simp [Radio.account?, Radio.setCapabilities, hg]

/-- Capabilities are a matter of one account, whoever shares its subscription. -/
theorem snapshot_setCapabilities (ho : Orderly d.radios) (hr : d.radio? h = some r)
    (c : Capabilities) (g : Handle) : (d.step (.setCapabilities h c)).1.snapshot g =
      if g = h then
        { d.snapshot g with
          canPlaceEmergencyCalls := r.registered && Account.canPlaceEmergencyCalls ⟨h, c⟩ }
      else d.snapshot g := by
  have hcountry : ∀ q, (Radio.adjustAt h (Radio.setCapabilities c) q).country = q.country :=
    apply_adjustAt fun _ => rfl
  change (d.changeRadio h (Radio.setCapabilities c)).1.snapshot g = _
  rw [changeRadio_eq_mapRadios ho, snapshot_mapRadios (adjusts_adjustAt (adjusts_setCapabilities c)),
    country?_mapRadios (adjusts_adjustAt (adjusts_setCapabilities c)) hcountry]
  split
  · next hg =>
    subst hg
    rw [account?_setCapabilities hr]
    rfl
  · next hg =>
    rw [account?_mapRadios_adjustAt_of_ne (adjusts_setCapabilities c) hg]
    rfl

theorem getD_named (c : Option String) : (Radio.named c).getD "" = c.getD "" := by
  cases c with
  | none => rfl
  | some c => by_cases hc : c = "" <;> simp [Radio.named, Option.filter, hc]

/-- A country is a matter of the first radio with a subscription, and of all accounts that have it. -/
theorem snapshot_setCountry (ho : Orderly d.radios) (hd : d.radios = before ++ r :: after)
    (c : Option String) (g : Handle) : (d.step (.setCountry r.handle c)).1.snapshot g =
      if 0 ≤ r.subscription.value.toInt ∧ (∀ q ∈ before, q.subscription ≠ r.subscription) ∧
          (d.snapshot g).subscription = r.subscription then
        { d.snapshot g with country := c.getD "" }
      else d.snapshot g := by
  have hcap : ∀ q, (Radio.adjustAt r.handle (Radio.setCountry c) q).capabilities = q.capabilities :=
    apply_adjustAt fun _ => rfl
  change (d.changeRadio r.handle (Radio.setCountry c)).1.snapshot g = _
  rw [changeRadio_eq_mapRadios ho, snapshot_mapRadios (adjusts_adjustAt (adjusts_setCountry c)),
    account?_mapRadios (adjusts_adjustAt (adjusts_setCountry c)) hcap,
    country?_mapRadios_adjustAt ho hd (adjusts_setCountry c)]
  split
  · rw [Radio.setCountry, getD_named]
    rfl
  · rfl

theorem find?_promoted_device (d : Device) (i : SubscriptionId) : d.platform.promoted.find? i =
    if d.unavailable then none else (d.numbers.find? i).bind promoteList? := by
  change (classify (d.numbers?.getD .empty)).find? i = _
  rw [classify_eq, ById.find?_filterMap, Device.numbers?]
  split <;> rfl

theorem find?_promoted_setNumbers (d : Device) (t : SubscriptionId)
    (ns : Option (List EmergencyNumber)) (i : SubscriptionId) :
    (d.step (.setNumbers t ns)).1.platform.promoted.find? i =
      if i = t then (if d.unavailable then none else promoteList? ns)
      else d.platform.promoted.find? i := by
  rw [find?_promoted_device, find?_promoted_device]
  simp only [Device.step, ById.find?_insert]
  by_cases hi : t = i
  · subst hi
    simp
  · simp [hi, Ne.symm hi]

/-- Numbers are a matter of one subscription. -/
theorem snapshot_setNumbers (d : Device) (t : SubscriptionId) (ns : Option (List EmergencyNumber))
    (g : Handle) : (d.step (.setNumbers t ns)).1.snapshot g =
      if (d.snapshot g).subscription = t then
        { d.snapshot g with promoted := if d.unavailable then none else promoteList? ns }
      else d.snapshot g := by
  have hs : (d.step (.setNumbers t ns)).1.snapshot g = { d.snapshot g with
      promoted := (d.step (.setNumbers t ns)).1.platform.promoted.find? (d.snapshot g).subscription } :=
    snapshot_of_subscription_eq rfl
  rw [hs, find?_promoted_setNumbers]
  split <;> rfl

theorem subscription_snapshot_of_no_account (ha : d.platform.accounts.account? g = none) :
    (d.snapshot g).subscription = .invalid := by
  change (d.platform.accounts.account? g).elim .invalid d.platform.accounts.subscription = _
  rw [ha]
  rfl

/-- Capabilities show at the one radio that they are set for. A country shows wherever the subscription
of the radio does, and only if the radio is the first with it. Numbers show wherever their subscription
does, which for a handle without an account is that of no radio. Nothing else that is shown changes. -/
theorem changes_confined (hr : d.Reachable) :
    (∀ before r after, d.radios = before ++ r :: after →
      (∀ c g, (d.step (.setCapabilities r.handle c)).1.snapshot g =
        if g = r.handle then
          { d.snapshot g with
            canPlaceEmergencyCalls :=
              r.registered && Account.canPlaceEmergencyCalls ⟨r.handle, c⟩ }
        else d.snapshot g) ∧
      ∀ c g, (d.step (.setCountry r.handle c)).1.snapshot g =
        if 0 ≤ r.subscription.value.toInt ∧ (∀ q ∈ before, q.subscription ≠ r.subscription) ∧
            (d.snapshot g).subscription = r.subscription then
          { d.snapshot g with country := c.getD "" }
        else d.snapshot g) ∧
    (∀ t ns g, (d.step (.setNumbers t ns)).1.snapshot g =
      if (d.snapshot g).subscription = t then
        { d.snapshot g with promoted := if d.unavailable then none else promoteList? ns }
      else d.snapshot g) ∧
    ∀ g, d.platform.accounts.account? g = none → (d.snapshot g).subscription = ⟨-1⟩ := by
  have ho := orderly_reachable hr
  refine ⟨?_, snapshot_setNumbers d, fun g => subscription_snapshot_of_no_account⟩
  intro before r after hd
  have hradio : d.radio? r.handle = some r := (radio?_eq_some_iff ho).2 ⟨by simp [hd], rfl⟩
  exact ⟨snapshot_setCapabilities ho hradio, snapshot_setCountry ho hd⟩

theorem sharedNetwork_confined : sharedNetwork.Reachable ∧
    (sharedNetwork.step (.setCapabilities ⟨"sim0"⟩ .ordinary)).1.snapshot ⟨"sim1"⟩ =
      sharedNetwork.snapshot ⟨"sim1"⟩ ∧
    (sharedNetwork.step (.setCountry ⟨"sim0"⟩ (some "gb"))).1.snapshot ⟨"sim1"⟩ =
      { sharedNetwork.snapshot ⟨"sim1"⟩ with country := "gb" } ∧
    (sharedNetwork.step (.setCountry ⟨"sim1"⟩ (some "gb"))).1.snapshot ⟨"sim1"⟩ =
      sharedNetwork.snapshot ⟨"sim1"⟩ ∧
    sharedNetwork.platform.accounts.account? ⟨"sim9"⟩ = none ∧
    (sharedNetwork.step (.setNumbers ⟨-1⟩ none)).1.snapshot ⟨"sim9"⟩ =
      { sharedNetwork.snapshot ⟨"sim9"⟩ with promoted := none } := by
  have hr : sharedNetwork.Reachable := reachable_iff.2 ⟨_, rfl⟩
  obtain ⟨hradio, hnumbers, hid⟩ := changes_confined hr
  have hn : sharedNetwork.platform.accounts.account? ⟨"sim9"⟩ = none := rfl
  have h₀ : sharedNetwork.radios = [] ++ ⟨⟨"sim0"⟩, ⟨1⟩, ⟨0x06⟩, some "us", true, true⟩ ::
      sharedNetwork.radios.drop 1 := rfl
  have h₁ : sharedNetwork.radios = sharedNetwork.radios.take 1 ++
      ⟨⟨"sim1"⟩, ⟨1⟩, ⟨0x8000_0010⟩, none, true, true⟩ :: sharedNetwork.radios.drop 2 := rfl
  refine ⟨hr, ?_, ?_, ?_, hn, ?_⟩
  · exact ((hradio _ _ _ h₀).1 _ _).trans (if_neg (by decide))
  · exact ((hradio _ _ _ h₀).2 _ _).trans (if_pos (by decide))
  · exact ((hradio _ _ _ h₁).2 _ _).trans (if_neg (by decide))
  · exact (hnumbers _ _ _).trans (if_pos (hid _ hn))

end EmergencyDial

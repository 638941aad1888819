import EmergencyDial.Proofs.Device.Selection

/-! What a device shows of a handle, part by part. -/
namespace EmergencyDial

/-- The state of a radio, with the numbers that the device itself has for it. -/
def Device.snapshot (d : Device) (h : Handle) : Snapshot :=
  d.platform.snapshot d.platform.promoted h

/-- What the account of a radio resolves to; a radio that is not registered has none. -/
def Radio.resolved (r : Radio) : SubscriptionId := if r.registered then r.subscription else .invalid

variable {d : Device} {p p' : Platform} {m m' : PromotedLists} {h : Handle}

/-- All else goes by the subscription. -/
theorem snapshot_of_subscription_eq
    (hi : (p'.snapshot m' h).subscription = (p.snapshot m h).subscription) :
    p'.snapshot m' h =
      { p.snapshot m h with
        canPlaceEmergencyCalls := (p'.accounts.account? h).any (·.canPlaceEmergencyCalls)
        country := (p'.country? (p.snapshot m h).subscription).getD ""
        promoted := m'.find? (p.snapshot m h).subscription } := by
  change Snapshot.mk _ _ (p'.snapshot m' h).subscription
    ((p'.country? (p'.snapshot m' h).subscription).getD "")
    (m'.find? (p'.snapshot m' h).subscription) = _
  rw [hi]
  rfl

/-- A radio is seen by its account, and by the country and the numbers of its subscription alone. -/
theorem snapshot_eq_of_subscription_eq
    (hi : (p'.snapshot m' h).subscription = (p.snapshot m h).subscription)
    (ha : p'.accounts.account? h = p.accounts.account? h)
    (hc : p'.country? (p.snapshot m h).subscription = p.country? (p.snapshot m h).subscription)
    (hm : m'.find? (p.snapshot m h).subscription = m.find? (p.snapshot m h).subscription) :
    p'.snapshot m' h = p.snapshot m h := by
  rw [snapshot_of_subscription_eq hi, ha, hc, hm]
  rfl

theorem subscription_snapshot (d : Device) (m : PromotedLists) (h : Handle) :
    (d.platform.snapshot m h).subscription = (d.radio? h).elim .invalid Radio.resolved := by
  change (d.account? h).elim .invalid (fun a => d.subscription a.handle) = _
  cases hr : d.radio? h with
  | none => simp [Device.account?, hr]
  | some r =>
    obtain ⟨_, rfl⟩ := of_radio?_eq_some hr
    cases hg : r.registered with
    | true => simp [Device.account?, Radio.account?, Radio.resolved, Device.subscription, hr, hg]
    | false => simp [Device.account?, Radio.account?, Radio.resolved, hr, hg]

/-- A number from zero on is that of some radio. -/
theorem exists_radio_of_nonneg
    (hv : 0 ≤ (d.platform.snapshot m h).subscription.value.toInt) :
    ∃ r ∈ d.radios, r.subscription = (d.platform.snapshot m h).subscription := by
  have hn : ¬ 0 ≤ SubscriptionId.invalid.value.toInt := by decide
  rw [subscription_snapshot] at hv ⊢
  cases hr : d.radio? h with
  | none => exact absurd hv (by simpa [hr] using hn)
  | some r =>
    cases hg : r.registered with
    | true => exact ⟨r, (of_radio?_eq_some hr).1, by simp [Radio.resolved, hg]⟩
    | false => exact absurd hv (by simpa [hr, Radio.resolved, hg] using hn)

end EmergencyDial

import EmergencyDial.Proofs.Device.Coherence

/-! What a device answers once one of its radios is adjusted. -/
namespace EmergencyDial

/-- Adjusts the radio of a handle and leaves all others. -/
def Radio.adjustAt (h : Handle) (f : Radio → Radio) (r : Radio) : Radio :=
  if r.handle = h then f r else r

def Device.mapRadios (d : Device) (f : Radio → Radio) : Device :=
  { d with radios := d.radios.map f }

variable {d d' : Device} {h g : Handle} {r : Radio} {f : Radio → Radio} {i : SubscriptionId}
  {before after : List Radio}

theorem adjusts_adjustAt (hf : Radio.Adjusts f) : Radio.Adjusts (Radio.adjustAt h f) := by
  intro r
  unfold Radio.adjustAt
  split
  · exact hf r
  · exact ⟨rfl, rfl, rfl, rfl, id⟩

/-- What an adjustment leaves of a radio it leaves of all. -/
theorem apply_adjustAt {β : Type} {k : Radio → β} (hk : ∀ r, k (f r) = k r) (r : Radio) :
    k (Radio.adjustAt h f r) = k r := by
  unfold Radio.adjustAt
  split
  · exact hk r
  · rfl

/-- A handle that no radio has changes nothing, and is not found. -/
theorem changeRadio_eq_mapRadios (ho : Orderly d.radios) (h : Handle) (f : Radio → Radio) :
    (d.changeRadio h f).1 = d.mapRadios (Radio.adjustAt h f) := by
  rcases changeRadio_cases d h f with ⟨_, he⟩ | ⟨hn, he⟩
  · rw [he, Device.mapRadios, changeFirst_eq_map ho.distinct]
    rfl
  · have hid : ∀ r ∈ d.radios, Radio.adjustAt h f r = r := by
      intro r hr
      rw [Radio.adjustAt, if_neg]
      rintro rfl
      exact hn (mem_handles.2 ⟨r, hr, rfl⟩)
    rw [he, Device.mapRadios, List.map_congr_left hid, List.map_id']

theorem radio?_mapRadios (hf : Radio.Adjusts f) (h : Handle) :
    (d.mapRadios f).radio? h = (d.radio? h).map f := by
  have hq : (fun r : Radio => decide (r.handle = h)) ∘ f = fun r => decide (r.handle = h) :=
    funext fun r => by rw [Function.comp_apply, (hf r).handle]
  rw [Device.radio?, Device.radio?, Device.mapRadios, List.find?_map, hq]

theorem enumeration_mapRadios (hf : Radio.Adjusts f) :
    (d.mapRadios f).platform.enumeration = d.platform.enumeration := by
  simp [Device.platform, Device.radioCount, Device.callCapable, Device.mapRadios,
    List.filter_map, Function.comp_def, fun r => (hf r).callCapable, fun r => (hf r).handle]

theorem country?_mapRadios (hf : Radio.Adjusts f) (hc : ∀ r, (f r).country = r.country)
    (i : SubscriptionId) : Device.country? (d.mapRadios f) i = d.country? i := by
  simp only [Device.country?, Device.mapRadios, List.find?_map, Function.comp_def,
    fun r => (hf r).subscription, Option.bind_map, hc]

theorem account?_mapRadios_adjustAt_of_ne (hf : Radio.Adjusts f) (hne : g ≠ h) :
    (d.mapRadios (Radio.adjustAt h f)).account? g = d.account? g := by
  rw [Device.account?, Device.account?, radio?_mapRadios (adjusts_adjustAt hf)]
  cases hr : d.radio? g with
  | none => rfl
  | some r =>
    obtain ⟨_, rfl⟩ := of_radio?_eq_some hr
    simp only [Option.map_some, Radio.adjustAt, if_neg hne]

theorem account?_mapRadios (hf : Radio.Adjusts f) (hc : ∀ r, (f r).capabilities = r.capabilities)
    (h : Handle) : (d.mapRadios f).account? h = d.account? h := by
  rw [Device.account?, Device.account?, radio?_mapRadios hf, Option.bind_map]
  congr 1
  funext r
  simp only [Function.comp_apply, Radio.account?, (hf r).registered, (hf r).handle, hc]

/-- No other radio has the handle of this one. -/
theorem map_adjustAt (ho : Orderly (before ++ r :: after)) (f : Radio → Radio) :
    (before ++ r :: after).map (Radio.adjustAt r.handle f) = before ++ f r :: after := by
  have hn := ho.distinct
  rw [List.map_append, List.map_cons, List.nodup_middle, List.nodup_cons, ← List.map_append] at hn
  have hid : ∀ q ∈ before ++ after, Radio.adjustAt r.handle f q = q := by
    intro q hq
    rw [Radio.adjustAt, if_neg]
    intro he
    exact hn.1 (he ▸ List.mem_map_of_mem hq)
  have hb := List.map_congr_left fun q hq => hid q (List.mem_append_left after hq)
  have ha := List.map_congr_left fun q hq => hid q (List.mem_append_right before hq)
  rw [List.map_append, List.map_cons, hb, ha, List.map_id', List.map_id', Radio.adjustAt, if_pos rfl]

/-- The first radio with a subscription has its country. -/
theorem country?_of_first (hd : d.radios = before ++ r :: after)
    (hv : 0 ≤ r.subscription.value.toInt) (hn : ∀ q ∈ before, q.subscription ≠ r.subscription) :
    d.country? r.subscription = r.country := by
  have hf : d.radios.find? (fun q => q.subscription = r.subscription) = some r :=
    List.find?_eq_some_iff_append.2 ⟨by simp, before, after, hd, by simpa using hn⟩
  have hs : r.subscription.isValid = true := by simpa [SubscriptionId.isValid]
  rw [Device.country?, if_pos hs, hf]
  rfl

/-- A radio that is not the first with a subscription has no say in its country. -/
theorem country?_of_not_first {r' : Radio} (hd : d.radios = before ++ r :: after)
    (hd' : d'.radios = before ++ r' :: after) (hs : r'.subscription = r.subscription)
    (hn : i = r.subscription → ∃ q ∈ before, q.subscription = i) : d'.country? i = d.country? i := by
  have hf : (before ++ r' :: after).find? (fun q => q.subscription = i) =
      (before ++ r :: after).find? fun q => q.subscription = i := by
    rw [List.find?_append, List.find?_append]
    by_cases hi : i = r.subscription
    · cases hb : before.find? fun q => q.subscription = i with
      | some q => rfl
      | none =>
        obtain ⟨q, hq, he⟩ := hn hi
        exact absurd he (by simpa using List.find?_eq_none.1 hb q hq)
    · rw [List.find?_cons_of_neg (by simpa [hs] using Ne.symm hi),
        List.find?_cons_of_neg (by simpa using Ne.symm hi)]
  rw [Device.country?, Device.country?, hd, hd', hf]

/-- Of the radios with a subscription only the first has a say in its country. -/
theorem country?_mapRadios_adjustAt (ho : Orderly d.radios) (hd : d.radios = before ++ r :: after)
    (hf : Radio.Adjusts f) (i : SubscriptionId) :
    Device.country? (d.mapRadios (Radio.adjustAt r.handle f)) i =
      if 0 ≤ r.subscription.value.toInt ∧ (∀ q ∈ before, q.subscription ≠ r.subscription) ∧
        i = r.subscription then (f r).country else d.country? i := by
  have hd' : (d.mapRadios (Radio.adjustAt r.handle f)).radios = before ++ f r :: after := by
    rw [Device.mapRadios, hd, map_adjustAt (hd ▸ ho)]
  have hs := (hf r).subscription
  split
  · next h =>
    obtain ⟨hv, hn, rfl⟩ := h
    rw [← hs] at hv hn ⊢
    exact country?_of_first hd' hv hn
  · next h =>
    by_cases hv : 0 ≤ i.value.toInt
    · refine country?_of_not_first hd hd' hs ?_
      rintro rfl
      by_contra hb
      exact h ⟨hv, fun q hq he => hb ⟨q, hq, he⟩, rfl⟩
    · rw [country?_of_neg (by omega), country?_of_neg (by omega)]

end EmergencyDial

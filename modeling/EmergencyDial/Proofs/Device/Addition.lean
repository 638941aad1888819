import EmergencyDial.Proofs.Device.Snapshot
import EmergencyDial.Proofs.Selection.LineUp

/-! Radios that are added to a device, and what they leave of its selections. -/
namespace EmergencyDial

/-- The device with one more radio, behind the others. -/
def Device.push (d : Device) (r : Radio) : Device := { d with radios := d.radios ++ [r] }

variable {d d' : Device} {h : Handle} {r : Radio} {s : Step} {i : SubscriptionId}

theorem exists_push_of_addRadio {q : RadioPlan} (ho : d.addRadio q = (d', .added h)) :
    ∃ r, r.handle = h ∧ d' = d.push r := by
  rcases addRadio_cases d q with ⟨_, he⟩ | ⟨_, he⟩
  · obtain ⟨hd, ha⟩ := Prod.mk.inj (he.symm.trans ho)
    exact ⟨.ofPlan q, Outcome.added.inj ha, hd.symm⟩
  · cases he.symm.trans ho

theorem changeRadio_ne_added {f : Radio → Radio} {g : Handle} :
    d.changeRadio g f ≠ (d', .added h) := by
  intro ho
  rcases changeRadio_cases d g f with ⟨_, he⟩ | ⟨_, he⟩
  · cases he.symm.trans ho
  · cases he.symm.trans ho

/-- A step that tells of a new handle has put a radio with it behind the others. -/
theorem exists_push_of_added (ho : d.step s = (d', .added h)) : ∃ r, r.handle = h ∧ d' = d.push r := by
  cases s with
  | addRadio q => exact exists_push_of_addRadio ho
  | addRadioText t =>
    simp only [Device.step] at ho
    split at ho
    · exact exists_push_of_addRadio ho
    · cases ho
  | setCountry g c => exact absurd ho changeRadio_ne_added
  | setCapabilities g c => exact absurd ho changeRadio_ne_added
  | _ => cases ho

/-- A search that ends at one of the old radios does not come to the new one. -/
theorem radio?_push (hm : h ∈ d.handles) (r : Radio) : (d.push r).radio? h = d.radio? h := by
  obtain ⟨q, hq⟩ := exists_radio?_of_mem hm
  rw [Device.radio?] at hq
  simp only [Device.radio?, Device.push, List.find?_append, hq, Option.some_or]

theorem country?_push (hm : ∃ q ∈ d.radios, q.subscription = i) (r : Radio) :
    Device.country? (d.push r) i = d.country? i := by
  cases hf : d.radios.find? fun q => q.subscription = i with
  | none =>
    obtain ⟨q, hq, hi⟩ := hm
    exact absurd hi (by simpa using List.find?_eq_none.1 hf q hq)
  | some q => simp only [Device.country?, Device.push, List.find?_append, hf, Option.some_or]

/-- The subscription of an old radio leads to an old radio, even where the new one has it too. -/
theorem snapshot_push (hm : h ∈ d.handles) (r : Radio) : (d.push r).snapshot h = d.snapshot h := by
  have hr := radio?_push hm r
  apply snapshot_eq_of_subscription_eq
  · rw [subscription_snapshot, subscription_snapshot, hr]
  · change (d.push r).account? h = d.account? h
    rw [Device.account?, Device.account?, hr]
  · change Device.country? (d.push r) (d.snapshot h).subscription =
      d.country? (d.snapshot h).subscription
    by_cases hv : 0 ≤ (d.snapshot h).subscription.value.toInt
    · exact country?_push (exists_radio_of_nonneg hv) r
    · rw [country?_of_neg (by omega), country?_of_neg (by omega)]
  · rfl

theorem callCapable_push (d : Device) (r : Radio) : (d.push r).callCapable =
    d.callCapable ++ if r.callCapable then [r.handle] else [] := by
  rw [Device.callCapable, Device.push, List.filter_append, List.map_append]
  cases hc : r.callCapable with
  | true => simp [Device.callCapable, hc]
  | false => simp [Device.callCapable, hc]

theorem radioCount_push (hc : d.radioCount ≠ 0) (r : Radio) : (d.push r).radioCount ≠ 0 := by
  rw [Device.radioCount] at hc ⊢
  change d.count.elim (d.radios ++ [r]).length UInt64.toNat ≠ 0
  cases hn : d.count with
  | none => simp
  | some n => simpa [hn] using hc

theorem extends_push (hd : ∀ g, d.defaultRadio = some g → g ∈ d.handles) (r : Radio) (sch : Scheme) :
    d.platform.Extends (d.push r).platform sch (if r.callCapable then [r.handle] else []) where
  counted hc := radioCount_push hc r
  promoted := rfl
  callCapable := callCapable_push d r
  defaultRadio? := rfl
  snapshot h hm := by
    refine snapshot_push ?_ r
    rcases hm with hm | hm
    · exact hd h (defaultRadio?_eq_some_iff.1 hm).2
    · exact (callCapable_sublist d).subset hm

/-- A radio that is added changes nothing for the others. What was selected before is still selected;
and where nothing was sufficient, it is the new radio or none that is selected, and at the position behind
all others. -/
theorem selection_of_added (hd : ∀ g, d.defaultRadio = some g → g ∈ d.handles)
    (ho : d.step s = (d', .added h)) (sel : Selector) :
    (∀ g ∈ d.handles, d'.snapshot g = d.snapshot g) ∧
    (∀ x, (sel.tryPick d.platform).value = .ok x → (sel.tryPick d'.platform).value = .ok x) ∧
    ((sel.tryPick d.platform).value = .error .nothingPromoted →
      (sel.tryPick d'.platform).value = .error .nothingPromoted) ∧
    ((sel.tryPick d.platform).value = .error .noneSufficient →
      (sel.tryPick d'.platform).value = .error .noneSufficient ∨
        (sel.tryPick d'.platform).value =
          .ok ⟨d'.snapshot h, .callCapable d.platform.enumeration.callCapable.length⟩) := by
  obtain ⟨r, rfl, rfl⟩ := exists_push_of_added ho
  have he := extends_push hd r sel.scheme
  refine ⟨fun g hg => snapshot_push hg r, fun x => ok_of_extends he,
    nothingPromoted_of_extends he, ?_⟩
  intro hv
  rcases noneSufficient_of_extends he hv with hn | ⟨k, g, hk, hv'⟩
  · exact Or.inl hn
  · right
    -- there is one handle at most to come in
    obtain ⟨rfl, rfl⟩ : k = 0 ∧ r.handle = g := by
      split at hk
      · simpa [List.getElem?_singleton] using hk
      · simp at hk
    exact hv'

/-- The only radio is in a network, but may not place emergency calls. -/
def loneRadio : Device :=
  (Device.empty.run [.addRadio ⟨"sim0", some ⟨1⟩, ⟨0x06⟩, some "us", true, true⟩,
    .setDefault (some ⟨"sim0"⟩),
    .setNumbers ⟨1⟩ (some [⟨"911", "", "", ⟨0x01⟩, ⟨0x10⟩, .unknown⟩])]).1

/-- It may, and is in the network of the first one, whose subscription it shares. -/
def guestRadio : Step := .addRadio ⟨"sim1", some ⟨1⟩, .ordinary, none, true, true⟩

theorem guestRadio_selected : (∀ g, loneRadio.defaultRadio = some g → g ∈ loneRadio.handles) ∧
    loneRadio.step guestRadio = ((loneRadio.step guestRadio).1, .added ⟨"sim1"⟩) ∧
    (loneRadio.step guestRadio).1.snapshot ⟨"sim0"⟩ = loneRadio.snapshot ⟨"sim0"⟩ ∧
    (Selector.tryPick {} loneRadio.platform).value = .error .noneSufficient ∧
    (Selector.tryPick {} (loneRadio.step guestRadio).1.platform).value =
      .ok ⟨(loneRadio.step guestRadio).1.snapshot ⟨"sim1"⟩, .callCapable 1⟩ := by
  have hd : ∀ g, loneRadio.defaultRadio = some g → g ∈ loneRadio.handles := by
    rintro g ⟨⟩
    decide
  have ho : loneRadio.step guestRadio = ((loneRadio.step guestRadio).1, .added ⟨"sim1"⟩) := rfl
  have hv : (Selector.tryPick {} loneRadio.platform).value = .error .noneSufficient := rfl
  obtain ⟨hs, _, _, hn⟩ := selection_of_added hd ho {}
  refine ⟨hd, ho, hs _ (by decide), hv, (hn hv).resolve_left ?_⟩
  nofun

end EmergencyDial

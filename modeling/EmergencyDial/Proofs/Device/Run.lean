import EmergencyDial.Device.Step

/-! What a step does to a device, and what steps do one after another. -/
namespace EmergencyDial

variable {d : Device} {h : Handle} {r : Radio} {f : Radio → Radio} {q : Radio → Bool}
  {rs : List Radio} {ss ts : List Step}

def Device.handles (d : Device) : List Handle := d.radios.map Radio.handle

theorem mem_handles : h ∈ d.handles ↔ ∃ r ∈ d.radios, r.handle = h := List.mem_map

theorem radio?_eq_none_iff : d.radio? h = none ↔ h ∉ d.handles := by
  simp [Device.radio?, mem_handles]

theorem of_radio?_eq_some (hr : d.radio? h = some r) : r ∈ d.radios ∧ r.handle = h := by
  refine ⟨List.mem_of_find?_eq_some hr, ?_⟩
  simpa using List.find?_some hr

theorem mem_handles_of_radio? (hr : d.radio? h = some r) : h ∈ d.handles :=
  mem_handles.2 ⟨r, of_radio?_eq_some hr⟩

theorem exists_radio?_of_mem (hm : h ∈ d.handles) : ∃ r, d.radio? h = some r := by
  cases hr : d.radio? h with
  | none => exact absurd hm (radio?_eq_none_iff.1 hr)
  | some r => exact ⟨r, rfl⟩

@[simp] theorem handle_ofPlan (p : RadioPlan) : (Radio.ofPlan p).handle = ⟨p.handle⟩ := rfl

theorem add?_of_notMem (hn : r.handle ∉ d.handles) :
    d.add? r = some { d with radios := d.radios ++ [r] } := by
  rw [Device.add?, radio?_eq_none_iff.2 hn]

theorem add?_of_mem (hm : r.handle ∈ d.handles) : d.add? r = none := by
  obtain ⟨r', hr⟩ := exists_radio?_of_mem hm
  rw [Device.add?, hr]

theorem addRadio_cases (d : Device) (p : RadioPlan) :
    (⟨p.handle⟩ ∉ d.handles ∧ d.addRadio p =
      ({ d with radios := d.radios ++ [.ofPlan p] }, .added ⟨p.handle⟩)) ∨
    (⟨p.handle⟩ ∈ d.handles ∧ d.addRadio p = (d, .duplicateHandle ⟨p.handle⟩)) := by
  by_cases hm : (Radio.ofPlan p).handle ∈ d.handles
  · refine Or.inr ⟨hm, ?_⟩
    simp only [Device.addRadio, add?_of_mem hm]
    rfl
  · refine Or.inl ⟨hm, ?_⟩
    simp only [Device.addRadio, add?_of_notMem hm]
    rfl

theorem changeRadio_cases (d : Device) (h : Handle) (f : Radio → Radio) :
    (h ∈ d.handles ∧ d.changeRadio h f =
      ({ d with radios := Device.changeFirst (fun r => r.handle = h) f d.radios }, .done)) ∨
    (h ∉ d.handles ∧ d.changeRadio h f = (d, .noSuchRadio)) := by
  simp only [Device.changeRadio, Device.change?]
  cases hr : d.radio? h with
  | none => exact Or.inr ⟨radio?_eq_none_iff.1 hr, rfl⟩
  | some r => exact Or.inl ⟨mem_handles_of_radio? hr, rfl⟩

/-- The radio stays the same one, with the same account behind it; and if it is in a network, that has
a country. -/
structure Radio.Becomes (r r' : Radio) : Prop where
  handle : r'.handle = r.handle
  subscription : r'.subscription = r.subscription
  registered : r'.registered = r.registered
  callCapable : r'.callCapable = r.callCapable
  named : r.country ≠ some "" → r'.country ≠ some ""

abbrev Radio.Adjusts (f : Radio → Radio) : Prop := ∀ r, Radio.Becomes r (f r)

theorem adjusts_setCountry (c : Option String) : Radio.Adjusts (Radio.setCountry c) :=
  fun _ => ⟨rfl, rfl, rfl, rfl, fun _ => Radio.named_ne_empty⟩

theorem adjusts_setCapabilities (c : Capabilities) : Radio.Adjusts (Radio.setCapabilities c) :=
  fun _ => ⟨rfl, rfl, rfl, rfl, id⟩

/-- All that a step can do to the radios of a device. -/
inductive RadioChange (rs : List Radio) : List Radio → Prop
  | kept : RadioChange rs rs
  | added (p : RadioPlan) (hn : ⟨p.handle⟩ ∉ rs.map Radio.handle) :
    RadioChange rs (rs ++ [.ofPlan p])
  | adjusted (h : Handle) {f : Radio → Radio} (hf : Radio.Adjusts f) :
    RadioChange rs (Device.changeFirst (fun r => r.handle = h) f rs)

theorem radioChange_addRadio (d : Device) (p : RadioPlan) :
    RadioChange d.radios (d.addRadio p).1.radios := by
  rcases addRadio_cases d p with ⟨hn, he⟩ | ⟨_, he⟩
  · rw [he]
    exact .added p hn
  · rw [he]
    exact .kept

theorem radioChange_changeRadio (d : Device) (h : Handle) (hf : Radio.Adjusts f) :
    RadioChange d.radios (d.changeRadio h f).1.radios := by
  rcases changeRadio_cases d h f with ⟨_, he⟩ | ⟨_, he⟩
  · rw [he]
    exact .adjusted h hf
  · rw [he]
    exact .kept

theorem radioChange_step (d : Device) (s : Step) : RadioChange d.radios (d.step s).1.radios := by
  cases s with
  | addRadio p => exact radioChange_addRadio d p
  | addRadioText t =>
    simp only [Device.step]
    split
    · exact radioChange_addRadio d _
    · exact .kept
  | setCount n => exact .kept
  | setDefault h => exact .kept
  | setNumbers i ns => exact .kept
  | setUnavailable b => exact .kept
  | setCountry h c => exact radioChange_changeRadio d h (adjusts_setCountry c)
  | setCapabilities h c => exact radioChange_changeRadio d h (adjusts_setCapabilities c)

theorem map_changeFirst {β : Type} {g : Radio → β} (hg : ∀ r, g (f r) = g r) (rs : List Radio) :
    (Device.changeFirst q f rs).map g = rs.map g := by
  induction rs with
  | nil => rfl
  | cons r rs ih =>
    unfold Device.changeFirst
    split
    · simp [hg]
    · simp [ih]

theorem mem_changeFirst (hm : r ∈ Device.changeFirst q f rs) : r ∈ rs ∨ ∃ r' ∈ rs, r = f r' := by
  induction rs with
  | nil => cases hm
  | cons r' rs ih =>
    unfold Device.changeFirst at hm
    split at hm
    · rcases List.mem_cons.1 hm with rfl | hm
      · exact Or.inr ⟨r', List.mem_cons_self, rfl⟩
      · exact Or.inl (List.mem_cons_of_mem r' hm)
    · rcases List.mem_cons.1 hm with rfl | hm
      · exact Or.inl List.mem_cons_self
      · rcases ih hm with hm | ⟨r'', hm, he⟩
        · exact Or.inl (List.mem_cons_of_mem r' hm)
        · exact Or.inr ⟨r'', List.mem_cons_of_mem r' hm, he⟩

/-- Where no two radios share a handle, the first with a handle is the only one. -/
theorem changeFirst_eq_map (hn : (rs.map Radio.handle).Nodup) :
    Device.changeFirst (fun r => r.handle = h) f rs =
      rs.map fun r => if r.handle = h then f r else r := by
  induction rs with
  | nil => rfl
  | cons r rs ih =>
    obtain ⟨hr, hn⟩ := List.nodup_cons.1 hn
    by_cases he : r.handle = h
    · -- the handle does not come again, so that the map leaves the others alone
      have hrs : ∀ r' ∈ rs, (if r'.handle = h then f r' else r') = r' := by
        intro r' hm
        rw [if_neg]
        rintro rfl
        exact hr (he ▸ List.mem_map_of_mem hm)
      simp [Device.changeFirst, he, List.map_congr_left hrs]
    · simp [Device.changeFirst, he, ih hn]

/-- The step was turned down. -/
def Outcome.isRefused : Outcome → Bool
  | .done | .added _ => false
  | .duplicateHandle _ | .unreadable _ | .noSuchRadio => true

theorem run_cons (d : Device) (s : Step) (ss : List Step) :
    d.run (s :: ss) = (((d.step s).1.run ss).1, (d.step s).2 :: ((d.step s).1.run ss).2) := rfl

theorem run_append (d : Device) (ss ts : List Step) : d.run (ss ++ ts) =
    (((d.run ss).1.run ts).1, (d.run ss).2 ++ ((d.run ss).1.run ts).2) := by
  induction ss generalizing d with
  | nil => rfl
  | cons s ss ih =>
    rw [List.cons_append, run_cons, run_cons, ih]
    rfl

end EmergencyDial

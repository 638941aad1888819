import EmergencyDial.Proofs.Device.Run
import Mathlib.Data.Finset.Card
import Mathlib.Data.Finset.Dedup
import Mathlib.Data.List.Nodup

/-! Loading a plan comes to the same as building the device by hand. -/
namespace EmergencyDial
open Device

variable {p : DevicePlan} {d : Device} {h : String} {ps : List RadioPlan} {r : RadioPlan}
  {x : Except LoadError Device}

/-- What is set on a planned device once its radios are there. -/
def DevicePlan.settings (p : DevicePlan) : List Step :=
  p.defaultRadio.toList.map (fun h => .setDefault (some ⟨h⟩)) ++
    p.numbers.map (fun l => .setNumbers l.subscription l.numbers) ++
    p.count.toList.map .setCount ++ [.setUnavailable p.unavailable]

/-- The steps that build a planned device. -/
def DevicePlan.steps (p : DevicePlan) : List Step := p.radios.map .addRadio ++ p.settings

def DevicePlan.handles (p : DevicePlan) : List String := p.radios.map RadioPlan.handle

/-- What becomes of a plan. A handle that repeats an earlier one goes before a default that names no
radio, and of several such handles the first counts. -/
inductive Loading (p : DevicePlan) : Except LoadError Device → Prop
  | loaded (hn : p.handles.Nodup) (hd : ∀ h, p.defaultRadio = some h → h ∈ p.handles) :
    Loading p (.ok (empty.run p.steps).1)
  | duplicateHandle {before after : List RadioPlan} {r : RadioPlan}
      (hp : p.radios = before ++ r :: after) (hn : (before.map RadioPlan.handle).Nodup)
      (hr : r.handle ∈ before.map RadioPlan.handle) :
    Loading p (.error (.duplicateHandle ⟨r.handle⟩))
  | unknownDefault {h : String} (hn : p.handles.Nodup) (hd : p.defaultRadio = some h)
      (hm : h ∉ p.handles) : Loading p (.error (.unknownDefault ⟨h⟩))

theorem map_handle_ofPlan (ps : List RadioPlan) :
    (ps.map Radio.ofPlan).map Radio.handle = (ps.map RadioPlan.handle).map Handle.mk := by
  rw [List.map_map, List.map_map]
  rfl

theorem handle_mk_injective : Function.Injective Handle.mk := fun _ _ h => Handle.mk.inj h

theorem handle_id_injective : Function.Injective Handle.id := fun _ _ h => congrArg Handle.mk h

theorem nodup_map_handle_iff :
    ((ps.map Radio.ofPlan).map Radio.handle).Nodup ↔ (ps.map RadioPlan.handle).Nodup := by
  rw [map_handle_ofPlan, List.nodup_map_iff handle_mk_injective]

theorem mem_map_handle_iff :
    (⟨h⟩ : Handle) ∈ (ps.map Radio.ofPlan).map Radio.handle ↔ h ∈ ps.map RadioPlan.handle := by
  rw [map_handle_ofPlan, List.mem_map_of_injective handle_mk_injective]

theorem notMem_handles_of_nodup {r : Radio} {rs : List Radio}
    (hn : ((d.radios ++ r :: rs).map Radio.handle).Nodup) : r.handle ∉ d.handles := by
  rw [List.map_append, List.map_cons, List.nodup_append] at hn
  intro hm
  exact hn.2.2 _ hm _ List.mem_cons_self rfl

theorem addAll_of_nodup {rs : List Radio} (hn : ((d.radios ++ rs).map Radio.handle).Nodup) :
    d.addAll rs = .ok { d with radios := d.radios ++ rs } := by
  induction rs generalizing d with
  | nil => simp [addAll]
  | cons r rs ih =>
    have hr : d.add? r = some { d with radios := d.radios ++ [r] } :=
      add?_of_notMem (notMem_handles_of_nodup hn)
    have hn' : ((({ d with radios := d.radios ++ [r] } : Device).radios ++ rs).map
        Radio.handle).Nodup := by simpa using hn
    simp only [addAll, hr, ih hn', List.append_assoc, List.singleton_append]

theorem addAll_append (d : Device) (rs ss : List Radio) :
    d.addAll (rs ++ ss) = (d.addAll rs).bind fun d => d.addAll ss := by
  induction rs generalizing d with
  | nil => rfl
  | cons r rs ih =>
    simp only [List.cons_append, addAll]
    cases d.add? r with
    | none => rfl
    | some d => exact ih d

theorem addAll_of_duplicate {before after : List RadioPlan}
    (hn : (before.map RadioPlan.handle).Nodup) (hr : r.handle ∈ before.map RadioPlan.handle) :
    empty.addAll ((before ++ r :: after).map Radio.ofPlan) =
      .error (.duplicateHandle ⟨r.handle⟩) := by
  have hb : empty.addAll (before.map Radio.ofPlan) =
      .ok { empty with radios := before.map Radio.ofPlan } :=
    addAll_of_nodup (nodup_map_handle_iff.2 hn)
  have hm : (Radio.ofPlan r).handle ∈
      ({ empty with radios := before.map Radio.ofPlan } : Device).handles :=
    mem_map_handle_iff.2 hr
  rw [List.map_append, addAll_append, hb]
  simp [Except.bind, addAll, add?_of_mem hm]

theorem run_addRadios (hn : ((d.radios ++ ps.map Radio.ofPlan).map Radio.handle).Nodup) :
    d.run (ps.map .addRadio) =
      ({ d with radios := d.radios ++ ps.map Radio.ofPlan }, ps.map fun p => .added ⟨p.handle⟩) := by
  induction ps generalizing d with
  | nil => simp [run]
  | cons p ps ih =>
    have hp : d.step (.addRadio p) =
        ({ d with radios := d.radios ++ [.ofPlan p] }, .added ⟨p.handle⟩) := by
      rcases addRadio_cases d p with ⟨_, he⟩ | ⟨hm, _⟩
      · exact he
      · exact absurd hm (notMem_handles_of_nodup hn)
    rw [List.map_cons, run_cons, hp, ih (by simpa using hn)]
    simp

theorem run_setNumbers (d : Device) (ls : List NumbersPlan) :
    d.run (ls.map fun l => .setNumbers l.subscription l.numbers) =
      ({ d with numbers := d.numbers.insertAll (ls.map fun l => (l.subscription, l.numbers)) },
        ls.map fun _ => .done) := by
  induction ls generalizing d with
  | nil => rfl
  | cons l ls ih =>
    rw [List.map_cons, run_cons, ih]
    rfl

theorem run_settings (d : Device) (p : DevicePlan) : (d.run p.settings).1 = { d with
    count := p.count.or d.count
    defaultRadio := (p.defaultRadio.map Handle.mk).or d.defaultRadio
    numbers := d.numbers.insertAll (p.numbers.map fun l => (l.subscription, l.numbers))
    unavailable := p.unavailable } := by
  cases hc : p.count <;> cases hd : p.defaultRadio <;>
    simp [DevicePlan.settings, hc, hd, run_append, run_setNumbers, run, step]

theorem eq_done_of_mem_settings {o : Outcome} (ho : o ∈ (d.run p.settings).2) : o = .done := by
  cases hc : p.count <;> cases hd : p.defaultRadio <;>
    simp [DevicePlan.settings, hc, hd, run_append, run_setNumbers, run, step] at ho <;> tauto

/-- The device that a plan describes, field by field. -/
def DevicePlan.device (p : DevicePlan) : Device where
  count := p.count
  radios := p.radios.map Radio.ofPlan
  defaultRadio := p.defaultRadio.map Handle.mk
  numbers := .ofList (p.numbers.map fun l => (l.subscription, l.numbers))
  unavailable := p.unavailable

theorem run_steps (hn : p.handles.Nodup) : (empty.run p.steps).1 = p.device := by
  have hr := run_addRadios (d := empty) (nodup_map_handle_iff.2 hn)
  rw [DevicePlan.steps, run_append, hr, run_settings]
  simp [DevicePlan.device, empty, ById.ofList]

theorem not_isRefused_of_nodup (hn : p.handles.Nodup) :
    ∀ o ∈ (empty.run p.steps).2, o.isRefused = false := by
  have hr := run_addRadios (d := empty) (nodup_map_handle_iff.2 hn)
  rw [DevicePlan.steps, run_append, hr]
  intro o ho
  rcases List.mem_append.1 ho with ho | ho
  · obtain ⟨_, _, rfl⟩ := List.mem_map.1 ho
    rfl
  · rw [eq_done_of_mem_settings ho]
    rfl

/-- By hand, too, the first handle that repeats an earlier one is where it fails. -/
theorem find?_isRefused_addRadios {before after : List RadioPlan}
    (hn : (before.map RadioPlan.handle).Nodup) (hr : r.handle ∈ before.map RadioPlan.handle) :
    (empty.run ((before ++ r :: after).map .addRadio)).2.find? Outcome.isRefused =
      some (.duplicateHandle ⟨r.handle⟩) := by
  have hb := run_addRadios (d := empty) (nodup_map_handle_iff.2 hn)
  have hm : (⟨r.handle⟩ : Handle) ∈
      ({ empty with radios := empty.radios ++ before.map Radio.ofPlan } : Device).handles :=
    mem_map_handle_iff.2 hr
  have ha : ((before.map fun p => Outcome.added ⟨p.handle⟩).find? Outcome.isRefused) = none := by
    simp [Outcome.isRefused]
  rw [List.map_append, List.map_cons, run_append, hb, List.find?_append, ha, run_cons]
  rcases addRadio_cases { empty with radios := empty.radios ++ before.map Radio.ofPlan } r with
    ⟨hn, _⟩ | ⟨_, he⟩
  · exact absurd hm hn
  · simp only [step, he]
    rfl

theorem find?_isRefused_of_duplicate {before after : List RadioPlan}
    (hp : p.radios = before ++ r :: after) (hn : (before.map RadioPlan.handle).Nodup)
    (hr : r.handle ∈ before.map RadioPlan.handle) :
    (empty.run p.steps).2.find? Outcome.isRefused = some (.duplicateHandle ⟨r.handle⟩) := by
  rw [DevicePlan.steps, hp, run_append, List.find?_append, find?_isRefused_addRadios hn hr,
    Option.some_or]

theorem value_load (p : DevicePlan) : (load p).value = ofPlan p := by
  rw [load]
  cases ofPlan p <;> rfl

theorem value_loadText {t : String} (hp : DevicePlan.codec.parse t = .ok p) :
    (loadText t).value = (load p).value := by
  simp only [loadText, hp]

theorem withDefault_of_mem {o : Option Handle} (ho : ∀ g, o = some g → g ∈ d.handles) :
    d.withDefault o = .ok { d with defaultRadio := o.or d.defaultRadio } := by
  cases o with
  | none => rfl
  | some g =>
    obtain ⟨r, hr⟩ := exists_radio?_of_mem (ho g rfl)
    simp only [withDefault, hr, Option.some_or]

theorem withDefault_of_notMem {g : Handle} (hg : g ∉ d.handles) :
    d.withDefault (some g) = .error (.unknownDefault g) := by
  simp only [withDefault, radio?_eq_none_iff.2 hg]

theorem ofPlan_of_nodup (hn : p.handles.Nodup)
    (hd : ∀ h, p.defaultRadio = some h → h ∈ p.handles) : ofPlan p = .ok p.device := by
  have hr := addAll_of_nodup (d := empty) (nodup_map_handle_iff.2 hn)
  have hm : ∀ g, p.defaultRadio.map Handle.mk = some g →
      g ∈ ({ empty with radios := empty.radios ++ p.radios.map Radio.ofPlan } : Device).handles := by
    intro g hg
    obtain ⟨h, hh, rfl⟩ := Option.map_eq_some_iff.1 hg
    exact mem_map_handle_iff.2 (hd h hh)
  simp only [ofPlan, hr, bind, Except.bind, withDefault_of_mem hm]
  simp [DevicePlan.device, empty, ById.ofList, pure, Except.pure]

theorem value_load_of_loading (hl : Loading p x) : (load p).value = x := by
  rw [value_load]
  cases hl with
  | loaded hn hd => rw [ofPlan_of_nodup hn hd, run_steps hn]
  | duplicateHandle hp hn hr =>
    simp only [ofPlan, hp, addAll_of_duplicate hn hr]
    rfl
  | unknownDefault hn hd hm =>
    have hr := addAll_of_nodup (d := empty) (nodup_map_handle_iff.2 hn)
    have hm' := mt mem_map_handle_iff.1 hm
    simp only [ofPlan, hr, hd, bind, Except.bind, Option.map_some]
    rw [withDefault_of_notMem hm']

/-- Handles are either distinct, or one of them is the first to repeat an earlier one. -/
theorem nodup_or_duplicate (ps : List RadioPlan) : (ps.map RadioPlan.handle).Nodup ∨
    ∃ before r after, ps = before ++ r :: after ∧ (before.map RadioPlan.handle).Nodup ∧
      r.handle ∈ before.map RadioPlan.handle := by
  -- from the end: what repeats first stays the first when radios are put behind it
  induction ps using List.reverseRecOn with
  | nil => exact Or.inl List.nodup_nil
  | append_singleton ps r ih =>
    rcases ih with hn | ⟨before, r', after, rfl, hn, hr⟩
    · by_cases hr : r.handle ∈ ps.map RadioPlan.handle
      · exact Or.inr ⟨ps, r, [], rfl, hn, hr⟩
      · refine Or.inl ?_
        simpa using hn.concat hr
    · exact Or.inr ⟨before, r', after ++ [r], by simp, hn, hr⟩

theorem exists_loading (p : DevicePlan) : ∃ x, Loading p x := by
  rcases nodup_or_duplicate p.radios with hn | ⟨before, r, after, hp, hn, hr⟩
  · by_cases hd : ∀ h, p.defaultRadio = some h → h ∈ p.handles
    · exact ⟨_, .loaded hn hd⟩
    · push Not at hd
      obtain ⟨h, hd, hm⟩ := hd
      exact ⟨_, .unknownDefault hn hd hm⟩
  · exact ⟨_, .duplicateHandle hp hn hr⟩

theorem value_load_iff : (load p).value = x ↔ Loading p x := by
  constructor
  · rintro rfl
    obtain ⟨x, hx⟩ := exists_loading p
    rw [value_load_of_loading hx]
    exact hx
  · exact value_load_of_loading

theorem exists_duplicateHandle_iff :
    (∃ h, (load p).value = .error (.duplicateHandle h)) ↔ ¬ p.handles.Nodup := by
  constructor
  · rintro ⟨h, hv⟩ hn
    cases value_load_iff.1 hv with
    | duplicateHandle hp _ hr =>
      rw [DevicePlan.handles, hp, List.map_append, List.nodup_append] at hn
      exact hn.2.2 _ hr _ List.mem_cons_self rfl
  · intro hn
    rcases nodup_or_duplicate p.radios with hn' | ⟨before, r, after, hp, hb, hr⟩
    · exact absurd hn' hn
    · exact ⟨_, value_load_iff.2 (.duplicateHandle hp hb hr)⟩

theorem eq_device_of_load (hv : (load p).value = .ok d) : p.handles.Nodup ∧ d = p.device := by
  cases value_load_iff.1 hv with
  | loaded hn _ => exact ⟨hn, run_steps hn⟩

theorem log_load_of_ok (hv : (load p).value = .ok d) :
    (load p).log = [.loaded d.radios.length d.numbers.size] := by
  rw [value_load] at hv
  simp only [load, hv]
  rfl

theorem log_load_of_error {e : LoadError} (hv : (load p).value = .error e) : (load p).log = [] := by
  rw [value_load] at hv
  simp [load, hv]

theorem nodup_ids {α : Type} (m : ById α) : (m.entries.map Prod.fst).Nodup := by
  refine List.pairwise_map.2 (m.ascending.imp ?_)
  rintro e f hlt he
  exact SubscriptionId.lt_irrefl f.1 (he ▸ hlt)

theorem mem_ids_iff {α : Type} {m : ById α} {i : SubscriptionId} :
    i ∈ m.entries.map Prod.fst ↔ (m.find? i).isSome = true := by
  simp [ById.find?]

theorem size_ofList {α : Type} (es : List (SubscriptionId × α)) :
    (ById.ofList es).size = (es.map Prod.fst).toFinset.card := by
  have hm : ∀ i, i ∈ (ById.ofList es).entries.map Prod.fst ↔ i ∈ es.map Prod.fst := by
    intro i
    rw [mem_ids_iff, ById.ofList, ById.find?_insertAll]
    simp
  calc (ById.ofList es).size
      = ((ById.ofList es).entries.map Prod.fst).length := (List.length_map _).symm
    _ = ((ById.ofList es).entries.map Prod.fst).toFinset.card :=
        (List.toFinset_card_of_nodup (nodup_ids _)).symm
    _ = (es.map Prod.fst).toFinset.card := by
        congr 1
        ext i
        rw [List.mem_toFinset, List.mem_toFinset, hm]

theorem line_loaded (m n : Nat) : (Event.loaded m n).line =
    "DEBUG Loaded simulated device with " ++ toString m ++ " radios (" ++ toString n ++
      " number lists)" := by
  have hd : "DEBUG Loaded simulated device with " = "DEBUG " ++ "Loaded simulated device with " := by
    decide
  have hl : (Event.loaded m n).line =
      "DEBUG " ++ ("Loaded simulated device with " ++ toString m ++ " radios (" ++ toString n ++
        " number lists)") := rfl
  rw [hl, hd]
  simp only [String.append_assoc]

theorem find?_device (p : DevicePlan) (i : SubscriptionId) : p.device.numbers.find? i =
    (p.numbers.reverse.find? fun l => l.subscription = i).map NumbersPlan.numbers := by
  rw [DevicePlan.device, ById.ofList, ById.find?_insertAll, ← List.map_reverse, List.find?_map]
  simp [Function.comp_def]

/-- A plan is loaded as the steps that it stands for would build the device, or fails for one of two
reasons; none of the steps is refused if it is loaded. Of several lists of a subscription the last
remains. Only a device that is loaded is told of, with its radios and the subscriptions listed. -/
theorem load_by_hand (p : DevicePlan) :
    (∀ x, (load p).value = x ↔ Loading p x) ∧
    ((∃ h, (load p).value = .error (.duplicateHandle h)) ↔ ¬ p.handles.Nodup) ∧
    (∀ d, (load p).value = .ok d →
      (∀ o ∈ (empty.run p.steps).2, o.isRefused = false) ∧
      (∀ i, d.numbers.find? i =
        (p.numbers.reverse.find? fun l => l.subscription = i).map NumbersPlan.numbers) ∧
      (load p).log.map Event.line =
        ["DEBUG Loaded simulated device with " ++ toString p.radios.length ++ " radios (" ++
          toString (p.numbers.map NumbersPlan.subscription).toFinset.card ++ " number lists)"]) ∧
    ∀ e, (load p).value = .error e →
      (load p).log = [] ∧
      ∀ h, e = .duplicateHandle h ↔
        (empty.run p.steps).2.find? Outcome.isRefused = some (.duplicateHandle h) := by
  refine ⟨fun x => value_load_iff, exists_duplicateHandle_iff, ?_, ?_⟩
  · intro d hv
    obtain ⟨hn, rfl⟩ := eq_device_of_load hv
    refine ⟨not_isRefused_of_nodup hn, find?_device p, ?_⟩
    rw [log_load_of_ok hv, List.map_singleton, line_loaded]
    simp [DevicePlan.device, size_ofList, Function.comp_def]
  · intro e hv
    refine ⟨log_load_of_error hv, ?_⟩
    intro h
    cases value_load_iff.1 hv with
    | duplicateHandle hp hn hr =>
      rw [find?_isRefused_of_duplicate hp hn hr]
      simp
    | unknownDefault hn hd hm =>
      have : (empty.run p.steps).2.find? Outcome.isRefused = none := by
        simpa using not_isRefused_of_nodup hn
      rw [this]
      simp

end EmergencyDial

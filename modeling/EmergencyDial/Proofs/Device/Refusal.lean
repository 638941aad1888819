import EmergencyDial.Proofs.Device.Coherence
import EmergencyDial.Proofs.Device.Commutation

/-! Steps that are refused, and runs from which they are left out. -/
namespace EmergencyDial
open Json Device

/-- Why a step is refused, and with what outcome. -/
inductive Refusal (d : Device) : Step → Outcome → Prop
  | handleTaken {s : Step} {h : Handle} (ha : s.added? = some h) (hm : h ∈ d.handles) :
    Refusal d s (.duplicateHandle h)
  | unreadable {t : String} {e : ReadError} (hp : RadioPlan.codec.parse t = .error e) :
    Refusal d (.addRadioText t) (.unreadable e)
  | noSuchRadio {s : Step} {h : Handle} (hc : s.changed? = some h) (hn : h ∉ d.handles) :
    Refusal d s .noSuchRadio

/-- All that can come of a step, and what becomes of the handles then. -/
inductive Answer (d : Device) (s : Step) : Device × Outcome → Prop
  | added {d' : Device} {h : Handle} (ha : s.added? = some h) (hn : h ∉ d.handles)
      (hd : d'.handles = d.handles ++ [h]) : Answer d s (d', .added h)
  | set {d' : Device} (ha : s.added? = none) (hd : d'.handles = d.handles) : Answer d s (d', .done)
  | refused {o : Outcome} (hr : Refusal d s o) : Answer d s (d, o)

/-- The steps of a run that are not refused. -/
def Device.accepted (d : Device) (ss : List Step) : List Step :=
  ((d.trace ss).filter fun e => !e.2.isRefused).map Prod.fst

/-- A device to start with, and the handles that it is configured with. -/
inductive Device.Configured : List String → Device → Prop
  | empty : Configured [] .empty
  | load {p : DevicePlan} {d : Device} (hv : (Device.load p).value = .ok d) :
    Configured p.handles d
  | loadText {t : String} {p : DevicePlan} {d : Device} (hp : DevicePlan.codec.parse t = .ok p)
      (hv : (Device.loadText t).value = .ok d) : Configured p.handles d

variable {d : Device} {s : Step} {o : Outcome} {h : Handle} {p : RadioPlan} {ss : List Step}
  {f : Radio → Radio} {names : List String} {k : Nat}

theorem answer_addRadio (ha : s.added? = some ⟨p.handle⟩) : Answer d s (d.addRadio p) := by
  rcases addRadio_cases d p with ⟨hn, he⟩ | ⟨hm, he⟩
  · rw [he]
    exact .added ha hn (by simp [Device.handles])
  · rw [he]
    exact .refused (.handleTaken ha hm)

theorem answer_changeRadio (ha : s.added? = none) (hc : s.changed? = some h)
    (hf : ∀ r, (f r).handle = r.handle) : Answer d s (d.changeRadio h f) := by
  rcases changeRadio_cases d h f with ⟨_, he⟩ | ⟨hn, he⟩
  · rw [he]
    exact .set ha (map_changeFirst hf d.radios)
  · rw [he]
    exact .refused (.noSuchRadio hc hn)

theorem answer_step (d : Device) (s : Step) : Answer d s (d.step s) := by
  cases s with
  | addRadio p => exact answer_addRadio rfl
  | addRadioText t =>
    simp only [step]
    cases hp : RadioPlan.codec.parse t with
    | ok p => exact answer_addRadio (by simp [Step.added?, hp])
    | error e => exact .refused (.unreadable hp)
  | setCount n => exact .set rfl rfl
  | setDefault h => exact .set rfl rfl
  | setNumbers i ns => exact .set rfl rfl
  | setUnavailable b => exact .set rfl rfl
  | setCountry h c => exact answer_changeRadio rfl rfl fun _ => rfl
  | setCapabilities h c => exact answer_changeRadio rfl rfl fun _ => rfl

theorem addRadio_of_mem (hm : ⟨p.handle⟩ ∈ d.handles) :
    d.addRadio p = (d, .duplicateHandle ⟨p.handle⟩) := by
  rcases addRadio_cases d p with ⟨hn, _⟩ | ⟨_, he⟩
  · exact absurd hm hn
  · exact he

theorem changeRadio_of_notMem (hn : h ∉ d.handles) (f : Radio → Radio) :
    d.changeRadio h f = (d, .noSuchRadio) := by
  rcases changeRadio_cases d h f with ⟨hm, _⟩ | ⟨_, he⟩
  · exact absurd hm hn
  · exact he

/-- A step that there is a reason to refuse is refused, and the device is left as it is. -/
theorem step_of_refusal (hr : Refusal d s o) : d.step s = (d, o) := by
  cases hr with
  | handleTaken ha hm =>
    cases s with
    | addRadio p =>
      obtain rfl := Option.some.inj ha
      exact addRadio_of_mem hm
    | addRadioText t =>
      simp only [Step.added?] at ha
      split at ha
      · next p hp =>
        obtain rfl := Option.some.inj ha
        simp only [step, hp, addRadio_of_mem hm]
      · cases ha
    | _ => cases ha
  | unreadable hp => simp only [step, hp]
  | noSuchRadio hc hn =>
    cases s with
    | setCountry g c =>
      obtain rfl := Option.some.inj hc
      exact changeRadio_of_notMem hn _
    | setCapabilities g c =>
      obtain rfl := Option.some.inj hc
      exact changeRadio_of_notMem hn _
    | _ => cases hc

theorem Refusal.isRefused (hr : Refusal d s o) : o.isRefused = true := by
  cases hr <;> rfl

theorem Refusal.of_added (hr : Refusal d s o) (ha : s.added? = some h) :
    o = .duplicateHandle h ∧ h ∈ d.handles := by
  cases hr with
  | handleTaken ha' hm =>
    obtain rfl := Option.some.inj (ha'.symm.trans ha)
    exact ⟨rfl, hm⟩
  | unreadable hp => simp [Step.added?, hp] at ha
  | noSuchRadio hc _ => cases s <;> simp [Step.added?, Step.changed?] at ha hc

theorem refusal_iff : Refusal d s o ↔ (d.step s).2 = o ∧ o.isRefused = true := by
  constructor
  · intro hr
    exact ⟨congrArg Prod.snd (step_of_refusal hr), hr.isRefused⟩
  · rintro ⟨rfl, ho⟩
    have ha := answer_step d s
    generalize d.step s = x at ha ho
    cases ha with
    | added _ _ _ => cases ho
    | set _ _ => cases ho
    | refused hr => exact hr

theorem step_of_isRefused (ho : (d.step s).2.isRefused = true) : (d.step s).1 = d :=
  congrArg Prod.fst (step_of_refusal (refusal_iff.2 ⟨rfl, ho⟩))

theorem accepted_cons (d : Device) (s : Step) (ss : List Step) : d.accepted (s :: ss) =
    if (d.step s).2.isRefused then d.accepted ss else s :: (d.step s).1.accepted ss := by
  rw [Device.accepted, trace_cons]
  cases ho : (d.step s).2.isRefused with
  | true =>
    rw [List.filter_cons_of_neg (by simp [ho]), step_of_isRefused ho]
    rfl
  | false =>
    rw [List.filter_cons_of_pos (by simp [ho])]
    rfl

/-- Without the steps that are refused a run ends the same, and so does every other step of it. -/
theorem run_accepted (d : Device) (ss : List Step) : (d.run (d.accepted ss)).1 = (d.run ss).1 ∧
    d.trace (d.accepted ss) = (d.trace ss).filter fun e => !e.2.isRefused := by
  induction ss generalizing d with
  | nil => exact ⟨rfl, rfl⟩
  | cons s ss ih =>
    obtain ⟨hr, ht⟩ := ih (d.step s).1
    rw [accepted_cons, run_cons, trace_cons]
    cases ho : (d.step s).2.isRefused with
    | true =>
      rw [step_of_isRefused ho] at hr ht ⊢
      rw [List.filter_cons_of_neg (by simp [ho])]
      exact ⟨hr, ht⟩
    | false =>
      rw [List.filter_cons_of_pos (by simp [ho])]
      exact ⟨hr, congrArg _ ht⟩

theorem mem_handles_step : h ∈ (d.step s).1.handles ↔
    h ∈ d.handles ∨ s.added? = some h ∧ (d.step s).2.isRefused = false := by
  have ha := answer_step d s
  generalize d.step s = x at ha
  cases ha with
  | added ha hn hd => simp [hd, ha, Outcome.isRefused, eq_comm]
  | set ha hd => simp [hd, ha]
  | refused hr => simp [hr.isRefused]

/-- A handle of a device was there before the run, or a step of it has added a radio with it. -/
theorem mem_handles_run : h ∈ (d.run ss).1.handles ↔
    h ∈ d.handles ∨ ∃ e ∈ d.trace ss, e.1.added? = some h ∧ e.2.isRefused = false := by
  induction ss generalizing d with
  | nil => simp [run, trace]
  | cons s ss ih =>
    rw [run_cons, ih, mem_handles_step, trace_cons]
    simp only [List.exists_mem_cons_iff, or_assoc]

/-- To add a radio is refused for its handle alone. -/
theorem outcome_of_added (ha : s.added? = some h) :
    ((d.step s).2 = .duplicateHandle h ↔ h ∈ d.handles) ∧
    ((d.step s).2 = .added h ↔ h ∉ d.handles) := by
  have hd := answer_step d s
  generalize d.step s = x at hd
  cases hd with
  | added ha' hn _ =>
    obtain rfl := Option.some.inj (ha'.symm.trans ha)
    simp [hn]
  | set ha' _ => simp [ha] at ha'
  | refused hr =>
    obtain ⟨rfl, hm⟩ := hr.of_added ha
    simp [hm]

theorem handles_of_load {p : DevicePlan} (hv : (load p).value = .ok d) :
    d.handles = p.handles.map Handle.mk := by
  obtain ⟨_, rfl⟩ := eq_device_of_load hv
  exact map_handle_ofPlan p.radios

theorem handles_of_configured (hc : d.Configured names) : d.handles = names.map Handle.mk := by
  cases hc with
  | empty => rfl
  | load hv => exact handles_of_load hv
  | loadText hp hv => exact handles_of_load ((value_loadText hp).symm.trans hv)

theorem of_getElem?_trace (hk : (d.trace ss)[k]? = some (s, o)) : ∃ before,
    (d.trace ss).take k = d.trace before ∧ ((d.run before).1.step s).2 = o := by
  induction ss generalizing d k with
  | nil => simp [trace] at hk
  | cons t ss ih =>
    rw [trace_cons] at hk ⊢
    cases k with
    | zero =>
      obtain ⟨rfl, rfl⟩ := Prod.mk.inj (Option.some.inj hk)
      exact ⟨[], rfl, rfl⟩
    | succ k =>
      obtain ⟨before, ht, ho⟩ := ih hk
      exact ⟨t :: before, congrArg _ ht, ho⟩

/-- A step is refused for one of the reasons there are, and leaves the device as it is. A run may do
without its refused steps. To add a radio is refused if and only if its handle was configured, or a
step before has added it. -/
theorem refused_withoutTrace :
    (∀ (d : Device) s o, Refusal d s o ↔ (d.step s).2 = o ∧ o.isRefused = true) ∧
    (∀ (d : Device) s, (d.step s).2.isRefused = true → (d.step s).1 = d) ∧
    (∀ (d : Device) ss, (d.run (d.accepted ss)).1 = (d.run ss).1 ∧
      d.trace (d.accepted ss) = (d.trace ss).filter fun e => !e.2.isRefused) ∧
    ∀ names d, Device.Configured names d → ∀ ss k s o h,
      (d.trace ss)[k]? = some (s, o) → s.added? = some h →
        (o = .duplicateHandle h ↔ h.id ∈ names ∨
          ∃ e ∈ (d.trace ss).take k, e.1.added? = some h ∧ e.2.isRefused = false) ∧
        (o = .duplicateHandle h ∨ o = .added h) := by
  refine ⟨fun d s o => refusal_iff, fun d s => step_of_isRefused, run_accepted, ?_⟩
  intro names d hc ss k s o h hk ha
  obtain ⟨before, ht, rfl⟩ := of_getElem?_trace hk
  obtain ⟨hdup, hadd⟩ := outcome_of_added (d := (d.run before).1) ha
  have hm : h ∈ d.handles ↔ h.id ∈ names := by
    rw [handles_of_configured hc]
    exact List.mem_map_of_injective handle_mk_injective (a := h.id)
  rw [ht, hdup, hadd, mem_handles_run, hm]
  exact ⟨Iff.rfl, Classical.em _⟩

/-- Four of the six steps are refused. -/
def crowdedSteps : List Step :=
  [.addRadio (.ordinary "sim1" 7 "ca"), .addRadioText "\x7b", .setCountry ⟨"sim3"⟩ (some "us"),
    .addRadioText "\x7b\"handle\":\"sim3\"\x7d", .addRadio (.ordinary "sim3" 2 "us"),
    .setCountry ⟨"sim3"⟩ (some "us")]

theorem crowdedSteps_withoutTrace :
    sharedPlan.device.trace crowdedSteps =
      crowdedSteps.zip [.duplicateHandle ⟨"sim1"⟩, .unreadable .malformed, .noSuchRadio,
        .added ⟨"sim3"⟩, .duplicateHandle ⟨"sim3"⟩, .done] ∧
    (sharedPlan.device.step (.addRadio (.ordinary "sim1" 7 "ca"))).1 = sharedPlan.device ∧
    sharedPlan.device.accepted crowdedSteps =
      [.addRadioText "\x7b\"handle\":\"sim3\"\x7d", .setCountry ⟨"sim3"⟩ (some "us")] ∧
    (sharedPlan.device.run (sharedPlan.device.accepted crowdedSteps)).1 =
      (sharedPlan.device.run crowdedSteps).1 ∧
    (sharedPlan.device.run crowdedSteps).1 =
      { radios :=
          [⟨⟨"sim0"⟩, ⟨1⟩, .ordinary, none, true, true⟩,
            ⟨⟨"sim1"⟩, ⟨1⟩, .ordinary, some "us", true, true⟩,
            ⟨⟨"sim2"⟩, ⟨-1⟩, .ordinary, none, false, false⟩,
            ⟨⟨"sim3"⟩, ⟨-1⟩, .ordinary, some "us", true, true⟩]
        defaultRadio := some ⟨"sim1"⟩ } ∧
    sharedPlan.device.Configured ["sim0", "sim1", "sim2"] ∧
    ∃ e ∈ (sharedPlan.device.trace crowdedSteps).take 4,
      e.1.added? = some ⟨"sim3"⟩ ∧ e.2.isRefused = false := by
  obtain ⟨hf, hs, hr, hd⟩ := refused_withoutTrace
  have hbad : RadioPlan.codec.parse "\x7b" = .error .malformed := by cbv
  have hgood : RadioPlan.codec.parse "\x7b\"handle\":\"sim3\"\x7d" = .ok { handle := "sim3" } := by
    cbv
  have ht : sharedPlan.device.trace crowdedSteps =
      crowdedSteps.zip [.duplicateHandle ⟨"sim1"⟩, .unreadable .malformed, .noSuchRadio,
        .added ⟨"sim3"⟩, .duplicateHandle ⟨"sim3"⟩, .done] := by
    simp only [crowdedSteps, trace_cons, step, hbad, hgood]
    rfl
  have hv : (load sharedPlan).value = .ok sharedPlan.device := by cbv
  have hc : sharedPlan.device.Configured ["sim0", "sim1", "sim2"] := .load hv
  have htaken : Refusal sharedPlan.device (.addRadio (.ordinary "sim1" 7 "ca"))
      (.duplicateHandle ⟨"sim1"⟩) := .handleTaken rfl (by decide)
  have haccepted : sharedPlan.device.accepted crowdedSteps =
      [.addRadioText "\x7b\"handle\":\"sim3\"\x7d", .setCountry ⟨"sim3"⟩ (some "us")] := by
    rw [Device.accepted, ht]
    rfl
  obtain ⟨hstep, href⟩ := (hf _ _ _).1 htaken
  rw [← hstep] at href
  refine ⟨ht, hs _ _ href, haccepted, (hr _ _).1, ?_, hc, ?_⟩
  · rw [← (hr _ _).1, haccepted]
    simp only [run, step, hgood]
    rfl
  · have hk : (sharedPlan.device.trace crowdedSteps)[4]? =
        some (.addRadio (.ordinary "sim3" 2 "us"), .duplicateHandle ⟨"sim3"⟩) := by
      rw [ht]
      rfl
    exact ((hd _ _ hc _ 4 _ _ ⟨"sim3"⟩ hk rfl).1.1 rfl).resolve_left (by decide)

end EmergencyDial

import EmergencyDial.Proofs.Device.Run

/-! Steps that may change places without any difference to a run. -/
namespace EmergencyDial
open Json

namespace Step

inductive Kind
  | radio
  | count
  | defaultRadio
  | numbers
  | unavailable
  | country
  | capabilities
deriving DecidableEq

def kind : Step → Kind
  | .addRadio _ | .addRadioText _ => .radio
  | .setCount _ => .count
  | .setDefault _ => .defaultRadio
  | .setNumbers _ _ => .numbers
  | .setUnavailable _ => .unavailable
  | .setCountry _ _ => .country
  | .setCapabilities _ _ => .capabilities

/-- The handle that a step is to add. A text that cannot be read has none. -/
def added? : Step → Option Handle
  | .addRadio p => some ⟨p.handle⟩
  | .addRadioText s =>
    match RadioPlan.codec.parse s with
    | .ok p => some ⟨p.handle⟩
    | .error _ => none
  | _ => none

/-- The handle of the radio that a step is to change. -/
def changed? : Step → Option Handle
  | .setCountry h _ | .setCapabilities h _ => some h
  | _ => none

/-- Neither step has anything to do with the other. -/
inductive Independent : Step → Step → Prop
  | kinds {s t : Step} (hk : s.kind ≠ t.kind)
    (hst : ∀ h, s.added? = some h → t.changed? ≠ some h)
    (hts : ∀ h, t.added? = some h → s.changed? ≠ some h) : Independent s t
  | numbers {i j : SubscriptionId} {ns ms : Option (List EmergencyNumber)} (hne : i ≠ j) :
    Independent (.setNumbers i ns) (.setNumbers j ms)
  | country {h g : Handle} {c c' : Option String} (hne : h ≠ g) :
    Independent (.setCountry h c) (.setCountry g c')
  | capabilities {h g : Handle} {c c' : Capabilities} (hne : h ≠ g) :
    Independent (.setCapabilities h c) (.setCapabilities g c')

/-- The second step sets what the first has set. -/
inductive Overwritten : Step → Step → Prop
  | count (m n : UInt64) : Overwritten (.setCount m) (.setCount n)
  | defaultRadio (h g : Option Handle) : Overwritten (.setDefault h) (.setDefault g)
  | numbers (i : SubscriptionId) (ns ms : Option (List EmergencyNumber)) :
    Overwritten (.setNumbers i ns) (.setNumbers i ms)
  | unavailable (b c : Bool) : Overwritten (.setUnavailable b) (.setUnavailable c)
  | country (h : Handle) (c c' : Option String) : Overwritten (.setCountry h c) (.setCountry h c')
  | capabilities (h : Handle) (c c' : Capabilities) :
    Overwritten (.setCapabilities h c) (.setCapabilities h c')

end Step

/-- Runs that differ only in that neighbours which are independent have changed places. -/
inductive Reordered : List Step → List Step → Prop
  | refl (ss : List Step) : Reordered ss ss
  | swap (before after : List Step) {s t : Step} (hi : s.Independent t) :
    Reordered (before ++ s :: t :: after) (before ++ t :: s :: after)
  | trans {ss ts us : List Step} (h₁ : Reordered ss ts) (h₂ : Reordered ts us) : Reordered ss us

/-- The steps, each with what came of it. -/
def Device.trace (d : Device) (ss : List Step) : List (Step × Outcome) := ss.zip (d.run ss).2

/-- What a step does to a list of radios, and what comes of it. -/
abbrev RadioAct := List Radio → List Radio × Outcome

namespace RadioAct

def keep (o : Outcome) : RadioAct := fun rs => (rs, o)

def add (p : RadioPlan) : RadioAct := fun rs =>
  if ⟨p.handle⟩ ∈ rs.map Radio.handle then (rs, .duplicateHandle ⟨p.handle⟩)
  else (rs ++ [.ofPlan p], .added ⟨p.handle⟩)

def change (h : Handle) (f : Radio → Radio) : RadioAct := fun rs =>
  (Device.changeFirst (fun r => r.handle = h) f rs,
    if h ∈ rs.map Radio.handle then .done else .noSuchRadio)

/-- In either order the radios come out the same, and of each act comes what would come of it alone. -/
def Commute (a b : RadioAct) : Prop :=
  ∀ rs, (b (a rs).1).1 = (a (b rs).1).1 ∧ (b (a rs).1).2 = (b rs).2 ∧ (a (b rs).1).2 = (a rs).2

end RadioAct

namespace Step

def onRadios : Step → RadioAct
  | .addRadio p => .add p
  | .addRadioText s =>
    match RadioPlan.codec.parse s with
    | .ok p => .add p
    | .error e => .keep (.unreadable e)
  | .setCountry h c => .change h (Radio.setCountry c)
  | .setCapabilities h c => .change h (Radio.setCapabilities c)
  | _ => .keep .done

/-- What a step does to a device apart from its radios. -/
def onSettings (d : Device) : Step → Device
  | .setCount n => { d with count := some n }
  | .setDefault h => { d with defaultRadio := h }
  | .setNumbers i ns => { d with numbers := d.numbers.insert i ns }
  | .setUnavailable b => { d with unavailable := b }
  | _ => d

end Step

variable {d : Device} {s t : Step} {ss ts : List Step} {h g : Handle} {p : RadioPlan} {r : Radio}
  {f k : Radio → Radio} {rs : List Radio} {a b : RadioAct} {o : Outcome}

theorem addRadio_eq (d : Device) (p : RadioPlan) : d.addRadio p =
    ({ d with radios := (RadioAct.add p d.radios).1 }, (RadioAct.add p d.radios).2) := by
  simp only [RadioAct.add]
  rcases addRadio_cases d p with ⟨hn, he⟩ | ⟨hm, he⟩
  · rw [if_neg (by exact hn), he]
  · rw [if_pos (by exact hm), he]

/-- A change of a radio that is not there needs no check. -/
theorem changeFirst_of_notMem (hn : h ∉ rs.map Radio.handle) (f : Radio → Radio) :
    Device.changeFirst (fun r => r.handle = h) f rs = rs := by
  induction rs with
  | nil => rfl
  | cons r rs ih =>
    rw [List.map_cons, List.mem_cons, not_or] at hn
    simp [Device.changeFirst, Ne.symm hn.1, ih hn.2]

theorem changeRadio_eq (d : Device) (h : Handle) (f : Radio → Radio) : d.changeRadio h f =
    ({ d with radios := (RadioAct.change h f d.radios).1 }, (RadioAct.change h f d.radios).2) := by
  simp only [RadioAct.change]
  rcases changeRadio_cases d h f with ⟨hm, he⟩ | ⟨hn, he⟩
  · rw [if_pos (by exact hm), he]
  · rw [if_neg (by exact hn), changeFirst_of_notMem hn, he]

/-- A step does one thing to the radios and another to the rest. Its outcome is up to the radios. -/
theorem step_eq (d : Device) (s : Step) : d.step s =
    ({ s.onSettings d with radios := (s.onRadios d.radios).1 }, (s.onRadios d.radios).2) := by
  cases s with
  | addRadio p => exact addRadio_eq d p
  | addRadioText t =>
    simp only [Device.step, Step.onRadios]
    cases RadioPlan.codec.parse t with
    | ok p => exact addRadio_eq d p
    | error e => rfl
  | setCount n => rfl
  | setDefault h => rfl
  | setNumbers i ns => rfl
  | setUnavailable b => rfl
  | setCountry h c => exact changeRadio_eq d h _
  | setCapabilities h c => exact changeRadio_eq d h _

/-- What a step does to the settings has nothing to do with the radios. -/
theorem onSettings_radios (s : Step) (d : Device) (rs : List Radio) :
    s.onSettings { d with radios := rs } = { s.onSettings d with radios := rs } := by
  cases s <;> rfl

theorem step_step (d : Device) (s t : Step) : ((d.step s).1.step t).1 =
    { t.onSettings (s.onSettings d) with radios := (t.onRadios (s.onRadios d.radios).1).1 } := by
  rw [step_eq, step_eq, onSettings_radios]

theorem onSettings_comm (hi : s.Independent t) (d : Device) :
    t.onSettings (s.onSettings d) = s.onSettings (t.onSettings d) := by
  cases hi with
  | kinds hk _ _ => cases s <;> cases t <;> first | rfl | exact absurd rfl hk
  | numbers hne => simp only [Step.onSettings, ById.insert_comm _ hne]
  | country _ => rfl
  | capabilities _ => rfl

theorem onSettings_overwritten (ho : s.Overwritten t) (d : Device) :
    t.onSettings (s.onSettings d) = t.onSettings d := by
  cases ho with
  | numbers i ns ms => simp only [Step.onSettings, ById.insert_insert]
  | _ => rfl

theorem changeFirst_cons_of_eq (he : r.handle = h) (f : Radio → Radio) (rs : List Radio) :
    Device.changeFirst (fun r => r.handle = h) f (r :: rs) = f r :: rs := by
  simp [Device.changeFirst, he]

theorem changeFirst_cons_of_ne (hne : r.handle ≠ h) (f : Radio → Radio) (rs : List Radio) :
    Device.changeFirst (fun r => r.handle = h) f (r :: rs) =
      r :: Device.changeFirst (fun r => r.handle = h) f rs := by
  simp [Device.changeFirst, hne]

theorem changeFirst_append (hne : r.handle ≠ h) (f : Radio → Radio) (rs : List Radio) :
    Device.changeFirst (fun r => r.handle = h) f (rs ++ [r]) =
      Device.changeFirst (fun r => r.handle = h) f rs ++ [r] := by
  induction rs with
  | nil => exact changeFirst_cons_of_ne hne f []
  | cons r' rs ih =>
    rw [List.cons_append]
    by_cases he : r'.handle = h
    · rw [changeFirst_cons_of_eq he, changeFirst_cons_of_eq he, List.cons_append]
    · rw [changeFirst_cons_of_ne he, changeFirst_cons_of_ne he, ih, List.cons_append]

/-- Changes of two radios, or of one in ways that do not interfere. -/
theorem changeFirst_comm (hf : ∀ r, (f r).handle = r.handle) (hk : ∀ r, (k r).handle = r.handle)
    (hfk : h = g → ∀ r, f (k r) = k (f r)) (rs : List Radio) :
    Device.changeFirst (fun r => r.handle = h) f (Device.changeFirst (fun r => r.handle = g) k rs) =
      Device.changeFirst (fun r => r.handle = g) k
        (Device.changeFirst (fun r => r.handle = h) f rs) := by
  induction rs with
  | nil => rfl
  | cons r rs ih =>
    by_cases hh : r.handle = h
    · have hh' : (k r).handle = h := (hk r).trans hh
      by_cases hg : r.handle = g
      · have hg' : (f r).handle = g := (hf r).trans hg
        rw [changeFirst_cons_of_eq hg, changeFirst_cons_of_eq hh', changeFirst_cons_of_eq hh,
          changeFirst_cons_of_eq hg', hfk (hh.symm.trans hg)]
      · have hg' : (f r).handle ≠ g := fun he => hg ((hf r).symm.trans he)
        rw [changeFirst_cons_of_ne hg, changeFirst_cons_of_eq hh, changeFirst_cons_of_eq hh,
          changeFirst_cons_of_ne hg']
    · have hh' : (k r).handle ≠ h := fun he => hh ((hk r).symm.trans he)
      by_cases hg : r.handle = g
      · rw [changeFirst_cons_of_eq hg, changeFirst_cons_of_ne hh', changeFirst_cons_of_ne hh,
          changeFirst_cons_of_eq hg]
      · rw [changeFirst_cons_of_ne hg, changeFirst_cons_of_ne hh, ih, changeFirst_cons_of_ne hh,
          changeFirst_cons_of_ne hg]

theorem changeFirst_changeFirst (hk : ∀ r, (k r).handle = r.handle) (hfk : ∀ r, f (k r) = f r)
    (rs : List Radio) :
    Device.changeFirst (fun r => r.handle = h) f (Device.changeFirst (fun r => r.handle = h) k rs) =
      Device.changeFirst (fun r => r.handle = h) f rs := by
  induction rs with
  | nil => rfl
  | cons r rs ih =>
    by_cases hh : r.handle = h
    · have hh' : (k r).handle = h := (hk r).trans hh
      rw [changeFirst_cons_of_eq hh, changeFirst_cons_of_eq hh', changeFirst_cons_of_eq hh, hfk]
    · rw [changeFirst_cons_of_ne hh, changeFirst_cons_of_ne hh, changeFirst_cons_of_ne hh, ih]

namespace RadioAct

theorem Commute.symm (hc : Commute a b) : Commute b a := by
  intro rs
  obtain ⟨h₁, h₂, h₃⟩ := hc rs
  exact ⟨h₁.symm, h₃, h₂⟩

theorem commute_keep (o : Outcome) (b : RadioAct) : Commute (keep o) b := fun _ => ⟨rfl, rfl, rfl⟩

theorem mem_handles_add (hne : h ≠ ⟨p.handle⟩) (rs : List Radio) :
    h ∈ (add p rs).1.map Radio.handle ↔ h ∈ rs.map Radio.handle := by
  unfold add
  split
  · rfl
  · simp [hne]

/-- A new radio comes behind the one that is changed, whose handle it does not have. -/
theorem commute_add_change (hf : ∀ r, (f r).handle = r.handle) (hne : h ≠ ⟨p.handle⟩) :
    Commute (add p) (change h f) := by
  intro rs
  refine ⟨?_, ?_, ?_⟩
  · simp only [add, change, map_changeFirst hf]
    split
    · rfl
    · exact changeFirst_append (Ne.symm hne) f rs
  · simp only [change, mem_handles_add hne]
  · simp only [add, change, map_changeFirst hf]
    split <;> rfl

theorem commute_change (hf : ∀ r, (f r).handle = r.handle) (hk : ∀ r, (k r).handle = r.handle)
    (hfk : h = g → ∀ r, f (k r) = k (f r)) : Commute (change h f) (change g k) := by
  intro rs
  refine ⟨(changeFirst_comm hf hk hfk rs).symm, ?_, ?_⟩
  · simp only [change, map_changeFirst hf]
  · simp only [change, map_changeFirst hk]

end RadioAct

theorem onRadios_cases (s : Step) : (∃ o, s.onRadios = .keep o) ∨
    (∃ p, s.kind = .radio ∧ s.added? = some ⟨p.handle⟩ ∧ s.onRadios = .add p) ∨
    (∃ h c, s = .setCountry h c) ∨ ∃ h c, s = .setCapabilities h c := by
  cases s with
  | addRadio p => exact .inr (.inl ⟨p, rfl, rfl, rfl⟩)
  | addRadioText t =>
    simp only [Step.onRadios, Step.added?]
    cases RadioPlan.codec.parse t with
    | ok p => exact .inr (.inl ⟨p, rfl, rfl, rfl⟩)
    | error e => exact .inl ⟨_, rfl⟩
  | setCount n => exact .inl ⟨_, rfl⟩
  | setDefault h => exact .inl ⟨_, rfl⟩
  | setNumbers i ns => exact .inl ⟨_, rfl⟩
  | setUnavailable b => exact .inl ⟨_, rfl⟩
  | setCountry h c => exact .inr (.inr (.inl ⟨h, c, rfl⟩))
  | setCapabilities h c => exact .inr (.inr (.inr ⟨h, c, rfl⟩))

theorem commute_of_added (ha : s.added? = some ⟨p.handle⟩) (he : s.onRadios = .add p)
    (hk : t.kind ≠ .radio) (hst : ∀ h, s.added? = some h → t.changed? ≠ some h) :
    s.onRadios.Commute t.onRadios := by
  rw [he]
  rcases onRadios_cases t with ⟨o, ht⟩ | ⟨_, ht, _⟩ | ⟨h, c, rfl⟩ | ⟨h, c, rfl⟩
  · rw [ht]
    exact (RadioAct.commute_keep o _).symm
  · exact absurd ht hk
  · exact RadioAct.commute_add_change (fun _ => rfl) fun e => hst _ ha (congrArg some e)
  · exact RadioAct.commute_add_change (fun _ => rfl) fun e => hst _ ha (congrArg some e)

theorem commute_of_kinds (hk : s.kind ≠ t.kind)
    (hst : ∀ h, s.added? = some h → t.changed? ≠ some h)
    (hts : ∀ h, t.added? = some h → s.changed? ≠ some h) : s.onRadios.Commute t.onRadios := by
  rcases onRadios_cases s with ⟨o, hs⟩ | ⟨p, hs, ha, he⟩ | ⟨h, c, rfl⟩ | ⟨h, c, rfl⟩
  · rw [hs]
    exact RadioAct.commute_keep o _
  · exact commute_of_added ha he (fun ht => hk (hs.trans ht.symm)) hst
  · rcases onRadios_cases t with ⟨o, ht⟩ | ⟨p, ht, ha, he⟩ | ⟨g, c', rfl⟩ | ⟨g, c', rfl⟩
    · rw [ht]
      exact (RadioAct.commute_keep o _).symm
    · exact (commute_of_added ha he (fun hs => hk (hs.trans ht.symm)) hts).symm
    · exact absurd rfl hk
    · exact RadioAct.commute_change (fun _ => rfl) (fun _ => rfl) fun _ _ => rfl
  · rcases onRadios_cases t with ⟨o, ht⟩ | ⟨p, ht, ha, he⟩ | ⟨g, c', rfl⟩ | ⟨g, c', rfl⟩
    · rw [ht]
      exact (RadioAct.commute_keep o _).symm
    · exact (commute_of_added ha he (fun hs => hk (hs.trans ht.symm)) hts).symm
    · exact RadioAct.commute_change (fun _ => rfl) (fun _ => rfl) fun _ _ => rfl
    · exact absurd rfl hk

theorem onRadios_commute (hi : s.Independent t) : s.onRadios.Commute t.onRadios := by
  cases hi with
  | kinds hk hst hts => exact commute_of_kinds hk hst hts
  | numbers _ => exact RadioAct.commute_keep .done _
  | country hne => exact RadioAct.commute_change (fun _ => rfl) (fun _ => rfl) fun he => absurd he hne
  | capabilities hne =>
    exact RadioAct.commute_change (fun _ => rfl) (fun _ => rfl) fun he => absurd he hne

theorem onRadios_overwritten (ho : s.Overwritten t) (rs : List Radio) :
    (t.onRadios (s.onRadios rs).1).1 = (t.onRadios rs).1 := by
  cases ho with
  | country h c c' =>
    exact changeFirst_changeFirst (f := Radio.setCountry c') (k := Radio.setCountry c)
      (fun _ => rfl) (fun _ => rfl) rs
  | capabilities h c c' =>
    exact changeFirst_changeFirst (f := Radio.setCapabilities c') (k := Radio.setCapabilities c)
      (fun _ => rfl) (fun _ => rfl) rs
  | _ => rfl

theorem step_overwritten (ho : s.Overwritten t) (d : Device) :
    ((d.step s).1.step t).1 = (d.step t).1 := by
  rw [step_step, step_eq, onSettings_overwritten ho, onRadios_overwritten ho]

theorem step_comm (hi : s.Independent t) (d : Device) :
    ((d.step s).1.step t).1 = ((d.step t).1.step s).1 := by
  rw [step_step, step_step, onSettings_comm hi, (onRadios_commute hi d.radios).1]

theorem outcome_of_independent (hi : s.Independent t) (d : Device) :
    ((d.step s).1.step t).2 = (d.step t).2 := by
  rw [step_eq, step_eq, step_eq]
  exact (onRadios_commute hi d.radios).2.1

theorem Step.Independent.symm (hi : s.Independent t) : t.Independent s := by
  cases hi with
  | kinds hk hst hts => exact .kinds hk.symm hts hst
  | numbers hne => exact .numbers hne.symm
  | country hne => exact .country hne.symm
  | capabilities hne => exact .capabilities hne.symm

theorem Step.Independent.ne (hi : s.Independent t) : s ≠ t := by
  rintro rfl
  cases hi with
  | kinds hk _ _ => exact hk rfl
  | numbers hne => exact hne rfl
  | country hne => exact hne rfl
  | capabilities hne => exact hne rfl

theorem trace_cons (d : Device) (s : Step) (ss : List Step) :
    d.trace (s :: ss) = (s, (d.step s).2) :: (d.step s).1.trace ss := rfl

theorem trace_append (d : Device) (ss ts : List Step) :
    d.trace (ss ++ ts) = d.trace ss ++ (d.run ss).1.trace ts := by
  induction ss generalizing d with
  | nil => rfl
  | cons s ss ih =>
    rw [List.cons_append, trace_cons, trace_cons, ih, List.cons_append]
    rfl

/-- Neighbours with different names may change places where only those with one name are looked at. -/
theorem filter_swap {α β : Type} [DecidableEq α] {x y : α × β} (hne : x.1 ≠ y.1) (l : List (α × β))
    (a : α) : (x :: y :: l).filter (·.1 = a) = (y :: x :: l).filter (·.1 = a) := by
  by_cases hx : x.1 = a
  · have hy : y.1 ≠ a := fun hy => hne (hx.trans hy.symm)
    simp [hx, hy]
  · simp [List.filter_cons, hx]

theorem run_swap (hi : s.Independent t) (d : Device) (before after : List Step) :
    (d.run (before ++ s :: t :: after)).1 = (d.run (before ++ t :: s :: after)).1 := by
  simp only [run_append, run_cons, step_comm hi]

theorem trace_swap (hi : s.Independent t) (d : Device) (before after : List Step) (u : Step) :
    (d.trace (before ++ s :: t :: after)).filter (·.1 = u) =
      (d.trace (before ++ t :: s :: after)).filter (·.1 = u) := by
  rw [trace_append, trace_append, List.filter_append, List.filter_append]
  congr 1
  simp only [trace_cons, step_comm hi, outcome_of_independent hi, outcome_of_independent hi.symm]
  -- equal steps are not independent, so that no step overtakes another of its own kind and content
  exact filter_swap hi.ne _ u

/-- Independent steps may change places: the device comes out the same, and so does every outcome. Of
two steps in a row that set the same thing, the first makes no difference to the device. -/
theorem run_reordered (d : Device) :
    (∀ ss ts : List Step, Reordered ss ts → (d.run ss).1 = (d.run ts).1 ∧
      ∀ s, (d.trace ss).filter (·.1 = s) = (d.trace ts).filter (·.1 = s)) ∧
    ∀ s t : Step, s.Overwritten t → ∀ before after : List Step,
      (d.run (before ++ s :: t :: after)).1 = (d.run (before ++ t :: after)).1 := by
  constructor
  · intro ss ts hr
    induction hr with
    | refl ss => exact ⟨rfl, fun _ => rfl⟩
    | swap before after hi => exact ⟨run_swap hi d before after, trace_swap hi d before after⟩
    | trans _ _ ih₁ ih₂ => exact ⟨ih₁.1.trans ih₂.1, fun s => (ih₁.2 s).trans (ih₂.2 s)⟩
  · intro s t ho before after
    simp only [run_append, run_cons, step_overwritten ho]

/-- A handle is added twice. Between, a radio is changed that is there, and one that is not. -/
def twiceAdded : List Step :=
  [.addRadio (.ordinary "sim-0" 1 "us"), .setCountry ⟨"sim-1"⟩ (some "gb"),
    .setCountry ⟨"sim-0"⟩ none, .setCapabilities ⟨"sim-0"⟩ .callProvider,
    .addRadio (.ordinary "sim-0" 2 "fr")]

def changedFirst : List Step :=
  [.setCountry ⟨"sim-1"⟩ (some "gb"), .addRadio (.ordinary "sim-0" 1 "us"),
    .setCapabilities ⟨"sim-0"⟩ .callProvider, .setCountry ⟨"sim-0"⟩ none,
    .addRadio (.ordinary "sim-0" 2 "fr")]

theorem reordered_twiceAdded : Reordered twiceAdded changedFirst := by
  have hadd : (Step.addRadio (.ordinary "sim-0" 1 "us")).Independent
      (.setCountry ⟨"sim-1"⟩ (some "gb")) := by
    refine .kinds (by decide) ?_ (by simp [Step.added?])
    simp [Step.added?, Step.changed?, RadioPlan.ordinary]
  have hchange : (Step.setCountry ⟨"sim-0"⟩ none).Independent
      (.setCapabilities ⟨"sim-0"⟩ .callProvider) :=
    .kinds (by decide) (by simp [Step.added?]) (by simp [Step.added?])
  exact .trans (.swap [] _ hadd)
    (.swap [.setCountry ⟨"sim-1"⟩ (some "gb"), .addRadio (.ordinary "sim-0" 1 "us")] _ hchange)

theorem twiceAdded_changedFirst : Reordered twiceAdded changedFirst ∧
    (Device.empty.run twiceAdded).2 =
      [.added ⟨"sim-0"⟩, .noSuchRadio, .done, .done, .duplicateHandle ⟨"sim-0"⟩] ∧
    (Device.empty.run twiceAdded).1 =
      { radios := [⟨⟨"sim-0"⟩, ⟨1⟩, .callProvider, none, true, true⟩] } ∧
    (Device.empty.run twiceAdded).1 = (Device.empty.run changedFirst).1 ∧
    (∀ s, (Device.empty.trace twiceAdded).filter (·.1 = s) =
      (Device.empty.trace changedFirst).filter (·.1 = s)) ∧
    Step.Overwritten (.setCount 1) (.setCount 2) ∧
    (Device.empty.run ([] ++ .setCount 1 :: .setCount 2 :: twiceAdded)).1 =
      (Device.empty.run ([] ++ .setCount 2 :: twiceAdded)).1 := by
  obtain ⟨hd, ho⟩ := (run_reordered .empty).1 _ _ reordered_twiceAdded
  have hs := (run_reordered .empty).2 _ _ (.count 1 2) [] twiceAdded
  exact ⟨reordered_twiceAdded, rfl, rfl, hd, ho, .count 1 2, hs⟩

end EmergencyDial

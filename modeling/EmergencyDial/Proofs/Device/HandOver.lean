import EmergencyDial.Proofs.Device.Confinement
import EmergencyDial.Proofs.Selection.LineUp

/-! Hand-over from radio to radio, until none is left. -/
namespace EmergencyDial

/-- The radio may place no more emergency calls; the other bits stay. -/
def Device.revoke (d : Device) (r : Radio) : Device :=
  (d.step (.setCapabilities r.handle (r.capabilities.diff Capabilities.placeEmergencyCalls))).1

/-- Round after round the radio that is selected is revoked. It ends with the error of a round in which
none is selected. -/
inductive HandOver (sel : Selector) : Device → List Selection → SelectionError → Prop
  | ends {d : Device} {e : SelectionError} (hp : (sel.tryPick d.platform).value = .error e) :
    HandOver sel d [] e
  | next {d : Device} {x : Selection} {h : Handle} {r : Radio} {xs : List Selection}
      {e : SelectionError} (hp : (sel.tryPick d.platform).value = .ok x)
      (hh : x.snapshot.handle = some h) (hr : d.radio? h = some r)
      (rest : HandOver sel (d.revoke r) xs e) : HandOver sel d (x :: xs) e

variable {d : Device} {sel : Selector} {h g : Handle} {r : Radio} {x : Selection}
  {xs xs' : List Selection} {e e' : SelectionError}

theorem canPlaceEmergencyCalls_diff (h : Handle) (c : Capabilities) :
    Account.canPlaceEmergencyCalls ⟨h, c.diff Capabilities.placeEmergencyCalls⟩ = false := by
  have hb : c.bits &&& ~~~(0x10 : UInt32) &&& 0x10 = 0 := by
    rw [UInt32.and_assoc]
    simp
  simp [Account.canPlaceEmergencyCalls, FlagSet.contains, FlagSet.diff,
    Capabilities.placeEmergencyCalls, hb]

theorem revoke_eq (ho : Orderly d.radios) (r : Radio) : d.revoke r = d.mapRadios
    (Radio.adjustAt r.handle
      (.setCapabilities (r.capabilities.diff Capabilities.placeEmergencyCalls))) :=
  changeRadio_eq_mapRadios ho r.handle _

theorem orderly_revoke (ho : Orderly d.radios) (r : Radio) : Orderly (d.revoke r).radios :=
  orderly_radioChange (radioChange_step d _) ho

theorem not_sufficient_revoke (ho : Orderly d.radios) (hr : d.radio? h = some r) :
    ¬ (d.revoke r).platform.Sufficient h := by
  obtain ⟨_, rfl⟩ := of_radio?_eq_some hr
  intro hs
  have hc : ((d.revoke r).snapshot r.handle).canPlaceEmergencyCalls = true := (isSufficient_iff.1 hs).1
  rw [Device.revoke, snapshot_setCapabilities ho hr, if_pos rfl, canPlaceEmergencyCalls_diff,
    Bool.and_false] at hc
  cases hc

theorem promoted_revoke (ho : Orderly d.radios) (r : Radio) :
    (d.revoke r).platform.promoted = d.platform.promoted := by
  rw [revoke_eq ho]
  rfl

/-- Only the radio that is revoked is affected, even where others share its subscription. -/
theorem loses_revoke (ho : Orderly d.radios) (hr : d.radio? h = some r) :
    d.platform.Loses (d.revoke r).platform h where
  enumeration := by
    rw [revoke_eq ho]
    exact enumeration_mapRadios (adjusts_adjustAt (adjusts_setCapabilities _))
  defaultRadio? := by
    rw [revoke_eq ho]
    rfl
  promoted := promoted_revoke ho r
  snapshot g hg := by
    obtain ⟨_, rfl⟩ := of_radio?_eq_some hr
    exact (snapshot_setCapabilities ho hr _ g).trans (if_neg hg)
  lost := not_sufficient_revoke ho hr

/-- A radio that is selected is one of the device. -/
theorem exists_radio?_of_lineUp {s : Scheme} (hx : x ∈ d.platform.lineUp s) :
    ∃ r, x.snapshot.handle = some r.handle ∧ d.radio? r.handle = some r := by
  obtain ⟨h, he, hs⟩ := sufficient_of_mem_lineUp hx
  obtain ⟨a, c, ns, hf⟩ := sufficient_iff.1 hs
  obtain ⟨r, hr, _, _⟩ := account?_eq_some_iff.1 hf.account
  obtain ⟨_, rfl⟩ := of_radio?_eq_some hr
  exact ⟨r, by rw [he]; rfl, hr⟩

/-- Each round takes the head of the line, and leaves the rest of it to the others. -/
theorem handOver_lineUp (ho : Orderly d.radios) (hc : d.platform.enumeration.radioCount ≠ 0)
    (hp : d.platform.promoted.isEmpty = false) :
    HandOver sel d (d.platform.lineUp sel.scheme) .noneSufficient := by
  generalize hl : d.platform.lineUp sel.scheme = xs
  -- on the line, which loses its head in each round while the device changes
  induction xs generalizing d with
  | nil =>
    apply HandOver.ends
    rw [value_tryPick_eq_head? hc hp, hl]
    rfl
  | cons x xs ih =>
    obtain ⟨r, hh, hr⟩ := exists_radio?_of_lineUp (hl ▸ List.mem_cons_self : x ∈ _)
    have hloses := loses_revoke ho hr
    refine .next ?_ hh hr (ih (orderly_revoke ho r) ?_ ?_ ?_)
    · rw [value_tryPick_eq_head? hc hp, hl]
      rfl
    · rwa [hloses.enumeration]
    · rwa [hloses.promoted]
    · exact lineUp_of_loses_head (ho.distinct.sublist (callCapable_sublist d)) hloses hl hh

theorem handOver_unique (h₁ : HandOver sel d xs e) (h₂ : HandOver sel d xs' e') :
    xs = xs' ∧ e = e' := by
  induction h₁ generalizing xs' with
  | ends hp =>
    cases h₂ with
    | ends hp' => exact ⟨rfl, Except.error.inj (hp.symm.trans hp')⟩
    | next hp' => cases hp.symm.trans hp'
  | next hp hh hr _ ih =>
    cases h₂ with
    | ends hp' => cases hp.symm.trans hp'
    | next hp' hh' hr' rest =>
      obtain rfl := Except.ok.inj (hp.symm.trans hp')
      obtain rfl := Option.some.inj (hh.symm.trans hh')
      obtain rfl := Option.some.inj (hr.symm.trans hr')
      obtain ⟨rfl, rfl⟩ := ih rest
      exact ⟨rfl, rfl⟩

/-- Hand-over ends, and goes along the line of the sufficient radios as they stand at first: the default,
then the others that can place calls, each once, and each at its position there. -/
theorem handOver_inOrder (hr : d.Reachable) (hc : (sel.tryPick d.platform).value ≠ .error .noRadio)
    (hp : (sel.tryPick d.platform).value ≠ .error .nothingPromoted) :
    (∀ xs e, HandOver sel d xs e ↔ xs = d.platform.lineUp sel.scheme ∧ e = .noneSufficient) ∧
    ((d.platform.lineUp sel.scheme).map (·.snapshot.handle)).Nodup ∧
    ((d.platform.lineUp sel.scheme).map (·.source.rank)).Pairwise (· < ·) ∧
    ∀ x ∈ d.platform.lineUp sel.scheme, ∀ k, x.source = .callCapable k →
      d.callCapable[k]? = x.snapshot.handle := by
  have ho := orderly_reachable hr
  have hn := ho.distinct.sublist (callCapable_sublist d)
  obtain ⟨hc, hp⟩ := open_of_tryPick hc hp
  refine ⟨?_, nodup_handle_lineUp hn _, pairwise_rank_lineUp _ _, ?_⟩
  · intro xs e
    constructor
    · intro h
      exact handOver_unique h (handOver_lineUp ho hc hp)
    · rintro ⟨rfl, rfl⟩
      exact handOver_lineUp ho hc hp
  · intro x hx k hk
    exact position_of_mem_lineUp hx hk

/-- Of five radios the default is the third; the first two share a subscription, and the fourth is in no
network. -/
def fiveRadios : Device :=
  (Device.empty.run [
    .addRadio ⟨"sim0", some ⟨1⟩, ⟨0x10⟩, some "us", true, true⟩,
    .addRadio ⟨"sim1", some ⟨1⟩, ⟨0x8000_0012⟩, none, true, true⟩,
    .addRadio ⟨"sim2", some ⟨2⟩, .ordinary, some "ca", true, true⟩,
    .addRadio ⟨"sim3", some ⟨3⟩, .ordinary, none, true, true⟩,
    .addRadio ⟨"sim4", some ⟨2⟩, .ordinary, some "fr", true, true⟩,
    .setDefault (some ⟨"sim2"⟩),
    .setNumbers ⟨1⟩ (some [⟨"911", "", "", ⟨0x01⟩, ⟨0x10⟩, .unknown⟩]),
    .setNumbers ⟨2⟩ (some [⟨"112", "", "", ⟨0x02⟩, ⟨0⟩, .unknown⟩]),
    .setNumbers ⟨3⟩ (some [⟨"112", "", "", ⟨0x02⟩, ⟨0⟩, .unknown⟩])]).1

theorem fiveRadios_handOver : fiveRadios.Reachable ∧
    (Selector.tryPick {} fiveRadios.platform).value ≠ .error .noRadio ∧
    (Selector.tryPick {} fiveRadios.platform).value ≠ .error .nothingPromoted ∧
    ∃ xs, HandOver {} fiveRadios xs .noneSufficient ∧
      xs.map (fun x => (x.snapshot.handle, x.source)) =
        [(some ⟨"sim2"⟩, .byDefault), (some ⟨"sim0"⟩, .callCapable 0),
          (some ⟨"sim1"⟩, .callCapable 1), (some ⟨"sim4"⟩, .callCapable 4)] := by
  have hr : fiveRadios.Reachable := reachable_iff.2 ⟨_, rfl⟩
  have hc : (Selector.tryPick {} fiveRadios.platform).value ≠ .error .noRadio := nofun
  have hp : (Selector.tryPick {} fiveRadios.platform).value ≠ .error .nothingPromoted := nofun
  refine ⟨hr, hc, hp, fiveRadios.platform.lineUp .tel, ?_, ?_⟩
  · exact ((handOver_inOrder hr hc hp).1 _ _).2 ⟨rfl, rfl⟩
  · decide

end EmergencyDial

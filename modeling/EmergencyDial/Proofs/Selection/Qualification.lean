import EmergencyDial.Platform.Table
import EmergencyDial.Proofs.Selection.Decision

/-! Selection from the platform's own data: an account, a country and a list of numbers. -/
namespace EmergencyDial

variable {p : Platform} {sel : Selector} {h : Handle}

/-- A selection comes from a radio that qualifies: the default or one that can place calls. -/
theorem qualifies_of_decision {s : Selection} (h : Decision p sel.scheme (.ok s)) :
    ∃ g, (p.defaultRadio? sel.scheme = some g ∨ g ∈ p.enumeration.callCapable) ∧
      p.Qualifies g ∧ s.snapshot = p.snapshot p.promoted g := by
  cases h with
  | @byDefault g hc hp hd hs => exact ⟨g, Or.inl hd, sufficient_iff.1 hs, rfl⟩
  | @callCapable g k hc hp hd hk hs hf =>
    exact ⟨g, Or.inr (List.mem_of_getElem? hk), sufficient_iff.1 hs, rfl⟩

theorem exists_ok_of_qualifies (hc : 0 < p.enumeration.radioCount) (hq : p.Qualifies h)
    (hm : p.defaultRadio? sel.scheme = some h ∨ h ∈ p.enumeration.callCapable) :
    ∃ s, (sel.tryPick p).value = .ok s := by
  have hs := sufficient_iff.2 hq
  have hp := isEmpty_promoted_of_qualifies hq
  have hd := decision_tryPick p sel
  generalize (sel.tryPick p).value = r at hd
  cases hd with
  | noRadio h₀ => omega
  | nothingPromoted _ he => simp [hp] at he
  | byDefault => exact ⟨_, rfl⟩
  | callCapable => exact ⟨_, rfl⟩
  | noneSufficient _ _ hd hn =>
    rcases hm with hm | hm
    · exact absurd hs (hd h hm)
    · exact absurd hs (hn h hm)

theorem error_cases {e : SelectionError} (hc : 0 < p.enumeration.radioCount)
    (h : Decision p sel.scheme (.error e)) :
    (e = .nothingPromoted ∧ p.NothingToPromote) ∨
      (e = .noneSufficient ∧ ¬ p.NothingToPromote) := by
  cases h with
  | noRadio h₀ => omega
  | nothingPromoted _ hp => exact Or.inl ⟨rfl, isEmpty_promoted_iff.1 hp⟩
  | noneSufficient _ hp =>
    refine Or.inr ⟨rfl, ?_⟩
    intro hn
    simp [isEmpty_promoted_iff.2 hn] at hp

/-- On a device with radios a selection succeeds exactly when the default or a radio that can place
calls qualifies. It tells what makes its radio qualify; and when it fails, whether there was anything
to promote. -/
theorem selection_by_qualification (hc : 0 < p.enumeration.radioCount) (sel : Selector) :
    ((∃ s, (sel.tryPick p).value = .ok s) ↔
      (∃ h, p.defaultRadio? sel.scheme = some h ∧ p.Qualifies h) ∨
        ∃ h ∈ p.enumeration.callCapable, p.Qualifies h) ∧
    (∀ s, (sel.tryPick p).value = .ok s →
      ∃ h a c ns, p.Fit h a c ns ∧
        s.snapshot = ⟨some h, true, p.accounts.subscription a, c, some (promote ns)⟩ ∧
        promote ns ≠ [] ∧ (∀ n ∈ promote ns, n.services.bits &&& 0x07 ≠ 0) ∧
        (promote ns).Pairwise fun m n =>
          n.origins.bits &&& 0x10 ≠ 0 → m.origins.bits &&& 0x10 ≠ 0) ∧
    ∀ e, (sel.tryPick p).value = .error e →
      (e = .nothingPromoted ↔ p.NothingToPromote) ∧
        (e = .noneSufficient ↔ ¬ p.NothingToPromote) := by
  refine ⟨⟨?_, ?_⟩, ?_, ?_⟩
  · rintro ⟨s, h⟩
    obtain ⟨g, hg, hq, _⟩ := qualifies_of_decision (value_tryPick_iff.1 h)
    rcases hg with hg | hg
    · exact Or.inl ⟨g, hg, hq⟩
    · exact Or.inr ⟨g, hg, hq⟩
  · rintro (⟨h, hd, hq⟩ | ⟨h, hm, hq⟩)
    · exact exists_ok_of_qualifies hc hq (Or.inl hd)
    · exact exists_ok_of_qualifies hc hq (Or.inr hm)
  · intro s h
    obtain ⟨g, _, ⟨a, c, ns, hf⟩, hs⟩ := qualifies_of_decision (value_tryPick_iff.1 h)
    refine ⟨g, a, c, ns, hf, hs.trans hf.snapshot_eq, promote_ne_nil hf.promoted, ?_, ?_⟩
    · intro n hn
      exact isPromoted_iff.1 (mem_promote.1 hn).2
    · simpa only [isPrioritized_iff] using pairwise_promote ns
  · intro e h
    rcases error_cases hc (value_tryPick_iff.1 h) with ⟨rfl, hn⟩ | ⟨rfl, hn⟩
    · simp [hn]
    · simp [hn]

/-- Of the two radios the default is in no network; the list of the other has a number whose services
and origin are not known beside the one that counts. -/
def twoRadios : Table where
  count := 2
  callCapable := [⟨"sim0"⟩, ⟨"sim1"⟩]
  defaults := [(.tel, ⟨"sim0"⟩)]
  accounts := [⟨⟨"sim0"⟩, ⟨0x12⟩⟩, ⟨⟨"sim1"⟩, ⟨0x8000_0010⟩⟩]
  subscriptions := [(⟨"sim0"⟩, ⟨1⟩), (⟨"sim1"⟩, ⟨2⟩)]
  countries := [(⟨2⟩, "us")]
  numbers? := some ⟨[(⟨1⟩, some [⟨"112", "", "", ⟨0x01⟩, ⟨0x10⟩, .unknown⟩]),
    (⟨2⟩, some [⟨"0", "", "", ⟨0x100⟩, ⟨0⟩, .unknown⟩, ⟨"911", "", "", ⟨0x03⟩, ⟨0x10⟩, .unknown⟩])],
    by decide⟩

theorem twoRadios_selects : 0 < twoRadios.platform.enumeration.radioCount ∧
    twoRadios.platform.Qualifies ⟨"sim1"⟩ ∧
    ∃ s, (Selector.tryPick {} twoRadios.platform).value = .ok s ∧
      s.snapshot.canPlaceEmergencyCalls = true := by
  have hc : 0 < twoRadios.platform.enumeration.radioCount := by decide
  have hq : twoRadios.platform.Qualifies ⟨"sim1"⟩ :=
    ⟨⟨⟨"sim1"⟩, ⟨0x8000_0010⟩⟩, "us", _, rfl, by decide, rfl, by decide, rfl, by decide⟩
  obtain ⟨hok, hs, _⟩ := selection_by_qualification hc {}
  obtain ⟨s, h⟩ := hok.2 (Or.inr ⟨_, by decide, hq⟩)
  obtain ⟨g, a, c, ns, _, he, _⟩ := hs s h
  exact ⟨hc, hq, s, h, by rw [he]⟩

end EmergencyDial

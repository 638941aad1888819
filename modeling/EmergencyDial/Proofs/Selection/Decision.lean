import EmergencyDial.Proofs.Selection.Fitness

/-! The decision that a selection is, on any platform. -/
namespace EmergencyDial

/-- Each outcome, with all that leads to it. -/
inductive Decision (p : Platform) (s : Scheme) : Except SelectionError Selection → Prop
  | noRadio (hc : p.enumeration.radioCount = 0) : Decision p s (.error .noRadio)
  | nothingPromoted (hc : p.enumeration.radioCount ≠ 0) (hp : p.promoted.isEmpty = true) :
    Decision p s (.error .nothingPromoted)
  | byDefault {h : Handle} (hc : p.enumeration.radioCount ≠ 0) (hp : p.promoted.isEmpty = false)
      (hd : p.defaultRadio? s = some h) (hs : p.Sufficient h) :
    Decision p s (.ok ⟨p.snapshot p.promoted h, .byDefault⟩)
  | callCapable {h : Handle} {k : Nat} (hc : p.enumeration.radioCount ≠ 0)
      (hp : p.promoted.isEmpty = false)
      (hd : ∀ d, p.defaultRadio? s = some d → ¬ p.Sufficient d)
      (hk : p.enumeration.callCapable[k]? = some h) (hs : p.Sufficient h)
      (hf : ∀ j < k, ∀ g, p.enumeration.callCapable[j]? = some g → ¬ p.Sufficient g) :
    Decision p s (.ok ⟨p.snapshot p.promoted h, .callCapable k⟩)
  | noneSufficient (hc : p.enumeration.radioCount ≠ 0) (hp : p.promoted.isEmpty = false)
      (hd : ∀ d, p.defaultRadio? s = some d → ¬ p.Sufficient d)
      (hn : ∀ h ∈ p.enumeration.callCapable, ¬ p.Sufficient h) :
    Decision p s (.error .noneSufficient)

variable {p : Platform} {s : Scheme} {sel : Selector} {h : Handle} {hs : List Handle}
  {r r' : Except SelectionError Selection}

theorem value_firstSufficient_nil (p : Platform) (m : PromotedLists) (k : Nat) :
    (p.firstSufficient m k []).value = .error .noneSufficient := rfl

theorem value_firstSufficient_cons (p : Platform) (m : PromotedLists) (k : Nat) (h : Handle)
    (hs : List Handle) : (p.firstSufficient m k (h :: hs)).value =
      if (p.snapshot m h).isSufficient then .ok ⟨p.snapshot m h, .callCapable k⟩
      else (p.firstSufficient m (k + 1) hs).value := by
  simp only [Platform.firstSufficient]
  split <;> rfl

/-- The search stops at the first sufficient handle, with its position, or passes over all. -/
theorem firstSufficient_cases (p : Platform) (k : Nat) (hs : List Handle) :
    (∃ j h, hs[j]? = some h ∧ p.Sufficient h ∧
      (∀ i < j, ∀ g, hs[i]? = some g → ¬ p.Sufficient g) ∧
      (p.firstSufficient p.promoted k hs).value =
        .ok ⟨p.snapshot p.promoted h, .callCapable (k + j)⟩) ∨
    ((∀ h ∈ hs, ¬ p.Sufficient h) ∧
      (p.firstSufficient p.promoted k hs).value = .error .noneSufficient) := by
  induction hs generalizing k with
  | nil => exact Or.inr ⟨nofun, value_firstSufficient_nil p _ k⟩
  | cons g hs ih =>
    rw [value_firstSufficient_cons]
    by_cases hg : p.Sufficient g
    · refine Or.inl ⟨0, g, rfl, hg, ?_, if_pos hg⟩
      intro i hi
      omega
    · rw [if_neg hg]
      rcases ih (k + 1) with ⟨j, h, hj, hh, hf, hv⟩ | ⟨hn, hv⟩
      · refine Or.inl ⟨j + 1, h, hj, hh, ?_, ?_⟩
        · intro i hi f hfi
          cases i with
          | zero =>
            cases hfi
            exact hg
          | succ i => exact hf i (by omega) f hfi
        · rw [hv, Nat.add_right_comm, Nat.add_assoc]
      · refine Or.inr ⟨?_, hv⟩
        intro h hm
        rcases List.mem_cons.mp hm with rfl | hm
        · exact hg
        · exact hn h hm

theorem value_pickDefault (p : Platform) (m : PromotedLists) (sel : Selector) :
    (sel.pickDefault p m).value = (p.defaultRadio? sel.scheme).bind fun h =>
      if (p.snapshot m h).isSufficient then some ⟨p.snapshot m h, .byDefault⟩ else none := by
  simp only [Selector.pickDefault]
  cases p.defaultRadio? sel.scheme with
  | none => rfl
  | some h =>
    simp only [Option.bind_some]
    split <;> rfl

/-- The default either is sufficient and taken, or leaves the choice to the others. -/
theorem pickDefault_cases (p : Platform) (sel : Selector) :
    (∃ h, p.defaultRadio? sel.scheme = some h ∧ p.Sufficient h ∧
      (sel.pickDefault p p.promoted).value = some ⟨p.snapshot p.promoted h, .byDefault⟩) ∨
    ((∀ d, p.defaultRadio? sel.scheme = some d → ¬ p.Sufficient d) ∧
      (sel.pickDefault p p.promoted).value = none) := by
  rw [value_pickDefault]
  cases hd : p.defaultRadio? sel.scheme with
  | none => exact Or.inr ⟨nofun, rfl⟩
  | some h =>
    by_cases hs : p.Sufficient h
    · exact Or.inl ⟨h, rfl, hs, if_pos hs⟩
    · refine Or.inr ⟨?_, if_neg hs⟩
      intro d hd
      cases hd
      exact hs

theorem value_tryPick (p : Platform) (sel : Selector) : (sel.tryPick p).value =
    if p.enumeration.radioCount = 0 then .error .noRadio
    else if p.promoted.isEmpty then .error .nothingPromoted
    else match (sel.pickDefault p p.promoted).value with
      | some selection => .ok selection
      | none => (p.firstSufficient p.promoted 0 p.enumeration.callCapable).value := by
  simp only [Selector.tryPick]
  split
  · rfl
  · simp only [Logged.value_bind]
    change (if p.promoted.isEmpty then _ else _ : Logged _).value = _
    split
    · rfl
    · simp only [Logged.value_bind]
      change Logged.value (match (sel.pickDefault p p.promoted).value with
        | some selection => _
        | none => _) = _
      split <;> rfl

theorem decision_tryPick (p : Platform) (sel : Selector) :
    Decision p sel.scheme (sel.tryPick p).value := by
  rw [value_tryPick]
  by_cases hc : p.enumeration.radioCount = 0
  · rw [if_pos hc]
    exact .noRadio hc
  rw [if_neg hc]
  cases hp : p.promoted.isEmpty with
  | true => exact .nothingPromoted hc hp
  | false =>
    rw [if_neg Bool.false_ne_true]
    rcases pickDefault_cases p sel with ⟨h, hd, hs, hv⟩ | ⟨hd, hv⟩
    · rw [hv]
      exact .byDefault hc hp hd hs
    · rw [hv]
      rcases firstSufficient_cases p 0 p.enumeration.callCapable with
        ⟨k, h, hk, hs, hf, hv⟩ | ⟨hn, hv⟩
      · simp only [hv, Nat.zero_add]
        exact .callCapable hc hp hd hk hs hf
      · simp only [hv]
        exact .noneSufficient hc hp hd hn

theorem value_pickDefault_eq_none (hd : ∀ d, p.defaultRadio? sel.scheme = some d → ¬ p.Sufficient d) :
    (sel.pickDefault p p.promoted).value = none := by
  rcases pickDefault_cases p sel with ⟨h, hh, hs, _⟩ | ⟨_, hv⟩
  · exact absurd hs (hd h hh)
  · exact hv

/-- The conditions of an outcome leave no other. -/
theorem value_eq_of_decision (h : Decision p sel.scheme r) : (sel.tryPick p).value = r := by
  rw [value_tryPick]
  cases h with
  | noRadio hc => rw [if_pos hc]
  | nothingPromoted hc hp => rw [if_neg hc, if_pos hp]
  | @byDefault h hc hp hd hs =>
    rw [if_neg hc, hp, if_neg Bool.false_ne_true, value_pickDefault, hd, Option.bind_some,
      if_pos hs]
  | @callCapable h k hc hp hd hk hs hf =>
    rw [if_neg hc, hp, if_neg Bool.false_ne_true, value_pickDefault_eq_none hd]
    rcases firstSufficient_cases p 0 p.enumeration.callCapable with
      ⟨j, g, hj, hg, hn, hv⟩ | ⟨hn, _⟩
    · have hkj : ¬ k < j := fun hlt => hn k hlt h hk hs
      have hjk : ¬ j < k := fun hlt => hf j hlt g hj hg
      obtain rfl : j = k := by omega
      obtain rfl : h = g := Option.some.inj (hk.symm.trans hj)
      simp only [hv, Nat.zero_add]
    · exact absurd hs (hn h (List.mem_of_getElem? hk))
  | noneSufficient hc hp hd hn =>
    rw [if_neg hc, hp, if_neg Bool.false_ne_true, value_pickDefault_eq_none hd]
    rcases firstSufficient_cases p 0 p.enumeration.callCapable with
      ⟨j, g, hj, hg, _, _⟩ | ⟨_, hv⟩
    · exact absurd hg (hn g (List.mem_of_getElem? hj))
    · exact hv

theorem value_tryPick_iff : (sel.tryPick p).value = r ↔ Decision p sel.scheme r := by
  constructor
  · rintro rfl
    exact decision_tryPick p sel
  · exact value_eq_of_decision

/-- A selection is this decision and no other. It never ends in the fault of a default radio, and the
radio it finds among those that can place calls is never the default. What is promoted, what is shown
of a radio and whether it is sufficient can all be told from the platform's own data. -/
theorem selection_decision (p : Platform) (sel : Selector) :
    (∀ r, (sel.tryPick p).value = r ↔ Decision p sel.scheme r) ∧
    (∀ shown, (sel.tryPick p).value ≠ .error (.defaultInsufficient shown)) ∧
    (∀ s k, (sel.tryPick p).value = .ok ⟨s, .callCapable k⟩ →
      s.handle ≠ p.defaultRadio? sel.scheme) ∧
    (p.promoted.isEmpty = true ↔ p.NothingToPromote) ∧
    ∀ h, p.snapshot p.promoted h = p.shown h ∧ (p.Sufficient h ↔ p.Qualifies h) := by
  refine ⟨fun r => value_tryPick_iff, ?_, ?_, isEmpty_promoted_iff,
    fun h => ⟨snapshot_eq_shown p h, sufficient_iff⟩⟩
  · intro shown h
    cases value_tryPick_iff.1 h
  · intro s k h
    cases value_tryPick_iff.1 h with
    | @callCapable g _ _ _ hd _ hs _ =>
      intro he
      exact hd g he.symm hs

end EmergencyDial

import EmergencyDial.Proofs.Selection.LineUp
import EmergencyDial.Proofs.Selection.Qualification

/-! A platform on which more radios qualify, and what becomes of a selection there. -/
namespace EmergencyDial

/-- The radios are asked in the same order on `q`, and what speaks for one of them on `p` does so on `q`. -/
structure Platform.Improves (p q : Platform) (s : Scheme) : Prop where
  defaultRadio : q.defaultRadio? s = p.defaultRadio? s
  callCapable : q.enumeration.callCapable = p.enumeration.callCapable
  counted : p.enumeration.radioCount ≠ 0 → q.enumeration.radioCount ≠ 0
  account : ∀ h a, p.accounts.account? h = some a → a.capabilities.bits &&& 0x10 = 0x10 →
    ∃ b, q.accounts.account? h = some b ∧ b.capabilities.bits &&& 0x10 = 0x10 ∧
      q.accounts.subscription b = p.accounts.subscription a
  country : ∀ i c, p.country? i = some c → c ≠ "" → ∃ c', q.country? i = some c' ∧ c' ≠ ""
  listed : ∀ i ns, p.numbers?.bind (·.find? i) = some (some ns) →
    (∃ n ∈ ns, n.services.bits &&& 0x07 ≠ 0) →
    ∃ ms, q.numbers?.bind (·.find? i) = some (some ms) ∧ ∃ n ∈ ms, n.services.bits &&& 0x07 ≠ 0

/-- The radio that a selection asks with the rank: the default first, then those that can place calls. -/
def Platform.candidate? (p : Platform) (s : Scheme) : Nat → Option Handle
  | 0 => p.defaultRadio? s
  | k + 1 => p.enumeration.callCapable[k]?

variable {p q : Platform} {s : Scheme} {sel : Selector} {h : Handle} {x : Selection} {k : Nat}

theorem Platform.Improves.qualifies (hi : p.Improves q s) (hq : p.Qualifies h) : q.Qualifies h := by
  obtain ⟨a, c, ns, hf⟩ := hq
  obtain ⟨b, hb, hcap, hsub⟩ := hi.account h a hf.account hf.capable
  obtain ⟨c', hc, hn⟩ := hi.country _ c hf.country hf.named
  obtain ⟨ms, hl, hp⟩ := hi.listed _ ns hf.listed hf.promoted
  rw [← hsub] at hc hl
  exact ⟨b, c', ms, hb, hcap, hc, hn, hl, hp⟩

theorem Platform.Improves.sufficient (hi : p.Improves q s) (hs : p.Sufficient h) :
    q.Sufficient h :=
  sufficient_iff.2 (hi.qualifies (sufficient_iff.1 hs))

theorem Platform.Improves.candidate?_eq (hi : p.Improves q s) (k : Nat) :
    q.candidate? s k = p.candidate? s k := by
  cases k with
  | zero => exact hi.defaultRadio
  | succ k => simp only [Platform.candidate?, hi.callCapable]

/-- A selection comes to a sufficient candidate, and its source is the rank of that. -/
theorem candidate?_of_decision (hd : Decision p s (.ok x)) : p.enumeration.radioCount ≠ 0 ∧
    ∃ h, p.candidate? s x.source.rank = some h ∧ p.Sufficient h := by
  cases hd with
  | byDefault hc _ hd hs => exact ⟨hc, _, hd, hs⟩
  | callCapable hc _ _ hk hs _ => exact ⟨hc, _, hk, hs⟩

/-- No sufficient candidate is passed over. -/
theorem exists_ok_of_candidate (hc : p.enumeration.radioCount ≠ 0)
    (hk : p.candidate? sel.scheme k = some h) (hs : p.Sufficient h) :
    ∃ x, (sel.tryPick p).value = .ok x ∧ x.source.rank ≤ k := by
  have hp := isEmpty_promoted_of_qualifies (sufficient_iff.1 hs)
  have hd := decision_tryPick p sel
  generalize (sel.tryPick p).value = y at hd
  cases hd with
  | noRadio h₀ => exact absurd h₀ hc
  | nothingPromoted _ he => simp [hp] at he
  | byDefault => exact ⟨_, rfl, Nat.zero_le k⟩
  | @callCapable _ j _ _ hd _ _ hf =>
    refine ⟨_, rfl, ?_⟩
    cases k with
    | zero => exact absurd hs (hd h hk)
    | succ k =>
      have hjk : ¬ k < j := fun hlt => hf k hlt h hk hs
      simp only [Source.rank]
      omega
  | noneSufficient _ _ hd hn =>
    cases k with
    | zero => exact absurd hs (hd h hk)
    | succ k => exact absurd hs (hn h (List.mem_of_getElem? hk))

/-- On a better platform a selection still succeeds, and with a source that is no later. -/
theorem selection_of_improves (hi : p.Improves q sel.scheme) (hx : (sel.tryPick p).value = .ok x) :
    ∃ y, (sel.tryPick q).value = .ok y ∧ y.source.rank ≤ x.source.rank := by
  obtain ⟨hc, h, hk, hs⟩ := candidate?_of_decision (value_tryPick_iff.1 hx)
  rw [← hi.candidate?_eq] at hk
  exact exists_ok_of_candidate (hi.counted hc) hk (hi.sufficient hs)

/-- Both radios are in a network now. The count, the other capabilities, the country of the second
radio and its numbers are not what they were. -/
def twoNetworks : Table where
  count := 1
  callCapable := [⟨"sim0"⟩, ⟨"sim1"⟩]
  defaults := [(.tel, ⟨"sim0"⟩)]
  accounts := [⟨⟨"sim1"⟩, ⟨0x16⟩⟩, ⟨⟨"sim0"⟩, ⟨0x10⟩⟩]
  subscriptions := [(⟨"sim0"⟩, ⟨1⟩), (⟨"sim1"⟩, ⟨2⟩)]
  countries := [(⟨1⟩, "us"), (⟨2⟩, "ca")]
  numbers? := some ⟨[(⟨1⟩, some [⟨"112", "", "", ⟨0x01⟩, ⟨0⟩, .unknown⟩]),
    (⟨2⟩, some [⟨"999", "", "", ⟨0x04⟩, ⟨0⟩, .unknown⟩]), (⟨3⟩, none)], by decide⟩

theorem twoNetworks_selects : twoRadios.platform.Improves twoNetworks.platform .tel ∧
    ∃ x y, (Selector.tryPick {} twoRadios.platform).value = .ok x ∧ x.source = .callCapable 1 ∧
      (Selector.tryPick {} twoNetworks.platform).value = .ok y ∧ y.source.rank ≤ 2 := by
  have hi : twoRadios.platform.Improves twoNetworks.platform .tel := by
    refine ⟨rfl, rfl, by decide, ?_, ?_, ?_⟩
    · intro h a ha _
      have hm := List.mem_of_find?_eq_some ha
      obtain rfl : a.handle = h := by simpa using List.find?_some ha
      simp only [twoRadios, List.mem_cons, List.not_mem_nil, or_false] at hm
      rcases hm with rfl | rfl
      · exact ⟨⟨⟨"sim0"⟩, ⟨0x10⟩⟩, rfl, by decide, rfl⟩
      · exact ⟨⟨⟨"sim1"⟩, ⟨0x16⟩⟩, rfl, by decide, rfl⟩
    · intro i c hc _
      change ([(⟨2⟩, "us")] : List (SubscriptionId × String)).lookup i = some c at hc
      obtain rfl : i = ⟨2⟩ := by
        simp only [List.lookup_cons, List.lookup_nil] at hc
        split at hc
        · next he => exact beq_iff_eq.1 he
        · cases hc
      exact ⟨"ca", rfl, by decide⟩
    · intro i ns hl _
      obtain ⟨lists, hlists, hf⟩ := Option.bind_eq_some_iff.1 hl
      obtain rfl := Option.some.inj hlists
      have hm : i ∈ ([⟨1⟩, ⟨2⟩] : List SubscriptionId) :=
        List.mem_map_of_mem (f := Prod.fst) (ById.find?_eq_some_iff.1 hf)
      simp only [List.mem_cons, List.not_mem_nil, or_false] at hm
      rcases hm with rfl | rfl
      · exact ⟨_, rfl, by decide⟩
      · exact ⟨_, rfl, by decide⟩
  obtain ⟨x, hx, hs⟩ : ∃ x, (Selector.tryPick {} twoRadios.platform).value = .ok x ∧
      x.source = .callCapable 1 := ⟨_, rfl, rfl⟩
  obtain ⟨y, hy, hle⟩ := selection_of_improves hi hx
  rw [hs] at hle
  exact ⟨hi, x, y, hx, hs, hy, hle⟩

end EmergencyDial

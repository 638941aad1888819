import EmergencyDial.Proofs.Selection.Qualification
import Mathlib.Data.List.Forall2

/-! What can be dialled as a shortcut of a radio, from the platform's own lists. -/
namespace EmergencyDial

/-- A capital letter of the ASCII alphabet, and the same letter when it is small. -/
def Capital (c d : Char) : Prop := 'A' ≤ c ∧ c ≤ 'Z' ∧ d.toNat = c.toNat + 32

/-- Nothing but the case of an ASCII letter is passed over. -/
def SameLetter (c d : Char) : Prop := c = d ∨ Capital c d ∨ Capital d c

/-- The texts agree letter by letter. -/
def SameNumber (s t : String) : Prop := List.Forall₂ SameLetter s.toList t.toList

/-- The list that the platform has for a subscription, if it has one. -/
def Platform.list? (p : Platform) (i : SubscriptionId) : Option (List EmergencyNumber) :=
  (p.numbers?.bind (·.find? i)).join

/-- Whether the text can be dialled as a shortcut of the handle, by the numbers that a selection goes by. -/
def Platform.offers (p : Platform) (h : Handle) (q : String) : Bool :=
  (p.snapshot p.promoted h).hasNumber q

/-- What counts of a number for dialling it. -/
def EmergencyNumber.dialled (n : EmergencyNumber) : String × Services := (n.number, n.services)

variable {p : Platform} {h : Handle} {s : Snapshot} {q q' t : String} {c d : Char}
  {i : SubscriptionId} {ns ms : List EmergencyNumber}

theorem capital_iff : Capital c d ↔ 65 ≤ c.toNat ∧ c.toNat ≤ 90 ∧ d.toNat = c.toNat + 32 := Iff.rfl

theorem toNat_toLower (c : Char) :
    c.toLower.toNat = if 65 ≤ c.toNat ∧ c.toNat ≤ 90 then c.toNat + 32 else c.toNat := by
  split
  · next hc =>
    have hl : c.toLower.toNat = (c.val + 32).toNat := congrArg Char.toNat (dif_pos hc)
    have hv : (c.val + 32).toNat = (c.val.toNat + 32) % 2 ^ 32 := UInt32.toNat_add c.val 32
    rw [hl, hv, Char.toNat_val]
    omega
  · next hc => exact congrArg Char.toNat (dif_neg hc)

theorem sameLetter_iff : SameLetter c d ↔ c.toLower = d.toLower := by
  rw [SameLetter, capital_iff, capital_iff, ← Char.toNat_inj, ← Char.toNat_inj (c := c.toLower),
    toNat_toLower, toNat_toLower]
  split <;> split <;> omega

theorem sameNumber_iff : SameNumber q t ↔
    q.toList.map Char.toLower = t.toList.map Char.toLower := by
  have hl : SameLetter = fun c d => c.toLower = d.toLower := by
    funext c d
    exact propext sameLetter_iff
  rw [SameNumber, hl, ← List.forall₂_eq_eq_eq, List.forall₂_map_left_iff,
    List.forall₂_map_right_iff]

theorem SameNumber.trans_iff (h : SameNumber q q') : SameNumber t q' ↔ SameNumber t q := by
  rw [sameNumber_iff] at h
  rw [sameNumber_iff, sameNumber_iff, h]

theorem hasNumber_iff : s.hasNumber q = true ↔ ∃ n ∈ s.promoted.getD [], SameNumber n.number q := by
  simp only [Snapshot.hasNumber, List.any_eq_true, decide_eq_true_eq, sameNumber_iff]

theorem list?_eq_some : p.list? i = some ns ↔ p.numbers?.bind (·.find? i) = some (some ns) :=
  Option.join_eq_some_iff

/-- A radio offers the numbers of its list that reach help, all of them. -/
theorem mem_promoted_snapshot {n : EmergencyNumber} :
    n ∈ (p.snapshot p.promoted h).promoted.getD [] ↔
      ∃ ns, p.list? (p.subscriptionOf h) = some ns ∧ n ∈ ns ∧ n.services.bits &&& 0x07 ≠ 0 := by
  rw [promoted_snapshot_eq]
  constructor
  · intro hn
    cases hm : p.promoted.find? (p.subscriptionOf h) with
    | none =>
      rw [hm] at hn
      cases hn
    | some ms =>
      rw [hm, Option.getD_some] at hn
      obtain ⟨ns, hl, _, rfl⟩ := find?_promoted_eq_some.1 hm
      obtain ⟨hn, hp⟩ := mem_promote.1 hn
      exact ⟨ns, list?_eq_some.2 hl, hn, isPromoted_iff.1 hp⟩
  · rintro ⟨ns, hl, hn, hp⟩
    rw [find?_promoted_eq_some.2 ⟨ns, list?_eq_some.1 hl, ⟨n, hn, hp⟩, rfl⟩]
    exact mem_promote.2 ⟨hn, isPromoted_iff.2 hp⟩

theorem offers_iff : p.offers h q = true ↔
    ∃ ns, p.list? (p.subscriptionOf h) = some ns ∧
      ∃ n ∈ ns, n.services.bits &&& 0x07 ≠ 0 ∧ SameNumber n.number q := by
  simp only [Platform.offers, hasNumber_iff, mem_promoted_snapshot]
  constructor
  · rintro ⟨n, ⟨ns, hl, hn, hp⟩, hq⟩
    exact ⟨ns, hl, n, hn, hp, hq⟩
  · rintro ⟨ns, hl, n, hn, hp, hq⟩
    exact ⟨n, ⟨ns, hl, hn, hp⟩, hq⟩

/-- Whatever is dialled of one list can be dialled of another with the same numbers and services. -/
theorem exists_dialled (hx : ∀ x ∈ ns.map EmergencyNumber.dialled, x ∈ ms.map EmergencyNumber.dialled)
    (hn : ∃ n ∈ ns, n.services.bits &&& 0x07 ≠ 0 ∧ SameNumber n.number q) :
    ∃ n ∈ ms, n.services.bits &&& 0x07 ≠ 0 ∧ SameNumber n.number q := by
  obtain ⟨n, hn, hp, hq⟩ := hn
  obtain ⟨m, hm, he⟩ := List.mem_map.1 (hx n.dialled (List.mem_map_of_mem hn))
  obtain ⟨hnumber, hservices⟩ := Prod.mk.inj he
  exact ⟨m, hm, by rwa [hservices], by rwa [hnumber]⟩

/-- A text can be dialled as a shortcut if and only if the list of the handle's subscription has it as a
number that reaches help, but for the case of ASCII letters. Hence nothing can be dialled without such a
number, and nothing else about the list matters: not its order, nor where a number was learned from, nor
the platform and the handle it is asked through. -/
theorem offers_of_lists (p : Platform) (h : Handle) :
    (∀ q, p.offers h q = true ↔
      ∃ ns, p.list? (p.subscriptionOf h) = some ns ∧
        ∃ n ∈ ns, n.services.bits &&& 0x07 ≠ 0 ∧ SameNumber n.number q) ∧
    ((∀ ns, p.list? (p.subscriptionOf h) = some ns → ∀ n ∈ ns, n.services.bits &&& 0x07 = 0) →
      ∀ q, p.offers h q = false) ∧
    ∀ (p' : Platform) (h' : Handle) (ns ns' : List EmergencyNumber) (q q' : String),
      p.list? (p.subscriptionOf h) = some ns →
      p'.list? (p'.subscriptionOf h') = some ns' →
      (∀ x, x ∈ ns'.map EmergencyNumber.dialled ↔ x ∈ ns.map EmergencyNumber.dialled) →
      SameNumber q q' →
      p'.offers h' q' = p.offers h q := by
  refine ⟨fun q => offers_iff, ?_, ?_⟩
  · intro hnone q
    rw [Bool.eq_false_iff]
    intro hq
    obtain ⟨ns, hl, n, hn, hp, _⟩ := offers_iff.1 hq
    exact hp (hnone ns hl n hn)
  · intro p' h' ns ns' q q' hl hl' hx hq
    rw [Bool.eq_iff_iff, offers_iff, offers_iff, hl, hl']
    simp only [Option.some.injEq, exists_eq_left', hq.trans_iff]
    exact ⟨exists_dialled fun x => (hx x).1, exists_dialled fun x => (hx x).2⟩

/-- One handle has no account, but the platform has a list for the id of no radio. The account of the other
has a list of the same numbers, in another order and from other origins. -/
def strayNumbers : Table where
  accounts := [⟨⟨"sim0"⟩, ⟨0⟩⟩]
  subscriptions := [(⟨"sim0"⟩, ⟨3⟩)]
  numbers? := some ⟨[
    (⟨-1⟩, some [⟨"S0s-É", "", "", ⟨0x81⟩, ⟨0⟩, .unknown⟩, ⟨"112", "", "", ⟨0x08⟩, ⟨0x10⟩, .unknown⟩]),
    (⟨3⟩, some [⟨"112", "us", "", ⟨0x08⟩, ⟨0x20⟩, .normal⟩,
      ⟨"S0s-É", "us", "", ⟨0x81⟩, ⟨0x8000_0010⟩, .emergency⟩,
      ⟨"S0s-É", "", "", ⟨0x81⟩, ⟨0x02⟩, .unknown⟩])], by decide⟩

theorem strayNumbers_dialled :
    strayNumbers.platform.offers ⟨"sim9"⟩ "s0S-É" = true ∧
    strayNumbers.platform.offers ⟨"sim0"⟩ "S0S-É" = true ∧
    strayNumbers.platform.offers ⟨"sim0"⟩ "s0s-é" = false := by
  obtain ⟨hq, _, hsame⟩ := offers_of_lists strayNumbers.platform ⟨"sim9"⟩
  have hs : SameNumber "S0s-É" "s0S-É" := sameNumber_iff.2 (by decide)
  have hs' : SameNumber "s0S-É" "S0S-É" := sameNumber_iff.2 (by decide)
  have h₉ : strayNumbers.platform.offers ⟨"sim9"⟩ "s0S-É" = true :=
    (hq _).2 ⟨_, rfl, _, List.mem_cons_self, by decide, hs⟩
  refine ⟨h₉, ?_, by decide⟩
  rw [hsame strayNumbers.platform ⟨"sim0"⟩ _ _ "s0S-É" "S0S-É" rfl rfl ?_ hs', h₉]
  intro x
  simp [EmergencyNumber.dialled, or_comm]

end EmergencyDial

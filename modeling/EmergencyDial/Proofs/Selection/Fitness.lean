import EmergencyDial.Proofs.Promotion
import EmergencyDial.Selection.Basic

/-! What makes a radio sufficient, by the platform's own data: an account, a country and a list of
numbers. -/
namespace EmergencyDial

/-- The promoted numbers that a selection goes by; lists that cannot be retrieved have none. -/
def Platform.promoted (p : Platform) : PromotedLists := classify (p.numbers?.getD .empty)

/-- The radio of a handle can be trusted with shortcuts. -/
abbrev Platform.Sufficient (p : Platform) (h : Handle) : Prop :=
  (p.snapshot p.promoted h).isSufficient = true

/-- The radio of `h` has an account that may place emergency calls, a subscription in the network of
a country, and a list for that subscription with a number that reaches help. -/
structure Platform.Fit (p : Platform) (h : Handle) (a : Account) (c : String)
    (ns : List EmergencyNumber) : Prop where
  account : p.accounts.account? h = some a
  capable : a.capabilities.bits &&& 0x10 = 0x10
  country : p.country? (p.accounts.subscription a) = some c
  named : c ≠ ""
  listed : p.numbers?.bind (·.find? (p.accounts.subscription a)) = some (some ns)
  promoted : ∃ n ∈ ns, n.services.bits &&& 0x07 ≠ 0

def Platform.Qualifies (p : Platform) (h : Handle) : Prop := ∃ a c ns, p.Fit h a c ns

/-- The subscription that a handle comes to: that of its account, or without an account that of no
radio. -/
def Platform.subscriptionOf (p : Platform) (h : Handle) : SubscriptionId :=
  (p.accounts.account? h).elim ⟨-1⟩ p.accounts.subscription

/-- No list of any radio has a number that reaches help. -/
def Platform.NothingToPromote (p : Platform) : Prop :=
  ∀ i ns, p.numbers?.bind (·.find? i) = some (some ns) → ∀ n ∈ ns, n.services.bits &&& 0x07 = 0

/-- What the platform's own data say of the radio of `h`. Without an account it may do nothing, without
a country the name of that is empty, and without a number that reaches help there is no list. -/
def Platform.shown (p : Platform) (h : Handle) : Snapshot where
  handle := some h
  canPlaceEmergencyCalls :=
    (p.accounts.account? h).any fun a => a.capabilities.bits &&& 0x10 == 0x10
  subscription := p.subscriptionOf h
  country := (p.country? (p.subscriptionOf h)).getD ""
  promoted :=
    match p.numbers?.bind (·.find? (p.subscriptionOf h)) with
    | some (some ns) => if ∃ n ∈ ns, n.services.bits &&& 0x07 ≠ 0 then some (promote ns) else none
    | _ => none

variable {p : Platform} {h : Handle} {a : Account} {c : String} {ns ms : List EmergencyNumber}
  {i : SubscriptionId}

theorem canPlaceEmergencyCalls_iff :
    a.canPlaceEmergencyCalls = true ↔ a.capabilities.bits &&& 0x10 = 0x10 := beq_iff_eq

theorem find?_promoted_eq_some : p.promoted.find? i = some ms ↔
    ∃ ns, p.numbers?.bind (·.find? i) = some (some ns) ∧
      (∃ n ∈ ns, n.services.bits &&& 0x07 ≠ 0) ∧ ms = promote ns := by
  rw [Platform.promoted, find?_classify_eq_some]
  cases p.numbers? with
  | none => simp
  | some lists => simp [isPromoted_iff]

theorem isEmpty_promoted_iff : p.promoted.isEmpty = true ↔ p.NothingToPromote := by
  rw [ById.isEmpty_iff]
  constructor
  · intro hn i ns hl n hm
    refine Classical.byContradiction fun h => ?_
    have := find?_promoted_eq_some.2 ⟨ns, hl, ⟨n, hm, h⟩, rfl⟩
    rw [hn i] at this
    cases this
  · intro hn i
    cases hf : p.promoted.find? i with
    | none => rfl
    | some ms =>
      obtain ⟨ns, hl, ⟨n, hm, h⟩, _⟩ := find?_promoted_eq_some.1 hf
      exact absurd (hn i ns hl n hm) h

theorem isSufficient_iff {s : Snapshot} : s.isSufficient = true ↔
    s.canPlaceEmergencyCalls = true ∧ (∃ ns, s.promoted = some ns ∧ ns ≠ []) ∧
      s.country ≠ "" := by
  cases hp : s.promoted <;> simp [Snapshot.isSufficient, hp, and_assoc]

@[simp] theorem subscription_snapshot_eq (p : Platform) (m : PromotedLists) (h : Handle) :
    (p.snapshot m h).subscription = p.subscriptionOf h := rfl

@[simp] theorem promoted_snapshot_eq (p : Platform) (m : PromotedLists) (h : Handle) :
    (p.snapshot m h).promoted = m.find? (p.subscriptionOf h) := rfl

/-- Without an account there is nothing to look up. -/
theorem snapshot_of_account (ha : p.accounts.account? h = some a) (m : PromotedLists) :
    p.snapshot m h =
      { handle := some h
        canPlaceEmergencyCalls := a.canPlaceEmergencyCalls
        subscription := p.accounts.subscription a
        country := (p.country? (p.accounts.subscription a)).getD ""
        promoted := m.find? (p.accounts.subscription a) } := by
  simp [Platform.snapshot, ha]

theorem Platform.Fit.snapshot_eq (hf : p.Fit h a c ns) : p.snapshot p.promoted h =
    ⟨some h, true, p.accounts.subscription a, c, some (promote ns)⟩ := by
  have hm : p.promoted.find? (p.accounts.subscription a) = some (promote ns) :=
    find?_promoted_eq_some.2 ⟨ns, hf.listed, hf.promoted, rfl⟩
  rw [snapshot_of_account hf.account, hm, hf.country, canPlaceEmergencyCalls_iff.2 hf.capable]
  rfl

theorem promote_ne_nil (hn : ∃ n ∈ ns, n.services.bits &&& 0x07 ≠ 0) : promote ns ≠ [] := by
  simpa only [promote_ne_nil_iff, isPromoted_iff] using hn

theorem sufficient_iff : p.Sufficient h ↔ p.Qualifies h := by
  constructor
  · intro hs
    obtain ⟨hc, ⟨ms, hm, _⟩, hn⟩ := isSufficient_iff.1 hs
    cases ha : p.accounts.account? h with
    | none => simp [Platform.snapshot, ha] at hc
    | some a =>
      rw [snapshot_of_account ha] at hc hm hn
      obtain ⟨ns, hl, hp, _⟩ := find?_promoted_eq_some.1 hm
      cases hi : p.country? (p.accounts.subscription a) with
      | none => simp [hi] at hn
      | some c =>
        rw [hi] at hn
        exact ⟨a, c, ns, ha, canPlaceEmergencyCalls_iff.1 hc, hi, hn, hl, hp⟩
  · rintro ⟨a, c, ns, hf⟩
    rw [Platform.Sufficient, isSufficient_iff, hf.snapshot_eq]
    exact ⟨rfl, ⟨promote ns, rfl, promote_ne_nil hf.promoted⟩, hf.named⟩

theorem promoted_shown_eq_some : (p.shown h).promoted = some ms ↔
    ∃ ns, p.numbers?.bind (·.find? (p.subscriptionOf h)) = some (some ns) ∧
      (∃ n ∈ ns, n.services.bits &&& 0x07 ≠ 0) ∧ ms = promote ns := by
  rw [Platform.shown]
  split
  · next ns hl =>
    rw [hl]
    split
    · next hn => simp only [Option.some.injEq, exists_eq_left', hn, true_and, eq_comm]
    · next hn => simp only [Option.some.injEq, exists_eq_left', hn, false_and, reduceCtorEq]
  · next hl =>
    refine ⟨nofun, ?_⟩
    rintro ⟨ns, h, _⟩
    exact absurd h (hl ns)

/-- The snapshot of a radio shows what the platform's data say of it. -/
theorem snapshot_eq_shown (p : Platform) (h : Handle) : p.snapshot p.promoted h = p.shown h := by
  have hm : p.promoted.find? (p.subscriptionOf h) = (p.shown h).promoted := by
    apply Option.ext
    intro ms
    rw [find?_promoted_eq_some, promoted_shown_eq_some]
  exact congrArg (Snapshot.mk (some h) (p.shown h).canPlaceEmergencyCalls (p.subscriptionOf h)
    (p.shown h).country) hm

theorem isEmpty_promoted_eq_false (hp : ¬ p.NothingToPromote) : p.promoted.isEmpty = false :=
  Bool.eq_false_iff.2 (mt isEmpty_promoted_iff.1 hp)

/-- A radio that qualifies has a number of its own that reaches help. -/
theorem not_nothingToPromote_of_qualifies (hq : p.Qualifies h) : ¬ p.NothingToPromote := by
  obtain ⟨a, c, ns, hf⟩ := hq
  obtain ⟨n, hm, hn⟩ := hf.promoted
  exact fun hp => hn (hp _ ns hf.listed n hm)

theorem isEmpty_promoted_of_qualifies (hq : p.Qualifies h) : p.promoted.isEmpty = false :=
  isEmpty_promoted_eq_false (not_nothingToPromote_of_qualifies hq)

end EmergencyDial

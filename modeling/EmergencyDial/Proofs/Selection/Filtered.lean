import EmergencyDial.Proofs.Promotion
import EmergencyDial.Proofs.Selection.Decision

/-! Promotion has nothing left to do on what it has made, and a selection cannot tell whether it was done
before. -/
namespace EmergencyDial

/-- The map with each of its values as one that is there. -/
def ById.present {α : Type} (m : ById α) : ById (Option α) := m.filterMap fun a => some (some a)

/-- The platform with other lists of numbers. -/
def Platform.withLists (p : Platform) (lists : Option NumberLists) : Platform :=
  { p with numbers? := lists }

/-- The platform that lists promoted numbers only. What it cannot retrieve it lists as empty. -/
def Platform.filtered (p : Platform) : Platform :=
  p.withLists (some (p.numbers?.elim .empty fun lists => (classify lists).present))

variable {α : Type} {m : ById α} {i : SubscriptionId} {n : EmergencyNumber}
  {ns ms : List EmergencyNumber} {l : Option (List EmergencyNumber)} {lists : Option NumberLists}
  {p : Platform} {sel : Selector}

theorem ById.find?_present : m.present.find? i = (m.find? i).map some := by
  rw [present, find?_filterMap]
  cases m.find? i <;> rfl

/-- Behind a number of another origin no number of the database is left. -/
theorem promote_cons_of_pairwise (hn : n.isPromoted = true)
    (hp : (n :: ns).Pairwise fun m n => n.isPrioritized = true → m.isPrioritized = true) :
    promote (n :: ns) = n :: promote ns := by
  rw [promote_eq, promote_eq]
  cases hd : n.isPrioritized with
  | true => simp [hn, hd]
  | false =>
    -- one of the database among the rest would have to go before `n`
    have hns : (ns.filter fun n => n.isPromoted && n.isPrioritized) = [] := by
      rw [List.filter_eq_nil_iff]
      intro k hk hkp
      have hkd : k.isPrioritized = true := (Bool.and_eq_true_iff.1 hkp).2
      have := (List.pairwise_cons.1 hp).1 k hk hkd
      rw [hd] at this
      cases this
    simp [hn, hd, hns]

/-- Promotion is done with a list once all its numbers reach help and those of the database go first. -/
theorem promote_eq_self_iff : promote ns = ns ↔ (∀ n ∈ ns, n.isPromoted = true) ∧
    ns.Pairwise fun m n => n.isPrioritized = true → m.isPrioritized = true := by
  constructor
  · intro h
    refine ⟨fun n hn => ?_, ?_⟩
    · rw [← h] at hn
      exact (mem_promote.1 hn).2
    · rw [← h]
      exact pairwise_promote ns
  · rintro ⟨hall, hp⟩
    induction ns with
    | nil => rfl
    | cons n ns ih =>
      obtain ⟨hn, hns⟩ := List.forall_mem_cons.1 hall
      rw [promote_cons_of_pairwise hn hp, ih hns (List.pairwise_cons.1 hp).2]

theorem promote_promote (ns : List EmergencyNumber) : promote (promote ns) = promote ns :=
  promote_eq_self_iff.2 ⟨fun _ hn => (mem_promote.1 hn).2, pairwise_promote ns⟩

/-- A list that adds to a classification adds the same once it is promoted. -/
theorem promoteList?_promoteList? (h : promoteList? l = some ms) :
    promoteList? (some ms) = some ms := by
  obtain ⟨ks, _, hk, rfl⟩ := promoteList?_eq_some.1 h
  have hp : promote ks ≠ [] := promote_ne_nil_iff.2 hk
  rw [promoteList?, promote_promote, if_neg hp]

theorem classify_present (lists : NumberLists) :
    classify (classify lists).present = classify lists := by
  apply ById.ext_find?
  intro i
  rw [classify_eq (classify lists).present, ById.find?_filterMap, ById.find?_present, classify_eq,
    ById.find?_filterMap]
  cases hl : (lists.find? i).bind promoteList? with
  | none => rfl
  | some ms =>
    obtain ⟨l, _, hms⟩ := Option.bind_eq_some_iff.1 hl
    exact promoteList?_promoteList? hms

/-- The search asks for accounts and countries, and not for lists. -/
theorem firstSufficient_withLists (p : Platform) (lists : Option NumberLists) (m : PromotedLists)
    (k : Nat) (hs : List Handle) :
    (p.withLists lists).firstSufficient m k hs = p.firstSufficient m k hs := by
  induction hs generalizing k with
  | nil => rfl
  | cons h hs ih =>
    rw [Platform.firstSufficient, Platform.firstSufficient, ih]
    rfl

/-- Of the lists a selection knows only what is promoted of them. -/
theorem value_tryPick_withLists (hm : (p.withLists lists).promoted = p.promoted) (sel : Selector) :
    (sel.tryPick (p.withLists lists)).value = (sel.tryPick p).value := by
  rw [value_tryPick, value_tryPick, value_pickDefault, value_pickDefault, hm,
    firstSufficient_withLists]
  rfl

theorem promoted_filtered (p : Platform) : p.filtered.promoted = p.promoted := by
  change classify (p.numbers?.elim .empty fun lists => (classify lists).present) =
    classify (p.numbers?.getD .empty)
  cases p.numbers? with
  | none => rfl
  | some lists => exact classify_present lists

/-- What is classified once is classified for good; and where all lists are filtered beforehand, every
selection ends as it did, and every radio is seen as it was. -/
theorem selection_of_filtered :
    (∀ lists : NumberLists, classify (classify lists).present = classify lists) ∧
    ∀ p : Platform,
      (∀ sel : Selector, (sel.tryPick p.filtered).value = (sel.tryPick p).value) ∧
      ∀ h, p.filtered.snapshot p.filtered.promoted h = p.snapshot p.promoted h := by
  refine ⟨classify_present, ?_⟩
  intro p
  refine ⟨value_tryPick_withLists (promoted_filtered p), ?_⟩
  intro h
  rw [promoted_filtered]
  rfl

end EmergencyDial

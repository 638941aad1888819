import EmergencyDial.Number.Promotion

/-! The passes of promotion and classification as filters of what they read. -/
namespace EmergencyDial

variable {n : EmergencyNumber} {ns ms : List EmergencyNumber} {i : SubscriptionId}
  {lists : NumberLists} {es : List (SubscriptionId × Option (List EmergencyNumber))}

/-- The police, an ambulance and the fire brigade are the three lowest bits. -/
theorem isPromoted_eq (n : EmergencyNumber) : n.isPromoted = (n.services.bits &&& 0x07 != 0) := rfl

theorem isPrioritized_eq (n : EmergencyNumber) :
    n.isPrioritized = (n.origins.bits &&& 0x10 != 0) := rfl

theorem isPromoted_iff : n.isPromoted = true ↔ n.services.bits &&& 0x07 ≠ 0 := by
  rw [isPromoted_eq, bne_iff_ne]

theorem isPrioritized_iff : n.isPrioritized = true ↔ n.origins.bits &&& 0x10 ≠ 0 := by
  rw [isPrioritized_eq, bne_iff_ne]

/-- In both groups, what the pass has met stands in front of what it still meets. -/
theorem value_promoteFrom (first later ns : List EmergencyNumber) :
    (promoteFrom first later ns).value =
      (first.reverse ++ ns.filter fun n => n.isPromoted && n.isPrioritized) ++
        (later.reverse ++ ns.filter fun n => n.isPromoted && !n.isPrioritized) := by
  induction ns generalizing first later with
  | nil => simp [promoteFrom]
  | cons n ns ih =>
    rw [promoteFrom]
    cases hp : n.isPromoted with
    | false => simp [hp, ih]
    | true => cases hd : n.isPrioritized <;> simp [hp, hd, ih]

theorem promote_eq (ns : List EmergencyNumber) :
    promote ns = (ns.filter fun n => n.isPromoted && n.isPrioritized) ++
      ns.filter fun n => n.isPromoted && !n.isPrioritized := by
  simpa [promote, promoteLogged] using value_promoteFrom [] [] ns

example : (promote [⟨"a", "", "", ⟨0x02⟩, ⟨0x02⟩, .unknown⟩, ⟨"b", "", "", ⟨0x04⟩, ⟨0x10⟩, .unknown⟩,
    ⟨"c", "", "", ⟨0x10⟩, ⟨0x10⟩, .unknown⟩, ⟨"d", "", "", ⟨0x01⟩, ⟨0x04⟩, .unknown⟩,
    ⟨"e", "", "", ⟨0x01⟩, ⟨0x12⟩, .unknown⟩]).map (·.number) = ["b", "e", "a", "d"] := by
  decide

theorem promote_perm (ns : List EmergencyNumber) :
    (promote ns).Perm (ns.filter (·.isPromoted)) := by
  have h := List.filter_append_perm (·.isPrioritized) (ns.filter (·.isPromoted))
  rw [List.filter_filter, List.filter_filter] at h
  rw [promote_eq]
  simpa only [Bool.and_comm] using h

theorem mem_promote : n ∈ promote ns ↔ n ∈ ns ∧ n.isPromoted = true := by
  rw [(promote_perm ns).mem_iff, List.mem_filter]

theorem promote_ne_nil_iff : promote ns ≠ [] ↔ ∃ n ∈ ns, n.isPromoted = true := by
  constructor
  · intro h
    obtain ⟨n, hn⟩ := List.exists_mem_of_ne_nil _ h
    exact ⟨n, mem_promote.1 hn⟩
  · rintro ⟨n, hn⟩
    exact List.ne_nil_of_mem (mem_promote.2 hn)

/-- No number of the database stands behind one of another origin. -/
theorem pairwise_promote (ns : List EmergencyNumber) :
    (promote ns).Pairwise fun m n => n.isPrioritized = true → m.isPrioritized = true := by
  have hd : ∀ m ∈ ns.filter fun n => n.isPromoted && n.isPrioritized, m.isPrioritized = true := by
    intro m hm
    simp only [List.mem_filter, Bool.and_eq_true] at hm
    exact hm.2.2
  have ho : ∀ m ∈ ns.filter fun n => n.isPromoted && !n.isPrioritized,
      ¬ m.isPrioritized = true := by
    intro m hm
    simp only [List.mem_filter, Bool.and_eq_true, Bool.not_eq_true'] at hm
    simp [hm.2.2]
  rw [promote_eq, List.pairwise_append]
  refine ⟨?_, ?_, ?_⟩
  · exact List.pairwise_of_forall_mem_list fun m hm _ _ _ => hd m hm
  · exact List.pairwise_of_forall_mem_list fun _ _ n hn h => absurd h (ho n hn)
  · exact fun m hm _ _ _ => hd m hm

/-- What a list adds to a classification. -/
def promoteList? : Option (List EmergencyNumber) → Option (List EmergencyNumber)
  | none => none
  | some ns => if promote ns = [] then none else some (promote ns)

theorem promoteList?_eq_some {ns : Option (List EmergencyNumber)} :
    promoteList? ns = some ms ↔
      ∃ ks, ns = some ks ∧ (∃ n ∈ ks, n.isPromoted = true) ∧ ms = promote ks := by
  cases ns with
  | none => simp [promoteList?]
  | some ks =>
    rw [promoteList?]
    simp only [Option.some.injEq, exists_eq_left', ← promote_ne_nil_iff]
    split
    · next h => simp [h]
    · next h => simp [h, eq_comm]

/-- The entries still to come have greater ids than those added, so that each goes behind them. -/
theorem entries_classifyFrom (m : PromotedLists) (h : Ascending es)
    (hm : ∀ e ∈ m.entries, ∀ f ∈ es, e.1 < f.1) :
    (classifyFrom m es).value.entries =
      m.entries ++ es.filterMap fun e => (promoteList? e.2).map (e.1, ·) := by
  induction es generalizing m with
  | nil => simp [classifyFrom]
  | cons e es ih =>
    obtain ⟨i, ns⟩ := e
    have ⟨hi, hs⟩ := List.pairwise_cons.1 h
    have hes : ∀ e ∈ m.entries, ∀ f ∈ es, e.1 < f.1 := fun e he f hf =>
      hm e he f (List.mem_cons_of_mem _ hf)
    cases ns with
    | none => simpa [classifyFrom, promoteList?] using ih m hs hes
    | some ns =>
      simp only [classifyFrom, Logged.value_bind, List.filterMap_cons]
      change (classifyFrom (if (promote ns).isEmpty then m else m.insert i (promote ns))
        es).value.entries = _
      by_cases hn : promote ns = []
      · simpa [hn, promoteList?] using ih m hs hes
      · have hp : (m.insert i (promote ns)).entries = m.entries ++ [(i, promote ns)] :=
          placeEntry_of_lt fun e he => hm e he _ List.mem_cons_self
        have hlt : ∀ e ∈ (m.insert i (promote ns)).entries, ∀ f ∈ es, e.1 < f.1 := by
          intro e he f hf
          rw [hp, List.mem_append, List.mem_singleton] at he
          rcases he with he | rfl
          · exact hes e he f hf
          · exact hi f hf
        simp [hn, promoteList?, ih _ hs hlt, hp]

theorem value_classifyLogged (lists : NumberLists) : classify lists =
    if lists.isEmpty then .empty else (classifyFrom .empty lists.entries).value := by
  simp only [classify, classifyLogged]
  split
  · rfl
  · simp only [Logged.value_bind]
    split <;> rfl

/-- Every list counts for itself. -/
theorem classify_eq (lists : NumberLists) : classify lists = lists.filterMap promoteList? := by
  have h : (classifyFrom .empty lists.entries).value = lists.filterMap promoteList? := by
    apply ById.ext
    exact entries_classifyFrom .empty lists.ascending nofun
  rw [value_classifyLogged, h]
  split
  · next he =>
    obtain ⟨es, hs⟩ := lists
    obtain rfl := List.isEmpty_iff.1 he
    rfl
  · rfl

theorem find?_classify_eq_some : (classify lists).find? i = some ms ↔
    ∃ ns, lists.find? i = some (some ns) ∧ (∃ n ∈ ns, n.isPromoted = true) ∧ ms = promote ns := by
  rw [classify_eq, ById.find?_filterMap]
  simp only [Option.bind_eq_some_iff, promoteList?_eq_some]
  constructor
  · rintro ⟨_, hl, ns, rfl, hn⟩
    exact ⟨ns, hl, hn⟩
  · rintro ⟨ns, hl, hn⟩
    exact ⟨_, hl, ns, rfl, hn⟩

/-- A radio is classified by its own list alone, as the promoted numbers of that list if there are any;
and these are the numbers that reach help, all of them, those of the database first. -/
theorem classification_exact :
    (∀ (lists : NumberLists) (i : SubscriptionId),
      (∀ ms, (classify lists).find? i = some ms ↔
        ∃ ns, lists.find? i = some (some ns) ∧ (∃ n ∈ ns, n.services.bits &&& 0x07 ≠ 0) ∧
          ms = promote ns) ∧
      (classify lists).find? i ≠ some [] ∧
      ∀ lists' : NumberLists, lists'.find? i = lists.find? i →
        (classify lists').find? i = (classify lists).find? i) ∧
    ∀ ns : List EmergencyNumber,
      promote ns =
        (ns.filter fun n => n.services.bits &&& 0x07 != 0 && n.origins.bits &&& 0x10 != 0) ++
          ns.filter (fun n => n.services.bits &&& 0x07 != 0 && n.origins.bits &&& 0x10 == 0) ∧
      (promote ns).Perm (ns.filter fun n => n.services.bits &&& 0x07 != 0) := by
  constructor
  · intro lists i
    refine ⟨?_, ?_, ?_⟩
    · intro ms
      simp only [find?_classify_eq_some, isPromoted_iff]
    · intro h
      obtain ⟨ns, _, hn, he⟩ := find?_classify_eq_some.1 h
      exact promote_ne_nil_iff.2 hn he.symm
    · intro lists' h
      rw [classify_eq, classify_eq, ById.find?_filterMap, ById.find?_filterMap, h]
  · intro ns
    constructor
    · rw [promote_eq]
      simp only [isPromoted_eq, isPrioritized_eq, bne, Bool.not_not]
    · exact promote_perm ns

end EmergencyDial

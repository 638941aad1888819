import EmergencyDial.Subscription.Id

/-! Finite maps from subscriptions, kept in ascending order. -/
namespace EmergencyDial
variable {α β : Type} {i j : SubscriptionId} {a : α} {es : List (SubscriptionId × α)}

abbrev Ascending (es : List (SubscriptionId × α)) : Prop := es.Pairwise fun e f => e.1 < f.1

/-- At most one entry for each id. -/
structure ById (α : Type) where
  entries : List (SubscriptionId × α)
  ascending : Ascending entries

/-- Puts an entry in its place, over one with the same id. -/
def placeEntry (i : SubscriptionId) (a : α) :
    List (SubscriptionId × α) → List (SubscriptionId × α)
  | [] => [(i, a)]
  | e :: es =>
    if i < e.1 then (i, a) :: e :: es
    else if i = e.1 then (i, a) :: es
    else e :: placeEntry i a es

theorem mem_placeEntry {e : SubscriptionId × α} (h : e ∈ placeEntry i a es) :
    e = (i, a) ∨ e ∈ es := by
  induction es with
  | nil => simpa [placeEntry] using h
  | cons f es ih =>
    unfold placeEntry at h
    split at h
    · simpa using h
    · split at h
      · have := List.mem_cons.1 h
        exact this.imp id (List.mem_cons_of_mem f)
      · obtain rfl | h := List.mem_cons.1 h
        · simp
        · exact (ih h).imp id (List.mem_cons_of_mem f)

theorem ascending_placeEntry (h : Ascending es) : Ascending (placeEntry i a es) := by
  induction es with
  | nil => simp [placeEntry]
  | cons f es ih =>
    obtain ⟨hf, he⟩ := List.pairwise_cons.1 h
    unfold placeEntry
    split
    · next hi =>
      refine List.pairwise_cons.2 ⟨fun e hm => ?_, h⟩
      obtain rfl | hm := List.mem_cons.1 hm
      · exact hi
      · exact SubscriptionId.lt_trans hi (hf e hm)
    · next hi =>
      split
      · next hq => exact List.pairwise_cons.2 ⟨fun e hm => hq ▸ hf e hm, he⟩
      · next hq =>
        refine List.pairwise_cons.2 ⟨fun e hm => ?_, ih he⟩
        obtain rfl | hm := mem_placeEntry hm
        · exact SubscriptionId.lt_of_not_lt hi hq
        · exact hf e hm

/-- An entry behind all others is placed there. -/
theorem placeEntry_of_lt (h : ∀ e ∈ es, e.1 < i) : placeEntry i a es = es ++ [(i, a)] := by
  induction es with
  | nil => rfl
  | cons f es ih =>
    have hf : f.1 < i := h f List.mem_cons_self
    have hn : ¬ i < f.1 := fun hi => SubscriptionId.lt_irrefl i (SubscriptionId.lt_trans hi hf)
    have hne : i ≠ f.1 := by
      rintro rfl
      exact hn hf
    rw [placeEntry, if_neg hn, if_neg hne, ih fun e he => h e (List.mem_cons_of_mem f he)]
    rfl

namespace ById

@[ext] theorem ext {m n : ById α} (h : m.entries = n.entries) : m = n := by
  cases m
  cases n
  simpa using h

def empty : ById α := ⟨[], .nil⟩

def insert (m : ById α) (i : SubscriptionId) (a : α) : ById α :=
  ⟨placeEntry i a m.entries, ascending_placeEntry m.ascending⟩

/-- A later entry replaces an earlier one with the same id. -/
def insertAll (m : ById α) (es : List (SubscriptionId × α)) : ById α :=
  es.foldl (fun m e => m.insert e.1 e.2) m

def ofList (es : List (SubscriptionId × α)) : ById α := empty.insertAll es

def find? (m : ById α) (i : SubscriptionId) : Option α :=
  (m.entries.find? fun e => e.1 = i).map (·.2)

def isEmpty (m : ById α) : Bool := m.entries.isEmpty

def size (m : ById α) : Nat := m.entries.length

/-- The entries for whose value there is another, with that one. -/
def filterMap (f : α → Option β) (m : ById α) : ById β where
  entries := m.entries.filterMap fun e => (f e.2).map (e.1, ·)
  ascending := by
    refine List.pairwise_filterMap.2 (m.ascending.imp fun h b hb c hc => ?_)
    obtain ⟨_, _, rfl⟩ := Option.map_eq_some_iff.1 hb
    obtain ⟨_, _, rfl⟩ := Option.map_eq_some_iff.1 hc
    exact h

@[simp] theorem find?_empty : (empty : ById α).find? i = none := rfl

theorem find?_placeEntry (h : Ascending es) :
    ((placeEntry i a es).find? fun e => e.1 = j) =
      if i = j then some (i, a) else es.find? fun e => e.1 = j := by
  induction es with
  | nil => simp [placeEntry, List.find?_cons]; grind
  | cons f es ih =>
    obtain ⟨hf, he⟩ := List.pairwise_cons.1 h
    unfold placeEntry
    split
    · grind
    · split
      · grind
      · have := ih he
        grind

/-- The last value written under an id is the one found there. -/
@[simp] theorem find?_insert (m : ById α) :
    (m.insert i a).find? j = if i = j then some a else m.find? j := by
  simp only [find?, insert, find?_placeEntry m.ascending]
  split <;> rfl

/-- Of several entries for an id, or one that was there before, the last is found. -/
theorem find?_insertAll (m : ById α) (es : List (SubscriptionId × α)) :
    (m.insertAll es).find? i = ((es.reverse.find? fun e => e.1 = i).map (·.2)).or (m.find? i) := by
  induction es generalizing m with
  | nil => rfl
  | cons e es ih =>
    have he : (([e].find? fun e => e.1 = i).map (·.2)).or (m.find? i) = (m.insert e.1 e.2).find? i := by
      rw [find?_insert]
      by_cases h : e.1 = i <;> simp [h]
    change ((m.insert e.1 e.2).insertAll es).find? i = _
    rw [ih, List.reverse_cons, List.find?_append, Option.map_or, Option.or_assoc, he]

/-- Entries in ascending order come to stand as they are. -/
theorem entries_insertAll (m : ById α) (h : Ascending (m.entries ++ es)) :
    (m.insertAll es).entries = m.entries ++ es := by
  induction es generalizing m with
  | nil => exact (List.append_nil _).symm
  | cons e es ih =>
    have hlt : ∀ f ∈ m.entries, f.1 < e.1 :=
      fun f hf => (List.pairwise_append.1 h).2.2 f hf e List.mem_cons_self
    have he : (m.insert e.1 e.2).entries = m.entries ++ [e] := placeEntry_of_lt hlt
    change ((m.insert e.1 e.2).insertAll es).entries = _
    rw [ih _ (by simpa [he] using h), he, List.append_assoc, List.singleton_append]

theorem ofList_entries (m : ById α) : ofList m.entries = m :=
  ext (entries_insertAll empty m.ascending)

theorem find?_eq_none_of_lt (h : ∀ e ∈ es, i < e.1) : (es.find? fun e => e.1 = i) = none := by
  refine List.find?_eq_none.2 fun e he hi => ?_
  have := h e he
  simp only [decide_eq_true_eq] at hi
  rw [hi] at this
  exact SubscriptionId.lt_irrefl i this

/-- What stands under an id depends on what stood there, and on no other entry. -/
@[simp] theorem find?_filterMap (f : α → Option β) (m : ById α) :
    (m.filterMap f).find? i = (m.find? i).bind f := by
  obtain ⟨es, h⟩ := m
  simp only [find?, filterMap]
  induction es with
  | nil => rfl
  | cons e es ih =>
    obtain ⟨he, h⟩ := List.pairwise_cons.1 h
    have ih := ih h
    by_cases hi : e.1 = i
    · subst hi
      cases hf : f e.2 with
      | some b => simp [hf]
      | none =>
        rw [find?_eq_none_of_lt he] at ih
        simpa [hf] using ih
    · cases hf : f e.2 with
      | some b => simpa [hf, hi] using ih
      | none => simpa [hf, hi] using ih

/-- No other entry has the id of one, so that each is found under its own. -/
theorem find?_eq_some_iff {m : ById α} : m.find? i = some a ↔ (i, a) ∈ m.entries := by
  obtain ⟨es, h⟩ := m
  simp only [find?]
  induction es with
  | nil => simp
  | cons e es ih =>
    obtain ⟨he, h⟩ := List.pairwise_cons.1 h
    by_cases hi : e.1 = i
    · subst hi
      have hn : (e.1, a) ∉ es := fun hm => SubscriptionId.lt_irrefl e.1 (he (e.1, a) hm)
      simp [hn, Prod.ext_iff, eq_comm]
    · have hne : (i, a) ≠ e := by
        rintro rfl
        exact hi rfl
      rw [List.find?_cons_of_neg (by simpa using hi), ih h, List.mem_cons, or_iff_right hne]

theorem nodup (m : ById α) : m.entries.Nodup := by
  refine m.ascending.imp ?_
  rintro e f hlt rfl
  exact SubscriptionId.lt_irrefl e.1 hlt

/-- A map is known by what is found in it. -/
theorem ext_find? {m n : ById α} (h : ∀ i, m.find? i = n.find? i) : m = n := by
  have hp : m.entries.Perm n.entries := by
    rw [List.perm_ext_iff_of_nodup m.nodup n.nodup]
    rintro ⟨i, a⟩
    rw [← find?_eq_some_iff, h, find?_eq_some_iff]
  apply ext
  refine hp.eq_of_pairwise ?_ m.ascending n.ascending
  intro e f _ _ hlt hgt
  exact absurd (SubscriptionId.lt_trans hlt hgt) (SubscriptionId.lt_irrefl e.1)

theorem insert_insert (m : ById α) (i : SubscriptionId) (a b : α) :
    (m.insert i a).insert i b = m.insert i b := by
  apply ext_find?
  intro k
  by_cases hk : i = k <;> simp [hk]

theorem insert_comm (m : ById α) (h : i ≠ j) (a b : α) :
    (m.insert i a).insert j b = (m.insert j b).insert i a := by
  apply ext_find?
  intro k
  by_cases hk : i = k
  · subst hk
    simp [h.symm]
  · simp [hk]

theorem isEmpty_iff {m : ById α} : m.isEmpty = true ↔ ∀ i, m.find? i = none := by
  obtain ⟨es, h⟩ := m
  cases es with
  | nil => simp [isEmpty, find?]
  | cons e es =>
    constructor
    · intro he
      cases he
    · intro hn
      have := hn e.1
      simp [find?] at this

end ById
end EmergencyDial

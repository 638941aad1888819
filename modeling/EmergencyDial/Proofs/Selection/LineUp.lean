import EmergencyDial.Proofs.Selection.Decision
import Mathlib.Data.List.Nodup
import Mathlib.Data.Option.Basic

/-! The line of all radios that a selection may come to, how it shortens and how it grows. -/
namespace EmergencyDial

/-- Later sources have greater ranks. -/
def Source.rank : Source → Nat
  | .byDefault => 0
  | .callCapable k => k + 1

/-- The default radio if it is sufficient, and behind it the other sufficient radios that can place
calls, in order. -/
def Platform.lineUp (p : Platform) (s : Scheme) : List Selection :=
  ((p.defaultRadio? s).toList.filter fun h => p.Sufficient h).map
      (fun h => ⟨p.snapshot p.promoted h, .byDefault⟩) ++
    (p.enumeration.callCapable.zipIdx.filter fun x =>
        p.Sufficient x.1 ∧ p.defaultRadio? s ≠ some x.1).map
      fun x => ⟨p.snapshot p.promoted x.1, .callCapable x.2⟩

/-- The part of the line that comes of these radios, the first of which has the position `k`. -/
def Platform.lineUpFrom (p : Platform) (s : Scheme) (k : Nat) (hs : List Handle) : List Selection :=
  ((hs.zipIdx k).filter fun x => p.Sufficient x.1 ∧ p.defaultRadio? s ≠ some x.1).map
    fun x => ⟨p.snapshot p.promoted x.1, .callCapable x.2⟩

/-- Nothing of `p` changes but that the radio of `h` is not sufficient any more. -/
structure Platform.Loses (p p' : Platform) (h : Handle) : Prop where
  enumeration : p'.enumeration = p.enumeration
  defaultRadio? : p'.defaultRadio? = p.defaultRadio?
  promoted : p'.promoted = p.promoted
  snapshot : ∀ g, g ≠ h → p'.snapshot p'.promoted g = p.snapshot p.promoted g
  lost : ¬ p'.Sufficient h

/-- In `p'` the radios of `hs` come in behind those of `p`, of which nothing changes. -/
structure Platform.Extends (p p' : Platform) (s : Scheme) (hs : List Handle) : Prop where
  counted : p.enumeration.radioCount ≠ 0 → p'.enumeration.radioCount ≠ 0
  promoted : p'.promoted = p.promoted
  callCapable : p'.enumeration.callCapable = p.enumeration.callCapable ++ hs
  defaultRadio? : p'.defaultRadio? s = p.defaultRadio? s
  snapshot : ∀ h, p.defaultRadio? s = some h ∨ h ∈ p.enumeration.callCapable →
    p'.snapshot p'.promoted h = p.snapshot p.promoted h

variable {p p' : Platform} {s : Scheme} {sel : Selector} {h g : Handle} {x : Selection}
  {xs : List Selection} {hs : List Handle}

@[simp] theorem handle_snapshot (p : Platform) (m : PromotedLists) (h : Handle) :
    (p.snapshot m h).handle = some h := rfl

/-- The search finds the first sufficient radio together with its position. -/
theorem value_firstSufficient_eq (p : Platform) (k : Nat) (hs : List Handle) :
    (p.firstSufficient p.promoted k hs).value =
      ((hs.zipIdx k).find? fun x => p.Sufficient x.1).elim (.error .noneSufficient)
        fun x => .ok ⟨p.snapshot p.promoted x.1, .callCapable x.2⟩ := by
  induction hs generalizing k with
  | nil => rfl
  | cons h hs ih =>
    rw [value_firstSufficient_cons, List.zipIdx_cons]
    by_cases hh : p.Sufficient h
    · rw [List.find?_cons_of_pos (by simpa using hh), if_pos hh]
      rfl
    · rw [List.find?_cons_of_neg (by simpa using hh), if_neg hh, ih]

theorem lineUp_of_default (hd : p.defaultRadio? s = some h) (hs : p.Sufficient h) :
    ∃ xs, p.lineUp s = ⟨p.snapshot p.promoted h, .byDefault⟩ :: xs := by
  simp [Platform.lineUp, hd, hs]

theorem lineUp_of_no_default (hd : ∀ g, p.defaultRadio? s = some g → ¬ p.Sufficient g) :
    p.lineUp s = (p.enumeration.callCapable.zipIdx.filter fun x => p.Sufficient x.1).map
      fun x => ⟨p.snapshot p.promoted x.1, .callCapable x.2⟩ := by
  have hdef : ((p.defaultRadio? s).toList.filter fun h => p.Sufficient h) = [] := by
    rw [List.filter_eq_nil_iff]
    intro g hg
    simpa using hd g (Option.mem_toList.1 hg)
  have hcap : ∀ x : Handle × Nat, (p.Sufficient x.1 ∧ p.defaultRadio? s ≠ some x.1) ↔
      p.Sufficient x.1 := fun x => and_iff_left_of_imp fun hs he => hd x.1 he hs
  simp only [Platform.lineUp, hdef, hcap, List.map_nil, List.nil_append]

/-- A selection is the head of the line. -/
theorem value_tryPick_eq_head? (hc : p.enumeration.radioCount ≠ 0)
    (hp : p.promoted.isEmpty = false) : (sel.tryPick p).value =
      (p.lineUp sel.scheme).head?.elim (.error .noneSufficient) .ok := by
  rw [value_tryPick, if_neg hc, hp, if_neg Bool.false_ne_true]
  rcases pickDefault_cases p sel with ⟨h, hd, hs, hv⟩ | ⟨hd, hv⟩
  · obtain ⟨xs, hl⟩ := lineUp_of_default hd hs
    rw [hv, hl]
    rfl
  · rw [hv, lineUp_of_no_default hd, List.head?_map, List.head?_filter, value_firstSufficient_eq]
    cases p.enumeration.callCapable.zipIdx.find? fun x => p.Sufficient x.1 <;> rfl

/-- Unless there is no radio or nothing to promote, a selection that fails passed all radios over. -/
theorem open_of_tryPick (hc : (sel.tryPick p).value ≠ .error .noRadio)
    (hp : (sel.tryPick p).value ≠ .error .nothingPromoted) :
    p.enumeration.radioCount ≠ 0 ∧ p.promoted.isEmpty = false := by
  have hd := decision_tryPick p sel
  generalize (sel.tryPick p).value = y at hc hp hd
  cases hd with
  | noRadio => exact absurd rfl hc
  | nothingPromoted => exact absurd rfl hp
  | byDefault hc' hp' => exact ⟨hc', hp'⟩
  | callCapable hc' hp' => exact ⟨hc', hp'⟩
  | noneSufficient hc' hp' => exact ⟨hc', hp'⟩

theorem sufficient_of_mem_lineUp (hx : x ∈ p.lineUp s) :
    ∃ h, x.snapshot = p.snapshot p.promoted h ∧ p.Sufficient h := by
  rw [Platform.lineUp, List.mem_append, List.mem_map, List.mem_map] at hx
  rcases hx with ⟨h, hm, rfl⟩ | ⟨⟨h, k⟩, hm, rfl⟩
  · exact ⟨h, rfl, by simpa using (List.mem_filter.1 hm).2⟩
  · have hs := (List.mem_filter.1 hm).2
    simp only [decide_eq_true_eq] at hs
    exact ⟨h, rfl, hs.1⟩

/-- In the line a radio that can place calls is known by its own position. -/
theorem position_of_mem_lineUp {k : Nat} (hx : x ∈ p.lineUp s) (hk : x.source = .callCapable k) :
    p.enumeration.callCapable[k]? = x.snapshot.handle := by
  rw [Platform.lineUp, List.mem_append, List.mem_map, List.mem_map] at hx
  rcases hx with ⟨h, _, rfl⟩ | ⟨⟨h, j⟩, hm, rfl⟩
  · cases hk
  · cases hk
    exact List.mem_zipIdx_iff_getElem?.1 (List.mem_filter.1 hm).1

theorem map_rank_lineUp (p : Platform) (s : Scheme) : (p.lineUp s).map (·.source.rank) =
    ((p.defaultRadio? s).toList.filter fun h => p.Sufficient h).map (fun _ => 0) ++
      ((p.enumeration.callCapable.zipIdx.filter fun x =>
        p.Sufficient x.1 ∧ p.defaultRadio? s ≠ some x.1).map Prod.snd).map (· + 1) := by
  rw [Platform.lineUp, List.map_append, List.map_map, List.map_map, List.map_map]
  rfl

theorem pairwise_rank_lineUp (p : Platform) (s : Scheme) :
    ((p.lineUp s).map (·.source.rank)).Pairwise (· < ·) := by
  have hz : (p.enumeration.callCapable.zipIdx.map Prod.snd).Pairwise (· < ·) := by
    rw [List.zipIdx_map_snd]
    exact List.pairwise_lt_range'
  have hf := hz.sublist (List.filter_sublist.map Prod.snd : List.Sublist
    ((p.enumeration.callCapable.zipIdx.filter fun x =>
      p.Sufficient x.1 ∧ p.defaultRadio? s ≠ some x.1).map Prod.snd) _)
  rw [map_rank_lineUp, List.pairwise_append]
  refine ⟨?_, ?_, ?_⟩
  · cases p.defaultRadio? s with
    | none => simp
    | some h => by_cases hs : p.Sufficient h <;> simp [hs]
  · exact List.pairwise_map.2 (hf.imp fun hlt => Nat.add_lt_add_right hlt 1)
  · intro a ha b hb
    obtain ⟨_, _, rfl⟩ := List.mem_map.1 ha
    obtain ⟨_, _, rfl⟩ := List.mem_map.1 hb
    exact Nat.succ_pos _

theorem map_handle_lineUp (p : Platform) (s : Scheme) : (p.lineUp s).map (·.snapshot.handle) =
    (((p.defaultRadio? s).toList.filter fun h => p.Sufficient h) ++
      (p.enumeration.callCapable.zipIdx.filter fun x =>
        p.Sufficient x.1 ∧ p.defaultRadio? s ≠ some x.1).map Prod.fst).map some := by
  rw [Platform.lineUp, List.map_append, List.map_map, List.map_map, List.map_append, List.map_map]
  rfl

theorem nodup_handle_lineUp (hn : p.enumeration.callCapable.Nodup) (s : Scheme) :
    ((p.lineUp s).map (·.snapshot.handle)).Nodup := by
  have hz : (p.enumeration.callCapable.zipIdx.map Prod.fst).Nodup := by
    rwa [List.zipIdx_map_fst]
  rw [map_handle_lineUp, List.nodup_map_iff (Option.some_injective _), List.nodup_append]
  refine ⟨?_, hz.sublist (List.filter_sublist.map Prod.fst), ?_⟩
  · cases p.defaultRadio? s with
    | none => simp
    | some h => by_cases hs : p.Sufficient h <;> simp [hs]
  · rintro a ha b hb rfl
    obtain ⟨⟨_, k⟩, hm, rfl⟩ := List.mem_map.1 hb
    have hne := (List.mem_filter.1 hm).2
    simp only [decide_eq_true_eq] at hne
    exact hne.2 (Option.mem_toList.1 (List.mem_filter.1 ha).1)

theorem filter_map_congr {α β : Type} {P P' : α → Bool} {f f' : α → β} {l : List α}
    (hP : ∀ a ∈ l, P' a = P a) (hf : ∀ a ∈ l, P' a = true → f' a = f a) :
    (l.filter P').map f' = (l.filter P).map f := by
  rw [← List.filter_congr hP]
  exact List.map_congr_left fun a ha => hf a (List.mem_filter.1 ha).1 (List.mem_filter.1 ha).2

theorem map_filter_of {α β : Type} {P P' : α → Bool} {f f' : α → β} {R : β → Bool} {l : List α}
    (hP : ∀ a, P' a = (R (f a) && P a)) (hf : ∀ a, P' a = true → f' a = f a) :
    (l.filter P').map f' = ((l.filter P).map f).filter R := by
  rw [List.filter_map, List.filter_filter]
  exact filter_map_congr (fun a _ => hP a) fun a _ => hf a

theorem Platform.Loses.sufficient_iff (hl : p.Loses p' h) :
    p'.Sufficient g ↔ g ≠ h ∧ p.Sufficient g := by
  by_cases hg : g = h
  · subst hg
    simp [hl.lost]
  · simp [Platform.Sufficient, hl.snapshot g hg, hg]

/-- Whoever stops to be sufficient leaves the line, and the others stay as they are. -/
theorem lineUp_of_loses (hl : p.Loses p' h) (s : Scheme) :
    p'.lineUp s = (p.lineUp s).filter fun x => x.snapshot.handle ≠ some h := by
  rw [Platform.lineUp, Platform.lineUp, List.filter_append, hl.enumeration, hl.defaultRadio?]
  congr 1
  · apply map_filter_of
    · intro g
      simp [hl.sufficient_iff]
    · intro g hg
      rw [decide_eq_true_eq, hl.sufficient_iff] at hg
      rw [hl.snapshot g hg.1]
  · apply map_filter_of
    · intro x
      simp [hl.sufficient_iff, Bool.and_assoc]
    · intro x hx
      rw [decide_eq_true_eq, hl.sufficient_iff] at hx
      rw [hl.snapshot x.1 hx.1.1]

/-- When the head is lost, the rest of the line moves up. -/
theorem lineUp_of_loses_head (hn : p.enumeration.callCapable.Nodup) (hl : p.Loses p' h)
    (hx : p.lineUp s = x :: xs) (hh : x.snapshot.handle = some h) : p'.lineUp s = xs := by
  have hd := nodup_handle_lineUp hn s
  rw [hx, List.map_cons, List.nodup_cons, hh] at hd
  have hxs : ∀ y ∈ xs, decide (y.snapshot.handle ≠ some h) = true := by
    intro y hy
    rw [decide_eq_true_eq]
    intro he
    exact hd.1 (List.mem_map.2 ⟨y, hy, he⟩)
  rw [lineUp_of_loses hl, hx, List.filter_cons_of_neg (by simp [hh]), List.filter_eq_self.2 hxs]

theorem of_mem_lineUpFrom {k : Nat} (hx : x ∈ p.lineUpFrom s k hs) : ∃ j h, hs[j]? = some h ∧
    x = ⟨p.snapshot p.promoted h, .callCapable (k + j)⟩ := by
  obtain ⟨⟨h, n⟩, hm, rfl⟩ := List.mem_map.1 hx
  obtain ⟨hle, hn⟩ := List.mem_zipIdx_iff_le_and_getElem?_sub.1 (List.mem_filter.1 hm).1
  refine ⟨n - k, h, hn, ?_⟩
  rw [Nat.add_sub_of_le hle]

/-- The radios that come in stand at the end of the line. -/
theorem lineUp_of_extends (he : p.Extends p' s hs) : p'.lineUp s =
    p.lineUp s ++ p'.lineUpFrom s p.enumeration.callCapable.length hs := by
  have hd : ∀ h ∈ (p.defaultRadio? s).toList,
      p'.snapshot p'.promoted h = p.snapshot p.promoted h := fun h hm =>
    he.snapshot h (Or.inl (Option.mem_toList.1 hm))
  have hc : ∀ x ∈ p.enumeration.callCapable.zipIdx,
      p'.snapshot p'.promoted x.1 = p.snapshot p.promoted x.1 := fun x hm =>
    he.snapshot x.1 (Or.inr (List.fst_mem_of_mem_zipIdx hm))
  rw [Platform.lineUp, Platform.lineUp, Platform.lineUpFrom, he.callCapable, List.zipIdx_append,
    List.filter_append, List.map_append, Nat.zero_add, he.defaultRadio?, ← List.append_assoc]
  congr 2
  · apply filter_map_congr
    · intro h hm
      simp only [Platform.Sufficient, hd h hm]
    · intro h hm _
      rw [hd h hm]
  · apply filter_map_congr
    · intro x hm
      simp only [Platform.Sufficient, hc x hm]
    · intro x hm _
      rw [hc x hm]

theorem value_tryPick_of_extends (he : p.Extends p' sel.scheme hs)
    (hc : p.enumeration.radioCount ≠ 0) (hp : p.promoted.isEmpty = false) :
    (sel.tryPick p').value = ((p.lineUp sel.scheme).head?.or
      (p'.lineUpFrom sel.scheme p.enumeration.callCapable.length hs).head?).elim
        (.error .noneSufficient) .ok := by
  have hp' : p'.promoted.isEmpty = false := by rw [he.promoted, hp]
  rw [value_tryPick_eq_head? (he.counted hc) hp', lineUp_of_extends he, List.head?_append]

/-- A selection that was made before is still made. -/
theorem ok_of_extends (he : p.Extends p' sel.scheme hs) (hv : (sel.tryPick p).value = .ok x) :
    (sel.tryPick p').value = .ok x := by
  obtain ⟨hc, hp⟩ := open_of_tryPick (by rw [hv]; nofun) (by rw [hv]; nofun)
  rw [value_tryPick_eq_head? hc hp] at hv
  rw [value_tryPick_of_extends he hc hp]
  cases hl : (p.lineUp sel.scheme).head? with
  | none =>
    rw [hl] at hv
    cases hv
  | some y =>
    rw [hl] at hv
    exact hv

theorem nothingPromoted_of_extends (he : p.Extends p' sel.scheme hs)
    (hv : (sel.tryPick p).value = .error .nothingPromoted) :
    (sel.tryPick p').value = .error .nothingPromoted := by
  cases value_tryPick_iff.1 hv with
  | nothingPromoted hc hp =>
    exact value_tryPick_iff.2 (.nothingPromoted (he.counted hc) (by rw [he.promoted, hp]))

/-- Where no radio was sufficient, only one that comes in can be selected. -/
theorem noneSufficient_of_extends (he : p.Extends p' sel.scheme hs)
    (hv : (sel.tryPick p).value = .error .noneSufficient) :
    (sel.tryPick p').value = .error .noneSufficient ∨
      ∃ k h, hs[k]? = some h ∧ (sel.tryPick p').value =
        .ok ⟨p'.snapshot p'.promoted h, .callCapable (p.enumeration.callCapable.length + k)⟩ := by
  obtain ⟨hc, hp⟩ := open_of_tryPick (by rw [hv]; nofun) (by rw [hv]; nofun)
  rw [value_tryPick_eq_head? hc hp] at hv
  rw [value_tryPick_of_extends he hc hp]
  cases hl : (p.lineUp sel.scheme).head? with
  | some y =>
    rw [hl] at hv
    cases hv
  | none =>
    rw [Option.none_or]
    cases hn : (p'.lineUpFrom sel.scheme p.enumeration.callCapable.length hs).head? with
    | none => exact Or.inl rfl
    | some y =>
      obtain ⟨k, h, hk, rfl⟩ := of_mem_lineUpFrom (List.mem_of_head? hn)
      exact Or.inr ⟨k, h, hk, rfl⟩

end EmergencyDial

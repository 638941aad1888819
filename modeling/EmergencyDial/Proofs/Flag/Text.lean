import EmergencyDial.Flag.Text

/-! A set of flags is read back from its text, the bits that no flag names included. -/
namespace EmergencyDial.FlagSet
open Text

variable {k : FlagKind} {f : Flag} {n : Nat} {x : List Char} {xs : List (List Char)}

/-- The union of words, over a word to begin with. -/
def unite (z : UInt32) (bs : List UInt32) : UInt32 := bs.foldl (· ||| ·) z

theorem unite_cons (z b : UInt32) (bs : List UInt32) : unite z (b :: bs) = unite (z ||| b) bs := rfl

theorem unite_eq (z : UInt32) (bs : List UInt32) : unite z bs = z ||| unite 0 bs := by
  induction bs generalizing z with
  | nil => simp [unite]
  | cons b bs ih => rw [unite_cons, unite_cons, ih, ih (0 ||| b), UInt32.zero_or, UInt32.or_assoc]

theorem unite_zero_cons (b : UInt32) (bs : List UInt32) :
    unite 0 (b :: bs) = b ||| unite 0 bs := by
  rw [unite_cons, unite_eq, UInt32.zero_or]

/-- Every flag has a bit of its own. -/
theorem bit_eq_twoPow (hf : f ∈ k.flags) : ∃ i, f.bit.toBitVec = BitVec.twoPow 32 i := by
  have hp : ∀ f ∈ k.flags, ∃ i < 7, f.bit.toBitVec = BitVec.twoPow 32 i := by
    cases k <;> decide
  obtain ⟨i, _, hi⟩ := hp f hf
  exact ⟨i, hi⟩

/-- A set has a flag's bit or nothing of it. -/
theorem and_bit (hf : f ∈ k.flags) (a : FlagSet k) :
    a.bits &&& f.bit = if a.contains ⟨f.bit⟩ then f.bit else 0 := by
  obtain ⟨i, hi⟩ := bit_eq_twoPow hf
  have hb : a.bits &&& f.bit = f.bit ∨ a.bits &&& f.bit = 0 := by
    have h := BitVec.and_twoPow a.bits.toBitVec i
    rw [← hi, ← UInt32.toBitVec_and] at h
    split at h
    · exact Or.inl (UInt32.toBitVec_inj.1 h)
    · exact Or.inr (UInt32.toBitVec_inj.1 h)
  simp only [contains, beq_iff_eq]
  split
  · assumption
  · next hn => exact hb.resolve_left hn

theorem and_or_distrib (a b c : UInt32) : a &&& (b ||| c) = (a &&& b) ||| (a &&& c) := by
  apply UInt32.toBitVec_inj.1
  simp [BitVec.and_or_distrib_left]

/-- The flags in a set come to the bits that they name. -/
theorem unite_members (a : FlagSet k) {fs : List Flag} (h : ∀ f ∈ fs, f ∈ k.flags) :
    unite 0 ((fs.filter fun f => a.contains ⟨f.bit⟩).map Flag.bit) =
      a.bits &&& unite 0 (fs.map Flag.bit) := by
  induction fs with
  | nil => simp [unite]
  | cons f fs ih =>
    have hb := and_bit (h f List.mem_cons_self) a
    have ih := ih fun g hg => h g (List.mem_cons_of_mem f hg)
    rw [List.map_cons, unite_zero_cons, and_or_distrib, ← ih, hb, List.filter_cons]
    cases a.contains (⟨f.bit⟩ : FlagSet k) with
    | false => simp
    | true => simp [unite_zero_cons]

theorem unite_items (a : FlagSet k) :
    unite 0 (a.members.map Flag.bit ++ if a.surplus = 0 then [] else [a.surplus]) = a.bits := by
  have hm : unite 0 (a.members.map Flag.bit) = a.bits &&& (all : FlagSet k).bits :=
    unite_members a fun _ hf => hf
  have hs : unite 0 (if a.surplus = 0 then [] else [a.surplus]) = a.surplus := by
    split
    · next h => simp [unite, h]
    · simp [unite]
  have ha : unite 0 (a.members.map Flag.bit ++ if a.surplus = 0 then [] else [a.surplus]) =
      unite (unite 0 (a.members.map Flag.bit)) (if a.surplus = 0 then [] else [a.surplus]) :=
    List.foldl_append
  rw [ha, unite_eq, hs, hm, surplus, ← and_or_distrib]
  simp

theorem readItem_name (hf : f ∈ k.flags) : readItem k f.name.toList = .ok f.bit := by
  have hr : ∀ f ∈ k.flags, (readItem k f.name.toList).toOption = some f.bit := by
    cases k <;> decide
  have h := hr f hf
  cases hi : readItem k f.name.toList with
  | error e => simp [hi, Except.toOption] at h
  | ok b => simpa [hi, Except.toOption] using h

theorem hexWord?_of_value? (hx : Hex.value? x = some n) (hne : x ≠ []) (hn : n < UInt32.size) :
    hexWord? x = some (.ofNatLT n hn) := by
  obtain ⟨c, cs, rfl⟩ := List.exists_cons_of_ne_nil hne
  have hc : c ≠ '+' := by
    rintro rfl
    have := Hex.toNat_of_extend? hx '+' List.mem_cons_self
    exact absurd this (by decide)
  simp only [hexWord?, List.head?_cons, Option.some.injEq, hc, if_false, hx, Option.bind_some,
    dif_pos hn]

theorem readItem_hex (hx : Hex.value? x = some n) (hne : x ≠ []) (hn : n < UInt32.size) :
    readItem k ('0' :: 'x' :: x) = .ok (.ofNatLT n hn) := by
  rw [readItem, hexWord?_of_value? hx hne hn]
  rfl

/-- Every item is read as the word it stands for. -/
theorem readItems_eq {css : List (List Char)} {bs : List UInt32} (a : FlagSet k)
    (h : css.map (fun cs => readItem k (trim cs)) = bs.map .ok) :
    readItems a css = .ok ⟨unite a.bits bs⟩ := by
  induction css generalizing a bs with
  | nil =>
    obtain rfl := List.map_eq_nil_iff.1 h.symm
    rfl
  | cons cs css ih =>
    obtain ⟨b, bs, rfl, hb, hbs⟩ := List.map_eq_cons_iff.1 h.symm
    have hb : readItem k (trim cs) = .ok b := hb.symm
    rw [readItems, hb]
    exact ih (a.union ⟨b⟩) hbs.symm

/-- Bars part the items of a text, however many blanks there are around them. -/
theorem read_intercalate {css : List (List Char)} {bs : List UInt32}
    (hb : ∀ cs ∈ css, '|' ∉ cs) (hne : trim (['|'].intercalate css) ≠ [])
    (h : css.map (fun cs => readItem k (trim cs)) = bs.map .ok) :
    read (['|'].intercalate css) = .ok (⟨unite 0 bs⟩ : FlagSet k) := by
  have hcs : css ≠ [] := by
    rintro rfl
    exact hne rfl
  rw [read, if_neg hne, List.splitOn_intercalate '|' hb hcs]
  exact readItems_eq empty h

/-- The blanks around bars can be counted to the items. -/
theorem intercalate_spaced (hb : ∀ cs ∈ x :: xs, '|' ∉ cs) :
    ∃ css, [' ', '|', ' '].intercalate (x :: xs) = ['|'].intercalate css ∧
      (∀ cs ∈ css, '|' ∉ cs) ∧ css.map trim = (x :: xs).map trim := by
  have hs : ∀ c ∈ [' '], isBlank c = true := by
    intro c hc
    obtain rfl := List.mem_singleton.1 hc
    decide
  induction xs generalizing x with
  | nil => exact ⟨[x], by simp, hb, rfl⟩
  | cons y ys ih =>
    have hx := hb x List.mem_cons_self
    have hy : ∀ cs ∈ (' ' :: y) :: ys, '|' ∉ cs := by
      intro cs hm
      rcases List.mem_cons.1 hm with rfl | hm
      · have := hb y (by simp)
        simp [this]
      · exact hb cs (by simp [hm])
    obtain ⟨css, hi, hn, ht⟩ := ih hy
    have hne : css ≠ [] := by
      rintro rfl
      cases ht
    refine ⟨(x ++ [' ']) :: css, ?_, ?_, ?_⟩
    · rw [List.intercalate_cons_of_ne_nil hne, ← hi, List.intercalate_cons_cons_left,
        List.intercalate_cons_cons]
      simp
    · intro cs hm
      rcases List.mem_cons.1 hm with rfl | hm
      · simp [hx]
      · exact hn cs hm
    · have hl : trim (' ' :: y) = trim y := trim_blank_append hs
      rw [List.map_cons, ht, trim_append_blank hs, List.map_cons, hl]
      rfl

/-- What can stand between bars: some characters, and no blank or bar among them. -/
structure IsItem (cs : List Char) : Prop where
  ne_nil : cs ≠ []
  plain : ∀ c ∈ cs, isBlank c = false ∧ c ≠ '|'

theorem IsItem.trim_eq (h : IsItem x) : trim x = x :=
  trim_of_not_blank fun c hc => (h.plain c hc).1

theorem isItem_name (hf : f ∈ k.flags) : IsItem f.name.toList := by
  have hn : (k.flags.all fun f => f.name.toList != [] &&
      f.name.toList.all fun c => !isBlank c && c != '|') = true := by
    cases k <;> decide
  simp only [List.all_eq_true, Bool.and_eq_true, Bool.not_eq_true', bne_iff_ne] at hn
  exact ⟨(hn f hf).1, (hn f hf).2⟩

theorem isItem_hex (hx : Hex.value? x = some n) : IsItem ('0' :: 'x' :: x) := by
  refine ⟨nofun, ?_⟩
  intro c hc
  have hr : 48 ≤ c.toNat ∧ c.toNat ≤ 120 := by
    rcases List.mem_cons.1 hc with rfl | hc
    · decide
    · rcases List.mem_cons.1 hc with rfl | hc
      · decide
      · have := Hex.toNat_of_extend? hx c hc
        omega
  refine ⟨isBlank_of_toNat (by omega), ?_⟩
  rintro rfl
  exact absurd hr (by decide)

theorem isItem_of_mem_items (a : FlagSet k) : ∀ cs ∈ a.items, IsItem cs := by
  intro cs hm
  rcases List.mem_append.1 hm with hm | hm
  · simp only [names, members, List.map_map, List.mem_map, List.mem_filter] at hm
    obtain ⟨f, ⟨hf, _⟩, rfl⟩ := hm
    exact isItem_name hf
  · split at hm
    · cases hm
    · obtain rfl := List.mem_singleton.1 hm
      exact isItem_hex (Hex.value?_digits _)

/-- A character that is no blank, in the first of some texts, is still there when they are joined. -/
theorem trim_intercalate_ne_nil {sep : List Char} {c : Char} (hm : c ∈ x)
    (hc : isBlank c = false) : trim (sep.intercalate (x :: xs)) ≠ [] := by
  apply List.ne_nil_of_mem (mem_trim ?_ hc)
  cases xs with
  | nil => simpa using hm
  | cons y ys => simp [hm]

/-- Items with spaced bars between them are read as the union of their words. -/
theorem read_spaced {bs : List UInt32} (hp : ∀ cs ∈ x :: xs, IsItem cs)
    (h : (x :: xs).map (readItem k) = bs.map .ok) :
    read ([' ', '|', ' '].intercalate (x :: xs)) = .ok (⟨unite 0 bs⟩ : FlagSet k) := by
  have hbar : ∀ cs ∈ x :: xs, '|' ∉ cs := by
    intro cs hm hc
    exact ((hp cs hm).plain '|' hc).2 rfl
  have hne : trim ([' ', '|', ' '].intercalate (x :: xs)) ≠ [] := by
    obtain ⟨hx, hc⟩ := hp x List.mem_cons_self
    obtain ⟨c, hm⟩ := List.exists_mem_of_ne_nil x hx
    exact trim_intercalate_ne_nil hm (hc c hm).1
  obtain ⟨css, he, hb, ht⟩ := intercalate_spaced hbar
  have hcss : css.map (fun cs => readItem k (trim cs)) = (x :: xs).map (readItem k) :=
    calc css.map (fun cs => readItem k (trim cs))
      _ = (css.map trim).map (readItem k) := by rw [List.map_map]; rfl
      _ = ((x :: xs).map trim).map (readItem k) := by rw [ht]
      _ = (x :: xs).map (readItem k) := by
        rw [List.map_map]
        exact List.map_congr_left fun cs hm => congrArg (readItem k) (hp cs hm).trim_eq
  rw [he] at hne ⊢
  exact read_intercalate hb hne (hcss.trans h)

theorem map_readItem_items (a : FlagSet k) : a.items.map (readItem k) =
    (a.members.map Flag.bit ++ if a.surplus = 0 then [] else [a.surplus]).map .ok := by
  have hm : ∀ f ∈ a.members, readItem k f.name.toList = .ok f.bit :=
    fun f hf => readItem_name (List.mem_filter.1 hf).1
  have hs : readItem k ('0' :: 'x' :: Hex.digits a.surplus.toNat) = .ok a.surplus :=
    readItem_hex (Hex.value?_digits _) Nat.toDigits_ne_nil a.surplus.toNat_lt
  rw [items, names, List.map_append, List.map_append, List.map_map, List.map_map, List.map_map]
  congr 1
  · exact List.map_congr_left hm
  · split
    · rfl
    · rw [List.map_singleton, hs]
      rfl

/-- A set without items is empty, since its items come to all of its bits. -/
theorem eq_empty_of_items (a : FlagSet k) (h : a.items = []) : a = empty := by
  have hr := map_readItem_items a
  rw [h, List.map_nil] at hr
  have hu := unite_items a
  rw [List.map_eq_nil_iff.1 hr.symm] at hu
  cases a
  exact congrArg FlagSet.mk hu.symm

theorem read_write (a : FlagSet k) : read a.write = .ok a := by
  rw [write]
  cases hi : a.items with
  | nil =>
    rw [eq_empty_of_items a hi]
    rfl
  | cons x xs =>
    have hp := isItem_of_mem_items a
    have hr := map_readItem_items a
    rw [hi] at hp hr
    rw [read_spaced hp hr, unite_items]

end EmergencyDial.FlagSet

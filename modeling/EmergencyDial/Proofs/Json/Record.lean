import EmergencyDial.Json.Lawful

/-! A record is read from its entries, in whatever order they stand. -/
namespace EmergencyDial.Json

variable {α : Type} {f : Field} {fs : List Field} {es : List (String × Doc)}

/-- The entries of an object, with their keys as texts. -/
def keyed (es : List (String × Doc)) : List (Doc × Doc) := es.map fun e => (.text e.1, e.2)

/-- Each value stands under its name, once; or it is left out, and is the one that stands for it then.
Entries under other names are complete. -/
def Holds : (fs : List Field) → Values fs → List (String × Doc) → Prop
  | [], _, es => ∀ e ∈ es, e.2.complete = true
  | f :: fs, (a, as), es =>
    ((∃ d, es.filter (f.name = ·.1) = [(f.name, d)] ∧ f.codec.read d = .ok a) ∨
      es.filter (f.name = ·.1) = [] ∧ f.absent = some a) ∧
    Holds fs as (es.filter (f.name ≠ ·.1))

theorem fill_keyed_cons {slots slots' : Slots fs} {e : String × Doc} :
    Slots.fill fs slots (keyed (e :: es)) = .ok slots' ↔
      ∃ s, Slots.put fs slots e.1 e.2 = .ok s ∧ Slots.fill fs s (keyed es) = .ok slots' :=
  Reading.bind_eq_ok

theorem fill_unknown (h : ∀ e ∈ es, e.2.complete = true) : Slots.fill [] () (keyed es) = .ok () := by
  induction es with
  | nil => rfl
  | cons e es ih =>
    have hp : Slots.put [] () e.1 e.2 = .ok () := if_pos (h e List.mem_cons_self)
    exact fill_keyed_cons.2 ⟨(), hp, ih fun d hd => h d (List.mem_cons_of_mem e hd)⟩

theorem put_own {slot : Option f.Value} {slots : Slots fs} {s : Slots (f :: fs)} {d : Doc} :
    Slots.put (f :: fs) (slot, slots) f.name d = .ok s ↔
      slot = none ∧ ∃ a, f.codec.read d = .ok a ∧ (some a, slots) = s := by
  simp only [Slots.put, if_pos]
  cases slot with
  | none => simp only [Reading.map_eq_ok, true_and]
  | some b => exact ⟨nofun, fun h => nomatch h.1⟩

theorem put_other {slot : Option f.Value} {slots : Slots fs} {key : String} {d : Doc}
    (h : f.name ≠ key) :
    Slots.put (f :: fs) (slot, slots) key d = (Slots.put fs slots key d).map (slot, ·) := by
  simp only [Slots.put, if_neg h]

/-- The entries of one field and those of the others do not disturb each other. -/
theorem fill_cons {slot slot' : Option f.Value} {slots slots' : Slots fs}
    (hf : Slots.fill [f] (slot, ()) (keyed (es.filter (f.name = ·.1))) = .ok (slot', ()))
    (hs : Slots.fill fs slots (keyed (es.filter (f.name ≠ ·.1))) = .ok slots') :
    Slots.fill (f :: fs) (slot, slots) (keyed es) = .ok (slot', slots') := by
  induction es generalizing slot slots with
  | nil =>
    cases hf
    cases hs
    rfl
  | cons e es ih =>
    obtain ⟨key, d⟩ := e
    rw [fill_keyed_cons]
    by_cases hk : f.name = key
    · subst hk
      rw [List.filter_cons_of_pos (by simp), fill_keyed_cons] at hf
      rw [List.filter_cons_of_neg (by simp)] at hs
      obtain ⟨_, hp, hf⟩ := hf
      obtain ⟨rfl, a, hr, rfl⟩ := put_own.1 hp
      exact ⟨(some a, slots), put_own.2 ⟨rfl, a, hr, rfl⟩, ih hf hs⟩
    · rw [List.filter_cons_of_neg (by simpa using hk)] at hf
      rw [List.filter_cons_of_pos (by simpa using hk), fill_keyed_cons] at hs
      obtain ⟨s, hp, hs⟩ := hs
      rw [put_other hk, hp]
      exact ⟨(slot, s), rfl, ih hf hs⟩

theorem fill_own {a : f.Value} {d : Doc} (he : es.filter (f.name = ·.1) = [(f.name, d)])
    (hr : f.codec.read d = .ok a) :
    Slots.fill [f] (none, ()) (keyed (es.filter (f.name = ·.1))) = .ok (some a, ()) := by
  rw [he, fill_keyed_cons]
  exact ⟨(some a, ()), put_own.2 ⟨rfl, a, hr, rfl⟩, rfl⟩

/-- Each field ends with its own value. -/
theorem values_of_holds {as : Values fs} (h : Holds fs as es) :
    ∃ slots, Slots.fill fs (Slots.empty fs) (keyed es) = .ok slots ∧
      Slots.values fs slots = .ok as := by
  induction fs generalizing es with
  | nil => exact ⟨(), fill_unknown h, rfl⟩
  | cons f fs ih =>
    obtain ⟨a, as⟩ := as
    obtain ⟨hf, hs⟩ := h
    obtain ⟨slots, hfill, hv⟩ := ih hs
    rcases hf with ⟨d, he, hr⟩ | ⟨he, ha⟩
    · refine ⟨(some a, slots), fill_cons (fill_own he hr) hfill, ?_⟩
      rw [Slots.values, Option.some_or, hv]
      rfl
    · refine ⟨(none, slots), fill_cons ?_ hfill, ?_⟩
      · rw [he]
        rfl
      · rw [Slots.values, Option.none_or, ha, hv]
        rfl

theorem Record.read_of_holds {r : Record α} {a : α} (h : Holds r.fields (r.view a) es) :
    r.read (.record es) = .ok a := by
  obtain ⟨slots, hf, hv⟩ := values_of_holds h
  simp only [Record.read, Doc.record]
  change (Slots.fill _ _ (keyed es) >>= _) = _
  rw [hf]
  simp only [bind, Except.bind, hv, r.make_view]
  rfl

theorem complete_of_fill {slots : Slots []} (h : Slots.fill [] () (keyed es) = .ok slots) :
    ∀ e ∈ es, e.2.complete = true := by
  induction es with
  | nil => exact nofun
  | cons e es ih =>
    obtain ⟨s, hp, hs⟩ := fill_keyed_cons.1 h
    have he : e.2.complete = true := by
      cases hc : e.2.complete with
      | true => rfl
      | false => simp [Slots.put, hc] at hp
    exact List.forall_mem_cons.2 ⟨he, ih hs⟩

/-- What is filled from entries is filled from those of the first field and from the others. -/
theorem of_fill_cons {slot slot' : Option f.Value} {slots slots' : Slots fs}
    (h : Slots.fill (f :: fs) (slot, slots) (keyed es) = .ok (slot', slots')) :
    Slots.fill [f] (slot, ()) (keyed (es.filter (f.name = ·.1))) = .ok (slot', ()) ∧
      Slots.fill fs slots (keyed (es.filter (f.name ≠ ·.1))) = .ok slots' := by
  induction es generalizing slot slots with
  | nil =>
    cases h
    exact ⟨rfl, rfl⟩
  | cons e es ih =>
    obtain ⟨key, d⟩ := e
    obtain ⟨s, hp, hs⟩ := fill_keyed_cons.1 h
    by_cases hk : f.name = key
    · subst hk
      rw [List.filter_cons_of_pos (by simp), List.filter_cons_of_neg (by simp), fill_keyed_cons]
      obtain ⟨rfl, a, hr, rfl⟩ := put_own.1 hp
      obtain ⟨hown, hothers⟩ := ih hs
      exact ⟨⟨(some a, ()), put_own.2 ⟨rfl, a, hr, rfl⟩, hown⟩, hothers⟩
    · rw [List.filter_cons_of_neg (by simpa using hk), List.filter_cons_of_pos (by simpa using hk),
        fill_keyed_cons]
      rw [put_other hk] at hp
      obtain ⟨s', hp', rfl⟩ := Reading.map_eq_ok.1 hp
      obtain ⟨hown, hothers⟩ := ih hs
      exact ⟨hown, s', hp', hothers⟩

/-- A field is filled from one entry or from none. -/
theorem own_of_fill {slot : Option f.Value} (hn : ∀ e ∈ es, e.1 = f.name)
    (h : Slots.fill [f] (none, ()) (keyed es) = .ok (slot, ())) :
    (∃ d a, es = [(f.name, d)] ∧ f.codec.read d = .ok a ∧ slot = some a) ∨
      es = [] ∧ slot = none := by
  match es with
  | [] =>
    cases h
    exact Or.inr ⟨rfl, rfl⟩
  | e :: es =>
    obtain ⟨name, d⟩ := e
    obtain rfl : name = f.name := hn _ List.mem_cons_self
    obtain ⟨s, hp, hs⟩ := fill_keyed_cons.1 h
    obtain ⟨_, a, hr, rfl⟩ := put_own.1 hp
    match es with
    | [] =>
      cases hs
      exact Or.inl ⟨d, a, rfl, hr, rfl⟩
    | e' :: es =>
      -- the slot is taken when the second entry comes
      obtain ⟨name', d'⟩ := e'
      obtain rfl : name' = f.name := hn (name', d') (by simp)
      obtain ⟨s', hp', _⟩ := fill_keyed_cons.1 hs
      cases (put_own.1 hp').1

/-- Entries are read only if each field has its value among them. -/
theorem holds_of_fill {slots : Slots fs} {as : Values fs}
    (hf : Slots.fill fs (Slots.empty fs) (keyed es) = .ok slots)
    (hv : Slots.values fs slots = .ok as) : Holds fs as es := by
  induction fs generalizing es with
  | nil => exact complete_of_fill hf
  | cons f fs ih =>
    obtain ⟨slot, slots⟩ := slots
    obtain ⟨a, as⟩ := as
    obtain ⟨hown, hothers⟩ := of_fill_cons hf
    have hn : ∀ e ∈ es.filter (f.name = ·.1), e.1 = f.name := by
      intro e he
      exact (of_decide_eq_true (List.mem_filter.1 he).2).symm
    rw [Slots.values] at hv
    split at hv
    · next a' ha =>
      obtain ⟨as', hv, he⟩ := Reading.map_eq_ok.1 hv
      cases he
      refine ⟨?_, ih hothers hv⟩
      rcases own_of_fill hn hown with ⟨d, a', he, hr, rfl⟩ | ⟨he, rfl⟩
      · cases ha
        exact Or.inl ⟨d, he, hr⟩
      · exact Or.inr ⟨he, ha⟩
    · cases hv

theorem Record.read_record_iff {r : Record α} :
    r.read (.record es) = .ok a ↔ Holds r.fields (r.view a) es := by
  refine ⟨fun h => ?_, Record.read_of_holds⟩
  obtain ⟨slots, hf, h⟩ := Reading.bind_eq_ok.1 h
  obtain ⟨as, hv, h⟩ := Reading.bind_eq_ok.1 h
  cases h
  rw [r.view_make]
  exact holds_of_fill hf hv

/-- The names of the fields are different, and each value is written so that it is read back. -/
structure Record.Lawful (r : Record α) : Prop where
  distinct : (r.fields.map Field.name).Nodup
  codecs : ∀ f ∈ r.fields, f.codec.Lawful

theorem mem_write {as : Values fs} {e : String × Doc} (h : e ∈ Values.write fs as) :
    ∃ f ∈ fs, e.1 = f.name ∧ ∃ a, e.2 = f.codec.write a := by
  induction fs with
  | nil => cases h
  | cons f fs ih =>
    obtain ⟨a, as⟩ := as
    rcases List.mem_cons.1 h with rfl | h
    · exact ⟨f, List.mem_cons_self, rfl, a, rfl⟩
    · obtain ⟨g, hg, he⟩ := ih h
      exact ⟨g, List.mem_cons_of_mem f hg, he⟩

theorem map_fst_write (as : Values fs) : (Values.write fs as).map Prod.fst = fs.map Field.name := by
  induction fs with
  | nil => rfl
  | cons f fs ih => exact congrArg _ (ih as.2)

theorem name_ne_of_mem_write (hf : f.name ∉ fs.map Field.name) {as : Values fs}
    {e : String × Doc} (he : e ∈ Values.write fs as) : f.name ≠ e.1 := by
  intro hne
  have hm := List.mem_map_of_mem (f := Prod.fst) he
  rw [map_fst_write, ← hne] at hm
  exact hf hm

theorem holds_write (hn : (fs.map Field.name).Nodup) (hc : ∀ f ∈ fs, f.codec.Lawful)
    (as : Values fs) : Holds fs as (Values.write fs as) := by
  induction fs with
  | nil => exact nofun
  | cons f fs ih =>
    obtain ⟨a, as⟩ := as
    obtain ⟨hf, hn⟩ := List.nodup_cons.1 hn
    have hne : ∀ e ∈ Values.write fs as, f.name ≠ e.1 := fun e => name_ne_of_mem_write hf
    have hown : (Values.write fs as).filter (f.name = ·.1) = [] := by
      simpa using hne
    have hothers : (Values.write fs as).filter (f.name ≠ ·.1) = Values.write fs as := by
      simpa using hne
    constructor
    · refine Or.inl ⟨f.codec.write a, ?_, (hc f List.mem_cons_self).read_write a⟩
      rw [Values.write, List.filter_cons_of_pos (by simp), hown]
    · rw [Values.write, List.filter_cons_of_neg (by simp), hothers]
      exact ih hn (fun g hg => hc g (List.mem_cons_of_mem f hg)) as

theorem Record.Lawful.codec {r : Record α} (h : r.Lawful) : r.codec.Lawful where
  proper a := by
    refine Doc.proper_record fun e he => ?_
    obtain ⟨f, hf, _, b, hb⟩ := mem_write he
    rw [hb]
    exact (h.codecs f hf).proper b
  read_write a := Record.read_of_holds (holds_write h.distinct h.codecs (r.view a))

end EmergencyDial.Json

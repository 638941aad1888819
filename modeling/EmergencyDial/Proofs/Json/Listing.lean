import EmergencyDial.Proofs.Json.Record

/-! A record is read alike from all that can be listed of it. -/
namespace EmergencyDial.Json

/-- The name of a field, with what is written for the value that stands for it if it is left out. -/
def Field.layout (f : Field) : String × Option Doc := (f.name, f.absent.map f.codec.write)

/-- Entries that amount to what is written of a record, in whatever order. A field may be left out
if its value is the one that stands for it then, and entries of other names may stand among them. A
name is a text, which a key with half a pair among its escapes is not. -/
structure Listing (layout : List (String × Option Doc)) (written es : List (String × Doc)) :
    Prop where
  known : ∀ e ∈ es, e.1 ∈ layout.map Prod.fst → e ∈ written
  once : ∀ e ∈ written, (es.map Prod.fst).count e.1 ≤ 1
  leftOut : ∀ e ∈ written, e.1 ∉ es.map Prod.fst → (e.1, some e.2) ∈ layout
  complete : ∀ e ∈ es, e.1 ∉ layout.map Prod.fst → e.2.complete = true

/-- A value is read from all listings of its fields, and from a list of the first of them if the
others may be left out. A field that is listed twice is an error, whatever its values are, and so is
a key that is garbled. -/
structure Codec.ReadsAlike {α : Type} (c : Codec α) (layout : List (String × Option Doc)) :
    Prop where
  fields : ∀ a, ∃ written, c.write a = .record written ∧
    written.map Prod.fst = layout.map Prod.fst
  object : ∀ a written es s, c.write a = .record written → Listing layout written es →
    (Doc.record es).SpelledAs s → c.parse s = .ok a
  list : ∀ a written k s, c.write a = .record written →
    (∀ e ∈ written.drop k, (e.1, some e.2) ∈ layout) →
    (Doc.list ((written.take k).map Prod.snd)).SpelledAs s → c.parse s = .ok a
  repeated : ∀ a b written written' before after e s, c.write a = .record written →
    c.write b = .record written' → Listing layout written (before ++ after) → e ∈ written' →
    e.1 ∈ (before ++ after).map Prod.fst → (Doc.record (before ++ e :: after)).SpelledAs s →
    ∃ f, c.parse s = .error (.faulty f) ∧ f.message = "duplicate field `" ++ e.1 ++ "`"
  garbled : ∀ es d s, (Doc.garbled, d) ∈ es → (Doc.object es).complete = true →
    (Doc.object es).SpelledAs s → ∃ e, c.parse s = .error e

/-- An entry that its field can be read from, or that no field has the name of. -/
def Readable (fs : List Field) (e : String × Doc) : Prop :=
  (∃ f ∈ fs, f.name = e.1 ∧ ∃ a, f.codec.read e.2 = .ok a) ∨
  e.1 ∉ fs.map Field.name ∧ e.2.complete = true

variable {α : Type} {f : Field} {fs : List Field} {es : List (String × Doc)} {e : String × Doc}
  {name : String} {d : Doc} {k : Nat}

theorem map_fst_layout (fs : List Field) :
    (fs.map Field.layout).map Prod.fst = fs.map Field.name := by
  rw [List.map_map]
  rfl

theorem absent_of_mem_layout (hf : f.name ∉ fs.map Field.name) (hc : f.codec.Lawful) {a : f.Value}
    (h : (f.name, some (f.codec.write a)) ∈ (f :: fs).map Field.layout) : f.absent = some a := by
  rcases List.mem_cons.1 h with he | hm
  · obtain ⟨b, hb, hw⟩ := Option.map_eq_some_iff.1 (Prod.mk.inj he).2.symm
    rw [hb, hc.write_inj.1 hw]
  · have := List.mem_map_of_mem (f := Prod.fst) hm
    rw [map_fst_layout] at this
    exact absurd this hf

theorem mem_layout_of_mem_write (hf : f.name ∉ fs.map Field.name) {as : Values fs}
    (he : e ∈ Values.write fs as) (h : (e.1, some e.2) ∈ (f :: fs).map Field.layout) :
    (e.1, some e.2) ∈ fs.map Field.layout := by
  rcases List.mem_cons.1 h with hl | hm
  · exact absurd (Prod.mk.inj hl).1.symm (name_ne_of_mem_write hf he)
  · exact hm

/-- A name that comes once at most has one entry, or none. -/
theorem own_cases (h : (es.map Prod.fst).count name ≤ 1) :
    (es.filter (name = ·.1) = [] ∧ name ∉ es.map Prod.fst) ∨
    ∃ d, (name, d) ∈ es ∧ es.filter (name = ·.1) = [(name, d)] := by
  have hl : (es.filter (name = ·.1)).length = (es.map Prod.fst).count name := by
    rw [List.count, List.countP_map, List.countP_eq_length_filter]
    congr 2
    funext e
    exact decide_eq_decide.2 eq_comm
  cases hf : es.filter (name = ·.1) with
  | nil =>
    rw [hf] at hl
    exact Or.inl ⟨rfl, List.count_eq_zero.1 hl.symm⟩
  | cons e l =>
    have he : e ∈ es.filter (name = ·.1) := by simp [hf]
    obtain ⟨hm, hn⟩ := List.mem_filter.1 he
    obtain rfl := of_decide_eq_true hn
    have hl' : l = [] := by
      rw [hf, List.length_cons] at hl
      exact List.length_eq_zero_iff.1 (by omega)
    exact Or.inr ⟨e.2, hm, by rw [hl']⟩

theorem count_filter_le (p : String × Doc → Bool) (es : List (String × Doc)) (name : String) :
    ((es.filter p).map Prod.fst).count name ≤ (es.map Prod.fst).count name :=
  (List.filter_sublist.map Prod.fst).count_le name

theorem listing_cons {g : String × Doc} {layout : List (String × Option Doc)}
    {written : List (String × Doc)} (h : Listing (f.layout :: layout) (g :: written) es)
    (hg : g.1 = f.name) (hw : ∀ e ∈ written, f.name ≠ e.1) :
    Listing layout written (es.filter (f.name ≠ ·.1)) := by
  have hne : ∀ e ∈ es.filter (f.name ≠ ·.1), e ∈ es ∧ f.name ≠ e.1 := by
    intro e he
    simpa using he
  constructor
  · intro e he hl
    obtain ⟨hm, hn⟩ := hne e he
    rcases List.mem_cons.1 (h.known e hm (List.mem_cons_of_mem _ hl)) with rfl | he
    · exact absurd hg.symm hn
    · exact he
  · intro e he
    exact Nat.le_trans (count_filter_le _ es e.1) (h.once e (List.mem_cons_of_mem g he))
  · intro e he hm
    have hes : e.1 ∉ es.map Prod.fst := by
      intro hes
      obtain ⟨e', hm', he'⟩ := List.mem_map.1 hes
      refine hm (List.mem_map.2 ⟨e', List.mem_filter.2 ⟨hm', ?_⟩, he'⟩)
      have := hw e he
      rw [← he'] at this
      simpa using this
    rcases List.mem_cons.1 (h.leftOut e (List.mem_cons_of_mem g he) hes) with hl | hl
    · exact absurd (Prod.mk.inj hl).1.symm (hw e he)
    · exact hl
  · intro e he hl
    obtain ⟨hm, hn⟩ := hne e he
    refine h.complete e hm ?_
    rw [List.map_cons, List.mem_cons, not_or]
    exact ⟨Ne.symm hn, hl⟩

theorem holds_of_listing (hn : (fs.map Field.name).Nodup) (hc : ∀ f ∈ fs, f.codec.Lawful)
    {as : Values fs} (h : Listing (fs.map Field.layout) (Values.write fs as) es) :
    Holds fs as es := by
  induction fs generalizing es with
  | nil => exact fun e he => h.complete e he nofun
  | cons f fs ih =>
    obtain ⟨a, as⟩ := as
    obtain ⟨hf, hn⟩ := List.nodup_cons.1 hn
    have hw : ∀ e ∈ Values.write fs as, f.name ≠ e.1 := fun e => name_ne_of_mem_write hf
    have hl := hc f List.mem_cons_self
    refine ⟨?_, ih hn (fun g hg => hc g (List.mem_cons_of_mem f hg)) (listing_cons h rfl hw)⟩
    have ho := h.once (f.name, f.codec.write a) List.mem_cons_self
    rcases own_cases ho with ⟨he, hm⟩ | ⟨d, hd, he⟩
    · exact Or.inr ⟨he, absent_of_mem_layout hf hl (h.leftOut _ List.mem_cons_self hm)⟩
    · refine Or.inl ⟨d, he, ?_⟩
      rcases List.mem_cons.1 (h.known _ hd List.mem_cons_self) with hd | hd
      · rw [(Prod.mk.inj hd).2, hl.read_write]
      · exact absurd rfl (hw _ hd)

/-- The first values of a record are enough if the others may be left out. -/
theorem ofItems_take (record : String) (count : Nat) (hn : (fs.map Field.name).Nodup)
    (hc : ∀ f ∈ fs, f.codec.Lawful) {as : Values fs} (i : Nat)
    (h : ∀ e ∈ (Values.write fs as).drop k, (e.1, some e.2) ∈ fs.map Field.layout) :
    Values.ofItems record count fs i (((Values.write fs as).take k).map Prod.snd) = .ok as := by
  induction fs generalizing k i with
  | nil => cases k <;> rfl
  | cons f fs ih =>
    obtain ⟨a, as⟩ := as
    obtain ⟨hf, hn⟩ := List.nodup_cons.1 hn
    have hl := hc f List.mem_cons_self
    have hcs : ∀ g ∈ fs, g.codec.Lawful := fun g hg => hc g (List.mem_cons_of_mem f hg)
    cases k with
    | zero =>
      have ha := absent_of_mem_layout hf hl (h _ List.mem_cons_self)
      have hs := ih (k := 0) hn hcs (i + 1) fun e he =>
        mem_layout_of_mem_write hf he (h e (List.mem_cons_of_mem _ he))
      rw [List.take_zero, List.map_nil] at hs ⊢
      rw [Values.ofItems, ha]
      simp only [hs]
      rfl
    | succ k =>
      have hs := ih hn hcs (i + 1) fun e he =>
        mem_layout_of_mem_write hf (List.mem_of_mem_drop he) (h e he)
      exact Reading.bind_map_eq_ok.2 ⟨a, as, hl.read_write a, hs, rfl⟩

theorem readable_of_ne (hr : Readable (f :: fs) e) (hne : f.name ≠ e.1) : Readable fs e := by
  rcases hr with ⟨g, hg, hge, hread⟩ | ⟨hu, hc⟩
  · rcases List.mem_cons.1 hg with rfl | hg
    · exact absurd hge hne
    · exact Or.inl ⟨g, hg, hge, hread⟩
  · exact Or.inr ⟨fun hm => hu (List.mem_cons_of_mem _ hm), hc⟩

theorem read_of_readable (hf : f.name ∉ fs.map Field.name) (hr : Readable (f :: fs) (f.name, d)) :
    ∃ a, f.codec.read d = .ok a := by
  rcases hr with ⟨g, hg, hge, hread⟩ | ⟨hu, _⟩
  · rcases List.mem_cons.1 hg with rfl | hg
    · exact hread
    · exact absurd (List.mem_map.2 ⟨g, hg, hge⟩) hf
  · exact absurd List.mem_cons_self hu

/-- Entries are read if each field has one at most, and then the fields that have one take no
other. -/
theorem fill_of_readable (hn : (fs.map Field.name).Nodup) (hr : ∀ e ∈ es, Readable fs e)
    (ho : ∀ name ∈ fs.map Field.name, (es.map Prod.fst).count name ≤ 1) :
    ∃ slots, Slots.fill fs (Slots.empty fs) (keyed es) = .ok slots ∧
      ∀ name ∈ fs.map Field.name, name ∈ es.map Prod.fst →
        ∀ d, Slots.put fs slots name d = fault (.repeatedField name) := by
  induction fs generalizing es with
  | nil =>
    have hc : ∀ e ∈ es, e.2.complete = true := by
      intro e he
      rcases hr e he with ⟨_, hf, _⟩ | ⟨_, hc⟩
      · cases hf
      · exact hc
    exact ⟨(), fill_unknown hc, nofun⟩
  | cons f fs ih =>
    obtain ⟨hf, hn⟩ := List.nodup_cons.1 hn
    have hne : ∀ name ∈ fs.map Field.name, f.name ≠ name := by
      rintro _ hm rfl
      exact hf hm
    have hr' : ∀ e ∈ es.filter (f.name ≠ ·.1), Readable fs e := by
      intro e he
      obtain ⟨hm, hd⟩ := List.mem_filter.1 he
      exact readable_of_ne (hr e hm) (of_decide_eq_true hd)
    obtain ⟨slots, hfill, hput⟩ := ih hn hr' fun name hm =>
      Nat.le_trans (count_filter_le _ es name) (ho name (List.mem_cons_of_mem _ hm))
    have hothers : ∀ slot, ∀ name ∈ fs.map Field.name, name ∈ es.map Prod.fst → ∀ d,
        Slots.put (f :: fs) (slot, slots) name d = fault (.repeatedField name) := by
      intro slot name hm hes d
      obtain ⟨e, he, rfl⟩ := List.mem_map.1 hes
      have he' : e ∈ es.filter (f.name ≠ ·.1) := by simp [he, hne _ hm]
      rw [put_other (hne _ hm), hput _ hm (List.mem_map_of_mem he')]
      rfl
    rcases own_cases (ho f.name List.mem_cons_self) with ⟨he, hm⟩ | ⟨d, hd, he⟩
    · refine ⟨(none, slots), fill_cons (by rw [he]; rfl) hfill, ?_⟩
      intro name hname
      rcases List.mem_cons.1 hname with rfl | hname
      · exact fun hm' => absurd hm' hm
      · exact hothers none name hname
    · obtain ⟨a, ha⟩ := read_of_readable hf (hr _ hd)
      refine ⟨(some a, slots), fill_cons ?_ hfill, ?_⟩
      · rw [he, fill_keyed_cons]
        exact ⟨(some a, ()), put_own.2 ⟨rfl, a, ha, rfl⟩, rfl⟩
      · intro name hname
        rcases List.mem_cons.1 hname with rfl | hname
        · exact fun _ _ => by simp [Slots.put]
        · exact hothers (some a) name hname

theorem fill_append (slots : Slots fs) (es es' : List (String × Doc)) :
    Slots.fill fs slots (keyed (es ++ es')) =
      Slots.fill fs slots (keyed es) >>= fun slots => Slots.fill fs slots (keyed es') := by
  induction es generalizing slots with
  | nil => rfl
  | cons e es ih =>
    change (Slots.put fs slots e.1 e.2 >>= fun slots => Slots.fill fs slots (keyed (es ++ es'))) =
      (Slots.put fs slots e.1 e.2 >>= fun slots => Slots.fill fs slots (keyed es)) >>= _
    cases Slots.put fs slots e.1 e.2 with
    | error _ => rfl
    | ok slots => exact ih slots

/-- The second entry of a field is where reading stops. -/
theorem Record.read_of_repeated {r : Record α} {before after : List (String × Doc)}
    (hn : (r.fields.map Field.name).Nodup) (hr : ∀ e ∈ before, Readable r.fields e)
    (ho : ∀ name ∈ r.fields.map Field.name, (before.map Prod.fst).count name ≤ 1)
    (hm : name ∈ r.fields.map Field.name) (hb : name ∈ before.map Prod.fst) (d : Doc) :
    r.read (.record (before ++ (name, d) :: after)) = fault (.repeatedField name) := by
  obtain ⟨slots, hf, hp⟩ := fill_of_readable hn hr ho
  simp only [Record.read, Doc.record]
  change (Slots.fill _ _ (keyed (before ++ (name, d) :: after)) >>= _) = _
  rw [fill_append, hf]
  change ((Slots.put _ slots name d >>= _) >>= _) = _
  rw [hp name hm hb d]
  rfl

/-- Reading stops at a garbled key, if it comes that far. -/
theorem fill_of_garbled {es : List (Doc × Doc)} (h : (Doc.garbled, d) ∈ es) (slots : Slots fs) :
    ∃ e, Slots.fill fs slots es = .error e := by
  induction es generalizing slots with
  | nil => cases h
  | cons entry es ih =>
    obtain ⟨key, d'⟩ := entry
    cases key with
    | text name =>
      have hm : (Doc.garbled, d) ∈ es := by simpa using h
      change ∃ e, (Slots.put fs slots name d' >>= fun slots => Slots.fill fs slots es) = .error e
      cases Slots.put fs slots name d' with
      | error e => exact ⟨e, rfl⟩
      | ok slots => exact ih hm slots
    | _ => exact ⟨_, rfl⟩

theorem Record.parse_of_garbled {r : Record α} {es : List (Doc × Doc)} {s : String}
    (h : (Doc.garbled, d) ∈ es) (hc : (Doc.object es).complete = true)
    (hs : (Doc.object es).SpelledAs s) : ∃ e, r.codec.parse s = .error e := by
  obtain ⟨e, he⟩ := fill_of_garbled h (Slots.empty r.fields)
  refine ⟨e, ?_⟩
  rw [Codec.parse_of_spelledAs hc hs]
  simp only [Record.codec, Record.read, he]
  rfl

theorem readable_of_mem_write (hc : ∀ f ∈ fs, f.codec.Lawful) {as : Values fs}
    (he : e ∈ Values.write fs as) : Readable fs e := by
  obtain ⟨f, hf, hn, a, ha⟩ := mem_write he
  exact Or.inl ⟨f, hf, hn.symm, a, by rw [ha, (hc f hf).read_write]⟩

theorem readable_of_listing (hc : ∀ f ∈ fs, f.codec.Lawful) {as : Values fs}
    (h : Listing (fs.map Field.layout) (Values.write fs as) es) : ∀ e ∈ es, Readable fs e := by
  intro e he
  by_cases hm : e.1 ∈ fs.map Field.name
  · exact readable_of_mem_write hc (h.known e he (by rwa [map_fst_layout]))
  · exact Or.inr ⟨hm, h.complete e he (by rwa [map_fst_layout])⟩

theorem once_of_listing {as : Values fs}
    (h : Listing (fs.map Field.layout) (Values.write fs as) es) :
    ∀ name ∈ fs.map Field.name, (es.map Prod.fst).count name ≤ 1 := by
  intro name hm
  rw [← map_fst_write as] at hm
  obtain ⟨e, he, rfl⟩ := List.mem_map.1 hm
  exact h.once e he

/-- Of two entries of a name one comes second, on whichever side the one that is added stands. -/
theorem exists_second {before after : List (String × Doc)}
    (hm : e.1 ∈ (before ++ after).map Prod.fst) : ∃ first d last,
      before ++ e :: after = first ++ (e.1, d) :: last ∧ e.1 ∈ first.map Prod.fst ∧
      (∀ e' ∈ first, e' = e ∨ e' ∈ before ++ after) ∧
      ∀ name, (first.map Prod.fst).count name ≤ ((before ++ after).map Prod.fst).count name := by
  by_cases hb : e.1 ∈ before.map Prod.fst
  · refine ⟨before, e.2, after, rfl, hb, fun e' he => Or.inr (List.mem_append_left after he), ?_⟩
    intro name
    rw [List.map_append, List.count_append]
    omega
  · rw [List.map_append, List.mem_append] at hm
    obtain ⟨e', he', hn⟩ := List.mem_map.1 (hm.resolve_left hb)
    obtain ⟨mid, last, rfl⟩ := List.append_of_mem he'
    refine ⟨before ++ e :: mid, e'.2, last, by simp [← hn], by simp, ?_, ?_⟩
    · intro e'' he''
      simp only [List.mem_append, List.mem_cons] at he'' ⊢
      rcases he'' with he'' | he'' | he'' <;> simp [he'']
    · intro name
      simp only [List.map_append, List.map_cons, List.count_append, List.count_cons, hn]
      omega

/-- What holds of one that stands among others and of them all holds of each. -/
theorem forall_mem_middle {p : α → Prop} {a : α} {before after : List α} :
    (∀ b ∈ before ++ a :: after, p b) ↔ p a ∧ ∀ b ∈ before ++ after, p b := by
  rw [List.forall_mem_append, List.forall_mem_cons, List.forall_mem_append, and_left_comm]

theorem complete_of_mem_write (hc : ∀ f ∈ fs, f.codec.Lawful) {as : Values fs}
    (he : e ∈ Values.write fs as) : e.2.complete = true := by
  obtain ⟨f, hf, _, a, ha⟩ := mem_write he
  rw [ha]
  exact ((hc f hf).proper a).complete

theorem complete_of_listing (hc : ∀ f ∈ fs, f.codec.Lawful) {as : Values fs}
    (h : Listing (fs.map Field.layout) (Values.write fs as) es) :
    ∀ e ∈ es, e.2.complete = true := by
  intro e he
  by_cases hm : e.1 ∈ (fs.map Field.layout).map Prod.fst
  · exact complete_of_mem_write hc (h.known e he hm)
  · exact h.complete e he hm

theorem Record.Lawful.read_listing {r : Record α} (h : r.Lawful) {a : α}
    (hl : Listing (r.fields.map Field.layout) (Values.write r.fields (r.view a)) es) :
    r.codec.read (.record es) = .ok a :=
  Record.read_of_holds (holds_of_listing h.distinct h.codecs hl)

theorem Record.Lawful.parse_listing {r : Record α} (h : r.Lawful) {a : α} {s : String}
    (hl : Listing (r.fields.map Field.layout) (Values.write r.fields (r.view a)) es)
    (hs : (Doc.record es).SpelledAs s) : r.codec.parse s = .ok a := by
  have hc := Doc.complete_record (complete_of_listing h.codecs hl)
  rw [Codec.parse_of_spelledAs hc hs, h.read_listing hl]

theorem Record.Lawful.parse_list {r : Record α} (h : r.Lawful) {a : α} {s : String}
    (hd : ∀ e ∈ (Values.write r.fields (r.view a)).drop k,
      (e.1, some e.2) ∈ r.fields.map Field.layout)
    (hs : (Doc.list (((Values.write r.fields (r.view a)).take k).map Prod.snd)).SpelledAs s) :
    r.codec.parse s = .ok a := by
  have hc :
      (Doc.list (((Values.write r.fields (r.view a)).take k).map Prod.snd)).complete = true := by
    rw [Doc.complete_list, List.all_map, List.all_eq_true]
    exact fun e he => complete_of_mem_write h.codecs (List.mem_of_mem_take he)
  rw [Codec.parse_of_spelledAs hc hs]
  simp only [Record.codec, Record.read, ofItems_take _ _ h.distinct h.codecs _ hd]
  exact congrArg Except.ok (r.make_view a)

theorem Record.Lawful.parse_repeated {r : Record α} (h : r.Lawful) {a b : α} {s : String}
    {before after : List (String × Doc)}
    (hl : Listing (r.fields.map Field.layout) (Values.write r.fields (r.view a)) (before ++ after))
    (he : e ∈ Values.write r.fields (r.view b)) (hm : e.1 ∈ (before ++ after).map Prod.fst)
    (hs : (Doc.record (before ++ e :: after)).SpelledAs s) :
    r.codec.parse s = fault (.repeatedField e.1) := by
  have hname : e.1 ∈ r.fields.map Field.name := by
    rw [← map_fst_write (r.view b)]
    exact List.mem_map_of_mem he
  have hc : (Doc.record (before ++ e :: after)).complete = true := by
    apply Doc.complete_record
    exact forall_mem_middle.2 ⟨complete_of_mem_write h.codecs he, complete_of_listing h.codecs hl⟩
  obtain ⟨first, d, last, heq, hf, hmem, hcount⟩ := exists_second hm
  rw [Codec.parse_of_spelledAs hc hs, heq]
  refine Record.read_of_repeated h.distinct ?_ ?_ hname hf d
  · intro e' he'
    rcases hmem e' he' with rfl | he'
    · exact readable_of_mem_write h.codecs he
    · exact readable_of_listing h.codecs hl e' he'
  · exact fun name hn => Nat.le_trans (hcount name) (once_of_listing hl name hn)

theorem Record.Lawful.readsAlike {r : Record α} (h : r.Lawful) :
    r.codec.ReadsAlike (r.fields.map Field.layout) where
  fields a := ⟨_, rfl, by rw [map_fst_write, map_fst_layout]⟩
  object a written es s hw hl hs := by
    obtain rfl := Doc.record_inj.1 hw
    exact h.parse_listing hl hs
  list a written k s hw hd hs := by
    obtain rfl := Doc.record_inj.1 hw
    exact h.parse_list hd hs
  repeated a b written written' before after e s hw hw' hl he hm hs := by
    obtain rfl := Doc.record_inj.1 hw
    obtain rfl := Doc.record_inj.1 hw'
    exact ⟨_, h.parse_repeated hl he hm hs, rfl⟩
  garbled _ _ _ hm hc hs := Record.parse_of_garbled hm hc hs

end EmergencyDial.Json

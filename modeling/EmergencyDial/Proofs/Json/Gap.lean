import EmergencyDial.Proofs.Json.Listing

/-! Documents with a gap in them. What is put there is read for itself, and the rest as before. -/
namespace EmergencyDial.Json

/-- Documents of `b` stand in documents of `c` where `close` puts them, and what is read of them
where `modify` changes it. Another document in the same place changes nothing else. -/
structure Codec.Within {α β : Type} (b : Codec β) (c : Codec α) (close : Doc → Doc)
    (modify : (β → β) → α → α) : Prop where
  complete : ∀ d, d.complete = true → (close d).complete = true
  read : ∀ d a, c.read (close d) = .ok a → ∃ v, b.read d = .ok v ∧
    ∀ e u, b.read e = .ok (u v) → c.read (close e) = .ok (modify u a)

/-- A list with a gap for one item. -/
structure ItemGap where
  before : List Doc
  after : List Doc
  complete : ∀ d ∈ before ++ after, d.complete = true

def ItemGap.close (g : ItemGap) (d : Doc) : Doc := .list (g.before ++ d :: g.after)

/-- A record with a gap for the value of one field, as an object or as a list of values. -/
inductive FieldGap (name : String) (index : Nat)
  | entry (before after : List (String × Doc))
    (complete : ∀ e ∈ before ++ after, e.2.complete = true)
  | item (gap : ItemGap) (place : gap.before.length = index)

def FieldGap.close {name : String} {index : Nat} : FieldGap name index → Doc → Doc
  | entry before after _, d => .record (before ++ (name, d) :: after)
  | item gap _, d => gap.close d

/-- Where a field stands among others. -/
inductive FieldAt (f : Field) : List Field → Type 1
  | here {fs : List Field} : FieldAt f (f :: fs)
  | there {g : Field} {fs : List Field} (p : FieldAt f fs) : FieldAt f (g :: fs)

variable {α β γ : Type} {a : α} {b : Codec β} {c : Codec α} {c' : Codec γ} {f : Field}
  {fs : List Field} {es before after : List (String × Doc)} {d : Doc}

namespace FieldAt

def index {fs : List Field} : FieldAt f fs → Nat
  | here => 0
  | there p => p.index + 1

def get : {fs : List Field} → FieldAt f fs → Values fs → f.Value
  | _, here, (a, _) => a
  | _, there p, (_, as) => p.get as

def modify : {fs : List Field} → FieldAt f fs → (f.Value → f.Value) → Values fs → Values fs
  | _, here, u, (a, as) => (u a, as)
  | _, there p, u, (a, as) => (a, p.modify u as)

theorem mem (p : FieldAt f fs) : f ∈ fs := by
  induction p with
  | here => exact List.mem_cons_self
  | there _ ih => exact List.mem_cons_of_mem _ ih

end FieldAt

/-- What is written of a field stands among the rest. -/
theorem write_eq_append (p : FieldAt f fs) (as : Values fs) : ∃ before after,
    Values.write fs as = before ++ (f.name, f.codec.write (p.get as)) :: after := by
  induction p with
  | here => exact ⟨[], _, rfl⟩
  | there p ih =>
    obtain ⟨a, as⟩ := as
    obtain ⟨before, after, hw⟩ := ih as
    exact ⟨_ :: before, after, congrArg (List.cons _) hw⟩

/-- The document of a value has the gap that the value of the field stands in. -/
theorem Record.Lawful.exists_gap {r : Record α} (h : r.Lawful) (p : FieldAt f r.fields) (a : α) :
    ∃ g : FieldGap f.name p.index,
      r.codec.write a = g.close (f.codec.write (p.get (r.view a))) := by
  obtain ⟨before, after, hw⟩ := write_eq_append p (r.view a)
  have hc : ∀ e ∈ Values.write r.fields (r.view a), e.2.complete = true :=
    fun _ => complete_of_mem_write h.codecs
  rw [hw] at hc
  exact ⟨.entry before after (forall_mem_middle.1 hc).2, congrArg Doc.record hw⟩

theorem filter_entry_of_pos {q : String × Doc → Bool} (h : q (f.name, d) = true) :
    (before ++ (f.name, d) :: after).filter q =
      before.filter q ++ (f.name, d) :: after.filter q := by
  rw [List.filter_append, List.filter_cons_of_pos h]

theorem filter_entry_of_neg {q : String × Doc → Bool} (h : q (f.name, d) = false) :
    (before ++ (f.name, d) :: after).filter q = (before ++ after).filter q := by
  rw [List.filter_append, List.filter_cons_of_neg (by simp [h]), List.filter_append]

/-- In an object the value of a field is read for itself. -/
theorem holds_gap (p : FieldAt f fs) (hn : (fs.map Field.name).Nodup) {as : Values fs}
    (h : Holds fs as (before ++ (f.name, d) :: after)) :
    ∃ v, f.codec.read d = .ok v ∧ ∀ e u, f.codec.read e = .ok (u v) →
      Holds fs (p.modify u as) (before ++ (f.name, e) :: after) := by
  induction p generalizing before after with
  | here =>
    obtain ⟨a, as⟩ := as
    obtain ⟨hown, hothers⟩ := h
    rw [filter_entry_of_pos (by simp)] at hown
    rw [filter_entry_of_neg (by simp)] at hothers
    -- the entry in the gap is the only one that the field has
    obtain ⟨d', he, hr⟩ | ⟨he, _⟩ := hown
    · obtain ⟨hb, he⟩ | ⟨_, he⟩ := List.append_eq_singleton_iff.1 he
      · obtain ⟨hd, ha⟩ := List.cons.inj he
        obtain rfl := (Prod.mk.inj hd).2
        refine ⟨a, hr, fun e u hu => ⟨Or.inl ⟨e, ?_, hu⟩, ?_⟩⟩
        · rw [filter_entry_of_pos (by simp), hb, ha, List.nil_append]
        · rwa [filter_entry_of_neg (by simp)]
      · cases he
    · simp at he
  | @there g fs p ih =>
    obtain ⟨a, as⟩ := as
    obtain ⟨hg, hn⟩ := List.nodup_cons.1 hn
    have hne : g.name ≠ f.name := fun he => hg (he ▸ List.mem_map_of_mem p.mem)
    -- the gap is among the entries of the other fields
    obtain ⟨hown, hothers⟩ := h
    rw [filter_entry_of_neg (by simpa using hne)] at hown
    rw [filter_entry_of_pos (by simpa using hne)] at hothers
    obtain ⟨v, hv, hu⟩ := ih hn hothers
    refine ⟨v, hv, fun e u he => ⟨?_, ?_⟩⟩
    · rwa [filter_entry_of_neg (by simpa using hne)]
    · rw [filter_entry_of_pos (by simpa using hne)]
      exact hu e u he

/-- In a list the value of a field is read for itself. -/
theorem ofItems_gap (record : String) (count : Nat) (p : FieldAt f fs) {before after : List Doc}
    (hp : before.length = p.index) {as : Values fs} (i : Nat)
    (h : Values.ofItems record count fs i (before ++ d :: after) = .ok as) :
    ∃ v, f.codec.read d = .ok v ∧ ∀ e u, f.codec.read e = .ok (u v) →
      Values.ofItems record count fs i (before ++ e :: after) = .ok (p.modify u as) := by
  induction p generalizing before i with
  | here =>
    obtain rfl := List.length_eq_zero_iff.1 hp
    obtain ⟨v, as, hv, has, rfl⟩ := Reading.bind_map_eq_ok.1 h
    exact ⟨v, hv, fun e u he => Reading.bind_map_eq_ok.2 ⟨u v, as, he, has, rfl⟩⟩
  | there p ih =>
    obtain ⟨d₀, before, rfl⟩ := List.exists_cons_of_length_eq_add_one hp
    obtain ⟨a, as, ha, has, rfl⟩ := Reading.bind_map_eq_ok.1 h
    obtain ⟨v, hv, hu⟩ := ih (Nat.succ.inj hp) (i + 1) has
    exact ⟨v, hv, fun e u he => Reading.bind_map_eq_ok.2 ⟨a, _, ha, hu e u he, rfl⟩⟩

theorem ItemGap.complete_close (g : ItemGap) (hd : d.complete = true) :
    (g.close d).complete = true := by
  rw [close, Doc.complete_list, List.all_eq_true]
  exact forall_mem_middle.2 ⟨hd, g.complete⟩

theorem FieldGap.complete_close {name : String} {index : Nat} (g : FieldGap name index)
    (hd : d.complete = true) : (g.close d).complete = true := by
  cases g with
  | entry before after hc =>
    apply Doc.complete_record
    exact forall_mem_middle.2 ⟨hd, hc⟩
  | item g _ => exact g.complete_close hd

namespace Codec

theorem Within.trans {close close' : Doc → Doc} {modify : (β → β) → α → α}
    {modify' : (γ → γ) → β → β} (h : b.Within c close modify) (h' : c'.Within b close' modify') :
    c'.Within c (close ∘ close') (modify ∘ modify') where
  complete d hd := h.complete _ (h'.complete d hd)
  read d a hr := by
    obtain ⟨v, hv, hu⟩ := h.read _ _ hr
    obtain ⟨w, hw, hu'⟩ := h'.read _ _ hv
    exact ⟨w, hw, fun e u he => hu (close' e) (modify' u) (hu' e u he)⟩

/-- A list is read item by item. -/
theorem readItems_gap {before after : List Doc} {as : List α}
    (h : c.readItems (before ++ d :: after) = .ok as) :
    ∃ v, c.read d = .ok v ∧ ∀ e u, c.read e = .ok (u v) →
      c.readItems (before ++ e :: after) = .ok (as.modify before.length u) := by
  induction before generalizing as with
  | nil =>
    obtain ⟨v, as, hv, has, rfl⟩ := Reading.bind_map_eq_ok.1 h
    exact ⟨v, hv, fun e u he => Reading.bind_map_eq_ok.2 ⟨u v, as, he, has, rfl⟩⟩
  | cons d₀ before ih =>
    obtain ⟨a, as, ha, has, rfl⟩ := Reading.bind_map_eq_ok.1 h
    obtain ⟨v, hv, hu⟩ := ih has
    exact ⟨v, hv, fun e u he => Reading.bind_map_eq_ok.2 ⟨a, _, ha, hu e u he, rfl⟩⟩

theorem within_list (c : Codec α) (g : ItemGap) :
    c.Within (list c) g.close fun u as => as.modify g.before.length u where
  complete _ := g.complete_close
  read _ _ h := readItems_gap h

end Codec

theorem Record.within (r : Record α) (hn : (r.fields.map Field.name).Nodup)
    (p : FieldAt f r.fields) (g : FieldGap f.name p.index) :
    f.codec.Within r.codec g.close fun u a => r.make (p.modify u (r.view a)) where
  complete _ := g.complete_close
  read d a h := by
    cases g with
    | entry before after _ =>
      obtain ⟨v, hv, hu⟩ := holds_gap p hn (read_record_iff.1 h)
      refine ⟨v, hv, fun e u he => read_record_iff.2 ?_⟩
      rw [r.view_make]
      exact hu e u he
    | item g hg =>
      obtain ⟨as, has, rfl⟩ := Reading.map_eq_ok.1 h
      obtain ⟨v, hv, hu⟩ := ofItems_gap r.name r.fields.length p hg 0 has
      refine ⟨v, hv, fun e u he => Reading.map_eq_ok.2 ⟨_, hu e u he, ?_⟩⟩
      rw [r.view_make]

end EmergencyDial.Json

import EmergencyDial.Json.Doc.RoundTrip
import EmergencyDial.Json.Record

/-! Laws of codecs: what is written is read back, as a document and as a text. -/
namespace EmergencyDial.Json

theorem Numeral.ofInt_inj {k l : Int} : Numeral.ofInt k = Numeral.ofInt l ↔ k = l := by
  refine ⟨fun h => ?_, congrArg ofInt⟩
  have hi := integer?_ofInt k
  rw [h, integer?_ofInt] at hi
  exact (Option.some.inj hi).symm

theorem head?_toDigits_ne_zero {n : Nat} (h : n ≠ 0) : (Nat.toDigits 10 n).head? ≠ some '0' := by
  induction n using Nat.strongRecOn with
  | _ n ih =>
    rw [Nat.toDigits_eq_if (by decide)]
    split
    · next hn =>
      have : ∀ n : Fin 10, n.val ≠ 0 → Nat.digitChar n.val ≠ '0' := by decide
      simpa using this ⟨n, hn⟩ h
    · next hn =>
      have := ih (n / 10) (by omega) (by omega)
      rw [List.head?_append]
      cases hc : Nat.toDigits 10 (n / 10) with
      | nil => exact absurd hc Nat.toDigits_ne_nil
      | cons c cs => rwa [hc] at this

theorem Numeral.proper_ofInt (k : Int) : (Numeral.ofInt k).Proper where
  whole := ⟨Nat.toDigits_ne_nil, fun _ => Nat.isDigit_of_mem_toDigits (by decide) (by decide)⟩
  zero ds h := by
    by_cases hk : k.natAbs = 0
    · simp only [ofInt, hk] at h
      cases h
      rfl
    · have := head?_toDigits_ne_zero hk
      simp only [ofInt] at h
      rw [h] at this
      exact absurd rfl this
  fraction _ h := by cases h
  exponent _ h := by cases h

namespace Doc

theorem proper_of_token {d : Doc} {t : Token} (hc : d.complete = true) (ht : d.tokens = [t])
    (hp : t.Proper) : d.Proper where
  complete := hc
  tokens u hu := by
    rw [ht] at hu
    obtain rfl := List.mem_singleton.1 hu
    exact hp

theorem proper_null : null.Proper := proper_of_token rfl rfl trivial

theorem proper_bool (b : Bool) : (bool b).Proper := proper_of_token rfl rfl trivial

theorem proper_text (s : String) : (text s).Proper := proper_of_token rfl rfl trivial

theorem proper_number (k : Int) : (number (.ofInt k)).Proper :=
  proper_of_token rfl rfl (Numeral.proper_ofInt k)

theorem proper_furtherItems {ds : List Doc} (h : ∀ d ∈ ds, d.Proper) :
    ∀ t ∈ furtherItems ds, t.Proper := by
  induction ds with
  | nil =>
    intro t ht
    obtain rfl := List.mem_singleton.1 ht
    trivial
  | cons d ds ih =>
    intro t ht
    simp only [furtherItems, List.cons_append, List.mem_cons, List.mem_append] at ht
    obtain rfl | ht | ht := ht
    · trivial
    · exact (h d List.mem_cons_self).tokens t ht
    · exact ih (fun d hd => h d (List.mem_cons_of_mem _ hd)) t ht

theorem proper_list {ds : List Doc} (h : ∀ d ∈ ds, d.Proper) : (list ds).Proper where
  complete := by
    rw [complete_list, List.all_eq_true]
    exact fun d hd => (h d hd).complete
  tokens t ht := by
    cases ds with
    | nil =>
      simp only [tokens, List.mem_cons, List.not_mem_nil, or_false] at ht
      obtain rfl | rfl := ht <;> trivial
    | cons d ds =>
      have hf := proper_furtherItems fun e he => h e (List.mem_cons_of_mem d he)
      simp only [tokens, List.cons_append, List.mem_cons, List.mem_append] at ht
      obtain rfl | ht | ht := ht
      · trivial
      · exact (h d List.mem_cons_self).tokens t ht
      · exact hf t ht

theorem proper_furtherEntries {es : List (String × Doc)} (h : ∀ e ∈ es, e.2.Proper) :
    ∀ t ∈ furtherEntries (es.map fun e => (.text e.1, e.2)), t.Proper := by
  induction es with
  | nil =>
    intro t ht
    obtain rfl := List.mem_singleton.1 ht
    trivial
  | cons e es ih =>
    intro t ht
    simp only [List.map_cons, furtherEntries, tokens, List.cons_append, List.nil_append,
      List.mem_cons, List.mem_append] at ht
    obtain rfl | rfl | rfl | ht | ht := ht
    · trivial
    · trivial
    · trivial
    · exact (h e List.mem_cons_self).tokens t ht
    · exact ih (fun e he => h e (List.mem_cons_of_mem _ he)) t ht

theorem proper_record {es : List (String × Doc)} (h : ∀ e ∈ es, e.2.Proper) :
    (record es).Proper where
  complete := complete_record fun e he => (h e he).complete
  tokens t ht := by
    cases es with
    | nil =>
      simp only [record, List.map_nil, tokens, List.mem_cons, List.not_mem_nil, or_false] at ht
      obtain rfl | rfl := ht <;> trivial
    | cons e es =>
      have hf := proper_furtherEntries fun f hf => h f (List.mem_cons_of_mem e hf)
      simp only [record, List.map_cons, tokens, List.cons_append, List.nil_append,
        List.mem_cons, List.mem_append] at ht
      obtain rfl | rfl | rfl | ht | ht := ht
      · trivial
      · trivial
      · trivial
      · exact (h e List.mem_cons_self).tokens t ht
      · exact hf t ht

end Doc

namespace Codec
variable {α β : Type}

/-- What is written can be spelled, and is read back. -/
structure Lawful (c : Codec α) : Prop where
  proper : ∀ a, (c.write a).Proper
  read_write : ∀ a, c.read (c.write a) = .ok a

/-- Any spelling of a document is read as the document is. -/
theorem parse_of_spelledAs {d : Doc} {s : String} (hc : d.complete = true) (h : d.SpelledAs s)
    (c : Codec α) : c.parse s = c.read d := by
  simp only [parse, readDoc_of_spells hc h]
  cases c.read d <;> rfl

/-- The text of a value is read as that value. -/
theorem Lawful.parse_render {c : Codec α} (h : c.Lawful) (a : α) :
    c.parse (c.render a) = .ok a := by
  have hp := h.proper a
  have hs : (c.write a).SpelledAs (c.render a) := hp.spelledAs_render
  rw [parse_of_spelledAs hp.complete hs, h.read_write]

theorem Lawful.write_inj {c : Codec α} (h : c.Lawful) {a b : α} :
    c.write a = c.write b ↔ a = b := by
  refine ⟨fun he => ?_, congrArg c.write⟩
  have hr := h.read_write a
  rw [he, h.read_write] at hr
  exact (Except.ok.inj hr).symm

theorem lawful_text : text.Lawful where
  proper := Doc.proper_text
  read_write _ := rfl

theorem lawful_bool : bool.Lawful where
  proper := Doc.proper_bool
  read_write _ := rfl

theorem readInt_ofInt {wanted : Wanted} {f : Int → Option α} {k : Int} {a : α}
    (h : -0x8000000000000000 ≤ k ∧ k < 0x10000000000000000) (hf : f k = some a) :
    readInt wanted f (.number (.ofInt k)) = .ok a := by
  simp only [readInt, Numeral.value?_ofInt h, hf]
  rfl

theorem lawful_int32 : int32.Lawful where
  proper _ := Doc.proper_number _
  read_write k := by
    have h : -0x80000000 ≤ k.toInt := k.minValue_le_toInt
    have h' := k.toInt_lt
    refine readInt_ofInt ⟨by omega, by omega⟩ ?_
    rw [if_pos ⟨h, h'⟩, Int32.ofInt_toInt]

theorem lawful_uint64 : uint64.Lawful where
  proper _ := Doc.proper_number _
  read_write n := by
    have h := n.toNat_lt
    simp only [uint64, Numeral.ofNat]
    refine readInt_ofInt (k := n.toNat) ⟨by omega, by omega⟩ ?_
    rw [if_pos ⟨by omega, by omega⟩, Int.toNat_natCast, UInt64.ofNat_toNat]

theorem lawful_list {c : Codec α} (h : c.Lawful) : (list c).Lawful where
  proper as := by
    refine Doc.proper_list fun d hd => ?_
    obtain ⟨a, _, rfl⟩ := List.mem_map.1 hd
    exact h.proper a
  read_write as := by
    simp only [list]
    induction as with
    | nil => rfl
    | cons a as ih => exact Reading.bind_map_eq_ok.2 ⟨a, as, h.read_write a, ih, rfl⟩

/-- A value that is not written as `null` can be optional. -/
theorem lawful_optional {c : Codec α} (h : c.Lawful) (hn : ∀ a, c.write a ≠ .null) :
    (optional c).Lawful where
  proper a := by
    cases a with
    | none => exact Doc.proper_null
    | some a => exact h.proper a
  read_write a := by
    cases a with
    | none => rfl
    | some a =>
      simp only [optional, Option.elim]
      split
      · next he => exact absurd he (hn a)
      · rw [h.read_write]
        rfl

theorem lawful_via {c : Codec α} (h : c.Lawful) {f : α → β} {g : β → α} (hf : ∀ b, f (g b) = b) :
    (c.via f g).Lawful where
  proper b := h.proper (g b)
  read_write b := by
    simp only [via, h.read_write]
    exact congrArg Except.ok (hf b)

/-- Choices of different names, all of them listed. -/
theorem lawful_choice {choices : List α} {name : α → String} (ha : ∀ a, a ∈ choices)
    (hn : ∀ a b, name a = name b → a = b) : (choice choices name).Lawful where
  proper a := Doc.proper_text _
  read_write a := by
    simp only [choice, choose]
    cases hf : choices.find? fun b => name b = name a with
    | none =>
      have := List.find?_eq_none.1 hf a (ha a)
      simp at this
    | some b =>
      have := List.find?_some hf
      simp only [decide_eq_true_eq] at this
      rw [hn b a this]

end Codec

end EmergencyDial.Json

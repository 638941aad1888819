import EmergencyDial.Device.Plan
import EmergencyDial.Proofs.Json.Gap
import EmergencyDial.Proofs.RoundTrip
import Mathlib.Algebra.Group.Int.Defs

/-! Ids and counts are read as the numbers they are written as, or not at all. -/
namespace EmergencyDial
namespace Json

variable {α β γ : Type} {k : Int} {a : α}

/-- The ordinary decimal text of an integer. -/
theorem render_ofInt (k : Int) : (Doc.number (.ofInt k)).render = toString k := by
  have ht : (Doc.number (.ofInt k)).render = String.ofList (Numeral.ofInt k).text := by
    simp [Doc.render, Doc.spelling, Doc.tokens, Token.spelling]
  rw [ht, Int.toString_eq_repr, Int.repr_eq_if]
  by_cases hk : 0 ≤ k
  · have hn : ¬ k < 0 := by omega
    have ha : k.natAbs = k.toNat := by omega
    simp [Numeral.text, Numeral.unsigned, Numeral.ofInt, hk, hn, ha, Nat.repr_eq_ofList_toDigits]
  · have hn : k < 0 := by omega
    have ha : k.natAbs = (-k).toNat := by omega
    rw [if_neg hk, Nat.repr_eq_ofList_toDigits, ← String.toList_inj]
    simp [Numeral.text, Numeral.unsigned, Numeral.ofInt, hn, ha]

theorem Numeral.value?_ofInt_eq_integer {m : Int} (h : (ofInt k).value? = some (.integer m)) :
    m = k ∧ -0x8000000000000000 ≤ k ∧ k < 0x10000000000000000 := by
  simp only [value?, integer?_ofInt] at h
  split at h
  · next hk =>
    cases h
    exact ⟨rfl, hk.1, hk.2.1⟩
  · obtain ⟨_, _, hf⟩ := Option.map_eq_some_iff.1 h
    cases hf

theorem Doc.refuse_ne_ok (d : Doc) (wanted : Wanted) (a : α) : d.refuse wanted ≠ .ok a := by
  intro h
  obtain ⟨_, _, hf⟩ := Reading.bind_eq_ok.1 h
  cases hf

namespace Codec

/-- The integers that a codec reads are those from `least` on and below `bound`. Each is read as what
`make` makes of the word with that number. -/
structure Integral (c : Codec α) (least bound : Int) (number : β → Int) (make : β → α) : Prop where
  read_iff : ∀ k a, c.read (.number (.ofInt k)) = .ok a ↔
    least ≤ k ∧ k < bound ∧ ∃ n, number n = k ∧ a = make n
  word : ∀ k, least ≤ k → k < bound → ∃ n, number n = k

theorem readInt_ofInt_iff {wanted : Wanted} {f : Int → Option α} :
    readInt wanted f (.number (.ofInt k)) = .ok a ↔
      (-0x8000000000000000 ≤ k ∧ k < 0x10000000000000000) ∧ f k = some a := by
  refine ⟨fun h => ?_, fun h => readInt_ofInt h.1 h.2⟩
  simp only [readInt] at h
  split at h
  · next m hm =>
    obtain ⟨rfl, hk⟩ := Numeral.value?_ofInt_eq_integer hm
    refine ⟨hk, ?_⟩
    cases hf : f m with
    | none => simp [hf, fault] at h
    | some b =>
      rw [hf] at h
      cases h
      rfl
  · exact absurd h (Doc.refuse_ne_ok _ wanted a)

/-- A word is checked against its own bounds, and numerals reach as far. -/
theorem integral_of_readInt {c : Codec α} {wanted : Wanted} {word : Int → α} {number : α → Int}
    {least bound : Int}
    (hc : c.read = readInt wanted fun k => if least ≤ k ∧ k < bound then some (word k) else none)
    (hreach : -0x8000000000000000 ≤ least ∧ bound ≤ 0x10000000000000000)
    (hnumber : ∀ k, least ≤ k → k < bound → number (word k) = k)
    (hword : ∀ n, word (number n) = n) : c.Integral least bound number id where
  read_iff k i := by
    rw [hc, readInt_ofInt_iff]
    constructor
    · rintro ⟨_, hf⟩
      split at hf
      · next hk =>
        cases hf
        exact ⟨hk.1, hk.2, _, hnumber k hk.1 hk.2, rfl⟩
      · cases hf
    · rintro ⟨hl, hb, n, rfl, rfl⟩
      rw [if_pos ⟨hl, hb⟩, hword]
      exact ⟨⟨by omega, by omega⟩, rfl⟩
  word k hl hb := ⟨word k, hnumber k hl hb⟩

theorem integral_int32 : int32.Integral (-2 ^ 31) (2 ^ 31) Int32.toInt id := by
  refine integral_of_readInt rfl (by decide) ?_ fun n => Int32.ofInt_toInt n
  intro k hl hb
  exact Int32.toInt_ofInt_of_le hl hb

theorem toNat_ofNat_of_nonneg (hl : 0 ≤ k) (hb : k < 2 ^ 64) :
    ((UInt64.ofNat k.toNat).toNat : Int) = k := by
  have hs : k.toNat < UInt64.size := by
    rw [UInt64.size]
    omega
  rw [UInt64.toNat_ofNat_of_lt' hs, Int.toNat_of_nonneg hl]

theorem integral_uint64 :
    uint64.Integral 0 (2 ^ 64) (fun n : UInt64 => (n.toNat : Int)) id := by
  refine integral_of_readInt rfl (by decide) ?_ ?_
  · intro k hl hb
    exact toNat_ofNat_of_nonneg hl hb
  · intro n
    rw [Int.toNat_natCast, UInt64.ofNat_toNat]

variable {b : Codec β} {c : Codec γ} {least bound : Int} {number : α → Int} {make : α → β}

theorem Integral.map (h : b.Integral least bound number make) {f : β → γ}
    (hc : ∀ n, c.read (.number n) = (b.read (.number n)).map f) :
    c.Integral least bound number (f ∘ make) where
  read_iff k v := by
    simp only [hc, Reading.map_eq_ok, h.read_iff]
    constructor
    · rintro ⟨_, ⟨hl, hb, n, hn, rfl⟩, rfl⟩
      exact ⟨hl, hb, n, hn, rfl⟩
    · rintro ⟨hl, hb, n, hn, rfl⟩
      exact ⟨_, ⟨hl, hb, n, hn, rfl⟩, rfl⟩
  word := h.word

theorem Integral.optional (h : b.Integral least bound number make) :
    (optional b).Integral least bound number (some ∘ make) :=
  h.map fun _ => rfl

/-- Texts with an integer at one place, where `close` puts it into a document. Out of range, it makes
the whole text an error. In range, it is read if the text is read with any other integer there, as
the word of that very number where `put` puts it, and all else as before. -/
structure ReadsIntegers (c : Codec γ) (close : Doc → Doc) (least bound : Int) (number : α → Int)
    (put : α → γ → γ) : Prop where
  accepted : ∀ k l s t v, (close (.number (.ofInt k))).SpelledAs s →
    (close (.number (.ofInt l))).SpelledAs t → least ≤ k → k < bound → c.parse t = .ok v →
    ∃ n, number n = k ∧ c.parse s = .ok (put n v)
  refused : ∀ k s, (close (.number (.ofInt k))).SpelledAs s → ¬ (least ≤ k ∧ k < bound) →
    ∃ e, c.parse s = .error e

theorem Within.readsIntegers {close : Doc → Doc} {modify : (β → β) → γ → γ}
    (h : b.Within c close modify) (hb : b.Integral least bound number make) :
    c.ReadsIntegers close least bound number fun n => modify fun _ => make n where
  accepted k l s t v hs ht hl hk hv := by
    rw [parse_of_spelledAs (h.complete _ rfl) ht] at hv
    rw [parse_of_spelledAs (h.complete _ rfl) hs]
    obtain ⟨n, hn⟩ := hb.word k hl hk
    obtain ⟨_, _, hu⟩ := h.read _ _ hv
    exact ⟨n, hn, hu _ _ ((hb.read_iff k _).2 ⟨hl, hk, n, hn, rfl⟩)⟩
  refused k s hs hk := by
    rw [parse_of_spelledAs (h.complete _ rfl) hs]
    cases hr : c.read (close (.number (.ofInt k))) with
    | error e => exact ⟨e, rfl⟩
    | ok v =>
      -- the integer would have been read for itself
      obtain ⟨w, hw, _⟩ := h.read _ _ hr
      obtain ⟨hl, hb, _⟩ := (hb.read_iff k w).1 hw
      exact absurd ⟨hl, hb⟩ hk

/-- Values that have an integer in the field of a name. It is read wherever the field can stand, and
what is written of a value has it in such a place, and is read back. -/
structure CarriesIntegers (c : Codec γ) (name : String) (index : Nat) (least bound : Int)
    (number : α → Int) (get : γ → Option α) (put : α → γ → γ) : Prop where
  reads : ∀ g : FieldGap name index, c.ReadsIntegers g.close least bound number put
  writes : ∀ v n, get v = some n → c.parse (c.render v) = .ok v ∧
    ∃ g : FieldGap name index, c.write v = g.close (.number (.ofInt (number n)))

end Codec

theorem Record.Lawful.carriesIntegers {f : Field} {r : Record γ} (h : r.Lawful)
    (p : FieldAt f r.fields) {least bound : Int} {number : α → Int} {make : α → f.Value}
    (hi : f.codec.Integral least bound number make) {get : γ → Option α}
    (hw : ∀ v n, get v = some n →
      f.codec.write (p.get (r.view v)) = .number (.ofInt (number n))) :
    r.codec.CarriesIntegers f.name p.index least bound number get
      fun n v => r.make (p.modify (fun _ => make n) (r.view v)) where
  reads g := (r.within h.distinct p g).readsIntegers hi
  writes v n hn := by
    obtain ⟨g, hg⟩ := h.exists_gap p v
    rw [hw v n hn] at hg
    exact ⟨h.codec.parse_render v, g, hg⟩

end Json

open Json Codec

theorem SubscriptionId.integral_codec :
    SubscriptionId.codec.Integral (-2 ^ 31) (2 ^ 31) Int32.toInt SubscriptionId.mk :=
  integral_int32.map fun _ => rfl

theorem SubscriptionId.parse_toString_iff {k : Int} {i : SubscriptionId} :
    SubscriptionId.codec.parse (toString k) = .ok i ↔
      -2 ^ 31 ≤ k ∧ k < 2 ^ 31 ∧ i.value.toInt = k := by
  have hs : (Doc.number (.ofInt k)).SpelledAs (toString k) := by
    rw [← render_ofInt]
    exact (Doc.proper_number k).spelledAs_render
  rw [parse_of_spelledAs rfl hs, integral_codec.read_iff]
  refine and_congr_right fun _ => and_congr_right fun _ => ?_
  constructor
  · rintro ⟨n, hn, rfl⟩
    exact hn
  · exact fun hi => ⟨i.value, hi, rfl⟩

/-- The ordinary text of an integer is read as an id just if the integer has 32 bits with its sign,
and then the id is that integer. It is the same with the ids of radios and of lists of numbers, also
within a device, and with the number of radios, which has 64 bits and no sign. -/
theorem integers_readExactly :
    (∀ k : Int, (Doc.number (.ofInt k)).render = toString k) ∧
    (∀ (k : Int) (i : SubscriptionId), SubscriptionId.codec.parse (toString k) = .ok i ↔
      -2 ^ 31 ≤ k ∧ k < 2 ^ 31 ∧ i.value.toInt = k) ∧
    NumbersPlan.codec.CarriesIntegers "subscription" 0 (-2 ^ 31) (2 ^ 31) Int32.toInt
      (fun p => some p.subscription.value) (fun i p => { p with subscription := ⟨i⟩ }) ∧
    RadioPlan.codec.CarriesIntegers "subscription" 1 (-2 ^ 31) (2 ^ 31) Int32.toInt
      (fun p => p.subscription.map SubscriptionId.value)
      (fun i p => { p with subscription := some ⟨i⟩ }) ∧
    DevicePlan.codec.CarriesIntegers "radio_count" 0 0 (2 ^ 64) (fun n => (n.toNat : Int))
      DevicePlan.count (fun n p => { p with count := some n }) ∧
    (∀ (g : FieldGap "emergency_numbers" 3) (l : ItemGap) (h : FieldGap "subscription" 0),
      DevicePlan.codec.ReadsIntegers (g.close ∘ l.close ∘ h.close) (-2 ^ 31) (2 ^ 31) Int32.toInt
        fun i p => { p with
          numbers := p.numbers.modify l.before.length
            (fun q => { q with subscription := ⟨i⟩ }) }) ∧
    ∀ (g : FieldGap "radios" 2) (l : ItemGap) (h : FieldGap "subscription" 1),
      DevicePlan.codec.ReadsIntegers (g.close ∘ l.close ∘ h.close) (-2 ^ 31) (2 ^ 31) Int32.toInt
        fun i p => { p with
          radios := p.radios.modify l.before.length
            (fun q => { q with subscription := some ⟨i⟩ }) } := by
  have hid := SubscriptionId.integral_codec
  have hnumbers := NumbersPlan.lawful_record
  have hradio := RadioPlan.lawful_record
  have hdevice := DevicePlan.lawful_record
  refine ⟨render_ofInt, fun _ _ => SubscriptionId.parse_toString_iff, ?_, ?_, ?_, ?_, ?_⟩
  · refine hnumbers.carriesIntegers .here hid ?_
    rintro p _ ⟨⟩
    rfl
  · refine hradio.carriesIntegers (.there .here) hid.optional ?_
    intro p n hn
    obtain ⟨i, hi, rfl⟩ := Option.map_eq_some_iff.1 hn
    exact congrArg SubscriptionId.codec.optional.write hi
  · refine hdevice.carriesIntegers .here integral_uint64.optional ?_
    intro p n hn
    exact congrArg uint64.optional.write hn
  · intro g l h
    have hg := DevicePlan.record.within hdevice.distinct (.there (.there (.there .here))) g
    have hh := NumbersPlan.record.within hnumbers.distinct .here h
    exact (hg.trans ((within_list _ l).trans hh)).readsIntegers hid
  · intro g l h
    have hg := DevicePlan.record.within hdevice.distinct (.there (.there .here)) g
    have hh := RadioPlan.record.within hradio.distinct (.there .here) h
    exact (hg.trans ((within_list _ l).trans hh)).readsIntegers hid.optional

/-- The gap of an object that has no other entry. -/
def Json.FieldGap.only (name : String) (index : Nat) : FieldGap name index := .entry [] [] nofun

theorem Json.FieldGap.proper_only (name : String) (index : Nat) (k : Int) :
    ((only name index).close (.number (.ofInt k))).Proper := by
  apply Doc.proper_record
  simpa only [List.nil_append, List.forall_mem_singleton] using Doc.proper_number k

/-- The radio comes second in a device, and its id is the first number below all ids. -/
def strayRadio : Doc :=
  .record [("radios", .list [.record [("handle", .text "a")],
    .record [("handle", .text "b"), ("subscription", .number (.ofInt (-2147483649)))]])]

theorem proper_strayRadio : strayRadio.Proper := by
  apply Doc.proper_record
  simp only [List.forall_mem_singleton]
  apply Doc.proper_list
  simp only [List.forall_mem_cons]
  refine ⟨Doc.proper_record ?_, Doc.proper_record ?_, nofun⟩
  · simpa only [List.forall_mem_singleton] using Doc.proper_text _
  · simp only [List.forall_mem_cons]
    exact ⟨Doc.proper_text _, Doc.proper_number _, nofun⟩

theorem borderIntegers_read :
    NumbersPlan.codec.parse "\x7b\"subscription\":2147483647\x7d" =
        .ok { subscription := ⟨2147483647⟩ } ∧
      (∃ e, NumbersPlan.codec.parse "\x7b\"subscription\":2147483648\x7d" = .error e) ∧
      DevicePlan.codec.parse "\x7b\"radio_count\":18446744073709551615\x7d" =
        .ok { count := some 18446744073709551615 } ∧
      ∃ e, DevicePlan.codec.parse strayRadio.render = .error e := by
  obtain ⟨-, -, hid, -, hcount, -, hradio⟩ := integers_readExactly
  have hs := fun k => (FieldGap.proper_only "subscription" 0 k).spelledAs_render
  have hc := fun k => (FieldGap.proper_only "radio_count" 0 k).spelledAs_render
  have hs₀ : NumbersPlan.codec.parse "\x7b\"subscription\":0\x7d" = .ok { subscription := ⟨0⟩ } :=
    parse_of_spelledAs rfl (hs 0) _
  have hc₀ : DevicePlan.codec.parse "\x7b\"radio_count\":0\x7d" = .ok { count := some 0 } :=
    parse_of_spelledAs rfl (hc 0) _
  refine ⟨?_, ?_, ?_, ?_⟩
  · obtain ⟨i, hi, hp⟩ :=
      (hid.reads _).accepted 2147483647 0 _ _ _ (hs _) (hs _) (by decide) (by decide) hs₀
    obtain rfl : i = 2147483647 := Int32.toInt_inj.1 hi
    exact hp
  · exact (hid.reads _).refused 2147483648 _ (hs _) (by decide)
  · obtain ⟨n, hn, hp⟩ :=
      (hcount.reads _).accepted 18446744073709551615 0 _ _ _ (hc _) (hc _) (by decide)
        (by decide) hc₀
    obtain rfl : n = 18446744073709551615 := UInt64.toNat_inj.1 (Int.ofNat.inj hn)
    exact hp
  · exact (hradio (.only "radios" 2) ⟨[.record [("handle", .text "a")]], [], by decide⟩
      (.entry [("handle", .text "b")] [] (by decide))).refused (-2147483649) _
      proper_strayRadio.spelledAs_render (by decide)

end EmergencyDial

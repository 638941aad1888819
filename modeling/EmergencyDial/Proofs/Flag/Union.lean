import EmergencyDial.Json.Lawful
import EmergencyDial.Proofs.Flag.Text
import Mathlib.Data.Nat.Digits.Defs

/-! A text of flags is read as the union of its items, whichever items it is made of. -/
namespace EmergencyDial

namespace Text.Hex

/-- A hexadecimal digit as it is spelled; only a letter differs in upper case. -/
structure Digit where
  value : Fin 16
  upper : Bool
deriving DecidableEq, Repr

variable {d : Digit} {ds : List Digit}

def Digit.char (d : Digit) : Char :=
  if d.upper then (Nat.digitChar d.value).toUpper else Nat.digitChar d.value

/-- The number that digits stand for, in positional notation. -/
def number (ds : List Digit) : Nat := Nat.ofDigits 16 (ds.reverse.map fun d => d.value.val)

theorem number_cons : number (d :: ds) = number ds + 16 ^ ds.length * d.value := by
  simp [number, Nat.ofDigits_append]

theorem number_lt (ds : List Digit) : number ds < 16 ^ ds.length := by
  have hd : ∀ n ∈ ds.reverse.map fun d => d.value.val, n < 16 := by
    intro n hn
    obtain ⟨d, _, rfl⟩ := List.mem_map.1 hn
    exact d.value.isLt
  simpa [number] using Nat.ofDigits_lt_base_pow_length (by decide) hd

theorem digit?_char (d : Digit) : digit? d.char = some d.value.val := by
  have h : ∀ (v : Fin 16) (u : Bool), digit? (Digit.char ⟨v, u⟩) = some v.val := by decide
  exact h d.value d.upper

theorem extend?_number (n : Nat) (ds : List Digit) :
    extend? n (ds.map Digit.char) = some (16 ^ ds.length * n + number ds) := by
  induction ds generalizing n with
  | nil => simp [extend?, number]
  | cons d ds ih =>
    have hp : 16 ^ ds.length * (16 * n + d.value) + number ds =
        16 ^ (d :: ds).length * n + number (d :: ds) := by
      rw [number_cons, List.length_cons]
      ring
    rw [List.map_cons, extend?, digit?_char, ← hp]
    exact ih (16 * n + d.value)

theorem value?_number (ds : List Digit) : value? (ds.map Digit.char) = some (number ds) := by
  rw [value?, extend?_number, Nat.mul_zero, Nat.zero_add]

end Text.Hex

namespace FlagSet
open Json Text

variable {k : FlagKind} {i : Nat} {s t : String}

/-- What can stand between bars: the name of a flag, or bits in hexadecimal. -/
inductive Item (k : FlagKind)
  | named (f : Flag) (known : f ∈ k.flags)
  | hex (digits : List Hex.Digit) (ne_nil : digits ≠ []) (short : digits.length ≤ 8)

namespace Item

def text : Item k → List Char
  | named f _ => f.name.toList
  | hex ds _ _ => '0' :: 'x' :: ds.map Hex.Digit.char

def bits : Item k → Nat
  | named f _ => f.bit.toNat
  | hex ds _ _ => Hex.number ds

theorem bits_lt (x : Item k) : x.bits < UInt32.size := by
  cases x with
  | named f _ => exact f.bit.toNat_lt
  | hex ds _ hl =>
    calc Hex.number ds
      _ < 16 ^ ds.length := Hex.number_lt ds
      _ ≤ 16 ^ 8 := Nat.pow_le_pow_right (by decide) hl

def word (x : Item k) : UInt32 := .ofNatLT x.bits x.bits_lt

theorem toNat_word (x : Item k) : x.word.toNat = x.bits := UInt32.toNat_ofNatLT

theorem isItem_text (x : Item k) : IsItem x.text := by
  cases x with
  | named f hf => exact isItem_name hf
  | hex ds _ _ => exact isItem_hex (Hex.value?_number ds)

theorem readItem_text (x : Item k) : readItem k x.text = .ok x.word := by
  cases x with
  | named f hf =>
    rw [text, readItem_name hf]
    exact congrArg Except.ok (UInt32.toNat_inj.1 (toNat_word (named f hf)).symm)
  | hex ds hne hl =>
    have hd : ds.map Hex.Digit.char ≠ [] := by simpa using hne
    exact readItem_hex (Hex.value?_number ds) hd (bits_lt (k := k) (hex ds hne hl))

end Item

/-- An item with blanks around it. -/
structure PaddedItem (k : FlagKind) where
  before : List Char
  item : Item k
  after : List Char
  blank : (before ++ after).all Text.isBlank = true

namespace PaddedItem

def text (x : PaddedItem k) : List Char := x.before ++ x.item.text ++ x.after

theorem trim_text (x : PaddedItem k) : trim x.text = x.item.text := by
  obtain ⟨hb, ha⟩ := List.forall_mem_append.1 (List.all_eq_true.1 x.blank)
  rw [text, trim_append_blank ha, trim_blank_append hb, x.item.isItem_text.trim_eq]

theorem bar_notMem_text (x : PaddedItem k) : '|' ∉ x.text := by
  intro hm
  rw [text, List.append_assoc, List.mem_append, List.mem_append, or_left_comm] at hm
  rcases hm with hm | hm
  · exact (x.item.isItem_text.plain '|' hm).2 rfl
  · have := List.all_eq_true.1 x.blank '|' (List.mem_append.2 hm)
    exact absurd this (by decide)

end PaddedItem

/-- The text that items make with bars between them. -/
def joined (xs : List (PaddedItem k)) : String :=
  String.ofList (['|'].intercalate (xs.map PaddedItem.text))

/-- One of the items has the bit. -/
def Covers (xs : List (PaddedItem k)) (i : Nat) : Prop := ∃ x ∈ xs, x.item.bits.testBit i = true

theorem covers_iff (xs : List (PaddedItem k)) :
    Covers xs i ↔ ∃ n ∈ xs.map fun x => x.item.bits, n.testBit i = true := by
  simp [Covers]

theorem testBit_unite (bs : List UInt32) :
    (unite 0 bs).toNat.testBit i = true ↔ ∃ b ∈ bs, b.toNat.testBit i = true := by
  induction bs with
  | nil => simp [unite]
  | cons b bs ih =>
    rw [unite_zero_cons, UInt32.toNat_or, Nat.testBit_or, Bool.or_eq_true, ih]
    simp only [List.mem_cons, exists_eq_or_imp]

theorem ext_testBit {a b : FlagSet k}
    (h : ∀ i, a.bits.toNat.testBit i = true ↔ b.bits.toNat.testBit i = true) : a = b := by
  have hb : a.bits = b.bits :=
    UInt32.toNat_inj.1 (Nat.eq_of_testBit_eq fun i => Bool.eq_iff_iff.2 (h i))
  cases a
  exact congrArg FlagSet.mk hb

theorem trim_joined_ne_nil (x : PaddedItem k) (xs : List (PaddedItem k)) :
    trim (['|'].intercalate ((x :: xs).map PaddedItem.text)) ≠ [] := by
  obtain ⟨hne, hp⟩ := x.item.isItem_text
  obtain ⟨c, hm⟩ := List.exists_mem_of_ne_nil _ hne
  have hm' : c ∈ x.text := by simp [PaddedItem.text, hm]
  exact trim_intercalate_ne_nil hm' (hp c hm).1

theorem read_joined (xs : List (PaddedItem k)) :
    read (joined xs).toList = .ok (⟨unite 0 (xs.map fun x => x.item.word)⟩ : FlagSet k) := by
  rw [joined, String.toList_ofList]
  cases xs with
  | nil => rfl
  | cons x xs =>
    have hbar : ∀ cs ∈ (x :: xs).map PaddedItem.text, '|' ∉ cs := by
      intro cs hm
      obtain ⟨y, _, rfl⟩ := List.mem_map.1 hm
      exact y.bar_notMem_text
    refine read_intercalate hbar (trim_joined_ne_nil x xs) ?_
    rw [List.map_map, List.map_map]
    refine List.map_congr_left fun y _ => ?_
    simp only [Function.comp_apply, y.trim_text, y.item.readItem_text]

theorem parse_joined {xs : List (PaddedItem k)} (ht : (Doc.text (joined xs)).SpelledAs t) :
    (Codec.flags k).parse t = .ok ⟨unite 0 (xs.map fun x => x.item.word)⟩ := by
  rw [Codec.parse_of_spelledAs rfl ht]
  simp only [Codec.flags, read_joined]
  rfl

theorem testBit_words (xs : List (PaddedItem k)) :
    (unite 0 (xs.map fun x => x.item.word)).toNat.testBit i = true ↔ Covers xs i := by
  simp only [testBit_unite, Covers, List.mem_map, exists_exists_and_eq_and, Item.toNat_word]

/-- A text made of items is read, as the set of exactly the bits that the items have. Two such texts
are read alike just if their items have the same bits between them: neither the order of the items
counts nor how often one comes, and a name is as good as its bit. -/
theorem items_read_asUnion {xs : List (PaddedItem k)} (hs : (Doc.text (joined xs)).SpelledAs s) :
    (∃ a, (Codec.flags k).parse s = .ok a ∧ ∀ i, a.bits.toNat.testBit i = true ↔ Covers xs i) ∧
    ∀ (ys : List (PaddedItem k)) (t : String), (Doc.text (joined ys)).SpelledAs t →
      ((Codec.flags k).parse s = (Codec.flags k).parse t ↔ ∀ i, Covers xs i ↔ Covers ys i) := by
  refine ⟨⟨_, parse_joined hs, fun i => testBit_words xs⟩, ?_⟩
  intro ys t ht
  rw [parse_joined hs, parse_joined ht, Except.ok.injEq]
  constructor
  · intro h i
    rw [← testBit_words xs, ← testBit_words ys, FlagSet.mk.inj h]
  · intro h
    apply ext_testBit
    intro i
    rw [testBit_words, testBit_words, h i]

/-- A flag twice, with spaces around it, and a numeral of the bits of two others and of two more that
have no name. -/
def twiceNamed : List (PaddedItem .origins) :=
  [⟨[' '], .named ⟨"SIM", 0x02⟩ (by decide), [' ', ' '], by decide⟩,
    ⟨[], .hex [⟨10, false⟩, ⟨0, false⟩, ⟨0, false⟩, ⟨0, false⟩, ⟨0, false⟩, ⟨0, false⟩, ⟨0, false⟩,
      ⟨9, false⟩] (by decide) (by decide), [], by decide⟩,
    ⟨[], .named ⟨"SIM", 0x02⟩ (by decide), [], by decide⟩]

/-- The same bits in one numeral, written in upper case. -/
def onceNumbered : List (PaddedItem .origins) :=
  [⟨[], .hex [⟨10, true⟩, ⟨0, true⟩, ⟨0, true⟩, ⟨0, true⟩, ⟨0, true⟩, ⟨0, true⟩, ⟨0, true⟩,
    ⟨11, true⟩] (by decide) (by decide), [], by decide⟩]

theorem twiceNamed_read :
    (Doc.text (joined twiceNamed)).SpelledAs "\" SIM  |0xa0000009|SIM\"" ∧
      (Codec.flags .origins).parse "\" SIM  |0xa0000009|SIM\"" = .ok ⟨0xa000000b⟩ ∧
      (Codec.flags .origins).parse "\" SIM  |0xa0000009|SIM\"" =
        (Codec.flags .origins).parse "\"0xA000000B\"" := by
  have hs : (Doc.text (joined twiceNamed)).SpelledAs "\" SIM  |0xa0000009|SIM\"" :=
    (Doc.proper_text _).spelledAs_render
  have ht : (Doc.text (joined onceNumbered)).SpelledAs "\"0xA000000B\"" :=
    (Doc.proper_text _).spelledAs_render
  have hx : twiceNamed.map (fun x => x.item.bits) = [0x02, 0xa0000009, 0x02] := rfl
  have hy : onceNumbered.map (fun x => x.item.bits) = [0xa000000b] := rfl
  have hbits : ∀ i, Covers twiceNamed i ↔ (0xa000000b : UInt32).toNat.testBit i = true := by
    intro i
    have hw : (0xa000000b : UInt32).toNat = 0x02 ||| (0xa0000009 ||| 0x02) := rfl
    rw [covers_iff, hx, hw, Nat.testBit_or, Nat.testBit_or]
    simp
  have hsame : ∀ i, Covers twiceNamed i ↔ Covers onceNumbered i := by
    intro i
    rw [hbits, covers_iff onceNumbered, hy]
    simp
  obtain ⟨⟨a, ha, hi⟩, hall⟩ := items_read_asUnion hs
  refine ⟨hs, ?_, (hall onceNumbered _ ht).2 hsame⟩
  rw [ha, ext_testBit fun i => (hi i).trans (hbits i)]

end FlagSet
end EmergencyDial

import EmergencyDial.Json.Doc.Printer
import EmergencyDial.Json.Lexer

/-! The spellings of tokens. A token is scanned from each of them, whatever follows it, and so are
tokens in a row with blanks between. -/
namespace EmergencyDial.Json

def Digits (cs : List Char) : Prop := cs ≠ [] ∧ ∀ c ∈ cs, c.isDigit = true

/-- The parts of a numeral hold digits, and the whole part no zero in front of others. -/
structure Numeral.Proper (n : Numeral) : Prop where
  whole : Digits n.whole
  zero : ∀ ds, n.whole = '0' :: ds → ds = []
  fraction : ∀ ds ∈ n.fraction, Digits ds
  exponent : ∀ e ∈ n.exponent, Digits e.digits

/-- A text with which no numeral can go on. -/
def Closes (cs : List Char) : Prop :=
  ∀ c ∈ cs.head?, c.isDigit = false ∧ c ≠ '.' ∧ c ≠ 'e' ∧ c ≠ 'E'

/-- The letter may be of either case, and only the sign of a negative exponent has to be there. -/
inductive SpelledExponent : Option Exponent → List Char → Prop
  | none : SpelledExponent .none []
  | unsigned {m : Char} {ds : List Char} (hm : m = 'e' ∨ m = 'E') :
    SpelledExponent (some ⟨false, ds⟩) (m :: ds)
  | plus {m : Char} {ds : List Char} (hm : m = 'e' ∨ m = 'E') :
    SpelledExponent (some ⟨false, ds⟩) (m :: '+' :: ds)
  | minus {m : Char} {ds : List Char} (hm : m = 'e' ∨ m = 'E') :
    SpelledExponent (some ⟨true, ds⟩) (m :: '-' :: ds)

/-- The text of a numeral with one of the spellings of its exponent. -/
structure Numeral.Spelled (n : Numeral) (cs : List Char) : Prop where
  proper : n.Proper
  parts : ∃ es, SpelledExponent n.exponent es ∧
    cs = (if n.negative then ['-'] else []) ++ (n.whole ++ n.fraction.elim [] ('.' :: ·) ++ es)

/-- Most characters may stand for themselves, some have a short escape, and any unit of 16 bits can
be given by its number. -/
inductive SpelledPieces : List Piece → List Char → Prop
  | nil : SpelledPieces [] []
  | char {c : Char} {ps : List Piece} {cs : List Char} (hq : c ≠ '"') (hb : c ≠ '\\')
      (hc : ¬ c.toNat < 0x20) (h : SpelledPieces ps cs) : SpelledPieces (.char c :: ps) (c :: cs)
  | escape {c d : Char} {ps : List Piece} {cs : List Char} (he : escape? c = some d)
      (h : SpelledPieces ps cs) : SpelledPieces (.char d :: ps) ('\\' :: c :: cs)
  | unit {a b c d : Char} {n : Nat} {ps : List Piece} {cs : List Char}
      (hx : Text.Hex.value? [a, b, c, d] = some n) (h : SpelledPieces ps cs) :
    SpelledPieces (.unit n :: ps) ('\\' :: 'u' :: a :: b :: c :: d :: cs)

/-- There is a choice in the spelling of numbers and texts only. -/
def Token.Spelled (t : Token) (cs : List Char) : Prop :=
  match t with
  | .number n => n.Spelled cs
  | .text _ | .garbled => ∃ ps body, SpelledPieces ps body ∧ textToken ps = t ∧
    cs = '"' :: body ++ ['"']
  | .bad => False
  | t => cs = t.spelling

/-- A text that tokens are spelled in, with any blanks in front of each and after the last. -/
inductive Spells : List Token → List Char → Prop
  | nil {bs : List Char} (hb : ∀ c ∈ bs, isBlank c = true) : Spells [] bs
  | cons {t : Token} {ts : List Token} {bs cs r : List Char} (hb : ∀ c ∈ bs, isBlank c = true)
      (ht : t.Spelled cs) (hr : Spells ts r) : Spells (t :: ts) (bs ++ (cs ++ r))

variable {r cs es bs : List Char} {t : Token} {ts : List Token}

theorem scanDigits_append {ds : List Char} (h : Digits ds)
    (hr : ∀ c ∈ r.head?, c.isDigit = false) : scanDigits (ds ++ r) = some (ds, r) := by
  have ht : (ds ++ r).takeWhile Char.isDigit = ds := by
    rw [List.takeWhile_append_of_pos h.2]
    cases r <;> simp_all
  have hd : (ds ++ r).dropWhile Char.isDigit = r := by
    rw [List.dropWhile_append_of_pos h.2]
    cases r <;> simp_all
  unfold scanDigits
  rw [ht, hd]
  obtain ⟨c, cs, rfl⟩ := List.exists_cons_of_ne_nil h.1
  rfl

theorem scanWhole_append {ds : List Char} (h : Digits ds) (hz : ∀ cs, ds = '0' :: cs → cs = [])
    (hr : ∀ c ∈ r.head?, c.isDigit = false) : scanWhole (ds ++ r) = some (ds, r) := by
  unfold scanWhole
  rw [scanDigits_append h hr]
  split
  · next c cs _ he =>
    cases he
    have := hz (c :: cs) rfl
    simp at this
  · rfl

theorem scanFraction_append {ds : Option (List Char)} (h : ∀ cs ∈ ds, Digits cs)
    (hr : ∀ c ∈ r.head?, c.isDigit = false ∧ c ≠ '.') :
    scanFraction (ds.elim [] ('.' :: ·) ++ r) = some (ds, r) := by
  cases ds with
  | none =>
    cases r with
    | nil => rfl
    | cons c r =>
      have := hr c rfl
      simp [scanFraction, this.2]
  | some ds =>
    have := scanDigits_append (h ds rfl) fun c hc => (hr c hc).1
    simp [scanFraction, this]

theorem scanSign_digits {ds : List Char} (h : Digits ds) :
    scanSign (ds ++ r) = (false, ds ++ r) := by
  obtain ⟨c, cs, rfl⟩ := List.exists_cons_of_ne_nil h.1
  have hc := h.2 c List.mem_cons_self
  have h₁ : c ≠ '-' := by
    rintro rfl
    cases hc
  have h₂ : c ≠ '+' := by
    rintro rfl
    cases hc
  simp [scanSign, h₁, h₂]

theorem scanExponent_append {e : Option Exponent} (h : ∀ x ∈ e, Digits x.digits)
    (hs : SpelledExponent e es) (hr : Closes r) : scanExponent (es ++ r) = some (e, r) := by
  cases hs with
  | none =>
    cases r with
    | nil => rfl
    | cons c r =>
      have := hr c rfl
      simp [scanExponent, this]
  | @unsigned m ds hm =>
    have hd := scanDigits_append (h _ rfl) fun c hc => (hr c hc).1
    have hz := scanSign_digits (r := r) (h _ rfl)
    simp_all [scanExponent]
  | @plus m ds hm =>
    have hd := scanDigits_append (h _ rfl) fun c hc => (hr c hc).1
    simp_all [scanExponent, scanSign]
  | @minus m ds hm =>
    have hd := scanDigits_append (h _ rfl) fun c hc => (hr c hc).1
    simp_all [scanExponent, scanSign]

theorem spelledExponent_text (e : Option Exponent) :
    SpelledExponent e (e.elim [] Exponent.text) := by
  cases e with
  | none => exact .none
  | some e =>
    obtain ⟨b, ds⟩ := e
    cases b with
    | false => exact .unsigned (Or.inl rfl)
    | true => exact .minus (Or.inl rfl)

theorem closes_exponent {e : Option Exponent} (hs : SpelledExponent e es) (hr : Closes r) :
    ∀ c ∈ (es ++ r).head?, c.isDigit = false ∧ c ≠ '.' := by
  cases hs with
  | none => exact fun c hc => ⟨(hr c hc).1, (hr c hc).2.1⟩
  | unsigned hm | plus hm | minus hm =>
    intro c hc
    cases hc
    rcases hm with rfl | rfl <;> decide

theorem scanNumeral_append {n : Numeral} (h : n.Proper) (hs : SpelledExponent n.exponent es)
    (hr : Closes r) :
    scanNumeral n.negative (n.whole ++ n.fraction.elim [] ('.' :: ·) ++ es ++ r) = some (n, r) := by
  have he := closes_exponent hs hr
  have hf : ∀ c ∈ (n.fraction.elim [] ('.' :: ·) ++ (es ++ r)).head?, c.isDigit = false := by
    cases n.fraction with
    | none => exact fun c hc => (he c hc).1
    | some ds =>
      intro c hc
      cases hc
      rfl
  simp [scanNumeral, scanWhole_append h.whole h.zero hf, scanFraction_append h.fraction he,
    scanExponent_append h.exponent hs hr]

/-- The piece that a character is written as. -/
def Piece.of (c : Char) : Piece :=
  if c.toNat < 0x20 ∧ c ∉ ['\x08', '\t', '\n', '\x0c', '\r'] then .unit c.toNat else .char c

theorem scanText_append {ps : List Piece} (h : SpelledPieces ps cs) :
    scanText (cs ++ '"' :: r) = some (ps, r) := by
  induction h with
  | nil => simp [scanText]
  | char hq hb hc _ ih =>
    rw [List.cons_append, scanText]
    · simp [hb, hc, ih]
    · exact hq
    · intro _ _ _ _ _ he
      exact absurd he hb
    · intro _ _ he
      exact absurd he hb
  | @escape c d _ _ he _ ih =>
    have hc : c ≠ 'u' := by
      rintro rfl
      cases he
    rw [List.cons_append, List.cons_append, scanText]
    · simp only [he, ih]
    · intro _ _ _ _ _ hu
      exact absurd hu hc
  | unit hx _ ih => simp only [List.cons_append, scanText, hx, ih]

theorem value?_twoDigits {n : Nat} (h : n < 0x20) :
    Text.Hex.value? ('0' :: '0' :: Text.Hex.twoDigits n) = some n := by
  have : ∀ n : Fin 0x20, Text.Hex.value? ('0' :: '0' :: Text.Hex.twoDigits n.val) = some n.val := by
    decide
  exact this ⟨n, h⟩

theorem spelledPieces_escaped (c : Char) {ps : List Piece} (h : SpelledPieces ps cs) :
    SpelledPieces (Piece.of c :: ps) (escaped c ++ cs) := by
  unfold escaped
  split
  iterate 7
    · exact .escape rfl h
  · split
    · next hc =>
      have hp : Piece.of c = .unit c.toNat := by simp_all [Piece.of]
      rw [hp]
      exact .unit (value?_twoDigits hc) h
    · next hq hb _ _ _ _ _ hc =>
      have hp : Piece.of c = .char c := by simp [Piece.of, hc]
      rw [hp]
      exact .char hq hb hc h

theorem spelledPieces_of (s : List Char) : SpelledPieces (s.map Piece.of) (s.flatMap escaped) := by
  induction s with
  | nil => exact .nil
  | cons c s ih => exact spelledPieces_escaped c ih

theorem joinPieces_cons_of (c : Char) (ps : List Piece) :
    joinPieces (Piece.of c :: ps) = (joinPieces ps).map (c :: ·) := by
  unfold Piece.of
  split
  · next h =>
    have hh : isHighHalf c.toNat = false := by
      simp [isHighHalf]
      omega
    have hl : isLowHalf c.toNat = false := by
      simp [isLowHalf]
      omega
    cases ps with
    | nil => simp [joinPieces, hh, hl, Char.ofNat_toNat]
    | cons p ps => cases p <;> simp [joinPieces, hh, hl, Char.ofNat_toNat]
  · rw [joinPieces]

theorem joinPieces_of (s : List Char) : joinPieces (s.map Piece.of) = some s := by
  induction s with
  | nil => rfl
  | cons c s ih => rw [List.map_cons, joinPieces_cons_of, ih, Option.map_some]

/-- A spelled text is read back. -/
theorem textToken_of (s : String) : textToken (s.toList.map Piece.of) = .text s := by
  simp [textToken, joinPieces_of]

def Token.Proper : Token → Prop
  | .number n => n.Proper
  | .bad => False
  | _ => True

theorem scanToken_digit {c : Char} (hc : c.isDigit = true) (cs : List Char) :
    scanToken (c :: cs) = (scanNumeral false (c :: cs)).map fun (n, r) => (.number n, r) := by
  simp only [scanToken]
  split
  iterate 11
    · exact absurd hc (by decide)
  · rfl

theorem scanToken_number {n : Numeral} (h : n.Spelled cs) (hr : Closes r) :
    scanToken (cs ++ r) = some (.number n, r) := by
  obtain ⟨hp, es, he, rfl⟩ := h
  have hs := scanNumeral_append hp he hr
  cases hn : n.negative with
  | true =>
    rw [hn] at hs
    simpa [scanToken] using hs
  | false =>
    obtain ⟨c, ds, hc⟩ := List.exists_cons_of_ne_nil hp.whole.1
    have hd := hp.whole.2 c (by simp [hc])
    rw [hn, hc] at hs
    rw [hc]
    simp only [Bool.false_eq_true, if_false, List.nil_append, List.cons_append] at hs ⊢
    rw [scanToken_digit hd, hs]
    rfl

/-- What follows a token matters to a number only. -/
theorem scanToken_append (h : t.Spelled cs) (hr : ∀ n, t = .number n → Closes r) :
    scanToken (cs ++ r) = some (t, r) := by
  cases t with
  | bool b =>
    obtain rfl : cs = _ := h
    cases b <;> rfl
  | number n => exact scanToken_number h (hr n rfl)
  | text s | garbled =>
    obtain ⟨ps, body, hp, ht, rfl⟩ := h
    have hs : scanText (body ++ ['"'] ++ r) = some (ps, r) := by
      simpa using scanText_append (r := r) hp
    simp only [List.cons_append, scanToken, hs, Option.map_some, ht]
  | bad => exact absurd h id
  | _ =>
    obtain rfl : cs = _ := h
    rfl

def Token.isNumber : Token → Bool
  | .number _ => true
  | _ => false

/-- No token starts with a blank, and none but a number with what a number could go on with. -/
theorem head_of_spelled (h : t.Spelled cs) : ∃ c cs', cs = c :: cs' ∧ isBlank c = false ∧
    (t.isNumber = false → c.isDigit = false ∧ c ≠ '.' ∧ c ≠ 'e' ∧ c ≠ 'E') := by
  cases t with
  | bool b =>
    obtain rfl : cs = _ := h
    cases b <;> exact ⟨_, _, rfl, rfl, fun _ => by decide⟩
  | number n =>
    obtain ⟨hp, es, _, rfl⟩ := h
    cases n.negative with
    | true => exact ⟨_, _, rfl, rfl, nofun⟩
    | false =>
      obtain ⟨c, ds, hc⟩ := List.exists_cons_of_ne_nil hp.whole.1
      have hd := hp.whole.2 c (by simp [hc])
      refine ⟨c, _, by rw [hc]; rfl, ?_, nofun⟩
      simp only [isBlank, Bool.or_eq_false_iff, beq_eq_false_iff_ne]
      refine ⟨⟨⟨?_, ?_⟩, ?_⟩, ?_⟩ <;> rintro rfl <;> exact absurd hd (by decide)
  | text s | garbled =>
    obtain ⟨_, _, _, _, rfl⟩ := h
    exact ⟨_, _, rfl, rfl, fun _ => by decide⟩
  | bad => exact absurd h id
  | _ =>
    obtain rfl : cs = _ := h
    exact ⟨_, _, rfl, rfl, fun _ => by decide⟩

theorem tokens_blank (hb : ∀ c ∈ bs, isBlank c = true) : tokens bs = [] := by
  have hd : (bs ++ []).dropWhile isBlank = [] := List.dropWhile_append_of_pos hb
  rw [List.append_nil] at hd
  rw [tokens]
  split
  · rfl
  · simp_all

theorem tokens_append (hb : ∀ c ∈ bs, isBlank c = true) (h : t.Spelled cs)
    (hr : ∀ n, t = .number n → Closes r) : tokens (bs ++ (cs ++ r)) = t :: tokens r := by
  have hs := scanToken_append h hr
  obtain ⟨c, cs, rfl, hc, _⟩ := head_of_spelled h
  rw [List.cons_append] at hs ⊢
  have hd : (bs ++ c :: (cs ++ r)).dropWhile isBlank = c :: (cs ++ r) := by
    rw [List.dropWhile_append_of_pos hb]
    simp [hc]
  rw [tokens]
  split
  · simp_all
  · next he =>
    rw [hd] at he
    cases he
    split
    · simp_all
    · simp_all

/-- No number stands right after another. -/
def Apart : List Token → Prop
  | [] => True
  | t :: ts => (t.isNumber = true → ∀ u ∈ ts.head?, u.isNumber = false) ∧ Apart ts

theorem closes_of_spells (h : Spells ts r) (hn : ∀ u ∈ ts.head?, u.isNumber = false) :
    Closes r := by
  have hblank : ∀ c, isBlank c = true → c.isDigit = false ∧ c ≠ '.' ∧ c ≠ 'e' ∧ c ≠ 'E' := by
    intro c hc
    simp only [isBlank, Bool.or_eq_true, beq_iff_eq] at hc
    rcases hc with ((rfl | rfl) | rfl) | rfl <;> decide
  cases h with
  | nil hb => exact fun c hc => hblank c (hb c (List.mem_of_mem_head? hc))
  | @cons t ts bs cs r hb ht _ =>
    cases bs with
    | nil =>
      obtain ⟨c, cs, rfl, _, hc⟩ := head_of_spelled ht
      rintro d ⟨⟩
      exact hc (hn t rfl)
    | cons b bs =>
      rintro d ⟨⟩
      exact hblank b (hb b List.mem_cons_self)

/-- Tokens are told apart again, however they are spelled. -/
theorem tokens_of_spells (h : Spells ts cs) (ha : Apart ts) : tokens cs = ts := by
  induction h with
  | nil hb => exact tokens_blank hb
  | @cons t ts bs cs r hb ht hr ih =>
    rw [tokens_append hb ht, ih ha.2]
    rintro n rfl
    exact closes_of_spells hr (ha.1 rfl)

theorem spelled_spelling (h : t.Proper) : t.Spelled t.spelling := by
  cases t with
  | number n =>
    refine ⟨h, _, spelledExponent_text n.exponent, ?_⟩
    cases hn : n.negative <;> simp [Token.spelling, Numeral.text, Numeral.unsigned, hn]
  | text s => exact ⟨_, _, spelledPieces_of s.toList, textToken_of s, rfl⟩
  | garbled => exact ⟨[.unit 0xd800], _, .unit (by decide) .nil, rfl, rfl⟩
  | bad => exact h
  | _ => rfl

theorem spells_flatMap (h : ∀ t ∈ ts, t.Proper) : Spells ts (ts.flatMap Token.spelling) := by
  induction ts with
  | nil => exact .nil nofun
  | cons t ts ih =>
    have hs := ih fun u hu => h u (List.mem_cons_of_mem t hu)
    have hb : ∀ c ∈ ([] : List Char), isBlank c = true := nofun
    exact .cons hb (spelled_spelling (h t List.mem_cons_self)) hs

end EmergencyDial.Json

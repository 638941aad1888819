import EmergencyDial.Json.Doc.Reader
import EmergencyDial.Json.Spelling

/-! A document is read from each of its spellings, its compact text among them. -/
namespace EmergencyDial.Json
variable {cs : List Char} {ts : List Token} {d e : Doc}

/-- A document that is read to its end, in tokens that can be spelled. -/
structure Doc.Proper (d : Doc) : Prop where
  complete : d.complete = true
  tokens : ∀ t ∈ d.tokens, t.Proper

theorem readFrom_key {k : Doc} {p : Place} (h : k.isKey = true) (hp : p = .key ∨ p = .firstKey)
    (es : List (Doc × Doc)) (st : List Frame) (ts : List Token) :
    readFrom p (.key es :: st) (k.tokens ++ .colon :: ts) =
      readFrom .value (.value es k :: st) ts := by
  obtain rfl | rfl := hp <;>
    cases k <;> simp_all [Doc.isKey, Doc.tokens, readFrom, Place.next?, Place.key?]

mutual
/-- The tokens of a document lead from a place for a value to the place after it. -/
theorem readFrom_tokens (d : Doc) (h : d.complete = true) {p : Place}
    (hp : p = .value ∨ p = .firstItem) (st : List Frame) (ts : List Token) :
    readFrom p st (d.tokens ++ ts) = readFrom (.after d) st ts := by
  match d with
  | .null | .bool _ | .number _ | .text _ | .garbled | .list [] | .object [] =>
    obtain rfl | rfl := hp <;> simp [Doc.tokens, readFrom, Place.next?, Place.value?]
  | .broken => simp [Doc.complete] at h
  | .list (d :: ds) =>
    simp only [Doc.complete, Doc.completeItems, Bool.and_eq_true] at h
    have hd := readFrom_tokens d h.1 (Or.inr rfl) (.list [] :: st) (Doc.furtherItems ds ++ ts)
    have hs := readFrom_items ds h.2 d [] st ts
    obtain rfl | rfl := hp <;> simp_all [Doc.tokens, readFrom, Place.next?, Place.value?]
  | .object ((k, d) :: es) =>
    simp only [Doc.complete, Doc.completeEntries, Bool.and_eq_true] at h
    have hk := readFrom_key h.1.1 (Or.inr rfl) [] st (d.tokens ++ (Doc.furtherEntries es ++ ts))
    have hd := readFrom_tokens d h.1.2 (Or.inl rfl) (.value [] k :: st)
      (Doc.furtherEntries es ++ ts)
    have hs := readFrom_entries es h.2 k d [] st ts
    obtain rfl | rfl := hp <;> simp_all [Doc.tokens, readFrom, Place.next?, Place.value?]

theorem readFrom_items (ds : List Doc) (h : Doc.completeItems ds = true) (d : Doc)
    (done : List Doc) (st : List Frame) (ts : List Token) :
    readFrom (.after d) (.list done :: st) (Doc.furtherItems ds ++ ts) =
      readFrom (.after (.list (done.reverse ++ d :: ds))) st ts := by
  match ds with
  | [] => simp [Doc.furtherItems, readFrom, Place.next?]
  | e :: ds =>
    simp only [Doc.completeItems, Bool.and_eq_true] at h
    have he := readFrom_tokens e h.1 (Or.inl rfl) (.list (d :: done) :: st)
      (Doc.furtherItems ds ++ ts)
    have hs := readFrom_items ds h.2 e (d :: done) st ts
    simp_all [Doc.furtherItems, readFrom, Place.next?]

theorem readFrom_entries (es : List (Doc × Doc)) (h : Doc.completeEntries es = true) (k d : Doc)
    (done : List (Doc × Doc)) (st : List Frame) (ts : List Token) :
    readFrom (.after d) (.value done k :: st) (Doc.furtherEntries es ++ ts) =
      readFrom (.after (.object (done.reverse ++ (k, d) :: es))) st ts := by
  match es with
  | [] => simp [Doc.furtherEntries, readFrom, Place.next?]
  | (l, e) :: es =>
    simp only [Doc.completeEntries, Bool.and_eq_true] at h
    have hl := readFrom_key h.1.1 (Or.inl rfl) ((k, d) :: done) st
      (e.tokens ++ (Doc.furtherEntries es ++ ts))
    have he := readFrom_tokens e h.1.2 (Or.inl rfl) (.value ((k, d) :: done) l :: st)
      (Doc.furtherEntries es ++ ts)
    have hs := readFrom_entries es h.2 l e ((k, d) :: done) st ts
    simp_all [Doc.furtherEntries, readFrom, Place.next?]
end

theorem head?_furtherItems (ds : List Doc) :
    ∀ u ∈ (Doc.furtherItems ds ++ ts).head?, u.isNumber = false := by
  cases ds <;> rintro u ⟨⟩ <;> rfl

theorem head?_furtherEntries (es : List (Doc × Doc)) :
    ∀ u ∈ (Doc.furtherEntries es ++ ts).head?, u.isNumber = false := by
  cases es <;> rintro u ⟨⟩ <;> rfl

mutual
/-- In a document there is something between any two numbers. -/
theorem apart_tokens (d : Doc) {ts : List Token} (h : Apart ts)
    (hn : ∀ u ∈ ts.head?, u.isNumber = false) : Apart (d.tokens ++ ts) := by
  match d with
  | .null | .bool _ | .text _ | .garbled | .broken => exact ⟨nofun, h⟩
  | .number _ => exact ⟨fun _ => hn, h⟩
  | .list [] | .object [] => exact ⟨nofun, nofun, h⟩
  | .list (d :: ds) =>
    have hd := apart_tokens d (apart_furtherItems ds h) (head?_furtherItems ds)
    simpa [Doc.tokens] using ⟨nofun, hd⟩
  | .object ((k, d) :: es) =>
    have hd := apart_tokens d (apart_furtherEntries es h) (head?_furtherEntries es)
    have hk : Apart (k.tokens ++ .colon :: (d.tokens ++ (Doc.furtherEntries es ++ ts))) :=
      apart_tokens k ⟨nofun, hd⟩ (by rintro u ⟨⟩; rfl)
    simpa [Doc.tokens] using ⟨nofun, hk⟩

theorem apart_furtherItems (ds : List Doc) {ts : List Token} (h : Apart ts) :
    Apart (Doc.furtherItems ds ++ ts) := by
  match ds with
  | [] => exact ⟨nofun, h⟩
  | d :: ds =>
    have hd := apart_tokens d (apart_furtherItems ds h) (head?_furtherItems ds)
    simpa [Doc.furtherItems] using ⟨nofun, hd⟩

theorem apart_furtherEntries (es : List (Doc × Doc)) {ts : List Token} (h : Apart ts) :
    Apart (Doc.furtherEntries es ++ ts) := by
  match es with
  | [] => exact ⟨nofun, h⟩
  | (k, d) :: es =>
    have hd := apart_tokens d (apart_furtherEntries es h) (head?_furtherEntries es)
    have hk : Apart (k.tokens ++ .colon :: (d.tokens ++ (Doc.furtherEntries es ++ ts))) :=
      apart_tokens k ⟨nofun, hd⟩ (by rintro u ⟨⟩; rfl)
    simpa [Doc.furtherEntries] using ⟨nofun, hk⟩
end

/-- A text that a document can be spelled as, with blanks between its tokens. -/
def Doc.SpelledAs (d : Doc) (s : String) : Prop := Spells d.tokens s.toList

theorem readDoc_of_spells (hc : d.complete = true) (h : Spells d.tokens cs) :
    readDoc cs = (d, []) := by
  have ha : Apart (d.tokens ++ []) := apart_tokens d trivial nofun
  have hr := readFrom_tokens d hc (Or.inl rfl) [] []
  rw [List.append_nil] at ha hr
  rw [readDoc, tokens_of_spells h ha, hr, readFrom]

theorem readDoc_spelling (h : d.Proper) : readDoc d.spelling = (d, []) :=
  readDoc_of_spells h.complete (spells_flatMap h.tokens)

theorem Doc.Proper.spelledAs_render (h : d.Proper) : d.SpelledAs d.render := by
  rw [SpelledAs, render, String.toList_ofList]
  exact spells_flatMap h.tokens

/-- No two documents have the same compact text. -/
theorem Doc.render_inj (hd : d.Proper) (he : e.Proper) : d.render = e.render ↔ d = e := by
  constructor
  · intro h
    have hr := readDoc_spelling hd
    rw [String.ofList_inj.1 h, readDoc_spelling he] at hr
    exact (congrArg Prod.fst hr).symm
  · exact congrArg render

end EmergencyDial.Json

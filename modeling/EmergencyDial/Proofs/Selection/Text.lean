import EmergencyDial.Proofs.RoundTrip

/-! A selection can be told from its text. -/
namespace EmergencyDial
open Json

theorem Snapshot.proper_doc (s : Snapshot) : s.doc.Proper := by
  apply Doc.proper_record
  simp only [List.forall_mem_cons]
  exact ⟨lawful_optional_handle.proper _, Codec.lawful_bool.proper _,
    SubscriptionId.lawful_codec.proper _, Codec.lawful_text.proper _,
    lawful_optional_numbers.proper _, nofun⟩

theorem Source.proper_doc (s : Source) : s.doc.Proper := by
  cases s with
  | byDefault =>
    apply Doc.proper_record
    simp only [List.forall_mem_cons]
    exact ⟨Doc.proper_text _, nofun⟩
  | callCapable k =>
    apply Doc.proper_record
    simp only [List.forall_mem_cons]
    exact ⟨Doc.proper_text _, Doc.proper_number _, nofun⟩

theorem Selection.proper_doc (s : Selection) : s.doc.Proper := by
  apply Doc.proper_record
  simp only [List.forall_mem_cons]
  exact ⟨s.snapshot.proper_doc, s.source.proper_doc, nofun⟩

theorem Snapshot.doc_inj {s t : Snapshot} : s.doc = t.doc ↔ s = t := by
  refine ⟨fun h => ?_, congrArg doc⟩
  simp only [doc, Doc.record_inj, List.cons.injEq, Prod.mk.injEq, true_and, and_true] at h
  obtain ⟨hh, hc, hi, hn, hp⟩ := h
  cases s
  cases t
  simp only [mk.injEq]
  exact ⟨lawful_optional_handle.write_inj.1 hh, Codec.lawful_bool.write_inj.1 hc,
    SubscriptionId.lawful_codec.write_inj.1 hi, Codec.lawful_text.write_inj.1 hn,
    lawful_optional_numbers.write_inj.1 hp⟩

theorem Source.doc_inj {s t : Source} : s.doc = t.doc ↔ s = t := by
  cases s with
  | byDefault => cases t <;> simp [doc]
  | callCapable k =>
    cases t with
    | byDefault => simp [doc]
    | callCapable l =>
      simp only [doc, Doc.record_inj, List.cons.injEq, Prod.mk.injEq, true_and, and_true,
        Doc.number.injEq, Numeral.ofNat, Numeral.ofInt_inj, Int.ofNat_inj, callCapable.injEq]

theorem Selection.doc_inj {s t : Selection} : s.doc = t.doc ↔ s = t := by
  cases s
  cases t
  simp [doc, Snapshot.doc_inj, Source.doc_inj]

/-- Two selections with one text are one selection. -/
theorem selection_known_by_text (s t : Selection) : s.doc.render = t.doc.render ↔ s = t := by
  rw [Doc.render_inj s.proper_doc t.proper_doc, Selection.doc_inj]

end EmergencyDial

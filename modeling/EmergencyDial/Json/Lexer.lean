import EmergencyDial.Json.Token

/-! The tokens of a text, up to the first place where there is none. -/
namespace EmergencyDial.Json
variable {cs r : List Char}

theorem scanText_length {ps : List Piece} (h : scanText cs = some (ps, r)) :
    r.length < cs.length := by
  fun_induction scanText cs generalizing ps with
  | case1 => cases h
  | case2 => cases h; simp
  | case3 _ _ _ _ _ _ _ _ hr _ ih =>
    cases h
    have := ih hr
    simp only [List.length_cons]
    omega
  | case4 => cases h
  | case5 _ _ _ _ _ _ hr _ ih =>
    cases h
    have := ih hr
    simp only [List.length_cons]
    omega
  | case6 => cases h
  | case7 => cases h
  | case8 _ _ _ _ _ _ ih =>
    obtain ⟨⟨_, _⟩, hr, he⟩ := Option.map_eq_some_iff.1 h
    cases he
    have := ih hr
    simp only [List.length_cons]
    omega

theorem scanDigits_length {ds : List Char} (h : scanDigits cs = some (ds, r)) :
    r.length < cs.length := by
  have hl := congrArg List.length (List.takeWhile_append_dropWhile (p := Char.isDigit) (l := cs))
  rw [List.length_append] at hl
  unfold scanDigits at h
  split at h
  · cases h
  · next hne =>
    cases h
    have := List.length_pos_iff.2 hne
    omega

theorem scanWhole_length {ds : List Char} (h : scanWhole cs = some (ds, r)) :
    r.length < cs.length := by
  unfold scanWhole at h
  split at h
  · cases h
  · exact scanDigits_length h

theorem scanFraction_length {ds : Option (List Char)} (h : scanFraction cs = some (ds, r)) :
    r.length ≤ cs.length := by
  unfold scanFraction at h
  split at h
  · obtain ⟨⟨_, _⟩, hd, he⟩ := Option.map_eq_some_iff.1 h
    cases he
    have := scanDigits_length hd
    simp only [List.length_cons]
    omega
  · cases h
    exact Nat.le_refl _

theorem scanSign_length (cs : List Char) : (scanSign cs).2.length ≤ cs.length := by
  unfold scanSign
  split <;> simp

theorem scanExponent_length {e : Option Exponent} (h : scanExponent cs = some (e, r)) :
    r.length ≤ cs.length := by
  unfold scanExponent at h
  split at h
  · cases h
    exact Nat.le_refl _
  · next c cs =>
    split at h
    · obtain ⟨⟨_, _⟩, hd, he⟩ := Option.map_eq_some_iff.1 h
      cases he
      have := scanDigits_length hd
      have := scanSign_length cs
      simp only [List.length_cons]
      omega
    · cases h
      exact Nat.le_refl _

theorem scanNumeral_length {b : Bool} {n : Numeral} (h : scanNumeral b cs = some (n, r)) :
    r.length < cs.length := by
  simp only [scanNumeral, Option.bind_eq_bind, Option.bind_eq_some_iff, Prod.exists] at h
  obtain ⟨_, _, hw, _, _, hf, _, _, he, hr⟩ := h
  have := scanWhole_length hw
  have := scanFraction_length hf
  have := scanExponent_length he
  cases hr
  omega

theorem scanWord_length {w : List Char} {t u : Token} (h : scanWord w t cs = some (u, r)) :
    r.length ≤ cs.length := by
  unfold scanWord at h
  split at h
  · cases h
    simp
  · cases h

/-- A token takes at least one character. -/
theorem scanToken_length {t : Token} (h : scanToken cs = some (t, r)) : r.length < cs.length := by
  unfold scanToken at h
  split at h
  · cases h
  · rw [List.length_cons, Nat.lt_succ_iff]
    split at h
    iterate 6
      · cases h
        exact Nat.le_refl _
    · obtain ⟨⟨_, _⟩, hd, he⟩ := Option.map_eq_some_iff.1 h
      cases he
      exact Nat.le_of_lt (scanText_length hd)
    iterate 3
      · exact scanWord_length h
    · obtain ⟨⟨_, _⟩, hd, he⟩ := Option.map_eq_some_iff.1 h
      cases he
      exact Nat.le_of_lt (scanNumeral_length hd)
    · obtain ⟨⟨_, _⟩, hd, he⟩ := Option.map_eq_some_iff.1 h
      cases he
      exact Nat.lt_succ_iff.1 (scanNumeral_length hd)

/-- Ends with `bad` where the text has no token. -/
def tokens (cs : List Char) : List Token :=
  match _hc : cs.dropWhile isBlank with
  | [] => []
  | c :: cs' =>
    match _ht : scanToken (c :: cs') with
    | none => [.bad]
    | some (t, r) => t :: tokens r
termination_by cs.length
decreasing_by
  have h₁ := scanToken_length _ht
  have h₂ := (List.dropWhile_sublist isBlank (l := cs)).length_le
  rw [_hc] at h₂
  omega

end EmergencyDial.Json

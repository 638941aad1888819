/-! Sets of characters given by ranges of code points. White space of Unicode is one, and texts are
freed of it at both ends. -/
namespace EmergencyDial.Text

/-- First and last code point of each range. -/
abbrev Ranges := List (Nat × Nat)

def Ranges.has (rs : Ranges) (c : Char) : Bool :=
  rs.any fun r => r.1 ≤ c.toNat && c.toNat ≤ r.2

theorem Ranges.has_iff {rs : Ranges} {c : Char} :
    rs.has c = true ↔ ∃ r ∈ rs, r.1 ≤ c.toNat ∧ c.toNat ≤ r.2 := by
  simp [has]

def blankRanges : Ranges :=
  [(0x9, 0xd), (0x20, 0x20), (0x85, 0x85), (0xa0, 0xa0), (0x1680, 0x1680), (0x2000, 0x200a),
    (0x2028, 0x2029), (0x202f, 0x202f), (0x205f, 0x205f), (0x3000, 0x3000)]

/-- Characters with the property White_Space. -/
def isBlank (c : Char) : Bool := blankRanges.has c

def trimStart (cs : List Char) : List Char := cs.dropWhile isBlank

def trimEnd (cs : List Char) : List Char := (trimStart cs.reverse).reverse

def trim (cs : List Char) : List Char := trimEnd (trimStart cs)

/-- No blank stands between the digits and the letters. -/
theorem isBlank_of_toNat {c : Char} (h : 48 ≤ c.toNat ∧ c.toNat ≤ 122) : isBlank c = false := by
  have hr : ∀ r ∈ blankRanges, r.2 < 48 ∨ 122 < r.1 := by decide
  rw [Bool.eq_false_iff]
  intro hb
  obtain ⟨r, hm, hc⟩ := Ranges.has_iff.1 hb
  have := hr r hm
  omega

@[simp] theorem trimStart_cons {c : Char} {cs : List Char} :
    trimStart (c :: cs) = if isBlank c = true then trimStart cs else c :: cs := by
  cases h : isBlank c <;> simp [trimStart, h]

theorem trimStart_of_blank {cs : List Char} (h : ∀ c ∈ cs, isBlank c = true) :
    trimStart cs = [] := by
  induction cs with
  | nil => rfl
  | cons c cs ih => simp_all

theorem trimStart_append {bs cs : List Char} (h : ∀ c ∈ bs, isBlank c = true) :
    trimStart (bs ++ cs) = trimStart cs := List.dropWhile_append_of_pos h

theorem trimEnd_append {bs cs : List Char} (h : ∀ c ∈ bs, isBlank c = true) :
    trimEnd (cs ++ bs) = trimEnd cs := by
  have hr : ∀ c ∈ bs.reverse, isBlank c = true := fun c hc => h c (List.mem_reverse.1 hc)
  rw [trimEnd, List.reverse_append, trimStart_append hr]
  rfl

theorem trim_blank_append {bs cs : List Char} (h : ∀ c ∈ bs, isBlank c = true) :
    trim (bs ++ cs) = trim cs := by rw [trim, trimStart_append h, trim]

theorem trim_append_blank {bs cs : List Char} (h : ∀ c ∈ bs, isBlank c = true) :
    trim (cs ++ bs) = trim cs := by
  rw [trim, trim, trimStart, List.dropWhile_append]
  split
  · next he =>
    have hc : trimStart cs = [] := List.isEmpty_iff.1 he
    have hb : bs.dropWhile isBlank = [] := trimStart_of_blank h
    rw [hc, hb]
  · exact trimEnd_append h

theorem trimStart_of_not_blank {cs : List Char} (h : ∀ c ∈ cs, isBlank c = false) :
    trimStart cs = cs := by
  cases cs with
  | nil => rfl
  | cons c cs => simp [h c List.mem_cons_self]

theorem trim_of_not_blank {cs : List Char} (h : ∀ c ∈ cs, isBlank c = false) : trim cs = cs := by
  have hr : ∀ c ∈ cs.reverse, isBlank c = false := fun c hc => h c (List.mem_reverse.1 hc)
  rw [trim, trimStart_of_not_blank h, trimEnd, trimStart_of_not_blank hr, List.reverse_reverse]

theorem mem_trimStart {c : Char} {cs : List Char} (hc : c ∈ cs) (hb : isBlank c = false) :
    c ∈ trimStart cs := by
  obtain ⟨as, bs, rfl⟩ := List.append_of_mem hc
  rw [trimStart, List.dropWhile_append]
  split <;> simp [hb]

/-- A character that is no blank is not trimmed away. -/
theorem mem_trim {c : Char} {cs : List Char} (hc : c ∈ cs) (hb : isBlank c = false) :
    c ∈ trim cs := by
  have hr := List.mem_reverse.2 (mem_trimStart hc hb)
  exact List.mem_reverse.2 (mem_trimStart hr hb)

end EmergencyDial.Text

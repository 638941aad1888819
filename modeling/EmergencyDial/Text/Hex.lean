/-! Hexadecimal numerals: written in lower case, read in either case. -/
namespace EmergencyDial.Text.Hex

def digit? (c : Char) : Option Nat :=
  if c.isDigit then some (c.toNat - 48)
  else if 'a' ≤ c ∧ c ≤ 'f' then some (c.toNat - 87)
  else if 'A' ≤ c ∧ c ≤ 'F' then some (c.toNat - 55)
  else none

/-- Reads on from `n`; nothing stands for zero more digits. -/
def extend? (n : Nat) : List Char → Option Nat
  | [] => some n
  | c :: cs => digit? c >>= fun d => extend? (16 * n + d) cs

def value? (cs : List Char) : Option Nat := extend? 0 cs

/-- Without leading zeros, except for zero itself. -/
def digits (n : Nat) : List Char := Nat.toDigits 16 n

/-- With zeros in front to a width of at least two. -/
def twoDigits (n : Nat) : List Char := [Nat.digitChar (n / 16), Nat.digitChar (n % 16)]

theorem digit?_digitChar {n : Nat} (h : n < 16) : digit? (Nat.digitChar n) = some n := by
  have : ∀ n : Fin 16, digit? (Nat.digitChar n) = some n.val := by decide
  exact this ⟨n, h⟩

/-- A digit has its place among the decimal digits or the first six letters of either case. -/
theorem digit?_eq_some {c : Char} {d : Nat} (h : digit? c = some d) :
    (48 ≤ c.toNat ∧ c.toNat ≤ 57 ∧ d = c.toNat - 48) ∨
    (97 ≤ c.toNat ∧ c.toNat ≤ 102 ∧ d = c.toNat - 87) ∨
    (65 ≤ c.toNat ∧ c.toNat ≤ 70 ∧ d = c.toNat - 55) := by
  rw [digit?] at h
  split at h
  · next hc =>
    have hc : 48 ≤ c.toNat ∧ c.toNat ≤ 57 := by
      simpa [Char.isDigit, UInt32.le_iff_toNat_le] using hc
    exact Or.inl ⟨hc.1, hc.2, (Option.some.inj h).symm⟩
  · split at h
    · next hc => exact Or.inr (Or.inl ⟨hc.1, hc.2, (Option.some.inj h).symm⟩)
    · split at h
      · next hc => exact Or.inr (Or.inr ⟨hc.1, hc.2, (Option.some.inj h).symm⟩)
      · cases h

theorem extend?_append {n : Nat} {cs ds : List Char} :
    extend? n (cs ++ ds) = extend? n cs >>= fun m => extend? m ds := by
  induction cs generalizing n with
  | nil => rfl
  | cons c cs ih =>
    cases hc : digit? c <;> simp_all [extend?]

/-- A numeral stays between the first digit and the last letter that is one. -/
theorem toNat_of_extend? {n m : Nat} {cs : List Char} (h : extend? n cs = some m) :
    ∀ c ∈ cs, 48 ≤ c.toNat ∧ c.toNat ≤ 102 := by
  induction cs generalizing n with
  | nil => exact nofun
  | cons c cs ih =>
    obtain ⟨d, hd, hm⟩ := Option.bind_eq_some_iff.1 h
    intro e he
    rcases List.mem_cons.1 he with rfl | he
    · rcases digit?_eq_some hd with ⟨_, _, _⟩ | ⟨_, _, _⟩ | ⟨_, _, _⟩ <;> omega
    · exact ih hm e he

/-- A written numeral reads back as its number. -/
theorem value?_digits (n : Nat) : value? (digits n) = some n := by
  induction n using Nat.strongRecOn with
  | _ n ih =>
    rw [digits, Nat.toDigits_eq_if (by decide)]
    split
    · next h => simp [value?, extend?, digit?_digitChar h]
    · next h =>
      have h₁ := ih (n / 16) (by omega)
      rw [digits, value?] at h₁
      have h₂ : 16 * (n / 16) + n % 16 = n := by omega
      simp [value?, extend?_append, h₁, extend?, digit?_digitChar (Nat.mod_lt n (by decide)), h₂]

end EmergencyDial.Text.Hex

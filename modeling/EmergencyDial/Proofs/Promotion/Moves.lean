import EmergencyDial.Proofs.Promotion
import Mathlib.Logic.Basic
import Mathlib.Logic.Relation

/-! Changes of a list of numbers that promotion does not see. -/
namespace EmergencyDial
open Relation (ReflTransGen)

/-- A number that reaches no help comes in or goes out, or two neighbours change places that both do, but
only one of which is from the database. -/
inductive Move : List EmergencyNumber → List EmergencyNumber → Prop
  | insert (before after : List EmergencyNumber) {n : EmergencyNumber}
      (hn : n.services.bits &&& 0x07 = 0) : Move (before ++ after) (before ++ n :: after)
  | delete (before after : List EmergencyNumber) {n : EmergencyNumber}
      (hn : n.services.bits &&& 0x07 = 0) : Move (before ++ n :: after) (before ++ after)
  | swap (before after : List EmergencyNumber) {m n : EmergencyNumber}
      (hm : m.services.bits &&& 0x07 ≠ 0) (hn : n.services.bits &&& 0x07 ≠ 0)
      (hx : Xor (m.origins.bits &&& 0x10 ≠ 0) (n.origins.bits &&& 0x10 ≠ 0)) :
    Move (before ++ m :: n :: after) (before ++ n :: m :: after)

variable {m n : EmergencyNumber} {ns xs ys ds : List EmergencyNumber}

theorem isPromoted_eq_false_iff : n.isPromoted = false ↔ n.services.bits &&& 0x07 = 0 := by
  rw [← Bool.not_eq_true, isPromoted_iff, not_not]

theorem isPrioritized_eq_false_iff : n.isPrioritized = false ↔ ¬ n.origins.bits &&& 0x10 ≠ 0 := by
  rw [← Bool.not_eq_true, isPrioritized_iff]

theorem Move.symm (h : Move xs ys) : Move ys xs := by
  cases h with
  | insert before after hn => exact .delete before after hn
  | delete before after hn => exact .insert before after hn
  | swap before after hm hn hx => exact .swap before after hn hm (Or.symm hx)

theorem Move.cons (n : EmergencyNumber) (h : Move xs ys) : Move (n :: xs) (n :: ys) := by
  cases h with
  | insert before after hn => exact .insert (n :: before) after hn
  | delete before after hn => exact .delete (n :: before) after hn
  | swap before after hm hn hx => exact .swap (n :: before) after hm hn hx

theorem promote_of_move (h : Move xs ys) : promote xs = promote ys := by
  cases h with
  | insert before after hn => simp [promote_eq, isPromoted_eq_false_iff.2 hn]
  | delete before after hn => simp [promote_eq, isPromoted_eq_false_iff.2 hn]
  | swap before after hm hn hx =>
    -- the two go into different groups, so that neither group sees the change
    rcases hx with ⟨hd, ho⟩ | ⟨hd, ho⟩ <;>
      simp [promote_eq, isPromoted_iff.2 hm, isPromoted_iff.2 hn, isPrioritized_iff.2 hd,
        isPrioritized_eq_false_iff.2 ho]

theorem moves_cons (n : EmergencyNumber) (h : ReflTransGen Move xs ys) :
    ReflTransGen Move (n :: xs) (n :: ys) :=
  h.lift (n :: ·) fun _ _ => Move.cons n

theorem moves_symm (h : ReflTransGen Move xs ys) : ReflTransGen Move ys xs := by
  induction h with
  | refl => exact .refl
  | tail _ hm ih => exact .head hm.symm ih

/-- A number of another origin can go behind those of the database, one after the other. -/
theorem moves_behind (hn : n.isPromoted = true) (ho : n.isPrioritized = false)
    (hds : ∀ m ∈ ds, m.isPromoted = true ∧ m.isPrioritized = true) (ns : List EmergencyNumber) :
    ReflTransGen Move (n :: (ds ++ ns)) (ds ++ n :: ns) := by
  induction ds with
  | nil => exact .refl
  | cons m ds ih =>
    obtain ⟨⟨hm, hd⟩, hds⟩ := List.forall_mem_cons.1 hds
    have hx : Xor (n.origins.bits &&& 0x10 ≠ 0) (m.origins.bits &&& 0x10 ≠ 0) :=
      Or.inr ⟨isPrioritized_iff.1 hd, isPrioritized_eq_false_iff.1 ho⟩
    have hswap : Move (n :: m :: (ds ++ ns)) (m :: n :: (ds ++ ns)) :=
      .swap [] (ds ++ ns) (isPromoted_iff.1 hn) (isPromoted_iff.1 hm) hx
    exact .head hswap (moves_cons m (ih hds))

/-- Its promoted numbers can be made of a list by moves. -/
theorem moves_promote (ns : List EmergencyNumber) : ReflTransGen Move ns (promote ns) := by
  induction ns with
  | nil => exact .refl
  | cons n ns ih =>
    cases hn : n.isPromoted with
    | false =>
      have hout : Move (n :: ns) ns := .delete [] ns (isPromoted_eq_false_iff.1 hn)
      rw [promote_of_move hout]
      exact .head hout ih
    | true =>
      refine (moves_cons n ih).trans ?_
      cases ho : n.isPrioritized with
      | true =>
        have hfirst : promote (n :: ns) = n :: promote ns := by simp [promote_eq, hn, ho]
        rw [hfirst]
      | false =>
        have hds : ∀ m ∈ ns.filter fun n => n.isPromoted && n.isPrioritized,
            m.isPromoted = true ∧ m.isPrioritized = true := by
          intro m hm
          simpa using (List.mem_filter.1 hm).2
        rw [promote_eq, promote_eq]
        simpa [hn, ho] using moves_behind hn ho hds _

/-- Promotion tells two lists apart if and only if no moves lead from one to the other. -/
theorem promote_eq_iff_moves (xs ys : List EmergencyNumber) :
    promote xs = promote ys ↔ ReflTransGen Move xs ys := by
  constructor
  · intro h
    have hy := moves_symm (moves_promote ys)
    rw [← h] at hy
    exact (moves_promote xs).trans hy
  · intro h
    induction h with
    | refl => rfl
    | tail _ hm ih => exact ih.trans (promote_of_move hm)

end EmergencyDial

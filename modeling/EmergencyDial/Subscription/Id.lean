import EmergencyDial.Json.Codec

/-! Numbers of subscriptions. -/
namespace EmergencyDial
open Json

/-- A subscription known to the device, or a negative number for none. -/
structure SubscriptionId where
  value : Int32
deriving DecidableEq, Repr

namespace SubscriptionId

/-- Stands for a radio whose subscription is not known. -/
def invalid : SubscriptionId := ⟨-1⟩

def isValid (i : SubscriptionId) : Bool := 0 ≤ i.value.toInt

def display (i : SubscriptionId) : String := toString i.value.toInt

def codec : Codec SubscriptionId := Codec.int32.via .mk value

/-- Ids are ordered by number, negative ones first. -/
instance : LT SubscriptionId where
  lt i j := i.value.toInt < j.value.toInt

instance (i j : SubscriptionId) : Decidable (i < j) :=
  inferInstanceAs (Decidable (i.value.toInt < j.value.toInt))

variable {i j k : SubscriptionId}

theorem lt_iff : i < j ↔ i.value.toInt < j.value.toInt := Iff.rfl

theorem toInt_inj : i.value.toInt = j.value.toInt ↔ i = j := by
  obtain ⟨i⟩ := i
  obtain ⟨j⟩ := j
  simp [Int32.toInt_inj]

theorem lt_irrefl (i : SubscriptionId) : ¬ i < i := Int.lt_irrefl _

theorem lt_trans (h : i < j) (h' : j < k) : i < k := Int.lt_trans h h'

/-- Of two different ids one comes first. -/
theorem lt_of_not_lt (h : ¬ i < j) (hne : i ≠ j) : j < i := by
  have := mt toInt_inj.1 hne
  rw [lt_iff] at *
  omega

end SubscriptionId
end EmergencyDial

import EmergencyDial.Selection.Snapshot

/-! What the log tells, and values together with the log of how they came about. -/
namespace EmergencyDial

inductive Level
  | warn
  | debug
deriving DecidableEq, Repr

inductive Event
  | noRadio
  | noLists
  | numbersOf (i : SubscriptionId)
  | number (n : EmergencyNumber)
  | nothingPromoted
  | defaultMissing (s : Scheme)
  | defaultInsufficient (s : Snapshot)
  | insufficient (s : Snapshot)
  | noneSufficient
  | loaded (radios lists : Nat)
deriving DecidableEq, Repr

namespace Event

/-- Numbers and radios that are passed over are details. -/
def level : Event → Level
  | .numbersOf _ | .number _ | .insufficient _ | .loaded _ _ => .debug
  | _ => .warn

/-- A number is marked `M` for its services and `P` for its origin. -/
def message : Event → String
  | .noRadio => "No phone available!"
  | .noLists => "Unable to retrieve emergency number lists!"
  | .numbersOf i => "Emergency numbers of " ++ i.display
  | .number n =>
    "  " ++ n.display ++ (if n.isPromoted then "M" else "") ++ (if n.isPrioritized then "P" else "")
  | .nothingPromoted => "No promoted emergency number found!"
  | .defaultMissing s =>
    "Missing default " ++ s.name ++ " phone account! Is this really a phone device?"
  | .defaultInsufficient s => (SelectionError.defaultInsufficient s.display).message
  | .insufficient s => "Phone account " ++ s.display ++ " is insufficient for emergency call"
  | .noneSufficient => "No phone account available for emergency call!"
  | .loaded radios lists =>
    s!"Loaded simulated device with {radios} radios ({lists} number lists)"

def line (e : Event) : String :=
  match e.level with
  | .warn => "WARN " ++ e.message
  | .debug => "DEBUG " ++ e.message

end Event

structure Logged (α : Type) where
  value : α
  log : List Event := []

namespace Logged
variable {α β : Type}

instance : Monad Logged where
  pure a := ⟨a, []⟩
  bind x f := ⟨(f x.value).value, x.log ++ (f x.value).log⟩

def emit (e : Event) : Logged Unit := ⟨(), [e]⟩

@[ext] theorem ext {x y : Logged α} (hv : x.value = y.value) (hl : x.log = y.log) : x = y := by
  cases x
  cases y
  simp_all

@[simp] theorem value_pure (a : α) : (pure a : Logged α).value = a := rfl

@[simp] theorem log_pure (a : α) : (pure a : Logged α).log = [] := rfl

@[simp] theorem value_bind (x : Logged α) (f : α → Logged β) :
    (x >>= f).value = (f x.value).value := rfl

@[simp] theorem log_emit (e : Event) : (emit e).log = [e] := rfl

@[simp] theorem value_map (f : α → β) (x : Logged α) : (f <$> x).value = f x.value := rfl

@[simp] theorem log_map (f : α → β) (x : Logged α) : (f <$> x).log = x.log :=
  List.append_nil _

instance : LawfulMonad Logged :=
  LawfulMonad.mk' Logged
    (fun x => ext rfl (List.append_nil _))
    (fun _ _ => rfl)
    (fun _ _ _ => ext rfl (List.append_assoc _ _ _))

end Logged
end EmergencyDial

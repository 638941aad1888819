import EmergencyDial.Log
import EmergencyDial.Subscription.ById

/-! Promotion: of the numbers of each radio, those that are worth a shortcut, in order. -/
namespace EmergencyDial

/-- The numbers of each radio; nothing stands for a radio without a list. -/
abbrev NumberLists := ById (Option (List EmergencyNumber))

/-- The promoted numbers of each radio that has any. -/
abbrev PromotedLists := ById (List EmergencyNumber)

/-- One pass over the numbers. Those of promoted services are kept, in `first` if they come from the
database and in `later` if not; both hold what was met, last first. -/
def promoteFrom (first later : List EmergencyNumber) :
    List EmergencyNumber → Logged (List EmergencyNumber)
  | [] => return first.reverse ++ later.reverse
  | n :: ns => do
    Logged.emit (.number n)
    if n.isPromoted then
      if n.isPrioritized then promoteFrom (n :: first) later ns
      else promoteFrom first (n :: later) ns
    else promoteFrom first later ns

/-- The numbers of promoted services. Those of the database come first, and otherwise the order stays
as it is. -/
def promoteLogged (ns : List EmergencyNumber) : Logged (List EmergencyNumber) :=
  promoteFrom [] [] ns

def promote (ns : List EmergencyNumber) : List EmergencyNumber := (promoteLogged ns).value

/-- Adds the promoted numbers of further radios. A radio without a list, or without a promoted number,
adds nothing. -/
def classifyFrom (promoted : PromotedLists) :
    List (SubscriptionId × Option (List EmergencyNumber)) → Logged PromotedLists
  | [] => return promoted
  | (_, none) :: es => classifyFrom promoted es
  | (i, some ns) :: es => do
    Logged.emit (.numbersOf i)
    let ms ← promoteLogged ns
    classifyFrom (if ms.isEmpty then promoted else promoted.insert i ms) es

/-- The promoted numbers of every radio. -/
def classifyLogged (lists : NumberLists) : Logged PromotedLists := do
  if lists.isEmpty then
    Logged.emit .noLists
    return .empty
  let promoted ← classifyFrom .empty lists.entries
  if promoted.isEmpty then Logged.emit .nothingPromoted
  return promoted

def classify (lists : NumberLists) : PromotedLists := (classifyLogged lists).value

end EmergencyDial

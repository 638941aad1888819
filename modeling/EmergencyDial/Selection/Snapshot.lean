import EmergencyDial.Account.Basic
import EmergencyDial.Number.Basic
import EmergencyDial.Subscription.Id

/-! One radio's fitness for emergency calls, as it is at one moment, and why no radio is selected. -/
namespace EmergencyDial

/-- An empty country means that the radio is in no network. -/
structure Snapshot where
  handle : Option Handle
  canPlaceEmergencyCalls : Bool
  subscription : SubscriptionId
  country : String
  promoted : Option (List EmergencyNumber)
deriving DecidableEq, Repr

namespace Snapshot

/-- Of a subscription that is known to be fit for emergency calls. -/
def withoutHandle (subscription : SubscriptionId) (country : String)
    (promoted : Option (List EmergencyNumber)) : Snapshot :=
  ⟨none, true, subscription, country, promoted⟩

/-- Whether the radio can be trusted with shortcuts. The country stands in for being in a network,
without which the numbers are not reliable. -/
def isSufficient (s : Snapshot) : Bool :=
  s.canPlaceEmergencyCalls && s.promoted.any (!·.isEmpty) && s.country != ""

/-- Whether a number can be dialled as one of the radio's shortcuts; the case of ASCII letters does
not matter. -/
def hasNumber (s : Snapshot) (number : String) : Bool :=
  (s.promoted.getD []).any fun n =>
    n.number.toList.map Char.toLower = number.toList.map Char.toLower

def display (s : Snapshot) : String :=
  "\x7b" ++ s.handle.elim "" (fun h => "handle=" ++ h.id ++ ", ") ++
    "subId=" ++ s.subscription.display ++
    ", canPlaceEmergencyCall=" ++ toString s.canPlaceEmergencyCalls ++
    ", networkCountryIso=" ++ s.country ++
    s.promoted.elim "" (fun ns =>
      ", emergencyNumbers=" ++ String.join (ns.map fun n => n.number ++ ":" ++ n.display ++ ",")) ++
    "\x7d"

end Snapshot

/-- None is fatal: numbers can still be dialled by hand. A default radio that is insufficient is not
the end of a selection, which goes on with the other radios. -/
inductive SelectionError
  | noRadio
  | nothingPromoted
  | defaultInsufficient (shown : String)
  | noneSufficient
deriving DecidableEq, Repr

def SelectionError.message : SelectionError → String
  | .noRadio => "no phone available"
  | .nothingPromoted => "no promoted emergency number found"
  | .defaultInsufficient shown =>
    "default phone account is insufficient for emergency call: " ++ shown
  | .noneSufficient => "no phone account available for emergency call"

end EmergencyDial

import EmergencyDial.Flag.Basic
import EmergencyDial.Json.Record

/-! Emergency numbers. -/
namespace EmergencyDial
open Json

/-- How the network wants a call to a number to be routed. -/
inductive Routing
  | unknown
  | emergency
  | normal
deriving DecidableEq, Repr

namespace Routing

def all : List Routing := [.unknown, .emergency, .normal]

def name : Routing → String
  | .unknown => "unknown"
  | .emergency => "emergency"
  | .normal => "normal"

def codec : Codec Routing := .choice all name

end Routing

/-- A number to dial, with the country and the mobile network it is for and what the platform knows of
it. An empty text stands for any country or network. -/
structure EmergencyNumber where
  number : String
  country : String := ""
  network : String := ""
  services : Services := .empty
  origins : Origins := .empty
  routing : Routing := .unknown
deriving DecidableEq, Repr

namespace EmergencyNumber

/-- Whether the number reaches a service that is worth a shortcut. -/
def isPromoted (n : EmergencyNumber) : Bool := n.services.intersects Services.anyPromoted

/-- Whether the number comes from the curated database, whose entries go first. -/
def isPrioritized (n : EmergencyNumber) : Bool := n.origins.intersects Origins.database

def display (n : EmergencyNumber) : String :=
  "EmergencyNumber:" ++ n.number ++ "|country=" ++ n.country ++ "|mnc=" ++ n.network ++
    "|categories=" ++ n.services.display ++ "|sources=" ++ n.origins.display ++
    "|routing=" ++ n.routing.name

def record : Record EmergencyNumber where
  name := "EmergencyNumber"
  fields :=
    [⟨"number", String, .text, none⟩,
      ⟨"country_iso", String, .text, some ""⟩,
      ⟨"mnc", String, .text, some ""⟩,
      ⟨"categories", Services, .flags .services, some .empty⟩,
      ⟨"sources", Origins, .flags .origins, some .empty⟩,
      ⟨"routing", Routing, Routing.codec, some .unknown⟩]
  make := fun (number, country, network, services, origins, routing, _) =>
    { number, country, network, services, origins, routing }
  view n := (n.number, n.country, n.network, n.services, n.origins, n.routing, ())

def codec : Codec EmergencyNumber := record.codec

end EmergencyNumber
end EmergencyDial

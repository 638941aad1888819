import EmergencyDial.Account.Basic
import EmergencyDial.Number.Basic
import EmergencyDial.Subscription.Id

/-! Plans of simulated devices, and their documents. -/
namespace EmergencyDial
open Json

/-- What the account of an ordinary radio may do. -/
def Capabilities.ordinary : Capabilities :=
  (callProvider.union simSubscription).union placeEmergencyCalls

/-- A radio without a subscription, or in no network, leaves these out. A radio that is not registered
has no account. -/
structure RadioPlan where
  handle : String
  subscription : Option SubscriptionId := none
  capabilities : Capabilities := .ordinary
  country : Option String := none
  registered : Bool := true
  callCapable : Bool := true
deriving DecidableEq, Repr

/-- An ordinary radio in the network of a country, or in none if the country is empty. -/
def RadioPlan.ordinary (handle : String) (subscription : Int32) (country : String) : RadioPlan where
  handle
  subscription := some ⟨subscription⟩
  country := if country = "" then none else some country

/-- The numbers of a subscription; without any, the subscription is listed but has no list. -/
structure NumbersPlan where
  subscription : SubscriptionId
  numbers : Option (List EmergencyNumber) := none
deriving DecidableEq, Repr

/-- Without a count of its own a device has as many radios as are planned. The default is for telephone
numbers. -/
structure DevicePlan where
  count : Option UInt64 := none
  defaultRadio : Option String := none
  radios : List RadioPlan := []
  numbers : List NumbersPlan := []
  unavailable : Bool := false
deriving DecidableEq, Repr

namespace RadioPlan

def record : Record RadioPlan where
  name := "SimulatedRadioConfig"
  fields :=
    [⟨"handle", String, .text, none⟩,
      ⟨"subscription", Option SubscriptionId, .optional SubscriptionId.codec, some none⟩,
      ⟨"capabilities", Capabilities, .flags .capabilities, some .ordinary⟩,
      ⟨"country_iso", Option String, .optional .text, some none⟩,
      ⟨"account_registered", Bool, .bool, some true⟩,
      ⟨"call_capable", Bool, .bool, some true⟩]
  make := fun (handle, subscription, capabilities, country, registered, callCapable, _) =>
    { handle, subscription, capabilities, country, registered, callCapable }
  view p :=
    (p.handle, p.subscription, p.capabilities, p.country, p.registered, p.callCapable, ())

def codec : Codec RadioPlan := record.codec

end RadioPlan

namespace NumbersPlan

def record : Record NumbersPlan where
  name := "NumberListConfig"
  fields :=
    [⟨"subscription", SubscriptionId, SubscriptionId.codec, none⟩,
      ⟨"numbers", Option (List EmergencyNumber), .optional (.list EmergencyNumber.codec),
        some none⟩]
  make := fun (subscription, numbers, _) => { subscription, numbers }
  view p := (p.subscription, p.numbers, ())

def codec : Codec NumbersPlan := record.codec

end NumbersPlan

namespace DevicePlan

def record : Record DevicePlan where
  name := "DeviceConfig"
  fields :=
    [⟨"radio_count", Option UInt64, .optional .uint64, some none⟩,
      ⟨"default_radio", Option String, .optional .text, some none⟩,
      ⟨"radios", List RadioPlan, .list RadioPlan.codec, some []⟩,
      ⟨"emergency_numbers", List NumbersPlan, .list NumbersPlan.codec, some []⟩,
      ⟨"numbers_unavailable", Bool, .bool, some false⟩]
  make := fun (count, defaultRadio, radios, numbers, unavailable, _) =>
    { count, defaultRadio, radios, numbers, unavailable }
  view p := (p.count, p.defaultRadio, p.radios, p.numbers, p.unavailable, ())

def codec : Codec DevicePlan := record.codec

end DevicePlan
end EmergencyDial

import EmergencyDial.Device.Plan
import EmergencyDial.Platform.Table

/-! Simulated devices with their radios, and the answers of a device as a platform. -/
namespace EmergencyDial

/-- The country is that of the network the radio is in, and never empty. -/
structure Radio where
  handle : Handle
  subscription : SubscriptionId
  capabilities : Capabilities
  country : Option String
  registered : Bool
  callCapable : Bool
deriving DecidableEq, Repr

namespace Radio

/-- An empty country is none. -/
def named (country : Option String) : Option String := country.filter (· ≠ "")

def ofPlan (p : RadioPlan) : Radio where
  handle := ⟨p.handle⟩
  subscription := p.subscription.getD .invalid
  capabilities := p.capabilities
  country := named p.country
  registered := p.registered
  callCapable := p.callCapable

def account? (r : Radio) : Option Account :=
  if r.registered then some ⟨r.handle, r.capabilities⟩ else none

def setCountry (country : Option String) (r : Radio) : Radio := { r with country := named country }

def setCapabilities (capabilities : Capabilities) (r : Radio) : Radio := { r with capabilities }

theorem named_ne_empty {c : Option String} : named c ≠ some "" := by
  cases c <;> simp [named, Option.filter]

end Radio
/-- A count of its own goes before the number of radios. The default is for telephone numbers. -/
structure Device where
  count : Option UInt64 := none
  radios : List Radio := []
  defaultRadio : Option Handle := none
  numbers : NumberLists := .empty
  unavailable : Bool := false

namespace Device

def empty : Device := {}

def radio? (d : Device) (h : Handle) : Option Radio := d.radios.find? fun r => r.handle = h

def radioCount (d : Device) : Nat := d.count.elim d.radios.length UInt64.toNat

def callCapable (d : Device) : List Handle := (d.radios.filter (·.callCapable)).map Radio.handle

def defaultRadio? (d : Device) : Scheme → Option Handle
  | .tel => d.defaultRadio
  | .sip | .voicemail => none

def account? (d : Device) (h : Handle) : Option Account := (d.radio? h).bind Radio.account?

def subscription (d : Device) (h : Handle) : SubscriptionId :=
  (d.radio? h).elim .invalid Radio.subscription

/-- The country of the first radio with the subscription. -/
def country? (d : Device) (i : SubscriptionId) : Option String :=
  if i.isValid then (d.radios.find? fun r => r.subscription = i).bind Radio.country else none

def numbers? (d : Device) : Option NumberLists := if d.unavailable then none else some d.numbers

def platform (d : Device) : Platform where
  enumeration := ⟨d.radioCount, d.callCapable⟩
  defaultRadio? := d.defaultRadio?
  accounts := ⟨d.account?, fun a => d.subscription a.handle⟩
  country? := d.country?
  numbers? := d.numbers?

/-- Adds a radio behind the others. Nothing if there is one with its handle. -/
def add? (d : Device) (r : Radio) : Option Device :=
  match d.radio? r.handle with
  | some _ => none
  | none => some { d with radios := d.radios ++ [r] }

/-- Changes the first radio with the property. -/
def changeFirst (q : Radio → Bool) (f : Radio → Radio) : List Radio → List Radio
  | [] => []
  | r :: rs => if q r then f r :: rs else r :: changeFirst q f rs

/-- Changes the radio with the handle, if there is one. -/
def change? (d : Device) (h : Handle) (f : Radio → Radio) : Option Device :=
  match d.radio? h with
  | none => none
  | some _ => some { d with radios := changeFirst (fun r => r.handle = h) f d.radios }

end Device
end EmergencyDial

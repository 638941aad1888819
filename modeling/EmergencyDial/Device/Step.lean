import EmergencyDial.Device.Load

/-! Changes of a simulated device, step by step. -/
namespace EmergencyDial
open Json

inductive Step
  | addRadio (p : RadioPlan)
  | addRadioText (s : String)
  | setCount (n : UInt64)
  | setDefault (h : Option Handle)
  | setNumbers (i : SubscriptionId) (ns : Option (List EmergencyNumber))
  | setUnavailable (b : Bool)
  | setCountry (h : Handle) (country : Option String)
  | setCapabilities (h : Handle) (c : Capabilities)
deriving DecidableEq, Repr

inductive Outcome
  | done
  | added (h : Handle)
  | duplicateHandle (h : Handle)
  | unreadable (e : ReadError)
  | noSuchRadio
deriving Repr

namespace Device

def addRadio (d : Device) (p : RadioPlan) : Device × Outcome :=
  let r := Radio.ofPlan p
  match d.add? r with
  | some d => (d, .added r.handle)
  | none => (d, .duplicateHandle r.handle)

def changeRadio (d : Device) (h : Handle) (f : Radio → Radio) : Device × Outcome :=
  match d.change? h f with
  | some d => (d, .done)
  | none => (d, .noSuchRadio)

/-- A step that is refused changes nothing. -/
def step (d : Device) : Step → Device × Outcome
  | .addRadio p => d.addRadio p
  | .addRadioText s =>
    match RadioPlan.codec.parse s with
    | .ok p => d.addRadio p
    | .error e => (d, .unreadable e)
  | .setCount n => ({ d with count := some n }, .done)
  | .setDefault h => ({ d with defaultRadio := h }, .done)
  | .setNumbers i ns => ({ d with numbers := d.numbers.insert i ns }, .done)
  | .setUnavailable b => ({ d with unavailable := b }, .done)
  | .setCountry h country => d.changeRadio h (Radio.setCountry country)
  | .setCapabilities h c => d.changeRadio h (Radio.setCapabilities c)

/-- The device after the steps, and what came of each. -/
def run (d : Device) : List Step → Device × List Outcome
  | [] => (d, [])
  | s :: ss =>
    let (d, o) := d.step s
    let (d, os) := d.run ss
    (d, o :: os)

end Device
end EmergencyDial

import EmergencyDial.Device.Basic
import EmergencyDial.Device.Plan

/-! Devices built from plans. -/
namespace EmergencyDial
open Json

inductive LoadError
  | unreadable (e : ReadError)
  | duplicateHandle (h : Handle)
  | unknownDefault (h : Handle)
deriving Repr

/-- A text that is no JSON has no message of its own. -/
def LoadError.message? : LoadError → Option String
  | .unreadable .malformed => none
  | .unreadable (.faulty f) => some ("invalid device config: " ++ f.message)
  | .duplicateHandle h => some ("duplicate radio handle: " ++ h.id)
  | .unknownDefault h => some ("default radio " ++ h.id ++ " is not a configured radio")

namespace Device

/-- Adds radios in order, up to the first whose handle is taken. -/
def addAll (d : Device) : List Radio → Except LoadError Device
  | [] => .ok d
  | r :: rs =>
    match d.add? r with
    | some d => d.addAll rs
    | none => .error (.duplicateHandle r.handle)

/-- The default must be one of the radios. -/
def withDefault (d : Device) : Option Handle → Except LoadError Device
  | none => .ok d
  | some h =>
    match d.radio? h with
    | some _ => .ok { d with defaultRadio := some h }
    | none => .error (.unknownDefault h)

/-- Radios come first, then the default, then the rest, in which nothing can go wrong. -/
def ofPlan (p : DevicePlan) : Except LoadError Device := do
  let d ← empty.addAll (p.radios.map Radio.ofPlan)
  let d ← d.withDefault (p.defaultRadio.map Handle.mk)
  return { d with
    count := p.count
    numbers := d.numbers.insertAll (p.numbers.map fun l => (l.subscription, l.numbers))
    unavailable := p.unavailable }

def load (p : DevicePlan) : Logged (Except LoadError Device) :=
  match ofPlan p with
  | .ok d => do
    Logged.emit (.loaded d.radios.length d.numbers.size)
    return .ok d
  | .error e => return .error e

/-- Loads the plan that a text describes. -/
def loadText (s : String) : Logged (Except LoadError Device) :=
  match DevicePlan.codec.parse s with
  | .ok p => load p
  | .error e => return .error (.unreadable e)

end Device
end EmergencyDial

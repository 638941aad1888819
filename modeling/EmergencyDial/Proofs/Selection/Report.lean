import EmergencyDial.Proofs.Selection.Qualification

/-! The log of a selection, line by line. -/
namespace EmergencyDial

namespace Platform

def lists (p : Platform) : NumberLists := p.numbers?.getD .empty

end Platform

variable {p : Platform} {s : Scheme} {sel : Selector} {h : Handle} {hs : List Handle} {j k : Nat}
  {n : EmergencyNumber} {ns : List EmergencyNumber} {i : SubscriptionId} {lists : NumberLists}

end EmergencyDial

import EmergencyDial.Platform.Table

/-! Selection of the radio whose emergency numbers are offered as shortcuts. -/
namespace EmergencyDial

/-- How a radio was found: as the default, or by its position among those that can place calls. -/
inductive Source
  | byDefault
  | callCapable (position : Nat)
deriving DecidableEq, Repr

structure Selection where
  snapshot : Snapshot
  source : Source
deriving DecidableEq, Repr

/-- The state of a radio. A handle without an account is unfit and has no subscription; a network
that is not known has no country. -/
def Platform.snapshot (p : Platform) (promoted : PromotedLists) (h : Handle) : Snapshot :=
  let account := p.accounts.account? h
  let subscription := account.elim .invalid p.accounts.subscription
  { handle := some h
    canPlaceEmergencyCalls := account.any (·.canPlaceEmergencyCalls)
    subscription
    country := (p.country? subscription).getD ""
    promoted := promoted.find? subscription }

/-- The first radio that is sufficient; `position` is that of the first handle. -/
def Platform.firstSufficient (p : Platform) (promoted : PromotedLists) (position : Nat) :
    List Handle → Logged (Except SelectionError Selection)
  | [] => do
    Logged.emit .noneSufficient
    return .error .noneSufficient
  | h :: hs => do
    let s := p.snapshot promoted h
    if s.isSufficient then return .ok ⟨s, .callCapable position⟩
    Logged.emit (.insufficient s)
    p.firstSufficient promoted (position + 1) hs

/-- Chooses a radio by the scheme that its default account is for. -/
structure Selector where
  scheme : Scheme := .tel
deriving DecidableEq, Repr

namespace Selector

/-- The default radio if there is one and it is sufficient. -/
def pickDefault (sel : Selector) (p : Platform) (promoted : PromotedLists) :
    Logged (Option Selection) :=
  match p.defaultRadio? sel.scheme with
  | none => do
    Logged.emit (.defaultMissing sel.scheme)
    return none
  | some h => do
    let s := p.snapshot promoted h
    if s.isSufficient then return some ⟨s, .byDefault⟩
    Logged.emit (.defaultInsufficient s)
    return none

/-- The default radio if it is sufficient, otherwise the first sufficient one that can place calls. -/
def tryPick (sel : Selector) (p : Platform) : Logged (Except SelectionError Selection) := do
  if p.enumeration.radioCount = 0 then
    Logged.emit .noRadio
    return .error .noRadio
  let promoted ← classifyLogged (p.numbers?.getD .empty)
  if promoted.isEmpty then return .error .nothingPromoted
  match ← sel.pickDefault p promoted with
  | some selection => return .ok selection
  | none => p.firstSufficient promoted 0 p.enumeration.callCapable

/-- Nothing means that numbers are to be dialled by hand. -/
def pick (sel : Selector) (p : Platform) : Logged (Option Snapshot) := do
  return (← sel.tryPick p).toOption.map Selection.snapshot

end Selector

def Platform.preferred (p : Platform) : Logged (Option Snapshot) := Selector.pick {} p

end EmergencyDial

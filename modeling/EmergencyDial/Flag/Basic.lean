/-! Sets of flags in a word of 32 bits. Bits that no flag names are kept as they are. -/
namespace EmergencyDial

/-- What the flags of a set tell: the services a number reaches, where a number was learned from, or
what an account may do. -/
inductive FlagKind
  | services
  | origins
  | capabilities
deriving DecidableEq, Repr

structure Flag where
  name : String
  bit : UInt32
deriving DecidableEq, Repr

/-- The flags of a kind, in order. -/
def FlagKind.flags : FlagKind → List Flag
  | .services =>
    [⟨"POLICE", 0x01⟩, ⟨"AMBULANCE", 0x02⟩, ⟨"FIRE_BRIGADE", 0x04⟩, ⟨"MARINE_GUARD", 0x08⟩,
      ⟨"MOUNTAIN_RESCUE", 0x10⟩, ⟨"MIEC", 0x20⟩, ⟨"AIEC", 0x40⟩]
  | .origins =>
    [⟨"NETWORK_SIGNALING", 0x01⟩, ⟨"SIM", 0x02⟩, ⟨"MODEM_CONFIG", 0x04⟩, ⟨"DEFAULT", 0x08⟩,
      ⟨"DATABASE", 0x10⟩, ⟨"TEST", 0x20⟩]
  | .capabilities =>
    [⟨"CALL_PROVIDER", 0x02⟩, ⟨"SIM_SUBSCRIPTION", 0x04⟩, ⟨"PLACE_EMERGENCY_CALLS", 0x10⟩]

structure FlagSet (k : FlagKind) where
  bits : UInt32
deriving DecidableEq, Repr

abbrev Services := FlagSet .services

abbrev Origins := FlagSet .origins

abbrev Capabilities := FlagSet .capabilities

namespace FlagSet
variable {k : FlagKind}

def empty : FlagSet k := ⟨0⟩

/-- Every flag of the kind, and no other bit. -/
def all : FlagSet k := ⟨(k.flags.map Flag.bit).foldl (· ||| ·) 0⟩

/-- The bits that flags name. -/
def truncate (bits : UInt32) : FlagSet k := ⟨bits &&& (all : FlagSet k).bits⟩

/-- Nothing if there is a bit that no flag names. -/
def strict? (bits : UInt32) : Option (FlagSet k) :=
  if (truncate bits : FlagSet k).bits = bits then some ⟨bits⟩ else none

def union (a b : FlagSet k) : FlagSet k := ⟨a.bits ||| b.bits⟩

def inter (a b : FlagSet k) : FlagSet k := ⟨a.bits &&& b.bits⟩

def diff (a b : FlagSet k) : FlagSet k := ⟨a.bits &&& ~~~b.bits⟩

def symmDiff (a b : FlagSet k) : FlagSet k := ⟨a.bits ^^^ b.bits⟩

/-- The flags that `a` lacks. -/
def compl (a : FlagSet k) : FlagSet k := truncate (~~~a.bits)

def isEmpty (a : FlagSet k) : Bool := a.bits == 0

/-- Whether every flag of the kind is in the set. -/
def isAll (a : FlagSet k) : Bool := a.bits &&& (all : FlagSet k).bits == (all : FlagSet k).bits

def contains (a b : FlagSet k) : Bool := a.bits &&& b.bits == b.bits

def intersects (a b : FlagSet k) : Bool := a.bits &&& b.bits != 0

/-- The flags in the set, in order. -/
def members (a : FlagSet k) : List Flag := k.flags.filter fun f => a.contains ⟨f.bit⟩

def names (a : FlagSet k) : List String := a.members.map Flag.name

/-- The bits that no flag names. -/
def surplus (a : FlagSet k) : UInt32 := a.bits &&& ~~~(all : FlagSet k).bits

/-- The names with bars between them, or `blank` without any. -/
def shownNames (blank : String) (a : FlagSet k) : String :=
  if a.names = [] then blank else "|".intercalate a.names

@[simp] theorem bits_union (a b : FlagSet k) : (a.union b).bits = a.bits ||| b.bits := rfl

@[simp] theorem isEmpty_iff {a : FlagSet k} : a.isEmpty = true ↔ a = empty := by
  cases a
  simp [isEmpty, empty]

end FlagSet

def Services.display (s : Services) : String := s.shownNames "UNSPECIFIED"

def Origins.display (s : Origins) : String := s.shownNames "NONE"

namespace Services

def police : Services := ⟨0x01⟩

def ambulance : Services := ⟨0x02⟩

def fireBrigade : Services := ⟨0x04⟩

/-- The services that are worth a shortcut. -/
def promoted : List Services := [police, ambulance, fireBrigade]

def anyPromoted : Services := (police.union ambulance).union fireBrigade

end Services

/-- The curated database of emergency numbers. -/
def Origins.database : Origins := ⟨0x10⟩

namespace Capabilities

def callProvider : Capabilities := ⟨0x02⟩

def simSubscription : Capabilities := ⟨0x04⟩

def placeEmergencyCalls : Capabilities := ⟨0x10⟩

end Capabilities
end EmergencyDial

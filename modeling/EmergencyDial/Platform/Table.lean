import EmergencyDial.Number.Promotion

/-! What a selection asks of the platform, and a platform that answers from plain tables. Each role may
be played by a service of its own, and all answers are those of one moment. -/
namespace EmergencyDial

/-- Tells the number of radios, and the accounts that can place calls, in order. -/
structure Enumeration where
  radioCount : Nat
  callCapable : List Handle

/-- Tells the account behind a handle, and the subscription behind an account. -/
structure Accounts where
  account? : Handle → Option Account
  subscription : Account → SubscriptionId

structure Platform where
  enumeration : Enumeration
  /-- The account that calls of a scheme go out from by default. -/
  defaultRadio? : Scheme → Option Handle
  accounts : Accounts
  /-- The country of the network that a subscription is in. -/
  country? : SubscriptionId → Option String
  /-- The emergency numbers of each radio, if they can be retrieved. -/
  numbers? : Option NumberLists

/-- The platform whose roles are each played by another platform. -/
def Platform.combine (enumeration defaults accounts network numbers : Platform) : Platform where
  enumeration := enumeration.enumeration
  defaultRadio? := defaults.defaultRadio?
  accounts := accounts.accounts
  country? := network.country?
  numbers? := numbers.numbers?

/-- Of several entries for one handle or subscription the first counts. -/
structure Table where
  count : Nat := 0
  callCapable : List Handle := []
  defaults : List (Scheme × Handle) := []
  accounts : List Account := []
  subscriptions : List (Handle × SubscriptionId) := []
  countries : List (SubscriptionId × String) := []
  numbers? : Option NumberLists := none

def Table.platform (t : Table) : Platform where
  enumeration := ⟨t.count, t.callCapable⟩
  defaultRadio? s := t.defaults.lookup s
  accounts := {
    account? := fun h => t.accounts.find? fun a => a.handle = h
    subscription := fun a => (t.subscriptions.lookup a.handle).getD .invalid }
  country? i := t.countries.lookup i
  numbers? := t.numbers?

end EmergencyDial

import EmergencyDial.Proofs.Device.Coherence
import EmergencyDial.Selection.Basic

/-! Devices that play one role each, and what of a device its role reads. -/
namespace EmergencyDial

/-- The devices that play the roles of a platform. -/
structure Roles where
  enumeration : Device
  defaults : Device
  accounts : Device
  network : Device
  numbers : Device

namespace Roles

def platform (c : Roles) : Platform :=
  .combine c.enumeration.platform c.defaults.platform c.accounts.platform c.network.platform
    c.numbers.platform

/-- The device plays every role. -/
def same (d : Device) : Roles := ⟨d, d, d, d, d⟩

end Roles

/-- What is asked of a platform. A snapshot is by lists that are given, or by those of the platform. -/
inductive Query
  | tryPick (sel : Selector)
  | pick (sel : Selector)
  | preferred
  | snapshotBy (promoted : PromotedLists) (h : Handle)
  | snapshot (h : Handle)
  | radioCount
  | callCapable
  | defaultRadio (s : Scheme)
  | account (h : Handle)
  | subscription (a : Account)
  | country (i : SubscriptionId)
  | numbers

def Query.Answer : Query → Type
  | .tryPick _ => Except SelectionError Selection
  | .pick _ | .preferred => Option Snapshot
  | .snapshotBy _ _ | .snapshot _ => Snapshot
  | .radioCount => Nat
  | .callCapable => List Handle
  | .defaultRadio _ => Option Handle
  | .account _ => Option Account
  | .subscription _ => SubscriptionId
  | .country _ => Option String
  | .numbers => Option NumberLists

/-- The answer, and what is told on the way. -/
def Platform.ask (p : Platform) : (q : Query) → Logged q.Answer
  | .tryPick sel => sel.tryPick p
  | .pick sel => sel.pick p
  | .preferred => p.preferred
  | .snapshotBy promoted h => ⟨p.snapshot promoted h, []⟩
  | .snapshot h => (p.snapshot · h) <$> classifyLogged (p.numbers?.getD .empty)
  | .radioCount => ⟨p.enumeration.radioCount, []⟩
  | .callCapable => ⟨p.enumeration.callCapable, []⟩
  | .defaultRadio s => ⟨p.defaultRadio? s, []⟩
  | .account h => ⟨p.accounts.account? h, []⟩
  | .subscription a => ⟨p.accounts.subscription a, []⟩
  | .country i => ⟨p.country? i, []⟩
  | .numbers => ⟨p.numbers?, []⟩

/-- All that the accounts of a device tell of a radio. -/
def Radio.credentials (r : Radio) : Handle × SubscriptionId × Capabilities × Bool :=
  (r.handle, r.subscription, r.capabilities, r.registered)

/-- All that the network of a device tells of a radio. -/
def Radio.camp (r : Radio) : SubscriptionId × Option String := (r.subscription, r.country)

/-- In each role the devices are alike in what that role may read. -/
structure Roles.Agree (c c' : Roles) : Prop where
  count : c'.enumeration.count = c.enumeration.count
  size : c'.enumeration.radios.length = c.enumeration.radios.length
  callCapable : (c'.enumeration.radios.filter (·.callCapable)).map Radio.handle =
    (c.enumeration.radios.filter (·.callCapable)).map Radio.handle
  defaultRadio : c'.defaults.defaultRadio = c.defaults.defaultRadio
  credentials : ∀ x, x ∈ c'.accounts.radios.map Radio.credentials ↔
    x ∈ c.accounts.radios.map Radio.credentials
  camps : c'.network.radios.map Radio.camp = c.network.radios.map Radio.camp
  numbers : c'.numbers.numbers = c.numbers.numbers
  unavailable : c'.numbers.unavailable = c.numbers.unavailable

variable {d d' : Device} {c c' : Roles} {h : Handle} {i : SubscriptionId}
  {x : Handle × SubscriptionId × Capabilities × Bool}

/-- Where no two radios share a handle, their order does not matter to the accounts. -/
theorem map_credentials_radio? (ho : Orderly d.radios) :
    (d.radio? h).map Radio.credentials = some x ↔
      x ∈ d.radios.map Radio.credentials ∧ x.1 = h := by
  rw [Option.map_eq_some_iff, List.mem_map]
  constructor
  · rintro ⟨r, hr, rfl⟩
    obtain ⟨hm, he⟩ := of_radio?_eq_some hr
    exact ⟨⟨r, hm, rfl⟩, he⟩
  · rintro ⟨⟨r, hm, rfl⟩, he⟩
    exact ⟨r, (radio?_eq_some_iff ho).2 ⟨hm, he⟩, rfl⟩

theorem account?_eq_credentials (d : Device) (h : Handle) : d.account? h =
    ((d.radio? h).map Radio.credentials).bind fun x =>
      if x.2.2.2 then some ⟨x.1, x.2.2.1⟩ else none := by
  rw [Device.account?]
  cases d.radio? h <;> rfl

theorem subscription_eq_credentials (d : Device) (h : Handle) :
    d.subscription h = ((d.radio? h).map Radio.credentials).elim .invalid (·.2.1) := by
  rw [Device.subscription]
  cases d.radio? h <;> rfl

theorem country?_eq_camps (d : Device) (i : SubscriptionId) : d.country? i =
    if i.isValid then ((d.radios.map Radio.camp).find? fun x => x.1 = i).bind (·.2) else none := by
  rw [Device.country?, List.find?_map, Option.bind_map]
  rfl

namespace Roles.Agree

theorem enumeration_eq (ha : c.Agree c') :
    c'.enumeration.platform.enumeration = c.enumeration.platform.enumeration := by
  simp only [Device.platform, Device.radioCount, Device.callCapable, ha.count, ha.size,
    ha.callCapable]

theorem defaultRadio?_eq (ha : c.Agree c') :
    c'.defaults.platform.defaultRadio? = c.defaults.platform.defaultRadio? := by
  funext s
  change c'.defaults.defaultRadio? s = c.defaults.defaultRadio? s
  cases s with
  | tel => exact ha.defaultRadio
  | sip => rfl
  | voicemail => rfl

theorem radio?_eq (ha : c.Agree c') (ho : Orderly c.accounts.radios)
    (ho' : Orderly c'.accounts.radios) (h : Handle) :
    (c'.accounts.radio? h).map Radio.credentials = (c.accounts.radio? h).map Radio.credentials := by
  apply Option.ext
  intro x
  rw [map_credentials_radio? ho, map_credentials_radio? ho', ha.credentials]

theorem accounts_eq (ha : c.Agree c') (ho : Orderly c.accounts.radios)
    (ho' : Orderly c'.accounts.radios) :
    c'.accounts.platform.accounts = c.accounts.platform.accounts := by
  have hr := ha.radio?_eq ho ho'
  have hacc : c'.accounts.account? = c.accounts.account? := by
    funext h
    rw [account?_eq_credentials, account?_eq_credentials, hr]
  have hsub : c'.accounts.subscription = c.accounts.subscription := by
    funext h
    rw [subscription_eq_credentials, subscription_eq_credentials, hr]
  simp only [Device.platform, hacc, hsub]

theorem country?_eq (ha : c.Agree c') :
    c'.network.platform.country? = c.network.platform.country? := by
  funext i
  change Device.country? c'.network i = Device.country? c.network i
  rw [country?_eq_camps, country?_eq_camps, ha.camps]

theorem numbers?_eq (ha : c.Agree c') :
    c'.numbers.platform.numbers? = c.numbers.platform.numbers? := by
  simp only [Device.platform, Device.numbers?, ha.numbers, ha.unavailable]

theorem platform_eq (ha : c.Agree c') (ho : Orderly c.accounts.radios)
    (ho' : Orderly c'.accounts.radios) : c'.platform = c.platform := by
  simp only [Roles.platform, Platform.combine, ha.enumeration_eq, ha.defaultRadio?_eq,
    ha.accounts_eq ho ho', ha.country?_eq, ha.numbers?_eq]

end Roles.Agree

/-- No query tells devices apart that agree, role by role, on what the role may read; and a device that
plays every role answers for itself. -/
theorem ask_of_agree :
    (∀ c c' : Roles, c.accounts.Reachable → c'.accounts.Reachable → c.Agree c' →
      ∀ q, c'.platform.ask q = c.platform.ask q) ∧
    ∀ d q, (Roles.same d).platform.ask q = d.platform.ask q := by
  constructor
  · intro c c' hr hr' ha q
    rw [ha.platform_eq (orderly_reachable hr) (orderly_reachable hr')]
  · exact fun _ _ => rfl

/-- The default is not registered, and of the radios that share a subscription only one is in a network. -/
def spareRoles : Roles where
  enumeration := (Device.empty.run [.addRadio (.ordinary "sim0" 1 "us"),
    .addRadio { handle := "sim1", callCapable := false }]).1
  defaults := (Device.empty.run [.setDefault (some ⟨"sim1"⟩)]).1
  accounts := (Device.empty.run [.addRadio ⟨"sim0", some ⟨1⟩, ⟨0x10⟩, none, true, true⟩,
    .addRadio ⟨"sim1", some ⟨2⟩, ⟨0x8000_0010⟩, none, false, true⟩]).1
  network := (Device.empty.run [.addRadio (.ordinary "a" 1 "us"), .addRadio (.ordinary "b" 1 "")]).1
  numbers := (Device.empty.run [
    .setNumbers ⟨1⟩ (some [⟨"911", "", "", ⟨0x01⟩, ⟨0x10⟩, .unknown⟩])]).1

/-- Each of these differs from the device above in all that its role does not read. -/
def ladenRoles : Roles where
  enumeration := (Device.empty.run [.addRadio { handle := "sim7", callCapable := false },
    .addRadio (.ordinary "sim0" 5 "fr"), .setDefault none, .setUnavailable true]).1
  defaults := (Device.empty.run [.addRadio (.ordinary "sim1" 9 "ca"), .setDefault (some ⟨"sim1"⟩),
    .setCount 0]).1
  accounts := (Device.empty.run [
    .addRadio ⟨"sim1", some ⟨2⟩, ⟨0x8000_0010⟩, some "gb", false, false⟩,
    .addRadio ⟨"sim0", some ⟨1⟩, ⟨0x10⟩, some "fr", true, false⟩]).1
  network := (Device.empty.run [.addRadio ⟨"b", some ⟨1⟩, ⟨0⟩, some "us", false, false⟩,
    .addRadio ⟨"a", some ⟨1⟩, ⟨0⟩, none, false, true⟩, .setUnavailable true]).1
  numbers := (Device.empty.run [.addRadio (.ordinary "sim3" 1 "ca"), .setCount 4,
    .setNumbers ⟨1⟩ (some [⟨"911", "", "", ⟨0x01⟩, ⟨0x10⟩, .unknown⟩])]).1

theorem ask_ladenRoles : spareRoles.accounts.Reachable ∧ ladenRoles.accounts.Reachable ∧
    spareRoles.Agree ladenRoles ∧
    ladenRoles.platform.ask (.tryPick {}) = spareRoles.platform.ask (.tryPick {}) ∧
    (ladenRoles.platform.ask (.tryPick {})).value =
      .ok ⟨⟨some ⟨"sim0"⟩, true, ⟨1⟩, "us", some [⟨"911", "", "", ⟨0x01⟩, ⟨0x10⟩, .unknown⟩]⟩,
        .callCapable 0⟩ := by
  have hr : spareRoles.accounts.Reachable := reachable_iff.2 ⟨_, rfl⟩
  have hr' : ladenRoles.accounts.Reachable := reachable_iff.2 ⟨_, rfl⟩
  have ha : spareRoles.Agree ladenRoles :=
    ⟨rfl, rfl, rfl, rfl, fun x => (List.Perm.swap _ _ []).mem_iff, rfl, rfl, rfl⟩
  refine ⟨hr, hr', ha, ask_of_agree.1 _ _ hr hr' ha _, ?_⟩
  rw [ask_of_agree.1 _ _ hr hr' ha]
  rfl

end EmergencyDial

import EmergencyDial.Proofs.Device.Coherence
import EmergencyDial.Proofs.Selection.Qualification

/-! Selection with a device for the network, whatever plays the other roles. -/
namespace EmergencyDial

/-- The id is that of a subscription, and the first radio that has it is in the network of the country. -/
structure Device.Hosts (d : Device) (i : SubscriptionId) (c : String) : Prop where
  valid : 0 ≤ i.value.toInt
  first : ∃ before r after, d.radios = before ++ r :: after ∧
    (∀ r' ∈ before, r'.subscription ≠ i) ∧ r.subscription = i ∧ r.country = some c

/-- All that accounts and lists say for a handle: its account may place emergency calls, and the list of
the subscription has a number that reaches help. -/
def Platform.Equipped (p : Platform) (h : Handle) : Prop :=
  ∃ a ns, p.accounts.account? h = some a ∧ a.capabilities.bits &&& 0x10 = 0x10 ∧
    p.numbers?.bind (·.find? (p.accounts.subscription a)) = some (some ns) ∧
    ∃ n ∈ ns, n.services.bits &&& 0x07 ≠ 0

variable {d : Device} {p : Platform} {h : Handle} {a : Account} {i : SubscriptionId} {c : String}
  {ns : List EmergencyNumber} {sel : Selector} {x : Selection}

theorem hosts_iff : d.Hosts i c ↔ d.country? i = some c := by
  rw [country?_eq_some_iff]
  constructor
  · rintro ⟨hv, hf⟩
    exact ⟨hv, hf⟩
  · rintro ⟨hv, hf⟩
    exact ⟨hv, hf⟩

theorem Device.Hosts.exists_radio (hc : d.Hosts i c) : ∃ r ∈ d.radios, r.subscription = i := by
  obtain ⟨before, r, after, hd, _, hi, _⟩ := hc.first
  exact ⟨r, by simp [hd], hi⟩

theorem Device.Hosts.ne_empty (ho : Orderly d.radios) (hc : d.Hosts i c) : c ≠ "" := by
  rintro rfl
  exact country?_ne_empty ho (hosts_iff.1 hc)

theorem subscriptionOf_of_account (ha : p.accounts.account? h = some a) :
    p.subscriptionOf h = p.accounts.subscription a := by
  rw [Platform.subscriptionOf, ha, Option.elim_some]

/-- A radio is fit if it is equipped, and the device hosts its subscription. -/
theorem sufficient_iff_hosts (hn : p.country? = d.country?) (ho : Orderly d.radios) :
    p.Sufficient h ↔ p.Equipped h ∧ ∃ c, d.Hosts (p.subscriptionOf h) c := by
  rw [sufficient_iff]
  constructor
  · rintro ⟨a, c, ns, hf⟩
    refine ⟨⟨a, ns, hf.account, hf.capable, hf.listed, hf.promoted⟩, c, ?_⟩
    rw [hosts_iff, subscriptionOf_of_account hf.account, ← hn, hf.country]
  · rintro ⟨⟨a, ns, ha, hcap, hl, hp⟩, c, hc⟩
    have hne := hc.ne_empty ho
    rw [hosts_iff, subscriptionOf_of_account ha, ← hn] at hc
    exact ⟨a, c, ns, ha, hcap, hc, hne, hl, hp⟩

/-- What is selected is the state of a handle that is fit. -/
theorem exists_sufficient_of_tryPick (hx : (sel.tryPick p).value = .ok x) :
    ∃ h, p.Sufficient h ∧ x.snapshot = p.snapshot p.promoted h := by
  obtain ⟨h, _, hq, hs⟩ := qualifies_of_decision (value_tryPick_iff.1 hx)
  exact ⟨h, sufficient_iff.2 hq, hs⟩

theorem country_snapshot (hn : p.country? = d.country?) (hc : d.Hosts (p.subscriptionOf h) c) :
    (p.snapshot p.promoted h).country = c := by
  change (p.country? (p.subscriptionOf h)).getD "" = c
  rw [hn, hosts_iff.1 hc, Option.getD_some]

/-- Of a platform whose network is a device, a selection shows a subscription that the device hosts and
the country that it hosts it in. What the other roles say cannot bring in any other radio, though it can
keep one out. -/
theorem selection_in_network (hr : d.Reachable) (enumeration defaults accounts numbers : Platform)
    (hp : p = .combine enumeration defaults accounts d.platform numbers) (sel : Selector) :
    (∀ x, (sel.tryPick p).value = .ok x →
      d.Hosts x.snapshot.subscription x.snapshot.country ∧ x.snapshot.country ≠ "") ∧
    (∀ h, p.Sufficient h ↔ p.Equipped h ∧ ∃ c, d.Hosts (p.subscriptionOf h) c) ∧
    ∀ h, (p.subscriptionOf h).value.toInt < 0 ∨
        (∀ r ∈ d.radios, r.subscription ≠ p.subscriptionOf h) →
      ∀ x, (sel.tryPick p).value = .ok x → x.snapshot.handle ≠ some h := by
  have ho := orderly_reachable hr
  have hn : p.country? = d.country? := by
    rw [hp]
    rfl
  refine ⟨?_, fun h => sufficient_iff_hosts hn ho, ?_⟩
  · intro x hx
    obtain ⟨h, hs, he⟩ := exists_sufficient_of_tryPick hx
    obtain ⟨_, c, hc⟩ := (sufficient_iff_hosts hn ho).1 hs
    rw [he, subscription_snapshot_eq, country_snapshot hn hc]
    exact ⟨hc, hc.ne_empty ho⟩
  · rintro h hi x hx hh
    obtain ⟨g, hs, he⟩ := exists_sufficient_of_tryPick hx
    obtain rfl : g = h := Option.some.inj (by rw [← hh, he]; rfl)
    obtain ⟨_, c, hc⟩ := (sufficient_iff_hosts hn ho).1 hs
    obtain ⟨r, hm, hq⟩ := hc.exists_radio
    have hv := hc.valid
    rcases hi with hi | hi
    · omega
    · exact hi r hm hq

/-- The first radio has a number that is that of no subscription, and the next two share one. -/
def crowdedNetwork : Device :=
  (Device.empty.run [.addRadio (.ordinary "a" (-7) "fr"), .addRadio (.ordinary "b" 1 "us"),
    .addRadio (.ordinary "c" 1 "ca")]).1

/-- There are lists for all that the accounts come to: the number of no subscription, one that no radio
has, and one that a radio has. -/
def lavishTable : Table where
  count := 9
  callCapable := [⟨"x"⟩, ⟨"y"⟩, ⟨"z"⟩]
  defaults := [(.sip, ⟨"y"⟩)]
  accounts := [⟨⟨"x"⟩, ⟨0x10⟩⟩, ⟨⟨"y"⟩, ⟨0x10⟩⟩, ⟨⟨"z"⟩, ⟨0x8000_0010⟩⟩]
  subscriptions := [(⟨"x"⟩, ⟨-7⟩), (⟨"y"⟩, ⟨5⟩), (⟨"z"⟩, ⟨1⟩)]
  countries := [(⟨5⟩, "gb")]
  numbers? := some ⟨[(⟨-7⟩, some [⟨"112", "", "", ⟨0x07⟩, ⟨0x10⟩, .unknown⟩]),
    (⟨1⟩, some [⟨"911", "", "", ⟨0x01⟩, ⟨0⟩, .unknown⟩]),
    (⟨5⟩, some [⟨"999", "", "", ⟨0x02⟩, ⟨0x10⟩, .unknown⟩])], by decide⟩

theorem crowdedNetwork_hosts : crowdedNetwork.Reachable ∧
    ∃ p : Platform, p = .combine lavishTable.platform lavishTable.platform lavishTable.platform
        crowdedNetwork.platform lavishTable.platform ∧
      ∃ x, (Selector.tryPick ⟨.sip⟩ p).value = .ok x ∧ x.source = .callCapable 2 ∧
        crowdedNetwork.Hosts x.snapshot.subscription x.snapshot.country ∧
        x.snapshot.handle ≠ some ⟨"x"⟩ ∧ x.snapshot.handle ≠ some ⟨"y"⟩ := by
  have hr : crowdedNetwork.Reachable := reachable_iff.2 ⟨_, rfl⟩
  obtain ⟨hsel, _, hnever⟩ := selection_in_network hr lavishTable.platform lavishTable.platform
    lavishTable.platform lavishTable.platform rfl ⟨.sip⟩
  refine ⟨hr, _, rfl, _, rfl, rfl, (hsel _ rfl).1, ?_, ?_⟩
  · exact hnever ⟨"x"⟩ (Or.inl (by decide)) _ rfl
  · exact hnever ⟨"y"⟩ (Or.inr (by decide)) _ rfl

end EmergencyDial

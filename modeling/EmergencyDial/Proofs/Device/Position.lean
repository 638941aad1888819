import EmergencyDial.Proofs.Device.Selection

/-! Positions of radios, at which later steps leave the radios as they are. -/
namespace EmergencyDial

/-- What no step changes of a radio. -/
def Radio.identity (r : Radio) : Handle × SubscriptionId × Bool × Bool :=
  (r.handle, r.subscription, r.registered, r.callCapable)

variable {d d' : Device} {r r' : Radio} {rs rs' : List Radio} {h : Handle} {a : Account} {k : Nat}
  {p : Platform} {sel : Selector}

theorem Radio.Becomes.identity_eq (hb : r.Becomes r') : r'.identity = r.identity := by
  simp only [Radio.identity, hb.handle, hb.subscription, hb.registered, hb.callCapable]

/-- Radios come in behind the others, and none leaves or moves. -/
theorem identity_prefix_of_change (hc : RadioChange rs rs') :
    rs.map Radio.identity <+: rs'.map Radio.identity := by
  cases hc with
  | kept => exact List.prefix_rfl
  | added p hn =>
    rw [List.map_append]
    exact List.prefix_append _ _
  | adjusted h hf =>
    rw [map_changeFirst fun r => (hf r).identity_eq]

theorem identity_prefix_run (d : Device) (ss : List Step) :
    d.radios.map Radio.identity <+: (d.run ss).1.radios.map Radio.identity := by
  induction ss generalizing d with
  | nil => exact List.prefix_rfl
  | cons s ss ih =>
    rw [run_cons]
    exact (identity_prefix_of_change (radioChange_step d s)).trans (ih _)

theorem callCapable_eq_identity (d : Device) : d.callCapable =
    ((d.radios.map Radio.identity).filter (·.2.2.2)).map Prod.fst := by
  rw [Device.callCapable, List.filter_map, List.map_map]
  rfl

theorem radio?_map_identity (d : Device) (h : Handle) :
    (d.radio? h).map Radio.identity = (d.radios.map Radio.identity).find? fun x => x.1 = h := by
  rw [Device.radio?, List.find?_map]
  rfl

theorem callCapable_prefix_run (d : Device) (ss : List Step) :
    d.callCapable <+: (d.run ss).1.callCapable := by
  rw [callCapable_eq_identity, callCapable_eq_identity]
  exact ((identity_prefix_run d ss).filter _).map _

/-- The radio of a handle stays the same one. -/
theorem exists_radio?_run (hr : d.radio? h = some r) (ss : List Step) :
    ∃ r', (d.run ss).1.radio? h = some r' ∧ r'.identity = r.identity := by
  have hf : (d.radios.map Radio.identity).find? (fun x => x.1 = h) = some r.identity := by
    rw [← radio?_map_identity, hr]
    rfl
  have hf' := (identity_prefix_run d ss).find?_eq_some hf
  rwa [← radio?_map_identity, Option.map_eq_some_iff] at hf'

/-- An account stays registered, and resolves to the same subscription. -/
theorem exists_account?_run (ha : d.platform.accounts.account? h = some a) (ss : List Step) :
    ∃ a', (d.run ss).1.platform.accounts.account? h = some a' ∧
      (d.run ss).1.platform.accounts.subscription a' = d.platform.accounts.subscription a := by
  obtain ⟨r, hr, hg, rfl⟩ := account?_eq_some_iff.1 ha
  obtain ⟨r', hr', hi⟩ := exists_radio?_run hr ss
  simp only [Radio.identity, Prod.mk.injEq] at hi
  obtain ⟨_, hs, hg', _⟩ := hi
  refine ⟨⟨h, r'.capabilities⟩, account?_eq_some_iff.2 ⟨r', hr', hg'.trans hg, rfl⟩, ?_⟩
  change (d.run ss).1.subscription h = d.subscription h
  rw [subscription_of_radio? hr, subscription_of_radio? hr', hs]

theorem getElem?_callCapable_run (hk : d.callCapable[k]? = some h) (ss : List Step) :
    (d.run ss).1.callCapable[k]? = some h := by
  obtain ⟨hs, he⟩ := callCapable_prefix_run d ss
  obtain ⟨hlt, _⟩ := List.getElem?_eq_some_iff.1 hk
  rw [← he, List.getElem?_append_left hlt, hk]

/-- A selection by position comes to the handle that stands there. -/
theorem getElem?_of_tryPick {s : Snapshot}
    (hv : (sel.tryPick p).value = .ok ⟨s, .callCapable k⟩) (hh : s.handle = some h) :
    p.enumeration.callCapable[k]? = some h := by
  cases value_tryPick_iff.1 hv with
  | callCapable _ _ _ hk _ _ => exact hk.trans hh

/-- The subscription that a selection tells is that of its account. -/
theorem exists_account?_of_tryPick {x : Selection} (hv : (sel.tryPick p).value = .ok x)
    (hh : x.snapshot.handle = some h) : ∃ a, p.accounts.account? h = some a ∧
      p.accounts.subscription a = x.snapshot.subscription := by
  obtain ⟨g, _, ⟨a, c, ns, hf⟩, hs⟩ := qualifies_of_decision (value_tryPick_iff.1 hv)
  rw [hs, hf.snapshot_eq] at hh ⊢
  obtain rfl := Option.some.inj hh
  exact ⟨a, hf.account, rfl⟩

/-- What steps make of a device has the same radios in the same places, and new ones behind them. The
position of a selection goes on to stand for its radio, with the same subscription, and no other
position comes to stand for it. -/
theorem position_lasting (hr : d.Reachable) {ss : List Step} (hd : (d.run ss).1 = d') :
    d.radios.map Radio.identity <+: d'.radios.map Radio.identity ∧
    d.platform.enumeration.callCapable <+: d'.platform.enumeration.callCapable ∧
    ∀ (sel : Selector) s k h,
      (sel.tryPick d.platform).value = .ok ⟨s, .callCapable k⟩ → s.handle = some h →
        d'.platform.enumeration.callCapable[k]? = some h ∧
        (∃ a a', d.platform.accounts.account? h = some a ∧
          d'.platform.accounts.account? h = some a' ∧
          d.platform.accounts.subscription a = s.subscription ∧
          d'.platform.accounts.subscription a' = s.subscription) ∧
        ∀ (sel' : Selector) s' j,
          (sel'.tryPick d'.platform).value = .ok ⟨s', .callCapable j⟩ → s'.handle = some h →
            j = k := by
  subst hd
  refine ⟨identity_prefix_run d ss, callCapable_prefix_run d ss, ?_⟩
  intro sel s k h hv hh
  have hk : (d.run ss).1.callCapable[k]? = some h :=
    getElem?_callCapable_run (getElem?_of_tryPick hv hh) ss
  obtain ⟨a, ha, hi⟩ := exists_account?_of_tryPick hv hh
  obtain ⟨a', ha', hi'⟩ := exists_account?_run ha ss
  refine ⟨hk, ⟨a, a', ha, ha', hi, hi'.trans hi⟩, ?_⟩
  intro sel' s' j hv' hh'
  have hj : (d.run ss).1.callCapable[j]? = some h := getElem?_of_tryPick hv' hh'
  have hn : (d.run ss).1.callCapable.Nodup :=
    (orderly_reachable (hr.run ss)).distinct.sublist (callCapable_sublist _)
  obtain ⟨hlt, _⟩ := List.getElem?_eq_some_iff.1 hj
  exact (List.getElem?_inj hlt hn).1 (hj.trans hk.symm)

/-- One radio is refused, and one added that shares the subscription. The first radio changes to another
network, and its account still may not place emergency calls. -/
def laterNetwork : Device :=
  (sharedNetwork.run [.addRadio (.ordinary "sim1" 7 "ca"), .addRadio (.ordinary "sim3" 1 "fr"),
    .setCountry ⟨"sim0"⟩ none, .setCountry ⟨"sim0"⟩ (some "gb"),
    .setCapabilities ⟨"sim1"⟩ .ordinary, .setDefault none]).1

theorem laterNetwork_position : sharedNetwork.Reachable ∧
    (∃ s, (Selector.tryPick {} sharedNetwork.platform).value = .ok ⟨s, .callCapable 1⟩ ∧
      s.handle = some ⟨"sim1"⟩) ∧
    laterNetwork.platform.enumeration.callCapable[1]? = some ⟨"sim1"⟩ ∧
    ∃ s j, (Selector.tryPick ⟨.sip⟩ laterNetwork.platform).value = .ok ⟨s, .callCapable j⟩ ∧
      s.handle = some ⟨"sim1"⟩ ∧ s.country = "gb" ∧ j = 1 := by
  have hr : sharedNetwork.Reachable := reachable_iff.2 ⟨_, rfl⟩
  obtain ⟨s, hv, hh⟩ : ∃ s, (Selector.tryPick {} sharedNetwork.platform).value =
      .ok ⟨s, .callCapable 1⟩ ∧ s.handle = some ⟨"sim1"⟩ := ⟨_, rfl, rfl⟩
  obtain ⟨s', j, hv', hh', hc⟩ : ∃ s' j, (Selector.tryPick ⟨.sip⟩ laterNetwork.platform).value =
      .ok ⟨s', .callCapable j⟩ ∧ s'.handle = some ⟨"sim1"⟩ ∧ s'.country = "gb" :=
    ⟨_, _, rfl, rfl, rfl⟩
  have hl : (sharedNetwork.run _).1 = laterNetwork := rfl
  obtain ⟨hk, _, hj⟩ := (position_lasting hr hl).2.2 _ s 1 _ hv hh
  exact ⟨hr, ⟨s, hv, hh⟩, hk, s', j, hv', hh', hc, hj _ s' j hv' hh'⟩

end EmergencyDial

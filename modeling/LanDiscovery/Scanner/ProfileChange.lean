import LanDiscovery.Scanner.RegistrySnapshot

/-!
# What the answer of `apply` says

`apply` answers whether some record of the event changed the profile when it was
merged.  The sets only grow, so a change of theirs is there to stay; the host can be
overwritten and come back within one event, and then the answer is `true` although the
profile is what it was (`flagExact_iff_not_hostReturns`).
-/

namespace LanDiscovery
namespace Scanner

open Library Library.Utf8 Library.Preference MdnsNames

deriving instance DecidableEq for Profile

/-- The profile of a source; that of an unknown one is empty. -/
def profileAt (devices : Devices) (srcIp : Bytes) : Profile :=
  ((findDevice devices srcIp).getD .empty).profile

/-- The answer of `apply` is whether the profile of the source has changed. -/
def FlagExact (devices : Devices) (ev : DiscoveryEvent) : Prop :=
  (applyEvent devices ev).2 = true ↔
    profileAt (applyEvent devices ev).1 ev.srcIp ≠ profileAt devices ev.srcIp

/-- Applying the event once more answers `false` and leaves the profile as it is. -/
def SecondTimeQuiet (devices : Devices) (ev : DiscoveryEvent) : Prop :=
  (applyEvent (applyEvent devices ev).1 ev).2 = false ∧
    profileAt (applyEvent (applyEvent devices ev).1 ev).1 ev.srcIp =
      profileAt (applyEvent devices ev).1 ev.srcIp

instance (devices : Devices) (ev : DiscoveryEvent) : Decidable (FlagExact devices ev) :=
  inferInstanceAs (Decidable (_ ↔ _))

instance (devices : Devices) (ev : DiscoveryEvent) : Decidable (SecondTimeQuiet devices ev) :=
  inferInstanceAs (Decidable (_ ∧ _))

/-- The SRV records with a target have the same one. -/
def TargetsAgree (rs : List ResourceRecordView) : Prop :=
  ∀ rec ∈ rs, ∀ rec' ∈ rs, isTargeted rec = true → isTargeted rec' = true →
    srvTarget rec = srvTarget rec'

/-- The records bring nothing new but another host, and end with the host as it was. -/
structure HostReturns (profile : Profile) (rs : List ResourceRecordView) : Prop where
  serviceTypes : ∀ rec ∈ rs, contributedServiceTypes rec ⊆ profile.serviceTypes
  instances : ∀ rec ∈ rs, contributedInstances rec ⊆ profile.instances
  other : ∃ rec ∈ rs, isTargeted rec = true ∧ some (srvTarget rec) ≠ profile.host
  last : profile.host ≠ none ∧ lastTarget rs = profile.host

/-! ## The flag of one record -/

theorem insertIfNew_snd (set : Finset Bytes) (value : Bytes) :
    (insertIfNew set value).2 = true ↔ (insertIfNew set value).1 ≠ set := by
  unfold insertIfNew
  split_ifs
  · simp
  · simp [Finset.insert_eq_self]

/-- The sets grow, the host stays, and the flag goes up when a set has grown. -/
structure Grows (acc acc' : DeviceSnapshot × Bool) : Prop where
  host : acc'.1.mdnsHost = acc.1.mdnsHost
  serviceTypes : acc.1.serviceTypes ⊆ acc'.1.serviceTypes
  instances : acc.1.instances ⊆ acc'.1.instances
  flag : acc'.2 = true ↔
    acc.2 = true ∨ acc'.1.serviceTypes ≠ acc.1.serviceTypes ∨ acc'.1.instances ≠ acc.1.instances

theorem Grows.refl (acc : DeviceSnapshot × Bool) : Grows acc acc := by
  refine ⟨rfl, subset_rfl, subset_rfl, ?_⟩
  simp

/-- Two sets that grow one after the other are the first one only if neither grew. -/
theorem ne_iff_of_subset {s t u : Finset Bytes} (hst : s ⊆ t) (htu : t ⊆ u) :
    u ≠ s ↔ t ≠ s ∨ u ≠ t := by
  constructor
  · intro hus
    by_contra hnone
    obtain ⟨hts, hut⟩ := not_or.mp hnone
    exact hus ((not_not.mp hut).trans (not_not.mp hts))
  · rintro (hts | hut) rfl
    · exact hts (htu.antisymm hst)
    · exact hut (hst.antisymm htu)

theorem Grows.trans {acc acc' acc'' : DeviceSnapshot × Bool} (h : Grows acc acc')
    (h' : Grows acc' acc'') : Grows acc acc'' := by
  refine ⟨h'.host.trans h.host, h.serviceTypes.trans h'.serviceTypes,
    h.instances.trans h'.instances, ?_⟩
  rw [h'.flag, h.flag, ne_iff_of_subset h.serviceTypes h'.serviceTypes,
    ne_iff_of_subset h.instances h'.instances]
  tauto

theorem Grows.ite {acc acc' : DeviceSnapshot × Bool} (c : Prop) [Decidable c]
    (h : Grows acc acc') : Grows acc (if c then acc' else acc) := by
  split_ifs
  · exact h
  · exact .refl acc

theorem grows_insertServiceType (acc : DeviceSnapshot × Bool) (value : Bytes) :
    Grows acc (insertServiceType acc value) := by
  refine ⟨rfl, ?_, subset_rfl, ?_⟩
  · rw [insertServiceType, insertIfNew_fst]
    exact Finset.subset_union_left
  · simp [insertServiceType, insertIfNew_snd]

theorem grows_insertInstance (acc : DeviceSnapshot × Bool) (value : Bytes) :
    Grows acc (insertInstance acc value) := by
  refine ⟨rfl, subset_rfl, ?_, ?_⟩
  · rw [insertInstance, insertIfNew_fst]
    exact Finset.subset_union_left
  · simp [insertInstance, insertIfNew_snd]

/-- A record is merged in two parts: first the sets, then the host. -/
theorem exists_grows (acc : DeviceSnapshot × Bool) (rec : ResourceRecordView) :
    ∃ acc', Grows acc acc' ∧ mergeRecord acc rec = mergeHost acc' rec := by
  have htime : Grows acc ({ acc.1 with lastSeenMs := rec.observedAtMs }, acc.2) := by
    refine ⟨rfl, subset_rfl, subset_rfl, ?_⟩
    simp
  refine ⟨_, ?_, rfl⟩
  refine (htime.ite (rec.observedAtMs > acc.1.lastSeenMs)).trans ?_
  refine ((grows_insertServiceType _ rec.rdataText).ite (isMetaPointer rec = true)).trans ?_
  refine (((grows_insertInstance _ rec.rdataText).trans
    (grows_insertServiceType _ (serviceTypeFromName rec.rdataText))).ite
    (isInstancePointer rec = true)).trans ?_
  exact (grows_insertServiceType _ _).ite (rec.type = typeSrv ∨ rec.type = typeTxt)

theorem mergeHost_snd (acc : DeviceSnapshot × Bool) (rec : ResourceRecordView) :
    (mergeHost acc rec).2 = true ↔
      acc.2 = true ∨ (mergeHost acc rec).1.mdnsHost ≠ acc.1.mdnsHost := by
  unfold mergeHost
  dsimp only
  split_ifs with hsrv hne hfill
  · simp [Ne.symm hne]
  · simp
  · -- the owner of an address record under `.local` is not empty
    simp only [Bool.and_eq_true, decide_eq_true_eq, List.isEmpty_iff] at hfill
    obtain ⟨⟨-, hlocal⟩, hempty⟩ := hfill
    simp [hempty, ne_nil_of_endsWith_local hlocal]
  · simp

theorem profile_ne_iff {s t : DeviceSnapshot} :
    s.profile ≠ t.profile ↔
      s.mdnsHost ≠ t.mdnsHost ∨ s.serviceTypes ≠ t.serviceTypes ∨ s.instances ≠ t.instances := by
  rw [DeviceSnapshot.profile, DeviceSnapshot.profile, ne_eq, Profile.mk.injEq, present_inj]
  tauto

/-- A record raises the flag exactly if it changes the profile. -/
theorem mergeRecord_snd (acc : DeviceSnapshot × Bool) (rec : ResourceRecordView) :
    (mergeRecord acc rec).2 = true ↔ acc.2 = true ∨ acc.1.profile.add rec ≠ acc.1.profile := by
  rw [← profile_mergeRecord, profile_ne_iff]
  obtain ⟨acc', hgrows, hmerge⟩ := exists_grows acc rec
  rw [hmerge, mergeHost_snd, mergeHost_serviceTypes, mergeHost_instances, hgrows.flag,
    hgrows.host]
  tauto

/-! ## The flag of an event -/

/-- Merging raises the flag exactly if some record alone would change the profile. -/
theorem foldl_mergeRecord_snd (acc : DeviceSnapshot × Bool) (rs : List ResourceRecordView) :
    (rs.foldl mergeRecord acc).2 = true ↔
      acc.2 = true ∨ ∃ rec ∈ rs, acc.1.profile.add rec ≠ acc.1.profile := by
  induction rs generalizing acc with
  | nil => simp
  | cons rec rs ih =>
      rw [List.foldl_cons, ih, mergeRecord_snd, profile_mergeRecord, List.exists_mem_cons_iff,
        or_assoc]
      refine or_congr_right ?_
      by_cases hsame : acc.1.profile.add rec = acc.1.profile
      · rw [hsame]
      · exact iff_of_true (Or.inl hsame) (Or.inl hsame)

theorem add_eq_self_iff {profile : Profile} {rec : ResourceRecordView} :
    profile.add rec = profile ↔
      (hostUpdate rec).apply profile.host = profile.host ∧
      contributedServiceTypes rec ⊆ profile.serviceTypes ∧
      contributedInstances rec ⊆ profile.instances := by
  cases profile
  rw [Profile.add, Profile.mk.injEq, Finset.union_eq_left, Finset.union_eq_left]

theorem foldl_add_eq_self_iff {profile : Profile} {rs : List ResourceRecordView} :
    rs.foldl Profile.add profile = profile ↔
      settle profile.host (rs.map hostUpdate) = profile.host ∧
      (∀ rec ∈ rs, contributedServiceTypes rec ⊆ profile.serviceTypes) ∧
      ∀ rec ∈ rs, contributedInstances rec ⊆ profile.instances := by
  have hservices : (rs.foldl Profile.add profile).serviceTypes = profile.serviceTypes ↔
      ∀ rec ∈ rs, contributedServiceTypes rec ⊆ profile.serviceTypes := by
    rw [Finset.ext_iff]
    simp only [mem_foldl_add_serviceTypes, or_iff_left_iff_imp]
    constructor
    · exact fun h rec hrec value hvalue => h value ⟨rec, hrec, hvalue⟩
    · rintro h value ⟨rec, hrec, hvalue⟩
      exact h rec hrec hvalue
  have hinstances : (rs.foldl Profile.add profile).instances = profile.instances ↔
      ∀ rec ∈ rs, contributedInstances rec ⊆ profile.instances := by
    rw [Finset.ext_iff]
    simp only [mem_foldl_add_instances, or_iff_left_iff_imp]
    constructor
    · exact fun h rec hrec value hvalue => h value ⟨rec, hrec, hvalue⟩
    · rintro h value ⟨rec, hrec, hvalue⟩
      exact h rec hrec hvalue
  rw [← foldl_add_host, ← hservices, ← hinstances, ← Profile.mk.injEq]

/-- Merging the same records again leaves the profile as it is. -/
theorem foldl_add_idem (profile : Profile) (rs : List ResourceRecordView) :
    rs.foldl Profile.add (rs.foldl Profile.add profile) = rs.foldl Profile.add profile := by
  refine foldl_add_eq_self_iff.mpr ⟨?_, fun rec hrec value hvalue => ?_,
    fun rec hrec value hvalue => ?_⟩
  · rw [foldl_add_host, settle_idem]
  · rw [mem_foldl_add_serviceTypes]
    exact Or.inr ⟨rec, hrec, hvalue⟩
  · rw [mem_foldl_add_instances]
    exact Or.inr ⟨rec, hrec, hvalue⟩

theorem foldl_add_of_forall {profile : Profile} {rs : List ResourceRecordView}
    (h : ∀ rec ∈ rs, profile.add rec = profile) : rs.foldl Profile.add profile = profile := by
  induction rs with
  | nil => rfl
  | cons rec rs ih =>
      obtain ⟨hrec, hrs⟩ := List.forall_mem_cons.mp h
      rw [List.foldl_cons, hrec]
      exact ih hrs

theorem hostUpdate_apply_some_iff {rec : ResourceRecordView} {host : Bytes} :
    (hostUpdate rec).apply (some host) ≠ some host ↔
      isTargeted rec = true ∧ srvTarget rec ≠ host := by
  cases htargeted : isTargeted rec with
  | true => simp [hostUpdate_of_isTargeted htargeted, Update.apply]
  | false =>
      rw [hostUpdate_of_not_isTargeted htargeted]
      split_ifs <;> simp [Update.apply]

theorem lastTarget_ne_none {rs : List ResourceRecordView} {rec : ResourceRecordView}
    (hrec : rec ∈ rs) (htargeted : isTargeted rec = true) : lastTarget rs ≠ none := by
  rw [← lastOverwrite_map_hostUpdate, ne_eq, lastOverwrite_eq_none_iff]
  intro hnone
  exact hnone _ (List.mem_map_of_mem hrec) _ (hostUpdate_of_isTargeted htargeted)

theorem exists_of_lastTarget {rs : List ResourceRecordView} {target : Bytes}
    (h : lastTarget rs = some target) :
    ∃ rec ∈ rs, isTargeted rec = true ∧ srvTarget rec = target := by
  obtain ⟨rec, hrec, rfl⟩ := Option.map_eq_some_iff.mp h
  obtain ⟨hmem, htargeted⟩ := List.mem_filter.mp (List.mem_of_getLast? hrec)
  exact ⟨rec, hmem, htargeted, rfl⟩

/-- Records that change the profile one by one but not together change the host and
bring it back. -/
theorem hostReturns_iff {profile : Profile} {rs : List ResourceRecordView} :
    HostReturns profile rs ↔
      rs.foldl Profile.add profile = profile ∧ ∃ rec ∈ rs, profile.add rec ≠ profile := by
  rw [foldl_add_eq_self_iff]
  constructor
  · rintro ⟨hservices, hinstances, ⟨rec, hrec, htargeted, hother⟩, hknown, hlast⟩
    obtain ⟨host, hhost⟩ := Option.ne_none_iff_exists'.mp hknown
    rw [hhost] at hother
    refine ⟨⟨?_, hservices, hinstances⟩, rec, hrec, fun hsame => ?_⟩
    · rw [settle_eq, lastOverwrite_map_hostUpdate, hlast, hhost]
      rfl
    · have happly := (add_eq_self_iff.mp hsame).1
      rw [hhost] at happly
      exact hostUpdate_apply_some_iff.mpr ⟨htargeted, fun h => hother (congrArg some h)⟩ happly
  · rintro ⟨⟨hhost, hservices, hinstances⟩, rec, hrec, hchange⟩
    have hmoved : (hostUpdate rec).apply profile.host ≠ profile.host := fun happly =>
      hchange (add_eq_self_iff.mpr ⟨happly, hservices rec hrec, hinstances rec hrec⟩)
    cases hknown : profile.host with
    | none =>
        -- the first host of a device is there to stay
        rw [hknown] at hhost hmoved
        exact absurd (apply_none_of_settle hhost _ (List.mem_map_of_mem hrec)) hmoved
    | some host =>
        rw [hknown] at hhost hmoved
        obtain ⟨htargeted, hother⟩ := hostUpdate_apply_some_iff.mp hmoved
        obtain ⟨target, htarget⟩ :=
          Option.ne_none_iff_exists'.mp (lastTarget_ne_none hrec htargeted)
        rw [settle_eq, lastOverwrite_map_hostUpdate, htarget, Option.some_or] at hhost
        refine ⟨hservices, hinstances, ⟨rec, hrec, htargeted, ?_⟩, ?_, ?_⟩
        · rw [hknown]
          exact fun h => hother (Option.some.inj h)
        · simp [hknown]
        · rw [hknown, htarget, hhost]

/-- Once the records are merged, merging one of them alone changes nothing as long as
the targets agree. -/
theorem forall_add_foldl_iff (profile : Profile) (rs : List ResourceRecordView) :
    (∀ rec ∈ rs, (rs.foldl Profile.add profile).add rec = rs.foldl Profile.add profile) ↔
      TargetsAgree rs := by
  have hfixed := foldl_add_eq_self_iff.mp (foldl_add_idem profile rs)
  obtain ⟨hhost, hservices, hinstances⟩ := hfixed
  have hrecord : ∀ rec ∈ rs,
      ((rs.foldl Profile.add profile).add rec = rs.foldl Profile.add profile ↔
        (hostUpdate rec).apply (rs.foldl Profile.add profile).host =
          (rs.foldl Profile.add profile).host) := fun rec hrec => by
    rw [add_eq_self_iff, and_iff_left ⟨hservices rec hrec, hinstances rec hrec⟩]
  rw [forall₂_congr hrecord]
  cases hlast : lastTarget rs with
  | none =>
      -- without a target the host is the same for every record
      refine iff_of_true (fun rec hrec => ?_) fun rec hrec _ _ htargeted => ?_
      · cases hknown : (rs.foldl Profile.add profile).host with
        | none =>
            rw [hknown] at hhost
            exact apply_none_of_settle hhost _ (List.mem_map_of_mem hrec)
        | some host =>
            by_contra hmoved
            obtain ⟨htargeted, -⟩ := hostUpdate_apply_some_iff.mp hmoved
            exact lastTarget_ne_none hrec htargeted hlast
      · exact absurd hlast (lastTarget_ne_none hrec htargeted)
  | some target =>
      have hknown : (rs.foldl Profile.add profile).host = some target := by
        rw [foldl_add_host, settle_eq, lastOverwrite_map_hostUpdate, hlast, Option.some_or]
      obtain ⟨last, hmem, htargeted, rfl⟩ := exists_of_lastTarget hlast
      rw [hknown]
      constructor
      · intro hsame rec hrec rec' hrec' hrecT hrecT'
        have heq : ∀ r ∈ rs, isTargeted r = true → srvTarget r = srvTarget last := by
          intro r hr hrT
          by_contra hne
          exact hostUpdate_apply_some_iff.mpr ⟨hrT, hne⟩ (hsame r hr)
        rw [heq rec hrec hrecT, heq rec' hrec' hrecT']
      · intro hagree rec hrec
        by_contra hmoved
        obtain ⟨hrecT, hne⟩ := hostUpdate_apply_some_iff.mp hmoved
        exact hne (hagree rec hrec last hmem hrecT htargeted)

/-! ## `apply` -/

@[simp] theorem profileAt_applyEvent {devices : Devices} {ev : DiscoveryEvent}
    (hsrc : ev.srcIp ≠ []) :
    profileAt (applyEvent devices ev).1 ev.srcIp =
      ev.records.foldl Profile.add (profileAt devices ev.srcIp) := by
  by_cases hrecs : ev.records = []
  · rw [applyEvent_skip (Or.inr hrecs), hrecs, List.foldl_nil]
  · have hfind : findDevice (applyEvent devices ev).1 ev.srcIp =
        some (mergeRecords (targetSnapshot devices ev) ev).1 := by
      rw [applyEvent_eq hsrc hrecs]
      exact Function.update_self _ _ _
    rw [profileAt, hfind, Option.getD_some, mergeRecords, profile_foldl_mergeRecord,
      targetSnapshot_profile]
    rfl

theorem applyEvent_snd {devices : Devices} {ev : DiscoveryEvent} (hsrc : ev.srcIp ≠ []) :
    (applyEvent devices ev).2 = true ↔
      ∃ rec ∈ ev.records, (profileAt devices ev.srcIp).add rec ≠ profileAt devices ev.srcIp := by
  by_cases hrecs : ev.records = []
  · rw [applyEvent_skip (Or.inr hrecs), hrecs]
    simp
  · rw [applyEvent_eq hsrc hrecs, mergeRecords, foldl_mergeRecord_snd, targetSnapshot_profile]
    simp [profileAt, findDevice]

/-- **The answer is exact unless the host returns.** -/
theorem flagExact_iff_not_hostReturns {devices : Devices} {ev : DiscoveryEvent}
    (hsrc : ev.srcIp ≠ []) :
    FlagExact devices ev ↔ ¬ HostReturns (profileAt devices ev.srcIp) ev.records := by
  rw [FlagExact, applyEvent_snd hsrc, profileAt_applyEvent hsrc, hostReturns_iff]
  constructor
  · rintro hexact ⟨hsame, hchange⟩
    exact hexact.mp hchange hsame
  · intro hnot
    constructor
    · exact fun hchange hsame => hnot ⟨hsame, hchange⟩
    · intro hne
      by_contra hnone
      push Not at hnone
      exact hne (foldl_add_of_forall hnone)

theorem secondTimeQuiet_iff_targetsAgree {devices : Devices} {ev : DiscoveryEvent}
    (hsrc : ev.srcIp ≠ []) : SecondTimeQuiet devices ev ↔ TargetsAgree ev.records := by
  have hflag : (applyEvent (applyEvent devices ev).1 ev).2 = false ↔ TargetsAgree ev.records := by
    rw [← Bool.not_eq_true, applyEvent_snd hsrc, profileAt_applyEvent hsrc,
      ← forall_add_foldl_iff (profileAt devices ev.srcIp)]
    push Not
    rfl
  rw [SecondTimeQuiet, hflag, profileAt_applyEvent hsrc, profileAt_applyEvent hsrc,
    and_iff_left (foldl_add_idem _ _)]

/-- An event that is skipped answers `false` and changes nothing. -/
theorem flagExact_of_skip (devices : Devices) {ev : DiscoveryEvent} (hsrc : ev.srcIp = []) :
    FlagExact devices ev ∧ SecondTimeQuiet devices ev := by
  rw [FlagExact, SecondTimeQuiet, applyEvent_skip (Or.inl hsrc)]
  dsimp only
  rw [applyEvent_skip (Or.inl hsrc)]
  simp

/-- **When `apply` answers whether the profile has changed.**  For every state and event
it does, the second time with `false`, exactly if the SRV targets of the event agree.
The first answer alone is right exactly if the host does not come back within the
event. -/
theorem applyEvent_exact_iff (devices : Devices) (ev : DiscoveryEvent) :
    (FlagExact devices ev ∧ SecondTimeQuiet devices ev ↔
      ev.srcIp = [] ∨ TargetsAgree ev.records) ∧
    (FlagExact devices ev ↔
      ev.srcIp = [] ∨ ¬ HostReturns (profileAt devices ev.srcIp) ev.records) := by
  by_cases hsrc : ev.srcIp = []
  · have hskip := flagExact_of_skip devices hsrc
    exact ⟨iff_of_true hskip (Or.inl hsrc), iff_of_true hskip.1 (Or.inl hsrc)⟩
  · rw [or_iff_right hsrc, or_iff_right hsrc, secondTimeQuiet_iff_targetsAgree hsrc,
      flagExact_iff_not_hostReturns hsrc]
    refine ⟨and_iff_right_of_imp fun hagree hreturns => ?_, Iff.rfl⟩
    -- a host that returns takes two targets
    obtain ⟨rec, hrec, htargeted, hother⟩ := hreturns.other
    obtain ⟨host, hhost⟩ := Option.ne_none_iff_exists'.mp hreturns.last.1
    obtain ⟨last, hmem, hlast, rfl⟩ := exists_of_lastTarget (hreturns.last.2.trans hhost)
    rw [hhost] at hother
    exact hother (congrArg some (hagree rec hrec last hmem htargeted hlast))

/-- A device known as `a.local` that is announced as `b.local` and again as `a.local` in
one event. -/
def hostAndBack : DiscoveryEvent :=
  { srvTo "b.local" 2000 with
    records := (srvTo "b.local" 2000).records ++ (srvTo "a.local" 2000).records }

/-- The registry answers that the profile has changed although it has not, however often
the event is applied. -/
theorem hostAndBack_reported :
    ¬ FlagExact (plainRegistry [srvTo "a.local" 1000]) hostAndBack ∧
      ¬ SecondTimeQuiet (plainRegistry [srvTo "a.local" 1000]) hostAndBack := by
  decide +kernel

end Scanner
end LanDiscovery

import LanDiscovery.Scanner.DeviceRegistry
import Mathlib.Data.Finset.Lattice.Fold
import Mathlib.Data.Finset.Union
import Mathlib.Order.Lattice.Nat

/-!
# The snapshot of a source in closed form

What `find` answers after a sequence of events is a function of the records that
were applied for the source.  The sets are unions over these records, so neither the
order of the records nor how often or in which events they came matters; the host is
the last SRV target or else the owner of the first address record; the time is the
latest one observed.
-/

namespace LanDiscovery
namespace Scanner

open Library Library.Utf8 Library.Preference MdnsNames

/-! ## The specification -/

/-- The events that are applied for a source. -/
def appliedEvents (srcIp : Bytes) (evs : List DiscoveryEvent) : List DiscoveryEvent :=
  evs.filter fun ev => ev.srcIp = srcIp ∧ ev.records ≠ []

/-- The records that are applied for a source. -/
def appliedRecords (srcIp : Bytes) (evs : List DiscoveryEvent) : List ResourceRecordView :=
  (appliedEvents srcIp evs).flatMap fun ev => ev.records

/-- An SRV record with a target. -/
def isTargeted (rec : ResourceRecordView) : Bool :=
  rec.type = typeSrv ∧ srvTarget rec ≠ []

/-- The target of the last SRV record that has one. -/
def lastTarget (rs : List ResourceRecordView) : Option Bytes :=
  (rs.filter isTargeted).getLast?.map srvTarget

/-- The owner of the first address record under `.local`. -/
def firstLocalOwner (rs : List ResourceRecordView) : Option Bytes :=
  (rs.find? fun rec => rec.type = typeA ∧ endsWith rec.ownerName localSuffix).map
    ResourceRecordView.ownerName

/-- The snapshot says what the records say. -/
structure Summarizes (srcIp : Bytes) (rs : List ResourceRecordView) (snap : DeviceSnapshot) :
    Prop where
  srcIp : snap.srcIp = srcIp
  lastSeenMs : snap.lastSeenMs.toNat = rs.toFinset.sup fun rec => rec.observedAtMs.toNat
  mdnsHost : snap.mdnsHost = ((lastTarget rs).or (firstLocalOwner rs)).getD []
  serviceTypes : snap.serviceTypes = rs.toFinset.biUnion contributedServiceTypes
  instances : snap.instances = rs.toFinset.biUnion contributedInstances

/-- There is one such snapshot. -/
theorem Summarizes.unique {srcIp : Bytes} {rs : List ResourceRecordView}
    {snap snap' : DeviceSnapshot} (h : Summarizes srcIp rs snap) (h' : Summarizes srcIp rs snap') :
    snap = snap' := by
  have hseen : snap.lastSeenMs = snap'.lastSeenMs :=
    UInt64.toNat_inj.mp (h.lastSeenMs.trans h'.lastSeenMs.symm)
  cases snap
  cases snap'
  rw [DeviceSnapshot.mk.injEq]
  exact ⟨h.srcIp.trans h'.srcIp.symm, hseen, h.mdnsHost.trans h'.mdnsHost.symm,
    h.serviceTypes.trans h'.serviceTypes.symm, h.instances.trans h'.instances.symm⟩

/-! ## The host -/

theorem hostUpdate_of_isTargeted {rec : ResourceRecordView} (h : isTargeted rec = true) :
    hostUpdate rec = .overwrite (srvTarget rec) := by
  obtain ⟨htype, htarget⟩ : rec.type = typeSrv ∧ srvTarget rec ≠ [] := by
    simpa [isTargeted] using h
  have hlabel := hostLabel_of_srv htype
  rw [hostUpdate, hlabel, if_pos ⟨htype, htarget⟩]

theorem hostUpdate_of_not_isTargeted {rec : ResourceRecordView} (h : isTargeted rec = false) :
    hostUpdate rec =
      if rec.type = typeA ∧ endsWith rec.ownerName localSuffix = true then .fill rec.ownerName
      else .keep := by
  rw [hostUpdate, if_neg]
  rintro ⟨htype, hlabel⟩
  rw [hostLabel_of_srv htype] at hlabel
  simp [isTargeted, htype, hlabel] at h

theorem lastOverwrite_map_hostUpdate (rs : List ResourceRecordView) :
    lastOverwrite (rs.map hostUpdate) = lastTarget rs := by
  induction rs with
  | nil => rfl
  | cons rec rs ih =>
      rw [List.map_cons, lastTarget]
      cases htargeted : isTargeted rec with
      | true =>
          rw [hostUpdate_of_isTargeted htargeted, lastOverwrite, ih,
            List.filter_cons_of_pos htargeted, List.getLast?_cons, lastTarget]
          cases (rs.filter isTargeted).getLast? <;> rfl
      | false =>
          have hskip : lastOverwrite (hostUpdate rec :: rs.map hostUpdate) =
              lastOverwrite (rs.map hostUpdate) := by
            rw [hostUpdate_of_not_isTargeted htargeted]
            split_ifs <;> rfl
          rw [hskip, ih, List.filter_cons_of_neg (by simp [htargeted])]
          rfl

theorem firstFill_map_hostUpdate (rs : List ResourceRecordView) :
    firstFill (rs.map hostUpdate) = firstLocalOwner rs := by
  induction rs with
  | nil => rfl
  | cons rec rs ih =>
      rw [List.map_cons, firstFill_cons, ih, firstLocalOwner, firstLocalOwner, List.find?_cons]
      cases htargeted : isTargeted rec with
      | true =>
          -- an SRV record is no address record
          have htype : rec.type = typeSrv := by
            have h : rec.type = typeSrv ∧ srvTarget rec ≠ [] := by simpa [isTargeted] using htargeted
            exact h.1
          rw [hostUpdate_of_isTargeted htargeted]
          simp [htype, typeSrv, typeA, Update.fallback]
      | false =>
          rw [hostUpdate_of_not_isTargeted htargeted]
          by_cases hlocal : rec.type = typeA ∧ endsWith rec.ownerName localSuffix = true
          · simp [hlocal, Update.fallback]
          · rw [if_neg hlocal]
            have hguard : decide (rec.type = typeA ∧
                endsWith rec.ownerName localSuffix = true) = false := decide_eq_false hlocal
            simp only [hguard, Update.fallback, Option.none_or]

/-! ## The address and the time -/

@[simp] theorem mergeHost_srcIp (acc : DeviceSnapshot × Bool) (rec : ResourceRecordView) :
    (mergeHost acc rec).1.srcIp = acc.1.srcIp := by
  unfold mergeHost
  dsimp only
  split_ifs <;> rfl

@[simp] theorem mergeHost_lastSeenMs (acc : DeviceSnapshot × Bool) (rec : ResourceRecordView) :
    (mergeHost acc rec).1.lastSeenMs = acc.1.lastSeenMs := by
  unfold mergeHost
  dsimp only
  split_ifs <;> rfl

@[simp] theorem mergeRecord_srcIp (acc : DeviceSnapshot × Bool) (rec : ResourceRecordView) :
    (mergeRecord acc rec).1.srcIp = acc.1.srcIp := by
  unfold mergeRecord
  dsimp only
  rw [mergeHost_srcIp]
  split_ifs <;> rfl

@[simp] theorem mergeRecord_lastSeenMs (acc : DeviceSnapshot × Bool) (rec : ResourceRecordView) :
    (mergeRecord acc rec).1.lastSeenMs.toNat =
      max acc.1.lastSeenMs.toNat rec.observedAtMs.toNat := by
  have hmerge : (mergeRecord acc rec).1.lastSeenMs =
      if rec.observedAtMs > acc.1.lastSeenMs then rec.observedAtMs else acc.1.lastSeenMs := by
    unfold mergeRecord
    dsimp only
    rw [mergeHost_lastSeenMs]
    split_ifs <;> rfl
  rw [hmerge]
  split_ifs with hlater
  · rw [gt_iff_lt, UInt64.lt_iff_toNat_lt] at hlater
    omega
  · rw [gt_iff_lt, UInt64.lt_iff_toNat_lt] at hlater
    omega

@[simp] theorem foldl_mergeRecord_srcIp (acc : DeviceSnapshot × Bool)
    (rs : List ResourceRecordView) :
    (rs.foldl mergeRecord acc).1.srcIp = acc.1.srcIp := by
  induction rs generalizing acc with
  | nil => rfl
  | cons rec rs ih => rw [List.foldl_cons, ih, mergeRecord_srcIp]

@[simp] theorem foldl_mergeRecord_lastSeenMs (acc : DeviceSnapshot × Bool)
    (rs : List ResourceRecordView) :
    (rs.foldl mergeRecord acc).1.lastSeenMs.toNat =
      max acc.1.lastSeenMs.toNat (rs.toFinset.sup fun rec => rec.observedAtMs.toNat) := by
  induction rs generalizing acc with
  | nil => simp
  | cons rec rs ih =>
      rw [List.foldl_cons, ih, mergeRecord_lastSeenMs, List.toFinset_cons, Finset.sup_insert,
        max_assoc]

/-! ## One event -/

/-- The snapshot that the records of an event are merged into. -/
def targetSnapshot (devices : Devices) (ev : DiscoveryEvent) : DeviceSnapshot :=
  let snap := (devices ev.srcIp).getD .empty
  if snap.srcIp.isEmpty then { snap with srcIp := ev.srcIp } else snap

/-- An event without an address or without records changes nothing. -/
@[simp] theorem applyEvent_skip {devices : Devices} {ev : DiscoveryEvent}
    (h : ev.srcIp = [] ∨ ev.records = []) : applyEvent devices ev = (devices, false) := by
  rw [applyEvent, if_pos]
  rcases h with h | h <;> simp [h]

theorem applyEvent_eq {devices : Devices} {ev : DiscoveryEvent} (hsrc : ev.srcIp ≠ [])
    (hrecs : ev.records ≠ []) :
    applyEvent devices ev =
      (Function.update devices ev.srcIp (some (mergeRecords (targetSnapshot devices ev) ev).1),
        (mergeRecords (targetSnapshot devices ev) ev).2) := by
  rw [applyEvent, if_neg]
  · rfl
  · simp [hsrc, hrecs]

@[simp] theorem targetSnapshot_profile (devices : Devices) (ev : DiscoveryEvent) :
    (targetSnapshot devices ev).profile = ((devices ev.srcIp).getD .empty).profile := by
  unfold targetSnapshot
  dsimp only
  split_ifs <;> rfl

@[simp] theorem targetSnapshot_lastSeenMs (devices : Devices) (ev : DiscoveryEvent) :
    (targetSnapshot devices ev).lastSeenMs = ((devices ev.srcIp).getD .empty).lastSeenMs := by
  unfold targetSnapshot
  dsimp only
  split_ifs <;> rfl

/-- The address and the time of the snapshot of a source after its records; as long as
there is none, the time is zero. -/
structure Stamped (devices : Devices) (srcIp : Bytes) (rs : List ResourceRecordView) : Prop where
  address : ∀ snap ∈ findDevice devices srcIp, snap.srcIp = srcIp
  time : srcIp ≠ [] →
    ((findDevice devices srcIp).getD .empty).lastSeenMs.toNat =
      rs.toFinset.sup fun rec => rec.observedAtMs.toNat

theorem Stamped.targetSnapshot_srcIp {devices : Devices} {ev : DiscoveryEvent}
    {rs : List ResourceRecordView} (h : Stamped devices ev.srcIp rs) :
    (targetSnapshot devices ev).srcIp = ev.srcIp := by
  unfold targetSnapshot
  cases hfind : devices ev.srcIp with
  | none => simp [DeviceSnapshot.empty]
  | some snap =>
      have hsrc := h.address snap hfind
      dsimp only [Option.getD_some]
      split_ifs
      · rfl
      · exact hsrc

/-- One call of `apply` on its own source. -/
theorem Stamped.applyEvent {devices : Devices} {ev : DiscoveryEvent}
    {rs : List ResourceRecordView} (h : Stamped devices ev.srcIp rs) :
    Stamped (applyEvent devices ev).1 ev.srcIp (rs ++ ev.records) := by
  by_cases hskip : ev.srcIp = [] ∨ ev.records = []
  · rw [applyEvent_skip hskip]
    rcases hskip with hsrc | hrecs
    · exact ⟨h.address, fun hne => absurd hsrc hne⟩
    · rw [hrecs, List.append_nil]
      exact h
  · obtain ⟨hsrc, hrecs⟩ := not_or.mp hskip
    have hfind : findDevice (Scanner.applyEvent devices ev).1 ev.srcIp =
        some (mergeRecords (targetSnapshot devices ev) ev).1 := by
      rw [applyEvent_eq hsrc hrecs]
      exact Function.update_self _ _ _
    refine ⟨fun snap hsnap => ?_, fun _ => ?_⟩
    · rw [hfind, Option.mem_some_iff] at hsnap
      rw [← hsnap, mergeRecords, foldl_mergeRecord_srcIp]
      exact h.targetSnapshot_srcIp
    · have htime := h.time hsrc
      rw [findDevice] at htime
      rw [hfind, Option.getD_some, mergeRecords, foldl_mergeRecord_lastSeenMs,
        targetSnapshot_lastSeenMs, htime, List.toFinset_append, Finset.sup_union]

/-- A call of `apply` for another source. -/
theorem findDevice_applyEvent_of_ne (devices : Devices) {ev : DiscoveryEvent} {srcIp : Bytes}
    (h : ev.srcIp ≠ srcIp) :
    findDevice (applyEvent devices ev).1 srcIp = findDevice devices srcIp := by
  by_cases hskip : ev.srcIp = [] ∨ ev.records = []
  · rw [applyEvent_skip hskip]
  · obtain ⟨hsrc, hrecs⟩ := not_or.mp hskip
    rw [applyEvent_eq hsrc hrecs]
    exact Function.update_of_ne (Ne.symm h) _ _

/-! ## Whole runs -/

theorem stamped_registryRun (srcIp : Bytes) (evs : List DiscoveryEvent) {devices : Devices}
    {rs : List ResourceRecordView} (h : Stamped devices srcIp rs) :
    Stamped (registryRun devices evs) srcIp (rs ++ recordsOf srcIp (emittedRecords evs)) := by
  induction evs generalizing devices rs with
  | nil => simpa [registryRun, emittedRecords, recordsOf] using h
  | cons ev evs ih =>
      have hrecords : recordsOf srcIp (emittedRecords (ev :: evs)) =
          recordsOf srcIp (eventRecords ev) ++ recordsOf srcIp (emittedRecords evs) :=
        recordsOf_append srcIp (eventRecords ev) (emittedRecords evs)
      rw [hrecords, recordsOf_eventRecords, ← List.append_assoc]
      refine ih ?_
      split_ifs with hsrc
      · subst hsrc
        exact h.applyEvent
      · rw [List.append_nil]
        have hsame := findDevice_applyEvent_of_ne devices hsrc
        exact ⟨hsame ▸ h.address, hsame ▸ h.time⟩

theorem stamped_empty (srcIp : Bytes) : Stamped (fun _ => none) srcIp [] := by
  refine ⟨fun snap hsnap => ?_, fun _ => rfl⟩
  cases hsnap

theorem recordsOf_emittedRecords (srcIp : Bytes) (evs : List DiscoveryEvent) :
    recordsOf srcIp (emittedRecords evs) = appliedRecords srcIp evs := by
  induction evs with
  | nil => rfl
  | cons ev evs ih =>
      have hrecords : recordsOf srcIp (emittedRecords (ev :: evs)) =
          recordsOf srcIp (eventRecords ev) ++ recordsOf srcIp (emittedRecords evs) :=
        recordsOf_append srcIp (eventRecords ev) (emittedRecords evs)
      rw [hrecords, recordsOf_eventRecords, ih, appliedRecords, appliedRecords, appliedEvents,
        appliedEvents]
      by_cases happlied : ev.srcIp = srcIp ∧ ev.records ≠ []
      · rw [List.filter_cons_of_pos (by simpa using happlied), if_pos happlied.1,
          List.flatMap_cons]
      · rw [List.filter_cons_of_neg (by simpa using happlied)]
        split_ifs with hsrc
        · have hnil : ev.records = [] := by
            by_contra hne
            exact happlied ⟨hsrc, hne⟩
          rw [hnil, List.nil_append]
        · exact List.nil_append _

/-- The sets of a profile are unions over the records. -/
theorem ofRecords_serviceTypes (rs : List ResourceRecordView) :
    (Profile.ofRecords rs).serviceTypes = rs.toFinset.biUnion contributedServiceTypes := by
  ext value
  rw [mem_ofRecords_serviceTypes, Finset.mem_biUnion]
  simp only [List.mem_toFinset]

theorem ofRecords_instances (rs : List ResourceRecordView) :
    (Profile.ofRecords rs).instances = rs.toFinset.biUnion contributedInstances := by
  ext value
  rw [mem_ofRecords_instances, Finset.mem_biUnion]
  simp only [List.mem_toFinset]

@[simp] theorem getD_present (s : Bytes) : (present s).getD [] = s := by
  cases s <;> rfl

/-- A source with records has a snapshot, which says what they say. -/
theorem exists_summarizes {evs : List DiscoveryEvent} {srcIp : Bytes} (hsrc : srcIp ≠ [])
    (hrecs : appliedRecords srcIp evs ≠ []) :
    ∃ snap, findDevice (plainRegistry evs) srcIp = some snap ∧
      Summarizes srcIp (appliedRecords srcIp evs) snap := by
  have hprofile := represents_registryRun represents_empty evs srcIp
  have hstamped := stamped_registryRun srcIp evs (stamped_empty srcIp)
  rw [List.nil_append, recordsOf_emittedRecords] at hprofile hstamped
  rw [if_neg (not_or.mpr ⟨hsrc, hrecs⟩)] at hprofile
  obtain ⟨snap, hfind, hprofile⟩ := Option.map_eq_some_iff.mp hprofile
  have htime := hstamped.time hsrc
  rw [hfind, Option.getD_some] at htime
  refine ⟨snap, hfind, hstamped.address snap hfind, htime, ?_, ?_, ?_⟩
  · have hhost : present snap.mdnsHost = (Profile.ofRecords (appliedRecords srcIp evs)).host :=
      congrArg Profile.host hprofile
    rw [Profile.ofRecords, foldl_add_host, settle_eq, lastOverwrite_map_hostUpdate,
      firstFill_map_hostUpdate, Option.none_or] at hhost
    rw [← getD_present snap.mdnsHost, hhost]
  · exact (congrArg Profile.serviceTypes hprofile).trans (ofRecords_serviceTypes _)
  · exact (congrArg Profile.instances hprofile).trans (ofRecords_instances _)

theorem findDevice_eq_none {evs : List DiscoveryEvent} {srcIp : Bytes}
    (h : srcIp = [] ∨ appliedRecords srcIp evs = []) :
    findDevice (plainRegistry evs) srcIp = none := by
  have hprofile := represents_registryRun represents_empty evs srcIp
  rw [List.nil_append, recordsOf_emittedRecords, if_pos h, Option.map_eq_none_iff] at hprofile
  exact hprofile

/-- **Closed form of the registry.**  After any sequence of events a source has a
snapshot exactly if records were applied for it, and the snapshot says what they say.
Events of other sources and events without records make no difference, and the sets
are the same for any two sequences with the same records. -/
theorem findDevice_closedForm (evs : List DiscoveryEvent) (srcIp : Bytes) :
    (srcIp = [] ∨ appliedRecords srcIp evs = [] → findDevice (plainRegistry evs) srcIp = none) ∧
    (srcIp ≠ [] → appliedRecords srcIp evs ≠ [] →
      ∃ snap, findDevice (plainRegistry evs) srcIp = some snap ∧
        Summarizes srcIp (appliedRecords srcIp evs) snap) ∧
    (∀ evs', appliedEvents srcIp evs' = appliedEvents srcIp evs →
      findDevice (plainRegistry evs') srcIp = findDevice (plainRegistry evs) srcIp) ∧
    (∀ evs', (∀ rec, rec ∈ appliedRecords srcIp evs' ↔ rec ∈ appliedRecords srcIp evs) →
      (findDevice (plainRegistry evs') srcIp).map DeviceSnapshot.serviceTypes =
          (findDevice (plainRegistry evs) srcIp).map DeviceSnapshot.serviceTypes ∧
        (findDevice (plainRegistry evs') srcIp).map DeviceSnapshot.instances =
          (findDevice (plainRegistry evs) srcIp).map DeviceSnapshot.instances) := by
  refine ⟨findDevice_eq_none, exists_summarizes, fun evs' hevents => ?_, fun evs' hrecords => ?_⟩
  · have hrecords : appliedRecords srcIp evs' = appliedRecords srcIp evs := by
      rw [appliedRecords, appliedRecords, hevents]
    by_cases hnone : srcIp = [] ∨ appliedRecords srcIp evs = []
    · have hnone' : srcIp = [] ∨ appliedRecords srcIp evs' = [] := hrecords ▸ hnone
      rw [findDevice_eq_none hnone, findDevice_eq_none hnone']
    · -- both snapshots summarize the same records, which settles every field
      obtain ⟨hsrc, hrecs⟩ := not_or.mp hnone
      obtain ⟨snap, hfind, hsnap⟩ := exists_summarizes hsrc hrecs
      have hrecs' : appliedRecords srcIp evs' ≠ [] := hrecords ▸ hrecs
      obtain ⟨snap', hfind', hsnap'⟩ := exists_summarizes hsrc hrecs'
      rw [hrecords] at hsnap'
      rw [hfind, hfind', hsnap'.unique hsnap]
  · have hset : (appliedRecords srcIp evs').toFinset = (appliedRecords srcIp evs).toFinset := by
      ext rec
      rw [List.mem_toFinset, List.mem_toFinset]
      exact hrecords rec
    have hnil : appliedRecords srcIp evs' = [] ↔ appliedRecords srcIp evs = [] := by
      rw [← List.toFinset_eq_empty_iff, ← List.toFinset_eq_empty_iff, hset]
    by_cases hnone : srcIp = [] ∨ appliedRecords srcIp evs = []
    · rw [findDevice_eq_none hnone, findDevice_eq_none (hnone.imp_right hnil.mpr)]
      exact ⟨rfl, rfl⟩
    · obtain ⟨hsrc, hrecs⟩ := not_or.mp hnone
      obtain ⟨snap, hfind, hsnap⟩ := exists_summarizes hsrc hrecs
      obtain ⟨snap', hfind', hsnap'⟩ := exists_summarizes hsrc fun h => hrecs (hnil.mp h)
      rw [hfind, hfind', Option.map_some, Option.map_some, Option.map_some, Option.map_some,
        hsnap.serviceTypes, hsnap'.serviceTypes, hsnap.instances, hsnap'.instances, hset]
      exact ⟨rfl, rfl⟩

end Scanner
end LanDiscovery

import LanDiscovery.Library.Preference
import LanDiscovery.Scanner.DeviceStateStore

/-!
# The device registry

`DeviceRegistry`: one snapshot for each source address, merged record by record.

What a record contributes to a profile depends on its owner, type and text only:
service types, instances and an update of the host, where an SRV target
overwrites and the owner of an address record fills in.  The profile of a source
is a function of the records that were applied for it (`represents_registryRun`).
Behind the change filter the registry sees the first record of every store key
only.  As long as no keys collide, the host is the only place where something can be
lost, and nothing is exactly when the SRV target seen last is the one introduced last
(`sameProfiles_iff_lastTargets`).
-/

namespace LanDiscovery
namespace Scanner

open Library Library.Utf8 Library.FirstSeen Library.Preference MdnsNames

/-- `DeviceSnapshot`. -/
structure DeviceSnapshot where
  srcIp : Bytes
  lastSeenMs : UInt64
  mdnsHost : Bytes
  serviceTypes : Finset Bytes
  instances : Finset Bytes
  deriving DecidableEq

/-- A default-constructed `DeviceSnapshot`. -/
def DeviceSnapshot.empty : DeviceSnapshot where
  srcIp := []
  lastSeenMs := 0
  mdnsHost := []
  serviceTypes := ∅
  instances := ∅

/-- The map `devices_`. -/
abbrev Devices := Bytes → Option DeviceSnapshot

/-- `insert_if_new`: the set afterwards and whether it has grown. -/
def insertIfNew (set : Finset Bytes) (value : Bytes) : Finset Bytes × Bool :=
  if value.isEmpty then (set, false)
  else (insert value set, value ∉ set)

/-- `insert_if_new(snap.service_types, value)` with the flag `profile_changed`. -/
def insertServiceType (acc : DeviceSnapshot × Bool) (value : Bytes) : DeviceSnapshot × Bool :=
  let inserted := insertIfNew acc.1.serviceTypes value
  ({ acc.1 with serviceTypes := inserted.1 }, acc.2 || inserted.2)

/-- `insert_if_new(snap.instances, value)` with the flag `profile_changed`. -/
def insertInstance (acc : DeviceSnapshot × Bool) (value : Bytes) : DeviceSnapshot × Bool :=
  let inserted := insertIfNew acc.1.instances value
  ({ acc.1 with instances := inserted.1 }, acc.2 || inserted.2)

/-- `add_service_type`. -/
def addServiceType (acc : DeviceSnapshot × Bool) (name : Bytes) : DeviceSnapshot × Bool :=
  insertServiceType acc (serviceTypeFromName name)

/-- A pointer from the DNS-SD meta service to a service type. -/
def isMetaPointer (rec : ResourceRecordView) : Bool :=
  rec.ownerName == kDnsSdMetaService && rec.type = typePtr && isServiceTypeName rec.rdataText

/-- A pointer from a service type to an instance. -/
def isInstancePointer (rec : ResourceRecordView) : Bool :=
  isServiceTypeName rec.ownerName && rec.type = typePtr && isInstanceName rec.rdataText

/-- The host part of the loop body of `merge_records`. -/
def mergeHost (acc : DeviceSnapshot × Bool) (rec : ResourceRecordView) :
    DeviceSnapshot × Bool :=
  let host := hostLabel rec
  if !host.isEmpty && rec.type = typeSrv then
    if acc.1.mdnsHost ≠ host then ({ acc.1 with mdnsHost := host }, true) else acc
  else if rec.type = typeA && endsWith rec.ownerName localSuffix && acc.1.mdnsHost.isEmpty then
    ({ acc.1 with mdnsHost := rec.ownerName }, true)
  else acc

/-- The loop body of `merge_records`. -/
def mergeRecord (acc : DeviceSnapshot × Bool) (rec : ResourceRecordView) :
    DeviceSnapshot × Bool :=
  let acc :=
    if rec.observedAtMs > acc.1.lastSeenMs then
      ({ acc.1 with lastSeenMs := rec.observedAtMs }, acc.2)
    else acc
  let acc := if isMetaPointer rec then insertServiceType acc rec.rdataText else acc
  let acc :=
    if isInstancePointer rec then addServiceType (insertInstance acc rec.rdataText) rec.rdataText
    else acc
  let acc :=
    if rec.type = typeSrv ∨ rec.type = typeTxt then addServiceType acc rec.ownerName else acc
  mergeHost acc rec

/-- `DeviceRegistry::merge_records`: the snapshot and `profile_changed`. -/
def mergeRecords (snap : DeviceSnapshot) (ev : DiscoveryEvent) : DeviceSnapshot × Bool :=
  ev.records.foldl mergeRecord (snap, false)

/-- `DeviceRegistry::apply`. -/
def applyEvent (devices : Devices) (ev : DiscoveryEvent) : Devices × Bool :=
  if ev.srcIp.isEmpty || ev.records.isEmpty then (devices, false)
  else
    let snap := (devices ev.srcIp).getD .empty
    let snap := if snap.srcIp.isEmpty then { snap with srcIp := ev.srcIp } else snap
    let merged := mergeRecords snap ev
    (Function.update devices ev.srcIp (some merged.1), merged.2)

/-- `DeviceRegistry::find`. -/
def findDevice (devices : Devices) (srcIp : Bytes) : Option DeviceSnapshot :=
  devices srcIp

/-- A registry to which a sequence of events is applied. -/
def registryRun (devices : Devices) (evs : List DiscoveryEvent) : Devices :=
  evs.foldl (fun devices ev => (applyEvent devices ev).1) devices

/-! ## What a record contributes -/

/-- The value as a set, if it is not the empty string. -/
def nonemptySingleton (value : Bytes) : Finset Bytes :=
  if value.isEmpty then ∅ else {value}

/-- The service types a record contributes. -/
def contributedServiceTypes (rec : ResourceRecordView) : Finset Bytes :=
  (if isMetaPointer rec then nonemptySingleton rec.rdataText else ∅) ∪
  (if isInstancePointer rec then nonemptySingleton (serviceTypeFromName rec.rdataText) else ∅) ∪
  (if rec.type = typeSrv ∨ rec.type = typeTxt then
    nonemptySingleton (serviceTypeFromName rec.ownerName) else ∅)

/-- The instances a record contributes. -/
def contributedInstances (rec : ResourceRecordView) : Finset Bytes :=
  if isInstancePointer rec then nonemptySingleton rec.rdataText else ∅

/-- What a record does to the host: an SRV target overwrites, the owner of an
address record fills in. -/
def hostUpdate (rec : ResourceRecordView) : Update Bytes :=
  if rec.type = typeSrv ∧ hostLabel rec ≠ [] then .overwrite (hostLabel rec)
  else if rec.type = typeA ∧ endsWith rec.ownerName localSuffix = true then .fill rec.ownerName
  else .keep

/-- A string that stands for its absence when it is empty. -/
def present (s : Bytes) : Option Bytes :=
  if s.isEmpty then none else some s

@[simp] theorem present_nil : present [] = none := rfl

@[simp] theorem present_of_ne_nil {s : Bytes} (h : s ≠ []) : present s = some s := by
  simp [present, h]

@[simp] theorem present_inj {s t : Bytes} : present s = present t ↔ s = t := by
  cases s <;> cases t <;> simp [present]

@[simp] theorem insertIfNew_fst (set : Finset Bytes) (value : Bytes) :
    (insertIfNew set value).1 = set ∪ nonemptySingleton value := by
  unfold insertIfNew nonemptySingleton
  split
  · simp
  · rw [Finset.union_comm, Finset.insert_eq]

@[simp] theorem mergeHost_serviceTypes (acc : DeviceSnapshot × Bool) (rec : ResourceRecordView) :
    (mergeHost acc rec).1.serviceTypes = acc.1.serviceTypes := by
  unfold mergeHost
  dsimp only
  split_ifs <;> rfl

@[simp] theorem mergeHost_instances (acc : DeviceSnapshot × Bool) (rec : ResourceRecordView) :
    (mergeHost acc rec).1.instances = acc.1.instances := by
  unfold mergeHost
  dsimp only
  split_ifs <;> rfl

/-- The host code of the registry is the preference between SRV and A. -/
theorem present_mergeHost (acc : DeviceSnapshot × Bool) (rec : ResourceRecordView) :
    present (mergeHost acc rec).1.mdnsHost = (hostUpdate rec).apply (present acc.1.mdnsHost) := by
  unfold mergeHost hostUpdate
  -- the two guards of the source, each against the case of the update
  by_cases hsrv : rec.type = typeSrv ∧ hostLabel rec ≠ []
  · have hguard : (!(hostLabel rec).isEmpty && decide (rec.type = typeSrv)) = true := by
      simp [hsrv.1, hsrv.2]
    rw [if_pos hsrv]
    simp only [hguard, if_true]
    split
    · simp [present_of_ne_nil hsrv.2, Update.apply]
    · next hsame =>
        rw [not_ne_iff] at hsame
        simp [hsame, present_of_ne_nil hsrv.2, Update.apply]
  · have hguard : (!(hostLabel rec).isEmpty && decide (rec.type = typeSrv)) = false := by
      by_cases htype : rec.type = typeSrv
      · have hlabel : hostLabel rec = [] := by
          by_contra hne
          exact hsrv ⟨htype, hne⟩
        simp [hlabel]
      · simp [htype]
    rw [if_neg hsrv]
    simp only [hguard, Bool.false_eq_true, if_false]
    by_cases ha : rec.type = typeA ∧ endsWith rec.ownerName localSuffix = true
    · rw [if_pos ha]
      by_cases hempty : acc.1.mdnsHost = []
      · simp [ha.1, ha.2, hempty, present_of_ne_nil (ne_nil_of_endsWith_local ha.2),
          Update.apply]
      · simp [hempty, Update.apply]
    · rw [if_neg ha]
      have hguardA : (decide (rec.type = typeA) && endsWith rec.ownerName localSuffix &&
          acc.1.mdnsHost.isEmpty) = false := by
        by_cases htype : rec.type = typeA
        · have hlocal : endsWith rec.ownerName localSuffix = false := by
            simpa [htype] using ha
          simp [hlocal]
        · simp [htype]
      simp only [hguardA, Bool.false_eq_true, if_false]
      cases present acc.1.mdnsHost <;> rfl

@[simp] theorem mergeRecord_serviceTypes (acc : DeviceSnapshot × Bool) (rec : ResourceRecordView) :
    (mergeRecord acc rec).1.serviceTypes =
      acc.1.serviceTypes ∪ contributedServiceTypes rec := by
  unfold mergeRecord contributedServiceTypes
  dsimp only
  rw [mergeHost_serviceTypes]
  split_ifs <;> simp [addServiceType, insertServiceType, insertInstance]

@[simp] theorem mergeRecord_instances (acc : DeviceSnapshot × Bool) (rec : ResourceRecordView) :
    (mergeRecord acc rec).1.instances = acc.1.instances ∪ contributedInstances rec := by
  unfold mergeRecord contributedInstances
  dsimp only
  rw [mergeHost_instances]
  split_ifs <;> simp [addServiceType, insertServiceType, insertInstance]

theorem present_mergeRecord (acc : DeviceSnapshot × Bool) (rec : ResourceRecordView) :
    present (mergeRecord acc rec).1.mdnsHost =
      (hostUpdate rec).apply (present acc.1.mdnsHost) := by
  unfold mergeRecord
  dsimp only
  rw [present_mergeHost]
  congr 2
  split_ifs <;> rfl

/-- The host of a snapshot after an event: SRV targets overwrite, the owner of an
address record fills in. -/
theorem present_mergeRecords (snap : DeviceSnapshot) (ev : DiscoveryEvent) :
    present (mergeRecords snap ev).1.mdnsHost =
      settle (present snap.mdnsHost) (ev.records.map hostUpdate) := by
  have hfold : ∀ (rs : List ResourceRecordView) (acc : DeviceSnapshot × Bool),
      present (rs.foldl mergeRecord acc).1.mdnsHost =
        settle (present acc.1.mdnsHost) (rs.map hostUpdate) := by
    intro rs
    induction rs with
    | nil => exact fun acc => rfl
    | cons rec rs ih =>
        intro acc
        rw [List.foldl_cons, List.map_cons, settle_cons, ← present_mergeRecord]
        exact ih _
  exact hfold ev.records (snap, false)

/-! ## Closed form of a profile -/

/-- What a list of records says about one source. -/
structure Profile where
  host : Option Bytes
  serviceTypes : Finset Bytes
  instances : Finset Bytes

/-- The profile of a snapshot. -/
def DeviceSnapshot.profile (snap : DeviceSnapshot) : Profile where
  host := present snap.mdnsHost
  serviceTypes := snap.serviceTypes
  instances := snap.instances

/-- One more record. -/
def Profile.add (profile : Profile) (rec : ResourceRecordView) : Profile where
  host := (hostUpdate rec).apply profile.host
  serviceTypes := profile.serviceTypes ∪ contributedServiceTypes rec
  instances := profile.instances ∪ contributedInstances rec

/-- The records of one source. -/
def recordsOf (srcIp : Bytes) (records : List (Bytes × ResourceRecordView)) :
    List ResourceRecordView :=
  (records.filter fun p => p.1 = srcIp).map Prod.snd

/-- The profile of a list of records. -/
def Profile.ofRecords (rs : List ResourceRecordView) : Profile :=
  rs.foldl Profile.add { host := none, serviceTypes := ∅, instances := ∅ }

theorem profile_mergeRecord (acc : DeviceSnapshot × Bool) (rec : ResourceRecordView) :
    (mergeRecord acc rec).1.profile = acc.1.profile.add rec := by
  simp only [DeviceSnapshot.profile, Profile.add, present_mergeRecord,
    mergeRecord_serviceTypes, mergeRecord_instances]

theorem profile_foldl_mergeRecord (acc : DeviceSnapshot × Bool)
    (rs : List ResourceRecordView) :
    (rs.foldl mergeRecord acc).1.profile = rs.foldl Profile.add acc.1.profile := by
  induction rs generalizing acc with
  | nil => rfl
  | cons rec rs ih =>
      rw [List.foldl_cons, List.foldl_cons, ih, profile_mergeRecord]

/-- The registry holds, for each source, the profile of its records: no
snapshot as long as there is none, and never one for the empty address. -/
def Represents (devices : Devices) (records : List (Bytes × ResourceRecordView)) : Prop :=
  ∀ srcIp, (findDevice devices srcIp).map DeviceSnapshot.profile =
    if srcIp = [] ∨ recordsOf srcIp records = [] then none
    else some (Profile.ofRecords (recordsOf srcIp records))

@[simp] theorem recordsOf_append (srcIp : Bytes)
    (records records' : List (Bytes × ResourceRecordView)) :
    recordsOf srcIp (records ++ records') =
      recordsOf srcIp records ++ recordsOf srcIp records' := by
  simp [recordsOf]

@[simp] theorem recordsOf_eventRecords (srcIp : Bytes) (ev : DiscoveryEvent) :
    recordsOf srcIp (eventRecords ev) = if ev.srcIp = srcIp then ev.records else [] := by
  by_cases h : ev.srcIp = srcIp
  · simp [recordsOf, eventRecords, h, List.filter_map, Function.comp_def]
  · simp [recordsOf, eventRecords, h, List.filter_map, Function.comp_def]

/-- One call of `apply` adds the records of its event. -/
theorem represents_applyEvent {devices : Devices} {records : List (Bytes × ResourceRecordView)}
    (h : Represents devices records) (ev : DiscoveryEvent) :
    Represents (applyEvent devices ev).1 (records ++ eventRecords ev) := by
  intro srcIp
  rw [recordsOf_append, recordsOf_eventRecords]
  unfold applyEvent
  -- an event without an address or records is skipped
  by_cases hskip : (ev.srcIp.isEmpty || ev.records.isEmpty) = true
  · rw [if_pos hskip, h srcIp]
    rcases Bool.or_eq_true_iff.mp hskip with hsrc | hrecs
    · by_cases heq : ev.srcIp = srcIp
      · have hnil : srcIp = [] := by rw [← heq]; simpa using hsrc
        simp [hnil]
      · simp [heq]
    · have hnil : ev.records = [] := by simpa using hrecs
      simp [hnil]
  · rw [if_neg hskip]
    obtain ⟨hsrc, hrecs⟩ : ev.srcIp ≠ [] ∧ ev.records ≠ [] := by simpa using hskip
    by_cases heq : ev.srcIp = srcIp
    · subst heq
      have hold := h ev.srcIp
      simp only [findDevice, hsrc, false_or] at hold
      simp only [findDevice, Function.update_self, Option.map_some, mergeRecords,
        profile_foldl_mergeRecord, if_true, hsrc, false_or, List.append_eq_nil_iff, hrecs,
        and_false, if_false, Profile.ofRecords, List.foldl_append, Option.some.injEq]
      congr 1
      split at hold
      · next hnone =>
          rw [Option.map_eq_none_iff] at hold
          simp [hold, hnone, DeviceSnapshot.empty, DeviceSnapshot.profile]
      · next hsome =>
          obtain ⟨snap, hsnap, hprofile⟩ := Option.map_eq_some_iff.mp hold
          rw [hsnap, Option.getD_some]
          rw [Profile.ofRecords] at hprofile
          rw [← hprofile]
          split <;> rfl
    · rw [if_neg heq, List.append_nil, ← h srcIp]
      simp only [findDevice, Function.update_of_ne (Ne.symm heq)]

/-- **Closed form of the registry.**  After any run, the profile of a source is
the profile of the records applied for it. -/
theorem represents_registryRun {devices : Devices}
    {records : List (Bytes × ResourceRecordView)} (h : Represents devices records)
    (evs : List DiscoveryEvent) :
    Represents (registryRun devices evs) (records ++ emittedRecords evs) := by
  induction evs generalizing devices records with
  | nil => simpa [registryRun, emittedRecords] using h
  | cons ev evs ih =>
      have hstep := ih (represents_applyEvent h ev)
      simpa [registryRun, emittedRecords] using hstep

@[simp] theorem represents_empty : Represents (fun _ => none) [] := by
  intro srcIp
  simp [findDevice, recordsOf]

@[simp] theorem foldl_add_host (profile : Profile) (rs : List ResourceRecordView) :
    (rs.foldl Profile.add profile).host = settle profile.host (rs.map hostUpdate) := by
  induction rs generalizing profile with
  | nil => rfl
  | cons rec rs ih =>
      rw [List.foldl_cons, ih, List.map_cons, settle_cons]
      rfl

@[simp] theorem mem_foldl_add_serviceTypes (profile : Profile) (rs : List ResourceRecordView)
    (value : Bytes) :
    value ∈ (rs.foldl Profile.add profile).serviceTypes ↔
      value ∈ profile.serviceTypes ∨ ∃ rec ∈ rs, value ∈ contributedServiceTypes rec := by
  induction rs generalizing profile with
  | nil => simp
  | cons rec rs ih =>
      rw [List.foldl_cons, ih]
      simp [Profile.add, or_assoc]

@[simp] theorem mem_foldl_add_instances (profile : Profile) (rs : List ResourceRecordView)
    (value : Bytes) :
    value ∈ (rs.foldl Profile.add profile).instances ↔
      value ∈ profile.instances ∨ ∃ rec ∈ rs, value ∈ contributedInstances rec := by
  induction rs generalizing profile with
  | nil => simp
  | cons rec rs ih =>
      rw [List.foldl_cons, ih]
      simp [Profile.add, or_assoc]

/-! ## Behind the change filter -/

/-- The part of a record that its contributions depend on. -/
def recordContent (rec : ResourceRecordView) : Bytes × UInt16 × Bytes :=
  (rec.ownerName, rec.type, rec.rdataText)

theorem contributions_congr {r r' : ResourceRecordView}
    (h : recordContent r = recordContent r') :
    hostUpdate r = hostUpdate r' ∧
      contributedServiceTypes r = contributedServiceTypes r' ∧
      contributedInstances r = contributedInstances r' := by
  obtain ⟨owner, type, text, ttl, observed⟩ := r
  obtain ⟨owner', type', text', ttl', observed'⟩ := r'
  simp only [recordContent, Prod.mk.injEq] at h
  obtain ⟨rfl, rfl, rfl⟩ := h
  exact ⟨rfl, rfl, rfl⟩

theorem mem_recordsOf {srcIp : Bytes} {records : List (Bytes × ResourceRecordView)}
    {rec : ResourceRecordView} :
    rec ∈ recordsOf srcIp records ↔ (srcIp, rec) ∈ records := by
  simp only [recordsOf, List.mem_map, List.mem_filter, decide_eq_true_eq]
  constructor
  · rintro ⟨⟨src, r⟩, ⟨hmem, rfl⟩, rfl⟩
    exact hmem
  · intro hmem
    exact ⟨(srcIp, rec), ⟨hmem, rfl⟩, rfl⟩

/-- The first occurrence of every record of a run. -/
def introduced (records : List (Bytes × ResourceRecordView)) :
    List (Bytes × ResourceRecordView) :=
  (scan recordTuple ∅ records).1

/-- Each record of a source has the same content as one of its introduced
records, and conversely. -/
theorem exists_introduced {srcIp : Bytes} {records : List (Bytes × ResourceRecordView)}
    {rec : ResourceRecordView} (h : rec ∈ recordsOf srcIp records) :
    ∃ r ∈ recordsOf srcIp (introduced records), recordContent r = recordContent rec := by
  obtain ⟨⟨src, r⟩, hmem, htuple⟩ :=
    exists_mem_scan recordTuple (mem_recordsOf.mp h) (Finset.notMem_empty _)
  obtain ⟨rfl, hcontent⟩ := Prod.mk.inj htuple
  exact ⟨r, mem_recordsOf.mpr hmem, hcontent⟩

theorem mem_of_mem_introduced {srcIp : Bytes} {records : List (Bytes × ResourceRecordView)}
    {rec : ResourceRecordView} (h : rec ∈ recordsOf srcIp (introduced records)) :
    rec ∈ recordsOf srcIp records := by
  rw [mem_recordsOf] at h ⊢
  exact (scan_sublist _ _ _).subset h

theorem recordsOf_introduced_eq_nil_iff (srcIp : Bytes)
    (records : List (Bytes × ResourceRecordView)) :
    recordsOf srcIp (introduced records) = [] ↔ recordsOf srcIp records = [] := by
  constructor
  · intro h
    refine List.eq_nil_iff_forall_not_mem.mpr fun rec hrec => ?_
    obtain ⟨r, hr, _⟩ := exists_introduced hrec
    simp [h] at hr
  · intro h
    refine List.eq_nil_iff_forall_not_mem.mpr fun rec hrec => ?_
    have hmem := mem_of_mem_introduced hrec
    simp [h] at hmem

/-- Whether some record of a source has a property of its content. -/
theorem exists_mem_introduced_iff (srcIp : Bytes)
    (records : List (Bytes × ResourceRecordView)) {P : ResourceRecordView → Prop}
    (hP : ∀ r r', recordContent r = recordContent r' → (P r ↔ P r')) :
    (∃ rec ∈ recordsOf srcIp (introduced records), P rec) ↔
      ∃ rec ∈ recordsOf srcIp records, P rec := by
  constructor
  · rintro ⟨rec, hrec, hp⟩
    exact ⟨rec, mem_of_mem_introduced hrec, hp⟩
  · rintro ⟨rec, hrec, hp⟩
    obtain ⟨r, hr, hcontent⟩ := exists_introduced hrec
    exact ⟨r, hr, (hP r rec hcontent).mpr hp⟩

/-- The SRV target seen last among the records of a source. -/
def lastSrvTarget (srcIp : Bytes) (records : List (Bytes × ResourceRecordView)) :
    Option Bytes :=
  lastOverwrite ((recordsOf srcIp records).map hostUpdate)

theorem lastSrvTarget_introduced_eq_none_iff (srcIp : Bytes)
    (records : List (Bytes × ResourceRecordView)) :
    lastSrvTarget srcIp (introduced records) = none ↔ lastSrvTarget srcIp records = none := by
  simp only [lastSrvTarget, lastOverwrite_eq_none_iff, List.forall_mem_map]
  have h := exists_mem_introduced_iff srcIp records
    (P := fun rec => ∃ a, hostUpdate rec = .overwrite a)
    fun r r' hc => by rw [(contributions_congr hc).1]
  constructor
  · intro hnone rec hrec a ha
    obtain ⟨r, hr, b, hb⟩ := h.mpr ⟨rec, hrec, a, ha⟩
    exact hnone r hr b hb
  · intro hnone rec hrec a ha
    obtain ⟨r, hr, b, hb⟩ := h.mp ⟨rec, hrec, a, ha⟩
    exact hnone r hr b hb

theorem findSome?_recordsOf {β : Type} (f : ResourceRecordView → Option β) (srcIp : Bytes)
    (records : List (Bytes × ResourceRecordView)) :
    (recordsOf srcIp records).findSome? f =
      records.findSome? fun p => if p.1 = srcIp then f p.2 else none := by
  induction records with
  | nil => rfl
  | cons p records ih =>
      by_cases h : p.1 = srcIp
      · rw [List.findSome?_cons, if_pos h, ← ih]
        simp [recordsOf, h, List.findSome?_cons]
      · rw [List.findSome?_cons, if_neg h, ← ih]
        simp [recordsOf, h]

/-- The first fallback of a source is a first occurrence. -/
theorem firstFill_introduced (srcIp : Bytes) (records : List (Bytes × ResourceRecordView)) :
    firstFill ((recordsOf srcIp (introduced records)).map hostUpdate) =
      firstFill ((recordsOf srcIp records).map hostUpdate) := by
  rw [firstFill, firstFill, List.findSome?_map, List.findSome?_map, findSome?_recordsOf,
    findSome?_recordsOf]
  apply findSome?_scan
  · rintro ⟨src, r⟩ ⟨src', r'⟩ htuple
    obtain ⟨rfl, hcontent⟩ := Prod.mk.inj htuple
    simp only [Function.comp_apply, (contributions_congr hcontent).1]
  · intro p _ hmem
    exact absurd hmem (Finset.notMem_empty _)

/-- The two runs of a source have the same profile exactly when the SRV target
seen last is also the one introduced last. -/
theorem ofRecords_introduced_eq_iff (srcIp : Bytes)
    (records : List (Bytes × ResourceRecordView)) :
    Profile.ofRecords (recordsOf srcIp (introduced records)) =
        Profile.ofRecords (recordsOf srcIp records) ↔
      lastSrvTarget srcIp (introduced records) = lastSrvTarget srcIp records := by
  have hservices : (Profile.ofRecords (recordsOf srcIp (introduced records))).serviceTypes =
      (Profile.ofRecords (recordsOf srcIp records)).serviceTypes := by
    ext value
    simp only [Profile.ofRecords, mem_foldl_add_serviceTypes]
    rw [exists_mem_introduced_iff srcIp records
      fun r r' hc => by rw [(contributions_congr hc).2.1]]
  have hinstances : (Profile.ofRecords (recordsOf srcIp (introduced records))).instances =
      (Profile.ofRecords (recordsOf srcIp records)).instances := by
    ext value
    simp only [Profile.ofRecords, mem_foldl_add_instances]
    rw [exists_mem_introduced_iff srcIp records
      fun r r' hc => by rw [(contributions_congr hc).2.2]]
  -- service types and instances only grow, so the host alone can differ
  have hhost : (Profile.ofRecords (recordsOf srcIp (introduced records))).host =
        (Profile.ofRecords (recordsOf srcIp records)).host ↔
      lastSrvTarget srcIp (introduced records) = lastSrvTarget srcIp records := by
    simp only [Profile.ofRecords, foldl_add_host]
    exact settle_none_eq_iff (firstFill_introduced srcIp records)
      (lastSrvTarget_introduced_eq_none_iff srcIp records)
  rw [← hhost]
  constructor
  · intro h
    rw [h]
  · intro h
    rw [Profile.mk.injEq]
    exact ⟨h, hservices, hinstances⟩

/-- The records that the filter passes on: the first one of every store key. -/
def firstOfKeys (records : List (Bytes × ResourceRecordView)) :
    List (Bytes × ResourceRecordView) :=
  (scan storeKey ∅ records).1

/-- The owner of the first address record of a source. -/
def firstOwner (srcIp : Bytes) (records : List (Bytes × ResourceRecordView)) : Option Bytes :=
  firstFill ((recordsOf srcIp records).map hostUpdate)

/-- The record is the first with its content, but it has the key of an earlier one, for
which the store takes it. -/
def Mistaken (records : List (Bytes × ResourceRecordView)) (p : Bytes × ResourceRecordView) :
    Prop :=
  ∃ before after, records = before ++ p :: after ∧
    (∃ q ∈ before, storeKey q = storeKey p) ∧ ∀ q ∈ before, recordTuple q ≠ recordTuple p

/-- When the filter is transparent for a source. -/
structure LastTargetPassed (records : List (Bytes × ResourceRecordView)) (srcIp : Bytes) :
    Prop where
  /-- the SRV target seen last is the one passed on last; where none is passed on, it is
  the owner that the host is taken from instead -/
  target : ∀ target, lastSrvTarget srcIp records = some target →
    lastSrvTarget srcIp (firstOfKeys records) = some target ∨
      (lastSrvTarget srcIp (firstOfKeys records) = none ∧
        firstOwner srcIp (firstOfKeys records) = some target)
  /-- without SRV targets, the first owner is passed on first -/
  owner : lastSrvTarget srcIp records = none →
    firstOwner srcIp (firstOfKeys records) = firstOwner srcIp records
  /-- what a record says that is taken for another is said by one that is passed on -/
  mistaken : ∀ rec, Mistaken records (srcIp, rec) →
    recordsOf srcIp (firstOfKeys records) ≠ [] ∧
      (∀ value ∈ contributedServiceTypes rec,
        ∃ r ∈ recordsOf srcIp (firstOfKeys records), value ∈ contributedServiceTypes r) ∧
      ∀ value ∈ contributedInstances rec,
        ∃ r ∈ recordsOf srcIp (firstOfKeys records), value ∈ contributedInstances r

theorem recordsOf_firstOfKeys_subset (srcIp : Bytes)
    (records : List (Bytes × ResourceRecordView)) :
    recordsOf srcIp (firstOfKeys records) ⊆ recordsOf srcIp records := by
  intro rec hrec
  rw [mem_recordsOf] at hrec ⊢
  exact (scan_sublist _ _ _).subset hrec

@[simp] theorem mem_ofRecords_serviceTypes {rs : List ResourceRecordView} {value : Bytes} :
    value ∈ (Profile.ofRecords rs).serviceTypes ↔
      ∃ rec ∈ rs, value ∈ contributedServiceTypes rec := by
  simp [Profile.ofRecords]

@[simp] theorem mem_ofRecords_instances {rs : List ResourceRecordView} {value : Bytes} :
    value ∈ (Profile.ofRecords rs).instances ↔
      ∃ rec ∈ rs, value ∈ contributedInstances rec := by
  simp [Profile.ofRecords]

theorem ofRecords_host (srcIp : Bytes) (records : List (Bytes × ResourceRecordView)) :
    (Profile.ofRecords (recordsOf srcIp records)).host =
      (lastSrvTarget srcIp records).or (firstOwner srcIp records) := by
  rw [Profile.ofRecords, foldl_add_host, settle_eq]
  rfl

/-- What a record says is said by one that is passed on, or the first with its content is
taken for another. -/
theorem passed_or_mistaken {srcIp : Bytes} {records : List (Bytes × ResourceRecordView)}
    {rec : ResourceRecordView} (h : rec ∈ recordsOf srcIp records) :
    ∃ r, recordContent r = recordContent rec ∧
      (r ∈ recordsOf srcIp (firstOfKeys records) ∨ Mistaken records (srcIp, r)) := by
  obtain ⟨r, hr, hcontent⟩ := exists_introduced h
  refine ⟨r, hcontent, ?_⟩
  obtain ⟨before, after, hsplit, hfirst⟩ := exists_split_of_mem_scan (mem_recordsOf.mp hr)
  by_cases hkey : ∃ q ∈ before, storeKey q = storeKey (srcIp, r)
  · exact .inr ⟨before, after, hsplit, hkey, hfirst⟩
  · left
    rw [mem_recordsOf, firstOfKeys, hsplit]
    exact mem_scan_of_split (Finset.notMem_empty _) (fun b hb hsame => hkey ⟨b, hb, hsame⟩) after

theorem mem_of_mistaken {records : List (Bytes × ResourceRecordView)}
    {p : Bytes × ResourceRecordView} (h : Mistaken records p) : p ∈ records := by
  obtain ⟨before, after, rfl, -⟩ := h
  simp

theorem lastSrvTarget_firstOfKeys_eq_none {srcIp : Bytes}
    {records : List (Bytes × ResourceRecordView)} (h : lastSrvTarget srcIp records = none) :
    lastSrvTarget srcIp (firstOfKeys records) = none := by
  rw [lastSrvTarget, lastOverwrite_eq_none_iff] at h ⊢
  intro u hu
  obtain ⟨rec, hrec, rfl⟩ := List.mem_map.mp hu
  exact h _ (List.mem_map_of_mem (recordsOf_firstOfKeys_subset srcIp records hrec))

/-- A profile of the source is kept. -/
def ProfileKept (records : List (Bytes × ResourceRecordView)) (srcIp : Bytes) : Prop :=
  (recordsOf srcIp records ≠ [] → recordsOf srcIp (firstOfKeys records) ≠ []) ∧
    Profile.ofRecords (recordsOf srcIp (firstOfKeys records)) =
      Profile.ofRecords (recordsOf srcIp records)

section

variable {srcIp : Bytes} {records : List (Bytes × ResourceRecordView)}

theorem ProfileKept.lastTargetPassed (h : ProfileKept records srcIp) :
    LastTargetPassed records srcIp where
  target := by
    intro target htarget
    have hhost := congrArg Profile.host h.2
    rw [ofRecords_host, ofRecords_host, htarget, Option.some_or] at hhost
    cases hpassed : lastSrvTarget srcIp (firstOfKeys records) with
    | some other =>
        rw [hpassed, Option.some_or] at hhost
        exact .inl hhost
    | none =>
        rw [hpassed, Option.none_or] at hhost
        exact .inr ⟨rfl, hhost⟩
  owner := by
    intro hnone
    have hhost := congrArg Profile.host h.2
    rw [ofRecords_host, ofRecords_host, hnone, lastSrvTarget_firstOfKeys_eq_none hnone] at hhost
    exact hhost
  mistaken := by
    intro rec hrec
    have hmem : rec ∈ recordsOf srcIp records := mem_recordsOf.mpr (mem_of_mistaken hrec)
    refine ⟨h.1 (List.ne_nil_of_mem hmem), ?_, ?_⟩
    · intro value hvalue
      rw [← mem_ofRecords_serviceTypes, h.2, mem_ofRecords_serviceTypes]
      exact ⟨rec, hmem, hvalue⟩
    · intro value hvalue
      rw [← mem_ofRecords_instances, h.2, mem_ofRecords_instances]
      exact ⟨rec, hmem, hvalue⟩

theorem LastTargetPassed.host (h : LastTargetPassed records srcIp) :
    (Profile.ofRecords (recordsOf srcIp (firstOfKeys records))).host =
      (Profile.ofRecords (recordsOf srcIp records)).host := by
  rw [ofRecords_host, ofRecords_host]
  cases htarget : lastSrvTarget srcIp records with
  | some target =>
      rcases h.target target htarget with hpassed | ⟨hpassed, howner⟩
      · rw [hpassed, Option.some_or, Option.some_or]
      · rw [hpassed, howner, Option.none_or, Option.some_or]
  | none => rw [lastSrvTarget_firstOfKeys_eq_none htarget, h.owner htarget]

theorem LastTargetPassed.profileKept (h : LastTargetPassed records srcIp) :
    ProfileKept records srcIp := by
  have hsubset := recordsOf_firstOfKeys_subset srcIp records
  refine ⟨?_, ?_⟩
  · intro hsome
    obtain ⟨rec, hrec⟩ := List.exists_mem_of_ne_nil _ hsome
    obtain ⟨r, -, hr | hr⟩ := passed_or_mistaken hrec
    · exact List.ne_nil_of_mem hr
    · exact (h.mistaken r hr).1
  · rw [Profile.mk.injEq]
    refine ⟨h.host, ?_, ?_⟩
    · ext value
      rw [mem_ofRecords_serviceTypes, mem_ofRecords_serviceTypes]
      constructor
      · rintro ⟨rec, hrec, hvalue⟩
        exact ⟨rec, hsubset hrec, hvalue⟩
      · rintro ⟨rec, hrec, hvalue⟩
        obtain ⟨r, hcontent, hr⟩ := passed_or_mistaken hrec
        rw [← (contributions_congr hcontent).2.1] at hvalue
        exact hr.elim (fun hr => ⟨r, hr, hvalue⟩) fun hr => (h.mistaken r hr).2.1 value hvalue
    · ext value
      rw [mem_ofRecords_instances, mem_ofRecords_instances]
      constructor
      · rintro ⟨rec, hrec, hvalue⟩
        exact ⟨rec, hsubset hrec, hvalue⟩
      · rintro ⟨rec, hrec, hvalue⟩
        obtain ⟨r, hcontent, hr⟩ := passed_or_mistaken hrec
        rw [← (contributions_congr hcontent).2.2] at hvalue
        exact hr.elim (fun hr => ⟨r, hr, hvalue⟩) fun hr => (h.mistaken r hr).2.2 value hvalue

end

/-- Two lookups with the same `mdns_host`, `service_types` and `instances`. -/
def SameProfile : Option DeviceSnapshot → Option DeviceSnapshot → Prop
  | none, none => True
  | some s, some t =>
      s.mdnsHost = t.mdnsHost ∧ s.serviceTypes = t.serviceTypes ∧ s.instances = t.instances
  | _, _ => False

theorem sameProfile_iff {s t : Option DeviceSnapshot} :
    SameProfile s t ↔ s.map DeviceSnapshot.profile = t.map DeviceSnapshot.profile := by
  cases s with
  | none => cases t <;> simp [SameProfile]
  | some s =>
      cases t with
      | none => simp [SameProfile]
      | some t => simp [SameProfile, DeviceSnapshot.profile]

/-- The registry behind the change filter. -/
def filteredRegistry (evs : List DiscoveryEvent) : Devices :=
  registryRun (fun _ => none) (filterRun ∅ evs).1

/-- The registry to which every event is applied. -/
def plainRegistry (evs : List DiscoveryEvent) : Devices :=
  registryRun (fun _ => none) evs

/-- For each source, the SRV target seen last is the one introduced last: the target of
the last SRV record with a content that is new. -/
def LastTargetsIntroduced (records : List (Bytes × ResourceRecordView)) : Prop :=
  ∀ srcIp, srcIp ≠ [] → lastSrvTarget srcIp (introduced records) = lastSrvTarget srcIp records

/-- The two registries on one source. -/
theorem sameProfile_source_iff (evs : List DiscoveryEvent) (srcIp : Bytes) :
    SameProfile (findDevice (filteredRegistry evs) srcIp) (findDevice (plainRegistry evs) srcIp) ↔
      (srcIp ≠ [] → ProfileKept (emittedRecords evs) srcIp) := by
  have hfiltered : emittedRecords (filterRun ∅ evs).1 = firstOfKeys (emittedRecords evs) :=
    congrArg Prod.fst (emittedRecords_filterRun ∅ evs)
  have hleft := represents_registryRun represents_empty (filterRun ∅ evs).1
  have hright := represents_registryRun represents_empty evs
  rw [List.nil_append] at hleft hright
  rw [hfiltered] at hleft
  rw [sameProfile_iff, filteredRegistry, plainRegistry, hleft srcIp, hright srcIp]
  by_cases hsrc : srcIp = []
  · simp [hsrc]
  simp only [hsrc, false_or, ne_eq, not_false_eq_true, forall_const]
  by_cases hnil : recordsOf srcIp (firstOfKeys (emittedRecords evs)) = []
  · rw [if_pos hnil]
    by_cases hall : recordsOf srcIp (emittedRecords evs) = []
    · rw [if_pos hall]
      exact iff_of_true rfl ⟨fun h => absurd hall h, by rw [hnil, hall]⟩
    · -- every record of the source was taken for one of another source
      rw [if_neg hall]
      exact iff_of_false (by simp) fun h => h.1 hall hnil
  · have hall : recordsOf srcIp (emittedRecords evs) ≠ [] := by
      intro hall
      exact hnil (List.eq_nil_of_subset_nil (hall ▸ recordsOf_firstOfKeys_subset srcIp _))
    rw [if_neg hnil, if_neg hall, Option.some.injEq]
    exact (and_iff_right fun _ => hnil).symm

/-- As long as no keys collide, it comes down to the SRV targets. -/
theorem profileKept_iff_of_collisionFree {records : List (Bytes × ResourceRecordView)}
    (hfree : CollisionFree records) (srcIp : Bytes) :
    ProfileKept records srcIp ↔
      lastSrvTarget srcIp (introduced records) = lastSrvTarget srcIp records := by
  have hpassed : firstOfKeys records = introduced records :=
    (scan_eq_scan_iff (fun _ _ => storeKey_of_recordTuple_eq) _).mpr hfree
  rw [ProfileKept, hpassed, ne_eq, ne_eq, recordsOf_introduced_eq_nil_iff,
    ofRecords_introduced_eq_iff]
  exact and_iff_right id

/-- **When the filter is transparent to the profiles.**  In a run without key collisions
the registry behind the filter agrees with the plain one on every source exactly when the
SRV target seen last is, for each of them, the one introduced last.  In any run they agree
exactly when the target seen last is the one passed on last and nothing is lost with the
records that the store takes for others. -/
theorem sameProfiles_iff_lastTargets (evs : List DiscoveryEvent) :
    (CollisionFree (emittedRecords evs) →
      ((∀ srcIp, SameProfile (findDevice (filteredRegistry evs) srcIp)
          (findDevice (plainRegistry evs) srcIp)) ↔
        LastTargetsIntroduced (emittedRecords evs))) ∧
    ((∀ srcIp, SameProfile (findDevice (filteredRegistry evs) srcIp)
        (findDevice (plainRegistry evs) srcIp)) ↔
      ∀ srcIp, srcIp ≠ [] → LastTargetPassed (emittedRecords evs) srcIp) := by
  constructor
  · intro hfree
    refine forall_congr' fun srcIp => (sameProfile_source_iff evs srcIp).trans ?_
    exact imp_congr_right fun _ => profileKept_iff_of_collisionFree hfree srcIp
  · refine forall_congr' fun srcIp => (sameProfile_source_iff evs srcIp).trans ?_
    exact imp_congr_right fun _ => ⟨fun h => h.lastTargetPassed, fun h => h.profileKept⟩

/-! ### A host that comes back -/

/-- An SRV record of one instance with the given target. -/
def srvTo (target : String) (atMs : UInt64) : DiscoveryEvent where
  timestampMs := atMs
  srcIp := ascii "10.0.0.7"
  records :=
    [{ ownerName := ascii "TV._airplay._tcp.local", type := typeSrv,
       rdataText := ascii "priority=0 weight=0 port=7000 target=" ++ ascii target,
       ttl := 120, observedAtMs := atMs }]

/-- A device that is renamed and then renamed back. -/
def returningHost : List DiscoveryEvent :=
  [srvTo "old.local" 1000, srvTo "new.local" 2000, srvTo "old.local" 3000]

/-- It is renamed once more. -/
def movingHost : List DiscoveryEvent :=
  returningHost ++ [srvTo "third.local" 4000]

/-- A target that came back does no harm once another one is new. -/
theorem sameProfiles_movingHost :
    ∀ srcIp, SameProfile (findDevice (filteredRegistry movingHost) srcIp)
      (findDevice (plainRegistry movingHost) srcIp) := by
  have hsource : ∀ p ∈ emittedRecords movingHost, p.1 = ascii "10.0.0.7" := by decide +kernel
  have htarget : lastSrvTarget (ascii "10.0.0.7") (introduced (emittedRecords movingHost)) =
      lastSrvTarget (ascii "10.0.0.7") (emittedRecords movingHost) := by decide +kernel
  refine ((sameProfiles_iff_lastTargets movingHost).1 (by decide +kernel)).mpr fun srcIp _ => ?_
  by_cases hsame : srcIp = ascii "10.0.0.7"
  · rw [hsame]
    exact htarget
  · have hnil : recordsOf srcIp (emittedRecords movingHost) = [] := by
      refine List.eq_nil_iff_forall_not_mem.mpr fun rec hrec => hsame ?_
      exact hsource _ (mem_recordsOf.mp hrec)
    rw [lastSrvTarget, lastSrvTarget, hnil, (recordsOf_introduced_eq_nil_iff _ _).mpr hnil]

/-- The registry behind the filter misses the second renaming. -/
theorem returningHost_missed :
    ¬ ∀ (evs : List DiscoveryEvent) (srcIp : Bytes),
      SameProfile (findDevice (filteredRegistry evs) srcIp)
        (findDevice (plainRegistry evs) srcIp) := by
  intro h
  have hsame := h returningHost (ascii "10.0.0.7")
  rw [sameProfile_iff] at hsame
  have hhost := congrArg (Option.map Profile.host) hsame
  revert hhost
  decide +kernel

end Scanner
end LanDiscovery

import LanDiscovery.Api.Service

/-!
# The scanner's retry

The scanner posts an event again when no answer arrives, so an event may be
ingested twice in a row.  The second ingest changes nothing but the list of
events exactly when the device of the first one is chosen again and keeps its
host (`retry_unchanged_iff`).  It does not when another device at the source was
seen later than the event says, or when the first ingest gave the device its
address and kept its own host.
-/

namespace LanDiscovery
namespace Api

open Library Library.Preference

/-- The same event with the same answers of the neighbour table. -/
structure SameRequest (inp inp' : IngestInput) : Prop where
  event : inp'.event = inp.event
  hintLookup : inp'.hintLookup = inp.hintLookup
  attachLookup : inp'.attachLookup = inp.attachLookup

/-- The retry succeeds for the same device and adds one row to the events. -/
def RetryUnchanged (rt : PyRuntime) (db : Db) (deviceId : Uuid) (inp : IngestInput) : Prop :=
  ∃ db', processDiscoveryEvent rt db inp = .ok (deviceId, db') ∧
    db'.toTables =
      { db.toTables with
        discoveryEvents := db.discoveryEvents ++
          [{ deviceId, receivedAtMs := inp.receivedMs, payload := inp.event }] }

/-- Another device at the source was seen after the event, or at the same time
and is the older row. -/
def Overtaken (db : Db) (row : DeviceRow) (event : DiscoveryEventIn) : Prop :=
  ∃ before after, db.devices = before ++ row :: after ∧
    ((∃ r ∈ before, r.srcIp = event.srcIp ∧ eventSeenMs event ≤ r.lastSeenMs) ∨
      ∃ r ∈ after, r.srcIp = event.srcIp ∧ eventSeenMs event < r.lastSeenMs)

/-- The cases in which the retry changes something.  They are all in the second
branch: the event has no address or one that no device has. -/
def RetryChanges (db : Db) (inp : IngestInput) : Prop :=
  db.MacUnused inp.macHint ∧
    ∃ row, findDeviceBySrcIp db inp.event.srcIp = some row ∧
      if inp.macHint ≠ none ∧ row.mac = none then OtherHost row.mdnsHost inp.event
      else Overtaken db row inp.event

/-! ## Inputs of the second ingest -/

theorem SameRequest.macHint {inp inp' : IngestInput} (h : SameRequest inp inp') :
    inp'.macHint = inp.macHint := by
  rw [IngestInput.macHint, h.event, h.hintLookup]
  rfl

theorem SameRequest.attachedMac {inp inp' : IngestInput} (h : SameRequest inp inp') :
    inp'.attachedMac = inp.attachedMac := by
  rw [IngestInput.attachedMac, h.event, h.attachLookup]
  rfl

theorem resolution_eq_byMac_of_mem {db : Db} {event : DiscoveryEventIn} {mac : Mac}
    {row : DeviceRow} (hrow : row ∈ db.devices) (hmac : row.mac = some mac) :
    resolution db event (some mac) = .byMac row := by
  have hfind : findDeviceByMac db mac = some row := by
    cases hfound : findDeviceByMac db mac with
    | none => exact absurd hmac (findDeviceByMac_eq_none hfound row hrow)
    | some found =>
        obtain ⟨hmem, hfoundMac⟩ := findDeviceByMac_eq_some hfound
        have hid := db.constraints.macs found hmem row hrow (by simp [hfoundMac])
          (hfoundMac.trans hmac.symm)
        rw [Table.eq_of_key_eq db.constraints.deviceKeys hmem hrow hid]
  simp [resolution, hfind]

theorem resolution_eq_bySrcIp_of {db : Db} {event : DiscoveryEventIn} {macHint : Option Mac}
    {row : DeviceRow} (hunused : db.MacUnused macHint)
    (hrow : findDeviceBySrcIp db event.srcIp = some row) :
    resolution db event macHint = .bySrcIp row := by
  have hnone := bind_findDeviceByMac_eq_none_iff.mpr hunused
  simp [resolution, hnone, hrow]

/-! ## The rest follows the row -/

section

variable {rt : PyRuntime} {db db₁ : Db} {inp inp' : IngestInput}

theorem observedRow_mem (hdb₁ : db₁.toTables = ingested rt db inp) :
    observedRow db inp ∈ db₁.devices := by
  rw [hdb₁]
  exact mem_devices_ingested.mpr (Or.inl rfl)

/-- The services of the event are in the table. -/
theorem newServiceRows_ingested (hdb₁ : db₁.toTables = ingested rt db inp) :
    db₁.newServiceRows (observedRow db inp).deviceId
      (MdnsNames.serviceTypesFromRecords inp.event.records) = [] := by
  rw [Tables.newServiceRows, List.filter_eq_nil_iff]
  intro row hrow
  have hin : row ∈ db₁.services := by
    rw [hdb₁]
    change row ∈ observedServices db inp
    by_cases hold : row ∈ db.services
    · exact List.mem_append_left _ hold
    · exact List.mem_append_right _ (List.mem_filter.mpr ⟨hrow, by simpa using hold⟩)
  simpa using hin

/-- When the row of the second ingest is that of the first, so is everything but
the list of events. -/
theorem ingested_again (hreq : SameRequest inp inp') (hdb₁ : db₁.toTables = ingested rt db inp)
    (halert : inp.alertUuid 0 ∉ db.alerts.map AlertRow.alertId)
    (hrow : observedRow db₁ inp' = observedRow db inp) :
    ingested rt db₁ inp' =
      { db₁.toTables with
        discoveryEvents := db₁.discoveryEvents ++
          [{ deviceId := (observedRow db inp).deviceId, receivedAtMs := inp'.receivedMs,
             payload := inp'.event }] } := by
  have hdevices : Table.upsert DeviceRow.deviceId (observedRow db₁ inp') db₁.devices =
      db₁.devices := by
    rw [hrow]
    exact Table.upsert_eq_self db₁.constraints.deviceKeys (observedRow_mem hdb₁)
  have hservices : observedServices db₁ inp' = db₁.services := by
    rw [observedServices, hrow, hreq.event, newServiceRows_ingested hdb₁, List.append_nil]
  have hfinding : policyFinding rt (observedTables db₁ inp') (observedRow db₁ inp') =
      policyFinding rt (observedTables db inp) (observedRow db inp) := by
    rw [hrow]
    refine policyFinding_congr (hservices.trans ?_) ?_ _
    · rw [hdb₁]
      rfl
    · change db₁.deviceBaselines = db.deviceBaselines
      rw [hdb₁]
      rfl
  -- the same finding again, and its key is in the table already
  have halerts : newAlerts rt db₁ inp' = [] := by
    unfold newAlerts
    rw [hfinding]
    cases hfound : policyFinding rt (observedTables db inp) (observedRow db inp) with
    | none => rfl
    | some alert =>
        apply newAlertRows_of_mem
        have hkey := dedupeKey_mem_append_newAlertRows
          (alertRow inp (observedRow db inp).deviceId alert) halert
        rw [hdb₁]
        simpa [ingested, newAlerts, hfound, alertRow] using hkey
  rw [ingested, observedTables, hdevices, hservices, halerts, hrow, List.append_nil]

/-- The retry changes nothing exactly when the row of the second ingest is that
of the first. -/
theorem retryUnchanged_iff (hok : Acceptable db inp) (hreq : SameRequest inp inp')
    (hdb₁ : db₁.toTables = ingested rt db inp)
    (halert : inp.alertUuid 0 ∉ db.alerts.map AlertRow.alertId) :
    RetryUnchanged rt db₁ (observedRow db inp).deviceId inp' ↔
      observedRow db₁ inp' = observedRow db inp := by
  have hmem := observedRow_mem hdb₁
  constructor
  · rintro ⟨db₂, hrun, hsame⟩
    obtain ⟨-, hid, htables⟩ := processDiscoveryEvent_eq_ok_iff.mp hrun
    have hin : observedRow db₁ inp' ∈ db₁.devices := by
      have hafter := observedRow_mem htables
      rw [hsame] at hafter
      exact hafter
    exact Table.eq_of_key_eq db₁.constraints.deviceKeys hin hmem hid.symm
  · intro hrow
    have htables := ingested_again hreq hdb₁ halert hrow
    have hconstraints : (ingested rt db₁ inp').Constraints := by
      rw [htables]
      exact db₁.constraints.insertEvent _ (List.mem_map_of_mem hmem)
    refine ⟨⟨_, hconstraints⟩, processDiscoveryEvent_eq_ok_iff.mpr ⟨?_, by rw [hrow], rfl⟩,
      htables⟩
    refine ⟨hreq.event ▸ hok.srcIp, hreq.event ▸ hok.seenMs, ?_, ?_⟩
    · intro hres
      obtain ⟨hnosrc, -⟩ := resolution_eq_fresh hres
      exact absurd (hreq.event ▸ observedRow_srcIp db inp) (hnosrc _ hmem)
    · rw [hrow]
      exact db₁.constraints.macFree hmem

/-! ## The row of the second ingest -/

/-- The second ingest finds the device by its address. -/
theorem observedRow_again_byMac (hreq : SameRequest inp inp')
    (hdb₁ : db₁.toTables = ingested rt db inp) {mac : Mac} (hhint : inp.macHint = some mac)
    (hmac : (observedRow db inp).mac = some mac) :
    observedRow db₁ inp' = observedRow db inp ↔
      mergedHostByMac (observedRow db inp).mdnsHost (mdnsHostFromEvent inp.event) =
        (observedRow db inp).mdnsHost := by
  have hres : resolution db₁ inp'.event inp'.macHint = .byMac (observedRow db inp) := by
    rw [hreq.macHint, hhint]
    exact resolution_eq_byMac_of_mem (observedRow_mem hdb₁) hmac
  rw [observedRow_of_byMac hres, hreq.event, DeviceRow.seenByMac, ← observedRow_srcIp db inp,
    ← observedRow_lastSeenMs db inp]
  constructor
  · exact fun h => congrArg DeviceRow.mdnsHost h
  · intro h
    rw [h]

/-- There is a device at the source afterwards. -/
theorem exists_findDeviceBySrcIp (hdb₁ : db₁.toTables = ingested rt db inp) :
    ∃ found, findDeviceBySrcIp db₁ inp.event.srcIp = some found := by
  cases hfound : findDeviceBySrcIp db₁ inp.event.srcIp with
  | none =>
      have hmem := observedRow_mem hdb₁
      exact absurd (observedRow_srcIp db inp) (findDeviceBySrcIp_eq_none hfound _ hmem)
  | some found => exact ⟨found, rfl⟩

/-- The second ingest finds a device at the source. -/
theorem observedRow_again_bySrcIp (hreq : SameRequest inp inp')
    (hdb₁ : db₁.toTables = ingested rt db inp) (hunused : db₁.MacUnused inp.macHint)
    (hhost : mergeRecordHosts (observedRow db inp).mdnsHost inp.event.records =
      (observedRow db inp).mdnsHost)
    (hmac : (observedRow db inp).mac.or (inp.macHint.or inp.attachedMac) =
      (observedRow db inp).mac) :
    observedRow db₁ inp' = observedRow db inp ↔
      findDeviceBySrcIp db₁ inp.event.srcIp = some (observedRow db inp) := by
  have hmem := observedRow_mem hdb₁
  obtain ⟨found, hfound⟩ := exists_findDeviceBySrcIp hdb₁
  have hres : resolution db₁ inp'.event inp'.macHint = .bySrcIp found := by
    rw [hreq.macHint, hreq.event]
    exact resolution_eq_bySrcIp_of hunused hfound
  rw [observedRow_of_bySrcIp hres, hfound, hreq.macHint, hreq.attachedMac, hreq.event,
    Option.some.injEq]
  constructor
  · intro h
    have hin := (findDeviceBySrcIp_eq_some hfound).1
    have hid := congrArg DeviceRow.deviceId h
    exact Table.eq_of_key_eq db₁.constraints.deviceKeys hin hmem hid
  · rintro rfl
    rw [DeviceRow.seenBySrcIp, hhost, hmac, ← observedRow_lastSeenMs db inp]

/-- The device found at the source is found there again exactly when the others are
not as late: those before it in the table earlier, those after it not later. -/
theorem findDeviceBySrcIp_again_iff {row : DeviceRow} {before after : List DeviceRow}
    (hdb₁ : db₁.toTables = ingested rt db inp)
    (hres : resolution db inp.event inp.macHint = .bySrcIp row)
    (hdevices : db.devices = before ++ row :: after) :
    findDeviceBySrcIp db₁ inp.event.srcIp = some (observedRow db inp) ↔
      (∀ r ∈ before, r.srcIp = inp.event.srcIp → r.lastSeenMs < eventSeenMs inp.event) ∧
      ∀ r ∈ after, r.srcIp = inp.event.srcIp → r.lastSeenMs ≤ eventSeenMs inp.event := by
  have hid : (observedRow db inp).deviceId = row.deviceId := by
    rw [observedRow_of_bySrcIp hres]
    rfl
  have hkeys := db.constraints.deviceKeys
  rw [Tables.deviceIds, hdevices] at hkeys
  -- the first ingest leaves the row at its place
  have hplaced : db₁.devices = before ++ observedRow db inp :: after := by
    rw [hdb₁]
    change Table.upsert DeviceRow.deviceId (observedRow db inp) db.devices = _
    rw [hdevices]
    exact Table.upsert_append_cons hkeys hid
  have hnot : observedRow db inp ∉ before := by
    intro hmem
    rw [List.map_append, List.map_cons, List.nodup_append] at hkeys
    exact hkeys.2.2 _ (List.mem_map_of_mem hmem) _ (List.mem_cons_self ..) hid
  rw [findDeviceBySrcIp, hplaced, List.filter_append, List.filter_cons,
    if_pos (by simpa using observedRow_srcIp db inp),
    Table.maxOn?_append_cons_iff fun h => hnot (List.mem_of_mem_filter h),
    observedRow_lastSeenMs]
  simp [List.mem_filter]

/-- The device found at the source is found there again unless another one has
overtaken it. -/
theorem findDeviceBySrcIp_again {row : DeviceRow} (hdb₁ : db₁.toTables = ingested rt db inp)
    (hres : resolution db inp.event inp.macHint = .bySrcIp row) :
    findDeviceBySrcIp db₁ inp.event.srcIp = some (observedRow db inp) ↔
      ¬ Overtaken db row inp.event := by
  constructor
  · rintro hfound ⟨before, after, hdevices, hlater⟩
    obtain ⟨hbefore, hafter⟩ := (findDeviceBySrcIp_again_iff hdb₁ hres hdevices).mp hfound
    rcases hlater with ⟨r, hr, hsrc, hle⟩ | ⟨r, hr, hsrc, hlt⟩
    · exact absurd (hbefore r hr hsrc) (not_lt.mpr hle)
    · exact absurd (hafter r hr hsrc) (not_le.mpr hlt)
  · intro hnot
    obtain ⟨hrow, -⟩ := findDeviceBySrcIp_eq_some (resolution_eq_bySrcIp hres).1
    obtain ⟨before, after, hdevices⟩ := List.append_of_mem hrow
    refine (findDeviceBySrcIp_again_iff hdb₁ hres hdevices).mpr
      ⟨fun r hr hsrc => ?_, fun r hr hsrc => ?_⟩
    · by_contra hle
      exact hnot ⟨before, after, hdevices, Or.inl ⟨r, hr, hsrc, not_lt.mp hle⟩⟩
    · by_contra hlt
      exact hnot ⟨before, after, hdevices, Or.inr ⟨r, hr, hsrc, not_le.mp hlt⟩⟩

/-- Merging the event from scratch into a host it was merged into before. -/
theorem mergedHostByMac_again_iff {rowHost : Option Str} {event : DiscoveryEventIn}
    (hrow : rowHost ≠ some []) :
    mergedHostByMac (mergeRecordHosts rowHost event.records) (mdnsHostFromEvent event) =
        mergeRecordHosts rowHost event.records ↔ ¬ OtherHost rowHost event := by
  rw [← mergedHostByMac_eq_iff hrow,
    mergedHostByMac_eq (mergeRecordHosts_ne_empty hrow _) (mdnsHostFromEvent_ne_empty event),
    mergedHostByMac_eq hrow (mdnsHostFromEvent_ne_empty event), mergeRecordHosts_eq_settle hrow,
    mdnsHostFromEvent_eq_settle, or_settle]

/-- After the branch for a known address the second ingest takes it again. -/
theorem observedRow_again_of_byMac (hhosts : HostsNonempty db.toTables)
    (hreq : SameRequest inp inp') (hdb₁ : db₁.toTables = ingested rt db inp) {row : DeviceRow}
    (hres : resolution db inp.event inp.macHint = .byMac row) :
    observedRow db₁ inp' = observedRow db inp := by
  have hevent := mdnsHostFromEvent_ne_empty inp.event
  obtain ⟨hrow, hne, heq⟩ := resolution_eq_byMac hres
  obtain ⟨mac, hmac⟩ := Option.ne_none_iff_exists'.mp hne
  have hobserved := observedRow_of_byMac hres
  refine (observedRow_again_byMac hreq hdb₁ (heq ▸ hmac) ?_).mpr ?_
  · rw [hobserved]
    exact hmac
  · have hmerged := mergedHostByMac_eq (hhosts row hrow) hevent
    have hhost : (observedRow db inp).mdnsHost =
        (mdnsHostFromEvent inp.event).or row.mdnsHost := by
      rw [hobserved, ← hmerged]
      rfl
    -- preferring the event's host for the second time
    rw [mergedHostByMac_eq (observedRow_mdnsHost_ne_empty hhosts inp) hevent, hhost]
    cases mdnsHostFromEvent inp.event <;> rfl

/-- After the branch for a known source the second ingest takes the branch for a
known address if the first one gave the device its address, and looks at the
source again otherwise. -/
theorem observedRow_again_of_bySrcIp (hhosts : HostsNonempty db.toTables)
    (hreq : SameRequest inp inp') (hdb₁ : db₁.toTables = ingested rt db inp) {row : DeviceRow}
    (hres : resolution db inp.event inp.macHint = .bySrcIp row) :
    observedRow db₁ inp' = observedRow db inp ↔
      ¬ if inp.macHint ≠ none ∧ row.mac = none then OtherHost row.mdnsHost inp.event
        else Overtaken db row inp.event := by
  obtain ⟨hfound, hunused⟩ := resolution_eq_bySrcIp hres
  obtain ⟨hrow, -⟩ := findDeviceBySrcIp_eq_some hfound
  have hobserved := observedRow_of_bySrcIp hres
  have hhost : (observedRow db inp).mdnsHost =
      mergeRecordHosts row.mdnsHost inp.event.records := by
    rw [hobserved]
    rfl
  have hmac : (observedRow db inp).mac = row.mac.or (inp.macHint.or inp.attachedMac) := by
    rw [hobserved]
  by_cases hattach : inp.macHint ≠ none ∧ row.mac = none
  · rw [if_pos hattach]
    obtain ⟨mac, hhint⟩ := Option.ne_none_iff_exists'.mp hattach.1
    have hmac' : (observedRow db inp).mac = some mac := by simp [hmac, hattach.2, hhint]
    rw [observedRow_again_byMac hreq hdb₁ hhint hmac', hhost]
    exact mergedHostByMac_again_iff (hhosts row hrow)
  · rw [if_neg hattach]
    -- the device of the first ingest has no address, or had another one before
    have hunused₁ : db₁.MacUnused inp.macHint := by
      intro r hr hne
      rw [hdb₁] at hr
      rcases mem_devices_ingested.mp hr with rfl | ⟨hold, -⟩
      · have hset : row.mac ≠ none := fun hnone => hattach ⟨hne, hnone⟩
        obtain ⟨mac, hset⟩ := Option.ne_none_iff_exists'.mp hset
        rw [hmac, hset, Option.some_or, ← hset]
        exact hunused row hrow hne
      · exact hunused r hold hne
    rw [observedRow_again_bySrcIp hreq hdb₁ hunused₁ ?_ ?_, findDeviceBySrcIp_again hdb₁ hres]
    · rw [hhost]
      exact mergeRecordHosts_idem (hhosts row hrow) _
    · rw [hmac]
      cases row.mac <;> cases inp.macHint <;> cases inp.attachedMac <;> rfl

/-- The second ingest finds a device that the first one made. -/
theorem observedRow_again_of_fresh (hreq : SameRequest inp inp')
    (hdb₁ : db₁.toTables = ingested rt db inp)
    (hres : resolution db inp.event inp.macHint = .fresh) :
    observedRow db₁ inp' = observedRow db inp := by
  have hevent := mdnsHostFromEvent_ne_empty inp.event
  have hobserved := observedRow_of_fresh hres
  have hhost : (observedRow db inp).mdnsHost = mdnsHostFromEvent inp.event := by
    rw [hobserved]
    rfl
  cases hhint : inp.macHint with
  | some mac =>
      refine (observedRow_again_byMac hreq hdb₁ hhint ?_).mpr ?_
      · rw [hobserved, hhint]
        rfl
      · rw [hhost, mergedHostByMac_eq hevent hevent]
        cases mdnsHostFromEvent inp.event <;> rfl
  | none =>
      refine (observedRow_again_bySrcIp hreq hdb₁ ?_ ?_ ?_).mpr ?_
      · rw [hhint]
        exact fun _ _ hne => absurd rfl hne
      · rw [hhost]
        exact mergeRecordHosts_idem (by simp) _
      · rw [hobserved, hhint]
        cases inp.attachedMac <;> rfl
      · -- no other device is at the source
        obtain ⟨found, hfound⟩ := exists_findDeviceBySrcIp hdb₁
        obtain ⟨hin, hsrc⟩ := findDeviceBySrcIp_eq_some hfound
        rw [hdb₁] at hin
        rcases mem_devices_ingested.mp hin with rfl | ⟨hold, -⟩
        · exact hfound
        · exact absurd hsrc ((resolution_eq_fresh hres).1 found hold)

/-- Where the row of the second ingest is that of the first, by the branch that
the first one took. -/
theorem observedRow_again_iff (hhosts : HostsNonempty db.toTables)
    (hreq : SameRequest inp inp') (hdb₁ : db₁.toTables = ingested rt db inp) :
    observedRow db₁ inp' = observedRow db inp ↔ ¬ RetryChanges db inp := by
  cases hres : resolution db inp.event inp.macHint with
  | byMac row =>
      obtain ⟨hrow, hne, heq⟩ := resolution_eq_byMac hres
      refine iff_of_true (observedRow_again_of_byMac hhosts hreq hdb₁ hres) ?_
      exact fun h => h.1 row hrow (heq ▸ hne) heq
  | bySrcIp row =>
      obtain ⟨hfound, hunused⟩ := resolution_eq_bySrcIp hres
      rw [observedRow_again_of_bySrcIp hhosts hreq hdb₁ hres]
      simp only [RetryChanges, hunused, true_and, hfound, Option.some.injEq, exists_eq_left']
  | fresh =>
      refine iff_of_true (observedRow_again_of_fresh hreq hdb₁ hres) ?_
      rintro ⟨-, row, hfound, -⟩
      obtain ⟨hrow, hsrc⟩ := findDeviceBySrcIp_eq_some hfound
      exact (resolution_eq_fresh hres).1 row hrow hsrc

end

/-- **The retry.**  From every reachable database, when an event was ingested
with a new alert identifier, every further ingest of it with the same answers of
the neighbour table resolves to the same device and adds a row to the events
only, unless it is one of the cases in which the retry changes something. -/
theorem retry_unchanged_iff (rt : PyRuntime) (db : Db) (hdb : Reachable rt db)
    (inp : IngestInput) (deviceId : Uuid) (db₁ : Db)
    (hrun : processDiscoveryEvent rt db inp = .ok (deviceId, db₁))
    (halert : inp.alertUuid 0 ∉ db.alerts.map AlertRow.alertId) :
    (∀ inp', SameRequest inp inp' → RetryUnchanged rt db₁ deviceId inp') ↔
      ¬ RetryChanges db inp := by
  obtain ⟨hok, rfl, hdb₁⟩ := processDiscoveryEvent_eq_ok_iff.mp hrun
  have hagain : ∀ inp', SameRequest inp inp' →
      (RetryUnchanged rt db₁ (observedRow db inp).deviceId inp' ↔ ¬ RetryChanges db inp) := by
    intro inp' hreq
    rw [retryUnchanged_iff hok hreq hdb₁ halert, observedRow_again_iff hdb.hostsNonempty hreq hdb₁]
  constructor
  · exact fun h => (hagain inp ⟨rfl, rfl, rfl⟩).mp (h inp ⟨rfl, rfl, rfl⟩)
  · exact fun h inp' hreq => (hagain inp' hreq).mpr h

/-- A device without an address. -/
def addresslessDevice : Db :=
  runOperation sampleRuntime Db.empty
    (.ingest (sampleInput "192.168.1.10" none
      [sampleRecord "A" "tv.local" (some "tv.local") 1000] 1000 0))

/-- The retry of the event that made the device. -/
theorem newDevice_retried :
    RetryUnchanged sampleRuntime addresslessDevice (sampleUuid 0)
      (sampleInput "192.168.1.10" none [sampleRecord "A" "tv.local" (some "tv.local") 1000]
        1000 0) := by
  refine (retry_unchanged_iff sampleRuntime Db.empty (Reachable.empty _) _ _ _
    (by decide +kernel) (by decide)).mpr ?_ _ ⟨rfl, rfl, rfl⟩
  rintro ⟨-, row, hrow, -⟩
  simp [findDeviceBySrcIp, Db.empty] at hrow

/-! ### An event that brings an address and another host -/

/-- The device again, now with its address, under another host. -/
def addressedEvent : IngestInput :=
  sampleInput "192.168.1.10" (some "aa:aa:aa:aa:aa:aa")
    [sampleRecord "A" "pc.local" (some "pc.local") 2000] 2000 1

/-- The device after the event: it has the address and its own host. -/
def addressedDevice : Db :=
  runOperation sampleRuntime addresslessDevice (.ingest addressedEvent)

/-- The retry of the event renames the device. -/
theorem otherHost_renamed :
    ¬ ∀ rt db, Reachable rt db → ∀ inp deviceId db₁,
      processDiscoveryEvent rt db inp = .ok (deviceId, db₁) →
        inp.alertUuid 0 ∉ db.alerts.map AlertRow.alertId →
          ∀ inp', SameRequest inp inp' → RetryUnchanged rt db₁ deviceId inp' := by
  intro h
  have hreach : Reachable sampleRuntime addresslessDevice := (Reachable.empty sampleRuntime).run _
  have hrun : processDiscoveryEvent sampleRuntime addresslessDevice addressedEvent =
      .ok (sampleUuid 0, addressedDevice) := by
    decide +kernel
  obtain ⟨db₂, hrun₂, htables⟩ := h _ _ hreach _ _ _ hrun (by decide +kernel) addressedEvent
    ⟨rfl, rfl, rfl⟩
  have hdevices := congrArg Tables.devices htables
  rw [← runOperation_ingest_of_ok hrun₂] at hdevices
  revert hdevices
  decide +kernel

end Api
end LanDiscovery

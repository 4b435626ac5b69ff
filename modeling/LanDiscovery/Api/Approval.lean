import LanDiscovery.Api.Service

/-!
# Approval

What approval means for the tables: a device is approved exactly when it has a
baseline, the baseline lists services that the device still has, and neither an
approval nor a host is taken back (`approval_invariant`).  After an approval the
policy is silent for as long as the device is left as it was, and a repeated
approval records its time and the new name only (`approve_quiet`).  A device that is
renamed and comes back to its name in the meantime does raise an alert
(`renamedBack_alerts`).
-/

namespace LanDiscovery
namespace Api

open Library Library.Transition MdnsNames

/-! ## The invariant -/

/-- What holds of devices and baselines together: the approved devices are the ones
with a baseline, and a device has the services of its baseline, and a host if its
baseline has one. -/
structure ApprovalsHold (t : Tables) : Prop where
  status : ∀ row ∈ t.devices,
    row.status = .approved ↔ ∃ baseline ∈ t.deviceBaselines, baseline.deviceId = row.deviceId
  services : ∀ baseline ∈ t.deviceBaselines,
    ∀ key ∈ baseline.servicesJson, key ∈ t.serviceKeysOf baseline.deviceId
  hosts : ∀ row ∈ t.devices, ∀ baseline ∈ t.deviceBaselines, baseline.deviceId = row.deviceId →
    (truthy baseline.mdnsHost).isSome → (truthy row.mdnsHost).isSome

/-- Every device stays, approved if it was, and with a host if it had one. -/
def Retained (t t' : Tables) : Prop :=
  ∀ row ∈ t.devices, ∃ row' ∈ t'.devices, row'.deviceId = row.deviceId ∧
    (row.status = .approved → row'.status = .approved) ∧
    ((truthy row.mdnsHost).isSome → (truthy row'.mdnsHost).isSome)

theorem Retained.refl (t : Tables) : Retained t t :=
  fun row hrow => ⟨row, hrow, rfl, id, id⟩

theorem Retained.trans {t t' t'' : Tables} (h : Retained t t') (h' : Retained t' t'') :
    Retained t t'' := by
  intro row hrow
  obtain ⟨row', hrow', hid, hstatus, hhost⟩ := h row hrow
  obtain ⟨row'', hrow'', hid', hstatus', hhost'⟩ := h' row' hrow'
  exact ⟨row'', hrow'', hid'.trans hid, hstatus' ∘ hstatus, hhost' ∘ hhost⟩

section

variable {rt : PyRuntime} {db : Db} {inp : IngestInput}

/-- An ingest does not take services away. -/
theorem mem_serviceKeysOf_ingested {deviceId : Uuid} {key : Str}
    (h : key ∈ db.serviceKeysOf deviceId) : key ∈ (ingested rt db inp).serviceKeysOf deviceId := by
  rw [serviceKeysOf_ingested]
  split
  · exact List.mem_append_left _ h
  · exact h

/-- A baseline in the tables of an ingest belongs to the device of the event only if
the device was there before. -/
theorem exists_device_of_baseline (hok : Acceptable db inp) {baseline : BaselineRow}
    (hbaseline : baseline ∈ db.deviceBaselines)
    (hid : baseline.deviceId = (observedRow db inp).deviceId) :
    ∃ row, (resolution db inp.event inp.macHint).device = some row := by
  cases hdevice : (resolution db inp.event inp.macHint).device with
  | some row => exact ⟨row, rfl⟩
  | none =>
      have href := db.constraints.baselineRefs baseline hbaseline
      rw [hid] at href
      exact absurd href (observedRow_of_device_none hdevice hok).1

theorem approvalsHold_ingested (hok : Acceptable db inp) (h : ApprovalsHold db.toTables) :
    ApprovalsHold (ingested rt db inp) where
  status := by
    intro row hrow
    rcases mem_devices_ingested.mp hrow with rfl | ⟨hold, -⟩
    · cases hdevice : (resolution db inp.event inp.macHint).device with
      | some row =>
          obtain ⟨hmem, hid, hstatus⟩ := observedRow_of_device hdevice
          rw [hstatus, hid]
          exact h.status row hmem
      | none =>
          -- a new device is neither approved nor in the baselines
          rw [(observedRow_of_device_none hdevice hok).2]
          refine iff_of_false (by simp) ?_
          rintro ⟨baseline, hbaseline, hid⟩
          obtain ⟨row, hrow⟩ := exists_device_of_baseline hok hbaseline hid
          exact absurd (hdevice.symm.trans hrow) (by simp)
    · exact h.status row hold
  services := fun baseline hbaseline key hkey =>
    mem_serviceKeysOf_ingested (h.services baseline hbaseline key hkey)
  hosts := by
    intro row hrow baseline hbaseline hid hhost
    rcases mem_devices_ingested.mp hrow with rfl | ⟨hold, -⟩
    · obtain ⟨row, hdevice⟩ := exists_device_of_baseline hok hbaseline hid
      obtain ⟨hmem, hsame, -⟩ := observedRow_of_device hdevice
      rw [observedRow_mdnsHost]
      exact truthy_mergedHost_isSome hdevice
        (h.hosts row hmem baseline hbaseline (hid.trans hsame) hhost)
    · exact h.hosts row hold baseline hbaseline hid hhost

theorem retained_ingested (hok : Acceptable db inp) :
    Retained db.toTables (ingested rt db inp) := by
  intro row hrow
  by_cases hid : row.deviceId = (observedRow db inp).deviceId
  · -- the device of the event is the one that is updated
    refine ⟨observedRow db inp, mem_devices_ingested.mpr (Or.inl rfl), hid.symm, ?_⟩
    cases hdevice : (resolution db inp.event inp.macHint).device with
    | none =>
        have hmem : row.deviceId ∈ db.deviceIds := List.mem_map_of_mem hrow
        rw [hid] at hmem
        exact absurd hmem (observedRow_of_device_none hdevice hok).1
    | some found =>
        obtain ⟨hfound, hsame, hstatus⟩ := observedRow_of_device hdevice
        obtain rfl := Table.eq_of_key_eq db.constraints.deviceKeys hrow hfound (hid.trans hsame)
        rw [hstatus, observedRow_mdnsHost]
        exact ⟨id, truthy_mergedHost_isSome hdevice⟩
  · exact ⟨row, mem_devices_ingested.mpr (Or.inr ⟨hrow, hid⟩), rfl, id, id⟩

end

section

variable {db : Db} {row : DeviceRow} {displayName : Option Str} {nowMs : Int}

theorem mem_devices_approved {t : Tables} {r : DeviceRow} :
    r ∈ (approved t row displayName nowMs).devices ↔
      r = row.approve displayName ∨ (r ∈ t.devices ∧ r.deviceId ≠ row.deviceId) :=
  Table.mem_upsert

theorem mem_deviceBaselines_approved {t : Tables} {baseline : BaselineRow} :
    baseline ∈ (approved t row displayName nowMs).deviceBaselines ↔
      baseline = capturedBaseline t row nowMs ∨
        (baseline ∈ t.deviceBaselines ∧ baseline.deviceId ≠ row.deviceId) :=
  Table.mem_upsert

theorem approvalsHold_approved (h : ApprovalsHold db.toTables) :
    ApprovalsHold (approved db.toTables row displayName nowMs) where
  status := by
    intro r hr
    rcases mem_devices_approved.mp hr with rfl | ⟨hold, hne⟩
    · exact iff_of_true rfl
        ⟨capturedBaseline db.toTables row nowMs, mem_deviceBaselines_approved.mpr (Or.inl rfl), rfl⟩
    · rw [h.status r hold]
      constructor
      · rintro ⟨baseline, hbaseline, hid⟩
        exact ⟨baseline, mem_deviceBaselines_approved.mpr (Or.inr ⟨hbaseline, hid ▸ hne⟩), hid⟩
      · rintro ⟨baseline, hbaseline, hid⟩
        rcases mem_deviceBaselines_approved.mp hbaseline with rfl | ⟨hbase, -⟩
        · exact absurd hid.symm hne
        · exact ⟨baseline, hbase, hid⟩
  services := by
    intro baseline hbaseline key hkey
    rcases mem_deviceBaselines_approved.mp hbaseline with rfl | ⟨hold, -⟩
    · exact (sorted_perm _).mem_iff.mp hkey
    · exact h.services baseline hold key hkey
  hosts := by
    intro r hr baseline hbaseline hid hhost
    rcases mem_devices_approved.mp hr with rfl | ⟨hold, hne⟩ <;>
      rcases mem_deviceBaselines_approved.mp hbaseline with rfl | ⟨hbase, hneBase⟩
    · exact hhost
    · exact absurd hid hneBase
    · exact absurd hid.symm hne
    · exact h.hosts r hold baseline hbase hid hhost

theorem retained_approved (hrow : row ∈ db.devices) :
    Retained db.toTables (approved db.toTables row displayName nowMs) := by
  intro r hr
  by_cases hid : r.deviceId = row.deviceId
  · obtain rfl := Table.eq_of_key_eq db.constraints.deviceKeys hr hrow hid
    exact ⟨r.approve displayName, mem_devices_approved.mpr (Or.inl rfl), rfl, fun _ => rfl, id⟩
  · exact ⟨r, mem_devices_approved.mpr (Or.inr ⟨hr, hid⟩), rfl, id, id⟩

end

theorem Reachable.approvalsHold {rt : PyRuntime} {db : Db} (h : Reachable rt db) :
    ApprovalsHold db.toTables := by
  refine h.invariant ?_ ?_ ?_
  · exact ⟨by simp [Db.empty], by simp [Db.empty], by simp [Db.empty]⟩
  · exact fun db inp hdb hok => approvalsHold_ingested hok hdb
  · exact fun db row _ displayName nowMs hdb => approvalsHold_approved hdb

/-- One operation takes nothing back. -/
theorem retained_runOperation (rt : PyRuntime) (db : Db) (op : Operation) :
    Retained db.toTables (runOperation rt db op).toTables :=
  runOperation_preserves (fun _ _ hok => retained_ingested hok)
    (fun _ hrow _ _ _ => retained_approved hrow) (.refl _)

theorem retained_foldl (rt : PyRuntime) (db : Db) (ops : List Operation) :
    Retained db.toTables (ops.foldl (runOperation rt) db).toTables := by
  induction ops generalizing db with
  | nil => exact .refl _
  | cons op ops ih => exact (retained_runOperation rt db op).trans (ih _)

/-- **Approval invariant.**  In every reachable database the approved devices are the
ones with a baseline, whose services the device has, and no further operations take
back an approval or a host. -/
theorem approval_invariant (rt : PyRuntime) (db : Db) (h : Reachable rt db) :
    ApprovalsHold db.toTables ∧
      ∀ ops : List Operation,
        Retained db.toTables (ops.foldl (runOperation rt) db).toTables :=
  ⟨h.approvalsHold, retained_foldl rt db⟩

/-- A device with a host and a service. -/
def seenDevice : Db :=
  runOperation sampleRuntime Db.empty
    (.ingest (sampleInput "192.168.1.10" none
      [{ sampleRecord "SRV" "TV._airplay._tcp.local" (some "tv.local") 1000 with
         service := some (str "TV._airplay._tcp.local") }] 1000 0))

/-- The device, approved. -/
def approvedDevice : Db :=
  runOperation sampleRuntime seenDevice (.approve (sampleUuid 0) none 2000)

theorem approvedDevice_kept :
    ApprovalsHold approvedDevice.toTables ∧
      ∀ ops : List Operation,
        Retained approvedDevice.toTables (ops.foldl (runOperation sampleRuntime)
          approvedDevice).toTables :=
  approval_invariant sampleRuntime approvedDevice (((Reachable.empty sampleRuntime).run _).run _)

/-! ## Silence after an approval -/

/-- The alerts of a device. -/
def Tables.alertsOf (t : Tables) (deviceId : Uuid) : List AlertRow :=
  t.alerts.filter fun alert => alert.deviceId = deviceId

/-- The device has the host of the row, and the services it has in the first tables. -/
def LeftAsIt (t : Tables) (row : DeviceRow) (t' : Tables) : Prop :=
  (∀ r ∈ t'.devices, r.deviceId = row.deviceId → r.mdnsHost = row.mdnsHost) ∧
    ∀ key, key ∈ t'.serviceKeysOf row.deviceId ↔ key ∈ t.serviceKeysOf row.deviceId

/-- The database after an ingest. -/
def ingestStep (rt : PyRuntime) (db : Db) (inp : IngestInput) : Db :=
  runOperation rt db (.ingest inp)

/-- The device is approved with the baseline. -/
structure ApprovedWith (t : Tables) (baseline : BaselineRow) : Prop where
  captured : baseline ∈ t.deviceBaselines
  stored : ∃ row ∈ t.devices, row.deviceId = baseline.deviceId ∧ row.status = .approved

theorem serviceKeysOf_nodup (db : Db) (deviceId : Uuid) : (db.serviceKeysOf deviceId).Nodup := by
  refine (db.constraints.serviceKeys.filter _).map_on ?_
  intro r hr s hs heq
  have hid : r.deviceId = deviceId := by simpa using (List.mem_filter.mp hr).2
  have hid' : s.deviceId = deviceId := by simpa using (List.mem_filter.mp hs).2
  cases r
  cases s
  simp_all

/-- Services that are stored sort to one list when they are the same set. -/
theorem sorted_serviceKeysOf_eq {db db' : Db} {deviceId : Uuid}
    (h : ∀ key, key ∈ db'.serviceKeysOf deviceId ↔ key ∈ db.serviceKeysOf deviceId) :
    sorted (db'.serviceKeysOf deviceId) = sorted (db.serviceKeysOf deviceId) :=
  sorted_eq_iff_perm.mpr ((List.perm_ext_iff_of_nodup (serviceKeysOf_nodup db' deviceId)
    (serviceKeysOf_nodup db deviceId)).mpr h)

/-- The alerts of an ingest are alerts of its device. -/
theorem deviceId_of_mem_newAlerts {rt : PyRuntime} {db : Db} {inp : IngestInput}
    {alert : AlertRow} (h : alert ∈ newAlerts rt db inp) :
    alert.deviceId = (observedRow db inp).deviceId := by
  unfold newAlerts at h
  split at h
  · exact absurd h (by simp)
  · unfold Tables.newAlertRows at h
    split at h
    · exact absurd h (by simp)
    · rw [List.mem_singleton.mp h]
      rfl

theorem alertsOf_ingested_of_ne {rt : PyRuntime} {db : Db} {inp : IngestInput} {deviceId : Uuid}
    (h : deviceId ≠ (observedRow db inp).deviceId) :
    (ingested rt db inp).alertsOf deviceId = db.alertsOf deviceId := by
  have hnone : (newAlerts rt db inp).filter (fun alert => alert.deviceId = deviceId) = [] := by
    refine List.filter_eq_nil_iff.mpr fun alert halert => ?_
    rw [deviceId_of_mem_newAlerts halert]
    simpa using h.symm
  rw [Tables.alertsOf, ingested, List.filter_append, hnone, List.append_nil]
  rfl

section

variable {rt : PyRuntime} {db db₀ : Db} {row : DeviceRow} {nowMs : Int}

/-- An ingest leaves an approval and its baseline in force. -/
theorem approvedWith_ingestStep {baseline : BaselineRow} (h : ApprovedWith db.toTables baseline)
    (inp : IngestInput) : ApprovedWith (ingestStep rt db inp).toTables baseline := by
  obtain ⟨row, hrow, hid, hstatus⟩ := h.stored
  refine runOperation_preserves (I := fun t => ApprovedWith t baseline) ?_ ?_ h
  · intro inp' _ hok
    have hretained : Retained db.toTables (ingested rt db inp') := retained_ingested hok
    obtain ⟨row', hrow', hid', hstatus', -⟩ := hretained row hrow
    exact ⟨h.captured, row', hrow', hid'.trans hid, hstatus' hstatus⟩
  · exact fun _ _ _ _ hop => absurd hop (by simp)

theorem approvedWith_foldl {baseline : BaselineRow} (h : ApprovedWith db.toTables baseline)
    (inputs : List IngestInput) :
    ApprovedWith (inputs.foldl (ingestStep rt) db).toTables baseline := by
  induction inputs generalizing db with
  | nil => exact h
  | cons inp inputs ih => exact ih (approvedWith_ingestStep h inp)

/-- The device of an event is still approved if it was. -/
theorem ApprovedWith.status_observedRow {baseline : BaselineRow} {inp : IngestInput}
    (h : ApprovedWith db.toTables baseline) (rt : PyRuntime) (hok : Acceptable db inp)
    (hid : baseline.deviceId = (observedRow db inp).deviceId) :
    (observedRow db inp).status = .approved := by
  obtain ⟨r, hr, hrid, hrstatus⟩ := h.stored
  have hretained : Retained db.toTables (ingested rt db inp) := retained_ingested hok
  obtain ⟨r', hr', hrid', hrstatus', -⟩ := hretained r hr
  have hkeys := (constraints_ingested rt hok).deviceKeys
  have hself : observedRow db inp ∈ (ingested rt db inp).devices :=
    mem_devices_ingested.mpr (Or.inl rfl)
  rw [← Table.eq_of_key_eq hkeys hr' hself (hrid'.trans (hrid.trans hid))]
  exact hrstatus' hrstatus

/-- The policy finds nothing where the device of the event has the host and the services
of its baseline. -/
theorem policyFinding_of_leftAsIt {inp : IngestInput} (hok : Acceptable db inp)
    (h : ApprovedWith db.toTables (capturedBaseline db₀.toTables row nowMs))
    (hleft : LeftAsIt db₀.toTables row (ingested rt db inp))
    (hid : row.deviceId = (observedRow db inp).deviceId) :
    policyFinding rt (observedTables db inp) (observedRow db inp) = none := by
  have hhost : (observedRow db inp).mdnsHost = row.mdnsHost :=
    hleft.1 _ (mem_devices_ingested.mpr (Or.inl rfl)) hid.symm
  obtain ⟨db', hdb'⟩ := Db.exists_toTables (constraints_ingested rt hok)
  have hkeys := hleft.2
  rw [← hdb'] at hkeys
  have hservices := sorted_serviceKeysOf_eq hkeys
  rw [hdb', hid] at hservices
  have hbaseline : Table.lookup BaselineRow.deviceId (observedRow db inp).deviceId
      db.deviceBaselines = some (capturedBaseline db₀.toTables row nowMs) := by
    rw [← hid]
    exact Table.lookup_of_mem db.constraints.baselineKeys h.captured
  have hstatus := h.status_observedRow rt hok hid
  rw [policyFinding]
  change policyAlert rt _ ((Table.lookup BaselineRow.deviceId (observedRow db inp).deviceId
    db.deviceBaselines).map BaselineRow.state) = _
  rw [hbaseline]
  refine policyAlert_of_sameState hstatus ⟨congrArg (Option.getD · []) hhost, ?_⟩
  change (sorted ((ingested rt db inp).serviceKeysOf (observedRow db inp).deviceId)).Perm
    (sorted (sorted (db₀.serviceKeysOf row.deviceId)))
  rw [hservices, sorted_sorted, hid]

/-- An ingest that leaves an approved device in the state of its baseline adds no
alert for it. -/
theorem alertsOf_ingestStep (inp : IngestInput)
    (h : ApprovedWith db.toTables (capturedBaseline db₀.toTables row nowMs))
    (hleft : LeftAsIt db₀.toTables row (ingestStep rt db inp).toTables) :
    (ingestStep rt db inp).alertsOf row.deviceId = db.alertsOf row.deviceId := by
  rcases runOperation_cases rt db (.ingest inp) with hsame | ⟨inp', hinp, hok, htables⟩ |
    ⟨_, _, _, _, hop, _⟩
  · rw [ingestStep, hsame]
  · obtain rfl := Operation.ingest.inj hinp
    change (ingestStep rt db inp).toTables = ingested rt db inp at htables
    rw [htables] at hleft ⊢
    by_cases hid : row.deviceId = (observedRow db inp).deviceId
    · have hfinding := policyFinding_of_leftAsIt hok h hleft hid
      rw [Tables.alertsOf, ingested, newAlerts, hfinding, List.append_nil]
      rfl
    · exact alertsOf_ingested_of_ne hid
  · exact absurd hop (by simp)

/-- An approval that finds the device in the state of its baseline changes the time of
the baseline and the name. -/
theorem approved_again {row' : DeviceRow} (hrow' : row' ∈ db.devices)
    (hid : row'.deviceId = row.deviceId)
    (h : ApprovedWith db.toTables (capturedBaseline db₀.toTables row nowMs))
    (hleft : LeftAsIt db₀.toTables row db.toTables) (displayName : Option Str) (laterMs : Int) :
    approved db.toTables row' displayName laterMs =
      { db.toTables with
        devices := Table.updateRow DeviceRow.deviceId row.deviceId
          (fun r => { r with displayName := displayName.or r.displayName }) db.devices
        deviceBaselines := Table.updateRow BaselineRow.deviceId row.deviceId
          (fun baseline => { baseline with capturedAtMs := laterMs }) db.deviceBaselines } := by
  have hstatus : row'.status = .approved := by
    obtain ⟨r, hr, hrid, hrstatus⟩ := h.stored
    obtain rfl := Table.eq_of_key_eq db.constraints.deviceKeys hr hrow' (hrid.trans hid.symm)
    exact hrstatus
  have hdevice : row'.approve displayName =
      { row' with displayName := displayName.or row'.displayName } := by
    rw [DeviceRow.approve, ← hstatus]
  have hbaseline : capturedBaseline db.toTables row' laterMs =
      { capturedBaseline db₀.toTables row nowMs with capturedAtMs := laterMs } := by
    rw [capturedBaseline, hid, hleft.1 row' hrow' hid, sorted_serviceKeysOf_eq hleft.2]
    rfl
  have hdevices := Table.updateRow_eq_upsert db.constraints.deviceKeys hrow'
    (f := fun r => { r with displayName := displayName.or r.displayName }) rfl
  have hbaselines := Table.updateRow_eq_upsert db.constraints.baselineKeys h.captured
    (f := fun baseline => { baseline with capturedAtMs := laterMs }) rfl
  rw [approved, hdevice, hbaseline, ← hdevices, ← hbaselines, hid]
  rfl

end

/-- An existing device can be approved. -/
theorem runOperation_approve_of_mem (rt : PyRuntime) {db : Db} {row : DeviceRow}
    (hrow : row ∈ db.devices) (displayName : Option Str) (nowMs : Int) :
    (runOperation rt db (.approve row.deviceId displayName nowMs)).toTables =
      approved db.toTables row displayName nowMs := by
  obtain ⟨db', hrun, htables⟩ := exists_approveDevice hrow displayName nowMs
  rw [runOperation, hrun, committed]
  exact htables

/-- **Approve means quiet.**  After an approval no ingest adds an alert for the device
while each of them leaves it as it was, and when it is as it was, a repeated approval
changes the time of the baseline and the name that is given. -/
theorem approve_quiet (rt : PyRuntime) (db : Db) (row : DeviceRow) (hrow : row ∈ db.devices)
    (displayName : Option Str) (nowMs : Int) (approvedDb : Db)
    (happroved : approvedDb = runOperation rt db (.approve row.deviceId displayName nowMs))
    (inputs : List IngestInput) (later : Db)
    (hlater : later = inputs.foldl (ingestStep rt) approvedDb) :
    (EveryStep (ingestStep rt)
        (fun db inp => LeftAsIt approvedDb.toTables row (ingestStep rt db inp).toTables)
        approvedDb inputs →
      later.alertsOf row.deviceId = approvedDb.alertsOf row.deviceId) ∧
    (LeftAsIt approvedDb.toTables row later.toTables → ∀ displayName' laterMs,
      (runOperation rt later (.approve row.deviceId displayName' laterMs)).toTables =
        { later.toTables with
          devices := Table.updateRow DeviceRow.deviceId row.deviceId
            (fun r => { r with displayName := displayName'.or r.displayName }) later.devices
          deviceBaselines := Table.updateRow BaselineRow.deviceId row.deviceId
            (fun baseline => { baseline with capturedAtMs := laterMs })
            later.deviceBaselines }) := by
  have htables : approvedDb.toTables = approved db.toTables row displayName nowMs :=
    happroved ▸ runOperation_approve_of_mem rt hrow displayName nowMs
  -- the baseline that the approval captures stays in force
  have hstart : ApprovedWith approvedDb.toTables
      (capturedBaseline approvedDb.toTables row nowMs) := by
    rw [htables]
    exact ⟨mem_deviceBaselines_approved.mpr (Or.inl rfl), row.approve displayName,
      mem_devices_approved.mpr (Or.inl rfl), rfl, rfl⟩
  constructor
  · intro hsteps
    have hquiet := EveryStep.invariant
      (I := fun db => ApprovedWith db.toTables (capturedBaseline approvedDb.toTables row nowMs) ∧
        db.alertsOf row.deviceId = approvedDb.alertsOf row.deviceId)
      (fun db inp h hleft => ⟨approvedWith_ingestStep h.1 inp,
        (alertsOf_ingestStep inp h.1 hleft).trans h.2⟩) hsteps ⟨hstart, rfl⟩
    rw [hlater]
    exact hquiet.2
  · intro hleft displayName' laterMs
    have hlaterApproved : ApprovedWith later.toTables
        (capturedBaseline approvedDb.toTables row nowMs) := by
      rw [hlater]
      exact approvedWith_foldl hstart inputs
    obtain ⟨row', hrow', hid, -⟩ := hlaterApproved.stored
    have hid' : row'.deviceId = row.deviceId := hid
    rw [← hid', runOperation_approve_of_mem rt hrow', hid']
    exact approved_again hrow' hid' hlaterApproved hleft displayName' laterMs

/-- The device again, and another one. -/
def laterEvents : List IngestInput :=
  [sampleInput "192.168.1.10" none [sampleRecord "A" "tv.local" (some "tv.local") 3000] 3000 1,
    sampleInput "192.168.1.20" none [sampleRecord "A" "pc.local" (some "pc.local") 4000] 4000 2]

theorem laterEvents_quiet :
    (laterEvents.foldl (ingestStep sampleRuntime) approvedDevice).alertsOf (sampleUuid 0) =
      approvedDevice.alertsOf (sampleUuid 0) := by
  have hstored : ∃ row ∈ seenDevice.devices,
      row.deviceId = sampleUuid 0 ∧ row.mdnsHost = some (str "tv.local") := by
    decide +kernel
  obtain ⟨row, hrow, hid, hhost⟩ := hstored
  have hquiet := (approve_quiet sampleRuntime seenDevice row hrow none 2000 approvedDevice
    (by rw [hid, approvedDevice]) laterEvents _ rfl).1
  have hleft : ∀ db : Db,
      (∀ r ∈ db.devices, r.deviceId = sampleUuid 0 → r.mdnsHost = some (str "tv.local")) →
      db.serviceKeysOf (sampleUuid 0) = approvedDevice.serviceKeysOf (sampleUuid 0) →
        LeftAsIt approvedDevice.toTables row db.toTables := by
    intro db hhosts hkeys
    refine ⟨?_, fun key => ?_⟩
    · rw [hid, hhost]
      exact hhosts
    · rw [hid, hkeys]
  rw [hid] at hquiet
  refine hquiet ⟨hleft _ ?_ ?_, hleft _ ?_ ?_, trivial⟩ <;> decide +kernel

/-- The device with another host, and with its own again. -/
def renamedBack : List IngestInput :=
  [sampleInput "192.168.1.10" none
      [sampleRecord "SRV" "TV._airplay._tcp.local" (some "pc.local") 3000] 3000 1,
    sampleInput "192.168.1.10" none
      [sampleRecord "SRV" "TV._airplay._tcp.local" (some "tv.local") 4000] 4000 2]

/-- **To be as it was in the end is not enough.**  The first of these events raises an
alert, although the second one undoes it. -/
theorem renamedBack_alerts :
    ¬ ∀ (rt : PyRuntime) (db : Db), Reachable rt db → ∀ row ∈ db.devices,
      ∀ (displayName : Option Str) (nowMs : Int) (inputs : List IngestInput),
        let approvedDb := runOperation rt db (.approve row.deviceId displayName nowMs)
        let later := inputs.foldl (ingestStep rt) approvedDb
        LeftAsIt approvedDb.toTables row later.toTables →
          later.alertsOf row.deviceId = approvedDb.alertsOf row.deviceId := by
  intro h
  have hstored : ∃ row ∈ seenDevice.devices,
      row.deviceId = sampleUuid 0 ∧ row.mdnsHost = some (str "tv.local") := by
    decide +kernel
  obtain ⟨row, hrow, hid, hhost⟩ := hstored
  have hquiet := h sampleRuntime seenDevice ((Reachable.empty sampleRuntime).run _) row hrow none
    2000 renamedBack
  dsimp only at hquiet
  rw [hid] at hquiet
  have hleft : LeftAsIt approvedDevice.toTables row
      (renamedBack.foldl (ingestStep sampleRuntime) approvedDevice).toTables := by
    rw [LeftAsIt, hid, hhost]
    refine ⟨by decide +kernel, fun key => ?_⟩
    have hkeys : (renamedBack.foldl (ingestStep sampleRuntime) approvedDevice).serviceKeysOf
        (sampleUuid 0) = approvedDevice.serviceKeysOf (sampleUuid 0) := by decide +kernel
    rw [hkeys]
  have hsame := hquiet hleft
  have hcount : ((renamedBack.foldl (ingestStep sampleRuntime) approvedDevice).alertsOf
      (sampleUuid 0)).length ≠ (approvedDevice.alertsOf (sampleUuid 0)).length := by
    decide +kernel
  exact hcount (congrArg List.length hsame)

end Api
end LanDiscovery

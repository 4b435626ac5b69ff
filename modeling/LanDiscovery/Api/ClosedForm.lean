import LanDiscovery.Api.Attribution

/-!
# Closed forms of ingest and approval

`processDiscoveryEvent_eq_ok_iff` is the closed form of ingest: when the call
succeeds the row of the device is `observedRow` and the tables are `ingested`.
`approveDevice_of_mem` is that of approval.  Everything else about the two is read
off from them.
-/

namespace LanDiscovery
namespace Api

open Library Library.Outcome MdnsNames

/-! ## What ingest does -/

section

variable (rt : PyRuntime) (db : Db) (inp : IngestInput)

/-- The hint of a call. -/
def IngestInput.macHint : Option Mac :=
  resolveMacHint inp.event inp.hintLookup

/-- The address that a call can attach. -/
def IngestInput.attachedMac : Option Mac :=
  macOrLookup inp.event.mac inp.attachLookup

/-- The row of the device after the call. -/
def observedRow : DeviceRow :=
  let row := resolvedRow db inp.event inp.macHint inp.deviceUuid
  { row with mac := row.mac.or inp.attachedMac }

/-- The services after the call. -/
def observedServices : List ServiceRow :=
  db.services ++ db.newServiceRows (observedRow db inp).deviceId
    (serviceTypesFromRecords inp.event.records)

/-- The tables after the call, before the alerts. -/
def observedTables : Tables :=
  { db.toTables with
    devices := Table.upsert DeviceRow.deviceId (observedRow db inp) db.devices
    services := observedServices db inp
    discoveryEvents := db.discoveryEvents ++
      [{ deviceId := (observedRow db inp).deviceId, receivedAtMs := inp.receivedMs,
         payload := inp.event }] }

/-- What the policy is told about a device on given tables. -/
def policyState (t : Tables) (row : DeviceRow) : DevicePolicyState where
  deviceId := row.deviceId
  status := row.status
  mdnsHost := row.mdnsHost
  services := sorted (t.serviceKeysOf row.deviceId)

/-- What the policy finds on given tables. -/
def policyFinding (t : Tables) (row : DeviceRow) : Option PolicyAlert :=
  policyAlert rt (policyState t row)
    ((Table.lookup BaselineRow.deviceId row.deviceId t.deviceBaselines).map BaselineRow.state)

/-- The row of an alert. -/
def alertRow (deviceId : Uuid) (alert : PolicyAlert) : AlertRow where
  alertId := inp.alertUuid 0
  deviceId := deviceId
  alertType := alert.alertType
  message := alert.message
  severity := alert.severity
  observedAtMs := inp.receivedMs
  dedupeKey := alert.dedupeKey

/-- The alert rows that the call adds. -/
def newAlerts : List AlertRow :=
  match policyFinding rt (observedTables db inp) (observedRow db inp) with
  | none => []
  | some alert => db.newAlertRows (alertRow inp (observedRow db inp).deviceId alert)

/-- The tables after the call. -/
def ingested : Tables :=
  { observedTables db inp with alerts := db.alerts ++ newAlerts rt db inp }

/-- When the call succeeds. -/
structure Acceptable : Prop where
  srcIp : inp.event.srcIp ≠ []
  seenMs : FitsInteger (eventSeenMs inp.event)
  fresh : resolution db inp.event inp.macHint = .fresh → inp.deviceUuid ∉ db.deviceIds
  mac : db.MacFree (observedRow db inp).deviceId (observedRow db inp).mac

end

@[simp] theorem resolvedRow_deviceId (db : Db) (inp : IngestInput) :
    (resolvedRow db inp.event inp.macHint inp.deviceUuid).deviceId =
      (observedRow db inp).deviceId := rfl

theorem attachMacIfNeeded_eq_ok_iff {db db' : Db} {row : DeviceRow} (hrow : row ∈ db.devices)
    {eventMac : Option Str} {lookup : Option Mac} :
    attachMacIfNeeded db row.deviceId eventMac lookup = .ok db' ↔
      db.MacFree row.deviceId (row.mac.or (macOrLookup eventMac lookup)) ∧
      db'.toTables =
        { db.toTables with
          devices := Table.upsert DeviceRow.deviceId
            { row with mac := row.mac.or (macOrLookup eventMac lookup) } db.devices } := by
  have hkeep : { db.toTables with
      devices := Table.upsert DeviceRow.deviceId row db.devices } = db.toTables := by
    rw [Table.upsert_eq_self db.constraints.deviceKeys hrow]
  have hself : ∀ mac, row.mac = mac → ((.ok db : Except ApiError Db) = .ok db' ↔
      db.MacFree row.deviceId mac ∧
      db'.toTables =
        { db.toTables with
          devices := Table.upsert DeviceRow.deviceId { row with mac } db.devices }) := by
    rintro _ rfl
    rw [and_iff_right (db.constraints.macFree hrow), hkeep, Except.ok.injEq]
    exact ⟨fun h => h ▸ rfl, fun h => (Db.ext_tables h).symm⟩
  -- a row that has an address is left alone
  unfold attachMacIfNeeded
  rw [getDeviceRow_of_mem hrow]
  cases hmac : row.mac with
  | some mac => simpa [hmac] using hself (some mac) hmac
  | none =>
      cases hfound : macOrLookup eventMac lookup with
      | none => simpa [hmac, hfound] using hself none hmac
      | some mac => simpa [hmac, hfound] using updateDeviceMac_eq_ok_iff hrow

theorem applyPolicyAlerts_eq_ok_iff {rt : PyRuntime} {db db' : Db} {row : DeviceRow}
    (hrow : row ∈ db.devices) {inp : IngestInput} :
    applyPolicyAlerts rt db row.deviceId inp.receivedMs inp.alertUuid = .ok db' ↔
      db'.toTables =
        { db.toTables with
          alerts := db.alerts ++
            match policyFinding rt db.toTables row with
            | none => []
            | some alert => db.newAlertRows (alertRow inp row.deviceId alert) } := by
  have hid : row.deviceId ∈ db.deviceIds := List.mem_map_of_mem hrow
  unfold applyPolicyAlerts
  rw [getDeviceRow_of_mem hrow]
  dsimp only
  rw [evaluateSecurityPolicy_eq]
  change insertAlerts db row.deviceId inp.receivedMs inp.alertUuid
    (policyFinding rt db.toTables row).toList = .ok db' ↔ _
  cases policyFinding rt db.toTables row with
  | none =>
      simp only [insertAlerts, Option.toList_none, List.zipIdx_nil, List.foldlM_nil, pure_eq_ok,
        Except.ok.injEq, List.append_nil]
      exact ⟨fun h => h ▸ rfl, fun h => (Db.ext_tables h).symm⟩
  | some alert =>
      simp only [insertAlerts, Option.toList_some, List.zipIdx_cons, List.zipIdx_nil,
        List.foldlM_cons, List.foldlM_nil, bind_eq_ok_iff, Prod.exists, pure_eq_ok,
        Except.ok.injEq, insertAlertIfNew_eq_ok_iff hid, exists_eq_right]
      constructor
      · rintro ⟨_, -, htables⟩
        exact htables
      · intro htables
        refine ⟨decide (inp.alertUuid 0 ∉ db.alerts.map AlertRow.alertId ∧
          alert.dedupeKey ∉ db.alerts.map AlertRow.dedupeKey), ?_, htables⟩
        rw [decide_eq_true_iff]

/-- What follows attribution, on a database that holds the resolved row. -/
theorem afterResolution_eq_ok_iff (rt : PyRuntime) {db db₁ : Db} (db' : Db) {inp : IngestInput}
    (hdb₁ : db₁.toTables =
      { db.toTables with
        devices := Table.upsert DeviceRow.deviceId
          (resolvedRow db inp.event inp.macHint inp.deviceUuid) db.devices }) :
    (do
      let db₂ ← upsertServiceKeys db₁ (observedRow db inp).deviceId
        (serviceTypesFromRecords inp.event.records)
      let db₃ ← attachMacIfNeeded db₂ (observedRow db inp).deviceId inp.event.mac
        inp.attachLookup
      let db₄ ← appendDiscoveryEvent db₃ (observedRow db inp).deviceId inp.receivedMs inp.event
      applyPolicyAlerts rt db₄ (observedRow db inp).deviceId inp.receivedMs inp.alertUuid) =
        .ok db' ↔
      db.MacFree (observedRow db inp).deviceId (observedRow db inp).mac ∧
        db'.toTables = ingested rt db inp := by
  have hkeys := serviceTypesFromRecords_nodup inp.event.records
  have hrow₁ : resolvedRow db inp.event inp.macHint inp.deviceUuid ∈ db₁.devices := by
    rw [hdb₁]
    exact Table.mem_upsert.mpr (Or.inl rfl)
  have hid₁ : (observedRow db inp).deviceId ∈ db₁.deviceIds := by
    rw [← resolvedRow_deviceId]
    exact List.mem_map_of_mem hrow₁
  -- the services
  obtain ⟨db₂, hdb₂⟩ := Db.exists_toTables (db₁.constraints.insertNewServices hid₁ hkeys)
  rw [(upsertServiceKeys_eq_ok_iff hid₁ hkeys).mpr hdb₂, ok_bind]
  have hrow₂ : resolvedRow db inp.event inp.macHint inp.deviceUuid ∈ db₂.devices := by
    rw [hdb₂]
    exact hrow₁
  have hattach : ∀ db₃ : Db, attachMacIfNeeded db₂ (observedRow db inp).deviceId inp.event.mac
      inp.attachLookup = .ok db₃ ↔ _ := fun db₃ => attachMacIfNeeded_eq_ok_iff hrow₂
  have hfree : db₂.MacFree (observedRow db inp).deviceId (observedRow db inp).mac ↔
      db.MacFree (observedRow db inp).deviceId (observedRow db inp).mac := by
    rw [hdb₂, hdb₁]
    exact macFree_upsert
  -- only the statement that attaches an address can fail from here on
  by_cases hmac : db.MacFree (observedRow db inp).deviceId (observedRow db inp).mac
  · -- the address and the event
    obtain ⟨db₃, hdb₃⟩ := Db.exists_toTables
      ((db₂.constraints.upsertDevice_iff (observedRow db inp)).mpr (hfree.mpr hmac))
    rw [(hattach db₃).mpr ⟨hfree.mpr hmac, hdb₃⟩, ok_bind]
    have hrow₃ : observedRow db inp ∈ db₃.devices := by
      rw [hdb₃]
      exact Table.mem_upsert.mpr (Or.inl rfl)
    have hid₃ : (observedRow db inp).deviceId ∈ db₃.deviceIds := List.mem_map_of_mem hrow₃
    obtain ⟨db₄, hdb₄⟩ := Db.exists_toTables (db₃.constraints.insertEvent
      { deviceId := (observedRow db inp).deviceId, receivedAtMs := inp.receivedMs,
        payload := inp.event } hid₃)
    rw [(appendDiscoveryEvent_eq_ok_iff hid₃).mpr hdb₄, ok_bind]
    have hrow₄ : observedRow db inp ∈ db₄.devices := by
      rw [hdb₄]
      exact hrow₃
    have htables : db₄.toTables = observedTables db inp := by
      rw [hdb₄, hdb₃, hdb₂, hdb₁]
      simp only [observedTables, Table.upsert_upsert (resolvedRow_deviceId db inp).symm]
      rfl
    rw [applyPolicyAlerts_eq_ok_iff hrow₄, and_iff_right hmac, htables]
    rfl
  · constructor
    · intro h
      obtain ⟨db₃, hdb₃, -⟩ := bind_eq_ok_iff.mp h
      exact absurd (hfree.mp ((hattach db₃).mp hdb₃).1) hmac
    · exact fun h => absurd h.1 hmac

/-- **Closed form of ingest.**  The call succeeds exactly when it is acceptable,
with the device of the observed row and the ingested tables. -/
theorem processDiscoveryEvent_eq_ok_iff {rt : PyRuntime} {db db' : Db} {inp : IngestInput}
    {deviceId : Uuid} :
    processDiscoveryEvent rt db inp = .ok (deviceId, db') ↔
      Acceptable db inp ∧ deviceId = (observedRow db inp).deviceId ∧
        db'.toTables = ingested rt db inp := by
  unfold processDiscoveryEvent
  by_cases hsrc : inp.event.srcIp = []
  · simp only [hsrc, List.isEmpty_nil, if_true, throw_eq_error, error_bind]
    constructor
    · intro h
      exact absurd h (by simp)
    · rintro ⟨h, -⟩
      exact absurd hsrc h.srcIp
  · simp only [hsrc, List.isEmpty_iff, if_false, pure_eq_ok]
    constructor
    · intro h
      obtain ⟨⟨id, db₁⟩, hresolve, hrest⟩ := bind_eq_ok_iff.mp h
      obtain ⟨hfits, hfresh, rfl, hdb₁⟩ := resolveDeviceId_eq_ok_iff.mp hresolve
      have hafter := afterResolution_eq_ok_iff rt db' hdb₁
      simp only [bind_eq_ok_iff] at hrest hafter
      obtain ⟨db₂, h₂, db₃, h₃, db₄, h₄, db₅, h₅, hpair⟩ := hrest
      obtain ⟨rfl, rfl⟩ := Prod.mk.inj (Except.ok.inj hpair)
      obtain ⟨hmac, htables⟩ := hafter.mp ⟨db₂, h₂, db₃, h₃, db₄, h₄, h₅⟩
      exact ⟨⟨hsrc, hfits, hfresh, hmac⟩, rfl, htables⟩
    · rintro ⟨hok, rfl, hdb'⟩
      obtain ⟨db₁, hdb₁⟩ := Db.exists_toTables ((db.constraints.upsertDevice_iff _).mpr
        (resolvedRow_macFree db inp.event inp.macHint inp.deviceUuid))
      have hafter := afterResolution_eq_ok_iff rt db' hdb₁
      simp only [bind_eq_ok_iff] at hafter ⊢
      obtain ⟨db₂, h₂, db₃, h₃, db₄, h₄, h₅⟩ := hafter.mpr ⟨hok.mac, hdb'⟩
      have hresolve := resolveDeviceId_eq_ok_iff.mpr ⟨hok.seenMs, hok.fresh, rfl, hdb₁⟩
      exact ⟨_, hresolve, db₂, h₂, db₃, h₃, db₄, h₄, db', h₅, rfl⟩

theorem constraints_ingested (rt : PyRuntime) {db : Db} {inp : IngestInput}
    (hok : Acceptable db inp) : (ingested rt db inp).Constraints := by
  have hid : (observedRow db inp).deviceId ∈ (observedTables db inp).deviceIds :=
    mem_deviceIds_upsert.mpr (Or.inl rfl)
  have hdevice := (db.constraints.upsertDevice_iff (observedRow db inp)).mpr hok.mac
  have hservices := hdevice.insertNewServices hid (serviceTypesFromRecords_nodup inp.event.records)
  have hobserved : (observedTables db inp).Constraints := hservices.insertEvent _ hid
  -- the policy adds one alert at most, under a new key
  unfold ingested newAlerts
  cases policyFinding rt (observedTables db inp) (observedRow db inp) with
  | none =>
      dsimp only
      rw [List.append_nil]
      exact hobserved
  | some alert =>
      dsimp only
      unfold Tables.newAlertRows
      split
      · rw [List.append_nil]
        exact hobserved
      · next hnew =>
          obtain ⟨halert, hkey⟩ := not_or.mp hnew
          exact hobserved.insertAlert hid halert hkey

/-- An acceptable call succeeds. -/
theorem exists_processDiscoveryEvent (rt : PyRuntime) {db : Db} {inp : IngestInput}
    (hok : Acceptable db inp) :
    ∃ db', processDiscoveryEvent rt db inp = .ok ((observedRow db inp).deviceId, db') ∧
      db'.toTables = ingested rt db inp := by
  obtain ⟨db', hdb'⟩ := Db.exists_toTables (constraints_ingested rt hok)
  exact ⟨db', processDiscoveryEvent_eq_ok_iff.mpr ⟨hok, rfl, hdb'⟩, hdb'⟩

/-- The policy looks at the services and the baseline of a device. -/
theorem policyFinding_congr {rt : PyRuntime} {t t' : Tables} (hservices : t.services = t'.services)
    (hbaselines : t.deviceBaselines = t'.deviceBaselines) (row : DeviceRow) :
    policyFinding rt t row = policyFinding rt t' row := by
  rw [policyFinding, policyFinding, policyState, policyState, Tables.serviceKeysOf,
    Tables.serviceKeysOf, hservices, hbaselines]

/-- A new device gets an identifier that no device has. -/
theorem Acceptable.ne_deviceUuid {db : Db} {inp : IngestInput} (h : Acceptable db inp)
    (hres : resolution db inp.event inp.macHint = .fresh) {row : DeviceRow}
    (hrow : row ∈ db.devices) : row.deviceId ≠ inp.deviceUuid := by
  intro heq
  exact h.fresh hres (heq ▸ List.mem_map_of_mem hrow)

theorem mem_devices_ingested {rt : PyRuntime} {db : Db} {inp : IngestInput} {row : DeviceRow} :
    row ∈ (ingested rt db inp).devices ↔
      row = observedRow db inp ∨
        (row ∈ db.devices ∧ row.deviceId ≠ (observedRow db inp).deviceId) :=
  Table.mem_upsert

@[simp] theorem observedRow_of_byMac {db : Db} {inp : IngestInput} {row : DeviceRow}
    (h : resolution db inp.event inp.macHint = .byMac row) :
    observedRow db inp = row.seenByMac inp.event := by
  obtain ⟨mac, hmac⟩ := Option.ne_none_iff_exists'.mp (resolution_eq_byMac h).2.1
  simp [observedRow, resolvedRow, h, DeviceRow.seenByMac, hmac]

@[simp] theorem observedRow_of_bySrcIp {db : Db} {inp : IngestInput} {row : DeviceRow}
    (h : resolution db inp.event inp.macHint = .bySrcIp row) :
    observedRow db inp =
      { row.seenBySrcIp inp.event inp.macHint with
        mac := row.mac.or (inp.macHint.or inp.attachedMac) } := by
  simp [observedRow, resolvedRow, h, DeviceRow.seenBySrcIp, Option.or_assoc]

@[simp] theorem observedRow_of_fresh {db : Db} {inp : IngestInput}
    (h : resolution db inp.event inp.macHint = .fresh) :
    observedRow db inp =
      .ofEvent inp.event (inp.macHint.or inp.attachedMac) inp.deviceUuid := by
  simp [observedRow, resolvedRow, h, DeviceRow.ofEvent]

theorem observedRow_srcIp (db : Db) (inp : IngestInput) :
    (observedRow db inp).srcIp = inp.event.srcIp := by
  cases hres : resolution db inp.event inp.macHint with
  | byMac row => rw [observedRow_of_byMac hres, DeviceRow.seenByMac]
  | bySrcIp row =>
      rw [observedRow_of_bySrcIp hres]
      exact (findDeviceBySrcIp_eq_some (resolution_eq_bySrcIp hres).1).2
  | fresh => rw [observedRow_of_fresh hres, DeviceRow.ofEvent]

@[simp] theorem observedRow_lastSeenMs (db : Db) (inp : IngestInput) :
    (observedRow db inp).lastSeenMs = eventSeenMs inp.event := by
  cases hres : resolution db inp.event inp.macHint with
  | byMac row => rw [observedRow_of_byMac hres, DeviceRow.seenByMac]
  | bySrcIp row => rw [observedRow_of_bySrcIp hres, DeviceRow.seenBySrcIp]
  | fresh => rw [observedRow_of_fresh hres, DeviceRow.ofEvent]

@[simp] theorem observedRow_mdnsHost (db : Db) (inp : IngestInput) :
    (observedRow db inp).mdnsHost =
      (resolution db inp.event inp.macHint).mergedHost inp.event := by
  cases hres : resolution db inp.event inp.macHint with
  | byMac row => rw [observedRow_of_byMac hres, DeviceRow.seenByMac, Resolution.mergedHost]
  | bySrcIp row => rw [observedRow_of_bySrcIp hres, DeviceRow.seenBySrcIp, Resolution.mergedHost]
  | fresh => rw [observedRow_of_fresh hres, DeviceRow.ofEvent, Resolution.mergedHost]

theorem observedRow_of_device {db : Db} {inp : IngestInput} {row : DeviceRow}
    (h : (resolution db inp.event inp.macHint).device = some row) :
    row ∈ db.devices ∧ (observedRow db inp).deviceId = row.deviceId ∧
      (observedRow db inp).status = row.status := by
  cases hres : resolution db inp.event inp.macHint with
  | byMac found =>
      rw [hres] at h
      obtain rfl := Option.some.inj h
      rw [observedRow_of_byMac hres]
      exact ⟨(resolution_eq_byMac hres).1, rfl, rfl⟩
  | bySrcIp found =>
      rw [hres] at h
      obtain rfl := Option.some.inj h
      rw [observedRow_of_bySrcIp hres]
      exact ⟨(findDeviceBySrcIp_eq_some (resolution_eq_bySrcIp hres).1).1, rfl, rfl⟩
  | fresh =>
      rw [hres] at h
      exact absurd h (by simp [Resolution.device])

theorem observedRow_of_device_none {db : Db} {inp : IngestInput}
    (h : (resolution db inp.event inp.macHint).device = none) (hok : Acceptable db inp) :
    (observedRow db inp).deviceId ∉ db.deviceIds ∧ (observedRow db inp).status = .unknown := by
  cases hres : resolution db inp.event inp.macHint with
  | byMac found => exact absurd h (by simp [hres, Resolution.device])
  | bySrcIp found => exact absurd h (by simp [hres, Resolution.device])
  | fresh =>
      rw [observedRow_of_fresh hres]
      exact ⟨hok.fresh hres, rfl⟩

section

variable (rt : PyRuntime) (db : Db) (inp : IngestInput)

theorem serviceKeysOf_ingested (deviceId : Uuid) :
    (ingested rt db inp).serviceKeysOf deviceId =
      if deviceId = (observedRow db inp).deviceId then
        db.serviceKeysWith deviceId (serviceTypesFromRecords inp.event.records)
      else db.serviceKeysOf deviceId := by
  have hkeys := serviceKeysOf_append_newServiceRows db.toTables (observedRow db inp).deviceId
    (serviceTypesFromRecords inp.event.records) deviceId
  split
  · next heq =>
      subst heq
      rw [if_pos rfl] at hkeys
      exact hkeys
  · next hne =>
      rw [if_neg hne] at hkeys
      exact hkeys

@[simp] theorem serviceKeysOf_ingested_self :
    (ingested rt db inp).serviceKeysOf (observedRow db inp).deviceId =
      db.serviceKeysWith (observedRow db inp).deviceId
        (serviceTypesFromRecords inp.event.records) := by
  rw [serviceKeysOf_ingested, if_pos rfl]

@[simp] theorem serviceKeysOf_ingested_of_ne {deviceId : Uuid}
    (h : deviceId ≠ (observedRow db inp).deviceId) :
    (ingested rt db inp).serviceKeysOf deviceId = db.serviceKeysOf deviceId := by
  rw [serviceKeysOf_ingested, if_neg h]

end

/-! ## What approval does -/

/-- The row of an approved device. -/
def DeviceRow.approve (row : DeviceRow) (displayName : Option Str) : DeviceRow :=
  { row with status := .approved, displayName := displayName.or row.displayName }

/-- The baseline that an approval captures. -/
def capturedBaseline (t : Tables) (row : DeviceRow) (nowMs : Int) : BaselineRow where
  deviceId := row.deviceId
  mdnsHost := row.mdnsHost
  servicesJson := sorted (t.serviceKeysOf row.deviceId)
  capturedAtMs := nowMs

/-- The tables after an approval. -/
def approved (t : Tables) (row : DeviceRow) (displayName : Option Str) (nowMs : Int) : Tables :=
  { t with
    devices := Table.upsert DeviceRow.deviceId (row.approve displayName) t.devices
    deviceBaselines := Table.upsert BaselineRow.deviceId (capturedBaseline t row nowMs)
      t.deviceBaselines }

/-- **Closed form of approval**, for a device that exists. -/
theorem approveDevice_of_mem {db db' : Db} {row : DeviceRow} (hrow : row ∈ db.devices)
    {displayName : Option Str} {nowMs : Int} {found : Bool} :
    approveDevice db row.deviceId displayName nowMs = .ok (found, db') ↔
      found = true ∧ db'.toTables = approved db.toTables row displayName nowMs := by
  have hfree : db.MacFree (row.approve displayName).deviceId (row.approve displayName).mac := by
    have hown := db.constraints.macFree hrow
    exact hown
  obtain ⟨db₁, hdb₁⟩ := Db.exists_toTables ((db.constraints.upsertDevice_iff _).mpr hfree)
  have hrow₁ : row.approve displayName ∈ db₁.devices := by
    rw [hdb₁]
    exact Table.mem_upsert.mpr (Or.inl rfl)
  have hid₁ : row.deviceId ∈ db₁.deviceIds := by
    have hmem : (row.approve displayName).deviceId ∈ db₁.deviceIds := List.mem_map_of_mem hrow₁
    exact hmem
  have hget : getDeviceRow db₁ row.deviceId = some (row.approve displayName) :=
    getDeviceRow_of_mem hrow₁
  rw [approveDevice, (setDeviceApproved_of_mem hrow).mpr ⟨rfl, hdb₁⟩, ok_bind]
  simp only [Bool.not_true, Bool.false_eq_true, if_false, hget, bind_eq_ok_iff, pure_eq_ok,
    Except.ok.injEq, Prod.mk.injEq, upsertBaseline_eq_ok_iff hid₁]
  have htables : approved db.toTables row displayName nowMs =
      { db₁.toTables with
        deviceBaselines := Table.upsert BaselineRow.deviceId
          { deviceId := row.deviceId, mdnsHost := (row.approve displayName).mdnsHost,
            servicesJson := listServicesForDevice db₁ row.deviceId, capturedAtMs := nowMs }
          db₁.deviceBaselines } := by
    rw [listServicesForDevice, hdb₁]
    rfl
  rw [htables]
  constructor
  · rintro ⟨_, hdb', rfl, rfl⟩
    exact ⟨rfl, hdb'⟩
  · rintro ⟨rfl, hdb'⟩
    exact ⟨_, hdb', rfl, rfl⟩

/-- An existing device can be approved. -/
theorem exists_approveDevice {db : Db} {row : DeviceRow} (hrow : row ∈ db.devices)
    (displayName : Option Str) (nowMs : Int) :
    ∃ db', approveDevice db row.deviceId displayName nowMs = .ok (true, db') ∧
      db'.toTables = approved db.toTables row displayName nowMs := by
  have hfree : db.MacFree (row.approve displayName).deviceId (row.approve displayName).mac := by
    have hown := db.constraints.macFree hrow
    exact hown
  have hdevices := (db.constraints.upsertDevice_iff (row.approve displayName)).mpr hfree
  have hid : row.deviceId ∈ Tables.deviceIds
      { db.toTables with
        devices := Table.upsert DeviceRow.deviceId (row.approve displayName) db.devices } :=
    mem_deviceIds_upsert.mpr (Or.inl rfl)
  have hconstraints : (approved db.toTables row displayName nowMs).Constraints :=
    hdevices.upsertBaseline hid
  obtain ⟨db', hdb'⟩ := Db.exists_toTables hconstraints
  exact ⟨db', (approveDevice_of_mem hrow).mpr ⟨rfl, hdb'⟩, hdb'⟩

/-- An approval of a device that does not exist changes nothing. -/
theorem approveDevice_of_notMem {db : Db} {deviceId : Uuid} (hid : deviceId ∉ db.deviceIds)
    (displayName : Option Str) (nowMs : Int) :
    approveDevice db deviceId displayName nowMs = .ok (false, db) := by
  rw [approveDevice, setDeviceApproved_of_notMem hid, ok_bind]
  rfl

end Api
end LanDiscovery

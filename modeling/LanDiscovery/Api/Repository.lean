import LanDiscovery.Api.MdnsMerge
import LanDiscovery.Api.Schema
import LanDiscovery.Library.Outcome

/-!
# The statements

`repository.py` as far as ingest and approval use it.  For each statement there
is one lemma that says when it succeeds and what it leaves (`_eq_ok_iff`).
Integers that come with an event are checked when they are bound; the clock of
the API fits.
-/

namespace LanDiscovery
namespace Api

open Library Library.Outcome

/-- The integers that an SQLite column can hold. -/
def FitsInteger (n : Int) : Prop :=
  -0x8000000000000000 ≤ n ∧ n < 0x8000000000000000

instance (n : Int) : Decidable (FitsInteger n) :=
  inferInstanceAs (Decidable (_ ∧ _))

/-- Binding a Python integer as a parameter of a statement. -/
def bindInteger (n : Int) : Except ApiError Int :=
  if FitsInteger n then .ok n else .error .overflowError

/-! ## Statements on `devices` -/

/-- `find_device_by_mac`. -/
def findDeviceByMac (db : Db) (mac : Mac) : Option DeviceRow :=
  Table.lookup DeviceRow.mac (some mac) db.devices

/-- `find_device_by_src_ip`: the most recently seen row, the oldest of those
seen last at the same time. -/
def findDeviceBySrcIp (db : Db) (srcIp : Str) : Option DeviceRow :=
  (db.devices.filter fun row => row.srcIp = srcIp).maxOn? DeviceRow.lastSeenMs

/-- `get_device_row`. -/
def getDeviceRow (db : Db) (deviceId : Uuid) : Option DeviceRow :=
  Table.lookup DeviceRow.deviceId deviceId db.devices

/-- `insert_device`. -/
def insertDevice (db : Db) (deviceId : Uuid) (srcIp : Str) (mdnsHost : Option Str)
    (mac : Option Mac) (status : DeviceStatus) (firstSeenMs lastSeenMs : Int) :
    Except ApiError Db := do
  let firstSeenMs ← bindInteger firstSeenMs
  let lastSeenMs ← bindInteger lastSeenMs
  let row : DeviceRow :=
    { deviceId, srcIp, mdnsHost, mac, displayName := none, status, firstSeenMs, lastSeenMs }
  Db.write { db.toTables with devices := db.devices ++ [row] }

/-- The assignments of the two statements of `update_device_observation`. -/
def DeviceRow.observe (srcIp : Str) (mdnsHost : Option Str) (lastSeenMs : Int)
    (mac : Option Mac) (row : DeviceRow) : DeviceRow :=
  match mac with
  | some mac => { row with srcIp, mdnsHost, lastSeenMs, mac := some mac }
  | none => { row with srcIp, mdnsHost, lastSeenMs }

/-- `update_device_observation`. -/
def updateDeviceObservation (db : Db) (deviceId : Uuid) (srcIp : Str) (mdnsHost : Option Str)
    (lastSeenMs : Int) (mac : Option Mac) : Except ApiError Db := do
  let lastSeenMs ← bindInteger lastSeenMs
  Db.write
    { db.toTables with
      devices := Table.updateRow DeviceRow.deviceId deviceId
        (DeviceRow.observe srcIp mdnsHost lastSeenMs mac) db.devices }

/-- `update_device_mac`. -/
def updateDeviceMac (db : Db) (deviceId : Uuid) (mac : Mac) : Except ApiError Db :=
  Db.write
    { db.toTables with
      devices := Table.updateRow DeviceRow.deviceId deviceId
        (fun row => { row with mac := some mac }) db.devices }

/-- `set_device_approved`. -/
def setDeviceApproved (db : Db) (deviceId : Uuid) (displayName : Option Str) :
    Except ApiError (Bool × Db) :=
  match getDeviceRow db deviceId with
  | none => .ok (false, db)
  | some _ => do
      let db ← Db.write
        { db.toTables with
          devices := Table.updateRow DeviceRow.deviceId deviceId
            (fun row =>
              { row with status := .approved, displayName := displayName.or row.displayName })
            db.devices }
      return (true, db)

/-! ## Statements on the other tables -/

/-- The `INSERT OR IGNORE` of `upsert_service_keys`. -/
def insertServiceKey (deviceId : Uuid) (db : Db) (serviceKey : Str) : Except ApiError Db :=
  if { deviceId, serviceKey } ∈ db.services then .ok db
  else Db.write { db.toTables with services := db.services ++ [{ deviceId, serviceKey }] }

/-- `upsert_service_keys`. -/
def upsertServiceKeys (db : Db) (deviceId : Uuid) (serviceKeys : List Str) :
    Except ApiError Db :=
  serviceKeys.foldlM (insertServiceKey deviceId) db

/-- `append_discovery_event`. -/
def appendDiscoveryEvent (db : Db) (deviceId : Uuid) (receivedAtMs : Int)
    (payload : DiscoveryEventIn) : Except ApiError Db :=
  Db.write
    { db.toTables with
      discoveryEvents := db.discoveryEvents ++ [{ deviceId, receivedAtMs, payload }] }

/-- The service keys of a device in the order of the table. -/
def Tables.serviceKeysOf (t : Tables) (deviceId : Uuid) : List Str :=
  (t.services.filter fun row => row.deviceId = deviceId).map ServiceRow.serviceKey

/-- `list_services_for_device`. -/
def listServicesForDevice (db : Db) (deviceId : Uuid) : List Str :=
  sorted (db.serviceKeysOf deviceId)

/-- `get_baseline`. -/
def getBaseline (db : Db) (deviceId : Uuid) : Option BaselineRow :=
  Table.lookup BaselineRow.deviceId deviceId db.deviceBaselines

/-- `upsert_baseline`. -/
def upsertBaseline (db : Db) (deviceId : Uuid) (mdnsHost : Option Str) (services : List Str)
    (capturedAtMs : Int) : Except ApiError Db :=
  let servicesJson := servicesJson services
  match getBaseline db deviceId with
  | none =>
      Db.write
        { db.toTables with
          deviceBaselines := db.deviceBaselines ++
            [{ deviceId, mdnsHost, servicesJson, capturedAtMs }] }
  | some _ =>
      Db.write
        { db.toTables with
          deviceBaselines := Table.updateRow BaselineRow.deviceId deviceId
            (fun row => { row with mdnsHost, servicesJson, capturedAtMs }) db.deviceBaselines }

/-- `insert_alert_if_new`: whether a row was inserted, and the database. -/
def insertAlertIfNew (db : Db) (alertId deviceId : Uuid) (alertType : AlertType)
    (message dedupeKey : Str) (observedAtMs : Int) (severity : Str) :
    Except ApiError (Bool × Db) :=
  if alertId ∈ db.alerts.map AlertRow.alertId ∨ dedupeKey ∈ db.alerts.map AlertRow.dedupeKey then
    .ok (false, db)
  else do
    let db ← Db.write
      { db.toTables with
        alerts := db.alerts ++
          [{ alertId, deviceId, alertType, message, severity, observedAtMs, dedupeKey }] }
    return (true, db)

/-! ## What the statements do -/

@[simp] theorem bindInteger_eq_ok_iff {n k : Int} :
    bindInteger n = .ok k ↔ FitsInteger n ∧ k = n := by
  unfold bindInteger
  split
  · next h => simp [h, eq_comm]
  · next h => simp [h]

theorem findDeviceByMac_eq_some {db : Db} {mac : Mac} {row : DeviceRow}
    (h : findDeviceByMac db mac = some row) : row ∈ db.devices ∧ row.mac = some mac :=
  Table.lookup_eq_some h

theorem findDeviceByMac_eq_none {db : Db} {mac : Mac} (h : findDeviceByMac db mac = none) :
    ∀ row ∈ db.devices, row.mac ≠ some mac := by
  intro row hrow heq
  exact Table.lookup_eq_none_iff.mp h (heq ▸ List.mem_map_of_mem hrow)

theorem findDeviceBySrcIp_eq_some {db : Db} {srcIp : Str} {row : DeviceRow}
    (h : findDeviceBySrcIp db srcIp = some row) : row ∈ db.devices ∧ row.srcIp = srcIp := by
  simpa using List.maxOn?_mem h

theorem findDeviceBySrcIp_eq_none {db : Db} {srcIp : Str}
    (h : findDeviceBySrcIp db srcIp = none) : ∀ row ∈ db.devices, row.srcIp ≠ srcIp := by
  simpa [findDeviceBySrcIp] using h

@[simp] theorem getDeviceRow_of_notMem {db : Db} {deviceId : Uuid} (h : deviceId ∉ db.deviceIds) :
    getDeviceRow db deviceId = none :=
  Table.lookup_eq_none_iff.mpr h

@[simp] theorem getDeviceRow_of_mem {db : Db} {row : DeviceRow} (h : row ∈ db.devices) :
    getDeviceRow db row.deviceId = some row :=
  Table.lookup_of_mem db.constraints.deviceKeys h

@[simp] theorem DeviceRow.observe_deviceId (srcIp : Str) (mdnsHost : Option Str)
    (lastSeenMs : Int) (mac : Option Mac) (row : DeviceRow) :
    (row.observe srcIp mdnsHost lastSeenMs mac).deviceId = row.deviceId := by
  cases mac <;> rfl

theorem DeviceRow.observe_eq (srcIp : Str) (mdnsHost : Option Str) (lastSeenMs : Int)
    (mac : Option Mac) (row : DeviceRow) :
    row.observe srcIp mdnsHost lastSeenMs mac =
      { row with srcIp, mdnsHost, lastSeenMs, mac := mac.or row.mac } := by
  cases mac <;> rfl

/-- Updating a row that is there is an upsert of the updated row. -/
theorem write_updateDevice {db db' : Db} {row : DeviceRow} (hrow : row ∈ db.devices)
    {f : DeviceRow → DeviceRow} (hf : (f row).deviceId = row.deviceId) :
    Db.write
        { db.toTables with
          devices := Table.updateRow DeviceRow.deviceId row.deviceId f db.devices } = .ok db' ↔
      db.MacFree row.deviceId (f row).mac ∧
        db'.toTables =
          { db.toTables with
            devices := Table.upsert DeviceRow.deviceId (f row) db.devices } := by
  rw [Table.updateRow_eq_upsert db.constraints.deviceKeys hrow hf, Db.write_eq_ok_iff,
    db.constraints.upsertDevice_iff, hf]

theorem insertDevice_eq_ok_iff {db db' : Db} {deviceId : Uuid} {srcIp : Str}
    {mdnsHost : Option Str} {mac : Option Mac} {status : DeviceStatus} {seenMs : Int} :
    insertDevice db deviceId srcIp mdnsHost mac status seenMs seenMs = .ok db' ↔
      FitsInteger seenMs ∧ deviceId ∉ db.deviceIds ∧ db.MacFree deviceId mac ∧
        db'.toTables =
          { db.toTables with
            devices := Table.upsert DeviceRow.deviceId
              { deviceId, srcIp, mdnsHost, mac, displayName := none, status,
                firstSeenMs := seenMs, lastSeenMs := seenMs } db.devices } := by
  simp only [insertDevice, bind_eq_ok_iff, bindInteger_eq_ok_iff, Db.write_eq_ok_iff]
  constructor
  · rintro ⟨_, ⟨hfits, rfl⟩, _, ⟨-, rfl⟩, hconstraints, htables⟩
    have hfresh : deviceId ∉ db.deviceIds := by
      intro hmem
      have hkeys := hconstraints.deviceKeys
      rw [Tables.deviceIds, List.map_append, List.nodup_append] at hkeys
      exact hkeys.2.2 deviceId hmem deviceId (by simp) rfl
    rw [← Table.upsert_of_notMem hfresh] at hconstraints htables
    exact ⟨hfits, hfresh, (db.constraints.upsertDevice_iff _).mp hconstraints, htables⟩
  · rintro ⟨hfits, hfresh, hfree, htables⟩
    rw [Table.upsert_of_notMem hfresh] at htables
    refine ⟨_, ⟨hfits, rfl⟩, _, ⟨hfits, rfl⟩, ?_, htables⟩
    rw [← Table.upsert_of_notMem hfresh]
    exact (db.constraints.upsertDevice_iff _).mpr hfree

theorem updateDeviceObservation_eq_ok_iff {db db' : Db} {row : DeviceRow}
    (hrow : row ∈ db.devices) {srcIp : Str} {mdnsHost : Option Str} {lastSeenMs : Int}
    {mac : Option Mac} (hfree : db.MacFree row.deviceId mac) :
    updateDeviceObservation db row.deviceId srcIp mdnsHost lastSeenMs mac = .ok db' ↔
      FitsInteger lastSeenMs ∧
        db'.toTables =
          { db.toTables with
            devices := Table.upsert DeviceRow.deviceId
              (row.observe srcIp mdnsHost lastSeenMs mac) db.devices } := by
  have hmac : db.MacFree row.deviceId (row.observe srcIp mdnsHost lastSeenMs mac).mac := by
    rw [DeviceRow.observe_eq]
    cases mac with
    | none => exact db.constraints.macFree hrow
    | some mac => exact hfree
  simp only [updateDeviceObservation, bind_eq_ok_iff, bindInteger_eq_ok_iff]
  constructor
  · rintro ⟨_, ⟨hfits, rfl⟩, hwrite⟩
    exact ⟨hfits, ((write_updateDevice hrow (by simp)).mp hwrite).2⟩
  · rintro ⟨hfits, htables⟩
    exact ⟨_, ⟨hfits, rfl⟩, (write_updateDevice hrow (by simp)).mpr ⟨hmac, htables⟩⟩

theorem updateDeviceMac_eq_ok_iff {db db' : Db} {row : DeviceRow} (hrow : row ∈ db.devices)
    {mac : Mac} :
    updateDeviceMac db row.deviceId mac = .ok db' ↔
      db.MacFree row.deviceId (some mac) ∧
        db'.toTables =
          { db.toTables with
            devices := Table.upsert DeviceRow.deviceId { row with mac := some mac }
              db.devices } :=
  write_updateDevice hrow rfl

theorem setDeviceApproved_of_mem {db db' : Db} {row : DeviceRow} (hrow : row ∈ db.devices)
    {displayName : Option Str} {found : Bool} :
    setDeviceApproved db row.deviceId displayName = .ok (found, db') ↔
      found = true ∧
        db'.toTables =
          { db.toTables with
            devices := Table.upsert DeviceRow.deviceId
              { row with status := .approved, displayName := displayName.or row.displayName }
              db.devices } := by
  simp only [setDeviceApproved, getDeviceRow_of_mem hrow, bind_eq_ok_iff, pure_eq_ok,
    Except.ok.injEq, Prod.mk.injEq]
  constructor
  · rintro ⟨_, hwrite, rfl, rfl⟩
    exact ⟨rfl, ((write_updateDevice hrow rfl).mp hwrite).2⟩
  · rintro ⟨rfl, htables⟩
    exact ⟨_, (write_updateDevice hrow rfl).mpr ⟨db.constraints.macFree hrow, htables⟩, rfl, rfl⟩

@[simp] theorem setDeviceApproved_of_notMem {db : Db} {deviceId : Uuid}
    (hid : deviceId ∉ db.deviceIds) (displayName : Option Str) :
    setDeviceApproved db deviceId displayName = .ok (false, db) := by
  have hnone := getDeviceRow_of_notMem hid
  rw [setDeviceApproved, hnone]

/-- The service keys that are not in the table yet, as rows. -/
def Tables.newServiceRows (t : Tables) (deviceId : Uuid) (serviceKeys : List Str) :
    List ServiceRow :=
  (serviceKeys.map (ServiceRow.mk deviceId)).filter fun row => row ∉ t.services

/-- The service keys of a device with new ones, old and new in the order of the
table. -/
def Tables.serviceKeysWith (t : Tables) (deviceId : Uuid) (serviceKeys : List Str) : List Str :=
  t.serviceKeysOf deviceId ++ serviceKeys.filter fun key => key ∉ t.serviceKeysOf deviceId

@[simp] theorem mem_serviceKeysOf {t : Tables} {deviceId : Uuid} {key : Str} :
    key ∈ t.serviceKeysOf deviceId ↔ { deviceId, serviceKey := key } ∈ t.services := by
  simp only [Tables.serviceKeysOf, List.mem_map, List.mem_filter, decide_eq_true_eq]
  constructor
  · rintro ⟨row, ⟨hrow, rfl⟩, rfl⟩
    exact hrow
  · exact fun h => ⟨_, ⟨h, rfl⟩, rfl⟩

@[simp] theorem serviceKeysOf_append_newServiceRows (t : Tables) (deviceId : Uuid)
    (serviceKeys : List Str) (deviceId' : Uuid) :
    Tables.serviceKeysOf { t with services := t.services ++ t.newServiceRows deviceId serviceKeys }
        deviceId' =
      if deviceId' = deviceId then t.serviceKeysWith deviceId serviceKeys
      else t.serviceKeysOf deviceId' := by
  have hsplit : Tables.serviceKeysOf
      { t with services := t.services ++ t.newServiceRows deviceId serviceKeys } deviceId' =
        t.serviceKeysOf deviceId' ++
          ((t.newServiceRows deviceId serviceKeys).filter fun row =>
            row.deviceId = deviceId').map ServiceRow.serviceKey := by
    simp [Tables.serviceKeysOf]
  rw [hsplit, Tables.newServiceRows, List.filter_filter, List.filter_map, List.map_map]
  split
  · next heq =>
      subst heq
      simp [Tables.serviceKeysWith, mem_serviceKeysOf, Function.comp_def]
  · next hne =>
      simp [Ne.symm hne]

theorem Tables.Constraints.insertNewServices {t : Tables} (h : t.Constraints)
    {deviceId : Uuid} (hid : deviceId ∈ t.deviceIds) {serviceKeys : List Str}
    (hkeys : serviceKeys.Nodup) :
    Tables.Constraints
      { t with services := t.services ++ t.newServiceRows deviceId serviceKeys } := by
  refine ⟨h.deviceKeys, h.macs, ?_, h.baselineKeys, h.alertKeys, h.dedupeKeys, ?_, h.eventRefs,
    h.baselineRefs, h.alertRefs⟩
  · have hrows : (serviceKeys.map (ServiceRow.mk deviceId)).Nodup :=
      hkeys.map fun _ _ heq => (ServiceRow.mk.inj heq).2
    refine List.nodup_append.mpr ⟨h.serviceKeys, hrows.filter _, ?_⟩
    rintro r hr _ hs rfl
    exact absurd hr (by simpa using (List.mem_filter.mp hs).2)
  · intro r hr
    rcases List.mem_append.mp hr with hold | hnew
    · exact h.serviceRefs r hold
    · obtain ⟨key, -, rfl⟩ := List.mem_map.mp (List.mem_filter.mp hnew).1
      exact hid

theorem upsertServiceKeys_eq_ok_iff {db db' : Db} {deviceId : Uuid} {serviceKeys : List Str}
    (hid : deviceId ∈ db.deviceIds) (hkeys : serviceKeys.Nodup) :
    upsertServiceKeys db deviceId serviceKeys = .ok db' ↔
      db'.toTables =
        { db.toTables with
          services := db.services ++ db.newServiceRows deviceId serviceKeys } := by
  induction serviceKeys generalizing db with
  | nil =>
      have hnone : { db.toTables with services := db.services ++ db.newServiceRows deviceId [] } =
          db.toTables := by
        simp [Tables.newServiceRows]
      rw [hnone]
      constructor
      · intro h
        obtain rfl : db = db' := by simpa [upsertServiceKeys] using h
        rfl
      · intro h
        simp [upsertServiceKeys, Db.ext_tables h]
  | cons key keys ih =>
      obtain ⟨hkey, hkeys⟩ := List.nodup_cons.mp hkeys
      have hstep : upsertServiceKeys db deviceId (key :: keys) =
          (insertServiceKey deviceId db key >>= fun db => upsertServiceKeys db deviceId keys) :=
        List.foldlM_cons ..
      rw [hstep, insertServiceKey]
      -- `INSERT OR IGNORE` does nothing for a key that the device has
      by_cases hmem : { deviceId, serviceKey := key } ∈ db.services
      · have hsame : db.newServiceRows deviceId (key :: keys) =
            db.newServiceRows deviceId keys := by
          simp [Tables.newServiceRows, hmem]
        rw [if_pos hmem, ok_bind, ih hid hkeys, hsame]
      · have hconstraints := db.constraints.insertService hid hmem
        obtain ⟨db₁, hdb₁⟩ : ∃ db₁ : Db, db₁.toTables =
            { db.toTables with services := db.services ++ [{ deviceId, serviceKey := key }] } :=
          ⟨⟨_, hconstraints⟩, rfl⟩
        have hwrite := Db.write_eq_ok_iff.mpr ⟨hconstraints, hdb₁⟩
        have hid₁ : deviceId ∈ db₁.deviceIds := by
          rw [hdb₁]
          exact hid
        -- the remaining keys are different ones
        have hrest : db₁.newServiceRows deviceId keys = db.newServiceRows deviceId keys := by
          rw [hdb₁]
          refine List.filter_congr fun row hrow => ?_
          obtain ⟨key', hkey', rfl⟩ := List.mem_map.mp hrow
          have hne : key' ≠ key := fun heq => hkey (heq ▸ hkey')
          simp [hne]
        have hsplit : db.newServiceRows deviceId (key :: keys) =
            { deviceId, serviceKey := key } :: db.newServiceRows deviceId keys := by
          simp [Tables.newServiceRows, hmem]
        rw [if_neg hmem, hwrite, ok_bind, ih hid₁ hkeys, hrest, hsplit]
        simp [hdb₁]

theorem appendDiscoveryEvent_eq_ok_iff {db db' : Db} {deviceId : Uuid} {receivedAtMs : Int}
    {payload : DiscoveryEventIn} (hid : deviceId ∈ db.deviceIds) :
    appendDiscoveryEvent db deviceId receivedAtMs payload = .ok db' ↔
      db'.toTables =
        { db.toTables with
          discoveryEvents := db.discoveryEvents ++ [{ deviceId, receivedAtMs, payload }] } := by
  rw [appendDiscoveryEvent, Db.write_eq_ok_iff, and_iff_right]
  exact db.constraints.insertEvent _ hid

theorem upsertBaseline_eq_ok_iff {db db' : Db} {deviceId : Uuid} {mdnsHost : Option Str}
    {services : List Str} {capturedAtMs : Int} (hid : deviceId ∈ db.deviceIds) :
    upsertBaseline db deviceId mdnsHost services capturedAtMs = .ok db' ↔
      db'.toTables =
        { db.toTables with
          deviceBaselines := Table.upsert BaselineRow.deviceId
            { deviceId, mdnsHost, servicesJson := services, capturedAtMs }
            db.deviceBaselines } := by
  unfold upsertBaseline
  cases hrow : getBaseline db deviceId with
  | none =>
      have hnew := Table.lookup_eq_none_iff.mp hrow
      rw [Db.write_eq_ok_iff]
      simp only [servicesJson]
      rw [← Table.upsert_of_notMem hnew]
      exact and_iff_right (db.constraints.upsertBaseline hid)
  | some row =>
      obtain ⟨hmem, rfl⟩ := Table.lookup_eq_some hrow
      rw [Db.write_eq_ok_iff]
      simp only [servicesJson]
      rw [Table.updateRow_eq_upsert db.constraints.baselineKeys hmem rfl]
      exact and_iff_right (db.constraints.upsertBaseline hid)

/-- The rows that an alert adds: none when its identifier or its key is taken. -/
def Tables.newAlertRows (t : Tables) (row : AlertRow) : List AlertRow :=
  if row.alertId ∈ t.alerts.map AlertRow.alertId ∨
      row.dedupeKey ∈ t.alerts.map AlertRow.dedupeKey then []
  else [row]

/-- After an attempt with a new identifier the key is in the table. -/
theorem dedupeKey_mem_append_newAlertRows {t : Tables} (row : AlertRow)
    (h : row.alertId ∉ t.alerts.map AlertRow.alertId) :
    row.dedupeKey ∈ (t.alerts ++ t.newAlertRows row).map AlertRow.dedupeKey := by
  rw [Tables.newAlertRows, List.map_append, List.mem_append]
  by_cases hkey : row.dedupeKey ∈ t.alerts.map AlertRow.dedupeKey
  · exact Or.inl hkey
  · right
    rw [if_neg (not_or.mpr ⟨h, hkey⟩)]
    simp

@[simp] theorem newAlertRows_of_notMem {t : Tables} {row : AlertRow}
    (halert : row.alertId ∉ t.alerts.map AlertRow.alertId)
    (hkey : row.dedupeKey ∉ t.alerts.map AlertRow.dedupeKey) : t.newAlertRows row = [row] :=
  if_neg (not_or.mpr ⟨halert, hkey⟩)

@[simp] theorem newAlertRows_of_mem {t : Tables} {row : AlertRow}
    (h : row.dedupeKey ∈ t.alerts.map AlertRow.dedupeKey) : t.newAlertRows row = [] :=
  if_pos (Or.inr h)

theorem insertAlertIfNew_eq_ok_iff {db db' : Db} {alertId deviceId : Uuid}
    {alertType : AlertType} {message dedupeKey : Str} {observedAtMs : Int} {severity : Str}
    {inserted : Bool} (hid : deviceId ∈ db.deviceIds) :
    insertAlertIfNew db alertId deviceId alertType message dedupeKey observedAtMs severity =
        .ok (inserted, db') ↔
      (inserted = true ↔ alertId ∉ db.alerts.map AlertRow.alertId ∧
        dedupeKey ∉ db.alerts.map AlertRow.dedupeKey) ∧
      db'.toTables =
        { db.toTables with
          alerts := db.alerts ++ db.newAlertRows
            { alertId, deviceId, alertType, message, severity, observedAtMs, dedupeKey } } := by
  unfold insertAlertIfNew Tables.newAlertRows
  split
  · next hconflict =>
      simp only [List.append_nil, Except.ok.injEq, Prod.mk.injEq, ← not_or, hconflict, not_true,
        iff_false, Bool.not_eq_true]
      exact and_congr eq_comm ⟨fun h => h ▸ rfl, fun h => Db.ext_tables h.symm⟩
  · next hnew =>
      obtain ⟨halert, hkey⟩ := not_or.mp hnew
      simp only [bind_eq_ok_iff, Db.write_eq_ok_iff, pure_eq_ok, Except.ok.injEq, Prod.mk.injEq,
        halert, hkey, not_false_eq_true, and_self, iff_true]
      constructor
      · rintro ⟨_, ⟨-, htables⟩, rfl, rfl⟩
        exact ⟨rfl, htables⟩
      · rintro ⟨rfl, htables⟩
        exact ⟨_, ⟨db.constraints.insertAlert hid halert hkey, htables⟩, rfl, rfl⟩

end Api
end LanDiscovery

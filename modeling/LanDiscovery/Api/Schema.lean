import LanDiscovery.Api.MacResolver
import LanDiscovery.Api.Models
import LanDiscovery.Library.Table

/-!
# The database

`schema.sql`.  A table is the list of its rows in insertion order.  A `Db`
carries the constraints of the schema, so a statement that would break one of
them cannot produce a database: it fails, as it does in SQLite.
-/

namespace LanDiscovery
namespace Api

open Library

/-- How a statement or a check can fail: `ValueError` with its text,
`sqlite3.IntegrityError`, and `OverflowError` of a Python integer that does not
fit an SQLite one. -/
inductive ApiError where
  | valueError (text : Str)
  | integrityError
  | overflowError
  deriving DecidableEq

/-! ## Tables -/

/-- A row of `devices`. -/
structure DeviceRow where
  deviceId : Uuid
  srcIp : Str
  mdnsHost : Option Str
  mac : Option Mac
  displayName : Option Str
  status : DeviceStatus
  firstSeenMs : Int
  lastSeenMs : Int
  deriving DecidableEq

/-- A row of `services`. -/
structure ServiceRow where
  deviceId : Uuid
  serviceKey : Str
  deriving DecidableEq

/-- A row of `discovery_events`; the payload is the event whose JSON text the
source stores. -/
structure DiscoveryEventRow where
  deviceId : Uuid
  receivedAtMs : Int
  payload : DiscoveryEventIn
  deriving DecidableEq

/-- A row of `device_baselines`. -/
structure BaselineRow where
  deviceId : Uuid
  mdnsHost : Option Str
  servicesJson : List Str
  capturedAtMs : Int
  deriving DecidableEq

/-- `ALERT_UNKNOWN_DEVICE` and `ALERT_BASELINE_MISMATCH`. -/
inductive AlertType where
  | unknownDevice
  | baselineMismatch
  deriving DecidableEq, Repr

/-- A row of `alerts`. -/
structure AlertRow where
  alertId : Uuid
  deviceId : Uuid
  alertType : AlertType
  message : Str
  severity : Str
  observedAtMs : Int
  dedupeKey : Str
  deriving DecidableEq

/-- The tables of the schema. -/
structure Tables where
  devices : List DeviceRow
  services : List ServiceRow
  discoveryEvents : List DiscoveryEventRow
  deviceBaselines : List BaselineRow
  alerts : List AlertRow
  deriving DecidableEq

/-- The device identifiers, in insertion order. -/
def Tables.deviceIds (t : Tables) : List Uuid :=
  t.devices.map DeviceRow.deviceId

/-- The constraints of the schema: primary keys, the unique index on the MACs
that are present, the unique deduplication keys, and the references to devices. -/
structure Tables.Constraints (t : Tables) : Prop where
  deviceKeys : t.deviceIds.Nodup
  macs : ∀ r ∈ t.devices, ∀ s ∈ t.devices, r.mac ≠ none → r.mac = s.mac → r.deviceId = s.deviceId
  serviceKeys : t.services.Nodup
  baselineKeys : (t.deviceBaselines.map BaselineRow.deviceId).Nodup
  alertKeys : (t.alerts.map AlertRow.alertId).Nodup
  dedupeKeys : (t.alerts.map AlertRow.dedupeKey).Nodup
  serviceRefs : ∀ r ∈ t.services, r.deviceId ∈ t.deviceIds
  eventRefs : ∀ r ∈ t.discoveryEvents, r.deviceId ∈ t.deviceIds
  baselineRefs : ∀ r ∈ t.deviceBaselines, r.deviceId ∈ t.deviceIds
  alertRefs : ∀ r ∈ t.alerts, r.deviceId ∈ t.deviceIds

theorem Tables.constraints_iff (t : Tables) :
    t.Constraints ↔
      t.deviceIds.Nodup ∧
      (∀ r ∈ t.devices, ∀ s ∈ t.devices, r.mac ≠ none → r.mac = s.mac →
        r.deviceId = s.deviceId) ∧
      t.services.Nodup ∧ (t.deviceBaselines.map BaselineRow.deviceId).Nodup ∧
      (t.alerts.map AlertRow.alertId).Nodup ∧ (t.alerts.map AlertRow.dedupeKey).Nodup ∧
      (∀ r ∈ t.services, r.deviceId ∈ t.deviceIds) ∧
      (∀ r ∈ t.discoveryEvents, r.deviceId ∈ t.deviceIds) ∧
      (∀ r ∈ t.deviceBaselines, r.deviceId ∈ t.deviceIds) ∧
      ∀ r ∈ t.alerts, r.deviceId ∈ t.deviceIds := by
  constructor
  · intro h
    exact ⟨h.deviceKeys, h.macs, h.serviceKeys, h.baselineKeys, h.alertKeys, h.dedupeKeys,
      h.serviceRefs, h.eventRefs, h.baselineRefs, h.alertRefs⟩
  · rintro ⟨h1, h2, h3, h4, h5, h6, h7, h8, h9, h10⟩
    exact ⟨h1, h2, h3, h4, h5, h6, h7, h8, h9, h10⟩

instance (t : Tables) : Decidable t.Constraints :=
  decidable_of_iff _ t.constraints_iff.symm

/-- A database: tables that meet the constraints. -/
structure Db extends Tables where
  constraints : toTables.Constraints

theorem Db.ext_tables {db db' : Db} (h : db.toTables = db'.toTables) : db = db' := by
  cases db
  cases db'
  simpa using h

theorem Db.exists_toTables {t : Tables} (h : t.Constraints) : ∃ db : Db, db.toTables = t :=
  ⟨⟨t, h⟩, rfl⟩

instance : DecidableEq Db := fun db db' =>
  decidable_of_iff (db.toTables = db'.toTables) ⟨Db.ext_tables, fun h => h ▸ rfl⟩

/-- The database that the schema creates. -/
def Db.empty : Db where
  devices := []
  services := []
  discoveryEvents := []
  deviceBaselines := []
  alerts := []
  constraints := by decide

/-- The end of a statement that writes: the constraints are checked. -/
def Db.write (t : Tables) : Except ApiError Db :=
  if h : t.Constraints then .ok ⟨t, h⟩ else .error .integrityError

@[simp] theorem Db.write_eq_ok_iff {t : Tables} {db : Db} :
    Db.write t = .ok db ↔ t.Constraints ∧ db.toTables = t := by
  unfold Db.write
  split
  · next h =>
      constructor
      · intro heq
        obtain rfl := Except.ok.inj heq
        exact ⟨h, rfl⟩
      · rintro ⟨-, rfl⟩
        rfl
  · next h => simp [h]

/-! ## What the constraints permit -/

/-- No other device has the address. -/
def Tables.MacFree (t : Tables) (deviceId : Uuid) (mac : Option Mac) : Prop :=
  ∀ row ∈ t.devices, mac ≠ none → row.mac = mac → row.deviceId = deviceId

@[simp] theorem Tables.macFree_none (t : Tables) (deviceId : Uuid) : t.MacFree deviceId none := by
  intro row _ hne
  exact absurd rfl hne

/-- No device has the address. -/
def Tables.MacUnused (t : Tables) (mac : Option Mac) : Prop :=
  ∀ row ∈ t.devices, mac ≠ none → row.mac ≠ mac

theorem Tables.MacUnused.macFree {t : Tables} {mac : Option Mac} (h : t.MacUnused mac)
    (deviceId : Uuid) : t.MacFree deviceId mac :=
  fun row hrow hne heq => absurd heq (h row hrow hne)

theorem Tables.Constraints.macFree {t : Tables} (h : t.Constraints) {row : DeviceRow}
    (hrow : row ∈ t.devices) : t.MacFree row.deviceId row.mac := by
  intro s hs hne heq
  exact h.macs s hs row hrow (heq ▸ hne) heq

@[simp] theorem mem_deviceIds_upsert {t : Tables} {row : DeviceRow} {deviceId : Uuid} :
    deviceId ∈ Tables.deviceIds
        { t with devices := Table.upsert DeviceRow.deviceId row t.devices } ↔
      deviceId = row.deviceId ∨ deviceId ∈ t.deviceIds :=
  Table.mem_map_key_upsert

/-- Whether an address is free for a device does not depend on its own row. -/
theorem macFree_upsert {t : Tables} {row : DeviceRow} {mac : Option Mac} :
    Tables.MacFree { t with devices := Table.upsert DeviceRow.deviceId row t.devices }
        row.deviceId mac ↔ t.MacFree row.deviceId mac := by
  constructor
  · intro h s hs hne heq
    by_contra hid
    exact hid (h s (Table.mem_upsert.mpr (Or.inr ⟨hs, hid⟩)) hne heq)
  · intro h s hs hne heq
    rcases Table.mem_upsert.mp hs with rfl | ⟨hold, -⟩
    · rfl
    · exact h s hold hne heq

/-- Putting in a device keeps the constraints exactly when no other device has
its address. -/
theorem Tables.Constraints.upsertDevice_iff {t : Tables} (h : t.Constraints) (row : DeviceRow) :
    Tables.Constraints { t with devices := Table.upsert DeviceRow.deviceId row t.devices } ↔
      t.MacFree row.deviceId row.mac := by
  constructor
  · intro hnew s hs hne heq
    by_contra hid
    exact hid (hnew.macs s (Table.mem_upsert.mpr (Or.inr ⟨hs, hid⟩)) row
      (Table.mem_upsert.mpr (Or.inl rfl)) (heq ▸ hne) heq)
  · intro hfree
    refine ⟨Table.nodup_map_key_upsert h.deviceKeys, ?_, h.serviceKeys, h.baselineKeys,
      h.alertKeys, h.dedupeKeys, ?_, ?_, ?_, ?_⟩
    -- two rows with one address: each is the new row or an old one
    · intro r hr s hs hne heq
      rcases Table.mem_upsert.mp hr with rfl | ⟨hold, -⟩ <;>
        rcases Table.mem_upsert.mp hs with rfl | ⟨hold', -⟩
      · rfl
      · exact (hfree s hold' hne heq.symm).symm
      · exact hfree r hold (heq ▸ hne) heq
      · exact h.macs r hold s hold' hne heq
    · intro r hr
      exact mem_deviceIds_upsert.mpr (Or.inr (h.serviceRefs r hr))
    · intro r hr
      exact mem_deviceIds_upsert.mpr (Or.inr (h.eventRefs r hr))
    · intro r hr
      exact mem_deviceIds_upsert.mpr (Or.inr (h.baselineRefs r hr))
    · intro r hr
      exact mem_deviceIds_upsert.mpr (Or.inr (h.alertRefs r hr))

theorem Tables.Constraints.insertService {t : Tables} (h : t.Constraints) {row : ServiceRow}
    (hid : row.deviceId ∈ t.deviceIds) (hnew : row ∉ t.services) :
    Tables.Constraints { t with services := t.services ++ [row] } := by
  refine ⟨h.deviceKeys, h.macs, ?_, h.baselineKeys, h.alertKeys, h.dedupeKeys, ?_, h.eventRefs,
    h.baselineRefs, h.alertRefs⟩
  · refine List.nodup_append.mpr ⟨h.serviceKeys, List.nodup_singleton _, ?_⟩
    intro r hr s hs heq
    exact hnew (List.mem_singleton.mp hs ▸ heq ▸ hr)
  · intro r hr
    rcases List.mem_append.mp hr with hold | hlast
    · exact h.serviceRefs r hold
    · exact List.mem_singleton.mp hlast ▸ hid

theorem Tables.Constraints.insertEvent {t : Tables} (h : t.Constraints)
    (row : DiscoveryEventRow) (hid : row.deviceId ∈ t.deviceIds) :
    Tables.Constraints { t with discoveryEvents := t.discoveryEvents ++ [row] } := by
  refine ⟨h.deviceKeys, h.macs, h.serviceKeys, h.baselineKeys, h.alertKeys, h.dedupeKeys,
    h.serviceRefs, ?_, h.baselineRefs, h.alertRefs⟩
  intro r hr
  rcases List.mem_append.mp hr with hold | hlast
  · exact h.eventRefs r hold
  · exact List.mem_singleton.mp hlast ▸ hid

theorem Tables.Constraints.upsertBaseline {t : Tables} (h : t.Constraints) {row : BaselineRow}
    (hid : row.deviceId ∈ t.deviceIds) :
    Tables.Constraints
      { t with
        deviceBaselines := Table.upsert BaselineRow.deviceId row t.deviceBaselines } := by
  refine ⟨h.deviceKeys, h.macs, h.serviceKeys, Table.nodup_map_key_upsert h.baselineKeys,
    h.alertKeys, h.dedupeKeys, h.serviceRefs, h.eventRefs, ?_, h.alertRefs⟩
  intro r hr
  rcases Table.mem_upsert.mp hr with rfl | ⟨hold, -⟩
  · exact hid
  · exact h.baselineRefs r hold

theorem Tables.Constraints.insertAlert {t : Tables} (h : t.Constraints) {row : AlertRow}
    (hid : row.deviceId ∈ t.deviceIds) (halert : row.alertId ∉ t.alerts.map AlertRow.alertId)
    (hkey : row.dedupeKey ∉ t.alerts.map AlertRow.dedupeKey) :
    Tables.Constraints { t with alerts := t.alerts ++ [row] } := by
  refine ⟨h.deviceKeys, h.macs, h.serviceKeys, h.baselineKeys, ?_, ?_, h.serviceRefs, h.eventRefs,
    h.baselineRefs, ?_⟩
  · rw [List.map_append, List.map_singleton, List.nodup_append]
    exact ⟨h.alertKeys, List.nodup_singleton _, by simpa using halert⟩
  · rw [List.map_append, List.map_singleton, List.nodup_append]
    exact ⟨h.dedupeKeys, List.nodup_singleton _, by simpa using hkey⟩
  · intro r hr
    rcases List.mem_append.mp hr with hold | hlast
    · exact h.alertRefs r hold
    · exact List.mem_singleton.mp hlast ▸ hid

end Api
end LanDiscovery

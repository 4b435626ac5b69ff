import LanDiscovery.Api.Approval
import LanDiscovery.Library.Reading
import LanDiscovery.Library.Selection

/-!
# The reading routes

`list_devices`, `get_device` and `list_alerts`.  A `SELECT` outside of a transaction sees
what is persisted when it runs, and `_row_to_device` has a `SELECT` of its own for each
row, so operations may come between the statements of one answer.
-/

namespace LanDiscovery
namespace Api

open Library

/-! ## Answers -/

/-- `DeviceOut`, and `DeviceDetailOut`. -/
structure DeviceOut where
  deviceId : Uuid
  srcIp : Str
  mdnsHost : Option Str
  mac : Option Mac
  displayName : Option Str
  status : DeviceStatus
  firstSeenMs : Int
  lastSeenMs : Int
  services : List Str
  deriving DecidableEq

/-- The texts `ALERT_UNKNOWN_DEVICE` and `ALERT_BASELINE_MISMATCH`. -/
def AlertType.text : AlertType → Str
  | .unknownDevice => str "UNKNOWN_DEVICE"
  | .baselineMismatch => str "BASELINE_MISMATCH"

/-- `AlertOut`. -/
structure AlertOut where
  alertId : Uuid
  deviceId : Uuid
  alertType : Str
  message : Str
  severity : Str
  observedAtMs : Int
  dedupeKey : Str
  resolvedAtMs : Option Int
  deriving DecidableEq

/-- The columns of a device with its services. -/
def DeviceRow.out (row : DeviceRow) (services : List Str) : DeviceOut where
  deviceId := row.deviceId
  srcIp := row.srcIp
  mdnsHost := row.mdnsHost
  mac := row.mac
  displayName := row.displayName
  status := row.status
  firstSeenMs := row.firstSeenMs
  lastSeenMs := row.lastSeenMs
  services := services

/-- The columns of an alert; no statement sets `resolved_at_ms`. -/
def AlertRow.out (row : AlertRow) : AlertOut where
  alertId := row.alertId
  deviceId := row.deviceId
  alertType := row.alertType.text
  message := row.message
  severity := row.severity
  observedAtMs := row.observedAtMs
  dedupeKey := row.dedupeKey
  resolvedAtMs := none

/-! ## Programs -/

/-- `_row_to_device`. -/
def rowToDevice (row : DeviceRow) : Reading Db DeviceOut :=
  .read fun db => row.out (listServicesForDevice db row.deviceId)

/-- `list_devices`. -/
def listDevices (order : OrderByDesc DeviceRow.lastSeenMs) : Reading Db (List DeviceOut) :=
  .look fun db => .all ((order.run db.devices).map rowToDevice)

/-- The row that a path names by its text. -/
def deviceRowOf (db : Db) (deviceId : Str) : Option DeviceRow :=
  (Uuid.ofText? deviceId).bind (getDeviceRow db)

/-- `get_device`. -/
def getDevice (deviceId : Str) : Reading Db (Option DeviceOut) :=
  .look fun db =>
    match deviceRowOf db deviceId with
    | none => .answer none
    | some row => (rowToDevice row).andThen fun device => .answer (some device)

/-- The `WHERE` clause of `list_alerts`, for a type that is given and not empty. -/
def alertsOfText (db : Db) (alertType : Option Str) : List AlertRow :=
  match truthy alertType with
  | some text => db.alerts.filter fun row => row.alertType.text = text
  | none => db.alerts

/-- `list_alerts`. -/
def listAlerts (order : OrderByDesc AlertRow.observedAtMs) (limit : Nat)
    (alertType : Option Str) : Reading Db (List AlertOut) :=
  .read fun db => (order.limit limit (alertsOfText db alertType)).map AlertRow.out

/-! ## What is read -/

/-- Operations lead from one database to the other. -/
def Later (rt : PyRuntime) (db db' : Db) : Prop :=
  ∃ ops : List Operation, db' = ops.foldl (runOperation rt) db

theorem Later.refl (rt : PyRuntime) (db : Db) : Later rt db db :=
  ⟨[], rfl⟩

theorem Later.trans {rt : PyRuntime} {db db' db'' : Db} (h : Later rt db db')
    (h' : Later rt db' db'') : Later rt db db'' := by
  obtain ⟨ops, rfl⟩ := h
  obtain ⟨ops', rfl⟩ := h'
  exact ⟨ops ++ ops', by rw [List.foldl_append]⟩

/-- Operations take no service away. -/
theorem Later.mem_serviceKeysOf {rt : PyRuntime} {db db' : Db} (h : Later rt db db')
    {deviceId : Uuid} {key : Str} (hkey : key ∈ db.serviceKeysOf deviceId) :
    key ∈ db'.serviceKeysOf deviceId := by
  obtain ⟨ops, rfl⟩ := h
  induction ops generalizing db with
  | nil => exact hkey
  | cons op ops ih =>
      apply ih
      refine runOperation_preserves (I := fun t => key ∈ t.serviceKeysOf deviceId) ?_ ?_ hkey
      · intro inp _ _
        exact mem_serviceKeysOf_ingested hkey
      · intro row _ displayName nowMs _
        exact hkey

theorem mem_listServicesForDevice {db : Db} {deviceId : Uuid} {key : Str} :
    key ∈ listServicesForDevice db deviceId ↔ key ∈ db.serviceKeysOf deviceId :=
  (sorted_perm _).mem_iff

theorem nodup_listServicesForDevice (db : Db) (deviceId : Uuid) :
    (listServicesForDevice db deviceId).Nodup :=
  (sorted_perm _).nodup_iff.mpr (serviceKeysOf_nodup db deviceId)

/-- What a listed device shows: its row when the rows were read, and services that it had
at some moment between the first statement and the last one. -/
structure Shows (first last : Db) (device : DeviceOut) (row : DeviceRow) : Prop where
  eq_out : device = row.out device.services
  nodup : device.services.Nodup
  sorted : device.services = Api.sorted device.services
  atLeast : ∀ key ∈ first.serviceKeysOf row.deviceId, key ∈ device.services
  atMost : ∀ key ∈ device.services, key ∈ last.serviceKeysOf row.deviceId

section

variable {rt : PyRuntime} {finish : Db} {seen : List Db}

theorem shows_of_run {first : Db} {row : DeviceRow} {device : DeviceOut}
    (hlater : ∀ db ∈ seen, Later rt first db ∧ Later rt db finish)
    (hrun : (rowToDevice row).run seen = some device) : Shows first finish device row := by
  obtain ⟨db, rfl, rfl⟩ := Reading.run_read_eq_some.mp hrun
  obtain ⟨hfirst, hfinish⟩ := hlater db List.mem_cons_self
  refine ⟨rfl, nodup_listServicesForDevice _ _, (sorted_sorted _).symm, ?_, ?_⟩
  · intro key hkey
    exact mem_listServicesForDevice.mpr (hfirst.mem_serviceKeysOf hkey)
  · intro key hkey
    exact hfinish.mem_serviceKeysOf (mem_listServicesForDevice.mp hkey)

/-- A list shows every device of one database, in order. -/
theorem shows_of_listDevices {order : OrderByDesc DeviceRow.lastSeenMs}
    {answer : List DeviceOut} (hchain : seen.Pairwise (Later rt))
    (hfinish : ∀ db ∈ seen, Later rt db finish)
    (hrun : (listDevices order).run seen = some answer) :
    ∃ first ∈ seen, List.Forall₂ (Shows first finish) answer (order.run first.devices) := by
  obtain ⟨first, rest, rfl, hrest⟩ := Reading.run_look_eq_some.mp hrun
  refine ⟨first, List.mem_cons_self, ?_⟩
  have hparts := Reading.run_all_eq_some hrest
  rw [List.forall₂_map_left_iff] at hparts
  refine hparts.flip.imp ?_
  intro device row ⟨part, hpart, hdevice⟩
  have hlater : ∀ db ∈ part, Later rt first db ∧ Later rt db finish := by
    intro db hdb
    exact ⟨(List.pairwise_cons.mp hchain).1 db (hpart hdb),
      hfinish db (List.mem_cons_of_mem first (hpart hdb))⟩
  exact shows_of_run hlater hdevice

/-- One device is shown as it is in a list, or it is not there. -/
theorem shows_of_getDevice {deviceId : Str} {answer : Option DeviceOut}
    (hchain : seen.Pairwise (Later rt)) (hfinish : ∀ db ∈ seen, Later rt db finish)
    (hrun : (getDevice deviceId).run seen = some answer) :
    ∃ first ∈ seen, Option.Rel (Shows first finish) answer (deviceRowOf first deviceId) := by
  obtain ⟨first, rest, rfl, hrest⟩ := Reading.run_look_eq_some.mp hrun
  refine ⟨first, List.mem_cons_self, ?_⟩
  cases hrow : deviceRowOf first deviceId with
  | none =>
      rw [hrow] at hrest
      obtain ⟨-, rfl⟩ := Reading.run_answer_eq_some.mp hrest
      exact .none
  | some row =>
      rw [hrow] at hrest
      obtain ⟨before, after, device, rfl, hdevice, hanswer⟩ :=
        Reading.run_andThen_eq_some.mp hrest
      obtain ⟨rfl, rfl⟩ := Reading.run_answer_eq_some.mp hanswer
      rw [List.append_nil] at hchain hfinish
      have hlater : ∀ db ∈ before, Later rt first db ∧ Later rt db finish := by
        intro db hdb
        exact ⟨(List.pairwise_cons.mp hchain).1 db hdb,
          hfinish db (List.mem_cons_of_mem first hdb)⟩
      exact .some (shows_of_run hlater hdevice)

end

end Api
end LanDiscovery

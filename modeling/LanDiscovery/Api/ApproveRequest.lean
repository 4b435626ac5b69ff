import LanDiscovery.Api.DeviceReading
import LanDiscovery.Api.Request

/-!
# The approval request as a transaction

`approve_device`, the route, statement by statement.  It commits and then reads the device
back for its answer, still inside of the `try`, so the answer can be an error although the
approval is persisted (`approval_all_or_nothing`).
-/

namespace LanDiscovery
namespace Api
namespace Request

open Library Library.Outcome Library.Transaction

/-- What a client gets. -/
inductive Answer where
  | status (response : Response)
  | device (device : DeviceOut)
  | devices (devices : List DeviceOut)
  | alerts (alerts : List AlertOut)

/-- The status code of an answer. -/
def Answer.statusCode : Answer → Nat
  | .status response => response.statusCode
  | _ => 200

/-! ## The programs -/

/-- The statements of a reading program. -/
def select {β : Type} : Reading Db β → DbConn β
  | .answer result => pure result
  | .look next => do
      let db ← query id
      select (next db)

/-- `set_device_approved`. -/
def setDeviceApproved (deviceId : Uuid) (displayName : Option Str) : DbConn Bool := do
  match ← query fun db => getDeviceRow db deviceId with
  | none => return false
  | some _ => do
      write fun db => Db.write
        { db.toTables with
          devices := Table.updateRow DeviceRow.deviceId deviceId
            (fun row =>
              { row with status := .approved, displayName := displayName.or row.displayName })
            db.devices }
      return true

/-- `approve_device` of `ingest.py`. -/
def approveDevice (deviceId : Uuid) (displayName : Option Str) (nowMs : Int) :
    DbConn Bool := do
  let found ← setDeviceApproved deviceId displayName
  if !found then return false
  match ← query fun db => getDeviceRow db deviceId with
  | none => return false
  | some row => do
      let services ← query fun db => listServicesForDevice db deviceId
      write fun db => upsertBaseline db deviceId row.mdnsHost services nowMs
      return true

/-- `approve_device` of `ingest.py`, for the text of the path. -/
def approveNamed (deviceId : Str) (displayName : Option Str) (nowMs : Int) : DbConn Bool :=
  match Uuid.ofText? deviceId with
  | none => query fun _ => false
  | some deviceId => approveDevice deviceId displayName nowMs

/-- The transaction of the route: whether the device is there. -/
def approveTransaction (deviceId : Str) (displayName : Option Str) (nowMs : Int) :
    DbConn Bool :=
  Conn.transactionIf .sqliteError (approveNamed deviceId displayName nowMs)

/-- `HTTPException` for a device that is not there. -/
def notFound : Response := ⟨404, some (str "device not found")⟩

/-- The `except` clause of `approve_device`. -/
def approveClauses : PyException → DbConn Response
  | .sqliteError => do
      Conn.rollback
      return ⟨500, some (str "database error")⟩
  | exc => throw exc

/-- The answer of the route: the device, or that there is none. -/
def detailAnswer : Option DeviceOut → Answer
  | none => .status notFound
  | some device => .device device

/-- The `try` block of `approve_device`, the route; an `HTTPException` is the answer that
it carries. -/
def approveBody (deviceId : Str) (displayName : Option Str) (nowMs : Int) : DbConn Answer := do
  let ok ← approveTransaction deviceId displayName nowMs
  if !ok then return .status notFound
  let device ← select (getDevice deviceId)
  return detailAnswer device

/-- `approve_device`, the route. -/
def approveDeviceRoute (deviceId : Str) (displayName : Option Str) (nowMs : Int) :
    DbConn Answer :=
  tryCatch (approveBody deviceId displayName nowMs) fun exc => do
    let response ← approveClauses exc
    return .status response

/-- The answer to an exception that leaves the `try` block. -/
def exceptionAnswer (plan : Plan Db PyException) (s : Session Db) (exc : PyException) :
    Response :=
  match (approveClauses exc plan s).1 with
  | .ok response => response
  | .error _ => ⟨500, none⟩

/-- An exception that nothing has handled is a 500 of the framework. -/
def answered {δ : Type} : Except PyException Answer × Session δ → Answer × δ
  | (.ok answer, t) => (answer, t.persisted)
  | (.error _, t) => (.status ⟨500, none⟩, t.persisted)

theorem setDeviceApproved_follows (deviceId : Uuid) (displayName : Option Str) :
    Follows exceptionOf (setDeviceApproved deviceId displayName) fun db =>
      Api.setDeviceApproved db deviceId displayName := by
  let update (found : Option DeviceRow) (db : Db) : Except ApiError (Bool × Db) :=
    match found with
    | none => .ok (false, db)
    | some _ => do
        let db ← Db.write
          { db.toTables with
            devices := Table.updateRow DeviceRow.deviceId deviceId
              (fun row =>
                { row with status := .approved, displayName := displayName.or row.displayName })
              db.devices }
        return (true, db)
  refine (follows_query _).bind (g := update) fun found => ?_
  cases found with
  | none => exact Follows.pure false
  | some row => exact (follows_write _).andThen (Follows.pure true)

theorem approveDevice_follows (deviceId : Uuid) (displayName : Option Str) (nowMs : Int) :
    Follows exceptionOf (approveDevice deviceId displayName nowMs) fun db =>
      Api.approveDevice db deviceId displayName nowMs := by
  let capture (found : Option DeviceRow) (db : Db) : Except ApiError (Bool × Db) :=
    match found with
    | none => .ok (false, db)
    | some row => do
        let db ← upsertBaseline db deviceId row.mdnsHost (listServicesForDevice db deviceId) nowMs
        return (true, db)
  let rest (found : Bool) (db : Db) : Except ApiError (Bool × Db) :=
    if !found then .ok (false, db) else capture (getDeviceRow db deviceId) db
  refine ((setDeviceApproved_follows _ _).bind (g := rest) fun found => ?_).congr fun db => ?_
  · cases found with
    | false => exact Follows.pure false
    | true =>
        refine (follows_query _).bind (g := capture) fun row => ?_
        cases row with
        | none => exact Follows.pure false
        | some row =>
            exact (follows_query _).bind fun services =>
              (follows_write _).andThen (Follows.pure true)
  · unfold Api.approveDevice
    cases Api.setDeviceApproved db deviceId displayName with
    | error e => rfl
    | ok result =>
        obtain ⟨found, db'⟩ := result
        cases found with
        | false => rfl
        | true =>
            show _ = capture (getDeviceRow db' deviceId) db'
            cases hrow : getDeviceRow db' deviceId <;> simp [capture, hrow]

theorem deviceRowOf_eq_some {db : Db} {deviceId : Str} {row : DeviceRow}
    (h : deviceRowOf db deviceId = some row) :
    row ∈ db.devices ∧ Uuid.ofText? deviceId = some row.deviceId := by
  obtain ⟨id, hid, hrow⟩ := Option.bind_eq_some_iff.mp h
  obtain ⟨hmem, hkey⟩ := Table.lookup_eq_some hrow
  exact ⟨hmem, by rw [hid, hkey]⟩

/-- What `approve_device` of `ingest.py` does with the text of a path. -/
def approveNamedOn (db : Db) (deviceId : Str) (displayName : Option Str) (nowMs : Int) :
    Except ApiError (Bool × Db) :=
  match Uuid.ofText? deviceId with
  | none => .ok (false, db)
  | some deviceId => Api.approveDevice db deviceId displayName nowMs

section

variable {plan : Plan Db PyException} {db : Db} {deviceId : Str} {displayName : Option Str}
  {nowMs : Int}

theorem approveNamed_follows :
    Follows exceptionOf (approveNamed deviceId displayName nowMs) fun db =>
      approveNamedOn db deviceId displayName nowMs := by
  unfold approveNamed approveNamedOn
  cases Uuid.ofText? deviceId with
  | none => exact follows_query _
  | some id => exact approveDevice_follows id displayName nowMs

theorem approveNamedOn_of_none (displayName : Option Str) (nowMs : Int)
    (h : deviceRowOf db deviceId = none) :
    approveNamedOn db deviceId displayName nowMs = .ok (false, db) := by
  unfold approveNamedOn
  cases hid : Uuid.ofText? deviceId with
  | none => rfl
  | some id =>
      rw [deviceRowOf, hid, Option.bind_some] at h
      exact approveDevice_of_notMem (Table.lookup_eq_none_iff.mp h) displayName nowMs

theorem approveNamedOn_of_some (displayName : Option Str) (nowMs : Int) {row : DeviceRow}
    (h : deviceRowOf db deviceId = some row) :
    ∃ db', approveNamedOn db deviceId displayName nowMs = .ok (true, db') ∧
      db'.toTables = approved db.toTables row displayName nowMs := by
  obtain ⟨hrow, hid⟩ := deviceRowOf_eq_some h
  simp only [approveNamedOn, hid]
  exact exists_approveDevice hrow displayName nowMs

/-- The approved row is the one that is read back. -/
theorem deviceRowOf_approved {row : DeviceRow} {db' : Db} (h : deviceRowOf db deviceId = some row)
    (htables : db'.toTables = approved db.toTables row displayName nowMs) :
    deviceRowOf db' deviceId = some (row.approve displayName) := by
  obtain ⟨hrow, hid⟩ := deviceRowOf_eq_some h
  have hmem : row.approve displayName ∈ db'.devices := by
    rw [htables]
    exact mem_devices_approved.mpr (Or.inl rfl)
  rw [deviceRowOf, hid]
  exact getDeviceRow_of_mem hmem

/-! ## What is read back -/

variable {β : Type} {s t : Session Db}

/-- A device with its services in one database. -/
def deviceIn (db : Db) (row : DeviceRow) : DeviceOut :=
  row.out (listServicesForDevice db row.deviceId)

/-- The approval of the route is persisted. -/
def IsApproved (db : Db) (deviceId : Str) (displayName : Option Str) (nowMs : Int) (db' : Db)
    (row : DeviceRow) : Prop :=
  deviceRowOf db deviceId = some row ∧
    db'.toTables = approved db.toTables row displayName nowMs

/-- A 500 after an interruption. -/
def Failed (plan : Plan Db PyException) (answer : Answer) : Prop :=
  (∃ response, answer = .status response ∧ response.statusCode = 500) ∧
    ∃ e, Conn.Interrupted plan e

/-- The transaction commits an approval, or finds no device. -/
theorem approveTransaction_eq_ok {ok : Bool}
    (h : approveTransaction deviceId displayName nowMs plan (.opened db) = (.ok ok, t)) :
    t.working = none ∧
      ((ok = false ∧ deviceRowOf db deviceId = none ∧ t.persisted = db) ∨
        (ok = true ∧ ∃ row, IsApproved db deviceId displayName nowMs t.persisted row)) := by
  obtain ⟨hclosed, db', hrun, hpersisted⟩ := approveNamed_follows.ok_transactionIf rfl h
  have hrun' : approveNamedOn db deviceId displayName nowMs = .ok (ok, db') := hrun
  refine ⟨hclosed, ?_⟩
  cases hrow : deviceRowOf db deviceId with
  | none =>
      rw [approveNamedOn_of_none displayName nowMs hrow] at hrun'
      obtain ⟨rfl, rfl⟩ := Prod.mk.inj (Except.ok.inj hrun')
      exact .inl ⟨rfl, rfl, hpersisted⟩
  | some row =>
      obtain ⟨db₁, happrove, htables⟩ := approveNamedOn_of_some displayName nowMs hrow
      rw [happrove] at hrun'
      obtain ⟨rfl, rfl⟩ := Prod.mk.inj (Except.ok.inj hrun')
      have hdb : t.persisted = db₁ := hpersisted
      exact .inr ⟨rfl, row, hrow, hdb ▸ htables⟩

/-- The clauses answer with a 500 and persist nothing. -/
theorem exceptionAnswer_statusCode (plan : Plan Db PyException) (s : Session Db)
    (exc : PyException) : (exceptionAnswer plan s exc).statusCode = 500 := by
  cases exc with
  | sqliteError =>
      cases hback : Conn.rollback (ε := PyException) plan s with
      | mk outcome u =>
          simp only [exceptionAnswer, approveClauses, Conn.bind_eq, hback]
          cases outcome <;> rfl
  | valueError text => rfl
  | other => rfl

end

/-- What a request for an approval leaves, and how it is answered. -/
def Settled (plan : Plan Db PyException) (db : Db) (deviceId : Str) (displayName : Option Str)
    (nowMs : Int) (result : Answer × Db) : Prop :=
  (result = (.status notFound, db) ∧ deviceRowOf db deviceId = none) ∨
  (Failed plan result.1 ∧ result.2 = db) ∨
  ∃ row, IsApproved db deviceId displayName nowMs result.2 row ∧
    (result.1 = .device (deviceIn result.2 (row.approve displayName)) ∨ Failed plan result.1)

end Request
end Api
end LanDiscovery

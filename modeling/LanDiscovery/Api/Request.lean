import LanDiscovery.Api.Service
import LanDiscovery.Library.Transaction

/-!
# The ingest request as a transaction

The same functions once more, now statement by statement on a connection: any statement
may be interrupted by any exception, which then leaves through one of the clauses of the
route or only through the closing of the connection.  An exception that the code between
two statements raises counts as one of the second.

Each program follows the function of its name, so a request persists what
`process_discovery_event` computes, or nothing (`ingest_all_or_nothing`).
-/

namespace LanDiscovery
namespace Api
namespace Request

open Library Library.Outcome Library.Transaction MdnsNames

/-- An exception, by the `except` clause of the route that takes it. -/
inductive PyException where
  | valueError (text : Str)
  | sqliteError
  | other
  deriving DecidableEq

/-- The exception of a failure. -/
def exceptionOf : ApiError → PyException
  | .valueError text => .valueError text
  | .integrityError => .sqliteError
  | .overflowError => .other

/-- A program on a connection to the database. -/
abbrev DbConn := Conn Db PyException

/-- A statement that reads. -/
def query {β : Type} (f : Db → β) : DbConn β :=
  Conn.execute fun db => (Except.ok (f db, db)).mapError exceptionOf

/-- A statement that writes. -/
def write (f : Db → Except ApiError Db) : DbConn Unit :=
  Conn.execute fun db => ((f db).map fun db' => ((), db')).mapError exceptionOf

/-! ## The programs -/

/-- The row with the address of the hint. -/
def findByMacHint (macHint : Option Mac) : DbConn (Option DeviceRow) :=
  match macHint with
  | some mac => query fun db => findDeviceByMac db mac
  | none => pure none

/-- The last statement of the second branch of `resolve_device_id`. -/
def writeMacHint (deviceId : Uuid) (mac : Option Mac) : DbConn Unit :=
  match mac with
  | some mac => write fun db => updateDeviceMac db deviceId mac
  | none => pure ()

/-- `resolve_device_id`. -/
def resolveDeviceId (event : DiscoveryEventIn) (macHint : Option Mac) (deviceUuid : Uuid) :
    DbConn Uuid := do
  let seenMs := eventSeenMs event
  let mdnsHost := mdnsHostFromEvent event
  match ← findByMacHint macHint with
  | some row =>
      let mergedHost := mergedHostByMac row.mdnsHost mdnsHost
      write fun db => updateDeviceObservation db row.deviceId event.srcIp mergedHost seenMs macHint
      return row.deviceId
  | none =>
      match ← query fun db => findDeviceBySrcIp db event.srcIp with
      | some row =>
          let currentHost := mergeRecordHosts row.mdnsHost event.records
          let mac := if row.mac.isNone then macHint else none
          write fun db => updateDeviceObservation db row.deviceId event.srcIp currentHost seenMs mac
          writeMacHint row.deviceId mac
          return row.deviceId
      | none =>
          write fun db =>
            insertDevice db deviceUuid event.srcIp mdnsHost macHint .unknown seenMs seenMs
          return deviceUuid

/-- `upsert_service_keys`. -/
def upsertServiceKeys (deviceId : Uuid) (serviceKeys : List Str) : DbConn Unit :=
  serviceKeys.forM fun key => write fun db => insertServiceKey deviceId db key

/-- `_attach_mac_if_needed`. -/
def attachMacIfNeeded (deviceId : Uuid) (eventMac : Option Str) (lookup : Option Mac) :
    DbConn Unit := do
  match ← query fun db => getDeviceRow db deviceId with
  | none => pure ()
  | some row =>
      if row.mac.isSome then pure ()
      else
        match macOrLookup eventMac lookup with
        | some mac => write fun db => updateDeviceMac db deviceId mac
        | none => pure ()

/-- The loop of `_apply_policy_alerts`. -/
def insertAlerts (deviceId : Uuid) (observedAtMs : Int) (alertUuid : Nat → Uuid)
    (alerts : List PolicyAlert) : DbConn Unit :=
  alerts.zipIdx.forM fun alert => write fun db =>
    (insertAlertIfNew db (alertUuid alert.2) deviceId alert.1.alertType alert.1.message
      alert.1.dedupeKey observedAtMs alert.1.severity).map Prod.snd

/-- `_apply_policy_alerts`. -/
def applyPolicyAlerts (rt : PyRuntime) (deviceId : Uuid) (observedAtMs : Int)
    (alertUuid : Nat → Uuid) : DbConn Unit := do
  match ← query fun db => getDeviceRow db deviceId with
  | none => pure ()
  | some row =>
      let services ← query fun db => listServicesForDevice db deviceId
      let deviceState : DevicePolicyState :=
        { deviceId, status := row.status, mdnsHost := row.mdnsHost, services }
      let baseline ← query fun db => getBaseline db deviceId
      insertAlerts deviceId observedAtMs alertUuid
        (evaluateSecurityPolicy rt deviceState (baseline.map BaselineRow.state))

/-- `process_discovery_event`. -/
def processDiscoveryEvent (rt : PyRuntime) (inp : IngestInput) : DbConn Uuid := do
  if inp.event.srcIp.isEmpty then throw (.valueError (str "src_ip is required"))
  let macHint := resolveMacHint inp.event inp.hintLookup
  let deviceId ← resolveDeviceId inp.event macHint inp.deviceUuid
  let serviceKeys := serviceTypesFromRecords inp.event.records
  upsertServiceKeys deviceId serviceKeys
  attachMacIfNeeded deviceId inp.event.mac inp.attachLookup
  write fun db => appendDiscoveryEvent db deviceId inp.receivedMs inp.event
  applyPolicyAlerts rt deviceId inp.receivedMs inp.alertUuid
  return deviceId

/-- The `except` clauses of `ingest_discovery_event`. -/
def exceptClauses : PyException → DbConn Response
  | .valueError text => do
      Conn.rollback
      return ⟨400, some text⟩
  | .sqliteError => do
      Conn.rollback
      return ⟨500, some (str "database error")⟩
  | .other => throw .other

/-- `ingest_discovery_event`; an `HTTPException` is the answer that it carries. -/
def ingestDiscoveryEvent (rt : PyRuntime) (inp : IngestInput) : DbConn Response :=
  if inp.event.records.isEmpty then
    return ⟨400, some (str "records must not be empty")⟩
  else
    tryCatch
      (do
        let _ ← Conn.transaction .sqliteError (processDiscoveryEvent rt inp)
        return ⟨202, none⟩)
      exceptClauses

/-- A request: `get_db` opens the connection and closes it whatever happens, and the
framework answers an exception that nothing has handled. -/
def request (rt : PyRuntime) (plan : Plan Db PyException) (db : Db) (inp : IngestInput) :
    Response × Db :=
  match (ingestDiscoveryEvent rt inp).run plan db with
  | (.ok response, db') => (response, db')
  | (.error _, db') => (⟨500, none⟩, db')

/-! ## The programs follow the functions -/

theorem follows_query {β : Type} (f : Db → β) :
    Follows exceptionOf (query f) fun db => .ok (f db, db) :=
  Follows.execute _

theorem follows_write (f : Db → Except ApiError Db) :
    Follows exceptionOf (write f) fun db => (f db).map fun db' => ((), db') :=
  Follows.execute _

theorem findByMacHint_follows (macHint : Option Mac) :
    Follows exceptionOf (findByMacHint macHint) fun db =>
      .ok (macHint.bind (findDeviceByMac db), db) := by
  cases macHint with
  | none => exact Follows.pure none
  | some mac => exact follows_query _

theorem writeMacHint_follows (deviceId : Uuid) (mac : Option Mac) :
    Follows exceptionOf (writeMacHint deviceId mac) fun db =>
      (Api.writeMacHint db deviceId mac).map fun db' => ((), db') := by
  cases mac with
  | none => exact Follows.pure ()
  | some mac => exact follows_write _

theorem resolveDeviceId_follows (event : DiscoveryEventIn) (macHint : Option Mac)
    (deviceUuid : Uuid) :
    Follows exceptionOf (resolveDeviceId event macHint deviceUuid) fun db =>
      Api.resolveDeviceId db event macHint deviceUuid := by
  let bySource (found : Option DeviceRow) (db : Db) : Except ApiError (Uuid × Db) :=
    match found with
    | some row => do
        let mac := if row.mac.isNone then macHint else none
        let db ← updateDeviceObservation db row.deviceId event.srcIp
          (mergeRecordHosts row.mdnsHost event.records) (eventSeenMs event) mac
        let db ← Api.writeMacHint db row.deviceId mac
        return (row.deviceId, db)
    | none => do
        let db ← insertDevice db deviceUuid event.srcIp (mdnsHostFromEvent event) macHint
          .unknown (eventSeenMs event) (eventSeenMs event)
        return (deviceUuid, db)
  let byHint (byMac : Option DeviceRow) (db : Db) : Except ApiError (Uuid × Db) :=
    match byMac with
    | some row => do
        let db ← updateDeviceObservation db row.deviceId event.srcIp
          (mergedHostByMac row.mdnsHost (mdnsHostFromEvent event)) (eventSeenMs event) macHint
        return (row.deviceId, db)
    | none => bySource (findDeviceBySrcIp db event.srcIp) db
  refine ((findByMacHint_follows macHint).bind (g := byHint) fun byMac => ?_).congr fun db => ?_
  · cases byMac with
    | some row => exact (follows_write _).andThen (Follows.pure row.deviceId)
    | none =>
        refine (follows_query _).bind (g := bySource) fun found => ?_
        cases found with
        | some row =>
            exact (follows_write _).andThen
              ((writeMacHint_follows _ _).andThen (Follows.pure row.deviceId))
        | none => exact (follows_write _).andThen (Follows.pure deviceUuid)
  · unfold Api.resolveDeviceId
    cases macHint.bind (findDeviceByMac db) <;> rfl

theorem upsertServiceKeys_follows (deviceId : Uuid) (serviceKeys : List Str) :
    Follows exceptionOf (upsertServiceKeys deviceId serviceKeys) fun db =>
      (Api.upsertServiceKeys db deviceId serviceKeys).map fun db' => ((), db') :=
  Follows.forM (fun _ => follows_write _) serviceKeys

theorem attachMacIfNeeded_follows (deviceId : Uuid) (eventMac : Option Str)
    (lookup : Option Mac) :
    Follows exceptionOf (attachMacIfNeeded deviceId eventMac lookup) fun db =>
      (Api.attachMacIfNeeded db deviceId eventMac lookup).map fun db' => ((), db') := by
  let attach (found : Option DeviceRow) (db : Db) : Except ApiError Db :=
    match found with
    | none => .ok db
    | some row =>
        if row.mac.isSome then .ok db
        else
          match macOrLookup eventMac lookup with
          | some mac => updateDeviceMac db deviceId mac
          | none => .ok db
  refine (follows_query _).bind
    (g := fun found db => (attach found db).map fun db' => ((), db')) fun found => ?_
  cases found with
  | none => exact Follows.pure ()
  | some row =>
      dsimp only [attach]
      split_ifs
      · exact Follows.pure ()
      · cases macOrLookup eventMac lookup with
        | none => exact Follows.pure ()
        | some mac => exact follows_write _

theorem insertAlerts_follows (deviceId : Uuid) (observedAtMs : Int) (alertUuid : Nat → Uuid)
    (alerts : List PolicyAlert) :
    Follows exceptionOf (insertAlerts deviceId observedAtMs alertUuid alerts) fun db =>
      (Api.insertAlerts db deviceId observedAtMs alertUuid alerts).map fun db' => ((), db') := by
  refine (Follows.forM (fun _ => follows_write _) alerts.zipIdx).congr fun db => ?_
  unfold Api.insertAlerts
  congr 2

theorem applyPolicyAlerts_follows (rt : PyRuntime) (deviceId : Uuid) (observedAtMs : Int)
    (alertUuid : Nat → Uuid) :
    Follows exceptionOf (applyPolicyAlerts rt deviceId observedAtMs alertUuid) fun db =>
      (Api.applyPolicyAlerts rt db deviceId observedAtMs alertUuid).map fun db' => ((), db') := by
  let apply (found : Option DeviceRow) (db : Db) : Except ApiError Db :=
    match found with
    | none => .ok db
    | some row =>
        Api.insertAlerts db deviceId observedAtMs alertUuid
          (evaluateSecurityPolicy rt
            { deviceId, status := row.status, mdnsHost := row.mdnsHost,
              services := listServicesForDevice db deviceId }
            ((getBaseline db deviceId).map BaselineRow.state))
  refine (follows_query _).bind
    (g := fun found db => (apply found db).map fun db' => ((), db')) fun found => ?_
  cases found with
  | none => exact Follows.pure ()
  | some row =>
      exact (follows_query _).bind fun services =>
        (follows_query _).bind fun baseline => insertAlerts_follows _ _ _ _

/-- **The program follows the function.** -/
theorem processDiscoveryEvent_follows (rt : PyRuntime) (inp : IngestInput) :
    Follows exceptionOf (processDiscoveryEvent rt inp) fun db =>
      Api.processDiscoveryEvent rt db inp := by
  by_cases hsrc : inp.event.srcIp.isEmpty = true
  · unfold processDiscoveryEvent Api.processDiscoveryEvent
    simp only [hsrc, if_true]
    exact Follows.throw (ApiError.valueError (str "src_ip is required"))
  · unfold processDiscoveryEvent Api.processDiscoveryEvent
    simp only [hsrc, Bool.false_eq_true, if_false]
    let rest (deviceId : Uuid) (db : Db) : Except ApiError (Uuid × Db) := do
      let db ← Api.upsertServiceKeys db deviceId (serviceTypesFromRecords inp.event.records)
      let db ← Api.attachMacIfNeeded db deviceId inp.event.mac inp.attachLookup
      let db ← appendDiscoveryEvent db deviceId inp.receivedMs inp.event
      let db ← Api.applyPolicyAlerts rt db deviceId inp.receivedMs inp.alertUuid
      return (deviceId, db)
    refine (resolveDeviceId_follows _ _ _).bind (g := rest) fun deviceId => ?_
    exact (upsertServiceKeys_follows _ _).andThen
      ((attachMacIfNeeded_follows _ _ _).andThen
        ((follows_write _).andThen
          ((applyPolicyAlerts_follows _ _ _ _).andThen (Follows.pure deviceId))))

/-! ## All or nothing -/

/-- An answer of the 2xx class. -/
def IsSuccess (response : Response) : Prop :=
  200 ≤ response.statusCode ∧ response.statusCode < 300

section

variable {rt : PyRuntime} {plan : Plan Db PyException} {db : Db} {inp : IngestInput}

/-- No answer to an exception is a success, and none persists anything. -/
theorem exceptClauses_cases {exc : PyException} {s t : Session Db}
    {outcome : Except PyException Response}
    (h : exceptClauses exc plan s = (outcome, t)) :
    t.persisted = s.persisted ∧ ∀ response, outcome = .ok response → ¬ IsSuccess response := by
  have hrollback : ∀ response : Response, ¬ IsSuccess response →
      (do Conn.rollback; return response : DbConn Response) plan s = (outcome, t) →
      t.persisted = s.persisted ∧ ∀ response, outcome = .ok response → ¬ IsSuccess response := by
    intro response hfail hrun
    cases outcome with
    | ok response' =>
        obtain ⟨_, u, hback, hrest⟩ := Conn.bind_eq_ok hrun
        obtain ⟨hresponse, rfl⟩ := Prod.mk.inj hrest
        obtain rfl := Except.ok.inj hresponse
        refine ⟨Conn.persisted_rollback hback, fun r hr => ?_⟩
        obtain rfl := Except.ok.inj hr
        exact hfail
    | error e =>
        rcases Conn.bind_eq_error hrun with hback | ⟨_, u, -, hrest⟩
        · exact ⟨Conn.persisted_rollback hback, by simp⟩
        · exact absurd (Prod.mk.inj hrest).1 (by simp)
  cases exc with
  | valueError text => exact hrollback _ (by simp [IsSuccess]) h
  | sqliteError => exact hrollback _ (by simp [IsSuccess]) h
  | other =>
      obtain ⟨houtcome, rfl⟩ := Prod.mk.inj h
      exact ⟨rfl, by simp [← houtcome]⟩

theorem request_of_isEmpty (h : inp.event.records.isEmpty = true) :
    request rt plan db inp = (⟨400, some (str "records must not be empty")⟩, db) := by
  simp only [request, ingestDiscoveryEvent, h, if_true]
  rfl

/-- A request with records is a transaction and the clauses after it. -/
theorem request_of_not_isEmpty (h : inp.event.records.isEmpty = false) :
    request rt plan db inp =
      match Conn.transaction .sqliteError (processDiscoveryEvent rt inp) plan (.opened db) with
      | (.ok _, t) => (⟨202, none⟩, t.persisted)
      | (.error exc, t) =>
          match exceptClauses exc plan t with
          | (.ok response, u) => (response, u.persisted)
          | (.error _, u) => (⟨500, none⟩, u.persisted) := by
  simp only [request, ingestDiscoveryEvent, h, Bool.false_eq_true, if_false, Conn.run,
    Conn.tryCatch_eq, Conn.bind_eq]
  cases Conn.transaction .sqliteError (processDiscoveryEvent rt inp) plan (.opened db) with
  | mk outcome t =>
      cases outcome with
      | ok deviceId => rfl
      | error exc =>
          dsimp only
          cases exceptClauses exc plan t with
          | mk outcome u => cases outcome <;> rfl

/-- What a request leaves: nothing new, with an answer that is no success, or what
`process_discovery_event` writes, with the answer 202. -/
theorem request_cases (rt : PyRuntime) (plan : Plan Db PyException) (db : Db)
    (inp : IngestInput) :
    ((request rt plan db inp).2 = db ∧ ¬ IsSuccess (request rt plan db inp).1) ∨
    ((request rt plan db inp).1 = ⟨202, none⟩ ∧ ∃ deviceId,
      Api.processDiscoveryEvent rt db inp = .ok (deviceId, (request rt plan db inp).2)) := by
  cases hrecords : inp.event.records.isEmpty with
  | true =>
      left
      rw [request_of_isEmpty hrecords]
      exact ⟨rfl, by simp [IsSuccess]⟩
  | false =>
      have hfollows := processDiscoveryEvent_follows rt inp
      rw [request_of_not_isEmpty hrecords]
      split
      · next deviceId t hrun =>
          right
          exact ⟨rfl, deviceId, hfollows.ok_transaction rfl hrun⟩
      · next exc t hrun =>
          left
          obtain ⟨hkept, -⟩ := hfollows.error_transaction rfl hrun
          split
          · next response u hclause =>
              obtain ⟨hkept', hfail⟩ := exceptClauses_cases hclause
              exact ⟨hkept'.trans hkept, hfail response rfl⟩
          · next e u hclause =>
              obtain ⟨hkept', -⟩ := exceptClauses_cases hclause
              exact ⟨hkept'.trans hkept, by simp [IsSuccess]⟩

/-- A request that nothing interrupts is the route as a function. -/
theorem request_uninterrupted (rt : PyRuntime) (db : Db) (inp : IngestInput) :
    request rt (fun _ => none) db inp = Api.ingestDiscoveryEvent rt db inp := by
  unfold Api.ingestDiscoveryEvent
  cases hrecords : inp.event.records.isEmpty with
  | true =>
      rw [request_of_isEmpty hrecords]
      rfl
  | false =>
      have hfollows := processDiscoveryEvent_follows rt inp
      rw [request_of_not_isEmpty hrecords, if_neg Bool.false_ne_true]
      split
      · next deviceId t hrun =>
          have hprocess := hfollows.ok_transaction rfl hrun
          change Api.processDiscoveryEvent rt db inp = _ at hprocess
          rw [hprocess]
      · next exc t hrun =>
          obtain ⟨hkept, ⟨n, fault, hplan, -⟩ | ⟨e, hprocess, rfl⟩⟩ :=
            hfollows.error_transaction rfl hrun
          · exact absurd hplan (by simp)
          · change Api.processDiscoveryEvent rt db inp = _ at hprocess
            rw [hprocess]
            have hdb : t.persisted = db := hkept
            cases e <;> exact congrArg (Prod.mk _) hdb

end

/-- **A request is all or nothing.**  Whatever the database, the event and the
interruptions are, the request leaves the tables as they were, with an answer that is no
success, or all that `process_discovery_event` writes, with the answer 202; then there is
one more row in `discovery_events`, after the old ones, for the device that
`resolve_device_id` gives. -/
theorem ingest_all_or_nothing (rt : PyRuntime) (plan : Plan Db PyException) (db : Db)
    (inp : IngestInput) :
    ((request rt plan db inp).2 = db ∧ ¬ IsSuccess (request rt plan db inp).1) ∨
    ((request rt plan db inp).1 = ⟨202, none⟩ ∧ ∃ deviceId db₁,
      Api.resolveDeviceId db inp.event (resolveMacHint inp.event inp.hintLookup)
        inp.deviceUuid = .ok (deviceId, db₁) ∧
      Api.processDiscoveryEvent rt db inp = .ok (deviceId, (request rt plan db inp).2) ∧
      (request rt plan db inp).2.discoveryEvents = db.discoveryEvents ++
        [{ deviceId, receivedAtMs := inp.receivedMs, payload := inp.event }]) := by
  rcases request_cases rt plan db inp with hnothing | ⟨hanswer, deviceId, hprocess⟩
  · exact Or.inl hnothing
  · right
    obtain ⟨hok, rfl, htables⟩ := processDiscoveryEvent_eq_ok_iff.mp hprocess
    obtain ⟨db₁, hdb₁⟩ := Db.exists_toTables ((db.constraints.upsertDevice_iff _).mpr
      (resolvedRow_macFree db inp.event inp.macHint inp.deviceUuid))
    have hresolve := resolveDeviceId_eq_ok_iff.mpr ⟨hok.seenMs, hok.fresh, rfl, hdb₁⟩
    exact ⟨hanswer, _, db₁, hresolve, hprocess, congrArg Tables.discoveryEvents htables⟩

/-- The first event of a device. -/
def firstEvent : IngestInput :=
  sampleInput "192.168.1.10" none [sampleRecord "A" "tv.local" (some "tv.local") 1000] 1000 0

/-- The first event is stored with the answer 202, and a request that is interrupted in any
of its ten statements leaves the tables empty. -/
theorem firstEvent_all_or_nothing :
    ((request sampleRuntime (fun _ => none) Db.empty firstEvent).1 = ⟨202, none⟩ ∧
      ∃ deviceId, (request sampleRuntime (fun _ => none) Db.empty firstEvent).2.discoveryEvents =
        [{ deviceId, receivedAtMs := 1000, payload := firstEvent.event }]) ∧
    ∀ n < 10, (request sampleRuntime
      (fun k => if k = n then some ⟨.sqliteError, none⟩ else none) Db.empty firstEvent).2 =
        Db.empty := by
  constructor
  · rcases ingest_all_or_nothing sampleRuntime (fun _ => none) Db.empty firstEvent with
      ⟨-, hfails⟩ | ⟨hanswer, deviceId, -, -, -, hevents⟩
    · refine absurd ?_ hfails
      unfold IsSuccess
      decide +kernel
    · exact ⟨hanswer, deviceId, hevents⟩
  · intro n hn
    have hfails : ∀ n < 10, (request sampleRuntime
        (fun k => if k = n then some ⟨.sqliteError, none⟩ else none) Db.empty firstEvent).1 ≠
          ⟨202, none⟩ := by
      decide +kernel
    rcases ingest_all_or_nothing sampleRuntime
      (fun k => if k = n then some ⟨.sqliteError, none⟩ else none) Db.empty firstEvent with
      ⟨hkept, -⟩ | ⟨hanswer, -⟩
    · exact hkept
    · exact absurd hanswer (hfails n hn)

end Request
end Api
end LanDiscovery

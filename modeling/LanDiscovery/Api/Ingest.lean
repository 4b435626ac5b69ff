import LanDiscovery.Api.MdnsNames
import LanDiscovery.Api.Repository
import LanDiscovery.Api.SecurityPolicy

/-!
# Ingest and approval

`ingest.py`.  What the functions read from outside is input: the clock, the two
answers of the neighbour table and the fresh identifiers.

The two branches of `resolve_device_id` that find a device merge the host in
different ways; `mergedHostByMac_eq_iff` says when they come to the same.
-/

namespace LanDiscovery
namespace Api

open Library Library.Outcome Library.Preference MdnsNames

/-- One call of `process_discovery_event`: the event, the time, what
`mac_resolver.lookup` answers when the hint and when the missing address is
asked for, and what `uuid4` returns for the device and for the alerts. -/
structure IngestInput where
  event : DiscoveryEventIn
  receivedMs : Int
  hintLookup : Option Mac
  attachLookup : Option Mac
  deviceUuid : Uuid
  alertUuid : Nat → Uuid

/-- `_event_seen_ms`. -/
def eventSeenMs (event : DiscoveryEventIn) : Int :=
  match event.records with
  | [] => event.timestampMs
  | rec :: records =>
      max event.timestampMs ((records.map DiscoveryRecordIn.lastSeenMs).foldl max rec.lastSeenMs)

/-- The address of the event if it has one, otherwise the given answer. -/
def macOrLookup (eventMac : Option Str) (lookup : Option Mac) : Option Mac :=
  match truthy eventMac with
  | some _ => normalizeMac eventMac
  | none => lookup

/-- `_resolve_mac_hint`. -/
def resolveMacHint (event : DiscoveryEventIn) (lookup : Option Mac) : Option Mac :=
  macOrLookup event.mac lookup

/-- The host that the first branch of `resolve_device_id` stores. -/
def mergedHostByMac (rowHost mdnsHost : Option Str) : Option Str :=
  if (truthy rowHost).isSome && (truthy mdnsHost).isSome then
    (truthy (mergeMdnsHost rowHost mdnsHost true)).or mdnsHost
  else if (truthy rowHost).isSome && !(truthy mdnsHost).isSome then rowHost
  else mdnsHost

/-- The last statement of the second branch of `resolve_device_id`. -/
def writeMacHint (db : Db) (deviceId : Uuid) (mac : Option Mac) : Except ApiError Db :=
  match mac with
  | some mac => updateDeviceMac db deviceId mac
  | none => .ok db

/-- `resolve_device_id`. -/
def resolveDeviceId (db : Db) (event : DiscoveryEventIn) (macHint : Option Mac)
    (deviceUuid : Uuid) : Except ApiError (Uuid × Db) :=
  let seenMs := eventSeenMs event
  let mdnsHost := mdnsHostFromEvent event
  match macHint.bind (findDeviceByMac db) with
  | some row => do
      let mergedHost := mergedHostByMac row.mdnsHost mdnsHost
      let db ← updateDeviceObservation db row.deviceId event.srcIp mergedHost seenMs macHint
      return (row.deviceId, db)
  | none =>
      match findDeviceBySrcIp db event.srcIp with
      | some row => do
          let currentHost := mergeRecordHosts row.mdnsHost event.records
          -- an address is attached but never replaced
          let mac := if row.mac.isNone then macHint else none
          let db ← updateDeviceObservation db row.deviceId event.srcIp currentHost seenMs mac
          let db ← writeMacHint db row.deviceId mac
          return (row.deviceId, db)
      | none => do
          let db ← insertDevice db deviceUuid event.srcIp mdnsHost macHint .unknown seenMs seenMs
          return (deviceUuid, db)

/-- `_attach_mac_if_needed`. -/
def attachMacIfNeeded (db : Db) (deviceId : Uuid) (eventMac : Option Str)
    (lookup : Option Mac) : Except ApiError Db :=
  match getDeviceRow db deviceId with
  | none => .ok db
  | some row =>
      -- the neighbour table is asked a second time here
      if row.mac.isSome then .ok db
      else
        match macOrLookup eventMac lookup with
        | some mac => updateDeviceMac db deviceId mac
        | none => .ok db

/-- The `BaselineState` of a row. -/
def BaselineRow.state (row : BaselineRow) : BaselineState where
  mdnsHost := row.mdnsHost
  services := parseServicesJson row.servicesJson

/-- The loop of `_apply_policy_alerts`; the alerts are numbered for their
identifiers. -/
def insertAlerts (db : Db) (deviceId : Uuid) (observedAtMs : Int) (alertUuid : Nat → Uuid)
    (alerts : List PolicyAlert) : Except ApiError Db :=
  alerts.zipIdx.foldlM
    (fun db alert => do
      let (_, db) ← insertAlertIfNew db (alertUuid alert.2) deviceId alert.1.alertType
        alert.1.message alert.1.dedupeKey observedAtMs alert.1.severity
      return db) db

/-- `_apply_policy_alerts`. -/
def applyPolicyAlerts (rt : PyRuntime) (db : Db) (deviceId : Uuid) (observedAtMs : Int)
    (alertUuid : Nat → Uuid) : Except ApiError Db :=
  match getDeviceRow db deviceId with
  | none => .ok db
  | some row =>
      let services := listServicesForDevice db deviceId
      let deviceState : DevicePolicyState :=
        { deviceId, status := row.status, mdnsHost := row.mdnsHost, services }
      let baseline := (getBaseline db deviceId).map BaselineRow.state
      insertAlerts db deviceId observedAtMs alertUuid
        (evaluateSecurityPolicy rt deviceState baseline)

/-- `process_discovery_event`. -/
def processDiscoveryEvent (rt : PyRuntime) (db : Db) (inp : IngestInput) :
    Except ApiError (Uuid × Db) := do
  if inp.event.srcIp.isEmpty then throw (.valueError (str "src_ip is required"))
  let macHint := resolveMacHint inp.event inp.hintLookup
  let (deviceId, db) ← resolveDeviceId db inp.event macHint inp.deviceUuid
  let serviceKeys := serviceTypesFromRecords inp.event.records
  let db ← upsertServiceKeys db deviceId serviceKeys
  let db ← attachMacIfNeeded db deviceId inp.event.mac inp.attachLookup
  let db ← appendDiscoveryEvent db deviceId inp.receivedMs inp.event
  let db ← applyPolicyAlerts rt db deviceId inp.receivedMs inp.alertUuid
  return (deviceId, db)

/-- `approve_device`. -/
def approveDevice (db : Db) (deviceId : Uuid) (displayName : Option Str) (nowMs : Int) :
    Except ApiError (Bool × Db) := do
  let (found, db) ← setDeviceApproved db deviceId displayName
  if !found then return (false, db)
  match getDeviceRow db deviceId with
  | none => return (false, db)
  | some row =>
      let services := listServicesForDevice db deviceId
      let db ← upsertBaseline db deviceId row.mdnsHost services nowMs
      return (true, db)

/-! ## The host of the first branch -/

/-- The first branch keeps the stored host only when the event has none. -/
theorem mergedHostByMac_eq {rowHost mdnsHost : Option Str} (hrow : rowHost ≠ some [])
    (hevent : mdnsHost ≠ some []) : mergedHostByMac rowHost mdnsHost = mdnsHost.or rowHost := by
  unfold mergedHostByMac mergeMdnsHost
  rw [truthy_of_ne hrow, truthy_of_ne hevent]
  cases rowHost with
  | none => cases mdnsHost <;> rfl
  | some stored =>
      cases mdnsHost with
      | none => rfl
      | some host => simp [truthy_of_ne hevent]

@[simp] theorem truthy_mergedHostByMac (rowHost mdnsHost : Option Str) :
    truthy (mergedHostByMac rowHost mdnsHost) = (truthy mdnsHost).or (truthy rowHost) := by
  unfold mergedHostByMac mergeMdnsHost
  cases hrow : truthy rowHost with
  | none => simp
  | some stored =>
      cases hevent : truthy mdnsHost with
      | none => simp [hrow]
      | some host =>
          have hset : truthy (some host) = some host :=
            truthy_eq_some.mpr ⟨rfl, (truthy_eq_some.mp hevent).2⟩
          simp [hset]

/-- The event has another host than the one that is stored, and no SRV record with
a host. -/
def OtherHost (rowHost : Option Str) (event : DiscoveryEventIn) : Prop :=
  ∃ stored host, rowHost = some stored ∧ mdnsHostFromEvent event = some host ∧ host ≠ stored ∧
    ∀ rec ∈ event.records, isSrv rec = true → truthy rec.host = none

/-- The first branch merges as the second does unless the event has another host
and no SRV record to justify it. -/
theorem mergedHostByMac_eq_iff {rowHost : Option Str} {event : DiscoveryEventIn}
    (hrow : rowHost ≠ some []) :
    mergedHostByMac rowHost (mdnsHostFromEvent event) = mergeRecordHosts rowHost event.records ↔
      ¬ OtherHost rowHost event := by
  rw [mergedHostByMac_eq hrow (mdnsHostFromEvent_ne_empty event),
    mergeRecordHosts_eq_settle hrow, mdnsHostFromEvent_eq_settle, or_eq_settle_iff, OtherHost,
    mdnsHostFromEvent_eq_settle]
  simp only [lastOverwrite_eq_none_iff_srv]

end Api
end LanDiscovery

import LanDiscovery.Api.ClosedForm
import LanDiscovery.Library.Transition

/-!
# The service

The two writing routes of `main.py`, and the system they drive: a database and
the operations on it.  An operation that fails is rolled back, so it leaves the
database as it was.  `Reachable` are the databases that operations lead to; the
routes lead to no others (`reachable_ingestDiscoveryEvent`,
`reachable_approveDeviceRoute`).
-/

namespace LanDiscovery
namespace Api

open Library Library.Outcome Library.Transition

/-- A call of `process_discovery_event` or of `approve_device` in a transaction. -/
inductive Operation where
  | ingest (inp : IngestInput)
  | approve (deviceId : Uuid) (displayName : Option Str) (nowMs : Int)

/-- The time of an operation. -/
def Operation.timeMs : Operation → Int
  | .ingest inp => inp.receivedMs
  | .approve _ _ nowMs => nowMs

/-- The database after a transaction. -/
def committed {β : Type} (db : Db) : Except ApiError (β × Db) → Db
  | .ok (_, db') => db'
  | .error _ => db

/-- The database after an operation. -/
def runOperation (rt : PyRuntime) (db : Db) : Operation → Db
  | .ingest inp => committed db (processDiscoveryEvent rt db inp)
  | .approve deviceId displayName nowMs =>
      committed db (approveDevice db deviceId displayName nowMs)

theorem runOperation_ingest_of_ok {rt : PyRuntime} {db db' : Db} {inp : IngestInput}
    {deviceId : Uuid} (h : processDiscoveryEvent rt db inp = .ok (deviceId, db')) :
    runOperation rt db (.ingest inp) = db' := by
  rw [runOperation, h, committed]

/-- The databases that operations lead to. -/
def Reachable (rt : PyRuntime) : Db → Prop :=
  Transition.Reachable (fun db => db = Db.empty) fun db op db' => runOperation rt db op = db'

/-! ## Routes -/

/-- Status code and detail of an answer. -/
structure Response where
  statusCode : Nat
  detail : Option Str
  deriving DecidableEq

/-- The `except` clauses of the routes; an exception they do not name is
answered by the framework. -/
def errorResponse : ApiError → Response
  | .valueError text => ⟨400, some text⟩
  | .integrityError => ⟨500, some (str "database error")⟩
  | .overflowError => ⟨500, none⟩

/-- `ingest_discovery_event`. -/
def ingestDiscoveryEvent (rt : PyRuntime) (db : Db) (inp : IngestInput) : Response × Db :=
  if inp.event.records.isEmpty then (⟨400, some (str "records must not be empty")⟩, db)
  else
    match processDiscoveryEvent rt db inp with
    | .ok (_, db') => (⟨202, none⟩, db')
    | .error e => (errorResponse e, db)

/-- `approve_device`, the route: the path names the device by its text. -/
def approveDeviceRoute (db : Db) (deviceId : Str) (displayName : Option Str) (nowMs : Int) :
    Response × Db :=
  let notFound : Response := ⟨404, some (str "device not found")⟩
  match Uuid.ofText? deviceId with
  | none => (notFound, db)
  | some deviceId =>
      match approveDevice db deviceId displayName nowMs with
      | .ok (true, db') => (⟨200, none⟩, db')
      | .ok (false, _) => (notFound, db)
      | .error e => (errorResponse e, db)

/-! ## Invariants -/

/-- An operation changes nothing, ingests an acceptable event, or approves an
existing device. -/
theorem runOperation_cases (rt : PyRuntime) (db : Db) (op : Operation) :
    runOperation rt db op = db ∨
    (∃ inp, op = .ingest inp ∧ Acceptable db inp ∧
      (runOperation rt db op).toTables = ingested rt db inp) ∨
    ∃ row ∈ db.devices, ∃ displayName nowMs, op = .approve row.deviceId displayName nowMs ∧
      (runOperation rt db op).toTables = approved db.toTables row displayName nowMs := by
  -- a call that fails is rolled back
  cases op with
  | ingest inp =>
      cases hrun : processDiscoveryEvent rt db inp with
      | error e => exact Or.inl (by simp [runOperation, committed, hrun])
      | ok result =>
          obtain ⟨hok, -, htables⟩ := processDiscoveryEvent_eq_ok_iff.mp hrun
          refine Or.inr (Or.inl ⟨inp, rfl, hok, ?_⟩)
          simpa [runOperation, committed, hrun] using htables
  | approve deviceId displayName nowMs =>
      by_cases hid : deviceId ∈ db.deviceIds
      · obtain ⟨row, hrow, rfl⟩ := List.mem_map.mp hid
        cases hrun : approveDevice db row.deviceId displayName nowMs with
        | error e => exact Or.inl (by simp [runOperation, committed, hrun])
        | ok result =>
            obtain ⟨-, htables⟩ := (approveDevice_of_mem hrow).mp hrun
            refine Or.inr (Or.inr ⟨row, hrow, displayName, nowMs, rfl, ?_⟩)
            simpa [runOperation, committed, hrun] using htables
      · exact Or.inl (by simp [runOperation, committed, approveDevice_of_notMem hid])

/-- A call that fails leaves everything as it was. -/
@[simp] theorem runOperation_ingest_of_not_acceptable {rt : PyRuntime} {db : Db} {inp : IngestInput}
    (h : ¬ Acceptable db inp) : runOperation rt db (.ingest inp) = db := by
  rcases runOperation_cases rt db (.ingest inp) with hsame | ⟨inp', hinp, hok, -⟩ |
    ⟨row, -, displayName, nowMs, hinp, -⟩
  · exact hsame
  · obtain rfl := Operation.ingest.inj hinp
    exact absurd hok h
  · exact absurd hinp (by simp)

/-- A property of the tables that acceptable ingests and approvals keep is kept
by every operation. -/
theorem runOperation_preserves {rt : PyRuntime} {I : Tables → Prop} {db : Db} {op : Operation}
    (hingest : ∀ inp, op = .ingest inp → Acceptable db inp → I (ingested rt db inp))
    (happrove : ∀ row ∈ db.devices, ∀ displayName nowMs,
      op = .approve row.deviceId displayName nowMs →
        I (approved db.toTables row displayName nowMs))
    (h : I db.toTables) : I (runOperation rt db op).toTables := by
  rcases runOperation_cases rt db op with hsame | ⟨inp, hop, hok, htables⟩ |
    ⟨row, hrow, displayName, nowMs, hop, htables⟩
  · rw [hsame]
    exact h
  · rw [htables]
    exact hingest inp hop hok
  · rw [htables]
    exact happrove row hrow displayName nowMs hop

/-- **Invariant rule.**  What holds of the empty tables and is kept by acceptable
ingests and by approvals holds of every reachable database. -/
theorem Reachable.invariant {rt : PyRuntime} {I : Tables → Prop} (hempty : I Db.empty.toTables)
    (hingest : ∀ db inp, I db.toTables → Acceptable db inp → I (ingested rt db inp))
    (happrove : ∀ (db : Db), ∀ row ∈ db.devices, ∀ displayName nowMs, I db.toTables →
      I (approved db.toTables row displayName nowMs))
    {db : Db} (h : Reachable rt db) : I db.toTables := by
  refine Transition.Reachable.invariant (I := fun db => I db.toTables) ?_ ?_ h
  · rintro _ rfl
    exact hempty
  · rintro db op _ hdb rfl
    exact runOperation_preserves (fun inp _ hok => hingest db inp hdb hok)
      (fun row hrow displayName nowMs _ => happrove db row hrow displayName nowMs hdb) hdb

theorem Reachable.run {rt : PyRuntime} {db : Db} (h : Reachable rt db) (op : Operation) :
    Reachable rt (runOperation rt db op) :=
  h.extend rfl

/-- The routes lead to reachable databases only. -/
theorem reachable_ingestDiscoveryEvent {rt : PyRuntime} {db : Db} (h : Reachable rt db)
    (inp : IngestInput) : Reachable rt (ingestDiscoveryEvent rt db inp).2 := by
  have hrun := h.run (.ingest inp)
  unfold ingestDiscoveryEvent
  split
  · exact h
  · simp only [runOperation] at hrun
    cases hprocess : processDiscoveryEvent rt db inp with
    | error e => exact h
    | ok result => simpa [hprocess, committed] using hrun

theorem reachable_approveDeviceRoute {rt : PyRuntime} {db : Db} (h : Reachable rt db)
    (deviceId : Str) (displayName : Option Str) (nowMs : Int) :
    Reachable rt (approveDeviceRoute db deviceId displayName nowMs).2 := by
  unfold approveDeviceRoute
  dsimp only
  cases hid : Uuid.ofText? deviceId with
  | none => exact h
  | some id =>
      have hrun := h.run (.approve id displayName nowMs)
      simp only [runOperation] at hrun
      cases happrove : approveDevice db id displayName nowMs with
      | error e => simpa [happrove] using h
      | ok result =>
          obtain ⟨found, db'⟩ := result
          cases found with
          | false => simpa [happrove] using h
          | true => simpa [happrove, committed] using hrun

/-- A stored host is never the empty string. -/
def HostsNonempty (t : Tables) : Prop :=
  ∀ row ∈ t.devices, row.mdnsHost ≠ some []

theorem observedRow_mdnsHost_ne_empty {db : Db} (h : HostsNonempty db.toTables)
    (inp : IngestInput) : (observedRow db inp).mdnsHost ≠ some [] := by
  change (resolvedRow db inp.event inp.macHint inp.deviceUuid).mdnsHost ≠ some []
  have hevent := mdnsHostFromEvent_ne_empty inp.event
  unfold resolvedRow
  cases hres : resolution db inp.event inp.macHint with
  | byMac row =>
      have hrow := h row (resolution_eq_byMac hres).1
      change mergedHostByMac row.mdnsHost (mdnsHostFromEvent inp.event) ≠ some []
      rw [mergedHostByMac_eq hrow hevent]
      cases hhost : mdnsHostFromEvent inp.event with
      | none => simpa using hrow
      | some host => simpa [hhost] using hevent
  | bySrcIp row =>
      have hrow := findDeviceBySrcIp_eq_some (resolution_eq_bySrcIp hres).1
      exact mergeRecordHosts_ne_empty (h row hrow.1) _
  | fresh => exact hevent

theorem Reachable.hostsNonempty {rt : PyRuntime} {db : Db} (h : Reachable rt db) :
    HostsNonempty db.toTables := by
  refine h.invariant (by simp [HostsNonempty, Db.empty]) ?_ ?_
  · intro db inp hdb _ r hr
    rcases Table.mem_upsert.mp hr with rfl | ⟨hold, -⟩
    · exact observedRow_mdnsHost_ne_empty hdb inp
    · exact hdb r hold
  · intro db row hrow displayName nowMs hdb r hr
    rcases Table.mem_upsert.mp hr with rfl | ⟨hold, -⟩
    · exact hdb row hrow
    · exact hdb r hold

theorem Reachable.empty (rt : PyRuntime) : Reachable rt Db.empty :=
  .of_init rfl

/-! ## Sample requests -/

/-- What the samples take from the Python library; they raise no mismatch. -/
def sampleRuntime : PyRuntime where
  digest := fun _ => []
  repr := fun s => s

/-- Identifiers that differ in the last digit. -/
def sampleUuid (n : Nat) : Uuid where
  text := str "6c508f18-2e53-4a12-a927-0fc7659c2ef" ++ [Nat.digitChar n]
  length_eq := by simp [str]

/-- A record as the scanner posts it, with or without a host. -/
def sampleRecord (typeName owner : String) (host : Option String) (lastSeenMs : Int) :
    DiscoveryRecordIn where
  ownerName := str owner
  type := 1
  typeName := some (str typeName)
  rdataText := []
  ttl := 120
  lastSeenMs := lastSeenMs
  host := host.map str

/-- An event that is ingested when it is seen, with identifiers by number. -/
def sampleInput (srcIp : String) (mac : Option String) (records : List DiscoveryRecordIn)
    (nowMs : Int) (n : Nat) : IngestInput where
  event := { timestampMs := nowMs, srcIp := str srcIp, records, mac := mac.map str }
  receivedMs := nowMs
  hintLookup := none
  attachLookup := none
  deviceUuid := sampleUuid n
  alertUuid := fun _ => sampleUuid n

end Api
end LanDiscovery

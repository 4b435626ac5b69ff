import LanDiscovery.Api.ApproveRequest
import LanDiscovery.Library.Snapshot

/-!
# The server

Many requests at once, each on a connection of its own, in write-ahead mode.  A `BEGIN` is
deferred, so the first statement takes a snapshot, and the first one that writes takes the
lock, unless somebody has committed since; a statement that does not get it raises
`sqlite3.Error` and is one of the interruptions of the transaction.  Statements outside of
a transaction see what is persisted.
-/

namespace LanDiscovery
namespace Api
namespace Server

open Library Library.Outcome Library.Transaction Library.Snapshot Request

/-- A request that the framework has read. -/
inductive Call where
  | ingest (inp : IngestInput)
  | approve (deviceId : Str) (displayName : Option Str) (nowMs : Int)
  | listDevices
  | getDevice (deviceId : Str)
  | listAlerts (limit : Int) (alertType : Option Str)

/-- The routes that depend on `require_api_key`. -/
def Call.writes : Call → Bool
  | .ingest _ | .approve .. => true
  | .listDevices | .getDevice _ | .listAlerts .. => false

/-- What a request does to the database when it commits. -/
def Call.operation : Call → Option Operation
  | .ingest inp => some (.ingest inp)
  | .approve deviceId displayName nowMs =>
      (Uuid.ofText? deviceId).map fun id => .approve id displayName nowMs
  | .listDevices | .getDevice _ | .listAlerts .. => none

/-- What the service runs with: the token of `settings`, and what it leaves to the Python
library and to SQLite. -/
structure Config where
  rt : PyRuntime
  apiToken : Option Str
  deviceOrder : OrderByDesc DeviceRow.lastSeenMs
  alertOrder : OrderByDesc AlertRow.observedAtMs

/-- `require_api_key`. -/
def requireApiKey (expected xApiKey : Option Str) : Except Response Unit :=
  match truthy expected with
  | none => .ok ()
  | some token =>
      if xApiKey = some token then .ok () else .error ⟨401, some (str "Unauthorized")⟩

/-- What the routes check before any statement: records of a `POST`, and the bounds of
`limit`. -/
def Call.check : Call → Except Response Unit
  | .ingest inp =>
      if inp.event.records.isEmpty then .error ⟨400, some (str "records must not be empty")⟩
      else .ok ()
  | .listAlerts limit _ => if limit < 1 ∨ 500 < limit then .error ⟨422, none⟩ else .ok ()
  | .approve .. | .listDevices | .getDevice _ => .ok ()

/-- What is checked of a request before it comes to a statement. -/
def checkRequest (cfg : Config) (call : Call) (xApiKey : Option Str) : Except Response Unit := do
  if call.writes then requireApiKey cfg.apiToken xApiKey else pure ()
  call.check

/-- The reading part of a request; for a `PATCH` it comes after the commit. -/
def program (cfg : Config) : Call → Reading Db Answer
  | .ingest _ => .answer (.status ⟨202, none⟩)
  | .approve deviceId _ _ | .getDevice deviceId =>
      (getDevice deviceId).andThen fun device => .answer (detailAnswer device)
  | .listDevices =>
      (listDevices cfg.deviceOrder).andThen fun devices => .answer (.devices devices)
  | .listAlerts limit alertType =>
      (listAlerts cfg.alertOrder limit.toNat alertType).andThen fun alerts =>
        .answer (.alerts alerts)

/-- The transaction of a request on a snapshot: its answer unless it commits, and what it
leaves. -/
def attempt (cfg : Config) (plan : Plan Db PyException) (db : Db) :
    Call → Option Response × Db
  | .ingest inp =>
      let result := request cfg.rt plan db inp
      (if result.1.statusCode = 202 then none else some result.1, result.2)
  | .approve deviceId displayName nowMs =>
      match approveTransaction deviceId displayName nowMs plan (.opened db) with
      | (.ok true, t) => (none, t.persisted)
      | (.ok false, t) => (some notFound, t.persisted)
      | (.error exc, t) => (some (exceptionAnswer plan t exc), t.persisted)
  | .listDevices | .getDevice _ | .listAlerts .. => (some ⟨500, none⟩, db)

/-- Where the handling of a request is: in its transaction, among its other statements, or
answered, with the number of commits there had been. -/
inductive Stage where
  | transaction
  | reading (rest : Reading Db Answer)
  | answered (left : Nat) (answer : Answer)

/-- A request that has arrived.  The number of commits before it, the place of its own
commit and the places of the states that it looked at are kept for the account only. -/
structure Handling where
  call : Call
  xApiKey : Option Str
  entered : Nat
  commit : Option Nat
  looks : List Nat
  stage : Stage

/-- The server: the database file and the requests, by number; and the commits. -/
structure State where
  store : Store Nat Db
  handling : Nat → Option Handling
  log : List (Nat × Call)

/-- The server before the first request. -/
def State.start (db : Db) : State where
  store := .opened db
  handling := fun _ => none
  log := []

inductive Action where
  | arrive (i : Nat) (call : Call) (xApiKey : Option Str)
  /-- the first statement of the transaction -/
  | begin (i : Nat)
  /-- its first statement that writes -/
  | lock (i : Nat)
  /-- the transaction ends, with these interruptions -/
  | finish (i : Nat) (plan : Plan Db PyException)
  /-- a statement outside of the transaction -/
  | look (i : Nat)
  /-- such a statement raises an exception -/
  | fail (i : Nat) (exc : PyException)
  | reply (i : Nat)

namespace State

/-- The request goes on. -/
def put (server : State) (i : Nat) (h : Handling) : State :=
  { server with handling := Function.update server.handling i (some h) }

/-- The stage of a new request. -/
def firstStage (cfg : Config) (version : Nat) (call : Call) (xApiKey : Option Str) : Stage :=
  match checkRequest cfg call xApiKey with
  | .error response => .answered version (.status response)
  | .ok _ => if call.writes then .transaction else .reading (program cfg call)

/-- The answer of the `except` clause around a statement outside of a transaction. -/
def statementAnswer : PyException → Response
  | .sqliteError => ⟨500, some (str "database error")⟩
  | _ => ⟨500, none⟩

/-- The end of a transaction that has the given snapshot. -/
def finish (cfg : Config) (server : State) (i : Nat) (h : Handling) (taken : Nat) (db : Db)
    (plan : Plan Db PyException) : Option State :=
  match attempt cfg plan db h.call with
  | (none, db') => do
      let store ← server.store.next (.commit i db')
      let h := { h with commit := some server.log.length, stage := .reading (program cfg h.call) }
      return { server.put i h with store := store, log := server.log ++ [(i, h.call)] }
  | (some response, _) => do
      let store ← server.store.next (.close i)
      let h := { h with
        looks := [taken]
        stage := .answered server.store.version (.status response) }
      return { server.put i h with store := store }

/-- One action, if it is possible. -/
def next (cfg : Config) (server : State) : Action → Option State
  | .arrive i call xApiKey =>
      match server.handling i with
      | some _ => none
      | none =>
          some (server.put i
            { call, xApiKey, entered := server.store.version, commit := none, looks := []
              stage := firstStage cfg server.store.version call xApiKey })
  | .begin i =>
      match server.handling i with
      | some ⟨_, _, _, _, _, .transaction⟩ =>
          (server.store.next (.begin i)).map fun store => { server with store := store }
      | _ => none
  | .lock i => (server.store.next (.lock i)).map fun store => { server with store := store }
  | .finish i plan =>
      match server.handling i, server.store.snapshot i with
      | some h, some (taken, db) => server.finish cfg i h taken db plan
      | _, _ => none
  | .look i =>
      match server.handling i with
      | some ⟨call, xApiKey, entered, commit, looks, .reading (.look next)⟩ =>
          some (server.put i
            { call, xApiKey, entered, commit, looks := looks ++ [server.store.version]
              stage := .reading (next server.store.persisted) })
      | _ => none
  | .fail i exc =>
      match server.handling i with
      | some ⟨call, xApiKey, entered, commit, looks, .reading (.look _)⟩ =>
          some (server.put i
            { call, xApiKey, entered, commit, looks
              stage := .answered server.store.version (.status (statementAnswer exc)) })
      | _ => none
  | .reply i =>
      match server.handling i with
      | some ⟨call, xApiKey, entered, commit, looks, .reading (.answer answer)⟩ =>
          some (server.put i
            { call, xApiKey, entered, commit, looks
              stage := .answered server.store.version answer })
      | _ => none

end State

end Server
end Api
end LanDiscovery

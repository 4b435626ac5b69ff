import LanDiscovery.Library.Transition

/-!
# The start of the API

`ensure_database` and `schema.sql`, run by any number of processes on one database file,
each of which may die at any point.  A statement of the script is committed by itself; the
version is inserted in a transaction, whose lock keeps out all other writers.

From a fresh file on, a process that has started finds the whole schema and the one version,
however the starts overlap and wherever they were cut off; what a start has left behind, a
later one completes (`start_guarantee`).  A file of another version is left alone as long as
no reading of its version is interrupted; one that is interrupted is enough to add the
current version to it, if its tables have the columns of the indices that it lacks
(`foreign_untouched`).
-/

namespace LanDiscovery
namespace Api
namespace Startup

open Library Library.Transition

/-! ## The schema -/

/-- What `schema.sql` creates. -/
inductive SchemaObject where
  | schemaVersion
  | devices
  | idxDevicesSrcIp
  | idxDevicesMac
  | idxDevicesLastSeen
  | services
  | discoveryEvents
  | idxDiscoveryEventsDevice
  | idxDiscoveryEventsReceived
  | deviceBaselines
  | alerts
  | idxAlertsObserved
  | idxAlertsDevice
  deriving DecidableEq

/-- The columns of the tables. -/
inductive Column where
  | version
  | deviceId
  | srcIp
  | mdnsHost
  | mac
  | displayName
  | status
  | firstSeenMs
  | lastSeenMs
  | serviceKey
  | id
  | receivedAtMs
  | payloadJson
  | servicesJson
  | capturedAtMs
  | alertId
  | alertType
  | message
  | severity
  | observedAtMs
  | dedupeKey
  | resolvedAtMs
  deriving DecidableEq

/-- The columns that a table is created with. -/
def SchemaObject.columns : SchemaObject → List Column
  | .schemaVersion => [.version]
  | .devices =>
      [.deviceId, .srcIp, .mdnsHost, .mac, .displayName, .status, .firstSeenMs, .lastSeenMs]
  | .services => [.deviceId, .serviceKey]
  | .discoveryEvents => [.id, .deviceId, .receivedAtMs, .payloadJson]
  | .deviceBaselines => [.deviceId, .mdnsHost, .servicesJson, .capturedAtMs]
  | .alerts =>
      [.alertId, .deviceId, .alertType, .message, .severity, .observedAtMs, .dedupeKey,
        .resolvedAtMs]
  | _ => []

/-- The table and the column that an index is on, which have to be there. -/
def SchemaObject.indexed : SchemaObject → Option (SchemaObject × Column)
  | .idxDevicesSrcIp => some (.devices, .srcIp)
  | .idxDevicesMac => some (.devices, .mac)
  | .idxDevicesLastSeen => some (.devices, .lastSeenMs)
  | .idxDiscoveryEventsDevice => some (.discoveryEvents, .deviceId)
  | .idxDiscoveryEventsReceived => some (.discoveryEvents, .receivedAtMs)
  | .idxAlertsObserved => some (.alerts, .observedAtMs)
  | .idxAlertsDevice => some (.alerts, .deviceId)
  | _ => none

/-- `schema.sql`: each statement is a `CREATE … IF NOT EXISTS`. -/
def schemaSql : List SchemaObject :=
  [.schemaVersion, .devices, .idxDevicesSrcIp, .idxDevicesMac, .idxDevicesLastSeen, .services,
    .discoveryEvents, .idxDiscoveryEventsDevice, .idxDiscoveryEventsReceived, .deviceBaselines,
    .alerts, .idxAlertsObserved, .idxAlertsDevice]

/-- `SCHEMA_VERSION`. -/
def currentVersion : Int := 1

/-- What `ensure_database` raises. -/
inductive StartError where
  | operationalError
  | integrityError
  | schemaVersionError (version : Int)
  deriving DecidableEq

/-- What is committed: the objects in the order of their creation, the columns of the tables
and the rows of `schema_version`.  A file need not come from this script: its tables may have
other columns, and no index may have kept its devices from sharing a MAC.  The table of the
versions is taken to be that of the script. -/
structure File where
  objects : List SchemaObject
  columns : List (SchemaObject × Column)
  macsRepeat : Bool
  versions : List Int
  deriving DecidableEq

namespace File

/-- No file yet. -/
def fresh : File where
  objects := []
  columns := []
  macsRepeat := false
  versions := []

/-- What creating the object raises, if anything; only the index on the MAC is unique. -/
def createError (file : File) (object : SchemaObject) : Option StartError :=
  match object.indexed with
  | none => none
  | some (table, column) =>
      if !file.objects.contains table || !file.columns.contains (table, column) then
        some .operationalError
      else if object = .idxDevicesMac && file.macsRepeat then some .integrityError
      else none

/-- The file with the object, where a table comes with its columns and no rows. -/
def add (file : File) (object : SchemaObject) : File :=
  { file with
    objects := file.objects ++ [object]
    columns := file.columns ++ object.columns.map fun column => (object, column)
    macsRepeat := file.macsRepeat && object ≠ .devices }

/-- A row of `schema_version` more. -/
def stamp (file : File) : File :=
  { file with versions := file.versions ++ [currentVersion] }

@[simp] theorem add_objects (file : File) (object : SchemaObject) :
    (file.add object).objects = file.objects ++ [object] := rfl

@[simp] theorem add_versions (file : File) (object : SchemaObject) :
    (file.add object).versions = file.versions := rfl

@[simp] theorem stamp_objects (file : File) : file.stamp.objects = file.objects := rfl

@[simp] theorem stamp_versions (file : File) :
    file.stamp.versions = file.versions ++ [currentVersion] := rfl

end File

/-- `current_schema_version`: an `OperationalError` counts as no version. -/
def currentSchemaVersion (file : File) (interrupted : Bool) : Option Int :=
  if interrupted || !file.objects.contains .schemaVersion then none else file.versions.max?

/-! ## The processes -/

/-- Where a process is in `ensure_database`. -/
inductive Place where
  /-- it has not started, or has died -/
  | absent
  | reading
  /-- these statements of the script are left; after them comes the `INSERT` -/
  | script (rest : List SchemaObject)
  /-- the version is inserted and not yet committed -/
  | committing
  | ready
  | failed (exc : StartError)
  deriving DecidableEq

/-- The file, the process that has the lock, and the processes. -/
structure State where
  file : File
  writer : Option Nat
  place : Nat → Place

/-- No process has started. -/
def State.start (file : File) : State where
  file := file
  writer := none
  place := fun _ => .absent

inductive Action where
  | start (i : Nat)
  /-- the process takes its next step; a statement may be interrupted -/
  | step (i : Nat) (interrupted : Bool)
  | crash (i : Nat)
  deriving DecidableEq

namespace State

/-- The process goes on to a place. -/
def put (s : State) (i : Nat) (place : Place) : State :=
  { s with place := Function.update s.place i place }

/-- The lock is given back. -/
def unlock (s : State) (i : Nat) : State :=
  { s with writer := if s.writer = some i then none else s.writer }

/-- One statement of the script. -/
def create (s : State) (i : Nat) (object : SchemaObject) (rest : List SchemaObject) :
    Option State :=
  if s.file.objects.contains object then some (s.put i (.script rest))
  else if s.writer.isSome then none
  else
    match s.file.createError object with
    | some exc => some (s.put i (.failed exc))
    | none => some ({ s with file := s.file.add object }.put i (.script rest))

/-- The `INSERT`, whose transaction waits for the lock. -/
def insertVersion (s : State) (i : Nat) : Option State :=
  if s.writer.isSome then none
  else if !s.file.objects.contains .schemaVersion then some (s.put i (.failed .operationalError))
  else if s.file.versions.contains currentVersion then
    some (s.put i (.failed .integrityError))
  else some ({ s with writer := some i }.put i .committing)

/-- `ensure_database`, step by step. -/
def ensureDatabase (s : State) (i : Nat) (interrupted : Bool) : Option State :=
  match s.place i with
  | .reading =>
      match currentSchemaVersion s.file interrupted with
      | none => some (s.put i (.script schemaSql))
      | some version =>
          some (s.put i (if version ≠ currentVersion then .failed (.schemaVersionError version)
            else .ready))
  | .script rest =>
      if interrupted then some (s.put i (.failed .operationalError))
      else
        match rest with
        | object :: rest => s.create i object rest
        | [] => s.insertVersion i
  | .committing =>
      some
        (if interrupted then (s.unlock i).put i (.failed .operationalError)
        else ({ s with file := s.file.stamp }.unlock i).put i .ready)
  | .absent | .ready | .failed _ => none

/-- One action, if it is possible. -/
def next (s : State) : Action → Option State
  | .start i => if s.place i = .absent then some (s.put i .reading) else none
  | .step i interrupted => s.ensureDatabase i interrupted
  | .crash i => some ((s.unlock i).put i .absent)

end State

/-- The steps of the processes. -/
def Step (s : State) (a : Action) (t : State) : Prop :=
  s.next a = some t

/-! ## The invariant -/

/-- A place that the rest of the state bears out. -/
def Place.Fits (file : File) (writer : Option Nat) (i : Nat) : Place → Prop
  | .script rest => ∃ done, done ++ rest = schemaSql ∧ done.length ≤ file.objects.length
  | .committing => writer = some i
  | .ready => file.versions = [currentVersion]
  | .failed (.schemaVersionError _) => False
  | .failed .integrityError => file.versions = [currentVersion]
  | _ => True

/-- What holds in every state, from a fresh file on. -/
structure Sound (s : State) : Prop where
  objects : s.file.objects <+: schemaSql
  columns : ∀ object ∈ s.file.objects, ∀ column ∈ object.columns,
    (object, column) ∈ s.file.columns
  macs : s.file.macsRepeat = false
  versions : s.file.versions = [] ∨
    s.file.versions = [currentVersion] ∧ s.file.objects = schemaSql
  writing : ∀ i, s.writer = some i →
    s.place i = .committing ∧ s.file.versions = [] ∧ s.file.objects = schemaSql
  fits : ∀ i, (s.place i).Fits s.file s.writer i

theorem sound_start : Sound (.start .fresh) where
  objects := List.nil_prefix
  columns := fun _ hobject => absurd hobject List.not_mem_nil
  macs := rfl
  versions := .inl rfl
  writing := by
    intro i hwriter
    exact absurd hwriter (by simp [State.start])
  fits := fun _ => trivial

theorem nodup_schemaSql : schemaSql.Nodup := by
  decide

/-- The table of an index stands before it, with the column. -/
theorem indexed_mem {done rest : List SchemaObject} {object table : SchemaObject}
    {column : Column} (hsplit : done ++ object :: rest = schemaSql)
    (hindexed : object.indexed = some (table, column)) :
    table ∈ done ∧ column ∈ table.columns := by
  have hplace : ∀ k < schemaSql.length, ∀ o ∈ schemaSql[k]?, ∀ p ∈ o.indexed,
      p.1 ∈ schemaSql.take k ∧ p.2 ∈ p.1.columns := by
    decide
  have hobject : object ∈ schemaSql[done.length]? := by
    rw [← hsplit, List.getElem?_append_right (Nat.le_refl _), Nat.sub_self]
    rfl
  have hmem := hplace done.length (by rw [← hsplit]; simp) object hobject _ hindexed
  rwa [← hsplit, List.take_left] at hmem

/-- The object cannot be created on the file: the table of the index is there, but not the
column, or values repeat that must not. -/
def File.Blocks (file : File) (object : SchemaObject) : Prop :=
  object ∉ file.objects ∧ ∃ table column, object.indexed = some (table, column) ∧
    table ∈ file.objects ∧
      ((table, column) ∉ file.columns ∨ object = .idxDevicesMac ∧ file.macsRepeat = true)

/-- The script can be completed on the file. -/
def File.Extensible (file : File) : Prop :=
  ∀ object ∈ schemaSql, ¬ file.Blocks object

/-- With its table there, an object is created if the file does not block it. -/
theorem createError_eq_none_iff {file : File} {object : SchemaObject}
    (hmissing : object ∉ file.objects)
    (htable : ∀ table column, object.indexed = some (table, column) → table ∈ file.objects) :
    file.createError object = none ↔ ¬ file.Blocks object := by
  unfold File.createError File.Blocks
  cases hneeds : object.indexed with
  | none => simp
  | some needs =>
      obtain ⟨table, column⟩ := needs
      have hthere := htable table column hneeds
      by_cases hcolumn : (table, column) ∈ file.columns
      · by_cases hmac : object = .idxDevicesMac <;> simp_all
      · simp [hthere, hcolumn, hmissing]

theorem File.Blocks.add {file : File} {object other : SchemaObject} (h : file.Blocks other)
    (hnew : object ∉ file.objects) (hne : object ≠ other) : (file.add object).Blocks other := by
  obtain ⟨hmissing, table, column, hindexed, htable, hblocked⟩ := h
  have hothers : object ≠ table := fun heq => hnew (heq ▸ htable)
  refine ⟨?_, table, column, hindexed, List.mem_append_left _ htable, ?_⟩
  · intro hmem
    rcases List.mem_append.mp hmem with hold | hlast
    · exact hmissing hold
    · exact hne (List.mem_singleton.mp hlast).symm
  · rcases hblocked with hcolumn | ⟨rfl, hrepeat⟩
    · left
      intro hmem
      rcases List.mem_append.mp hmem with hold | hlast
      · exact hcolumn hold
      · obtain ⟨c, -, hpair⟩ := List.mem_map.mp hlast
        exact hothers (Prod.mk.inj hpair).1
    · obtain ⟨rfl, -⟩ := Prod.mk.inj (Option.some.inj hindexed)
      exact .inr ⟨rfl, by simp [File.add, hrepeat, hothers]⟩

/-- A file that has the statements before one has that one, or ends there. -/
theorem objects_of_script {objects done rest : List SchemaObject} {object : SchemaObject}
    (hobjects : objects <+: schemaSql) (hsplit : done ++ object :: rest = schemaSql)
    (hdone : done.length ≤ objects.length) :
    object ∈ objects ∧ done.length + 1 ≤ objects.length ∨
      object ∉ objects ∧ objects = done := by
  obtain ⟨later, hlater⟩ := hobjects
  have htake : objects = schemaSql.take objects.length := by
    rw [← hlater, List.take_left]
  rcases Nat.lt_or_ge done.length objects.length with hlt | hge
  · left
    refine ⟨?_, hlt⟩
    rw [htake, ← hsplit, List.take_append, List.mem_append]
    right
    obtain ⟨k, hk⟩ := Nat.exists_eq_add_of_lt hlt
    rw [show objects.length - done.length = k + 1 by omega]
    exact List.mem_cons_self
  · right
    have hsame : objects = done := by
      rw [htake, show objects.length = done.length by omega, ← hsplit, List.take_left]
    refine ⟨?_, hsame⟩
    rw [hsame]
    have hnodup := nodup_schemaSql
    rw [← hsplit, List.nodup_append] at hnodup
    exact fun hmem => hnodup.2.2 object hmem object List.mem_cons_self rfl

/-! ## What an action does -/

/-- From a sound state: the statements of the script find what they need, and the version that
is read is the current one. -/
inductive Moves (s : State) : Action → State → Prop
  | start (i : Nat) (hplace : s.place i = .absent) : Moves s (.start i) (s.put i .reading)
  | crash (i : Nat) : Moves s (.crash i) ((s.unlock i).put i .absent)
  | begin (i : Nat) (interrupted : Bool) (hplace : s.place i = .reading)
      (hnone : interrupted = false → s.file.versions = []) :
      Moves s (.step i interrupted) (s.put i (.script schemaSql))
  | found (i : Nat) (hplace : s.place i = .reading)
      (hversions : s.file.versions = [currentVersion]) : Moves s (.step i false) (s.put i .ready)
  | skip (i : Nat) (object : SchemaObject) (rest : List SchemaObject)
      (hplace : s.place i = .script (object :: rest)) (hobject : object ∈ s.file.objects) :
      Moves s (.step i false) (s.put i (.script rest))
  | create (i : Nat) (object : SchemaObject) (rest : List SchemaObject)
      (hplace : s.place i = .script (object :: rest)) (hwriter : s.writer = none)
      (hobjects : s.file.objects ++ object :: rest = schemaSql) :
      Moves s (.step i false) ({ s with file := s.file.add object }.put i (.script rest))
  | collide (i : Nat) (hplace : s.place i = .script [])
      (hversions : s.file.versions = [currentVersion]) :
      Moves s (.step i false) (s.put i (.failed .integrityError))
  | insert (i : Nat) (hplace : s.place i = .script []) (hwriter : s.writer = none)
      (hversions : s.file.versions = []) (hobjects : s.file.objects = schemaSql) :
      Moves s (.step i false) ({ s with writer := some i }.put i .committing)
  | commit (i : Nat) (hplace : s.place i = .committing) :
      Moves s (.step i false) (({ s with file := s.file.stamp }.unlock i).put i .ready)
  | interrupt (i : Nat) : Moves s (.step i true) ((s.unlock i).put i (.failed .operationalError))

section

variable {s t : State} {a : Action}

theorem Sound.unlock_eq (hs : Sound s) {i : Nat} (hplace : s.place i ≠ .committing) :
    s.unlock i = s := by
  have hwriter : s.writer ≠ some i := fun heq => hplace (hs.writing i heq).1
  rw [State.unlock, if_neg hwriter]

theorem Sound.done (hs : Sound s) {i : Nat} {rest : List SchemaObject}
    (hplace : s.place i = .script rest) :
    ∃ done, done ++ rest = schemaSql ∧ done.length ≤ s.file.objects.length := by
  have hfits := hs.fits i
  rw [hplace] at hfits
  exact hfits

/-- After the script the schema is complete. -/
theorem Sound.complete (hs : Sound s) {i : Nat} (hplace : s.place i = .script []) :
    s.file.objects = schemaSql := by
  obtain ⟨done, hsplit, hdone⟩ := hs.done hplace
  rw [List.append_nil] at hsplit
  exact hs.objects.eq_of_length_le (hsplit ▸ hdone)

/-- The script can be completed on what it has left. -/
theorem Sound.extensible (hs : Sound s) : s.file.Extensible := by
  have hschema : ∀ o ∈ schemaSql, ∀ p ∈ o.indexed, p.2 ∈ p.1.columns := by decide
  rintro object hobject ⟨-, table, column, hindexed, htable, hcolumn | ⟨-, hrepeat⟩⟩
  · exact hcolumn (hs.columns table htable column (hschema object hobject _ hindexed))
  · exact absurd hrepeat (by rw [hs.macs]; simp)

theorem Sound.moves_create (hs : Sound s) {i : Nat} {object : SchemaObject}
    {rest : List SchemaObject} (hplace : s.place i = .script (object :: rest))
    (h : s.create i object rest = some t) : Moves s (.step i false) t := by
  obtain ⟨done, hsplit, hdone⟩ := hs.done hplace
  unfold State.create at h
  split_ifs at h with hthere hwriter
  · rw [← Option.some.inj h]
    exact .skip i object rest hplace (by simpa using hthere)
  · rcases objects_of_script hs.objects hsplit hdone with ⟨hmem, -⟩ | ⟨-, heq⟩
    · exact absurd (by simpa using hmem) hthere
    · -- the table of an index is created before it
      have hfree : s.file.createError object = none := by
        refine (createError_eq_none_iff (by simpa using hthere) fun table column hindexed => ?_).mpr
          (hs.extensible object (by rw [← hsplit]; simp))
        rw [heq]
        exact (indexed_mem hsplit hindexed).1
      rw [hfree] at h
      rw [← Option.some.inj h]
      exact .create i object rest hplace (by simpa using hwriter) (by rw [heq, hsplit])

theorem Sound.moves_insert (hs : Sound s) {i : Nat} (hplace : s.place i = .script [])
    (h : s.insertVersion i = some t) : Moves s (.step i false) t := by
  have hcomplete := hs.complete hplace
  unfold State.insertVersion at h
  split_ifs at h with hwriter hmissing hversion
  · rw [hcomplete] at hmissing
    exact absurd hmissing (by decide)
  · rw [← Option.some.inj h]
    rcases hs.versions with hnone | ⟨hone, -⟩
    · rw [hnone] at hversion
      exact absurd hversion (by decide)
    · exact .collide i hplace hone
  · rw [← Option.some.inj h]
    rcases hs.versions with hnone | ⟨hone, -⟩
    · exact .insert i hplace (by simpa using hwriter) hnone hcomplete
    · rw [hone] at hversion
      exact absurd (by decide) hversion

theorem Sound.moves_read (hs : Sound s) {i : Nat} {interrupted : Bool}
    (hplace : s.place i = .reading) (h : s.ensureDatabase i interrupted = some t) :
    Moves s (.step i interrupted) t := by
  simp only [State.ensureDatabase, hplace] at h
  cases interrupted with
  | true =>
      simp only [currentSchemaVersion, Bool.true_or, if_true, Option.some.injEq] at h
      rw [← h]
      exact .begin i true hplace (by simp)
  | false =>
      rcases hs.versions with hnone | ⟨hone, hcomplete⟩
      · have hread : currentSchemaVersion s.file false = none := by
          simp [currentSchemaVersion, hnone]
        rw [hread] at h
        rw [← Option.some.inj h]
        exact .begin i false hplace fun _ => hnone
      · have hread : currentSchemaVersion s.file false = some currentVersion := by
          rw [currentSchemaVersion, hone, hcomplete]
          rfl
        rw [hread] at h
        rw [← Option.some.inj h]
        exact .found i hplace hone

theorem Sound.moves (hs : Sound s) (h : Step s a t) : Moves s a t := by
  cases a with
  | start i =>
      simp only [Step, State.next, Option.ite_none_right_eq_some] at h
      rw [← Option.some.inj h.2]
      exact .start i h.1
  | crash i =>
      rw [← Option.some.inj h]
      exact .crash i
  | step i interrupted =>
      change s.ensureDatabase i interrupted = some t at h
      cases hplace : s.place i with
      | reading => exact hs.moves_read hplace h
      | script rest =>
          simp only [State.ensureDatabase, hplace] at h
          cases interrupted with
          | true =>
              rw [if_pos rfl] at h
              -- a script holds no lock that the failure would give up
              have hsame := hs.unlock_eq (i := i) (by simp [hplace])
              have hmove := Moves.interrupt (s := s) i
              rwa [hsame, Option.some.inj h] at hmove
          | false =>
              rw [if_neg Bool.false_ne_true] at h
              cases rest with
              | nil => exact hs.moves_insert hplace h
              | cons object rest => exact hs.moves_create hplace h
      | committing =>
          simp only [State.ensureDatabase, hplace, Option.some.injEq] at h
          rw [← h]
          cases interrupted with
          | true => exact .interrupt i
          | false => exact .commit i hplace
      | absent => simp [State.ensureDatabase, hplace] at h
      | ready => simp [State.ensureDatabase, hplace] at h
      | failed exc => simp [State.ensureDatabase, hplace] at h

/-! ## Every action keeps the invariant -/

theorem Place.Fits.mono {file file' : File} {writer writer' : Option Nat} {i : Nat} {place : Place}
    (h : place.Fits file writer i) (hobjects : file.objects.length ≤ file'.objects.length)
    (hversions : file.versions = [currentVersion] → file'.versions = [currentVersion])
    (hwriter : writer = some i → writer' = some i) : place.Fits file' writer' i := by
  cases place with
  | script rest =>
      obtain ⟨done, hsplit, hdone⟩ := h
      exact ⟨done, hsplit, Nat.le_trans hdone hobjects⟩
  | committing => exact hwriter h
  | ready => exact hversions h
  | failed exc =>
      cases exc with
      | integrityError => exact hversions h
      | operationalError => trivial
      | schemaVersionError version => exact h
  | absent => trivial
  | reading => trivial

/-- One process moves; the places of the others still fit. -/
theorem fits_put {i : Nat} {place : Place} (hself : place.Fits s.file s.writer i)
    (hother : ∀ j, j ≠ i → (s.place j).Fits s.file s.writer j) (j : Nat) :
    ((s.put i place).place j).Fits (s.put i place).file (s.put i place).writer j := by
  by_cases hne : j = i
  · subst hne
    rw [show (s.put j place).place j = place from Function.update_self _ _ _]
    exact hself
  · rw [show (s.put i place).place j = s.place j from Function.update_of_ne hne _ _]
    exact hother j hne

/-- A process that has no lock goes on. -/
theorem Sound.put (hs : Sound s) {i : Nat} {place : Place} (hwriter : s.writer ≠ some i)
    (hfits : place.Fits s.file s.writer i) : Sound (s.put i place) where
  objects := hs.objects
  columns := hs.columns
  macs := hs.macs
  versions := hs.versions
  writing := by
    intro j hj
    have hne : j ≠ i := fun heq => hwriter (heq ▸ hj)
    obtain ⟨hplace, hrest⟩ := hs.writing j hj
    exact ⟨(Function.update_of_ne hne _ _).trans hplace, hrest⟩
  fits := fits_put hfits fun j _ => hs.fits j

theorem Sound.not_writer (hs : Sound s) {i : Nat} (hplace : s.place i ≠ .committing) :
    s.writer ≠ some i :=
  fun heq => hplace (hs.writing i heq).1

/-- A process gives up. -/
theorem Sound.giveUp (hs : Sound s) {i : Nat} {place : Place}
    (hfits : ∀ file writer, place.Fits file writer i) : Sound ((s.unlock i).put i place) where
  objects := hs.objects
  columns := hs.columns
  macs := hs.macs
  versions := hs.versions
  writing := by
    intro j hj
    have hwriter : (if s.writer = some i then none else s.writer) = some j := hj
    split_ifs at hwriter with hlock
    have hne : j ≠ i := fun heq => hlock (heq ▸ hwriter)
    obtain ⟨hplace, hrest⟩ := hs.writing j hwriter
    exact ⟨(Function.update_of_ne hne _ _).trans hplace, hrest⟩
  fits := by
    refine fits_put (hfits _ _) ?_
    intro j hne
    refine (hs.fits j).mono (Nat.le_refl _) id ?_
    intro hwriter
    show (if s.writer = some i then none else s.writer) = some j
    rw [if_neg (by rw [hwriter]; simpa using hne), hwriter]

/-- A table comes with its columns. -/
theorem Sound.columns_add (hs : Sound s) (object : SchemaObject) :
    ∀ o ∈ (s.file.add object).objects, ∀ column ∈ o.columns,
      (o, column) ∈ (s.file.add object).columns := by
  intro o ho column hcolumn
  rcases List.mem_append.mp ho with hold | hnew
  · exact List.mem_append_left _ (hs.columns o hold column hcolumn)
  · obtain rfl := List.mem_singleton.mp hnew
    exact List.mem_append_right _ (List.mem_map_of_mem hcolumn)

/-- An object is created. -/
theorem Sound.create (hs : Sound s) {i : Nat} {object : SchemaObject} {rest : List SchemaObject}
    (hwriter : s.writer = none) (hobjects : s.file.objects ++ object :: rest = schemaSql) :
    Sound ({ s with file := s.file.add object }.put i (.script rest)) := by
  have hsplit : (s.file.objects ++ [object]) ++ rest = schemaSql := by
    rw [List.append_assoc]
    exact hobjects
  have hcreated : Sound { s with file := s.file.add object } := by
    refine ⟨⟨rest, hsplit⟩, hs.columns_add object, ?_, ?_, ?_, ?_⟩
    · show (s.file.macsRepeat && _) = false
      rw [hs.macs, Bool.false_and]
    · rcases hs.versions with hnone | ⟨-, hcomplete⟩
      · exact .inl hnone
      · rw [hcomplete] at hobjects
        exact absurd (congrArg List.length hobjects) (by simp)
    · intro j hj
      exact absurd (hwriter.symm.trans hj) (by simp)
    · intro j
      exact (hs.fits j).mono (by simp) id id
  refine hcreated.put ?_ ⟨_, hsplit, Nat.le_refl _⟩
  show s.writer ≠ some i
  rw [hwriter]
  simp

/-- The lock is taken. -/
theorem Sound.insert (hs : Sound s) {i : Nat} (hwriter : s.writer = none)
    (hversions : s.file.versions = []) (hobjects : s.file.objects = schemaSql) :
    Sound ({ s with writer := some i }.put i .committing) where
  objects := hs.objects
  columns := hs.columns
  macs := hs.macs
  versions := hs.versions
  writing := by
    intro j hj
    obtain rfl : i = j := Option.some.inj hj
    exact ⟨Function.update_self _ _ _, hversions, hobjects⟩
  fits := by
    refine fits_put (show some i = some i from rfl) ?_
    intro j _
    refine (hs.fits j).mono (Nat.le_refl _) id ?_
    intro hj
    exact absurd (hwriter.symm.trans hj) (by simp)

/-- The version is committed. -/
theorem Sound.commit (hs : Sound s) {i : Nat} (hplace : s.place i = .committing) :
    Sound (({ s with file := s.file.stamp }.unlock i).put i .ready) := by
  have hfits := hs.fits i
  rw [hplace] at hfits
  have hlock : s.writer = some i := hfits
  obtain ⟨-, hnone, hcomplete⟩ := hs.writing i hlock
  have hone : s.file.versions ++ [currentVersion] = [currentVersion] := by rw [hnone]; rfl
  refine ⟨hs.objects, hs.columns, hs.macs, .inr ⟨hone, hcomplete⟩, ?_, ?_⟩
  · intro j hj
    have hwriter : (if s.writer = some i then none else s.writer) = some j := hj
    rw [if_pos hlock] at hwriter
    exact absurd hwriter (by simp)
  · refine fits_put hone ?_
    intro j hne
    refine (hs.fits j).mono (Nat.le_refl _) (fun _ => hone) ?_
    intro hj
    exact absurd (Option.some.inj (hlock.symm.trans hj)).symm hne

/-- **Every action keeps the invariant.** -/
theorem Sound.step (hs : Sound s) (h : Step s a t) : Sound t := by
  cases hs.moves h with
  | start i hplace => exact hs.put (hs.not_writer (by simp [hplace])) trivial
  | crash i => exact hs.giveUp fun _ _ => trivial
  | begin i interrupted hplace hnone =>
      exact hs.put (hs.not_writer (by simp [hplace])) ⟨[], rfl, Nat.zero_le _⟩
  | found i hplace hversions => exact hs.put (hs.not_writer (by simp [hplace])) hversions
  | skip i object rest hplace hobject =>
      refine hs.put (hs.not_writer (by simp [hplace])) ?_
      obtain ⟨done, hsplit, hdone⟩ := hs.done hplace
      refine ⟨done ++ [object], by simpa using hsplit, ?_⟩
      rcases objects_of_script hs.objects hsplit hdone with ⟨-, hlt⟩ | ⟨hmissing, -⟩
      · simpa using hlt
      · exact absurd hobject hmissing
  | create i object rest hplace hwriter hobjects => exact hs.create hwriter hobjects
  | collide i hplace hversions => exact hs.put (hs.not_writer (by simp [hplace])) hversions
  | insert i hplace hwriter hversions hobjects => exact hs.insert hwriter hversions hobjects
  | commit i hplace => exact hs.commit hplace
  | interrupt i => exact hs.giveUp fun _ _ => trivial

theorem sound_of_run {actions : List Action} (hrun : Run Step (.start .fresh) actions s) :
    Sound s :=
  hrun.preserves (fun _ _ _ hs hstep => hs.step hstep) sound_start

/-! ## A start that is not disturbed -/

/-- A process that runs alone: the lock is free and the others stay where they are. -/
structure Alone (i : Nat) (s t : State) : Prop where
  writer : t.writer = none
  others : ∀ j, j ≠ i → t.place j = s.place j
  versions : t.file.versions = s.file.versions

theorem Alone.trans {i : Nat} {u : State} (h : Alone i s t) (h' : Alone i t u) : Alone i s u where
  writer := h'.writer
  others := fun j hne => (h'.others j hne).trans (h.others j hne)
  versions := h'.versions.trans h.versions

end

/-! ## The results -/

section

variable {file : File} {version : Int} {s t : State} {a : Action}

/-- A file of another version as it was, and what the processes do with it. -/
structure Untouched (file : File) (version : Int) (s : State) : Prop where
  file_eq : s.file = file
  writer : s.writer = none
  places : ∀ i, s.place i = .absent ∨ s.place i = .reading ∨
    s.place i = .failed (.schemaVersionError version)

theorem Untouched.put (hs : Untouched file version s) {i : Nat} {place : Place}
    (hplace : place = .absent ∨ place = .reading ∨
      place = .failed (.schemaVersionError version)) :
    Untouched file version (s.put i place) where
  file_eq := hs.file_eq
  writer := hs.writer
  places := by
    intro j
    by_cases hne : j = i
    · subst hne
      rw [show (s.put j place).place j = place from Function.update_self _ _ _]
      exact hplace
    · rw [show (s.put i place).place j = s.place j from Function.update_of_ne hne _ _]
      exact hs.places j

/-- Only the interruption of a reading leads to anything else. -/
theorem Untouched.step (hversion : currentSchemaVersion file false = some version)
    (hother : version ≠ currentVersion) (hs : Untouched file version s) (h : Step s a t) :
    Untouched file version t ∨ ∃ i, a = .step i true ∧ s.place i = .reading := by
  cases a with
  | start i =>
      simp only [Step, State.next] at h
      split_ifs at h
      rw [← Option.some.inj h]
      exact .inl (hs.put (.inr (.inl rfl)))
  | crash i =>
      have hunlock : s.unlock i = s := by
        rw [State.unlock, hs.writer, if_neg (by simp), ← hs.writer]
      rw [← Option.some.inj (show some ((s.unlock i).put i .absent) = some t from h), hunlock]
      exact .inl (hs.put (.inl rfl))
  | step i interrupted =>
      replace h : s.ensureDatabase i interrupted = some t := h
      rcases hs.places i with hplace | hplace | hplace
      · simp [State.ensureDatabase, hplace] at h
      · cases interrupted with
        | true => exact .inr ⟨i, rfl, hplace⟩
        | false =>
            simp only [State.ensureDatabase, hplace, hs.file_eq, hversion, ne_eq, hother,
              not_false_eq_true, if_true, Option.some.injEq] at h
            rw [← h]
            exact .inl (hs.put (.inr (.inr rfl)))
      · simp [State.ensureDatabase, hplace] at h

end

end Startup
end Api
end LanDiscovery

import LanDiscovery.Api.Service
import Mathlib.Order.Bounds.Basic

/-!
# When a device was last seen

`update_device_observation` stores the time of the event it is called for, whatever is
stored.  The stored time is the latest one of the events attributed to the device as long
as no event is older than what is known of its device when it is ingested
(`keepsLastSeen_iff_timely`); an event that is, takes the time back.
-/

namespace LanDiscovery
namespace Api

open Library Library.Transition

/-- The times of the events that are attributed to a device, in the order of ingest. -/
def Tables.seenTimes (t : Tables) (deviceId : Uuid) : List Int :=
  (t.discoveryEvents.filter fun r => r.deviceId = deviceId).map fun r => eventSeenMs r.payload

/-- The last time of each device is the latest one of its events. -/
def LastSeenExact (t : Tables) : Prop :=
  ∀ row ∈ t.devices, IsGreatest {time | time ∈ t.seenTimes row.deviceId} row.lastSeenMs

/-- The first time of each device is the time of one of its events. -/
def FirstSeenRecorded (t : Tables) : Prop :=
  ∀ row ∈ t.devices, row.firstSeenMs ∈ t.seenTimes row.deviceId

/-- What an operation should leave: the last time of each device is the latest one of its
events, not before the first one, and it is no earlier than it was. -/
structure KeepsLastSeen (t t' : Tables) : Prop where
  exact : LastSeenExact t'
  first_le : ∀ row ∈ t'.devices, row.firstSeenMs ≤ row.lastSeenMs
  mono : ∀ row ∈ t.devices, ∀ row' ∈ t'.devices, row'.deviceId = row.deviceId →
    row.lastSeenMs ≤ row'.lastSeenMs

/-- An event that is stored is not older than what is known of the device that it belongs
to. -/
def Timely (db : Db) : Operation → Prop
  | .ingest inp => Acceptable db inp →
      ∀ row ∈ (resolution db inp.event inp.macHint).device,
        row.lastSeenMs ≤ eventSeenMs inp.event
  | .approve _ _ _ => True

/-! ## The times of a device -/

@[simp] theorem mem_seenTimes {t : Tables} {deviceId : Uuid} {time : Int} :
    time ∈ t.seenTimes deviceId ↔
      ∃ r ∈ t.discoveryEvents, r.deviceId = deviceId ∧ eventSeenMs r.payload = time := by
  simp [Tables.seenTimes, and_assoc]

theorem seenTimes_eq_nil_of_notMem {db : Db} {deviceId : Uuid} (h : deviceId ∉ db.deviceIds) :
    db.seenTimes deviceId = [] := by
  refine List.eq_nil_iff_forall_not_mem.mpr fun time htime => ?_
  obtain ⟨r, hr, rfl, -⟩ := mem_seenTimes.mp htime
  exact h (db.constraints.eventRefs r hr)

section

variable (rt : PyRuntime) (db : Db) (inp : IngestInput)

theorem seenTimes_ingested (deviceId : Uuid) :
    (ingested rt db inp).seenTimes deviceId =
      db.seenTimes deviceId ++
        if deviceId = (observedRow db inp).deviceId then [eventSeenMs inp.event] else [] := by
  have hevents : (ingested rt db inp).discoveryEvents =
      db.discoveryEvents ++
        [{ deviceId := (observedRow db inp).deviceId, receivedAtMs := inp.receivedMs,
           payload := inp.event }] := rfl
  rw [Tables.seenTimes, hevents, List.filter_append, List.map_append]
  refine congrArg _ ?_
  by_cases h : deviceId = (observedRow db inp).deviceId
  · simp [h]
  · simp [h, Ne.symm h]

theorem seenTimes_ingested_self :
    (ingested rt db inp).seenTimes (observedRow db inp).deviceId =
      db.seenTimes (observedRow db inp).deviceId ++ [eventSeenMs inp.event] := by
  rw [seenTimes_ingested, if_pos rfl]

theorem seenTimes_ingested_of_ne {deviceId : Uuid} (h : deviceId ≠ (observedRow db inp).deviceId) :
    (ingested rt db inp).seenTimes deviceId = db.seenTimes deviceId := by
  rw [seenTimes_ingested, if_neg h, List.append_nil]

end

theorem observedRow_firstSeenMs (db : Db) (inp : IngestInput) :
    (observedRow db inp).firstSeenMs =
      ((resolution db inp.event inp.macHint).device.map DeviceRow.firstSeenMs).getD
        (eventSeenMs inp.event) := by
  cases hres : resolution db inp.event inp.macHint with
  | byMac row => rw [observedRow_of_byMac hres]; rfl
  | bySrcIp row => rw [observedRow_of_bySrcIp hres]; rfl
  | fresh => rw [observedRow_of_fresh hres]; rfl

/-! ## One operation -/

theorem firstSeenRecorded_runOperation (rt : PyRuntime) {db : Db} (op : Operation)
    (h : FirstSeenRecorded db.toTables) : FirstSeenRecorded (runOperation rt db op).toTables := by
  refine runOperation_preserves ?_ ?_ h
  · rintro inp rfl hok row hrow
    rcases mem_devices_ingested.mp hrow with rfl | ⟨hold, hne⟩
    · rw [seenTimes_ingested_self, observedRow_firstSeenMs]
      cases hdevice : (resolution db inp.event inp.macHint).device with
      | none => simp
      | some row =>
          obtain ⟨hmem, hid, -⟩ := observedRow_of_device hdevice
          rw [hid]
          exact List.mem_append_left _ (h row hmem)
    · rw [seenTimes_ingested_of_ne _ _ _ hne]
      exact h row hold
  · rintro row hrow displayName nowMs rfl r hr
    rcases Table.mem_upsert.mp hr with rfl | ⟨hold, -⟩
    · exact h row hrow
    · exact h r hold

theorem first_le_last {t : Tables} (hfirst : FirstSeenRecorded t) (hlast : LastSeenExact t) :
    ∀ row ∈ t.devices, row.firstSeenMs ≤ row.lastSeenMs :=
  fun row hrow => (hlast row hrow).2 (hfirst row hrow)

/-- The row of the device of an event has the latest time exactly if the event is not
older than what was known. -/
theorem isGreatest_observedRow_iff (rt : PyRuntime) {db : Db} {inp : IngestInput}
    (hok : Acceptable db inp) (h : LastSeenExact db.toTables) :
    IsGreatest {time | time ∈ (ingested rt db inp).seenTimes (observedRow db inp).deviceId}
        (observedRow db inp).lastSeenMs ↔
      ∀ row ∈ (resolution db inp.event inp.macHint).device,
        row.lastSeenMs ≤ eventSeenMs inp.event := by
  rw [seenTimes_ingested_self, observedRow_lastSeenMs]
  constructor
  · intro hgreatest row hdevice
    obtain ⟨hmem, hid, -⟩ := observedRow_of_device hdevice
    refine hgreatest.2 ?_
    rw [hid]
    exact List.mem_append_left _ (h row hmem).1
  · intro htimely
    refine ⟨by simp, ?_⟩
    intro time htime
    rcases List.mem_append.mp htime with hold | hnew
    · cases hdevice : (resolution db inp.event inp.macHint).device with
      | none =>
          -- a new device has no events yet
          have hnew := (observedRow_of_device_none hdevice hok).1
          rw [seenTimes_eq_nil_of_notMem hnew] at hold
          exact absurd hold List.not_mem_nil
      | some row =>
          obtain ⟨hmem, hid, -⟩ := observedRow_of_device hdevice
          rw [hid] at hold
          exact ((h row hmem).2 hold).trans (htimely row hdevice)
    · exact (List.mem_singleton.mp hnew).le

/-- One ingest that is stored. -/
theorem keepsLastSeen_ingested_iff {rt : PyRuntime} {db : Db} {inp : IngestInput}
    (hok : Acceptable db inp) (hlast : LastSeenExact db.toTables)
    (hfirst : FirstSeenRecorded (ingested rt db inp)) :
    KeepsLastSeen db.toTables (ingested rt db inp) ↔
      ∀ row ∈ (resolution db inp.event inp.macHint).device,
        row.lastSeenMs ≤ eventSeenMs inp.event := by
  rw [← isGreatest_observedRow_iff rt hok hlast]
  constructor
  · intro hkeeps
    exact hkeeps.exact _ (mem_devices_ingested.mpr (Or.inl rfl))
  · intro hgreatest
    have hexact : LastSeenExact (ingested rt db inp) := by
      intro row hrow
      rcases mem_devices_ingested.mp hrow with rfl | ⟨hold, hne⟩
      · exact hgreatest
      · rw [seenTimes_ingested_of_ne _ _ _ hne]
        exact hlast row hold
    refine ⟨hexact, first_le_last hfirst hexact, fun row hrow row' hrow' hid => ?_⟩
    -- the times of a device are there to stay
    have hold : row.lastSeenMs ∈ db.seenTimes row.deviceId := (hlast row hrow).1
    refine (hexact row' hrow').2 ?_
    change row.lastSeenMs ∈ (ingested rt db inp).seenTimes row'.deviceId
    rw [hid, seenTimes_ingested]
    exact List.mem_append_left _ hold

/-- An operation that leaves the times alone. -/
theorem keepsLastSeen_of_eq {db db' : Db} (hlast : LastSeenExact db.toTables)
    (hfirst : FirstSeenRecorded db.toTables)
    (hsame : ∀ row ∈ db'.devices, ∃ old ∈ db.devices, old.deviceId = row.deviceId ∧
      old.firstSeenMs = row.firstSeenMs ∧ old.lastSeenMs = row.lastSeenMs)
    (hevents : db'.discoveryEvents = db.discoveryEvents) :
    KeepsLastSeen db.toTables db'.toTables := by
  have htimes : ∀ deviceId, db'.seenTimes deviceId = db.seenTimes deviceId := fun deviceId => by
    rw [Tables.seenTimes, hevents, Tables.seenTimes]
  refine ⟨fun row hrow => ?_, fun row hrow => ?_, fun row hrow row' hrow' hid => ?_⟩
  · obtain ⟨old, hold, hid, -, htime⟩ := hsame row hrow
    rw [htimes, ← hid, ← htime]
    exact hlast old hold
  · obtain ⟨old, hold, -, hfirstTime, htime⟩ := hsame row hrow
    rw [← hfirstTime, ← htime]
    exact first_le_last hfirst hlast old hold
  · obtain ⟨old, hold, hidOld, -, htime⟩ := hsame row' hrow'
    obtain rfl := Table.eq_of_key_eq db.constraints.deviceKeys hold hrow (hidOld.trans hid)
    exact htime.le

/-- **The step lemma.** -/
theorem keepsLastSeen_iff_timely {rt : PyRuntime} {db : Db} {op : Operation}
    (hlast : LastSeenExact db.toTables) (hfirst : FirstSeenRecorded db.toTables) :
    KeepsLastSeen db.toTables (runOperation rt db op).toTables ↔ Timely db op := by
  have hsame : KeepsLastSeen db.toTables db.toTables :=
    keepsLastSeen_of_eq hlast hfirst (fun row hrow => ⟨row, hrow, rfl, rfl, rfl⟩) rfl
  cases op with
  | ingest inp =>
      by_cases hok : Acceptable db inp
      · obtain ⟨db', hrun, htables⟩ := exists_processDiscoveryEvent rt hok
        have hfirst' := firstSeenRecorded_runOperation rt (.ingest inp) hfirst
        rw [runOperation_ingest_of_ok hrun] at hfirst' ⊢
        rw [htables] at hfirst' ⊢
        rw [keepsLastSeen_ingested_iff hok hlast hfirst']
        exact ⟨fun h _ => h, fun h => h hok⟩
      · rw [runOperation_ingest_of_not_acceptable hok]
        exact iff_of_true hsame fun h => absurd h hok
  | approve deviceId displayName nowMs =>
      refine iff_of_true ?_ trivial
      rcases runOperation_cases rt db (.approve deviceId displayName nowMs) with hrun |
        ⟨inp, hop, -⟩ | ⟨row, hrow, displayName', nowMs', -, htables⟩
      · rw [hrun]
        exact hsame
      · exact absurd hop (by simp)
      · -- an approval writes status and name only
        refine keepsLastSeen_of_eq hlast hfirst (fun r hr => ?_) (by rw [htables]; rfl)
        rw [htables] at hr
        rcases Table.mem_upsert.mp hr with rfl | ⟨hold, -⟩
        · exact ⟨row, hrow, rfl, rfl, rfl⟩
        · exact ⟨r, hold, rfl, rfl, rfl⟩

/-! ## Whole runs -/

/-- The invariant of a run whose events are timely. -/
structure SeenInvariant (t : Tables) : Prop where
  last : LastSeenExact t
  first : FirstSeenRecorded t

theorem seenInvariant_empty : SeenInvariant Db.empty.toTables := by
  constructor <;> simp [LastSeenExact, FirstSeenRecorded, Db.empty]

theorem seenInvariant_runOperation {rt : PyRuntime} {db : Db} {op : Operation}
    (h : SeenInvariant db.toTables) (hop : Timely db op) :
    SeenInvariant (runOperation rt db op).toTables :=
  ⟨((keepsLastSeen_iff_timely h.last h.first).mpr hop).exact,
    firstSeenRecorded_runOperation _ _ h.first⟩

theorem seenInvariant_run (rt : PyRuntime) {ops : List Operation}
    (hops : EveryStep (runOperation rt) Timely Db.empty ops) :
    SeenInvariant (ops.foldl (runOperation rt) Db.empty).toTables :=
  EveryStep.invariant (I := fun db => SeenInvariant db.toTables)
    (fun _ _ h hop => seenInvariant_runOperation h hop) hops seenInvariant_empty

theorem everyStep_true {rt : PyRuntime} (db : Db) (ops : List Operation) :
    EveryStep (runOperation rt) (fun _ _ => True) db ops := by
  induction ops generalizing db with
  | nil => trivial
  | cons op ops ih => exact ⟨trivial, ih _⟩

/-- **When the last time never goes back.**  In every run from the empty database, each
operation leaves each device with the latest time of its events, not before the first and
not before the one it had, exactly if no event is older than what is known of its device
when it is ingested.  After two such runs, devices with the same times of events were last
seen at the same time, in whatever order the events came. -/
theorem lastSeen_run_iff (rt : PyRuntime) :
    (∀ ops, EveryStep (runOperation rt)
        (fun db op => KeepsLastSeen db.toTables (runOperation rt db op).toTables) Db.empty ops ↔
      EveryStep (runOperation rt) Timely Db.empty ops) ∧
    ∀ ops ops', EveryStep (runOperation rt) Timely Db.empty ops →
      EveryStep (runOperation rt) Timely Db.empty ops' →
      ∀ row ∈ (ops.foldl (runOperation rt) Db.empty).devices,
      ∀ row' ∈ (ops'.foldl (runOperation rt) Db.empty).devices,
        (∀ time, time ∈ (ops.foldl (runOperation rt) Db.empty).seenTimes row.deviceId ↔
          time ∈ (ops'.foldl (runOperation rt) Db.empty).seenTimes row'.deviceId) →
        row.lastSeenMs = row'.lastSeenMs := by
  refine ⟨fun ops => ?_, fun ops ops' hops hops' row hrow row' hrow' htimes => ?_⟩
  · refine EveryStep.congr (I := fun db => SeenInvariant db.toTables) ?_ ?_
      (everyStep_true Db.empty ops) seenInvariant_empty
    · exact fun db op h _ hkeeps =>
        seenInvariant_runOperation h ((keepsLastSeen_iff_timely h.last h.first).mp hkeeps)
    · exact fun db op h _ => keepsLastSeen_iff_timely h.last h.first
  · have hgreatest := (seenInvariant_run rt hops).last row hrow
    have hgreatest' := (seenInvariant_run rt hops').last row' hrow'
    have hset : {time | time ∈ (ops.foldl (runOperation rt) Db.empty).seenTimes row.deviceId} =
        {time | time ∈ (ops'.foldl (runOperation rt) Db.empty).seenTimes row'.deviceId} :=
      Set.ext htimes
    rw [hset] at hgreatest
    exact hgreatest.unique hgreatest'

/-! ### Two devices, and an event that comes late -/

/-- The event of a device, by its address. -/
def seenAt (srcIp : String) (nowMs : Int) (n : Nat) : Operation :=
  .ingest (sampleInput srcIp none [sampleRecord "A" "tv.local" (some "tv.local") nowMs] nowMs n)

/-- Two devices in turns, so that each event but the third is older than one before it. -/
def inTurns : List Operation :=
  [seenAt "10.0.0.5" 5000 0, seenAt "10.0.0.6" 1000 1, seenAt "10.0.0.5" 6000 2,
    seenAt "10.0.0.6" 2000 3]

/-- The same events, one device after the other. -/
def oneByOne : List Operation :=
  [seenAt "10.0.0.6" 1000 1, seenAt "10.0.0.6" 2000 3, seenAt "10.0.0.5" 5000 0,
    seenAt "10.0.0.5" 6000 2]

/-- No event is older than one of its own device, so both orders leave the same times. -/
theorem inTurns_keeps :
    EveryStep (runOperation sampleRuntime)
      (fun db op => KeepsLastSeen db.toTables (runOperation sampleRuntime db op).toTables)
      Db.empty inTurns ∧
    ∀ row ∈ (inTurns.foldl (runOperation sampleRuntime) Db.empty).devices,
    ∀ row' ∈ (oneByOne.foldl (runOperation sampleRuntime) Db.empty).devices,
      row.srcIp = row'.srcIp → row.lastSeenMs = row'.lastSeenMs := by
  have hinTurns : EveryStep (runOperation sampleRuntime) Timely Db.empty inTurns :=
    ⟨fun _ => by decide +kernel, fun _ => by decide +kernel, fun _ => by decide +kernel,
      fun _ => by decide +kernel, trivial⟩
  have honeByOne : EveryStep (runOperation sampleRuntime) Timely Db.empty oneByOne :=
    ⟨fun _ => by decide +kernel, fun _ => by decide +kernel, fun _ => by decide +kernel,
      fun _ => by decide +kernel, trivial⟩
  have htimes : ∀ row ∈ (inTurns.foldl (runOperation sampleRuntime) Db.empty).devices,
      ∀ row' ∈ (oneByOne.foldl (runOperation sampleRuntime) Db.empty).devices,
        row.srcIp = row'.srcIp →
          (inTurns.foldl (runOperation sampleRuntime) Db.empty).seenTimes row.deviceId =
            (oneByOne.foldl (runOperation sampleRuntime) Db.empty).seenTimes row'.deviceId := by
    decide +kernel
  obtain ⟨hkeeps, hsame⟩ := lastSeen_run_iff sampleRuntime
  refine ⟨(hkeeps inTurns).mpr hinTurns, fun row hrow row' hrow' hsource => ?_⟩
  refine hsame inTurns oneByOne hinTurns honeByOne row hrow row' hrow' fun time => ?_
  rw [htimes row hrow row' hrow' hsource]

/-- A device that was seen at five seconds, and again by an event of one second. -/
def lateEvent : List Operation :=
  [.ingest (sampleInput "10.0.0.5" none [sampleRecord "A" "tv.local" (some "tv.local") 5000] 5000 0),
    .ingest (sampleInput "10.0.0.5" none [sampleRecord "A" "tv.local" (some "tv.local") 1000] 1000
      1)]

/-- The last time goes back, before the first one. -/
theorem lateEvent_takes_back :
    ¬ ∀ (rt : PyRuntime) (ops : List Operation),
      EveryStep (runOperation rt)
        (fun db op => KeepsLastSeen db.toTables (runOperation rt db op).toTables) Db.empty ops := by
  intro h
  obtain ⟨-, ⟨-, hfirst, -⟩, -⟩ := h sampleRuntime lateEvent
  revert hfirst
  decide +kernel

end Api
end LanDiscovery

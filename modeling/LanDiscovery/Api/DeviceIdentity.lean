import LanDiscovery.Api.Service

/-!
# Attribution by address

An event with a valid MAC address ends on the device with that address unless a
device that already has another one was last seen at its source.
`attribution_by_mac_iff` is this condition, for one event and for whole runs.
-/

namespace LanDiscovery
namespace Api

open Library Library.Transition

/-- The device has the address afterwards, and if no device had it before, the
event was not merged into a device with another address. -/
def AttributedByMac (db db' : Db) (deviceId : Uuid) (mac : Mac) : Prop :=
  (∃ row ∈ db'.devices, row.deviceId = deviceId ∧ row.mac = some mac) ∧
  ((∀ row ∈ db.devices, row.mac ≠ some mac) →
    ∀ row ∈ db.devices, row.deviceId = deviceId → row.mac = none)

/-- Some device has the address, or the device last seen at the source of the
event, if there is one, has none. -/
def SourceAdmits (db : Db) (srcIp : Str) (mac : Mac) : Prop :=
  (∃ row ∈ db.devices, row.mac = some mac) ∨
  ∀ row, findDeviceBySrcIp db srcIp = some row → row.mac = none

theorem macOrLookup_of_normalizeMac {eventMac : Option Str} {mac : Mac}
    (h : normalizeMac eventMac = some mac) (lookup : Option Mac) :
    macOrLookup eventMac lookup = some mac := by
  unfold macOrLookup
  cases htruthy : truthy eventMac with
  | none => exact absurd h (by simp [normalizeMac_of_truthy_eq_none htruthy])
  | some text => exact h

/-- The step lemma, by the branch that attribution takes. -/
theorem observedRow_mac_iff {db : Db} {inp : IngestInput} (hok : Acceptable db inp) {mac : Mac}
    (hmac : normalizeMac inp.event.mac = some mac) :
    ((observedRow db inp).mac = some mac ∧
      ((∀ row ∈ db.devices, row.mac ≠ some mac) →
        ∀ row ∈ db.devices, row.deviceId = (observedRow db inp).deviceId → row.mac = none)) ↔
      SourceAdmits db inp.event.srcIp mac := by
  have hhint : inp.macHint = some mac := macOrLookup_of_normalizeMac hmac _
  have hattached : inp.attachedMac = some mac := macOrLookup_of_normalizeMac hmac _
  rw [SourceAdmits]
  cases hres : resolution db inp.event inp.macHint with
  | byMac row =>
      obtain ⟨hrow, -, hrowMac⟩ := resolution_eq_byMac hres
      rw [hhint] at hrowMac
      rw [observedRow_of_byMac hres]
      refine iff_of_true ⟨hrowMac, fun hnone => absurd hrowMac (hnone row hrow)⟩ ?_
      exact Or.inl ⟨row, hrow, hrowMac⟩
  | bySrcIp row =>
      obtain ⟨hfound, hunused⟩ := resolution_eq_bySrcIp hres
      obtain ⟨hrow, -⟩ := findDeviceBySrcIp_eq_some hfound
      rw [hhint] at hunused
      have hunused' : ∀ row ∈ db.devices, row.mac ≠ some mac :=
        fun row hrow => hunused row hrow (by simp)
      have hsource : (∀ r, findDeviceBySrcIp db inp.event.srcIp = some r → r.mac = none) ↔
          row.mac = none := by
        simp [hfound]
      have hnot : ¬ ∃ r ∈ db.devices, r.mac = some mac := by simpa using hunused'
      rw [hsource, or_iff_right hnot, observedRow_of_bySrcIp hres, hhint, hattached]
      dsimp only
      -- the row gets the address exactly when it has none
      constructor
      · rintro ⟨-, hmerged⟩
        exact hmerged hunused' row hrow rfl
      · intro hnone
        refine ⟨by simp [hnone], fun _ r hr hid => ?_⟩
        rw [Table.eq_of_key_eq db.constraints.deviceKeys hr hrow hid]
        exact hnone
  | fresh =>
      obtain ⟨hnosrc, -⟩ := resolution_eq_fresh hres
      rw [observedRow_of_fresh hres, hhint, hattached]
      refine iff_of_true ⟨rfl, fun _ r hr hid => ?_⟩ (Or.inr fun r hfound => ?_)
      · exact absurd hid (hok.ne_deviceUuid hres hr)
      · obtain ⟨hr, hsrc⟩ := findDeviceBySrcIp_eq_some hfound
        exact absurd hsrc (hnosrc r hr)

/-- One event that is ingested. -/
theorem attributedByMac_iff {rt : PyRuntime} {db db' : Db} {inp : IngestInput} {deviceId : Uuid}
    {mac : Mac} (hmac : normalizeMac inp.event.mac = some mac)
    (hrun : processDiscoveryEvent rt db inp = .ok (deviceId, db')) :
    AttributedByMac db db' deviceId mac ↔ SourceAdmits db inp.event.srcIp mac := by
  obtain ⟨hok, rfl, htables⟩ := processDiscoveryEvent_eq_ok_iff.mp hrun
  have hafter : (∃ row ∈ db'.devices, row.deviceId = (observedRow db inp).deviceId ∧
      row.mac = some mac) ↔ (observedRow db inp).mac = some mac := by
    rw [htables]
    constructor
    · rintro ⟨row, hrow, hid, hrowMac⟩
      rcases mem_devices_ingested.mp hrow with rfl | ⟨-, hne⟩
      · exact hrowMac
      · exact absurd hid hne
    · exact fun h => ⟨_, mem_devices_ingested.mpr (Or.inl rfl), rfl, h⟩
  rw [AttributedByMac, hafter, observedRow_mac_iff hok hmac]

/-! ## Whole runs -/

/-- The devices of recorded events with a valid address have that address. -/
def RecordedMacs (t : Tables) : Prop :=
  ∀ r ∈ t.discoveryEvents, ∀ mac, normalizeMac r.payload.mac = some mac →
    ∀ row ∈ t.devices, row.deviceId = r.deviceId → row.mac = some mac

/-- No device row carries events with two different addresses. -/
def NoSharedRow (t : Tables) : Prop :=
  ∀ r ∈ t.discoveryEvents, ∀ s ∈ t.discoveryEvents, ∀ mac mac',
    normalizeMac r.payload.mac = some mac → normalizeMac s.payload.mac = some mac' →
      mac ≠ mac' → r.deviceId ≠ s.deviceId

/-- The condition of a run: each event with a valid address finds a source that
admits it. -/
def AdmittedOperation (db : Db) : Operation → Prop
  | .ingest inp => ∀ mac, normalizeMac inp.event.mac = some mac →
      SourceAdmits db inp.event.srcIp mac
  | .approve _ _ _ => True

/-- An address that a device has is never replaced. -/
theorem observedRow_keeps_mac {db : Db} {inp : IngestInput} {row : DeviceRow}
    (hok : Acceptable db inp) (hrow : row ∈ db.devices)
    (hid : row.deviceId = (observedRow db inp).deviceId) (hmac : row.mac ≠ none) :
    (observedRow db inp).mac = row.mac := by
  obtain ⟨mac, hmac⟩ := Option.ne_none_iff_exists'.mp hmac
  cases hres : resolution db inp.event inp.macHint with
  | byMac found =>
      rw [observedRow_of_byMac hres] at hid ⊢
      rw [Table.eq_of_key_eq db.constraints.deviceKeys hrow (resolution_eq_byMac hres).1 hid]
      rfl
  | bySrcIp found =>
      rw [observedRow_of_bySrcIp hres] at hid ⊢
      have hfound := (findDeviceBySrcIp_eq_some (resolution_eq_bySrcIp hres).1).1
      have hsame := Table.eq_of_key_eq db.constraints.deviceKeys hrow hfound hid
      simp [← hsame, hmac]
  | fresh =>
      rw [observedRow_of_fresh hres] at hid
      exact absurd hid (hok.ne_deviceUuid hres hrow)

theorem recordedMacs_runOperation {rt : PyRuntime} {db : Db} {op : Operation}
    (h : RecordedMacs db.toTables) (hop : AdmittedOperation db op) :
    RecordedMacs (runOperation rt db op).toTables := by
  refine runOperation_preserves ?_ ?_ h
  · rintro inp rfl hok r hr mac hmac row hrow hid
    rcases List.mem_append.mp hr with hold | hnew
    · rcases mem_devices_ingested.mp hrow with rfl | ⟨hrow, -⟩
      · obtain ⟨old, hmem, hsame⟩ := List.mem_map.mp (db.constraints.eventRefs r hold)
        have hmacOld := h r hold mac hmac old hmem hsame
        rw [observedRow_keeps_mac hok hmem (hsame.trans hid.symm) (by simp [hmacOld]), hmacOld]
      · exact h r hold mac hmac row hrow hid
    · obtain rfl := List.mem_singleton.mp hnew
      rcases mem_devices_ingested.mp hrow with rfl | ⟨-, hne⟩
      · exact ((observedRow_mac_iff hok hmac).mpr (hop mac hmac)).1
      · exact absurd hid hne
  · rintro row hrow displayName nowMs rfl r hr mac hmac s hs hid
    rcases Table.mem_upsert.mp hs with rfl | ⟨hs, -⟩
    · exact h r hr mac hmac row hrow hid
    · exact h r hr mac hmac s hs hid

theorem noSharedRow_of_recordedMacs {db : Db} (h : RecordedMacs db.toTables) :
    NoSharedRow db.toTables := by
  intro r hr s hs mac mac' hmac hmac' hne hsame
  obtain ⟨row, hrow, hid⟩ := List.mem_map.mp (db.constraints.eventRefs r hr)
  have hrowMac := h r hr mac hmac row hrow hid
  have hrowMac' := h s hs mac' hmac' row hrow (hid.trans hsame)
  exact hne (Option.some.inj (hrowMac.symm.trans hrowMac'))

/-- **Attribution by address.**  From every reachable database an event with a
valid address ends on the device with that address, and is not merged into one
with another, exactly when its source admits the address.  In a run in which
that is so for each event with a valid address, no device row carries events
with two addresses. -/
theorem attribution_by_mac_iff (rt : PyRuntime) :
    (∀ db, Reachable rt db → ∀ inp mac, normalizeMac inp.event.mac = some mac →
      ∀ deviceId db', processDiscoveryEvent rt db inp = .ok (deviceId, db') →
        (AttributedByMac db db' deviceId mac ↔ SourceAdmits db inp.event.srcIp mac)) ∧
    ∀ ops, EveryStep (runOperation rt) AdmittedOperation Db.empty ops →
      NoSharedRow (ops.foldl (runOperation rt) Db.empty).toTables := by
  refine ⟨fun db _ inp mac hmac deviceId db' hrun => attributedByMac_iff hmac hrun, ?_⟩
  intro ops hops
  have hrecorded : RecordedMacs (ops.foldl (runOperation rt) Db.empty).toTables := by
    refine EveryStep.invariant (I := fun db => RecordedMacs db.toTables) ?_ hops ?_
    · exact fun db op h hop => recordedMacs_runOperation h hop
    · simp [RecordedMacs, Db.empty]
  exact noSharedRow_of_recordedMacs hrecorded

/-! ### A new address at a known source -/

/-- A device that was seen with an address and then approved. -/
def approvedSource : Db :=
  runOperation sampleRuntime
    (runOperation sampleRuntime Db.empty
      (.ingest (sampleInput "192.168.1.10" (some "aa:aa:aa:aa:aa:aa")
        [sampleRecord "A" "tv.local" (some "tv.local") 1000] 1000 0)))
    (.approve (sampleUuid 0) none 2000)

/-- The device again, from another source. -/
def movedDevice : IngestInput :=
  sampleInput "192.168.1.77" (some "aa-aa-aa-aa-aa-aa")
    [sampleRecord "A" "tv.local" (some "tv.local") 3000] 3000 1

/-- Another device at the first source. -/
def otherDevice : IngestInput :=
  sampleInput "192.168.1.10" (some "bb:bb:bb:bb:bb:bb")
    [sampleRecord "A" "printer.local" (some "printer.local") 3000] 3000 1

theorem approvedSource_reachable : Reachable sampleRuntime approvedSource :=
  ((Reachable.empty sampleRuntime).run _).run _

theorem movedDevice_attributed :
    AttributedByMac approvedSource
      (runOperation sampleRuntime approvedSource (.ingest movedDevice)) (sampleUuid 0)
      ⟨str "AA:AA:AA:AA:AA:AA", by decide +kernel⟩ := by
  refine ((attribution_by_mac_iff sampleRuntime).1 _ approvedSource_reachable movedDevice _ ?_ _ _
    ?_).mpr (Or.inl ?_)
  · decide +kernel
  · decide +kernel
  · decide +kernel

/-- The second device is recorded on the approved row of the first. -/
theorem otherDevice_merged :
    ¬ ∀ rt db, Reachable rt db → ∀ inp mac, normalizeMac inp.event.mac = some mac →
      ∀ deviceId db', processDiscoveryEvent rt db inp = .ok (deviceId, db') →
        AttributedByMac db db' deviceId mac := by
  intro h
  have hmac : normalizeMac otherDevice.event.mac =
      some ⟨str "BB:BB:BB:BB:BB:BB", by decide +kernel⟩ := by
    decide +kernel
  have hrun : processDiscoveryEvent sampleRuntime approvedSource otherDevice =
      .ok (sampleUuid 0, runOperation sampleRuntime approvedSource (.ingest otherDevice)) := by
    decide +kernel
  have hafter := (h _ _ approvedSource_reachable _ _ hmac _ _ hrun).1
  revert hafter
  decide +kernel

end Api
end LanDiscovery

import LanDiscovery.Api.Service

/-!
# Identity without an address

Without an address an event goes to the device last seen at its source, or to a new one.
The host name of the event plays no part, so the one device with that name is found
exactly if it is the one last seen there (`resolvedByHost_iff`).
-/

namespace LanDiscovery
namespace Api

open Library Library.Outcome

/-- The device is the only one with the host of the event. -/
structure IsHostDevice (db : Db) (event : DiscoveryEventIn) (row : DeviceRow) : Prop where
  mem : row ∈ db.devices
  nonempty : truthy (mdnsHostFromEvent event) ≠ none
  host : row.mdnsHost = mdnsHostFromEvent event
  unique : ∀ r ∈ db.devices, r.mdnsHost = mdnsHostFromEvent event → r = row

/-- The row is the first of those seen last at the source. -/
def LastSeenAt (db : Db) (srcIp : Str) (row : DeviceRow) : Prop :=
  ∃ before after, (db.devices.filter fun r => r.srcIp = srcIp) = before ++ row :: after ∧
    (∀ r ∈ before, r.lastSeenMs < row.lastSeenMs) ∧ ∀ r ∈ after, r.lastSeenMs ≤ row.lastSeenMs

theorem findDeviceBySrcIp_eq_some_iff {db : Db} {srcIp : Str} {row : DeviceRow} :
    findDeviceBySrcIp db srcIp = some row ↔ LastSeenAt db srcIp row := by
  have hnodup : (db.devices.filter fun r => r.srcIp = srcIp).Nodup :=
    (List.Nodup.of_map _ db.constraints.deviceKeys).filter _
  constructor
  · intro hfind
    obtain ⟨before, after, hsplit⟩ := List.append_of_mem (List.maxOn?_mem hfind)
    rw [findDeviceBySrcIp, hsplit, Table.maxOn?_append_cons_iff] at hfind
    · exact ⟨before, after, hsplit, by simpa using hfind.1, hfind.2⟩
    · rw [hsplit] at hnodup
      exact fun hmem => (List.nodup_append.mp hnodup).2.2 row hmem row (by simp) rfl
  · rintro ⟨before, after, hsplit, hbefore, hafter⟩
    rw [findDeviceBySrcIp, hsplit, Table.maxOn?_append_cons_iff]
    · exact ⟨fun r hr => not_le.mpr (hbefore r hr), hafter⟩
    · exact fun hmem => absurd (hbefore row hmem) (lt_irrefl _)

theorem resolution_without_mac (db : Db) (event : DiscoveryEventIn) :
    resolution db event none =
      match findDeviceBySrcIp db event.srcIp with
      | some row => .bySrcIp row
      | none => .fresh := rfl

/-- **Who an event without an address goes to.**  It goes to the one device with its host
exactly if that device is the one last seen at the source of the event, and the time of
the event can be stored. -/
theorem resolvedByHost_iff (db : Db) (event : DiscoveryEventIn) (deviceUuid : Uuid)
    (row : DeviceRow) (h : IsHostDevice db event row) :
    (∃ db', resolveDeviceId db event none deviceUuid = .ok (row.deviceId, db')) ↔
      LastSeenAt db event.srcIp row ∧ FitsInteger (eventSeenMs event) := by
  simp only [resolveDeviceId_eq_ok_iff, ← findDeviceBySrcIp_eq_some_iff]
  have hres := resolution_without_mac db event
  cases hfind : findDeviceBySrcIp db event.srcIp with
  | none =>
      -- a new device is none of those stored
      rw [hfind] at hres
      constructor
      · rintro ⟨-, -, hfresh, hid, -⟩
        have hnew : row.deviceId = deviceUuid := by
          rw [hid, resolvedRow, hres]
          rfl
        exact absurd (hnew ▸ List.mem_map_of_mem h.mem) (hfresh hres)
      · rintro ⟨hnone, -⟩
        exact absurd hnone (by simp)
  | some found =>
      rw [hfind] at hres
      have hmem := (findDeviceBySrcIp_eq_some hfind).1
      have hresolved : (resolvedRow db event none deviceUuid).deviceId = found.deviceId := by
        rw [resolvedRow, hres]
        rfl
      constructor
      · rintro ⟨-, hfits, -, hid, -⟩
        rw [Table.eq_of_key_eq db.constraints.deviceKeys hmem h.mem (hid.trans hresolved).symm]
        exact ⟨rfl, hfits⟩
      · rintro ⟨hfound, hfits⟩
        obtain rfl := Option.some.inj hfound
        obtain ⟨db', htables⟩ := Db.exists_toTables ((db.constraints.upsertDevice_iff _).mpr
          (resolvedRow_macFree db event none deviceUuid))
        exact ⟨db', hfits, by simp [hres], hresolved.symm, htables⟩

/-! ### A device that changes its source -/

/-- A device that is known by its host, without an address. -/
def knownByHost : Db :=
  runOperation sampleRuntime Db.empty
    (.ingest (sampleInput "192.168.1.10" none
      [sampleRecord "SRV" "TV._airplay._tcp.local" (some "tv.local") 1000] 1000 0))

/-- An event with its host from a source. -/
def hostEvent (srcIp : String) : DiscoveryEventIn :=
  (sampleInput srcIp none
    [sampleRecord "SRV" "TV._airplay._tcp.local" (some "tv.local") 2000] 2000 1).event

/-- The row of the device. -/
def hostRow : DeviceRow where
  deviceId := sampleUuid 0
  srcIp := str "192.168.1.10"
  mdnsHost := some (str "tv.local")
  mac := none
  displayName := none
  status := .unknown
  firstSeenMs := 1000
  lastSeenMs := 1000

theorem knownByHost_devices : knownByHost.devices = [hostRow] := by
  decide +kernel

theorem isHostDevice_hostRow (srcIp : String) :
    IsHostDevice knownByHost (hostEvent srcIp) hostRow := by
  have hhost : mdnsHostFromEvent (hostEvent srcIp) = some (str "tv.local") := rfl
  refine ⟨?_, ?_, ?_, fun r hr _ => ?_⟩
  · simp [knownByHost_devices]
  · rw [hhost]
    decide
  · rw [hhost]
    rfl
  · simpa [knownByHost_devices] using hr

/-- At the source where it was last seen the device is found. -/
theorem hostRow_resolved :
    ∃ db', resolveDeviceId knownByHost (hostEvent "192.168.1.10") none (sampleUuid 1) =
      .ok (hostRow.deviceId, db') := by
  refine (resolvedByHost_iff knownByHost (hostEvent "192.168.1.10") (sampleUuid 1) hostRow
    (isHostDevice_hostRow _)).mpr ⟨⟨[], [], ?_, by simp, by simp⟩, by decide +kernel⟩
  rw [knownByHost_devices]
  decide +kernel

/-- From another source it is stored once more. -/
theorem hostRow_not_resolved :
    ¬ ∀ rt db, Reachable rt db → ∀ event deviceUuid row, IsHostDevice db event row →
      ∃ db', resolveDeviceId db event none deviceUuid = .ok (row.deviceId, db') := by
  intro h
  obtain ⟨db', hrun⟩ := h sampleRuntime knownByHost ((Reachable.empty sampleRuntime).run _)
    (hostEvent "192.168.1.77") (sampleUuid 1) hostRow (isHostDevice_hostRow _)
  have hother : (resolveDeviceId knownByHost (hostEvent "192.168.1.77") none (sampleUuid 1)).map
      Prod.fst = .ok (sampleUuid 1) := by
    decide +kernel
  rw [hrun] at hother
  have hid : hostRow.deviceId = sampleUuid 1 := Except.ok.inj hother
  exact absurd hid (by decide +kernel)

end Api
end LanDiscovery

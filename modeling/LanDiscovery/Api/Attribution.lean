import LanDiscovery.Api.Ingest

/-!
# The device of an event

`resolve_device_id` in closed form.  An event is attributed to one device
(`resolution`): the one with its address, or else the one last seen at its
source, or else a new one.  `resolvedRow` is the row of that device afterwards.
-/

namespace LanDiscovery
namespace Api

open Library Library.Outcome Library.Preference

/-- How an event is attributed: to the device with its address, to the device
last seen at its source, or to a new one. -/
inductive Resolution where
  | byMac (row : DeviceRow)
  | bySrcIp (row : DeviceRow)
  | fresh
  deriving DecidableEq

/-- The device that an event is attributed to, if it is not a new one. -/
def Resolution.device : Resolution → Option DeviceRow
  | .byMac row => some row
  | .bySrcIp row => some row
  | .fresh => none

/-- The host that the records of an event merge to. -/
def Resolution.mergedHost (event : DiscoveryEventIn) : Resolution → Option Str
  | .byMac row => mergedHostByMac row.mdnsHost (mdnsHostFromEvent event)
  | .bySrcIp row => mergeRecordHosts row.mdnsHost event.records
  | .fresh => mdnsHostFromEvent event

/-- A host is not forgotten. -/
theorem truthy_mergedHost_isSome {event : DiscoveryEventIn} {res : Resolution} {row : DeviceRow}
    (h : res.device = some row) (hhost : (truthy row.mdnsHost).isSome) :
    (truthy (res.mergedHost event)).isSome := by
  cases res with
  | byMac found =>
      obtain rfl := Option.some.inj h
      simp [Resolution.mergedHost, hhost]
  | bySrcIp found =>
      obtain rfl := Option.some.inj h
      rw [Resolution.mergedHost, truthy_mergeRecordHosts, Option.isSome_iff_ne_none]
      exact settle_ne_none (Option.isSome_iff_ne_none.mp hhost) _
  | fresh => exact absurd h (by simp [Resolution.device])

/-- The branch that `resolve_device_id` takes. -/
def resolution (db : Db) (event : DiscoveryEventIn) (macHint : Option Mac) : Resolution :=
  match macHint.bind (findDeviceByMac db) with
  | some row => .byMac row
  | none =>
      match findDeviceBySrcIp db event.srcIp with
      | some row => .bySrcIp row
      | none => .fresh

theorem resolution_eq_byMac {db : Db} {event : DiscoveryEventIn} {macHint : Option Mac}
    {row : DeviceRow} (h : resolution db event macHint = .byMac row) :
    row ∈ db.devices ∧ row.mac ≠ none ∧ row.mac = macHint := by
  unfold resolution at h
  split at h
  · next found hfound =>
      obtain rfl := Resolution.byMac.inj h
      obtain ⟨mac, rfl, hfind⟩ := Option.bind_eq_some_iff.mp hfound
      obtain ⟨hmem, hmac⟩ := findDeviceByMac_eq_some hfind
      exact ⟨hmem, by simp [hmac], hmac⟩
  · split at h <;> exact absurd h (by simp)

theorem bind_findDeviceByMac_eq_none_iff {db : Db} {macHint : Option Mac} :
    macHint.bind (findDeviceByMac db) = none ↔ db.MacUnused macHint := by
  cases macHint with
  | none => exact iff_of_true rfl fun _ _ hne => absurd rfl hne
  | some mac =>
      change findDeviceByMac db mac = none ↔ _
      constructor
      · exact fun h row hrow _ => findDeviceByMac_eq_none h row hrow
      · intro h
        by_contra hne
        obtain ⟨found, hfound⟩ := Option.ne_none_iff_exists'.mp hne
        obtain ⟨hmem, hmac⟩ := findDeviceByMac_eq_some hfound
        exact h found hmem (by simp) hmac

/-- Outside of the first branch no device has the address of the event. -/
theorem resolution_eq_bySrcIp {db : Db} {event : DiscoveryEventIn} {macHint : Option Mac}
    {row : DeviceRow} (h : resolution db event macHint = .bySrcIp row) :
    findDeviceBySrcIp db event.srcIp = some row ∧ db.MacUnused macHint := by
  unfold resolution at h
  split at h
  · exact absurd h (by simp)
  · next hnone =>
      split at h
      · next found hfound =>
          obtain rfl := Resolution.bySrcIp.inj h
          exact ⟨hfound, bind_findDeviceByMac_eq_none_iff.mp hnone⟩
      · exact absurd h (by simp)

theorem resolution_eq_fresh {db : Db} {event : DiscoveryEventIn} {macHint : Option Mac}
    (h : resolution db event macHint = .fresh) :
    (∀ row ∈ db.devices, row.srcIp ≠ event.srcIp) ∧ db.MacUnused macHint := by
  unfold resolution at h
  split at h
  · exact absurd h (by simp)
  · next hnone =>
      split at h
      · exact absurd h (by simp)
      · next hfound =>
          exact ⟨findDeviceBySrcIp_eq_none hfound, bind_findDeviceByMac_eq_none_iff.mp hnone⟩

/-- The row of a device found by its address. -/
def DeviceRow.seenByMac (row : DeviceRow) (event : DiscoveryEventIn) : DeviceRow :=
  { row with
    srcIp := event.srcIp
    mdnsHost := mergedHostByMac row.mdnsHost (mdnsHostFromEvent event)
    lastSeenMs := eventSeenMs event }

/-- The row of a device found at the source of the event. -/
def DeviceRow.seenBySrcIp (row : DeviceRow) (event : DiscoveryEventIn) (macHint : Option Mac) :
    DeviceRow :=
  { row with
    mdnsHost := mergeRecordHosts row.mdnsHost event.records
    lastSeenMs := eventSeenMs event
    mac := row.mac.or macHint }

/-- The row of a new device. -/
def DeviceRow.ofEvent (event : DiscoveryEventIn) (macHint : Option Mac) (deviceId : Uuid) :
    DeviceRow where
  deviceId := deviceId
  srcIp := event.srcIp
  mdnsHost := mdnsHostFromEvent event
  mac := macHint
  displayName := none
  status := .unknown
  firstSeenMs := eventSeenMs event
  lastSeenMs := eventSeenMs event

/-- The row of the device after `resolve_device_id`. -/
def resolvedRow (db : Db) (event : DiscoveryEventIn) (macHint : Option Mac)
    (deviceUuid : Uuid) : DeviceRow :=
  match resolution db event macHint with
  | .byMac row => row.seenByMac event
  | .bySrcIp row => row.seenBySrcIp event macHint
  | .fresh => .ofEvent event macHint deviceUuid

theorem resolvedRow_macFree (db : Db) (event : DiscoveryEventIn) (macHint : Option Mac)
    (deviceUuid : Uuid) :
    db.MacFree (resolvedRow db event macHint deviceUuid).deviceId
      (resolvedRow db event macHint deviceUuid).mac := by
  unfold resolvedRow
  cases hres : resolution db event macHint with
  | byMac row =>
      have hfree := db.constraints.macFree (resolution_eq_byMac hres).1
      exact hfree
  | bySrcIp row =>
      obtain ⟨hfound, hunused⟩ := resolution_eq_bySrcIp hres
      have hrow := db.constraints.macFree (findDeviceBySrcIp_eq_some hfound).1
      cases hmac : row.mac with
      | none => simpa [DeviceRow.seenBySrcIp, hmac] using hunused.macFree row.deviceId
      | some mac => simpa [DeviceRow.seenBySrcIp, hmac] using hrow
  | fresh => exact (resolution_eq_fresh hres).2.macFree deviceUuid

/-- The two statements of the second branch leave one updated row. -/
theorem updateBySrcIp_eq_ok_iff {db : Db} (db' : Db) {event : DiscoveryEventIn}
    {macHint : Option Mac} {row : DeviceRow} (hrow : row ∈ db.devices)
    (hsrc : row.srcIp = event.srcIp) (hfree : db.MacFree row.deviceId macHint) :
    ((updateDeviceObservation db row.deviceId event.srcIp
          (mergeRecordHosts row.mdnsHost event.records) (eventSeenMs event)
          (if row.mac.isNone then macHint else none)) >>= fun db =>
        writeMacHint db row.deviceId (if row.mac.isNone then macHint else none)) = .ok db' ↔
      FitsInteger (eventSeenMs event) ∧
      db'.toTables =
        { db.toTables with
          devices := Table.upsert DeviceRow.deviceId (row.seenBySrcIp event macHint)
            db.devices } := by
  have hfree' : db.MacFree row.deviceId (if row.mac.isNone then macHint else none) := by
    split
    · exact hfree
    · exact db.macFree_none _
  have hobserve : row.observe event.srcIp (mergeRecordHosts row.mdnsHost event.records)
      (eventSeenMs event) (if row.mac.isNone then macHint else none) =
        row.seenBySrcIp event macHint := by
    rw [DeviceRow.observe_eq, DeviceRow.seenBySrcIp, ← hsrc]
    cases row.mac <;> cases macHint <;> rfl
  simp only [bind_eq_ok_iff, updateDeviceObservation_eq_ok_iff hrow hfree', hobserve]
  cases hmac : (if row.mac.isNone then macHint else none) with
  | none =>
      constructor
      · rintro ⟨_, hupdate, hdb⟩
        obtain rfl := Except.ok.inj hdb
        exact hupdate
      · exact fun hupdate => ⟨_, hupdate, rfl⟩
  | some mac =>
      -- the second statement writes the address that the first one wrote
      have hsame : ({ row.seenBySrcIp event macHint with mac := some mac } : DeviceRow) =
          row.seenBySrcIp event macHint := by
        rw [← hobserve, hmac]
        rfl
      have hsecond : ∀ db₁ : Db, db₁.toTables =
          { db.toTables with
            devices := Table.upsert DeviceRow.deviceId (row.seenBySrcIp event macHint)
              db.devices } →
          (updateDeviceMac db₁ row.deviceId mac = .ok db' ↔ db'.toTables = db₁.toTables) := by
        intro db₁ hdb₁
        have hrow₁ : row.seenBySrcIp event macHint ∈ db₁.devices := by
          rw [hdb₁]
          exact Table.mem_upsert.mpr (Or.inl rfl)
        have hfree₁ := db₁.constraints.macFree hrow₁
        have hupdate : updateDeviceMac db₁ row.deviceId mac = .ok db' ↔ _ :=
          updateDeviceMac_eq_ok_iff hrow₁
        rw [hsame, Table.upsert_eq_self db₁.constraints.deviceKeys hrow₁] at hupdate
        refine hupdate.trans (and_iff_right ?_)
        rw [← hsame] at hfree₁
        exact hfree₁
      constructor
      · rintro ⟨db₁, ⟨hfits, hdb₁⟩, hdb'⟩
        exact ⟨hfits, ((hsecond db₁ hdb₁).mp hdb').trans hdb₁⟩
      · rintro ⟨hfits, hdb'⟩
        exact ⟨db', ⟨hfits, hdb'⟩, (hsecond db' hdb').mpr rfl⟩

/-- What attribution needs and does. -/
theorem resolveDeviceId_eq_ok_iff {db db' : Db} {event : DiscoveryEventIn}
    {macHint : Option Mac} {deviceUuid deviceId : Uuid} :
    resolveDeviceId db event macHint deviceUuid = .ok (deviceId, db') ↔
      FitsInteger (eventSeenMs event) ∧
      (resolution db event macHint = .fresh → deviceUuid ∉ db.deviceIds) ∧
      deviceId = (resolvedRow db event macHint deviceUuid).deviceId ∧
      db'.toTables =
        { db.toTables with
          devices := Table.upsert DeviceRow.deviceId (resolvedRow db event macHint deviceUuid)
            db.devices } := by
  have hfree := resolvedRow_macFree db event macHint deviceUuid
  -- by the branch of `resolve_device_id`: found by address, at the source, or new
  unfold resolveDeviceId
  cases hmac : macHint.bind (findDeviceByMac db) with
  | some row =>
      have hres : resolution db event macHint = .byMac row := by simp [resolution, hmac]
      have hresolved : resolvedRow db event macHint deviceUuid = row.seenByMac event := by
        rw [resolvedRow, hres]
      obtain ⟨hrow, hne, heq⟩ := resolution_eq_byMac hres
      -- the address that is written is the one the row has
      have hobserve : row.observe event.srcIp
          (mergedHostByMac row.mdnsHost (mdnsHostFromEvent event)) (eventSeenMs event) macHint =
            row.seenByMac event := by
        rw [DeviceRow.observe_eq, DeviceRow.seenByMac, ← heq]
        cases row.mac <;> rfl
      simp only [bind_eq_ok_iff, pure_eq_ok, Except.ok.injEq, Prod.mk.injEq,
        updateDeviceObservation_eq_ok_iff hrow (heq ▸ db.constraints.macFree hrow), hobserve,
        hresolved, hres]
      constructor
      · rintro ⟨_, ⟨hfits, htables⟩, rfl, rfl⟩
        exact ⟨hfits, by simp, rfl, htables⟩
      · rintro ⟨hfits, -, rfl, htables⟩
        exact ⟨_, ⟨hfits, htables⟩, rfl, rfl⟩
  | none =>
      cases hip : findDeviceBySrcIp db event.srcIp with
      | some row =>
          have hres : resolution db event macHint = .bySrcIp row := by
            simp [resolution, hmac, hip]
          have hresolved : resolvedRow db event macHint deviceUuid =
              row.seenBySrcIp event macHint := by
            rw [resolvedRow, hres]
          obtain ⟨hrow, hsrc⟩ := findDeviceBySrcIp_eq_some hip
          have hfreeHint := (resolution_eq_bySrcIp hres).2.macFree row.deviceId
          have hupdate := updateBySrcIp_eq_ok_iff db' hrow hsrc hfreeHint
          simp only [bind_eq_ok_iff, pure_eq_ok, Except.ok.injEq, Prod.mk.injEq] at hupdate ⊢
          rw [hresolved, hres]
          constructor
          · rintro ⟨db₁, hfirst, _, hsecond, rfl, rfl⟩
            obtain ⟨hfits, htables⟩ := hupdate.mp ⟨db₁, hfirst, hsecond⟩
            exact ⟨hfits, by simp, rfl, htables⟩
          · rintro ⟨hfits, -, rfl, htables⟩
            obtain ⟨db₁, hfirst, hsecond⟩ := hupdate.mpr ⟨hfits, htables⟩
            exact ⟨db₁, hfirst, db', hsecond, rfl, rfl⟩
      | none =>
          have hres : resolution db event macHint = .fresh := by simp [resolution, hmac, hip]
          have hresolved : resolvedRow db event macHint deviceUuid =
              .ofEvent event macHint deviceUuid := by
            rw [resolvedRow, hres]
          rw [hresolved] at hfree
          simp only [bind_eq_ok_iff, pure_eq_ok, Except.ok.injEq, Prod.mk.injEq,
            insertDevice_eq_ok_iff, hresolved, hres, true_imp_iff]
          constructor
          · rintro ⟨_, ⟨hfits, hfresh, -, htables⟩, rfl, rfl⟩
            exact ⟨hfits, hfresh, rfl, htables⟩
          · rintro ⟨hfits, hfresh, rfl, htables⟩
            exact ⟨_, ⟨hfits, hfresh, hfree, htables⟩, rfl, rfl⟩

end Api
end LanDiscovery

import LanDiscovery.Api.HostIdentity

/-!
# An address that comes late

Every statement of an ingest keeps the constraints except one.  An address is written
where no other device has it, because attribution looks for the device that does;
`_attach_mac_if_needed` asks the neighbour table again and writes what it answers then
(`breaksConstraint_iff_lateAddressTaken`).
-/

namespace LanDiscovery
namespace Api

open Library Library.Outcome

/-- The event has no address, the neighbour table has none for its source at first, the
device last seen there has none, and the second answer is the address of a device. -/
structure LateAddressTaken (db : Db) (inp : IngestInput) : Prop where
  seenMs : FitsInteger (eventSeenMs inp.event)
  eventMac : truthy inp.event.mac = none
  hintLookup : inp.hintLookup = none
  source : ∀ row, LastSeenAt db inp.event.srcIp row → row.mac = none
  taken : ∃ row ∈ db.devices, row.mac ≠ none ∧ row.mac = inp.attachLookup

/-! ## How an ingest fails -/

theorem write_failsOnly (t : Tables) : FailsOnly (· = ApiError.integrityError) (Db.write t) := by
  unfold Db.write
  split_ifs
  · exact .ok _
  · exact .error rfl

theorem upsertServiceKeys_failsOnly (db : Db) (deviceId : Uuid) (serviceKeys : List Str) :
    FailsOnly (· = ApiError.integrityError) (upsertServiceKeys db deviceId serviceKeys) := by
  refine FailsOnly.foldlM (fun db key => ?_) serviceKeys db
  unfold insertServiceKey
  split_ifs
  · exact .ok _
  · exact write_failsOnly _

theorem attachMacIfNeeded_failsOnly (db : Db) (deviceId : Uuid) (eventMac : Option Str)
    (lookup : Option Mac) :
    FailsOnly (· = ApiError.integrityError) (attachMacIfNeeded db deviceId eventMac lookup) := by
  unfold attachMacIfNeeded
  cases getDeviceRow db deviceId with
  | none => exact .ok _
  | some row =>
      dsimp only
      split_ifs
      · exact .ok _
      · cases macOrLookup eventMac lookup with
        | none => exact .ok _
        | some mac => exact write_failsOnly _

theorem applyPolicyAlerts_failsOnly (rt : PyRuntime) (db : Db) (deviceId : Uuid)
    (observedAtMs : Int) (alertUuid : Nat → Uuid) :
    FailsOnly (· = ApiError.integrityError)
      (applyPolicyAlerts rt db deviceId observedAtMs alertUuid) := by
  unfold applyPolicyAlerts
  cases getDeviceRow db deviceId with
  | none => exact .ok _
  | some row =>
      refine FailsOnly.foldlM (fun db alert => ?_) _ db
      refine FailsOnly.bind ?_ fun result _ => .ok _
      unfold insertAlertIfNew
      split_ifs
      · exact .ok _
      · exact (write_failsOnly _).bind fun db _ => .ok _

/-- A time that cannot be stored is noticed before anything is written. -/
theorem resolveDeviceId_of_not_fits {db : Db} {event : DiscoveryEventIn} {macHint : Option Mac}
    {deviceUuid : Uuid} (h : ¬ FitsInteger (eventSeenMs event)) :
    resolveDeviceId db event macHint deviceUuid = .error .overflowError := by
  have hbind : bindInteger (eventSeenMs event) = .error .overflowError := if_neg h
  unfold resolveDeviceId
  cases macHint.bind (findDeviceByMac db) with
  | some row => simp [updateDeviceObservation, hbind]
  | none =>
      cases findDeviceBySrcIp db event.srcIp with
      | some row => simp [updateDeviceObservation, hbind]
      | none => simp [insertDevice, hbind]

/-- Under a fresh identifier an event is refused by the constraints exactly if its time can
be stored and its device would get the address of another one. -/
theorem processDiscoveryEvent_integrityError_iff {rt : PyRuntime} {db : Db} {inp : IngestInput}
    (hsrc : inp.event.srcIp ≠ []) (hfresh : inp.deviceUuid ∉ db.deviceIds) :
    processDiscoveryEvent rt db inp = .error .integrityError ↔
      FitsInteger (eventSeenMs inp.event) ∧
        ¬ db.MacFree (observedRow db inp).deviceId (observedRow db inp).mac := by
  by_cases hfits : FitsInteger (eventSeenMs inp.event)
  · have hfails : FailsOnly (· = ApiError.integrityError) (processDiscoveryEvent rt db inp) := by
      obtain ⟨db₁, hdb₁⟩ := Db.exists_toTables ((db.constraints.upsertDevice_iff _).mpr
        (resolvedRow_macFree db inp.event inp.macHint inp.deviceUuid))
      have hresolve : resolveDeviceId db inp.event inp.macHint inp.deviceUuid = .ok (_, db₁) :=
        resolveDeviceId_eq_ok_iff.mpr ⟨hfits, fun _ => hfresh, rfl, hdb₁⟩
      rw [IngestInput.macHint] at hresolve
      unfold processDiscoveryEvent
      simp only [hsrc, List.isEmpty_iff, if_false, pure_eq_ok, hresolve, ok_bind]
      refine (upsertServiceKeys_failsOnly _ _ _).bind fun _ _ => ?_
      refine (attachMacIfNeeded_failsOnly _ _ _ _).bind fun _ _ => ?_
      refine (write_failsOnly _).bind fun _ _ => ?_
      exact (applyPolicyAlerts_failsOnly _ _ _ _ _).bind fun _ _ => .ok _
    rw [and_iff_right hfits]
    constructor
    · intro herror hmac
      obtain ⟨db', hrun, -⟩ := exists_processDiscoveryEvent rt
        (⟨hsrc, hfits, fun _ => hfresh, hmac⟩ : Acceptable db inp)
      rw [hrun] at herror
      exact absurd herror (by simp)
    · intro hmac
      cases hrun : processDiscoveryEvent rt db inp with
      | error e => rw [hfails e hrun]
      | ok result => exact absurd (processDiscoveryEvent_eq_ok_iff.mp hrun).1.mac hmac
  · refine iff_of_false (fun herror => ?_) fun h => hfits h.1
    unfold processDiscoveryEvent at herror
    simp [hsrc, List.isEmpty_iff, resolveDeviceId_of_not_fits hfits] at herror

/-! ## Which address is taken -/

theorem resolvedRow_mac_eq_none_iff {db : Db} {event : DiscoveryEventIn} {macHint : Option Mac}
    {deviceUuid : Uuid} :
    (resolvedRow db event macHint deviceUuid).mac = none ↔
      macHint = none ∧ ∀ row, LastSeenAt db event.srcIp row → row.mac = none := by
  simp only [← findDeviceBySrcIp_eq_some_iff]
  unfold resolvedRow
  cases hres : resolution db event macHint with
  | byMac row =>
      obtain ⟨-, hne, heq⟩ := resolution_eq_byMac hres
      refine iff_of_false hne fun h => hne ?_
      rw [heq, h.1]
  | bySrcIp row =>
      rw [(resolution_eq_bySrcIp hres).1]
      simp [DeviceRow.seenBySrcIp, and_comm]
  | fresh =>
      have hnone : findDeviceBySrcIp db event.srcIp = none := by
        by_contra hfound
        obtain ⟨row, hrow⟩ := Option.ne_none_iff_exists'.mp hfound
        obtain ⟨hmem, hsrc⟩ := findDeviceBySrcIp_eq_some hrow
        exact (resolution_eq_fresh hres).1 row hmem hsrc
      simp [hnone, DeviceRow.ofEvent]

/-- The stored row of a device that is resolved without an address has none. -/
theorem mac_eq_none_of_resolvedRow {db : Db} {event : DiscoveryEventIn} {macHint : Option Mac}
    {deviceUuid : Uuid} (hfresh : deviceUuid ∉ db.deviceIds)
    (h : (resolvedRow db event macHint deviceUuid).mac = none) {row : DeviceRow}
    (hrow : row ∈ db.devices)
    (hid : row.deviceId = (resolvedRow db event macHint deviceUuid).deviceId) : row.mac = none := by
  obtain ⟨-, hsource⟩ := resolvedRow_mac_eq_none_iff.mp h
  unfold resolvedRow at h hid
  cases hres : resolution db event macHint with
  | byMac found =>
      rw [hres] at h
      exact absurd h (resolution_eq_byMac hres).2.1
  | bySrcIp found =>
      rw [hres] at hid
      obtain ⟨hfound, -⟩ := resolution_eq_bySrcIp hres
      rw [Table.eq_of_key_eq db.constraints.deviceKeys hrow (findDeviceBySrcIp_eq_some hfound).1 hid]
      exact hsource found (findDeviceBySrcIp_eq_some_iff.mp hfound)
  | fresh =>
      rw [hres] at hid
      have hnew : row.deviceId = deviceUuid := hid
      exact absurd (hnew ▸ List.mem_map_of_mem hrow) hfresh

theorem lateAddressTaken_iff {db : Db} {inp : IngestInput} (hfresh : inp.deviceUuid ∉ db.deviceIds) :
    LateAddressTaken db inp ↔
      FitsInteger (eventSeenMs inp.event) ∧
        ¬ db.MacFree (observedRow db inp).deviceId (observedRow db inp).mac := by
  have hdevice : (observedRow db inp).mac =
      (resolvedRow db inp.event inp.macHint inp.deviceUuid).mac.or inp.attachedMac := rfl
  rw [hdevice, ← resolvedRow_deviceId]
  cases hmac : (resolvedRow db inp.event inp.macHint inp.deviceUuid).mac with
  | some mac =>
      -- attribution has seen to it that the address is free
      have hfree := resolvedRow_macFree db inp.event inp.macHint inp.deviceUuid
      rw [hmac] at hfree
      refine iff_of_false (fun hlate => ?_) fun h => h.2 hfree
      have hhint : inp.macHint = none := by
        rw [IngestInput.macHint, resolveMacHint, macOrLookup, hlate.eventMac]
        exact hlate.hintLookup
      rw [resolvedRow_mac_eq_none_iff.mpr ⟨hhint, hlate.source⟩] at hmac
      exact absurd hmac (by simp)
  | none =>
      obtain ⟨hhint, hsource⟩ := resolvedRow_mac_eq_none_iff.mp hmac
      rw [Option.none_or]
      rw [IngestInput.macHint, resolveMacHint, macOrLookup] at hhint
      rw [IngestInput.attachedMac, macOrLookup]
      cases htext : truthy inp.event.mac with
      | some text =>
          -- an address that is not valid is not valid the second time either
          rw [htext] at hhint
          dsimp only at hhint ⊢
          rw [hhint]
          refine iff_of_false (fun hlate => ?_) fun h => h.2 (db.macFree_none _)
          rw [hlate.eventMac] at htext
          exact absurd htext (by simp)
      | none =>
          rw [htext] at hhint
          dsimp only at hhint ⊢
          constructor
          · intro hlate
            refine ⟨hlate.seenMs, fun hfree => ?_⟩
            obtain ⟨row, hrow, hne, heq⟩ := hlate.taken
            exact hne (mac_eq_none_of_resolvedRow hfresh hmac hrow
              (hfree row hrow (heq ▸ hne) heq))
          · rintro ⟨hfits, htaken⟩
            rw [Tables.MacFree] at htaken
            push Not at htaken
            obtain ⟨row, hrow, hne, heq, -⟩ := htaken
            exact ⟨hfits, htext, hhint, hsource, row, hrow, heq ▸ hne, heq⟩

/-- **What an ingest cannot store.**  Under a fresh identifier an event with a source is
refused by a constraint of the tables exactly if the address that comes late is taken. -/
theorem breaksConstraint_iff_lateAddressTaken (rt : PyRuntime) (db : Db) (inp : IngestInput)
    (hsrc : inp.event.srcIp ≠ []) (hfresh : inp.deviceUuid ∉ db.deviceIds) :
    processDiscoveryEvent rt db inp ≠ .error .integrityError ↔ ¬ LateAddressTaken db inp := by
  rw [ne_eq, processDiscoveryEvent_integrityError_iff hsrc hfresh, lateAddressTaken_iff hfresh]

/-! ### A device that changes its source between two answers -/

/-- A device that is known by its address. -/
def knownByMac : Db :=
  runOperation sampleRuntime Db.empty
    (.ingest (sampleInput "192.168.1.10" (some "aa:aa:aa:aa:aa:aa")
      [sampleRecord "A" "tv.local" (some "tv.local") 1000] 1000 0))

/-- An event of the device from a new source, for which the neighbour table has the given
answers. -/
def movedInput (hintLookup attachLookup : Option Mac) : IngestInput :=
  { sampleInput "192.168.1.77" none [sampleRecord "A" "tv.local" (some "tv.local") 2000] 2000 1 with
    hintLookup, attachLookup }

theorem isCanonicalMac_known : IsCanonicalMac (str "AA:AA:AA:AA:AA:AA") := by
  decide +kernel

/-- The address of the device. -/
def knownMac : Mac :=
  ⟨str "AA:AA:AA:AA:AA:AA", isCanonicalMac_known⟩

/-- An answer that comes in time finds the device. -/
theorem movedInput_stored :
    processDiscoveryEvent sampleRuntime knownByMac (movedInput (some knownMac) (some knownMac)) ≠
      .error .integrityError := by
  refine (breaksConstraint_iff_lateAddressTaken sampleRuntime knownByMac _ ?_ ?_).mpr fun h => ?_
  · decide
  · decide +kernel
  · exact absurd h.hintLookup (by simp [movedInput])

/-- An answer that comes late is refused by the index on the addresses. -/
theorem movedInput_refused :
    ¬ ∀ rt db, Reachable rt db → ∀ inp : IngestInput, inp.event.srcIp ≠ [] →
      inp.deviceUuid ∉ db.deviceIds →
        processDiscoveryEvent rt db inp ≠ .error .integrityError := by
  intro h
  refine h sampleRuntime knownByMac ((Reachable.empty sampleRuntime).run _)
    (movedInput none (some knownMac)) ?_ ?_ ?_
  · decide
  · decide +kernel
  · decide +kernel

end Api
end LanDiscovery

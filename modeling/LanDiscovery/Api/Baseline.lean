import LanDiscovery.Api.Service
import Mathlib.Logic.Equiv.List

/-!
# Mismatches against the baseline in force

An approved device whose host or service types differ from its baseline is to be
found in the alerts, with an alert as recent as the baseline.  Alerts carry a key
for the device and the observed state and are never raised again under the same
key, while the baseline may be captured any number of times, so an alert from
before the last approval can stand in the way of the one that is due.
`reported_iff_no_staleAlert` is this condition for whole runs.
-/

namespace LanDiscovery
namespace Api

open Library Library.Preference Library.Transition MdnsNames

/-- The alert is a mismatch of the device in the given state, and in no other. -/
def AlertRow.Reports (rt : PyRuntime) (alert : AlertRow) (deviceId : Uuid) (host : Option Str)
    (services : List Str) : Prop :=
  alert.deviceId = deviceId ∧ alert.alertType = .baselineMismatch ∧
    ∀ host' services',
      alert.dedupeKey = mismatchKey deviceId (diffFingerprint rt host' services') ↔
        SameState host' services' host services

/-- The device is approved with the baseline, and in another state. -/
structure Mismatch (t : Tables) (row : DeviceRow) (baseline : BaselineRow) : Prop where
  stored : row ∈ t.devices
  approved : row.status = .approved
  captured : baseline ∈ t.deviceBaselines
  sameDevice : baseline.deviceId = row.deviceId
  differs : ¬ SameState row.mdnsHost (t.serviceKeysOf row.deviceId) baseline.mdnsHost
    baseline.servicesJson

/-- Each mismatch has an alert that is not older than the baseline. -/
def MismatchesReported (rt : PyRuntime) (t : Tables) : Prop :=
  ∀ row baseline, Mismatch t row baseline →
    ∃ alert ∈ t.alerts, alert.Reports rt row.deviceId row.mdnsHost (t.serviceKeysOf row.deviceId) ∧
      baseline.capturedAtMs ≤ alert.observedAtMs

/-- The event is for an approved device and brings it to a state other than its
baseline, for which there is an alert from before the baseline was captured. -/
def StaleAlert (rt : PyRuntime) (db : Db) (inp : IngestInput) : Prop :=
  Acceptable db inp ∧
  ∃ row host services, (resolution db inp.event inp.macHint).device = some row ∧
    row.status = .approved ∧
    host = (resolution db inp.event inp.macHint).mergedHost inp.event ∧
    services = db.serviceKeysWith row.deviceId (serviceTypesFromRecords inp.event.records) ∧
    ∃ baseline ∈ db.deviceBaselines, baseline.deviceId = row.deviceId ∧
      ¬ SameState host services baseline.mdnsHost baseline.servicesJson ∧
      ∃ alert ∈ db.alerts,
        alert.dedupeKey = mismatchKey row.deviceId (diffFingerprint rt host services) ∧
        alert.observedAtMs < baseline.capturedAtMs

/-! ## The invariant -/

/-- What holds along a run until the given time: baselines were captured before,
keys of mismatches belong to mismatches, and a device whose baseline has an
identity has one. -/
structure Accounted (t : Tables) (nowMs : Int) : Prop where
  captured : ∀ baseline ∈ t.deviceBaselines, baseline.capturedAtMs ≤ nowMs
  keys : ∀ alert ∈ t.alerts, ∀ deviceId fingerprint,
    alert.dedupeKey = mismatchKey deviceId fingerprint →
      alert.deviceId = deviceId ∧ alert.alertType = .baselineMismatch
  identity : ∀ row ∈ t.devices, ∀ baseline ∈ t.deviceBaselines,
    baseline.deviceId = row.deviceId →
      hasMeaningfulIdentity baseline.mdnsHost baseline.servicesJson →
        hasMeaningfulIdentity row.mdnsHost (t.serviceKeysOf row.deviceId)

theorem Accounted.empty (nowMs : Int) : Accounted Db.empty.toTables nowMs where
  captured := by simp [Db.empty]
  keys := by simp [Db.empty]
  identity := by simp [Db.empty]

theorem Accounted.mono {t : Tables} {nowMs laterMs : Int} (h : Accounted t nowMs)
    (hle : nowMs ≤ laterMs) : Accounted t laterMs where
  captured := fun baseline hbaseline => (h.captured baseline hbaseline).trans hle
  keys := h.keys
  identity := h.identity

/-- An identity is not forgotten. -/
theorem identity_observedRow (rt : PyRuntime) {db : Db} {inp : IngestInput} {row : DeviceRow}
    (h : (resolution db inp.event inp.macHint).device = some row)
    (hidentity : hasMeaningfulIdentity row.mdnsHost (db.serviceKeysOf row.deviceId)) :
    hasMeaningfulIdentity (observedRow db inp).mdnsHost
      ((ingested rt db inp).serviceKeysOf (observedRow db inp).deviceId) := by
  rw [serviceKeysOf_ingested_self, observedRow_mdnsHost, (observedRow_of_device h).2.1]
  unfold hasMeaningfulIdentity at hidentity ⊢
  rw [Bool.or_eq_true] at hidentity ⊢
  rcases hidentity with hhost | hservices
  · exact Or.inl (truthy_mergedHost_isSome h hhost)
  · right
    simp only [Bool.not_eq_true', List.isEmpty_eq_false_iff] at hservices ⊢
    exact List.append_ne_nil_of_left_ne_nil hservices _

theorem accounted_ingested {rt : PyRuntime} {db : Db} {inp : IngestInput} {nowMs : Int}
    (h : Accounted db.toTables nowMs) (hok : Acceptable db inp) :
    Accounted (ingested rt db inp) nowMs where
  captured := h.captured
  keys := by
    intro alert halert deviceId fingerprint hkey
    rcases List.mem_append.mp halert with hold | hnew
    · exact h.keys alert hold deviceId fingerprint hkey
    · unfold newAlerts at hnew
      split at hnew
      · exact absurd hnew (by simp)
      · next found hfound =>
          unfold Tables.newAlertRows at hnew
          split at hnew
          · exact absurd hnew (by simp)
          · obtain rfl := List.mem_singleton.mp hnew
            exact policyAlert_eq_some hfound hkey
  identity := by
    intro row hrow baseline hbaseline hid hmeaningful
    rcases mem_devices_ingested.mp hrow with rfl | ⟨hold, hne⟩
    · -- a baseline belongs to a device that was there before
      cases hdevice : (resolution db inp.event inp.macHint).device with
      | none =>
          have href := db.constraints.baselineRefs baseline hbaseline
          rw [hid] at href
          exact absurd href (observedRow_of_device_none hdevice hok).1
      | some row =>
          obtain ⟨hrow, hsame, -⟩ := observedRow_of_device hdevice
          have hidentity := h.identity row hrow baseline hbaseline (hid.trans hsame) hmeaningful
          exact identity_observedRow rt hdevice hidentity
    · rw [serviceKeysOf_ingested_of_ne rt db inp hne]
      exact h.identity row hold baseline hbaseline hid hmeaningful

theorem accounted_approved {db : Db} {row : DeviceRow} (displayName : Option Str) {nowMs : Int}
    (h : Accounted db.toTables nowMs) :
    Accounted (approved db.toTables row displayName nowMs) nowMs where
  captured := by
    intro baseline hbaseline
    rcases Table.mem_upsert.mp hbaseline with rfl | ⟨hold, -⟩
    · exact le_refl nowMs
    · exact h.captured baseline hold
  keys := h.keys
  identity := by
    intro r hr baseline hbaseline hid hmeaningful
    rcases Table.mem_upsert.mp hr with rfl | ⟨hold, hne⟩ <;>
      rcases Table.mem_upsert.mp hbaseline with rfl | ⟨hbase, hneBase⟩
    · rw [capturedBaseline, hasMeaningfulIdentity_sorted] at hmeaningful
      exact hmeaningful
    · exact absurd hid hneBase
    · exact absurd hid.symm hne
    · exact h.identity r hold baseline hbase hid hmeaningful

/-! ## One operation -/

/-- With an injective fingerprint the key names the state. -/
theorem reports_of_dedupeKey {rt : PyRuntime} (hdigest : Function.Injective rt.digest)
    {alert : AlertRow} {deviceId : Uuid} {host : Option Str} {services : List Str}
    (hdevice : alert.deviceId = deviceId) (htype : alert.alertType = .baselineMismatch)
    (hkey : alert.dedupeKey = mismatchKey deviceId (diffFingerprint rt host services)) :
    alert.Reports rt deviceId host services := by
  refine ⟨hdevice, htype, fun host' services' => ?_⟩
  rw [hkey, mismatchKey_inj, and_iff_right rfl, diffFingerprint_eq_iff hdigest]
  exact ⟨SameState.symm, SameState.symm⟩

/-- An approval settles the mismatch of its device and leaves the others. -/
theorem mismatchesReported_approved {rt : PyRuntime} {db : Db} {row : DeviceRow}
    {displayName : Option Str} {nowMs : Int} (h : MismatchesReported rt db.toTables) :
    MismatchesReported rt (approved db.toTables row displayName nowMs) := by
  intro r baseline hmismatch
  rcases Table.mem_upsert.mp hmismatch.stored with rfl | ⟨hold, hne⟩ <;>
    rcases Table.mem_upsert.mp hmismatch.captured with rfl | ⟨hbase, hneBase⟩
  · exact absurd ⟨rfl, (sorted_perm _).symm⟩ hmismatch.differs
  · exact absurd hmismatch.sameDevice hneBase
  · exact absurd hmismatch.sameDevice.symm hne
  · exact h r baseline ⟨hold, hmismatch.approved, hbase, hmismatch.sameDevice, hmismatch.differs⟩

section

variable {rt : PyRuntime} {db : Db} {inp : IngestInput}

/-- The device of an event, approved and in a state other than its baseline, is a
finding of the policy under the key of that state. -/
theorem policyFinding_of_mismatch {baseline : BaselineRow} (hok : Acceptable db inp)
    (hfacts : Accounted db.toTables inp.receivedMs)
    (hmismatch : Mismatch (ingested rt db inp) (observedRow db inp) baseline) :
    ∃ alert, policyFinding rt (observedTables db inp) (observedRow db inp) = some alert ∧
      alert.alertType = .baselineMismatch ∧
      alert.dedupeKey = mismatchKey (observedRow db inp).deviceId
        (diffFingerprint rt (observedRow db inp).mdnsHost
          ((ingested rt db inp).serviceKeysOf (observedRow db inp).deviceId)) := by
  obtain ⟨hstored, happroved, hcaptured, hsame, hdiffers⟩ := hmismatch
  have hbaseline : Table.lookup BaselineRow.deviceId (observedRow db inp).deviceId
      db.deviceBaselines = some baseline := by
    rw [← hsame]
    exact Table.lookup_of_mem db.constraints.baselineKeys hcaptured
  have hidentity : hasMeaningfulIdentity (observedRow db inp).mdnsHost
      ((ingested rt db inp).serviceKeysOf (observedRow db inp).deviceId) := by
    -- otherwise the baseline would have no identity either, and there is one such state
    by_contra hnone
    refine hdiffers (sameState_of_not_meaningful hnone fun hmeaningful => hnone ?_)
    exact (accounted_ingested hfacts hok).identity _ hstored baseline hcaptured hsame hmeaningful
  have hdiffers' : ¬ SameState (policyState (ingested rt db inp) (observedRow db inp)).mdnsHost
      (policyState (ingested rt db inp) (observedRow db inp)).services
      baseline.state.mdnsHost baseline.state.services := by
    intro hstate
    have hperm := (sorted_perm _).symm.trans (hstate.2.trans (sorted_perm _))
    exact hdiffers ⟨hstate.1, hperm⟩
  rw [← hasMeaningfulIdentity_sorted] at hidentity
  refine ⟨mismatchAlert rt (policyState (ingested rt db inp) (observedRow db inp)) baseline.state,
    ?_, rfl, ?_⟩
  · rw [policyFinding]
    change policyAlert rt _ ((Table.lookup BaselineRow.deviceId (observedRow db inp).deviceId
      db.deviceBaselines).map BaselineRow.state) = _
    rw [hbaseline]
    exact policyAlert_of_mismatch hidentity happroved hdiffers'
  · simp only [mismatchAlert, policyState, diffFingerprint, sorted_sorted]

/-- The alert for the state of an event is recent enough afterwards unless there was
one before the baseline was captured. -/
theorem reported_observed_iff (hdigest : Function.Injective rt.digest) {baseline : BaselineRow}
    (hok : Acceptable db inp) (hfacts : Accounted db.toTables inp.receivedMs)
    (halert : inp.alertUuid 0 ∉ db.alerts.map AlertRow.alertId)
    (hmismatch : Mismatch (ingested rt db inp) (observedRow db inp) baseline) :
    (∃ alert ∈ (ingested rt db inp).alerts,
        alert.Reports rt (observedRow db inp).deviceId (observedRow db inp).mdnsHost
          ((ingested rt db inp).serviceKeysOf (observedRow db inp).deviceId) ∧
        baseline.capturedAtMs ≤ alert.observedAtMs) ↔
      ¬ ∃ alert ∈ db.alerts,
        alert.dedupeKey = mismatchKey (observedRow db inp).deviceId
          (diffFingerprint rt (observedRow db inp).mdnsHost
            ((ingested rt db inp).serviceKeysOf (observedRow db inp).deviceId)) ∧
        alert.observedAtMs < baseline.capturedAtMs := by
  obtain ⟨found, hfound, htype, hkey⟩ := policyFinding_of_mismatch hok hfacts hmismatch
  have hnew : newAlerts rt db inp =
      db.newAlertRows (alertRow inp (observedRow db inp).deviceId found) := by
    rw [newAlerts, hfound]
  constructor
  · rintro ⟨alert, hmem, hreports, hrecent⟩ ⟨old, hold, holdKey, hstale⟩
    -- one key, one alert
    have hsameKey : alert.dedupeKey = old.dedupeKey :=
      ((hreports.2.2 _ _).mpr (SameState.refl _ _)).trans holdKey.symm
    obtain rfl := Table.eq_of_key_eq (constraints_ingested rt hok).dedupeKeys hmem
      (List.mem_append_left _ hold) hsameKey
    omega
  · intro hno
    -- an alert that has the key already is not stale; without one there is a new alert
    by_cases htaken : found.dedupeKey ∈ db.alerts.map AlertRow.dedupeKey
    · obtain ⟨old, hold, holdKey⟩ := List.mem_map.mp htaken
      have holdKey' := holdKey.trans hkey
      obtain ⟨hdevice, hmismatchType⟩ := hfacts.keys old hold _ _ holdKey'
      have hrecent : baseline.capturedAtMs ≤ old.observedAtMs := by
        by_contra hstale
        exact hno ⟨old, hold, holdKey', by omega⟩
      exact ⟨old, List.mem_append_left _ hold,
        reports_of_dedupeKey hdigest hdevice hmismatchType holdKey', hrecent⟩
    · refine ⟨alertRow inp (observedRow db inp).deviceId found, ?_,
        reports_of_dedupeKey hdigest rfl htype hkey, hfacts.captured baseline hmismatch.captured⟩
      refine List.mem_append_right _ ?_
      rw [hnew, newAlertRows_of_notMem halert htaken]
      exact List.mem_singleton_self _

/-- The mismatch that an event leads to, in terms of the state before. -/
theorem staleAlert_iff (hok : Acceptable db inp) :
    StaleAlert rt db inp ↔
      ∃ baseline, Mismatch (ingested rt db inp) (observedRow db inp) baseline ∧
        ∃ alert ∈ db.alerts,
          alert.dedupeKey = mismatchKey (observedRow db inp).deviceId
            (diffFingerprint rt (observedRow db inp).mdnsHost
              ((ingested rt db inp).serviceKeysOf (observedRow db inp).deviceId)) ∧
          alert.observedAtMs < baseline.capturedAtMs := by
  have hstored : observedRow db inp ∈ (ingested rt db inp).devices :=
    mem_devices_ingested.mpr (Or.inl rfl)
  constructor
  · rintro ⟨-, row, host, services, hdevice, happroved, rfl, rfl, baseline, hbaseline, hsame,
      hdiffers, halert⟩
    obtain ⟨-, hid, hstatus⟩ := observedRow_of_device hdevice
    rw [← observedRow_mdnsHost, ← hid, ← serviceKeysOf_ingested_self rt] at hdiffers halert
    exact ⟨baseline, ⟨hstored, hstatus.trans happroved, hbaseline, hsame.trans hid.symm, hdiffers⟩,
      halert⟩
  · rintro ⟨baseline, ⟨-, happroved, hbaseline, hsame, hdiffers⟩, halert⟩
    cases hdevice : (resolution db inp.event inp.macHint).device with
    | none =>
        rw [(observedRow_of_device_none hdevice hok).2] at happroved
        exact absurd happroved (by simp)
    | some row =>
        obtain ⟨-, hid, hstatus⟩ := observedRow_of_device hdevice
        rw [serviceKeysOf_ingested_self, observedRow_mdnsHost, hid] at hdiffers halert
        exact ⟨hok, row, _, _, hdevice, hstatus.symm.trans happroved, rfl, rfl, baseline, hbaseline,
          hsame.trans hid, hdiffers, halert⟩

/-- **The step lemma.**  An event that is ingested leaves each mismatch reported
unless there is a stale alert for it. -/
theorem mismatchesReported_ingested_iff (hdigest : Function.Injective rt.digest)
    (hok : Acceptable db inp) (hfacts : Accounted db.toTables inp.receivedMs)
    (halert : inp.alertUuid 0 ∉ db.alerts.map AlertRow.alertId)
    (hreported : MismatchesReported rt db.toTables) :
    MismatchesReported rt (ingested rt db inp) ↔ ¬ StaleAlert rt db inp := by
  rw [staleAlert_iff hok]
  constructor
  · rintro h ⟨baseline, hmismatch, hstale⟩
    exact (reported_observed_iff hdigest hok hfacts halert hmismatch).mp
      (h _ baseline hmismatch) hstale
  · intro hno row baseline hmismatch
    rcases mem_devices_ingested.mp hmismatch.stored with rfl | ⟨hold, hne⟩
    · exact (reported_observed_iff hdigest hok hfacts halert hmismatch).mpr
        fun hstale => hno ⟨baseline, hmismatch, hstale⟩
    · -- the other devices are as they were
      have hdiffers := hmismatch.differs
      rw [serviceKeysOf_ingested_of_ne rt db inp hne] at hdiffers ⊢
      obtain ⟨alert, hmem, hreports⟩ := hreported row baseline
        ⟨hold, hmismatch.approved, hmismatch.captured, hmismatch.sameDevice, hdiffers⟩
      exact ⟨alert, List.mem_append_left _ hmem, hreports⟩

end

/-! ## Whole runs -/

/-- An operation on a database, with the time of the last one. -/
def timedStep (rt : PyRuntime) (s : Db × Int) (op : Operation) : Db × Int :=
  (runOperation rt s.1 op, op.timeMs)

/-- The clock has not gone back, and the identifier of an alert is new. -/
def TimedOperation (s : Db × Int) (op : Operation) : Prop :=
  s.2 ≤ op.timeMs ∧
    match op with
    | .ingest inp => inp.alertUuid 0 ∉ s.1.alerts.map AlertRow.alertId
    | .approve _ _ _ => True

instance (s : Db × Int) : (op : Operation) → Decidable (TimedOperation s op)
  | .ingest _ => inferInstanceAs (Decidable (_ ∧ _))
  | .approve _ _ _ => inferInstanceAs (Decidable (_ ∧ True))

/-- After the ingest of an event each mismatch is reported. -/
def ReportedAfter (rt : PyRuntime) (s : Db × Int) : Operation → Prop
  | .ingest inp => MismatchesReported rt (runOperation rt s.1 (.ingest inp)).toTables
  | .approve _ _ _ => True

/-- No event meets a stale alert. -/
def NoStaleAlert (rt : PyRuntime) (s : Db × Int) : Operation → Prop
  | .ingest inp => ¬ StaleAlert rt s.1 inp
  | .approve _ _ _ => True

/-- What holds between the operations of a run in which mismatches are reported. -/
def Settled (rt : PyRuntime) (s : Db × Int) : Prop :=
  Accounted s.1.toTables s.2 ∧ MismatchesReported rt s.1.toTables

theorem Settled.empty (rt : PyRuntime) (startMs : Int) : Settled rt (Db.empty, startMs) := by
  refine ⟨.empty startMs, fun row baseline hmismatch => ?_⟩
  exact absurd hmismatch.stored (by simp [Db.empty])

theorem accounted_timedStep {rt : PyRuntime} {s : Db × Int} {op : Operation}
    (h : Accounted s.1.toTables s.2) (hop : TimedOperation s op) :
    Accounted (timedStep rt s op).1.toTables (timedStep rt s op).2 := by
  refine runOperation_preserves (I := fun t => Accounted t op.timeMs) ?_ ?_ (h.mono hop.1)
  · exact fun inp _ hok => accounted_ingested (h.mono hop.1) hok
  · rintro row - displayName nowMs rfl
    exact accounted_approved displayName (h.mono hop.1)

theorem settled_timedStep {rt : PyRuntime} {s : Db × Int} {op : Operation} (h : Settled rt s)
    (hop : TimedOperation s op) (hreported : ReportedAfter rt s op) :
    Settled rt (timedStep rt s op) := by
  refine ⟨accounted_timedStep h.1 hop, ?_⟩
  cases op with
  | ingest inp => exact hreported
  | approve deviceId displayName nowMs =>
      refine runOperation_preserves (I := MismatchesReported rt) ?_ ?_ h.2
      · exact fun inp hinp => absurd hinp (by simp)
      · exact fun row _ displayName nowMs _ => mismatchesReported_approved h.2

theorem reportedAfter_iff {rt : PyRuntime} (hdigest : Function.Injective rt.digest)
    {s : Db × Int} {op : Operation} (h : Settled rt s) (hop : TimedOperation s op) :
    ReportedAfter rt s op ↔ NoStaleAlert rt s op := by
  cases op with
  | approve deviceId displayName nowMs => exact Iff.rfl
  | ingest inp =>
      change MismatchesReported rt (runOperation rt s.1 (.ingest inp)).toTables ↔
        ¬ StaleAlert rt s.1 inp
      by_cases hok : Acceptable s.1 inp
      · obtain ⟨db', hrun, hdb'⟩ := exists_processDiscoveryEvent rt hok
        rw [runOperation_ingest_of_ok hrun, hdb']
        exact mismatchesReported_ingested_iff hdigest hok (h.1.mono hop.1) hop.2 h.2
      · rw [runOperation_ingest_of_not_acceptable hok]
        exact iff_of_true h.2 fun hstale => hok hstale.1

/-- **Mismatches against the baseline in force.**  In every run of ingests and
approvals from the empty database, with a clock that does not go back, new
identifiers and an injective fingerprint: after each ingest every approved device
that differs from its baseline has an alert for its state that is not older than
the baseline, exactly when no event of the run meets a stale alert. -/
theorem reported_iff_no_staleAlert (rt : PyRuntime) (hdigest : Function.Injective rt.digest)
    (startMs : Int) (ops : List Operation)
    (hops : EveryStep (timedStep rt) TimedOperation (Db.empty, startMs) ops) :
    EveryStep (timedStep rt) (ReportedAfter rt) (Db.empty, startMs) ops ↔
      EveryStep (timedStep rt) (NoStaleAlert rt) (Db.empty, startMs) ops :=
  EveryStep.congr (I := Settled rt) (fun _ _ h hop hreported => settled_timedStep h hop hreported)
    (fun _ _ h hop => reportedAfter_iff hdigest h hop) hops (Settled.empty rt startMs)

/-! ### A device that is renamed and approved again -/

/-- The fingerprints of the states below, as the source computes them. -/
def knownFingerprints : List ((Str × List Str) × Str) :=
  [((str "tv.local", [str "_airplay._tcp.local"]), str "b012799ead31d606"),
    ((str "pc.local", [str "_airplay._tcp.local"]), str "10d2bf7f05b8e68b")]

/-- The number of a payload. -/
def payloadNumber (payload : Str × List Str) : Nat :=
  Encodable.encode (payload.1.map Char.toNat, payload.2.map (List.map Char.toNat))

/-- A fingerprint without collisions that has the known values. -/
def injectiveFingerprint (payload : Str × List Str) : Str :=
  match knownFingerprints.lookup payload with
  | some fingerprint => fingerprint
  | none => '#' :: List.replicate (payloadNumber payload) '0'

theorem payloadNumber_injective : Function.Injective payloadNumber := by
  have hchar : Function.Injective Char.toNat := fun c d h => Char.ext (UInt32.toNat_inj.mp h)
  have htext := List.map_injective_iff.mpr hchar
  exact Encodable.encode_injective.comp (htext.prodMap (List.map_injective_iff.mpr htext))

theorem injectiveFingerprint_injective : Function.Injective injectiveFingerprint := by
  have hmem : ∀ {payload fingerprint}, knownFingerprints.lookup payload = some fingerprint →
      (payload, fingerprint) ∈ knownFingerprints := by
    intro payload fingerprint h
    obtain ⟨before, after, hsplit, -⟩ := List.lookup_eq_some_iff.mp h
    simp [hsplit]
  have hknown : ∀ p ∈ knownFingerprints, p.2.head? ≠ some '#' := by decide
  have hdistinct : ∀ p ∈ knownFingerprints, ∀ q ∈ knownFingerprints, p.2 = q.2 → p.1 = q.1 := by
    decide
  intro p q h
  -- the known values do not start with the mark of the others
  unfold injectiveFingerprint at h
  cases hp : knownFingerprints.lookup p with
  | none =>
      cases hq : knownFingerprints.lookup q with
      | none =>
          simp only [hp, hq, List.cons.injEq, true_and] at h
          exact payloadNumber_injective (List.replicate_inj.mp h).1
      | some fingerprint =>
          simp only [hp, hq] at h
          exact absurd (congrArg List.head? h.symm) (hknown _ (hmem hq))
  | some fingerprint =>
      cases hq : knownFingerprints.lookup q with
      | none =>
          simp only [hp, hq] at h
          exact absurd (congrArg List.head? h) (hknown _ (hmem hp))
      | some fingerprint' =>
          simp only [hp, hq] at h
          exact hdistinct _ (hmem hp) _ (hmem hq) h

/-- The Python library for the states below. -/
def fingerprintRuntime : PyRuntime where
  digest := injectiveFingerprint
  repr := fun s => str "'" ++ s ++ str "'"

/-- The device offers its service from a host. -/
def serviceFrom (host : String) (nowMs : Int) (n : Nat) : Operation :=
  .ingest (sampleInput "192.168.1.10" none
    [{ sampleRecord "SRV" "TV._airplay._tcp.local" (some host) nowMs with
       type := 33
       rdataText := str "priority=0 weight=0 port=7000 target=" ++ str host
       service := some (str "TV._airplay._tcp.local") }] nowMs n)

/-- The device is approved as it is. -/
def approveAt (nowMs : Int) : Operation :=
  .approve (sampleUuid 0) none nowMs

/-- A renamed device is reported. -/
theorem renamedDevice_reported :
    EveryStep (timedStep fingerprintRuntime) (ReportedAfter fingerprintRuntime) (Db.empty, 0)
      [serviceFrom "tv.local" 1000 0, approveAt 2000, serviceFrom "pc.local" 3000 1] := by
  refine (reported_iff_no_staleAlert fingerprintRuntime injectiveFingerprint_injective 0 _
    (by decide +kernel)).mpr ⟨?_, trivial, ?_, trivial⟩
  · rintro ⟨-, row, host, services, -, -, -, -, baseline, hbaseline, -⟩
    exact absurd hbaseline (by simp [Db.empty])
  · -- the only alert so far is the one for an unknown device
    rintro ⟨-, row, host, services, -, -, -, -, baseline, -, -, -, alert, halert, hkey, -⟩
    have hunknown : ∀ alert ∈ ([serviceFrom "tv.local" 1000 0, approveAt 2000].foldl
        (timedStep fingerprintRuntime) (Db.empty, 0)).1.alerts,
          alert.dedupeKey = unknownKey (sampleUuid 0) := by
      decide +kernel
    exact unknownKey_ne_mismatchKey _ _ _ ((hunknown alert halert).symm.trans hkey)

/-- The device is renamed, approved under the new name, renamed back and approved
again. -/
def renamedTwice : List Operation :=
  [serviceFrom "tv.local" 1000 0, approveAt 2000, serviceFrom "pc.local" 3000 1, approveAt 4000,
    serviceFrom "tv.local" 5000 2, approveAt 6000]

/-- The database after the last approval and the new name. -/
def renamedAgain : Db :=
  (timedStep fingerprintRuntime (renamedTwice.foldl (timedStep fingerprintRuntime) (Db.empty, 0))
    (serviceFrom "pc.local" 7000 3)).1

/-- When the device takes the new name for the second time, no alert is raised. -/
theorem secondRename_swallowed :
    ¬ ∀ rt, Function.Injective rt.digest → ∀ startMs ops,
      EveryStep (timedStep rt) TimedOperation (Db.empty, startMs) ops →
        EveryStep (timedStep rt) (ReportedAfter rt) (Db.empty, startMs) ops := by
  intro h
  have hrun := h fingerprintRuntime injectiveFingerprint_injective 0
    (renamedTwice ++ [serviceFrom "pc.local" 7000 3]) (by decide +kernel)
  have hreported : MismatchesReported fingerprintRuntime renamedAgain.toTables :=
    (everyStep_append.mp hrun).2.1
  have hmismatch : ∃ row ∈ renamedAgain.devices, ∃ baseline ∈ renamedAgain.deviceBaselines,
      row.status = .approved ∧ baseline.deviceId = row.deviceId ∧
        ¬ SameState row.mdnsHost (renamedAgain.serviceKeysOf row.deviceId) baseline.mdnsHost
          baseline.servicesJson ∧
        ∀ alert ∈ renamedAgain.alerts,
          alert.dedupeKey = mismatchKey row.deviceId (diffFingerprint fingerprintRuntime
            row.mdnsHost (renamedAgain.serviceKeysOf row.deviceId)) →
            alert.observedAtMs < baseline.capturedAtMs := by
    decide +kernel
  obtain ⟨row, hrow, baseline, hbaseline, happroved, hsame, hdiffers, hstale⟩ := hmismatch
  obtain ⟨alert, halert, hreports, hrecent⟩ :=
    hreported row baseline ⟨hrow, happroved, hbaseline, hsame, hdiffers⟩
  have hold := hstale alert halert ((hreports.2.2 _ _).mpr (SameState.refl _ _))
  omega

end Api
end LanDiscovery

import LanDiscovery.Api.Approval
import LanDiscovery.Api.Baseline
import LanDiscovery.Library.FirstSeen
import Mathlib.Data.Set.Function

/-!
# The history of the alerts

Each ingest leaves its device in a state, which the policy compares with the
baseline in force.  `observations` lists these states along a run.  The table of
alerts is the list of what the policy finds in them, each finding at its first
occurrence (`Recorded`), so the alerts of a device say which states it was left in
(`alerts_are_history`).
-/

namespace LanDiscovery
namespace Api

open Library Library.Transition MdnsNames

/-! ## What a run leaves behind -/

/-- What an ingest leaves of its device, with the baseline in force. -/
structure Observation where
  device : DevicePolicyState
  baseline : Option BaselineState

/-- The observation of a device on given tables. -/
def Tables.observe (t : Tables) (row : DeviceRow) : Observation where
  device := policyState t row
  baseline :=
    (Table.lookup BaselineRow.deviceId row.deviceId t.deviceBaselines).map BaselineRow.state

/-- What an operation leaves to be observed: the device of an event that is ingested. -/
def observed (rt : PyRuntime) (db : Db) : Operation → Option Observation
  | .ingest inp =>
      match processDiscoveryEvent rt db inp with
      | .ok (deviceId, db') => (getDeviceRow db' deviceId).map db'.observe
      | .error _ => none
  | .approve _ _ _ => none

/-- The observations of a run, in order. -/
def observations (rt : PyRuntime) : Db → List Operation → List Observation
  | _, [] => []
  | db, op :: ops => (observed rt db op).toList ++ observations rt (runOperation rt db op) ops

/-- The device is left without approval, with a host or services. -/
def Observation.ShowsUnknown (o : Observation) (deviceId : Uuid) : Prop :=
  o.device.deviceId = deviceId ∧ o.device.status ≠ .approved ∧
    (o.device.mdnsHost.getD [] ≠ [] ∨ o.device.services ≠ [])

/-- The approved device is left with the host and the set of services, not those of
its baseline.  The set is listed in order, and a missing host is the empty one. -/
def Observation.Deviates (o : Observation) (deviceId : Uuid) (state : Str × List Str) : Prop :=
  o.device.deviceId = deviceId ∧ o.device.status = .approved ∧
    (o.device.mdnsHost.getD [], o.device.services) = state ∧
    ∃ baseline, o.baseline = some baseline ∧
      state ≠ (baseline.mdnsHost.getD [], baseline.services)

instance (o : Observation) (deviceId : Uuid) : Decidable (o.ShowsUnknown deviceId) :=
  inferInstanceAs (Decidable (_ ∧ _ ∧ _))

instance (o : Observation) (deviceId : Uuid) (state : Str × List Str) :
    Decidable (o.Deviates deviceId state) :=
  inferInstanceAs (Decidable (_ ∧ _ ∧ _ ∧ ∃ baseline ∈ o.baseline, _))

/-- The device that an operation works on. -/
def Operation.device (rt : PyRuntime) (db : Db) : Operation → Option Uuid
  | .ingest inp =>
      match processDiscoveryEvent rt db inp with
      | .ok (deviceId, _) => some deviceId
      | .error _ => none
  | .approve deviceId _ _ => some deviceId

/-- The alerts of a device of one type. -/
def Tables.alertsOfType (t : Tables) (deviceId : Uuid) (alertType : AlertType) : List AlertRow :=
  t.alerts.filter fun alert => alert.deviceId = deviceId ∧ alert.alertType = alertType

/-- The identifier of an alert is new. -/
def FreshAlert (db : Db) : Operation → Prop
  | .ingest inp => inp.alertUuid 0 ∉ db.alerts.map AlertRow.alertId
  | .approve _ _ _ => True

instance (db : Db) : (op : Operation) → Decidable (FreshAlert db op)
  | .ingest _ => inferInstanceAs (Decidable (_ ∉ _))
  | .approve _ _ _ => inferInstanceAs (Decidable True)

/-! ## Findings -/

/-- What an alert is about. -/
structure Finding where
  deviceId : Uuid
  alertType : AlertType
  dedupeKey : Str

/-- The finding that an alert records. -/
def AlertRow.finding (alert : AlertRow) : Finding :=
  ⟨alert.deviceId, alert.alertType, alert.dedupeKey⟩

/-- What the policy finds in an observation. -/
def Observation.finding (rt : PyRuntime) (o : Observation) : Option Finding :=
  (policyAlert rt o.device o.baseline).map fun alert =>
    ⟨o.device.deviceId, alert.alertType, alert.dedupeKey⟩

/-- A finding is determined by its key. -/
def Finding.Keyed (f : Finding) : Prop :=
  (f.alertType = .unknownDevice ∧ f.dedupeKey = unknownKey f.deviceId) ∨
    (f.alertType = .baselineMismatch ∧
      ∃ fingerprint, f.dedupeKey = mismatchKey f.deviceId fingerprint)

theorem Finding.Keyed.eq_of_dedupeKey {f g : Finding} (hf : f.Keyed) (hg : g.Keyed)
    (h : f.dedupeKey = g.dedupeKey) : f = g := by
  obtain ⟨deviceId, alertType, key⟩ := f
  obtain ⟨deviceId', alertType', key'⟩ := g
  obtain rfl : key = key' := h
  rcases hf with ⟨hfType, hfKey⟩ | ⟨hfType, p, hfKey⟩ <;>
    rcases hg with ⟨hgType, hgKey⟩ | ⟨hgType, q, hgKey⟩
  · obtain rfl := unknownKey_inj.mp (hfKey.symm.trans hgKey)
    exact congrArg (fun alertType => Finding.mk deviceId alertType key)
      (hfType.trans hgType.symm)
  · exact absurd (hfKey.symm.trans hgKey) (unknownKey_ne_mismatchKey _ _ _)
  · exact absurd (hgKey.symm.trans hfKey) (unknownKey_ne_mismatchKey _ _ _)
  · obtain ⟨rfl, -⟩ := mismatchKey_inj.mp (hfKey.symm.trans hgKey)
    exact congrArg (fun alertType => Finding.mk deviceId alertType key)
      (hfType.trans hgType.symm)

theorem keyed_of_finding {rt : PyRuntime} {o : Observation} {f : Finding}
    (h : o.finding rt = some f) : f.Keyed := by
  obtain ⟨alert, halert, rfl⟩ := Option.map_eq_some_iff.mp h
  obtain ⟨-, ⟨-, rfl⟩ | ⟨-, state, -, -, rfl⟩⟩ := policyAlert_eq_some_iff.mp halert
  · exact Or.inl ⟨rfl, rfl⟩
  · exact Or.inr ⟨rfl, _, rfl⟩

/-! ## The invariant -/

/-- Services are listed in order, and a device whose baseline has an identity has
one. -/
structure Observation.Sound (o : Observation) : Prop where
  services : sorted o.device.services = o.device.services
  baselineServices : ∀ baseline, o.baseline = some baseline →
    sorted baseline.services = baseline.services
  identity : ∀ baseline, o.baseline = some baseline →
    hasMeaningfulIdentity baseline.mdnsHost baseline.services →
      hasMeaningfulIdentity o.device.mdnsHost o.device.services

/-- The alerts are the findings of the history, each at its first occurrence. -/
structure Recorded (rt : PyRuntime) (db : Db) (history : List Observation) : Prop where
  alerts : db.alerts.map AlertRow.finding =
    (FirstSeen.scan Finding.dedupeKey ∅ (history.filterMap (Observation.finding rt))).1
  sound : ∀ o ∈ history, o.Sound
  approvals : ApprovalsHold db.toTables

theorem Recorded.empty (rt : PyRuntime) : Recorded rt Db.empty [] where
  alerts := rfl
  sound := by simp
  approvals := (Reachable.empty rt).approvalsHold

theorem sound_observe {t : Tables} (h : ApprovalsHold t) {row : DeviceRow}
    (hrow : row ∈ t.devices) : (t.observe row).Sound where
  services := sorted_sorted _
  baselineServices := by
    intro baseline hbaseline
    obtain ⟨found, -, rfl⟩ := Option.map_eq_some_iff.mp hbaseline
    exact sorted_sorted _
  identity := by
    intro baseline hbaseline hidentity
    obtain ⟨found, hfound, rfl⟩ := Option.map_eq_some_iff.mp hbaseline
    obtain ⟨hmem, hid⟩ := Table.lookup_eq_some hfound
    change hasMeaningfulIdentity found.mdnsHost (sorted found.servicesJson) = true at hidentity
    change hasMeaningfulIdentity row.mdnsHost (sorted (t.serviceKeysOf row.deviceId)) = true
    rw [hasMeaningfulIdentity_sorted, hasMeaningfulIdentity, Bool.or_eq_true] at hidentity ⊢
    rcases hidentity with hhost | hservices
    · exact Or.inl (h.hosts row hrow found hmem hid hhost)
    · -- a service of the baseline is a service of the device
      right
      simp only [Bool.not_eq_true', List.isEmpty_eq_false_iff] at hservices ⊢
      obtain ⟨key, hkey⟩ := List.exists_mem_of_ne_nil _ hservices
      have hkept := h.services found hmem key hkey
      rw [hid] at hkept
      exact List.ne_nil_of_mem hkept

section

variable {rt : PyRuntime} {db : Db} {inp : IngestInput}

@[simp] theorem observed_of_acceptable (hok : Acceptable db inp) :
    observed rt db (.ingest inp) = some ((ingested rt db inp).observe (observedRow db inp)) := by
  obtain ⟨db', hrun, htables⟩ := exists_processDiscoveryEvent rt hok
  have hrow : observedRow db inp ∈ db'.devices := by
    rw [htables]
    exact mem_devices_ingested.mpr (Or.inl rfl)
  rw [observed, hrun]
  dsimp only
  rw [getDeviceRow_of_mem hrow, htables, Option.map_some]

@[simp] theorem observed_of_not_acceptable (hno : ¬ Acceptable db inp) :
    observed rt db (.ingest inp) = none := by
  rw [observed]
  cases hrun : processDiscoveryEvent rt db inp with
  | error e => rfl
  | ok result => exact absurd (processDiscoveryEvent_eq_ok_iff.mp hrun).1 hno

/-- The alerts that an ingest adds are its finding, unless there is one with its key. -/
theorem finding_newAlerts (hfresh : inp.alertUuid 0 ∉ db.alerts.map AlertRow.alertId) :
    (newAlerts rt db inp).map AlertRow.finding =
      (((ingested rt db inp).observe (observedRow db inp)).finding rt).toList.filter
        fun finding => finding.dedupeKey ∉ db.alerts.map AlertRow.dedupeKey := by
  have hfinding : ((ingested rt db inp).observe (observedRow db inp)).finding rt =
      (policyFinding rt (observedTables db inp) (observedRow db inp)).map fun alert =>
        ⟨(observedRow db inp).deviceId, alert.alertType, alert.dedupeKey⟩ := rfl
  rw [hfinding, newAlerts]
  cases policyFinding rt (observedTables db inp) (observedRow db inp) with
  | none => rfl
  | some alert =>
      dsimp only [Option.map_some, Option.toList_some]
      by_cases hkey : alert.dedupeKey ∈ db.alerts.map AlertRow.dedupeKey
      · rw [newAlertRows_of_mem hkey, List.filter_cons_of_neg (by simpa using hkey)]
        rfl
      · rw [newAlertRows_of_notMem hfresh hkey, List.filter_cons_of_pos (by simpa using hkey)]
        rfl

end

/-- A key is seen when an alert has it. -/
theorem Recorded.mem_dedupeKey_iff {rt : PyRuntime} {db : Db} {history : List Observation}
    (h : Recorded rt db history) {key : Str} :
    key ∈ db.alerts.map AlertRow.dedupeKey ↔
      key ∈ (FirstSeen.scan Finding.dedupeKey ∅
        (history.filterMap (Observation.finding rt))).2 := by
  have hkeys : db.alerts.map AlertRow.dedupeKey =
      (db.alerts.map AlertRow.finding).map Finding.dedupeKey := by
    rw [List.map_map]
    rfl
  rw [hkeys, h.alerts, FirstSeen.mem_scan_snd, or_iff_right (Finset.notMem_empty key)]
  constructor
  · intro hmem
    obtain ⟨f, hf, hkey⟩ := List.mem_map.mp hmem
    exact ⟨f, (FirstSeen.scan_sublist _ _ _).subset hf, hkey⟩
  · rintro ⟨f, hf, rfl⟩
    obtain ⟨g, hg, hkey⟩ := FirstSeen.exists_mem_scan Finding.dedupeKey hf (Finset.notMem_empty _)
    exact List.mem_map.mpr ⟨g, hg, hkey⟩

/-- An ingest adds its observation to the history and the finding in it, if it is a new
one, to the alerts. -/
theorem recorded_ingested {rt : PyRuntime} {db db' : Db} {inp : IngestInput}
    {history : List Observation} (h : Recorded rt db history) (hok : Acceptable db inp)
    (hfresh : inp.alertUuid 0 ∉ db.alerts.map AlertRow.alertId)
    (htables : db'.toTables = ingested rt db inp) :
    Recorded rt db' (history ++ [(ingested rt db inp).observe (observedRow db inp)]) where
  alerts := by
    rw [htables, List.filterMap_append]
    change (db.alerts ++ newAlerts rt db inp).map AlertRow.finding = _
    have hlast : [(ingested rt db inp).observe (observedRow db inp)].filterMap
        (Observation.finding rt) =
          (((ingested rt db inp).observe (observedRow db inp)).finding rt).toList := by
      cases hf : ((ingested rt db inp).observe (observedRow db inp)).finding rt <;> simp [hf]
    rw [hlast, FirstSeen.scan_append_toList, List.map_append, h.alerts, finding_newAlerts hfresh]
    congr 1
    refine List.filter_congr fun f _ => ?_
    simp only [h.mem_dedupeKey_iff]
  sound := by
    intro o ho
    rcases List.mem_append.mp ho with hold | hnew
    · exact h.sound o hold
    · rw [List.mem_singleton.mp hnew]
      exact sound_observe (approvalsHold_ingested hok h.approvals)
        (mem_devices_ingested.mpr (Or.inl rfl))
  approvals := by
    rw [htables]
    exact approvalsHold_ingested hok h.approvals

/-- **The step lemma.** -/
theorem recorded_runOperation {rt : PyRuntime} {db : Db} {history : List Observation}
    {op : Operation} (h : Recorded rt db history) (hfresh : FreshAlert db op) :
    Recorded rt (runOperation rt db op) (history ++ (observed rt db op).toList) := by
  cases op with
  | ingest inp =>
      by_cases hok : Acceptable db inp
      · obtain ⟨db', hrun, htables⟩ := exists_processDiscoveryEvent rt hok
        rw [observed_of_acceptable hok, runOperation_ingest_of_ok hrun]
        exact recorded_ingested h hok hfresh htables
      · rw [observed_of_not_acceptable hok, runOperation_ingest_of_not_acceptable hok]
        simpa using h
  | approve deviceId displayName nowMs =>
      -- an approval leaves nothing to be observed and no alert
      rw [observed, Option.toList_none, List.append_nil]
      refine ⟨?_, h.sound, ?_⟩
      · rw [← h.alerts]
        refine runOperation_preserves
          (I := fun t => t.alerts.map AlertRow.finding = db.alerts.map AlertRow.finding) ?_ ?_ rfl
        · exact fun _ hop => absurd hop (by simp)
        · exact fun _ _ _ _ _ => rfl
      · refine runOperation_preserves (I := ApprovalsHold) ?_ ?_ h.approvals
        · exact fun _ hop => absurd hop (by simp)
        · exact fun _ _ _ _ _ => approvalsHold_approved h.approvals

/-- The run lemma. -/
theorem recorded_foldl {rt : PyRuntime} {db : Db} {history : List Observation}
    {ops : List Operation} (h : Recorded rt db history)
    (hops : EveryStep (runOperation rt) FreshAlert db ops) :
    Recorded rt (ops.foldl (runOperation rt) db) (history ++ observations rt db ops) := by
  induction ops generalizing db history with
  | nil => simpa [observations] using h
  | cons op ops ih =>
      have hrest := ih (recorded_runOperation h hops.1) hops.2
      rw [List.append_assoc] at hrest
      exact hrest

/-! ## The findings of an observation -/

/-- A device without approval is found unknown when it has a host or services. -/
theorem finding_eq_unknown_iff {rt : PyRuntime} {o : Observation} {deviceId : Uuid} {key : Str} :
    o.finding rt = some ⟨deviceId, .unknownDevice, key⟩ ↔
      o.ShowsUnknown deviceId ∧ key = unknownKey deviceId := by
  rw [Observation.finding, Option.map_eq_some_iff]
  constructor
  · rintro ⟨alert, halert, heq⟩
    obtain ⟨hidentity, ⟨hstatus, rfl⟩ | ⟨-, state, -, -, rfl⟩⟩ := policyAlert_eq_some_iff.mp halert
    · obtain ⟨rfl, -, rfl⟩ := Finding.mk.inj heq
      exact ⟨⟨rfl, by simp [hstatus], hasMeaningfulIdentity_iff.mp hidentity⟩, rfl⟩
    · exact absurd (Finding.mk.inj heq).2.1 (by simp [mismatchAlert])
  · rintro ⟨⟨rfl, hstatus, hidentity⟩, rfl⟩
    have hunknown : o.device.status = .unknown := by
      cases hcase : o.device.status with
      | unknown => rfl
      | approved => exact absurd hcase hstatus
    refine ⟨unknownAlert o.device, policyAlert_eq_some_iff.mpr ⟨?_, Or.inl ⟨hunknown, rfl⟩⟩, rfl⟩
    exact hasMeaningfulIdentity_iff.mpr hidentity

/-- Listed in order, two sets of services are the same when the lists are. -/
theorem sameState_iff_eq {host host' : Option Str} {services services' : List Str}
    (h : sorted services = services) (h' : sorted services' = services') :
    SameState host services host' services' ↔
      (host.getD [], services) = (host'.getD [], services') := by
  rw [SameState, Prod.mk.injEq, ← sorted_eq_iff_perm, h, h']

/-- An approved device is found to deviate when it does. -/
theorem finding_eq_mismatch_iff {rt : PyRuntime} {o : Observation} (h : o.Sound) {deviceId : Uuid}
    {key : Str} :
    o.finding rt = some ⟨deviceId, .baselineMismatch, key⟩ ↔
      ∃ state, o.Deviates deviceId state ∧ key = mismatchKey deviceId (rt.digest state) := by
  have hkey : ∀ baseline, (mismatchAlert rt o.device baseline).dedupeKey =
      mismatchKey o.device.deviceId
        (rt.digest (o.device.mdnsHost.getD [], o.device.services)) := by
    intro baseline
    rw [mismatchAlert, diffFingerprint, h.services]
  rw [Observation.finding, Option.map_eq_some_iff]
  constructor
  · rintro ⟨alert, halert, heq⟩
    obtain ⟨-, ⟨-, rfl⟩ | ⟨hstatus, baseline, hbaseline, hdiffers, rfl⟩⟩ :=
      policyAlert_eq_some_iff.mp halert
    · exact absurd (Finding.mk.inj heq).2.1 (by simp [unknownAlert])
    · obtain ⟨rfl, -, rfl⟩ := Finding.mk.inj heq
      rw [sameState_iff_eq h.services (h.baselineServices baseline hbaseline)] at hdiffers
      exact ⟨_, ⟨rfl, hstatus, rfl, baseline, hbaseline, hdiffers⟩, hkey baseline⟩
  · rintro ⟨_, ⟨rfl, hstatus, rfl, baseline, hbaseline, hdiffers⟩, rfl⟩
    rw [Ne, ← sameState_iff_eq h.services (h.baselineServices baseline hbaseline)] at hdiffers
    have hidentity : hasMeaningfulIdentity o.device.mdnsHost o.device.services := by
      -- otherwise the baseline would have no identity either, and there is one such state
      by_contra hnone
      exact hdiffers (sameState_of_not_meaningful hnone fun hmeaningful =>
        hnone (h.identity baseline hbaseline hmeaningful))
    refine ⟨mismatchAlert rt o.device baseline, policyAlert_eq_some_iff.mpr
      ⟨hidentity, Or.inr ⟨hstatus, baseline, hbaseline, hdiffers, rfl⟩⟩, ?_⟩
    rw [hkey]
    rfl

/-- What the alerts are about is what was found. -/
theorem Recorded.exists_alert_iff {rt : PyRuntime} {db : Db} {history : List Observation}
    (h : Recorded rt db history) {f : Finding} :
    (∃ alert ∈ db.alerts, alert.finding = f) ↔ ∃ o ∈ history, o.finding rt = some f := by
  rw [← List.mem_map, h.alerts, ← List.mem_filterMap]
  constructor
  · exact fun hf => (FirstSeen.scan_sublist _ _ _).subset hf
  · intro hf
    obtain ⟨g, hg, hkey⟩ := FirstSeen.exists_mem_scan Finding.dedupeKey hf (Finset.notMem_empty _)
    -- the key tells what was found
    obtain ⟨o, -, ho⟩ := List.mem_filterMap.mp hf
    obtain ⟨o', -, ho'⟩ := List.mem_filterMap.mp ((FirstSeen.scan_sublist _ _ _).subset hg)
    rw [← (keyed_of_finding ho').eq_of_dedupeKey (keyed_of_finding ho) hkey]
    exact hg

@[simp] theorem mem_alertsOfType {t : Tables} {deviceId : Uuid} {alertType : AlertType}
    {alert : AlertRow} :
    alert ∈ t.alertsOfType deviceId alertType ↔
      alert ∈ t.alerts ∧ alert.finding = ⟨deviceId, alertType, alert.dedupeKey⟩ := by
  simp [Tables.alertsOfType, AlertRow.finding]

/-- An operation leaves the alerts of other devices alone. -/
theorem alertsOf_runOperation {rt : PyRuntime} {db : Db} {op : Operation} {deviceId : Uuid}
    (h : op.device rt db ≠ some deviceId) :
    (runOperation rt db op).alertsOf deviceId = db.alertsOf deviceId := by
  refine runOperation_preserves (I := fun t => t.alertsOf deviceId = db.alertsOf deviceId) ?_ ?_ rfl
  · rintro inp rfl hok
    refine alertsOf_ingested_of_ne ?_
    rintro rfl
    obtain ⟨db', hrun, -⟩ := exists_processDiscoveryEvent rt hok
    rw [Operation.device, hrun] at h
    exact h rfl
  · intro row _ displayName nowMs _
    rfl

section

variable {rt : PyRuntime} {db : Db} {history : List Observation} {deviceId : Uuid}

/-- One alert for an unknown device, if it was ever left as one. -/
theorem Recorded.unknown (h : Recorded rt db history)
    (hshown : ∃ o ∈ history, o.ShowsUnknown deviceId) :
    ∃ alert, db.alertsOfType deviceId .unknownDevice = [alert] := by
  obtain ⟨o, ho, hunknown⟩ := hshown
  obtain ⟨alert, halert, hfinding⟩ :=
    h.exists_alert_iff.mpr ⟨o, ho, finding_eq_unknown_iff.mpr ⟨hunknown, rfl⟩⟩
  have hkey : alert.dedupeKey = unknownKey deviceId := congrArg Finding.dedupeKey hfinding
  have hmem : alert ∈ db.alertsOfType deviceId .unknownDevice :=
    mem_alertsOfType.mpr ⟨halert, by rw [hfinding, hkey]⟩
  -- the others have its key
  have hall : ∀ other ∈ db.alertsOfType deviceId .unknownDevice, other = alert := by
    intro other hother
    obtain ⟨hother, hotherFinding⟩ := mem_alertsOfType.mp hother
    obtain ⟨o', -, ho'⟩ := h.exists_alert_iff.mp ⟨other, hother, hotherFinding⟩
    exact Table.eq_of_key_eq db.constraints.dedupeKeys hother halert
      ((finding_eq_unknown_iff.mp ho').2.trans hkey.symm)
  have hnodup : (db.alertsOfType deviceId .unknownDevice).Nodup :=
    (List.Nodup.of_map _ db.constraints.alertKeys).filter _
  refine ⟨alert, ?_⟩
  rw [List.eq_replicate_of_mem hall] at hnodup hmem ⊢
  have hlength := List.nodup_replicate.mp hnodup
  have hpos := List.length_pos_of_mem hmem
  rw [List.length_replicate] at hpos
  rw [show (db.alertsOfType deviceId .unknownDevice).length = 1 by omega, List.replicate_one]

theorem Recorded.not_unknown (h : Recorded rt db history)
    (hshown : ¬ ∃ o ∈ history, o.ShowsUnknown deviceId) :
    db.alertsOfType deviceId .unknownDevice = [] := by
  refine List.eq_nil_iff_forall_not_mem.mpr fun alert halert => hshown ?_
  obtain ⟨halert, hfinding⟩ := mem_alertsOfType.mp halert
  obtain ⟨o, ho, hfound⟩ := h.exists_alert_iff.mp ⟨alert, halert, hfinding⟩
  exact ⟨o, ho, (finding_eq_unknown_iff.mp hfound).1⟩

/-- The alerts for mismatches are as many as the states that were found to deviate. -/
theorem Recorded.mismatches (h : Recorded rt db history) (hdigest : Function.Injective rt.digest) :
    ∃ stateOf : AlertRow → Str × List Str,
      Set.BijOn stateOf {alert | alert ∈ db.alertsOfType deviceId .baselineMismatch}
          {state | ∃ o ∈ history, o.Deviates deviceId state} ∧
        ∀ alert ∈ db.alertsOfType deviceId .baselineMismatch,
          alert.dedupeKey = mismatchKey deviceId (rt.digest (stateOf alert)) := by
  have hstates : ∀ alert, alert ∈ db.alertsOfType deviceId .baselineMismatch →
      ∃ state, (∃ o ∈ history, o.Deviates deviceId state) ∧
        alert.dedupeKey = mismatchKey deviceId (rt.digest state) := by
    intro alert halert
    obtain ⟨halert, hfinding⟩ := mem_alertsOfType.mp halert
    obtain ⟨o, ho, hfound⟩ := h.exists_alert_iff.mp ⟨alert, halert, hfinding⟩
    obtain ⟨state, hdeviates, hkey⟩ := (finding_eq_mismatch_iff (h.sound o ho)).mp hfound
    exact ⟨state, ⟨o, ho, hdeviates⟩, hkey⟩
  choose! stateOf hdeviates hkey using hstates
  refine ⟨stateOf, ⟨hdeviates, ?_, ?_⟩, hkey⟩
  · -- alerts for one state have one key
    intro alert halert other hother heq
    refine Table.eq_of_key_eq db.constraints.dedupeKeys (mem_alertsOfType.mp halert).1
      (mem_alertsOfType.mp hother).1 ?_
    rw [hkey alert halert, hkey other hother, heq]
  · rintro state ⟨o, ho, hdev⟩
    obtain ⟨alert, halert, hfinding⟩ := h.exists_alert_iff.mpr
      ⟨o, ho, (finding_eq_mismatch_iff (h.sound o ho)).mpr ⟨state, hdev, rfl⟩⟩
    have halertKey : alert.dedupeKey = mismatchKey deviceId (rt.digest state) :=
      congrArg Finding.dedupeKey hfinding
    have hmem : alert ∈ db.alertsOfType deviceId .baselineMismatch :=
      mem_alertsOfType.mpr ⟨halert, by rw [hfinding, halertKey]⟩
    exact ⟨alert, hmem,
      hdigest (mismatchKey_inj.mp ((hkey alert hmem).symm.trans halertKey)).2⟩

end

/-- **The alerts are the history of the findings.**  After every run of ingests and
approvals with new identifiers and an injective fingerprint: a device has one alert as
an unknown device if some ingest left it without approval and with a host or services,
and none otherwise; its mismatches correspond to the states other than its baseline in
which an ingest left it when it was approved; and no operation on another device
changes its alerts. -/
theorem alerts_are_history (rt : PyRuntime) (hdigest : Function.Injective rt.digest)
    (ops : List Operation) (hops : EveryStep (runOperation rt) FreshAlert Db.empty ops)
    (deviceId : Uuid) :
    ((∃ o ∈ observations rt Db.empty ops, o.ShowsUnknown deviceId) →
      ∃ alert, (ops.foldl (runOperation rt) Db.empty).alertsOfType deviceId .unknownDevice =
        [alert]) ∧
    ((¬ ∃ o ∈ observations rt Db.empty ops, o.ShowsUnknown deviceId) →
      (ops.foldl (runOperation rt) Db.empty).alertsOfType deviceId .unknownDevice = []) ∧
    (∃ stateOf : AlertRow → Str × List Str,
      Set.BijOn stateOf
          {alert | alert ∈ (ops.foldl (runOperation rt) Db.empty).alertsOfType deviceId
            .baselineMismatch}
          {state | ∃ o ∈ observations rt Db.empty ops, o.Deviates deviceId state} ∧
        ∀ alert ∈ (ops.foldl (runOperation rt) Db.empty).alertsOfType deviceId .baselineMismatch,
          alert.dedupeKey = mismatchKey deviceId (rt.digest (stateOf alert))) ∧
    ∀ (db : Db) (op : Operation), op.device rt db ≠ some deviceId →
      (runOperation rt db op).alertsOf deviceId = db.alertsOf deviceId := by
  have hrecorded := recorded_foldl (.empty rt) hops
  rw [List.nil_append] at hrecorded
  exact ⟨hrecorded.unknown, hrecorded.not_unknown, hrecorded.mismatches hdigest,
    fun _ _ => alertsOf_runOperation⟩

/-- The device of the service under the host. -/
def hostState (host : String) : Str × List Str :=
  (str host, [str "_airplay._tcp.local"])

/-- A device that is seen, approved and renamed twice has one alert as an unknown device,
and one for each name that was not the approved one. -/
theorem renamedTwice_alerts :
    (∃ alert, (renamedTwice.foldl (runOperation fingerprintRuntime) Db.empty).alertsOfType
      (sampleUuid 0) .unknownDevice = [alert]) ∧
    ∃ stateOf : AlertRow → Str × List Str,
      Set.BijOn stateOf
        {alert | alert ∈ (renamedTwice.foldl (runOperation fingerprintRuntime)
          Db.empty).alertsOfType (sampleUuid 0) .baselineMismatch}
        {hostState "pc.local", hostState "tv.local"} := by
  obtain ⟨hunknown, -, ⟨stateOf, hstates, -⟩, -⟩ :=
    alerts_are_history fingerprintRuntime injectiveFingerprint_injective renamedTwice
      (by decide +kernel) (sampleUuid 0)
  have hdeviates : {state | ∃ o ∈ observations fingerprintRuntime Db.empty renamedTwice,
      o.Deviates (sampleUuid 0) state} = {hostState "pc.local", hostState "tv.local"} := by
    ext state
    constructor
    · rintro ⟨o, ho, -, -, rfl, -⟩
      have hstate : ∀ o ∈ observations fingerprintRuntime Db.empty renamedTwice,
          (o.device.mdnsHost.getD [], o.device.services) = hostState "pc.local" ∨
            (o.device.mdnsHost.getD [], o.device.services) = hostState "tv.local" := by
        decide +kernel
      exact hstate o ho
    · rintro (rfl | rfl)
      · show ∃ o ∈ observations fingerprintRuntime Db.empty renamedTwice,
          o.Deviates (sampleUuid 0) (hostState "pc.local")
        decide +kernel
      · show ∃ o ∈ observations fingerprintRuntime Db.empty renamedTwice,
          o.Deviates (sampleUuid 0) (hostState "tv.local")
        decide +kernel
  exact ⟨hunknown (by decide +kernel), stateOf, hdeviates ▸ hstates⟩

end Api
end LanDiscovery

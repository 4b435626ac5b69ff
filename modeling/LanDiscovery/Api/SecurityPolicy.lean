import LanDiscovery.Api.MdnsMerge
import LanDiscovery.Api.Schema

/-!
# The security policy

`security_policy.py`.  The policy finds at most one alert (`policyAlert`), and
the deduplication key of a finding says what was found: the device for an
unknown device, the device and the observed state for a mismatch.
-/

namespace LanDiscovery
namespace Api

/-- `PolicyAlert`. -/
structure PolicyAlert where
  alertType : AlertType
  message : Str
  dedupeKey : Str
  severity : Str := str "warn"

/-- `DevicePolicyState`. -/
structure DevicePolicyState where
  deviceId : Uuid
  status : DeviceStatus
  mdnsHost : Option Str
  services : List Str

/-- `BaselineState`. -/
structure BaselineState where
  mdnsHost : Option Str
  services : List Str

/-- `has_meaningful_identity`. -/
def hasMeaningfulIdentity (mdnsHost : Option Str) (services : List Str) : Bool :=
  (truthy mdnsHost).isSome || !services.isEmpty

/-- `", ".join(texts)`. -/
def joinTexts (separator : String) (texts : List Str) : Str :=
  (str separator).intercalate texts

/-- `_unknown_message`. -/
def unknownMessage (device : DevicePolicyState) : Str :=
  let host := (truthy device.mdnsHost).getD (str "(no host)")
  let n := device.services.length
  let typesHint := joinTexts ", " (device.services.take 3)
  let typesHint := if n > 3 then typesHint ++ str ", ..." else typesHint
  let suffix := if typesHint.isEmpty then [] else str " (" ++ typesHint ++ str ")"
  str "Unknown device: host=" ++ host ++ str ", service_types=" ++ Nat.toDigits 10 n ++
    str " (at observation)" ++ suffix

/-- `repr` of an optional string. -/
def reprOptional (rt : PyRuntime) (text : Option Str) : Str :=
  match text with
  | none => str "None"
  | some text => rt.repr text

/-- `repr` of a list of strings. -/
def reprList (rt : PyRuntime) (texts : List Str) : Str :=
  str "[" ++ joinTexts ", " (texts.map rt.repr) ++ str "]"

/-- The key of an `UNKNOWN_DEVICE` alert. -/
def unknownKey (deviceId : Uuid) : Str :=
  str "unknown:" ++ deviceId.text

/-- The key of a `BASELINE_MISMATCH` alert. -/
def mismatchKey (deviceId : Uuid) (fingerprint : Str) : Str :=
  str "mismatch:" ++ deviceId.text ++ str ":" ++ fingerprint

/-- `_baseline_mismatch_alerts`. -/
def baselineMismatchAlerts (rt : PyRuntime) (device : DevicePolicyState)
    (baseline : BaselineState) : List PolicyAlert :=
  let hostChanged := device.mdnsHost.getD [] != baseline.mdnsHost.getD []
  let servicesChanged := !serviceSetsEqual device.services baseline.services
  if !hostChanged && !servicesChanged then []
  else
    let parts :=
      (if hostChanged then
        [str "hostname " ++ reprOptional rt baseline.mdnsHost ++ str " -> " ++
          reprOptional rt device.mdnsHost]
      else []) ++
      (if servicesChanged then
        [str "service types changed (baseline=" ++ reprList rt (sorted baseline.services) ++
          str ", observed=" ++ reprList rt (sorted device.services) ++ str ")"]
      else [])
    [{ alertType := .baselineMismatch
       message := str "Baseline mismatch for approved device: " ++ joinTexts "; " parts
       dedupeKey :=
        mismatchKey device.deviceId (diffFingerprint rt device.mdnsHost device.services) }]

/-- `evaluate_security_policy`. -/
def evaluateSecurityPolicy (rt : PyRuntime) (device : DevicePolicyState)
    (baseline : Option BaselineState) : List PolicyAlert :=
  if !hasMeaningfulIdentity device.mdnsHost device.services then []
  else
    match device.status with
    | .approved =>
        match baseline with
        | none => []
        | some baseline => baselineMismatchAlerts rt device baseline
    | .unknown =>
        [{ alertType := .unknownDevice
           message := unknownMessage device
           dedupeKey := unknownKey device.deviceId }]

/-! ## Observed states -/

/-- Two hosts and lists of services describe the same state: the same host, a
missing one being the empty one, and the same services in any order. -/
def SameState (host : Option Str) (services : List Str) (host' : Option Str)
    (services' : List Str) : Prop :=
  host.getD [] = host'.getD [] ∧ services.Perm services'

instance (host : Option Str) (services : List Str) (host' : Option Str) (services' : List Str) :
    Decidable (SameState host services host' services') :=
  inferInstanceAs (Decidable (_ ∧ _))

theorem SameState.refl (host : Option Str) (services : List Str) :
    SameState host services host services :=
  ⟨rfl, .refl _⟩

theorem SameState.symm {host host' : Option Str} {services services' : List Str}
    (h : SameState host services host' services') : SameState host' services' host services :=
  ⟨h.1.symm, h.2.symm⟩

theorem SameState.trans {host host' host'' : Option Str} {services services' services'' : List Str}
    (h : SameState host services host' services')
    (h' : SameState host' services' host'' services'') :
    SameState host services host'' services'' :=
  ⟨h.1.trans h'.1, h.2.trans h'.2⟩

/-- An injective fingerprint tells states apart. -/
theorem diffFingerprint_eq_iff {rt : PyRuntime} (hdigest : Function.Injective rt.digest)
    {host host' : Option Str} {services services' : List Str} :
    diffFingerprint rt host services = diffFingerprint rt host' services' ↔
      SameState host services host' services' := by
  rw [diffFingerprint, diffFingerprint, hdigest.eq_iff, Prod.mk.injEq, sorted_eq_iff_perm]
  rfl

/-! ## Keys -/

@[simp] theorem mismatchKey_inj {deviceId deviceId' : Uuid} {fingerprint fingerprint' : Str} :
    mismatchKey deviceId fingerprint = mismatchKey deviceId' fingerprint' ↔
      deviceId = deviceId' ∧ fingerprint = fingerprint' := by
  constructor
  · intro h
    simp only [mismatchKey, List.append_assoc, List.append_cancel_left_eq] at h
    have hlength : deviceId.text.length = deviceId'.text.length := by
      rw [deviceId.length_eq, deviceId'.length_eq]
    obtain ⟨htext, hrest⟩ := List.append_inj h hlength
    exact ⟨Uuid.ext_text htext, List.append_cancel_left hrest⟩
  · rintro ⟨rfl, rfl⟩
    rfl

@[simp] theorem unknownKey_inj {deviceId deviceId' : Uuid} :
    unknownKey deviceId = unknownKey deviceId' ↔ deviceId = deviceId' := by
  constructor
  · intro h
    exact Uuid.ext_text (List.append_cancel_left h)
  · rintro rfl
    rfl

@[simp] theorem unknownKey_ne_mismatchKey (deviceId deviceId' : Uuid) (fingerprint : Str) :
    unknownKey deviceId ≠ mismatchKey deviceId' fingerprint := by
  intro h
  have hhead := congrArg List.head? h
  simp [unknownKey, mismatchKey, str] at hhead

/-! ## What the policy finds -/

/-- The finding for an approved device in a state other than its baseline. -/
def mismatchAlert (rt : PyRuntime) (device : DevicePolicyState) (baseline : BaselineState) :
    PolicyAlert where
  alertType := .baselineMismatch
  message := ((baselineMismatchAlerts rt device baseline).map PolicyAlert.message).headD []
  dedupeKey := mismatchKey device.deviceId (diffFingerprint rt device.mdnsHost device.services)

/-- The finding for a device that is not approved. -/
def unknownAlert (device : DevicePolicyState) : PolicyAlert where
  alertType := .unknownDevice
  message := unknownMessage device
  dedupeKey := unknownKey device.deviceId

/-- The finding of the policy. -/
def policyAlert (rt : PyRuntime) (device : DevicePolicyState) (baseline : Option BaselineState) :
    Option PolicyAlert :=
  if !hasMeaningfulIdentity device.mdnsHost device.services then none
  else
    match device.status, baseline with
    | .approved, none => none
    | .approved, some baseline =>
        if SameState device.mdnsHost device.services baseline.mdnsHost baseline.services then none
        else some (mismatchAlert rt device baseline)
    | .unknown, _ => some (unknownAlert device)

theorem baselineMismatchAlerts_eq (rt : PyRuntime) (device : DevicePolicyState)
    (baseline : BaselineState) :
    baselineMismatchAlerts rt device baseline =
      if SameState device.mdnsHost device.services baseline.mdnsHost baseline.services then []
      else [mismatchAlert rt device baseline] := by
  have hsame : SameState device.mdnsHost device.services baseline.mdnsHost baseline.services ↔
      (!(device.mdnsHost.getD [] != baseline.mdnsHost.getD []) &&
        !!serviceSetsEqual device.services baseline.services) = true := by
    simp [SameState]
  by_cases h : SameState device.mdnsHost device.services baseline.mdnsHost baseline.services
  · rw [if_pos h, baselineMismatchAlerts]
    simp only [hsame.mp h, if_true]
  · rw [if_neg h, mismatchAlert, baselineMismatchAlerts]
    rw [hsame] at h
    simp only [h]
    rfl

/-- The policy finds at most one alert. -/
theorem evaluateSecurityPolicy_eq (rt : PyRuntime) (device : DevicePolicyState)
    (baseline : Option BaselineState) :
    evaluateSecurityPolicy rt device baseline = (policyAlert rt device baseline).toList := by
  unfold evaluateSecurityPolicy policyAlert
  by_cases hidentity : (!hasMeaningfulIdentity device.mdnsHost device.services) = true
  · simp only [hidentity, if_true, Option.toList_none]
  · simp only [hidentity]
    cases device.status with
    | unknown => rfl
    | approved =>
        cases baseline with
        | none => rfl
        | some baseline =>
            simp only [baselineMismatchAlerts_eq]
            split_ifs <;> rfl

/-- The findings of the policy. -/
theorem policyAlert_eq_some_iff {rt : PyRuntime} {device : DevicePolicyState}
    {baseline : Option BaselineState} {alert : PolicyAlert} :
    policyAlert rt device baseline = some alert ↔
      hasMeaningfulIdentity device.mdnsHost device.services ∧
        ((device.status = .unknown ∧ alert = unknownAlert device) ∨
          (device.status = .approved ∧ ∃ state, baseline = some state ∧
            ¬ SameState device.mdnsHost device.services state.mdnsHost state.services ∧
            alert = mismatchAlert rt device state)) := by
  unfold policyAlert
  by_cases hidentity : hasMeaningfulIdentity device.mdnsHost device.services = true
  · cases hstatus : device.status with
    | unknown => simp [hidentity, eq_comm]
    | approved =>
        cases baseline with
        | none => simp [hidentity]
        | some state =>
            by_cases hsame : SameState device.mdnsHost device.services state.mdnsHost state.services
            · simp [hidentity, hsame]
            · simp [hidentity, hsame, eq_comm]
  · simp [hidentity]

/-- An approved device in a state other than its baseline is a finding, if it has
an identity at all. -/
theorem policyAlert_of_mismatch {rt : PyRuntime} {device : DevicePolicyState}
    {baseline : BaselineState} (hidentity : hasMeaningfulIdentity device.mdnsHost device.services)
    (hstatus : device.status = .approved)
    (hdiffers : ¬ SameState device.mdnsHost device.services baseline.mdnsHost baseline.services) :
    policyAlert rt device (some baseline) = some (mismatchAlert rt device baseline) :=
  policyAlert_eq_some_iff.mpr ⟨hidentity, Or.inr ⟨hstatus, baseline, rfl, hdiffers, rfl⟩⟩

/-- The policy finds nothing on an approved device in the state of its baseline. -/
theorem policyAlert_of_sameState {rt : PyRuntime} {device : DevicePolicyState}
    {baseline : BaselineState} (hstatus : device.status = .approved)
    (hsame : SameState device.mdnsHost device.services baseline.mdnsHost baseline.services) :
    policyAlert rt device (some baseline) = none := by
  simp [policyAlert, hstatus, hsame]

/-- A finding with the key of a mismatch is a mismatch of that device. -/
theorem policyAlert_eq_some {rt : PyRuntime} {device : DevicePolicyState}
    {baseline : Option BaselineState} {alert : PolicyAlert} {deviceId : Uuid} {fingerprint : Str}
    (h : policyAlert rt device baseline = some alert)
    (hkey : alert.dedupeKey = mismatchKey deviceId fingerprint) :
    device.deviceId = deviceId ∧ alert.alertType = .baselineMismatch := by
  obtain ⟨-, ⟨-, rfl⟩ | ⟨-, state, -, -, rfl⟩⟩ := policyAlert_eq_some_iff.mp h
  · exact absurd hkey (unknownKey_ne_mismatchKey _ _ _)
  · exact ⟨(mismatchKey_inj.mp hkey).1, rfl⟩

/-- An identity is a host or a service. -/
theorem hasMeaningfulIdentity_iff {host : Option Str} {services : List Str} :
    hasMeaningfulIdentity host services = true ↔ host.getD [] ≠ [] ∨ services ≠ [] := by
  cases host with
  | none => simp [hasMeaningfulIdentity]
  | some text => simp [hasMeaningfulIdentity, truthy]

@[simp] theorem hasMeaningfulIdentity_sorted (host : Option Str) (services : List Str) :
    hasMeaningfulIdentity host (sorted services) = hasMeaningfulIdentity host services := by
  rw [hasMeaningfulIdentity, hasMeaningfulIdentity, (sorted_perm services).isEmpty_eq]

/-- Without an identity there is one state only. -/
theorem sameState_of_not_meaningful {host host' : Option Str} {services services' : List Str}
    (h : ¬ hasMeaningfulIdentity host services) (h' : ¬ hasMeaningfulIdentity host' services') :
    SameState host services host' services' := by
  have hnone : ∀ (host : Option Str) (services : List Str),
      ¬ hasMeaningfulIdentity host services → host.getD [] = [] ∧ services = [] := by
    intro host services hno
    cases host with
    | none => simpa [hasMeaningfulIdentity] using hno
    | some text => simpa [hasMeaningfulIdentity, truthy] using hno
  obtain ⟨hhost, rfl⟩ := hnone host services h
  obtain ⟨hhost', rfl⟩ := hnone host' services' h'
  exact ⟨hhost.trans hhost'.symm, .refl _⟩

end Api
end LanDiscovery

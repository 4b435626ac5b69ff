import LanDiscovery.Api.Models
import LanDiscovery.Library.Preference

/-!
# Host preference and service sets

`mdns_merge.py`.  The text of a JSON list of strings stands for the list: it is
written by `services_json` and read back by `parse_services_json` only.
-/

namespace LanDiscovery
namespace Api

open Library Library.Preference

/-- `merge_mdns_host`. -/
def mergeMdnsHost (current candidate : Option Str) (fromSrv : Bool) : Option Str :=
  match truthy candidate with
  | none => current
  | some host =>
      if fromSrv then some host
      else if (truthy current).isSome then current
      else some host

/-- `rec.type_name == "SRV"`. -/
def isSrv (rec : DiscoveryRecordIn) : Bool :=
  rec.typeName == some (str "SRV")

/-- The loop that merges the hosts of the records into `host`. -/
def mergeRecordHosts (host : Option Str) (records : List DiscoveryRecordIn) : Option Str :=
  records.foldl (fun host rec => mergeMdnsHost host rec.host (isSrv rec)) host

/-- `mdns_host_from_event`. -/
def mdnsHostFromEvent (event : DiscoveryEventIn) : Option Str :=
  mergeRecordHosts none event.records

/-- `services_json`. -/
def servicesJson (serviceKeys : List Str) : List Str := serviceKeys

/-- `parse_services_json`. -/
def parseServicesJson (raw : List Str) : List Str := sorted raw

/-- `service_sets_equal`. -/
def serviceSetsEqual (a b : List Str) : Bool :=
  sorted a == sorted b

/-- What the API takes from the Python library: the first sixteen hexadecimal
digits of the SHA-256 digest of the JSON text of a host and a list of services,
and `repr` of a string. -/
structure PyRuntime where
  digest : Str × List Str → Str
  repr : Str → Str

/-- `diff_fingerprint`. -/
def diffFingerprint (rt : PyRuntime) (mdnsHost : Option Str) (services : List Str) : Str :=
  rt.digest (mdnsHost.getD [], sorted services)

/-! ## The preference rule -/

/-- What a record does to the host. -/
def recordHostUpdate (rec : DiscoveryRecordIn) : Update Str :=
  match truthy rec.host with
  | none => .keep
  | some host => if isSrv rec then .overwrite host else .fill host

@[simp] theorem truthy_mergeMdnsHost (current : Option Str) (rec : DiscoveryRecordIn) :
    truthy (mergeMdnsHost current rec.host (isSrv rec)) =
      (recordHostUpdate rec).apply (truthy current) := by
  unfold mergeMdnsHost recordHostUpdate
  cases hhost : truthy rec.host with
  | none => cases truthy current <;> rfl
  | some host =>
      have hset : truthy (some host) = some host :=
        truthy_eq_some.mpr ⟨rfl, (truthy_eq_some.mp hhost).2⟩
      cases isSrv rec with
      | true => cases truthy current <;> exact hset
      | false =>
          cases hcurrent : truthy current with
          | none => simpa [Update.apply] using hset
          | some stored => simpa [Update.apply] using hcurrent

theorem mergeMdnsHost_ne_empty {current : Option Str} (h : current ≠ some [])
    (candidate : Option Str) (fromSrv : Bool) :
    mergeMdnsHost current candidate fromSrv ≠ some [] := by
  unfold mergeMdnsHost
  cases hcand : truthy candidate with
  | none => exact h
  | some host =>
      have hne : some host ≠ some [] := by simpa using (truthy_eq_some.mp hcand).2
      dsimp only
      split_ifs
      · exact hne
      · exact h
      · exact hne

theorem mergeRecordHosts_ne_empty {host : Option Str} (h : host ≠ some [])
    (records : List DiscoveryRecordIn) : mergeRecordHosts host records ≠ some [] := by
  induction records generalizing host with
  | nil => exact h
  | cons rec records ih => exact ih (mergeMdnsHost_ne_empty h _ _)

/-- The loop runs the updates of the records. -/
@[simp] theorem truthy_mergeRecordHosts (host : Option Str) (records : List DiscoveryRecordIn) :
    truthy (mergeRecordHosts host records) =
      settle (truthy host) (records.map recordHostUpdate) := by
  induction records generalizing host with
  | nil => rfl
  | cons rec records ih =>
      rw [List.map_cons, settle_cons, ← truthy_mergeMdnsHost]
      exact ih _

theorem mergeRecordHosts_eq_settle {host : Option Str} (h : host ≠ some [])
    (records : List DiscoveryRecordIn) :
    mergeRecordHosts host records = settle host (records.map recordHostUpdate) := by
  have hloop := truthy_mergeRecordHosts host records
  rwa [truthy_of_ne (mergeRecordHosts_ne_empty h records), truthy_of_ne h] at hloop

theorem mdnsHostFromEvent_eq_settle (event : DiscoveryEventIn) :
    mdnsHostFromEvent event = settle none (event.records.map recordHostUpdate) :=
  mergeRecordHosts_eq_settle (by simp) _

theorem mdnsHostFromEvent_ne_empty (event : DiscoveryEventIn) :
    mdnsHostFromEvent event ≠ some [] :=
  mergeRecordHosts_ne_empty (by simp) _

/-- Merging the same records again changes nothing. -/
theorem mergeRecordHosts_idem {host : Option Str} (h : host ≠ some [])
    (records : List DiscoveryRecordIn) :
    mergeRecordHosts (mergeRecordHosts host records) records = mergeRecordHosts host records := by
  rw [mergeRecordHosts_eq_settle (mergeRecordHosts_ne_empty h records),
    mergeRecordHosts_eq_settle h, settle_idem]

/-- No update overwrites when no SRV record has a host. -/
theorem lastOverwrite_eq_none_iff_srv {records : List DiscoveryRecordIn} :
    lastOverwrite (records.map recordHostUpdate) = none ↔
      ∀ rec ∈ records, isSrv rec = true → truthy rec.host = none := by
  rw [lastOverwrite_eq_none_iff, List.forall_mem_map]
  refine forall₂_congr fun rec _ => ?_
  unfold recordHostUpdate
  cases truthy rec.host with
  | none => simp
  | some host => cases isSrv rec <;> simp

/-! ## Service sets -/

@[simp] theorem serviceSetsEqual_iff {a b : List Str} : serviceSetsEqual a b = true ↔ a.Perm b := by
  rw [serviceSetsEqual, beq_iff_eq, sorted_eq_iff_perm]

end Api
end LanDiscovery

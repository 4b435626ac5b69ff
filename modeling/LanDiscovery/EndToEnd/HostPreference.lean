import LanDiscovery.Api.Service
import LanDiscovery.EndToEnd.Delivery

/-!
# The host preference on both sides

The registry of the scanner and `resolve_device_id` store a host for the same
records.  Both are runs of one list of updates (`hostUpdates_of_delivered`), the
first over octets and the second over characters: the registry and the branch for
a source address run it from the stored host, a new device runs it from none.
The branch for a MAC address runs it from none as well and then prefers the result
to the stored host, so that it takes the owner of an address record for an SRV
target (`hosts_agree_iff`).
-/

namespace LanDiscovery
namespace EndToEnd

open Library Library.Utf8 Library.Json Library.Outcome Library.Preference
open Scanner Scanner.MdnsNames Api

/-- The host of a snapshot is the one that is stored for a device; an empty text
is as good as none on either side. -/
def SameHost (mdnsHost : Bytes) (stored : Option Str) : Prop :=
  present mdnsHost = (truthy stored).map encode

instance (mdnsHost : Bytes) (stored : Option Str) : Decidable (SameHost mdnsHost stored) :=
  inferInstanceAs (Decidable (_ = _))

/-- The column `mdns_host` of a device, if there is such a device. -/
def storedHost (db : Db) (deviceId : Uuid) : Option Str :=
  (getDeviceRow db deviceId).bind DeviceRow.mdnsHost

/-- No SRV record of the event has a target, and the first address record has
another owner than the host. -/
def OnlyOtherAddress (ev : DiscoveryEvent) (mdnsHost : Bytes) : Prop :=
  (∀ r ∈ ev.records, r.type = typeSrv → srvTarget r = []) ∧
    ∃ r, ev.records.find? (fun r => r.type = typeA) = some r ∧ r.ownerName ≠ mdnsHost

/-! ## One list of updates -/

theorem dnsTypeName_eq_srv_iff {type : UInt16} :
    dnsTypeName type = ascii "SRV" ↔ type = typeSrv := by
  unfold dnsTypeName
  split_ifs with hA hptr hsrv htxt
  · exact iff_of_false (by decide) (hA ▸ by decide)
  · exact iff_of_false (by decide) (hptr ▸ by decide)
  · exact iff_of_true rfl hsrv
  · exact iff_of_false (by decide) hsrv
  · exact iff_of_false (by decide) hsrv

theorem isSrv_of_delivered {r : ResourceRecordView} {rec : DiscoveryRecordIn}
    (h : DeliveredRecord r rec) : isSrv rec = decide (r.type = typeSrv) := by
  have hname : isSrv rec = true ↔ r.type = typeSrv := by
    rw [isSrv, beq_iff_eq, ← dnsTypeName_eq_srv_iff, ← Option.some_inj (b := ascii "SRV"),
      ← h.typeName, ← (Option.map_injective encode_injective).eq_iff]
    exact Iff.rfl
  by_cases htype : r.type = typeSrv
  · simpa [htype] using hname
  · simpa [htype] using hname

/-- The posted host is not the empty text. -/
theorem truthy_host_of_delivered {r : ResourceRecordView} {rec : DiscoveryRecordIn}
    (h : DeliveredRecord r rec) : (truthy rec.host).map encode = present (hostLabel r) := by
  rw [← h.host, truthy_of_ne]
  intro hempty
  have hlabel := h.host
  rw [hempty] at hlabel
  unfold present at hlabel
  split at hlabel
  · exact absurd hlabel (by simp)
  · next hne => exact hne (by simpa using (Option.some.inj hlabel).symm)

/-- The update of a posted record, in terms of what was posted. -/
theorem map_recordHostUpdate {r : ResourceRecordView} {rec : DiscoveryRecordIn}
    (h : DeliveredRecord r rec) :
    (recordHostUpdate rec).map encode =
      match present (hostLabel r) with
      | none => .keep
      | some host => if r.type = typeSrv then .overwrite host else .fill host := by
  rw [← truthy_host_of_delivered h, recordHostUpdate, isSrv_of_delivered h]
  cases truthy rec.host with
  | none => rfl
  | some host =>
      by_cases htype : r.type = typeSrv
      · simp [htype, Update.map]
      · simp [htype, Update.map]

/-- A displayable record does the same to both hosts. -/
theorem hostUpdate_of_delivered {r : ResourceRecordView} {rec : DiscoveryRecordIn}
    (hdisplay : isDisplayableRecord r = true) (h : DeliveredRecord r rec) :
    (recordHostUpdate rec).map encode = hostUpdate r := by
  rw [map_recordHostUpdate h]
  rcases isDisplayableRecord_cases hdisplay with hptr | ⟨hsrv | htxt, howner⟩ | ⟨haddr, hlocal⟩
  · simp [hostUpdate, hostLabel_of_ptr hptr, hptr, typePtr, typeA]
  · by_cases htarget : srvTarget r = []
    · simp [hostUpdate, hostLabel_of_srv hsrv, htarget, hsrv, typeSrv, typeA]
    · simp [hostUpdate, hostLabel_of_srv hsrv, htarget, hsrv]
  · simp [hostUpdate, hostLabel_of_txt htxt howner, htxt, typeTxt, typeA]
  · have hne := ne_nil_of_endsWith_local hlocal
    simp [hostUpdate, hostLabel_of_a haddr hlocal, haddr, hlocal, hne, typeA,
      typeSrv]

theorem hostUpdates_of_delivered {rs : List ResourceRecordView} {recs : List DiscoveryRecordIn}
    (h : List.Forall₂ DeliveredRecord rs recs) (hdisplay : ∀ r ∈ rs, isDisplayableRecord r = true) :
    (recs.map recordHostUpdate).map (Update.map encode) = rs.map hostUpdate := by
  induction h with
  | nil => rfl
  | cons hrec _ ih =>
      obtain ⟨hhead, htail⟩ := List.forall_mem_cons.mp hdisplay
      simp only [List.map_cons, hostUpdate_of_delivered hhead hrec, ih htail]

/-- The API settles its host as the updates of the scanner's records do. -/
theorem map_settle_of_delivered {ev : DiscoveryEvent} {mac : Option Bytes}
    {event : DiscoveryEventIn} (h : Delivered ev mac event)
    (hdisplay : ∀ r ∈ ev.records, isDisplayableRecord r = true) (host : Option Str) :
    (settle host (event.records.map recordHostUpdate)).map encode =
      settle (host.map encode) (ev.records.map hostUpdate) := by
  rw [← hostUpdates_of_delivered h.records hdisplay, settle_map]

/-! ## When the branch for a MAC address agrees -/

/-- Only SRV targets overwrite. -/
theorem lastOverwrite_hostUpdate_eq_none_iff {rs : List ResourceRecordView} :
    lastOverwrite (rs.map hostUpdate) = none ↔ ∀ r ∈ rs, r.type = typeSrv → srvTarget r = [] := by
  rw [lastOverwrite_eq_none_iff, List.forall_mem_map]
  refine forall₂_congr fun r _ => ?_
  unfold hostUpdate
  by_cases hsrv : r.type = typeSrv
  · by_cases htarget : srvTarget r = []
    · simp [hsrv, hostLabel_of_srv hsrv, htarget, typeSrv, typeA]
    · simp [hsrv, hostLabel_of_srv hsrv, htarget]
  · by_cases haddr : r.type = typeA ∧ endsWith r.ownerName localSuffix = true
    · simp [haddr, typeA, typeSrv]
    · simp [hsrv, haddr]

/-- Displayable records fill in with the owner of the first address record. -/
theorem firstFill_hostUpdate {rs : List ResourceRecordView}
    (hdisplay : ∀ r ∈ rs, isDisplayableRecord r = true) :
    firstFill (rs.map hostUpdate) =
      (rs.find? fun r => r.type = typeA).map ResourceRecordView.ownerName := by
  induction rs with
  | nil => rfl
  | cons r rs ih =>
      obtain ⟨hhead, htail⟩ := List.forall_mem_cons.mp hdisplay
      rw [List.map_cons, firstFill_cons, ih htail]
      rcases isDisplayableRecord_cases hhead with hptr | ⟨hsrv | htxt, -⟩ | ⟨haddr, hlocal⟩
      · simp [hostUpdate, hptr, Update.fallback, typePtr, typeSrv, typeA]
      · by_cases htarget : hostLabel r = []
        · simp [hostUpdate, hsrv, htarget, Update.fallback, typeSrv, typeA]
        · simp [hostUpdate, hsrv, htarget, Update.fallback, typeSrv, typeA]
      · simp [hostUpdate, htxt, Update.fallback, typeTxt, typeSrv, typeA]
      · simp [hostUpdate, haddr, hlocal, Update.fallback, typeA, typeSrv]

/-- Preferring what the event says to the stored host is the rule of the registry
unless the event has only addresses, the first under another name. -/
theorem or_eq_settle_iff_records {ev : DiscoveryEvent} (mdnsHost : Bytes)
    (hdisplay : ∀ r ∈ ev.records, isDisplayableRecord r = true) :
    (settle none (ev.records.map hostUpdate)).or (present mdnsHost) =
        settle (present mdnsHost) (ev.records.map hostUpdate) ↔
      ¬ (mdnsHost ≠ [] ∧ OnlyOtherAddress ev mdnsHost) := by
  rw [or_eq_settle_iff, not_iff_not, settle_eq none, firstFill_hostUpdate hdisplay,
    OnlyOtherAddress, ← lastOverwrite_hostUpdate_eq_none_iff]
  constructor
  · rintro ⟨a, b, hstored, hevent, hne, hlast⟩
    have hhost : mdnsHost ≠ [] := by
      rintro rfl
      exact absurd hstored (by simp)
    rw [present_of_ne_nil hhost] at hstored
    obtain rfl := Option.some.inj hstored
    rw [hlast, Option.none_or, Option.none_or] at hevent
    obtain ⟨r, hfind, rfl⟩ := Option.map_eq_some_iff.mp hevent
    exact ⟨hhost, hlast, r, hfind, hne⟩
  · rintro ⟨hhost, hlast, r, hfind, hne⟩
    exact ⟨mdnsHost, r.ownerName, present_of_ne_nil hhost, by simp [hlast, hfind], hne, hlast⟩

/-! ## The stored host -/

theorem storedHost_of_mem {db : Db} {row : DeviceRow} (h : row ∈ db.devices) :
    storedHost db row.deviceId = row.mdnsHost := by
  rw [storedHost, getDeviceRow_of_mem h]
  rfl

/-- Attribution leaves the host of the resolved row. -/
theorem storedHost_resolved {db db' : Db} {event : DiscoveryEventIn} {macHint : Option Mac}
    {deviceUuid deviceId : Uuid}
    (h : resolveDeviceId db event macHint deviceUuid = .ok (deviceId, db')) :
    storedHost db' deviceId = (resolvedRow db event macHint deviceUuid).mdnsHost := by
  obtain ⟨-, -, rfl, htables⟩ := resolveDeviceId_eq_ok_iff.mp h
  refine storedHost_of_mem ?_
  rw [htables]
  exact Table.mem_upsert.mpr (Or.inl rfl)

/-- What attribution stores, from the host that was stored before: with a device
found by its MAC address what the event says or else that host, and otherwise
what the updates make of it. -/
theorem map_storedHost_resolved {db db' : Db} {ev : DiscoveryEvent} {mac : Option Bytes}
    {event : DiscoveryEventIn} {macHint : Option Mac} {deviceUuid deviceId : Uuid}
    {mdnsHost : Bytes} (hdisplay : ∀ r ∈ ev.records, isDisplayableRecord r = true)
    (hdelivered : Delivered ev mac event)
    (hresolve : resolveDeviceId db event macHint deviceUuid = .ok (deviceId, db'))
    (hbefore : SameHost mdnsHost (storedHost db deviceId)) :
    (truthy (storedHost db' deviceId)).map encode =
      if macHint.bind (findDeviceByMac db) ≠ none then
        (settle none (ev.records.map hostUpdate)).or (present mdnsHost)
      else settle (present mdnsHost) (ev.records.map hostUpdate) := by
  have hstored := storedHost_resolved hresolve
  obtain ⟨-, hfresh, rfl, -⟩ := resolveDeviceId_eq_ok_iff.mp hresolve
  have hevent : (truthy (mdnsHostFromEvent event)).map encode =
      settle none (ev.records.map hostUpdate) := by
    rw [mdnsHostFromEvent, truthy_mergeRecordHosts, map_settle_of_delivered hdelivered hdisplay]
    rfl
  rw [hstored]
  unfold SameHost at hbefore
  unfold resolvedRow at hbefore ⊢
  -- by the row that the event is attributed to, as `resolve_device_id` has its branches
  cases hres : resolution db event macHint with
  | byMac row =>
      obtain ⟨hrow, hmac, hhint⟩ := resolution_eq_byMac hres
      have hfound : macHint.bind (findDeviceByMac db) ≠ none := by
        intro hnone
        exact bind_findDeviceByMac_eq_none_iff.mp hnone row hrow (hhint ▸ hmac) hhint
      have hhost : storedHost db (row.seenByMac event).deviceId = row.mdnsHost :=
        storedHost_of_mem hrow
      simp only [hres, hhost] at hbefore
      rw [if_pos hfound, hbefore, ← hevent, ← Option.map_or, ← truthy_mergedHostByMac]
      rfl
  | bySrcIp row =>
      obtain ⟨hfound, hunused⟩ := resolution_eq_bySrcIp hres
      have hhost : storedHost db (row.seenBySrcIp event macHint).deviceId = row.mdnsHost :=
        storedHost_of_mem (findDeviceBySrcIp_eq_some hfound).1
      simp only [hres, hhost] at hbefore
      rw [if_neg (not_not.mpr (bind_findDeviceByMac_eq_none_iff.mpr hunused)), hbefore,
        ← map_settle_of_delivered hdelivered hdisplay, ← truthy_mergeRecordHosts]
      rfl
  | fresh =>
      have hid : (DeviceRow.ofEvent event macHint deviceUuid).deviceId ∉ db.deviceIds := hfresh hres
      have hhost : storedHost db (DeviceRow.ofEvent event macHint deviceUuid).deviceId = none := by
        rw [storedHost, getDeviceRow_of_notMem hid]
        rfl
      simp only [hres, hhost] at hbefore
      rw [if_neg (not_not.mpr (bind_findDeviceByMac_eq_none_iff.mpr (resolution_eq_fresh hres).2)),
        hbefore]
      exact hevent

/-- **The two hosts.**  An event of displayable records whose text is read by the
API, a snapshot and a device with the same host: merging runs SRV targets and
address owners by the rule of the registry, and attribution stores the same host,
unless the device is found by its MAC address, has a host, and the event names it
by addresses only, the first of which is another one. -/
theorem hosts_agree_iff (db db' : Db) (ev : DiscoveryEvent) (mac : Option Bytes)
    (event : DiscoveryEventIn) (macHint : Option Mac) (deviceUuid deviceId : Uuid)
    (snap : DeviceSnapshot) (hdisplay : ∀ r ∈ ev.records, isDisplayableRecord r = true)
    (hdelivered : Delivered ev mac event)
    (hresolve : resolveDeviceId db event macHint deviceUuid = .ok (deviceId, db'))
    (hbefore : SameHost snap.mdnsHost (storedHost db deviceId)) :
    (present (mergeRecords snap ev).1.mdnsHost =
        settle (present snap.mdnsHost) (ev.records.map hostUpdate) ∧
      SameHost (mergeRecords snap ev).1.mdnsHost (storedHost db' deviceId)) ↔
      ¬ (macHint.bind (findDeviceByMac db) ≠ none ∧ snap.mdnsHost ≠ [] ∧
        OnlyOtherAddress ev snap.mdnsHost) := by
  rw [and_iff_right (present_mergeRecords snap ev), SameHost, present_mergeRecords,
    map_storedHost_resolved hdisplay hdelivered hresolve hbefore]
  by_cases hfound : macHint.bind (findDeviceByMac db) ≠ none
  · rw [if_pos hfound, eq_comm, or_eq_settle_iff_records snap.mdnsHost hdisplay,
      and_iff_right hfound]
  · rw [if_neg hfound]
    exact iff_of_true rfl fun h => hfound h.1

/-! ### A device that announces another name -/

/-- The device `tv.local` at `192.168.1.10`, with its MAC address. -/
def tvDevice : Db :=
  runOperation sampleRuntime Db.empty
    (.ingest (sampleInput "192.168.1.10" (some "aa:aa:aa:aa:aa:aa")
      [sampleRecord "A" "tv.local" (some "tv.local") 1000] 1000 0))

/-- The snapshot of the same device. -/
def tvSnapshot : DeviceSnapshot :=
  { DeviceSnapshot.empty with srcIp := ascii "192.168.1.10", mdnsHost := ascii "tv.local" }

/-- An address record of `pc.local` from the same source. -/
def pcEvent : DiscoveryEvent where
  timestampMs := 2000
  srcIp := ascii "192.168.1.10"
  records :=
    [{ ownerName := ascii "pc.local", type := typeA, rdataText := ascii "192.168.1.10",
       ttl := 120, observedAtMs := 2000 }]

/-- The request for the event. -/
def pcRequest : DiscoveryEventIn where
  timestampMs := 2000
  srcIp := str "192.168.1.10"
  records :=
    [{ sampleRecord "A" "pc.local" (some "pc.local") 2000 with rdataText := str "192.168.1.10" }]

theorem pcEvent_delivered : Delivered pcEvent none pcRequest where
  cleanSrcIp := cleanText_of_all (by decide)
  cleanMac := cleanText_nil
  timestampMs := by decide
  srcIp := by decide
  mac := by decide
  records := .cons
    { clean := ⟨cleanText_of_all (by decide), cleanText_of_all (by decide)⟩
      ownerName := by decide
      type := by decide
      typeName := by decide
      rdataText := by decide
      ttl := by decide
      lastSeenMs := by decide
      service := by decide
      host := by decide } .nil

/-- The device after the event, with what the neighbour table says about it. -/
def pcAttributed (macHint : Option Mac) : Db :=
  committed tvDevice (resolveDeviceId tvDevice pcRequest macHint (sampleUuid 1))

/-- Without a MAC address both sides keep `tv.local`. -/
theorem pcEvent_agrees :
    present (mergeRecords tvSnapshot pcEvent).1.mdnsHost =
        settle (present tvSnapshot.mdnsHost) (pcEvent.records.map hostUpdate) ∧
      SameHost (mergeRecords tvSnapshot pcEvent).1.mdnsHost
        (storedHost (pcAttributed none) (sampleUuid 0)) :=
  (hosts_agree_iff tvDevice (pcAttributed none) pcEvent none pcRequest none (sampleUuid 1)
    (sampleUuid 0) tvSnapshot (by decide) pcEvent_delivered (by decide +kernel)
    (by decide +kernel)).mpr fun h => h.1 rfl

/-- With it the API renames the device to `pc.local`, and the scanner does not. -/
theorem pcEvent_renames :
    ¬ ∀ db db' ev mac event macHint deviceUuid deviceId snap,
      (∀ r ∈ ev.records, isDisplayableRecord r = true) → Delivered ev mac event →
      resolveDeviceId db event macHint deviceUuid = .ok (deviceId, db') →
      SameHost snap.mdnsHost (storedHost db deviceId) →
        present (mergeRecords snap ev).1.mdnsHost =
            settle (present snap.mdnsHost) (ev.records.map hostUpdate) ∧
          SameHost (mergeRecords snap ev).1.mdnsHost (storedHost db' deviceId) := by
  intro h
  have hsame := (h tvDevice (pcAttributed (normalizeMac (some (str "aa:aa:aa:aa:aa:aa")))) pcEvent
    none pcRequest (normalizeMac (some (str "aa:aa:aa:aa:aa:aa"))) (sampleUuid 1) (sampleUuid 0)
    tvSnapshot (by decide) pcEvent_delivered (by decide +kernel) (by decide +kernel)).2
  revert hsame
  decide +kernel

end EndToEnd
end LanDiscovery

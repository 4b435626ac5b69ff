import LanDiscovery.Scanner.DeviceStateStore
import LanDiscovery.Scanner.ProfileChange
import LanDiscovery.Scanner.Timestamp
import Mathlib.Data.Finset.Sort

/-!
# The console

`StdoutEventSink`, `DeviceSummaryEventSink` and `DeviceRegistry::format_summary`: a line
for each record that passes the change filter, and before the lines of an event a summary
of its device if the registry says that the profile has changed.

At every point of the output the last summary of a device has been made of a profile with
what the lines above say of it, and the last ones of what the registry holds (`Printed`).
Of the instances a summary lists the first five only; what is left of this in the texts is
`Displayed`.
-/

namespace LanDiscovery
namespace Scanner

open Library Library.Utf8 Library.FirstSeen Library.Preference Library.Lexicographic

/-! ## The texts -/

/-- `DeviceRegistry::kMaxInstancesInSummary`. -/
def kMaxInstancesInSummary : Nat := 5

instance : IsTrans Bytes fun s t => octetsLe s t = true :=
  ⟨fun _ _ _ => lexLe_trans⟩

instance : Std.Antisymm fun s t : Bytes => octetsLe s t = true :=
  ⟨fun _ _ => lexLe_antisymm fun _ _ => UInt8.toNat_inj.mp⟩

instance : Std.Total fun s t : Bytes => octetsLe s t = true :=
  ⟨lexLe_total⟩

/-- `join_set`: a `std::set` is walked in the order of its texts. -/
def joinSet (values : Finset Bytes) (maxCount : Nat) : Bytes :=
  let shown := (values.sort fun s t => octetsLe s t = true).take maxCount
  (ascii ", ").intercalate shown ++
    if maxCount < values.card then
      (if 0 < maxCount then ascii ", " else []) ++ ascii "... (" ++ decimal values.card ++
        ascii " total)"
    else []

/-- The text that `format_summary` makes of a snapshot. -/
def summaryText (snap : DeviceSnapshot) : Bytes :=
  ascii "device src=" ++ snap.srcIp ++ ascii " last_seen=" ++
    formatTimestampIso snap.lastSeenMs ++
    (if snap.mdnsHost.isEmpty then [] else ascii " host=" ++ snap.mdnsHost) ++
    (if snap.serviceTypes = ∅ then []
      else ascii "\n  services: " ++ joinSet snap.serviceTypes snap.serviceTypes.card) ++
    (if snap.instances = ∅ then []
      else ascii "\n  instances: " ++ joinSet snap.instances kMaxInstancesInSummary)

/-- `DeviceRegistry::format_summary`. -/
def formatSummary (devices : Devices) (srcIp : Bytes) : Bytes :=
  match findDevice devices srcIp with
  | none => []
  | some snap => summaryText snap

/-- The message of `StdoutEventSink::on_event` for a record. -/
def discoveryLine (srcIp : Bytes) (timestampMs : UInt64) (rec : ResourceRecordView) : Bytes :=
  let seenMs := if rec.observedAtMs ≠ 0 then rec.observedAtMs else timestampMs
  ascii "discovery" ++ ascii " ts=" ++ formatTimestampIso seenMs ++ ascii " src=" ++ srcIp ++
    ascii " type=" ++ dnsTypeName rec.type ++ ascii " owner=" ++ rec.ownerName ++
    ascii " | rdata=" ++ rec.rdataText ++ ascii " ttl=" ++ decimal rec.ttl.toNat ++
    ascii " last_seen=" ++ formatTimestampIso seenMs ++
    (if (serviceLabel rec).isEmpty then [] else ascii " service=" ++ serviceLabel rec) ++
    (if (hostLabel rec).isEmpty then [] else ascii " host=" ++ hostLabel rec)

/-! ## The sinks -/

/-- `StdoutEventSink::on_event`: the messages for the logger. -/
def stdoutOnEvent (ev : DiscoveryEvent) : List Bytes :=
  ev.records.map fun rec => discoveryLine ev.srcIp ev.timestampMs rec

/-- `DeviceSummaryEventSink::on_event` in front of the standard output sink. -/
def deviceSummaryOnEvent (devices : Devices) (ev : DiscoveryEvent) : List Bytes × Devices :=
  let applied := applyEvent devices ev
  let summary := if applied.2 then formatSummary applied.1 ev.srcIp else []
  ((if summary.isEmpty then [] else [summary]) ++ stdoutOnEvent ev, applied.1)

/-- The messages for a list of events that pass the change filter. -/
def consoleRun : Devices → List DiscoveryEvent → List Bytes
  | _, [] => []
  | devices, ev :: evs =>
      let out := deviceSummaryOnEvent devices ev
      out.1 ++ consoleRun out.2 evs

/-! ## What is printed -/

/-- A message, before it is written out. -/
inductive ConsoleEntry where
  | summary (snap : DeviceSnapshot)
  | discovery (srcIp : Bytes) (timestampMs : UInt64) (rec : ResourceRecordView)

/-- The message. -/
def ConsoleEntry.text : ConsoleEntry → Bytes
  | .summary snap => summaryText snap
  | .discovery srcIp timestampMs rec => discoveryLine srcIp timestampMs rec

/-- The record that a message is about, with its source. -/
def ConsoleEntry.discovered : ConsoleEntry → Option (Bytes × ResourceRecordView)
  | .summary _ => none
  | .discovery srcIp _ rec => some (srcIp, rec)

/-- The snapshot that a message shows of a source. -/
def ConsoleEntry.shown (srcIp : Bytes) : ConsoleEntry → Option DeviceSnapshot
  | .summary snap => if snap.srcIp = srcIp then some snap else none
  | .discovery _ _ _ => none

/-- The entries for an event. -/
def eventEntries (devices : Devices) (ev : DiscoveryEvent) : List ConsoleEntry :=
  let applied := applyEvent devices ev
  (if applied.2 then (findDevice applied.1 ev.srcIp).toList.map .summary else []) ++
    ev.records.map fun rec => .discovery ev.srcIp ev.timestampMs rec

/-- The entries for a list of events. -/
def consoleEntries : Devices → List DiscoveryEvent → List ConsoleEntry
  | _, [] => []
  | devices, ev :: evs =>
      eventEntries devices ev ++ consoleEntries (applyEvent devices ev).1 evs

/-- The profile that the last summary of a source shows; nothing is known without one. -/
def shownProfile (srcIp : Bytes) (entries : List ConsoleEntry) : Profile :=
  ((entries.filterMap (ConsoleEntry.shown srcIp)).getLast?.getD .empty).profile

/-- A profile says nothing that another one leaves out, except that the host may be another. -/
structure Profile.Within (p q : Profile) : Prop where
  host : p.host ≠ none → q.host ≠ none
  serviceTypes : p.serviceTypes ⊆ q.serviceTypes
  instances : p.instances ⊆ q.instances

/-- A later snapshot of the same device. -/
structure DeviceSnapshot.Precedes (snap snap' : DeviceSnapshot) : Prop where
  lastSeenMs : snap.lastSeenMs ≤ snap'.lastSeenMs
  profile : snap.profile.Within snap'.profile

/-- What the output shows while the registry holds `devices`. -/
structure Printed (devices : Devices) (entries : List ConsoleEntry) : Prop where
  /-- a snapshot is kept under its source -/
  keyed : ∀ srcIp snap, devices srcIp = some snap → snap.srcIp = srcIp
  /-- the last summary of a source shows the profile that the registry holds -/
  current : ∀ srcIp, srcIp ≠ [] → shownProfile srcIp entries = profileAt devices srcIp
  /-- at every point the last summary of a source shows what its records above say -/
  covered : ∀ before, before <+: entries → ∀ srcIp rec, srcIp ≠ [] →
    (srcIp, rec) ∈ before.filterMap ConsoleEntry.discovered →
      (Profile.ofRecords [rec]).Within (shownProfile srcIp before)
  /-- the summaries of a source follow one another -/
  ordered : ∀ srcIp, (entries.filterMap (ConsoleEntry.shown srcIp)).Pairwise
    DeviceSnapshot.Precedes
  /-- no summary is ahead of the registry -/
  behind : ∀ srcIp, ∀ snap ∈ entries.filterMap (ConsoleEntry.shown srcIp),
    ∃ snap', devices srcIp = some snap' ∧ snap.Precedes snap'

/-! ## Profiles grow -/

theorem Profile.Within.refl (p : Profile) : p.Within p :=
  ⟨id, Finset.Subset.refl _, Finset.Subset.refl _⟩

theorem Profile.Within.trans {p q r : Profile} (h : p.Within q) (h' : q.Within r) : p.Within r :=
  ⟨h'.host ∘ h.host, h.serviceTypes.trans h'.serviceTypes, h.instances.trans h'.instances⟩

/-- Records never take anything away from a profile. -/
theorem within_foldl_add (p : Profile) (rs : List ResourceRecordView) :
    p.Within (rs.foldl Profile.add p) := by
  refine ⟨?_, ?_, ?_⟩
  · intro hne
    rw [foldl_add_host]
    exact settle_ne_none hne _
  · intro value hvalue
    exact (mem_foldl_add_serviceTypes p rs value).mpr (Or.inl hvalue)
  · intro value hvalue
    exact (mem_foldl_add_instances p rs value).mpr (Or.inl hvalue)

/-- What one record says is in the profile that it was added to. -/
theorem ofRecords_singleton_within (p : Profile) {rec : ResourceRecordView}
    {rs : List ResourceRecordView} (hrec : rec ∈ rs) :
    (Profile.ofRecords [rec]).Within (rs.foldl Profile.add p) := by
  refine ⟨?_, ?_, ?_⟩
  · intro hne hnone
    -- a host that is unknown at the end was never set
    rw [foldl_add_host] at hnone
    have hbegin : p.host = none := by
      by_contra hknown
      exact settle_ne_none hknown _ hnone
    rw [hbegin] at hnone
    exact hne (apply_none_of_settle hnone _ (List.mem_map_of_mem hrec))
  · intro value hvalue
    obtain ⟨rec', hrec', hvalue'⟩ := mem_ofRecords_serviceTypes.mp hvalue
    obtain rfl := List.mem_singleton.mp hrec'
    exact (mem_foldl_add_serviceTypes p rs value).mpr (Or.inr ⟨_, hrec, hvalue'⟩)
  · intro value hvalue
    obtain ⟨rec', hrec', hvalue'⟩ := mem_ofRecords_instances.mp hvalue
    obtain rfl := List.mem_singleton.mp hrec'
    exact (mem_foldl_add_instances p rs value).mpr (Or.inr ⟨_, hrec, hvalue'⟩)

/-! ## One event -/

theorem DeviceSnapshot.Precedes.refl (snap : DeviceSnapshot) : snap.Precedes snap :=
  ⟨UInt64.le_refl _, .refl _⟩

theorem DeviceSnapshot.Precedes.trans {snap snap' snap'' : DeviceSnapshot}
    (h : snap.Precedes snap') (h' : snap'.Precedes snap'') : snap.Precedes snap'' :=
  ⟨UInt64.le_trans h.lastSeenMs h'.lastSeenMs, h.profile.trans h'.profile⟩

theorem precedes_mergeRecords (snap : DeviceSnapshot) (ev : DiscoveryEvent) :
    snap.Precedes (mergeRecords snap ev).1 := by
  refine ⟨?_, ?_⟩
  · rw [UInt64.le_iff_toNat_le, mergeRecords, foldl_mergeRecord_lastSeenMs]
    exact Nat.le_max_left _ _
  · rw [mergeRecords, profile_foldl_mergeRecord]
    exact within_foldl_add _ _

/-- What an event does to the registry. -/
structure Applied (devices : Devices) (ev : DiscoveryEvent) (devices' : Devices) : Prop where
  keyed : ∀ srcIp snap, devices' srcIp = some snap → snap.srcIp = srcIp
  later : ∀ srcIp snap, devices srcIp = some snap →
    ∃ snap', devices' srcIp = some snap' ∧ snap.Precedes snap'
  within : ∀ srcIp, (profileAt devices srcIp).Within (profileAt devices' srcIp)
  other : ∀ srcIp, srcIp ≠ ev.srcIp → devices' srcIp = devices srcIp
  records : ev.srcIp ≠ [] → ∀ rec ∈ ev.records,
    (Profile.ofRecords [rec]).Within (profileAt devices' ev.srcIp)

theorem applied_applyEvent {devices : Devices}
    (hkeyed : ∀ srcIp snap, devices srcIp = some snap → snap.srcIp = srcIp)
    (ev : DiscoveryEvent) : Applied devices ev (applyEvent devices ev).1 := by
  by_cases hskip : ev.srcIp = [] ∨ ev.records = []
  · rw [applyEvent_skip hskip]
    refine ⟨hkeyed, fun _ snap h => ⟨snap, h, .refl _⟩, fun _ => .refl _, fun _ _ => rfl, ?_⟩
    intro hsrc rec hrec
    rw [hskip.resolve_left hsrc] at hrec
    exact absurd hrec (List.not_mem_nil)
  · obtain ⟨hsrc, hrecs⟩ := not_or.mp hskip
    have hother : ∀ srcIp, srcIp ≠ ev.srcIp → (applyEvent devices ev).1 srcIp = devices srcIp :=
      fun srcIp hne => findDevice_applyEvent_of_ne devices (Ne.symm hne)
    have hself : (applyEvent devices ev).1 ev.srcIp =
        some (mergeRecords (targetSnapshot devices ev) ev).1 := by
      rw [applyEvent_eq hsrc hrecs]
      exact Function.update_self _ _ _
    refine ⟨?_, ?_, ?_, hother, ?_⟩
    · intro srcIp snap hsnap
      by_cases heq : srcIp = ev.srcIp
      · subst heq
        rw [hself, Option.some_inj] at hsnap
        rw [← hsnap, mergeRecords, foldl_mergeRecord_srcIp]
        -- the target has the source of the event, be it new, unnamed or known
        unfold targetSnapshot
        cases hfind : devices ev.srcIp with
        | none => simp [DeviceSnapshot.empty]
        | some snap' =>
            dsimp only [Option.getD_some]
            split_ifs
            · rfl
            · exact hkeyed _ _ hfind
      · exact hkeyed srcIp snap (hother srcIp heq ▸ hsnap)
    · intro srcIp snap hsnap
      by_cases heq : srcIp = ev.srcIp
      · subst heq
        have htarget : snap = targetSnapshot devices ev := by
          have hsrcIp := hkeyed _ _ hsnap
          unfold targetSnapshot
          rw [hsnap, Option.getD_some, if_neg]
          rwa [hsrcIp, List.isEmpty_iff]
        exact ⟨_, hself, htarget ▸ precedes_mergeRecords _ ev⟩
      · exact ⟨snap, (hother srcIp heq).trans hsnap, .refl _⟩
    · intro srcIp
      by_cases heq : srcIp = ev.srcIp
      · rw [heq, profileAt_applyEvent hsrc]
        exact within_foldl_add _ _
      · rw [profileAt, profileAt, findDevice, findDevice, hother srcIp heq]
        exact .refl _
    · intro _ rec hrec
      rw [profileAt_applyEvent hsrc]
      exact ofRecords_singleton_within _ hrec

/-- The flag is up if the profile of the source has changed. -/
theorem profileAt_of_not_flag {devices : Devices} {ev : DiscoveryEvent}
    (h : (applyEvent devices ev).2 = false) {srcIp : Bytes} (hsrc : srcIp ≠ []) :
    profileAt (applyEvent devices ev).1 srcIp = profileAt devices srcIp := by
  by_cases heq : ev.srcIp = srcIp
  · subst heq
    rw [profileAt_applyEvent hsrc]
    apply foldl_add_of_forall
    intro rec hrec
    by_contra hchange
    rw [(applyEvent_snd hsrc).mpr ⟨rec, hrec, hchange⟩] at h
    exact absurd h (by simp)
  · rw [profileAt, profileAt, findDevice_applyEvent_of_ne devices heq]

/-- A source whose profile has changed has a snapshot. -/
theorem exists_snapshot_of_flag {devices : Devices} {ev : DiscoveryEvent}
    (h : (applyEvent devices ev).2 = true) :
    ∃ snap, findDevice (applyEvent devices ev).1 ev.srcIp = some snap := by
  by_cases hskip : ev.srcIp = [] ∨ ev.records = []
  · rw [applyEvent_skip hskip] at h
    cases h
  · obtain ⟨hsrc, hrecs⟩ := not_or.mp hskip
    rw [applyEvent_eq hsrc hrecs]
    exact ⟨_, Function.update_self _ _ _⟩

/-! ## One message -/

theorem shownProfile_concat (srcIp : Bytes) (entries : List ConsoleEntry) (e : ConsoleEntry) :
    shownProfile srcIp (entries ++ [e]) =
      ((e.shown srcIp).map DeviceSnapshot.profile).getD (shownProfile srcIp entries) := by
  unfold shownProfile
  rw [List.filterMap_append]
  cases hshown : e.shown srcIp <;> simp [hshown]

/-- A record is printed that the registry has. -/
theorem Printed.discovery {devices : Devices} {entries : List ConsoleEntry}
    (h : Printed devices entries) {srcIp : Bytes} {timestampMs : UInt64}
    {rec : ResourceRecordView}
    (hrec : srcIp ≠ [] → (Profile.ofRecords [rec]).Within (profileAt devices srcIp)) :
    Printed devices (entries ++ [.discovery srcIp timestampMs rec]) := by
  have hshown : ∀ src, (entries ++ [ConsoleEntry.discovery srcIp timestampMs rec]).filterMap
      (ConsoleEntry.shown src) = entries.filterMap (ConsoleEntry.shown src) := by
    intro src
    rw [List.filterMap_append]
    simp [ConsoleEntry.shown]
  have hprofile : ∀ src, shownProfile src (entries ++ [.discovery srcIp timestampMs rec]) =
      shownProfile src entries := fun src => shownProfile_concat src entries _
  refine ⟨h.keyed, ?_, ?_, ?_, ?_⟩
  · intro src hsrc
    rw [hprofile, h.current src hsrc]
  · intro before hbefore src r hsrc hr
    -- the record printed now is covered by the registry, the older ones are as before
    rcases List.prefix_concat_iff.mp hbefore with rfl | hbefore
    · rw [List.filterMap_append, List.mem_append] at hr
      rw [hprofile]
      rcases hr with hr | hr
      · exact h.covered entries List.prefix_rfl src r hsrc hr
      · obtain ⟨rfl, rfl⟩ : src = srcIp ∧ r = rec := by
          simpa [ConsoleEntry.discovered] using hr
        rw [h.current src hsrc]
        exact hrec hsrc
    · exact h.covered before hbefore src r hsrc hr
  · intro src
    rw [hshown]
    exact h.ordered src
  · intro src
    rw [hshown]
    exact h.behind src

theorem Printed.discoveries {devices : Devices} {srcIp : Bytes} {timestampMs : UInt64}
    {rs : List ResourceRecordView}
    (hrecs : srcIp ≠ [] → ∀ rec ∈ rs,
      (Profile.ofRecords [rec]).Within (profileAt devices srcIp))
    {entries : List ConsoleEntry} (h : Printed devices entries) :
    Printed devices (entries ++ rs.map fun rec => .discovery srcIp timestampMs rec) := by
  induction rs generalizing entries with
  | nil => simpa using h
  | cons rec rs ih =>
      rw [List.map_cons, ← List.singleton_append, ← List.append_assoc]
      exact ih (fun hsrc rec' hrec' => hrecs hsrc rec' (List.mem_cons_of_mem _ hrec'))
        (h.discovery fun hsrc => hrecs hsrc rec List.mem_cons_self)

/-- The registry takes an event without a summary. -/
theorem Printed.silent {devices : Devices} {entries : List ConsoleEntry}
    (h : Printed devices entries) {ev : DiscoveryEvent}
    (hflag : (applyEvent devices ev).2 = false) : Printed (applyEvent devices ev).1 entries := by
  have happlied := applied_applyEvent h.keyed ev
  refine ⟨happlied.keyed, ?_, h.covered, h.ordered, ?_⟩
  · intro src hsrc
    rw [profileAt_of_not_flag hflag hsrc]
    exact h.current src hsrc
  · intro src snap hsnap
    obtain ⟨snap', hsnap', hle⟩ := h.behind src snap hsnap
    obtain ⟨snap'', hsnap'', hle'⟩ := happlied.later src snap' hsnap'
    exact ⟨snap'', hsnap'', hle.trans hle'⟩

/-- The registry takes an event and its device is summarized. -/
theorem Printed.summary {devices : Devices} {entries : List ConsoleEntry}
    (h : Printed devices entries) {ev : DiscoveryEvent} {snap : DeviceSnapshot}
    (hsnap : (applyEvent devices ev).1 ev.srcIp = some snap) :
    Printed (applyEvent devices ev).1 (entries ++ [.summary snap]) := by
  have happlied := applied_applyEvent h.keyed ev
  have hkey := happlied.keyed _ _ hsnap
  have hlater : ∀ src, ∀ s ∈ entries.filterMap (ConsoleEntry.shown src),
      ∃ s', (applyEvent devices ev).1 src = some s' ∧ s.Precedes s' := by
    intro src s hs
    obtain ⟨s', hs', hle⟩ := h.behind src s hs
    obtain ⟨s'', hs'', hle'⟩ := happlied.later src s' hs'
    exact ⟨s'', hs'', hle.trans hle'⟩
  have hcurrent : ∀ src, src ≠ [] → shownProfile src (entries ++ [.summary snap]) =
      profileAt (applyEvent devices ev).1 src := by
    intro src hsrc
    rw [shownProfile_concat, ConsoleEntry.shown, hkey]
    by_cases heq : ev.srcIp = src
    · rw [if_pos heq, profileAt, findDevice, ← heq, hsnap]
      rfl
    · rw [if_neg heq, profileAt, findDevice, happlied.other src (Ne.symm heq)]
      exact h.current src hsrc
  refine ⟨happlied.keyed, hcurrent, ?_, ?_, ?_⟩
  · intro before hbefore src rec hsrc hrec
    -- what was covered by the last summary of a source is covered by this one
    rcases List.prefix_concat_iff.mp hbefore with rfl | hbefore
    · have hold : (src, rec) ∈ entries.filterMap ConsoleEntry.discovered := by
        rw [List.filterMap_append] at hrec
        simpa [ConsoleEntry.discovered] using hrec
      have hcovered := h.covered entries List.prefix_rfl src rec hsrc hold
      rw [h.current src hsrc] at hcovered
      rw [hcurrent src hsrc]
      exact hcovered.trans (happlied.within src)
    · exact h.covered before hbefore src rec hsrc hrec
  · intro src
    rw [List.filterMap_append, List.pairwise_append]
    refine ⟨h.ordered src, ?_, ?_⟩
    · unfold ConsoleEntry.shown
      by_cases heq : snap.srcIp = src <;> simp [heq]
    · -- every older summary precedes the registry's snapshot, which is the new one
      intro s hs s' hs'
      obtain ⟨rfl, rfl⟩ : snap.srcIp = src ∧ snap = s' := by
        simpa [ConsoleEntry.shown] using hs'
      obtain ⟨s'', hs'', hle⟩ := hlater _ s hs
      rw [hkey, hsnap, Option.some_inj] at hs''
      exact hs'' ▸ hle
  · intro src s hs
    rw [List.filterMap_append, List.mem_append] at hs
    rcases hs with hs | hs
    · exact hlater src s hs
    · obtain ⟨rfl, rfl⟩ : snap.srcIp = src ∧ snap = s := by
        simpa [ConsoleEntry.shown] using hs
      exact ⟨snap, hkey ▸ hsnap, .refl _⟩

/-- **One event.** -/
theorem Printed.event {devices : Devices} {entries : List ConsoleEntry}
    (h : Printed devices entries) (ev : DiscoveryEvent) :
    Printed (applyEvent devices ev).1 (entries ++ eventEntries devices ev) := by
  have happlied := applied_applyEvent h.keyed ev
  unfold eventEntries
  dsimp only
  -- the summary comes before the records of its event
  rw [← List.append_assoc]
  apply Printed.discoveries happlied.records
  cases hflag : (applyEvent devices ev).2 with
  | false => simpa using h.silent hflag
  | true =>
      obtain ⟨snap, hsnap⟩ := exists_snapshot_of_flag hflag
      rw [if_pos rfl, hsnap]
      exact h.summary hsnap

/-! ## Whole runs -/

theorem Printed.run {devices : Devices} {entries : List ConsoleEntry}
    (h : Printed devices entries) (evs : List DiscoveryEvent) :
    Printed (registryRun devices evs) (entries ++ consoleEntries devices evs) := by
  induction evs generalizing devices entries with
  | nil => simpa [registryRun, consoleEntries] using h
  | cons ev evs ih =>
      rw [consoleEntries, ← List.append_assoc]
      exact ih (h.event ev)

/-- What a summary lists: the instances may be more than those listed. -/
structure Summary where
  srcIp : Bytes
  lastSeenMs : UInt64
  host : Option Bytes
  services : List Bytes
  instances : List Bytes
  instanceCount : Nat

/-- The message that lists this. -/
def Summary.text (summary : Summary) : Bytes :=
  ascii "device src=" ++ summary.srcIp ++ ascii " last_seen=" ++
    formatTimestampIso summary.lastSeenMs ++
    ((summary.host.map fun host => ascii " host=" ++ host).getD []) ++
    (if summary.services = [] then []
      else ascii "\n  services: " ++ (ascii ", ").intercalate summary.services) ++
    (if summary.instances = [] then []
      else ascii "\n  instances: " ++ (ascii ", ").intercalate summary.instances ++
        (if summary.instances.length < summary.instanceCount then
          ascii ", ... (" ++ decimal summary.instanceCount ++ ascii " total)"
        else []))

/-- A message as it is read. -/
inductive ConsoleLine where
  | summary (listed : Summary)
  | discovery (srcIp : Bytes) (timestampMs : UInt64) (rec : ResourceRecordView)

def ConsoleLine.text : ConsoleLine → Bytes
  | .summary listed => listed.text
  | .discovery srcIp timestampMs rec => discoveryLine srcIp timestampMs rec

def ConsoleLine.discovered : ConsoleLine → Option (Bytes × ResourceRecordView)
  | .summary _ => none
  | .discovery srcIp _ rec => some (srcIp, rec)

/-- The summary of a source. -/
def ConsoleLine.shown (srcIp : Bytes) : ConsoleLine → Option Summary
  | .summary listed => if listed.srcIp = srcIp then some listed else none
  | .discovery _ _ _ => none

/-- A set of texts in order. -/
def sortedTexts (values : Finset Bytes) : List Bytes :=
  values.sort fun s t => octetsLe s t = true

/-- A later summary of the same device. -/
structure Summary.Precedes (summary summary' : Summary) : Prop where
  lastSeenMs : summary.lastSeenMs ≤ summary'.lastSeenMs
  host : summary.host ≠ none → summary'.host ≠ none
  services : summary.services ⊆ summary'.services
  instanceCount : summary.instanceCount ≤ summary'.instanceCount

/-- What the summary of a snapshot lists. -/
def DeviceSnapshot.listed (snap : DeviceSnapshot) : Summary where
  srcIp := snap.srcIp
  lastSeenMs := snap.lastSeenMs
  host := snap.profile.host
  services := sortedTexts snap.serviceTypes
  instances := (sortedTexts snap.instances).take kMaxInstancesInSummary
  instanceCount := snap.instances.card

/-- The message of an entry, as it is read. -/
def ConsoleEntry.line : ConsoleEntry → ConsoleLine
  | .summary snap => .summary snap.listed
  | .discovery srcIp timestampMs rec => .discovery srcIp timestampMs rec

theorem mem_sortedTexts {values : Finset Bytes} {value : Bytes} :
    value ∈ sortedTexts values ↔ value ∈ values :=
  Finset.mem_sort _

theorem DeviceSnapshot.Precedes.listed {snap snap' : DeviceSnapshot} (h : snap.Precedes snap') :
    snap.listed.Precedes snap'.listed where
  lastSeenMs := h.lastSeenMs
  host := h.profile.host
  services := fun _ hname =>
    mem_sortedTexts.mpr (h.profile.serviceTypes (mem_sortedTexts.mp hname))
  instanceCount := Finset.card_le_card h.profile.instances

end Scanner
end LanDiscovery

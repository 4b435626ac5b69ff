import LanDiscovery.Scanner.PacketInterpreter

/-!
# The change filter

`DeviceStateStore::filter_unseen`, `ChangeFilteredEventSink::on_event` and the
part of `DiscoveryEngine::worker_loop` that feeds it.  The store is a set of
keys that only grows; over a whole run the filter is one first-occurrence filter
by store key (`emittedRecords_filterRun`).
-/

namespace LanDiscovery
namespace Scanner

open Library Library.Outcome Library.FirstSeen Library.Utf8

/-- `DeviceStateStore::filter_unseen`, on the set `seen_keys_`. -/
def filterUnseen (seenKeys : Finset Bytes) (srcIp : Bytes)
    (records : List ResourceRecordView) : List ResourceRecordView × Finset Bytes :=
  scan (recordStoreKey srcIp) seenKeys records

/-- `ChangeFilteredEventSink::on_event`: what is passed to the inner sink, and
the store afterwards. -/
def changeFilteredOnEvent (seenKeys : Finset Bytes) (ev : DiscoveryEvent) :
    Option DiscoveryEvent × Finset Bytes :=
  if ev.records.isEmpty then (none, seenKeys)
  else
    let filtered := filterUnseen seenKeys ev.srcIp ev.records
    if filtered.1.isEmpty then (none, filtered.2)
    else (some { ev with records := filtered.1 }, filtered.2)

/-- A run of the sink: the events passed on, in order, and the final store. -/
def filterRun : Finset Bytes → List DiscoveryEvent → List DiscoveryEvent × Finset Bytes
  | seenKeys, [] => ([], seenKeys)
  | seenKeys, ev :: evs =>
      let out := changeFilteredOnEvent seenKeys ev
      let rest := filterRun out.2 evs
      (out.1.toList ++ rest.1, rest.2)

/-- The records of an event together with their source. -/
def eventRecords (ev : DiscoveryEvent) : List (Bytes × ResourceRecordView) :=
  ev.records.map fun rec => (ev.srcIp, rec)

/-- The records of several events together with their sources, in order. -/
def emittedRecords (evs : List DiscoveryEvent) : List (Bytes × ResourceRecordView) :=
  evs.flatMap eventRecords

/-- The store key of a record with its source. -/
def storeKey (p : Bytes × ResourceRecordView) : Bytes :=
  recordStoreKey p.1 p.2

/-- The identity of a record: source, owner, type and RDATA text. -/
def recordTuple (p : Bytes × ResourceRecordView) : Bytes × Bytes × UInt16 × Bytes :=
  (p.1, p.2.ownerName, p.2.type, p.2.rdataText)

theorem storeKey_of_recordTuple_eq {p q : Bytes × ResourceRecordView}
    (h : recordTuple p = recordTuple q) : storeKey p = storeKey q := by
  obtain ⟨src, r⟩ := p
  obtain ⟨src', r'⟩ := q
  simp only [recordTuple, Prod.mk.injEq] at h
  obtain ⟨rfl, hname, htype, htext⟩ := h
  simp only [storeKey, recordStoreKey_eq, recordContentKey_eq, hname, htype, htext]

/-- Filtering one event, seen on records with their source. -/
@[simp] theorem filterUnseen_pairs (seenKeys : Finset Bytes) (srcIp : Bytes)
    (records : List ResourceRecordView) :
    scan storeKey seenKeys (records.map fun rec => (srcIp, rec)) =
      ((filterUnseen seenKeys srcIp records).1.map fun rec => (srcIp, rec),
        (filterUnseen seenKeys srcIp records).2) := by
  rw [scan_map]
  rfl

/-- One call of the sink passes on the unseen records of the event. -/
@[simp] theorem eventRecords_changeFilteredOnEvent (seenKeys : Finset Bytes) (ev : DiscoveryEvent) :
    (emittedRecords (changeFilteredOnEvent seenKeys ev).1.toList,
        (changeFilteredOnEvent seenKeys ev).2) =
      scan storeKey seenKeys (eventRecords ev) := by
  rw [eventRecords, filterUnseen_pairs]
  unfold changeFilteredOnEvent
  by_cases hempty : ev.records.isEmpty = true
  · have hnil := List.isEmpty_iff.mp hempty
    simp [hnil, filterUnseen, emittedRecords]
  · rw [if_neg hempty]
    dsimp only
    by_cases hfiltered : (filterUnseen seenKeys ev.srcIp ev.records).1.isEmpty = true
    · rw [if_pos hfiltered, List.isEmpty_iff.mp hfiltered]
      rfl
    · rw [if_neg hfiltered]
      simp [emittedRecords, eventRecords]

/-- **A run of the sink is one first-occurrence filter** by store key over all
records of the run. -/
theorem emittedRecords_filterRun (seenKeys : Finset Bytes) (evs : List DiscoveryEvent) :
    (emittedRecords (filterRun seenKeys evs).1, (filterRun seenKeys evs).2) =
      scan storeKey seenKeys (emittedRecords evs) := by
  induction evs generalizing seenKeys with
  | nil => rfl
  | cons ev evs ih =>
      have hstep := eventRecords_changeFilteredOnEvent seenKeys ev
      have hrest := ih (changeFilteredOnEvent seenKeys ev).2
      obtain ⟨hout, hseen⟩ := Prod.mk.inj hstep
      obtain ⟨hout', hseen'⟩ := Prod.mk.inj hrest
      have hsplit : emittedRecords (ev :: evs) = eventRecords ev ++ emittedRecords evs := by
        simp [emittedRecords]
      rw [hsplit, scan_append, ← hout, ← hseen, ← hout', ← hseen']
      simp [filterRun, emittedRecords]

/-! ## The worker -/

/-- A received packet that the decoder accepted as a response. -/
structure DecodedResponse where
  /-- the clock when the event is created -/
  nowMs : UInt64
  srcIp : Bytes
  packet : Bytes
  message : MdnsParsedMessage
  decoded : decodePacket packet = .ok message
  response : isDnsResponse message = true

/-- The worker's share of `DiscoveryEngine::worker_loop`: create the event of
each response and hand it to the sink unless it is empty. -/
def workerRun : Finset Bytes → List DecodedResponse →
    Except Fault (List DiscoveryEvent × Finset Bytes)
  | seenKeys, [] => return ([], seenKeys)
  | seenKeys, r :: rs => do
      let ev ← createDiscoveryEvent r.nowMs r.srcIp r.packet r.message
      let out := if ev.records.isEmpty then (none, seenKeys) else changeFilteredOnEvent seenKeys ev
      let (emitted, seenKeys) ← workerRun out.2 rs
      return (out.1.toList ++ emitted, seenKeys)

/-- All displayable records of a response in wire order, repetitions included. -/
def DecodedResponse.displayable (r : DecodedResponse) : List (Bytes × ResourceRecordView) :=
  (displayableViews r.packet r.nowMs (sectionRecords r.message)).map fun rec => (r.srcIp, rec)

/-- All displayable records of a run, in the order in which they arrive. -/
def displayableRecords (rs : List DecodedResponse) : List (Bytes × ResourceRecordView) :=
  rs.flatMap DecodedResponse.displayable

/-- The event that the worker creates for a response. -/
def DecodedResponse.event (r : DecodedResponse) : DiscoveryEvent where
  timestampMs := r.nowMs
  srcIp := r.srcIp
  records := (scan recordContentKey ∅
    (displayableViews r.packet r.nowMs (sectionRecords r.message))).1

/-- The worker never fails, and its run is the run of the filter on the events
it creates: the extra test for an empty event is the filter's own. -/
theorem workerRun_eq (seenKeys : Finset Bytes) (rs : List DecodedResponse) :
    workerRun seenKeys rs = .ok (filterRun seenKeys (rs.map DecodedResponse.event)) := by
  induction rs generalizing seenKeys with
  | nil => rfl
  | cons r rs ih =>
      have hevent : createDiscoveryEvent r.nowMs r.srcIp r.packet r.message = .ok r.event :=
        createDiscoveryEvent_eq _ _ _ _
      have hguard : (if r.event.records.isEmpty then (none, seenKeys)
          else changeFilteredOnEvent seenKeys r.event) =
          changeFilteredOnEvent seenKeys r.event := by
        unfold changeFilteredOnEvent
        split <;> rfl
      simp only [workerRun, hevent, ok_bind, hguard, ih, List.map_cons, filterRun, pure_eq_ok]

/-- Removing repeated contents inside a response first is invisible behind the
store: both layers together are one first-occurrence filter by store key. -/
theorem scan_storeKey_events (seenKeys : Finset Bytes) (rs : List DecodedResponse) :
    scan storeKey seenKeys (emittedRecords (rs.map DecodedResponse.event)) =
      scan storeKey seenKeys (displayableRecords rs) := by
  induction rs generalizing seenKeys with
  | nil => rfl
  | cons r rs ih =>
      have hresponse : scan storeKey seenKeys (eventRecords r.event) =
          scan storeKey seenKeys r.displayable := by
        rw [eventRecords, DecodedResponse.displayable, filterUnseen_pairs, filterUnseen_pairs]
        -- inside one response two records with the same content key have the same store key
        have hlayers : filterUnseen seenKeys r.srcIp r.event.records =
            filterUnseen seenKeys r.srcIp
              (displayableViews r.packet r.nowMs (sectionRecords r.message)) :=
          scan_scan _ _ (fun _ _ h => recordStoreKey_inj_content.mpr h) _ _ _ (by simp)
        change ((filterUnseen seenKeys r.srcIp r.event.records).1.map _,
          (filterUnseen seenKeys r.srcIp r.event.records).2) = _
        rw [hlayers]
        rfl
      have hleft : emittedRecords ((r :: rs).map DecodedResponse.event) =
          eventRecords r.event ++ emittedRecords (rs.map DecodedResponse.event) := by
        simp [emittedRecords]
      have hright : displayableRecords (r :: rs) = r.displayable ++ displayableRecords rs := by
        simp [displayableRecords]
      rw [hleft, hright, scan_append, scan_append, hresponse, ih]

/-- The records emitted over a run from the empty store. -/
theorem emittedRecords_workerRun (rs : List DecodedResponse) :
    ∃ emitted seenKeys, workerRun ∅ rs = .ok (emitted, seenKeys) ∧
      emittedRecords emitted = (scan storeKey ∅ (displayableRecords rs)).1 := by
  refine ⟨_, _, workerRun_eq ∅ rs, ?_⟩
  have hrun := emittedRecords_filterRun ∅ (rs.map DecodedResponse.event)
  rw [scan_storeKey_events] at hrun
  exact congrArg Prod.fst hrun

/-- Two records of a run collide when they are different but the store cannot
tell them apart. -/
def CollisionFree (records : List (Bytes × ResourceRecordView)) : Prop :=
  ∀ p ∈ records, ∀ q ∈ records, storeKey p = storeKey q → recordTuple p = recordTuple q

instance (records : List (Bytes × ResourceRecordView)) : Decidable (CollisionFree records) :=
  inferInstanceAs (Decidable (∀ p ∈ records, ∀ q ∈ records,
    storeKey p = storeKey q → recordTuple p = recordTuple q))

/-- The run emitted exactly the first occurrence of every record tuple. -/
def EmitsFirstOccurrences (rs : List DecodedResponse) : Prop :=
  ∃ emitted seenKeys, workerRun ∅ rs = .ok (emitted, seenKeys) ∧
    emittedRecords emitted = (scan recordTuple ∅ (displayableRecords rs)).1

/-- **Exactly-once emission, exactly when the keys do not collide.** -/
theorem emitsFirstOccurrences_iff_collisionFree (rs : List DecodedResponse) :
    EmitsFirstOccurrences rs ↔ CollisionFree (displayableRecords rs) := by
  obtain ⟨emitted, seenKeys, hrun, hemitted⟩ := emittedRecords_workerRun rs
  rw [CollisionFree, ← scan_eq_scan_iff (fun p q => storeKey_of_recordTuple_eq), ← hemitted]
  constructor
  · rintro ⟨emitted', seenKeys', hrun', hfirst⟩
    rw [hrun] at hrun'
    obtain ⟨rfl, rfl⟩ := Prod.mk.inj (Except.ok.inj hrun')
    exact hfirst
  · intro hfirst
    exact ⟨emitted, seenKeys, hrun, hfirst⟩

/-! ### Two records with one key -/

/-- A response with two TXT records.  A label of the second owner contains the
separator, so the key of both is `x._a._tcp.local|16|w._a._tcp.local|16|z`. -/
def collidingPacket : Bytes :=
  [0, 0, 0x84, 0, 0, 0, 0, 2, 0, 0, 0, 0] ++
    [ascii "x", ascii "_a", ascii "_tcp", ascii "local"].flatMap wireLabel ++
    [0, 0, 16, 0, 1, 0, 0, 0, 0, 0, 21] ++ wireLabel (ascii "w._a._tcp.local|16|z") ++
    [ascii "x", ascii "_a", ascii "_tcp", ascii "local|16|w", ascii "_a", ascii "_tcp",
      ascii "local"].flatMap wireLabel ++
    [0, 0, 16, 0, 1, 0, 0, 0, 0, 0, 2] ++ wireLabel (ascii "z")

/-- That packet, received from one host. -/
def collidingResponse : DecodedResponse where
  nowMs := 1000
  srcIp := ascii "10.0.0.7"
  packet := collidingPacket
  message :=
    { header :=
        { transactionId := 0, flags := 0x8400, questions := 0, answerRrs := 2,
          authorityRrs := 0, additionalRrs := 0 }
      questions := []
      answers :=
        [{ name := ascii "x._a._tcp.local", type := typeTxt, classCode := 1, ttl := 0,
           rdata := wireLabel (ascii "w._a._tcp.local|16|z"), rdataOffset := 39 },
         { name := ascii "x._a._tcp.local|16|w._a._tcp.local", type := typeTxt,
           classCode := 1, ttl := 0, rdata := wireLabel (ascii "z"), rdataOffset := 106 }]
      authorities := []
      additionals := [] }
  decoded := by decide +kernel
  response := by decide

theorem displayableRecords_collidingResponse :
    displayableRecords [collidingResponse] =
      [(ascii "10.0.0.7",
         { ownerName := ascii "x._a._tcp.local", type := typeTxt,
           rdataText := ascii "w._a._tcp.local|16|z", ttl := 0, observedAtMs := 1000 }),
       (ascii "10.0.0.7",
         { ownerName := ascii "x._a._tcp.local|16|w._a._tcp.local", type := typeTxt,
           rdataText := ascii "z", ttl := 0, observedAtMs := 1000 })] := by
  decide +kernel

/-- The second record of that response is swallowed. -/
theorem collidingResponse_swallowed :
    ¬ ∀ rs : List DecodedResponse, EmitsFirstOccurrences rs := by
  intro h
  obtain ⟨emitted, seenKeys, hrun, hfirst⟩ := h [collidingResponse]
  obtain ⟨emitted', seenKeys', hrun', hemitted⟩ := emittedRecords_workerRun [collidingResponse]
  rw [hrun] at hrun'
  obtain ⟨rfl, rfl⟩ := Prod.mk.inj (Except.ok.inj hrun')
  -- one record is emitted, but the run has two different ones
  rw [hemitted, displayableRecords_collidingResponse] at hfirst
  have hcount := congrArg List.length hfirst
  revert hcount
  decide +kernel

end Scanner
end LanDiscovery

import LanDiscovery.Library.Transition
import LanDiscovery.Scanner.DeviceStateStore

/-!
# From the change filter to the API

`ChangeFilteredEventSink::on_event` in front of `HttpEventSink`, with the poster
thread, as one transition system.  The engine's worker is the only caller of
`on_event`; a call is two steps, the filter and the enqueueing, and the steps of
the poster may fall between them.

The counters of the model that the program does not have are the lists `posted`
and `dropped`.  With them, no step loses or duplicates an event before shutdown
(`carried_perm`), and a key is only ever marked as seen together with an event
that carries it (`seen_keys_carried`).
-/

namespace LanDiscovery
namespace Scanner

open Library Library.Utf8 Library.FirstSeen Library.Transition
open List (Perm)
open scoped List

/-- The part of `HttpEventSinkConfig` that the queue depends on.  A queue that
may not hold a single event is no configuration: `on_event` would pop from an
empty queue. -/
structure HttpEventSinkConfig where
  maxQueueSize : Nat := 256
  positive : 0 < maxQueueSize := by decide

/-- Where the poster thread is in `poster_loop`. -/
inductive Poster where
  /-- In `cv_.wait`. -/
  | waiting
  /-- About to call `post_once`. -/
  | posting (ev : DiscoveryEvent) (backoffMs : Nat)
  /-- In `sleep_for` after a failed attempt. -/
  | sleeping (ev : DiscoveryEvent) (backoffMs : Nat)
  /-- Returned. -/
  | exited
  deriving DecidableEq

/-- The state shared by the worker and the poster. -/
structure Pipeline where
  /-- `DeviceStateStore::seen_keys_` -/
  seenKeys : Finset Bytes
  /-- the filtered event that a running `on_event` is about to enqueue -/
  calling : Option DiscoveryEvent
  /-- `queue_` -/
  queue : List DiscoveryEvent
  /-- `stop_` -/
  stop : Bool
  poster : Poster
  /-- the events for which `post_once` returned `true`, in order -/
  posted : List DiscoveryEvent
  /-- the events dropped from the front of a full queue, in order -/
  dropped : List DiscoveryEvent
  deriving DecidableEq

/-- The state after construction. -/
def Pipeline.start : Pipeline where
  seenKeys := ∅
  calling := none
  queue := []
  stop := false
  poster := .waiting
  posted := []
  dropped := []

/-- `HttpEventSink::on_event`. -/
def httpOnEvent (config : HttpEventSinkConfig) (s : Pipeline) (ev : DiscoveryEvent) : Pipeline :=
  if s.stop then s
  else if s.queue.length ≥ config.maxQueueSize then
    -- `pop_front` of the oldest event makes room
    { s with queue := s.queue.tail ++ [ev], dropped := s.dropped ++ s.queue.take 1 }
  else { s with queue := s.queue ++ [ev] }

/-- `k_max_backoff_ms`. -/
def kMaxBackoffMs : Nat := 60000

/-- The steps of the two threads. -/
inductive Action where
  /-- the worker enters `ChangeFilteredEventSink::on_event` and runs the filter -/
  | filter (ev : DiscoveryEvent)
  /-- the call goes on into `HttpEventSink::on_event` and returns -/
  | enqueue
  /-- the poster wakes up and takes the front of the queue -/
  | take
  /-- `post_once` returns -/
  | post (accepted : Bool)
  /-- the poster has slept -/
  | wake
  /-- the destructor sets `stop_` -/
  | shutdown
  /-- the poster finds `stop_` set and the queue empty -/
  | exit
  deriving DecidableEq

/-- One step; `none` where the action is not enabled. -/
def next (config : HttpEventSinkConfig) (s : Pipeline) : Action → Option Pipeline
  | .filter ev =>
      match s.calling with
      | some _ => none
      | none =>
          let filtered := changeFilteredOnEvent s.seenKeys ev
          some { s with seenKeys := filtered.2, calling := filtered.1 }
  | .enqueue =>
      match s.calling with
      | none => none
      | some ev => some { httpOnEvent config s ev with calling := none }
  | .take =>
      match s.poster, s.queue with
      | .waiting, ev :: queue => some { s with queue := queue, poster := .posting ev 1000 }
      | _, _ => none
  | .post accepted =>
      match s.poster with
      | .posting ev backoffMs =>
          if accepted then some { s with poster := .waiting, posted := s.posted ++ [ev] }
          else some { s with poster := .sleeping ev backoffMs }
      | _ => none
  | .wake =>
      match s.poster with
      | .sleeping ev backoffMs =>
          -- the event in hand is abandoned at shutdown
          if s.stop then some { s with poster := .exited }
          else some { s with poster := .posting ev (min (backoffMs * 2) kMaxBackoffMs) }
      | _ => none
  | .shutdown => some { s with stop := true }
  | .exit =>
      match s.poster, s.queue with
      | .waiting, [] => if s.stop then some { s with poster := .exited } else none
      | _, _ => none

/-- The step relation of the pipeline. -/
def Step (config : HttpEventSinkConfig) (s : Pipeline) (a : Action) (t : Pipeline) : Prop :=
  next config s a = some t

/-- The states that some interleaving reaches. -/
def PipelineReachable (config : HttpEventSinkConfig) : Pipeline → Prop :=
  Reachable (· = Pipeline.start) (Step config)

/-- The event the poster has in hand. -/
def Poster.inHand : Poster → List DiscoveryEvent
  | .posting ev _ => [ev]
  | .sleeping ev _ => [ev]
  | _ => []

/-- The events that are posted, being posted, queued, or on their way from the
filter into the queue. -/
def Pipeline.delivering (s : Pipeline) : List DiscoveryEvent :=
  s.posted ++ s.poster.inHand ++ s.queue ++ s.calling.toList

/-- All events that the filter has let through. -/
def Pipeline.carried (s : Pipeline) : List DiscoveryEvent :=
  s.dropped ++ s.delivering

/-- What the filter lets through in this step. -/
def passedOn (s : Pipeline) : Action → List DiscoveryEvent
  | .filter ev => (changeFilteredOnEvent s.seenKeys ev).1.toList
  | _ => []

/-- Enqueueing moves an event into the queue and at most one out of it. -/
theorem httpOnEvent_perm (config : HttpEventSinkConfig) {s : Pipeline} (ev : DiscoveryEvent)
    (hstop : s.stop = false) :
    ((httpOnEvent config s ev).dropped ++ (httpOnEvent config s ev).queue).Perm
      (s.dropped ++ (s.queue ++ [ev])) := by
  unfold httpOnEvent
  rw [hstop]
  simp only [Bool.false_eq_true, if_false]
  split
  · next hfull =>
      cases hqueue : s.queue with
      | nil =>
          -- a full queue is not empty
          have hpos := config.positive
          simp only [hqueue, List.length_nil] at hfull
          omega
      | cons oldest rest => simp
  · exact List.Perm.refl _

/-- Inversion of a step: everything that each action can do. -/
theorem step_cases {config : HttpEventSinkConfig} {s t : Pipeline} {a : Action}
    (h : Step config s a t) :
    (∃ ev, a = .filter ev ∧ s.calling = none ∧
      t = { s with
        seenKeys := (changeFilteredOnEvent s.seenKeys ev).2
        calling := (changeFilteredOnEvent s.seenKeys ev).1 }) ∨
    (∃ ev, a = .enqueue ∧ s.calling = some ev ∧
      t = { httpOnEvent config s ev with calling := none }) ∨
    (∃ ev queue, a = .take ∧ s.poster = .waiting ∧ s.queue = ev :: queue ∧
      t = { s with queue := queue, poster := .posting ev 1000 }) ∨
    (∃ ev backoffMs, a = .post true ∧ s.poster = .posting ev backoffMs ∧
      t = { s with poster := .waiting, posted := s.posted ++ [ev] }) ∨
    (∃ ev backoffMs, a = .post false ∧ s.poster = .posting ev backoffMs ∧
      t = { s with poster := .sleeping ev backoffMs }) ∨
    (∃ ev backoffMs, a = .wake ∧ s.poster = .sleeping ev backoffMs ∧
      t = { s with
        poster := if s.stop then .exited
          else .posting ev (min (backoffMs * 2) kMaxBackoffMs) }) ∨
    (a = .shutdown ∧ t = { s with stop := true }) ∨
    (a = .exit ∧ s.poster = .waiting ∧ s.queue = [] ∧ s.stop = true ∧
      t = { s with poster := .exited }) := by
  cases a with
  | filter ev =>
      left
      cases hcalling : s.calling with
      | none => exact ⟨ev, rfl, rfl, by simpa [Step, next, hcalling] using h.symm⟩
      | some running => simp [Step, next, hcalling] at h
  | enqueue =>
      right; left
      cases hcalling : s.calling with
      | none => simp [Step, next, hcalling] at h
      | some ev => exact ⟨ev, rfl, rfl, by simpa [Step, next, hcalling] using h.symm⟩
  | take =>
      right; right; left
      simp only [Step, next] at h
      split at h
      · next ev queue hposter hqueue =>
          exact ⟨ev, queue, rfl, hposter, hqueue, by simpa using h.symm⟩
      · exact absurd h (by simp)
  | post accepted =>
      -- an accepted post is done with its event, any other one sleeps on it
      right; right; right
      simp only [Step, next] at h
      split at h
      · next ev backoffMs hposter =>
          cases accepted with
          | true =>
              left
              exact ⟨ev, backoffMs, rfl, hposter, by simpa using h.symm⟩
          | false =>
              right; left
              exact ⟨ev, backoffMs, rfl, hposter, by simpa using h.symm⟩
      · exact absurd h (by simp)
  | wake =>
      right; right; right; right; right; left
      simp only [Step, next] at h
      split at h
      · next ev backoffMs hposter =>
          refine ⟨ev, backoffMs, rfl, hposter, ?_⟩
          cases hstop : s.stop with
          | true => simpa [hstop] using h.symm
          | false => simpa [hstop] using h.symm
      · exact absurd h (by simp)
  | shutdown =>
      right; right; right; right; right; right; left
      exact ⟨rfl, by simpa [Step, next] using h.symm⟩
  | exit =>
      right; right; right; right; right; right; right
      simp only [Step, next] at h
      split at h
      · next hposter hqueue =>
          cases hstop : s.stop with
          | true => exact ⟨rfl, hposter, hqueue, rfl, by simpa [hstop] using h.symm⟩
          | false => simp [hstop] at h
      · exact absurd h (by simp)

theorem httpOnEvent_frame (config : HttpEventSinkConfig) (s : Pipeline) (ev : DiscoveryEvent) :
    (httpOnEvent config s ev).seenKeys = s.seenKeys ∧
      (httpOnEvent config s ev).poster = s.poster ∧
      (httpOnEvent config s ev).posted = s.posted ∧
      (httpOnEvent config s ev).stop = s.stop := by
  unfold httpOnEvent
  split
  · simp
  · split <;> simp

/-- `stop_` is never reset. -/
theorem stop_of_step {config : HttpEventSinkConfig} {s t : Pipeline} {a : Action}
    (h : Step config s a t) (hstop : t.stop = false) : s.stop = false := by
  rcases step_cases h with ⟨ev, -, -, rfl⟩ | ⟨ev, -, -, rfl⟩ | ⟨ev, queue, -, -, -, rfl⟩ |
    ⟨ev, b, -, -, rfl⟩ | ⟨ev, b, -, -, rfl⟩ | ⟨ev, b, -, -, rfl⟩ | ⟨-, rfl⟩ | ⟨-, -, -, -, rfl⟩
  case inr.inl => simpa [httpOnEvent_frame] using hstop
  case inr.inr.inr.inr.inr.inr.inl => exact absurd hstop (by simp)
  all_goals exact hstop

/-- **Conservation.**  Before shutdown a step moves events between the queue,
the poster and the two logs, adds what the filter passes on, and does nothing
else: no event is lost and none is duplicated. -/
theorem carried_perm {config : HttpEventSinkConfig} {s t : Pipeline} {a : Action}
    (h : Step config s a t) (hstop : t.stop = false) :
    t.carried.Perm (s.carried ++ passedOn s a) := by
  have hstop' := stop_of_step h hstop
  rcases step_cases h with ⟨ev, rfl, hcalling, rfl⟩ | ⟨ev, rfl, hcalling, rfl⟩ |
    ⟨ev, queue, rfl, hposter, hqueue, rfl⟩ | ⟨ev, b, rfl, hposter, rfl⟩ |
    ⟨ev, b, rfl, hposter, rfl⟩ | ⟨ev, b, rfl, hposter, rfl⟩ | ⟨rfl, rfl⟩ |
    ⟨rfl, hposter, hqueue, hstopped, rfl⟩
  · simp [Pipeline.carried, Pipeline.delivering, passedOn, hcalling]
  · -- enqueueing: the only step that can move an event to the dropped ones
    obtain ⟨-, hposter, hposted, -⟩ := httpOnEvent_frame config s ev
    simp only [Pipeline.carried, Pipeline.delivering, passedOn, hposter, hposted, hcalling,
      Option.toList_none, Option.toList_some, List.append_nil]
    calc (httpOnEvent config s ev).dropped ++
          (s.posted ++ s.poster.inHand ++ (httpOnEvent config s ev).queue)
        ~ s.posted ++ s.poster.inHand ++
          ((httpOnEvent config s ev).dropped ++ (httpOnEvent config s ev).queue) :=
          List.perm_append_comm_assoc _ _ _
      _ ~ s.posted ++ s.poster.inHand ++ (s.dropped ++ (s.queue ++ [ev])) :=
          (httpOnEvent_perm config ev hstop').append_left _
      _ ~ s.dropped ++ (s.posted ++ s.poster.inHand ++ (s.queue ++ [ev])) :=
          List.perm_append_comm_assoc _ _ _
      _ = s.dropped ++ (s.posted ++ s.poster.inHand ++ s.queue ++ [ev]) := by
          rw [← List.append_assoc (s.posted ++ s.poster.inHand)]
  · simp [Pipeline.carried, Pipeline.delivering, passedOn, hposter, hqueue, Poster.inHand]
  · simp [Pipeline.carried, Pipeline.delivering, passedOn, hposter, Poster.inHand]
  · simp [Pipeline.carried, Pipeline.delivering, passedOn, hposter, Poster.inHand]
  · simp [Pipeline.carried, Pipeline.delivering, passedOn, hposter, hstop', Poster.inHand]
  · exact absurd hstop (by simp)
  · simp [hstop'] at hstopped

/-! ## What the store knows is on its way -/

/-- Some event of the list contains a record with this store key. -/
def CarriesKey (evs : List DiscoveryEvent) (key : Bytes) : Prop :=
  ∃ ev ∈ evs, ∃ rec ∈ ev.records, recordStoreKey ev.srcIp rec = key

instance (evs : List DiscoveryEvent) (key : Bytes) : Decidable (CarriesKey evs key) :=
  inferInstanceAs (Decidable (∃ ev ∈ evs, ∃ rec ∈ ev.records,
    recordStoreKey ev.srcIp rec = key))

/-- A key that one call of the filter adds belongs to a record that it passes on. -/
theorem carriesKey_of_changeFilteredOnEvent {seenKeys : Finset Bytes} {ev : DiscoveryEvent}
    {key : Bytes} (hkey : key ∈ (changeFilteredOnEvent seenKeys ev).2) :
    key ∈ seenKeys ∨ CarriesKey (changeFilteredOnEvent seenKeys ev).1.toList key := by
  have hscan := eventRecords_changeFilteredOnEvent seenKeys ev
  rw [congrArg Prod.snd hscan] at hkey
  rcases mem_scan_snd.mp hkey with hold | ⟨p, hp, hpkey⟩
  · exact Or.inl hold
  · by_cases hseen : key ∈ seenKeys
    · exact Or.inl hseen
    · right
      obtain ⟨q, hq, hqkey⟩ := exists_mem_scan storeKey hp (by rw [hpkey]; exact hseen)
      rw [← congrArg Prod.fst hscan] at hq
      obtain ⟨ev', hev', hrec⟩ := List.mem_flatMap.mp hq
      obtain ⟨rec, hmem, rfl⟩ := List.mem_map.mp hrec
      exact ⟨ev', hev', rec, hmem, hqkey.trans hpkey⟩

/-- The invariant of the pipeline before shutdown. -/
def Covered (s : Pipeline) : Prop :=
  s.stop = false → ∀ key ∈ s.seenKeys, CarriesKey s.carried key

theorem seenKeys_of_step {config : HttpEventSinkConfig} {s t : Pipeline} {a : Action}
    (h : Step config s a t) {key : Bytes} (hkey : key ∈ t.seenKeys) :
    key ∈ s.seenKeys ∨ CarriesKey (passedOn s a) key := by
  rcases step_cases h with ⟨ev, rfl, -, rfl⟩ | ⟨ev, rfl, -, rfl⟩ | ⟨ev, queue, -, -, -, rfl⟩ |
    ⟨ev, b, -, -, rfl⟩ | ⟨ev, b, -, -, rfl⟩ | ⟨ev, b, -, -, rfl⟩ | ⟨-, rfl⟩ | ⟨-, -, -, -, rfl⟩
  case inl => exact carriesKey_of_changeFilteredOnEvent hkey
  case inr.inl =>
    left
    simpa [httpOnEvent_frame] using hkey
  all_goals exact Or.inl hkey

theorem covered_step {config : HttpEventSinkConfig} {s t : Pipeline} {a : Action}
    (hs : Covered s) (h : Step config s a t) : Covered t := by
  intro hstop key hkey
  have hperm := carried_perm h hstop
  have hcarries : CarriesKey (s.carried ++ passedOn s a) key := by
    -- an old key is carried already, a new one is in what the filter has passed on
    rcases seenKeys_of_step h hkey with hold | ⟨ev, hev, hrec⟩
    · obtain ⟨ev, hev, hrec⟩ := hs (stop_of_step h hstop) key hold
      exact ⟨ev, List.mem_append_left _ hev, hrec⟩
    · exact ⟨ev, List.mem_append_right _ hev, hrec⟩
  obtain ⟨ev, hev, hrec⟩ := hcarries
  exact ⟨ev, hperm.mem_iff.mpr hev, hrec⟩

/-! ## Bursts -/

/-- A TXT record whose text is `n` octets long. -/
def txtOfLength (n : Nat) : ResourceRecordView where
  ownerName := ascii "x._a._tcp.local"
  type := typeTxt
  rdataText := List.replicate n 97
  ttl := 120
  observedAtMs := 1000

/-- An event with that record. -/
def txtEvent (n : Nat) : DiscoveryEvent where
  timestampMs := 1000
  srcIp := ascii "10.0.0.7"
  records := [txtOfLength n]

/-- The store key of that record. -/
def txtKey (n : Nat) : Bytes :=
  recordStoreKey (txtEvent n).srcIp (txtOfLength n)

/-- `n` calls of `on_event` while the poster does not run. -/
def burst (n : Nat) : List Action :=
  (List.range n).flatMap fun i => [.filter (txtEvent i), .enqueue]

theorem txtKey_inj {i j : Nat} (h : txtKey i = txtKey j) : i = j := by
  have hlength := congrArg List.length h
  simpa [txtKey, recordStoreKey_eq, recordContentKey_eq, txtEvent, txtOfLength] using hlength

/-- The state after a burst: every event passed the filter, and the queue holds
the end of the burst. -/
structure AfterBurst (config : HttpEventSinkConfig) (n : Nat) (s : Pipeline) : Prop where
  calling : s.calling = none
  stop : s.stop = false
  poster : s.poster = .waiting
  posted : s.posted = []
  seenKeys : ∀ key, key ∈ s.seenKeys ↔ ∃ i < n, txtKey i = key
  events : s.dropped ++ s.queue = (List.range n).map txtEvent
  bounded : s.queue.length ≤ config.maxQueueSize

theorem afterBurst_succ {config : HttpEventSinkConfig} {n : Nat} {s : Pipeline}
    (h : AfterBurst config n s) :
    ∃ t, exec (next config) s [.filter (txtEvent n), .enqueue] = some t ∧
      AfterBurst config (n + 1) t := by
  have hnew : txtKey n ∉ s.seenKeys := by
    rw [h.seenKeys]
    rintro ⟨i, hi, hkey⟩
    have := txtKey_inj hkey
    omega
  -- the key of the next event is new, so the event passes the filter whole
  have hfilter : changeFilteredOnEvent s.seenKeys (txtEvent n) =
      (some (txtEvent n), insert (txtKey n) s.seenKeys) := by
    have hscan : filterUnseen s.seenKeys (txtEvent n).srcIp (txtEvent n).records =
        ([txtOfLength n], insert (txtKey n) s.seenKeys) :=
      scan_cons_of_not_mem [] hnew
    unfold changeFilteredOnEvent
    rw [hscan]
    rfl
  have hexec : exec (next config) s [.filter (txtEvent n), .enqueue] =
      some { httpOnEvent config
          { s with seenKeys := insert (txtKey n) s.seenKeys, calling := some (txtEvent n) }
          (txtEvent n) with calling := none } := by
    simp [exec, next, h.calling, hfilter]
  refine ⟨_, hexec, ?_⟩
  have hrange : (List.range (n + 1)).map txtEvent = s.dropped ++ s.queue ++ [txtEvent n] := by
    rw [List.range_succ, List.map_append, ← h.events]
    rfl
  have hkeys : ∀ key, key ∈ insert (txtKey n) s.seenKeys ↔ ∃ i < n + 1, txtKey i = key := by
    intro key
    rw [Finset.mem_insert, h.seenKeys]
    constructor
    · rintro (rfl | ⟨i, hi, rfl⟩)
      · exact ⟨n, by omega, rfl⟩
      · exact ⟨i, by omega, rfl⟩
    · rintro ⟨i, hi, rfl⟩
      rcases Nat.lt_succ_iff_lt_or_eq.mp hi with hlt | rfl
      · exact Or.inr ⟨i, hlt, rfl⟩
      · exact Or.inl rfl
  by_cases hfull : s.queue.length ≥ config.maxQueueSize
  · simp only [httpOnEvent, h.stop, hfull, Bool.false_eq_true, if_false, if_true]
    refine ⟨rfl, rfl, h.poster, h.posted, hkeys, ?_, ?_⟩
    · have hqueue : s.queue.take 1 ++ s.queue.tail = s.queue := by
        rw [← List.drop_one, List.take_append_drop]
      rw [hrange, List.append_assoc s.dropped, ← List.append_assoc (s.queue.take 1), hqueue,
        List.append_assoc]
    · have hpos := config.positive
      have hbounded := h.bounded
      simp
      omega
  · simp only [httpOnEvent, h.stop, hfull, Bool.false_eq_true, if_false]
    refine ⟨rfl, rfl, h.poster, h.posted, hkeys, ?_, ?_⟩
    · rw [hrange, List.append_assoc]
    · simp
      omega

theorem exec_burst (config : HttpEventSinkConfig) (n : Nat) :
    ∃ s, exec (next config) .start (burst n) = some s ∧ AfterBurst config n s := by
  induction n with
  | zero =>
      refine ⟨.start, rfl, ?_⟩
      constructor <;> simp [Pipeline.start]
  | succ n ih =>
      obtain ⟨s, hs, hafter⟩ := ih
      obtain ⟨t, ht, hafter'⟩ := afterBurst_succ hafter
      refine ⟨t, ?_, hafter'⟩
      have hsplit : burst (n + 1) = burst n ++ [.filter (txtEvent n), .enqueue] := by
        simp [burst, List.range_succ]
      rw [hsplit, exec_append, hs]
      exact ht

/-! ## The guarantee -/

/-- **Nothing the store knows is lost except by overflow.**  In every state that
any interleaving reaches before shutdown, each key that is marked as seen is the
key of a record in an event that has been posted, is being posted, is queued or
on its way into the queue, or was dropped as the oldest from a full queue. -/
theorem seen_keys_carried (config : HttpEventSinkConfig) (s : Pipeline)
    (hreach : PipelineReachable config s) (hstop : s.stop = false) (key : Bytes)
    (hkey : key ∈ s.seenKeys) : CarriesKey (s.dropped ++ s.delivering) key := by
  have hcovered : Covered s := by
    apply Reachable.invariant (I := Covered) _ _ hreach
    · rintro _ rfl _ key hkey
      simp [Pipeline.start] at hkey
    · intro s a t hs hstep
      exact covered_step hs hstep
  exact hcovered hstop key hkey

/-- The guarantee in the state after a burst that was too long for the queue. -/
theorem seen_keys_carried_burst :
    ∃ s, PipelineReachable {} s ∧ txtKey 0 ∈ s.seenKeys ∧
      CarriesKey (s.dropped ++ s.delivering) (txtKey 0) := by
  obtain ⟨s, hexec, hafter⟩ := exec_burst {} 257
  have hreach : PipelineReachable {} s := ⟨.start, _, rfl, Run.of_exec hexec⟩
  have hseen : txtKey 0 ∈ s.seenKeys := (hafter.seenKeys _).mpr ⟨0, by omega, rfl⟩
  exact ⟨s, hreach, hseen, seen_keys_carried {} s hreach hafter.stop _ hseen⟩

/-- Without the last case the statement fails: with the default configuration, a
burst of 257 events loses the first one. -/
theorem burst_overflows :
    ¬ ∀ (config : HttpEventSinkConfig) (s : Pipeline), PipelineReachable config s →
      s.stop = false → ∀ key ∈ s.seenKeys, CarriesKey s.delivering key := by
  intro h
  let config : HttpEventSinkConfig := {}
  obtain ⟨s, hexec, hafter⟩ := exec_burst config 257
  have hreach : PipelineReachable config s := ⟨.start, _, rfl, Run.of_exec hexec⟩
  have hseen : txtKey 0 ∈ s.seenKeys := (hafter.seenKeys _).mpr ⟨0, by omega, rfl⟩
  obtain ⟨ev, hev, rec, hrec, hkey⟩ := h config s hreach hafter.stop _ hseen
  have hqueued : ev ∈ s.queue := by
    simpa [Pipeline.delivering, hafter.posted, hafter.poster, hafter.calling, Poster.inHand]
      using hev
  -- the queue holds at most 256 of the 257 events, so the first one is dropped
  have hevents := hafter.events
  have hbounded : s.queue.length ≤ 256 := hafter.bounded
  cases hdropped : s.dropped with
  | nil =>
      have hlength := congrArg List.length hevents
      simp only [hdropped, List.nil_append, List.length_map, List.length_range] at hlength
      omega
  | cons first rest =>
      rw [hdropped, List.range_succ_eq_map, List.map_cons, List.cons_append,
        List.cons.injEq] at hevents
      have hlater : ev ∈ List.map txtEvent (List.map Nat.succ (List.range 256)) := by
        rw [← hevents.2]
        exact List.mem_append_right _ hqueued
      obtain ⟨j, hj, rfl⟩ := List.mem_map.mp hlater
      obtain ⟨i, _, rfl⟩ := List.mem_map.mp hj
      obtain rfl : rec = txtOfLength i.succ := List.mem_singleton.mp hrec
      exact absurd (txtKey_inj hkey) (by omega)

end Scanner
end LanDiscovery

import LanDiscovery.Library.Transition
import LanDiscovery.Scanner.DiscoveryRecord
import Mathlib.Data.Finset.Basic
import Mathlib.Data.Int.ConditionallyCompleteOrder
import Mathlib.Data.List.Pairwise
import Mathlib.Order.ConditionallyCompleteLattice.Basic
import Mathlib.Tactic.Common

/-!
# Follow-up probes

`MdnsProbePlanner.cpp`: names that are advertised are queued to be asked for, and
handed out in batches.  The clock is the sequence of its readings, in nanoseconds.

A request is stamped when it is queued and asked for when it is handed out, so the
cooldown between two questions holds as long as no name is observed too late for its
stamp and too early for its question (`spaced_of_no_lateObservation`).
-/

namespace LanDiscovery
namespace Scanner

open Library Library.Transition Library.Utf8 MdnsNames

/-- `MdnsProbeRequest`. -/
structure MdnsProbeRequest where
  qname : Bytes
  qtype : UInt16
  deriving DecidableEq

/-- `MdnsProbePlannerConfig`. -/
structure MdnsProbePlannerConfig where
  maxPending : Nat := 256
  maxProbesPerTick : Nat := 8
  probeCooldownMs : UInt32 := 60000

/-- `max_size` of a vector of batches: `PTRDIFF_MAX` octets, 24 for each. -/
def vectorMaxSize : Nat := 384307168202282325

/-- `MdnsProbePlanner`, with the number of readings of the clock so far. -/
structure MdnsProbePlanner where
  pending : List (List MdnsProbeRequest)
  pendingKeys : Finset Bytes
  lastProbe : Bytes → Option Int
  readings : Nat

/-- The state after construction. -/
def MdnsProbePlanner.start : MdnsProbePlanner where
  pending := []
  pendingKeys := ∅
  lastProbe := fun _ => none
  readings := 0

/-- `probe_key`. -/
def probeKey (req : MdnsProbeRequest) : Bytes :=
  joinKey [req.qname, decimal req.qtype.toNat]

/-- The requests for a record in `observe`, if there are any. -/
def probeBatch (rec : ResourceRecordView) : Option (List MdnsProbeRequest) :=
  if rec.type ≠ typePtr then none
  else if rec.rdataText.isEmpty then none
  else if (Text.find? (ascii "(malformed") rec.rdataText).isSome then none
  else if rec.ownerName == kDnsSdMetaService && isServiceTypeName rec.rdataText then
    some [{ qname := rec.rdataText, qtype := typePtr }]
  else if isServiceTypeName rec.ownerName && isInstanceName rec.rdataText then
    some
      [{ qname := rec.rdataText, qtype := typeSrv },
        { qname := rec.rdataText, qtype := typeTxt }]
  else none

section

variable (config : MdnsProbePlannerConfig) (clock : Nat → Int)

/-- `try_enqueue`. -/
def tryEnqueue (planner : MdnsProbePlanner) (req : MdnsProbeRequest) :
    Bool × MdnsProbePlanner :=
  if req.qname.isEmpty then (false, planner)
  else
    let key := probeKey req
    let now := clock planner.readings
    let planner := { planner with readings := planner.readings + 1 }
    if key ∈ planner.pendingKeys then (false, planner)
    else
      let cooling :=
        match planner.lastProbe key with
        | some last => decide ((now - last).tdiv 1000000 < (config.probeCooldownMs.toNat : Int))
        | none => false
      if cooling then (false, planner)
      else
        (true,
          { planner with
            pendingKeys := insert key planner.pendingKeys
            lastProbe := Function.update planner.lastProbe key (some now) })

/-- The loop of `enqueue_batch`: the planner, and the requests accepted so far. -/
def acceptRequests (planner : MdnsProbePlanner) (batch : List MdnsProbeRequest) :
    MdnsProbePlanner × List MdnsProbeRequest :=
  batch.foldl
    (fun acc req =>
      let (accepted, planner) := tryEnqueue config clock acc.1 req
      (planner, if accepted then acc.2 ++ [req] else acc.2))
    (planner, [])

/-- `enqueue_batch`. -/
def enqueueBatch (planner : MdnsProbePlanner) (batch : List MdnsProbeRequest) :
    MdnsProbePlanner :=
  if batch.isEmpty then planner
  else if planner.pending.length ≥ config.maxPending then planner
  else
    let (planner, accepted) := acceptRequests config clock planner batch
    if accepted.isEmpty then planner
    else { planner with pending := planner.pending ++ [accepted] }

/-- The body of the loop of `observe`. -/
def observeRecord (planner : MdnsProbePlanner) (rec : ResourceRecordView) : MdnsProbePlanner :=
  match probeBatch rec with
  | some batch => enqueueBatch config clock planner batch
  | none => planner

/-- `observe`. -/
def MdnsProbePlanner.observe (planner : MdnsProbePlanner) (ev : DiscoveryEvent) :
    MdnsProbePlanner :=
  ev.records.foldl (observeRecord config clock) planner

/-- The loop of `drain_ready`; the first argument is what is left of the limit. -/
def drainLoop : Nat → MdnsProbePlanner → List (List MdnsProbeRequest) →
    MdnsProbePlanner × List (List MdnsProbeRequest)
  | 0, planner, out => (planner, out)
  | limit + 1, planner, out =>
      match planner.pending with
      | [] => (planner, out)
      | batch :: rest =>
          drainLoop limit
            { planner with
              pending := rest
              pendingKeys := batch.foldl (fun keys req => keys.erase (probeKey req))
                planner.pendingKeys }
            (out ++ [batch])

/-- How many batches `drain_ready` hands out at most. -/
def drainLimit (maxBatches : Nat) : Nat :=
  if maxBatches > 0 then maxBatches else config.maxProbesPerTick

/-- `drain_ready`, from where `out` has its room. -/
def MdnsProbePlanner.drainReady (planner : MdnsProbePlanner) (maxBatches : Nat) :
    MdnsProbePlanner × List (List MdnsProbeRequest) :=
  let limit := drainLimit config maxBatches
  drainLoop limit planner []

/-- `drain_ready`.  `out.reserve` throws when more is asked for than a vector can hold, or
than there is memory for, which is `room` batches. -/
def MdnsProbePlanner.reserveAndDrain (planner : MdnsProbePlanner) (maxBatches room : Nat) :
    Except Fault (MdnsProbePlanner × List (List MdnsProbeRequest)) :=
  if vectorMaxSize < drainLimit config maxBatches ∨ room < drainLimit config maxBatches then
    .error .noRoom
  else .ok (planner.drainReady config maxBatches)

end

/-! ## The system -/

/-- A planner, and the requests that it handed out with the times. -/
structure Probing where
  planner : MdnsProbePlanner
  handedOut : List (Int × MdnsProbeRequest)

/-- The state before the first call. -/
def Probing.start : Probing where
  planner := .start
  handedOut := []

/-- The calls: the worker observes an event, the poller drains.  A call that throws leaves
the planner as it was, so it does not stand among them. -/
inductive ProbeAction where
  | observe (ev : DiscoveryEvent)
  | drainReady (maxBatches : Nat)

/-- The state after a call.  The time at which requests are handed out is one more
reading of the clock. -/
def probeStep (config : MdnsProbePlannerConfig) (clock : Nat → Int) (s : Probing) :
    ProbeAction → Probing
  | .observe ev => { s with planner := s.planner.observe config clock ev }
  | .drainReady maxBatches =>
      let (planner, out) := s.planner.drainReady config maxBatches
      { planner := { planner with readings := planner.readings + 1 }
        handedOut := s.handedOut ++ out.flatten.map fun req => (clock planner.readings, req) }

/-- The cooldown in nanoseconds. -/
def cooldownNs (config : MdnsProbePlannerConfig) : Int :=
  config.probeCooldownMs.toNat * 1000000

/-- The same request is handed out at times that are the cooldown apart. -/
def Spaced (config : MdnsProbePlannerConfig) (handedOut : List (Int × MdnsProbeRequest)) : Prop :=
  handedOut.Pairwise fun earlier later =>
    earlier.2 = later.2 → earlier.1 + cooldownNs config ≤ later.1

instance (config : MdnsProbePlannerConfig) (handedOut : List (Int × MdnsProbeRequest)) :
    Decidable (Spaced config handedOut) :=
  inferInstanceAs (Decidable (List.Pairwise _ _))

section

variable (config : MdnsProbePlannerConfig) (clock : Nat → Int)

/-- The request is observed too late for its stamp, which no longer holds it back, and
too early for the question, which is less than the cooldown ago. -/
def LateObservation (handedOut : List (Int × MdnsProbeRequest)) (planner : MdnsProbePlanner)
    (req : MdnsProbeRequest) : Prop :=
  probeKey req ∉ planner.pendingKeys ∧
    (∃ stamp ∈ planner.lastProbe (probeKey req),
      stamp + cooldownNs config ≤ clock planner.readings) ∧
    ∃ entry ∈ handedOut, entry.2 = req ∧ clock planner.readings < entry.1 + cooldownNs config

instance (handedOut : List (Int × MdnsProbeRequest)) (planner : MdnsProbePlanner)
    (req : MdnsProbeRequest) : Decidable (LateObservation config clock handedOut planner req) :=
  inferInstanceAs (Decidable (_ ∧ _ ∧ _))

/-- The requests of a batch are not observed late, if there is room for them. -/
def NoLateRequest (handedOut : List (Int × MdnsProbeRequest)) (planner : MdnsProbePlanner)
    (batch : List MdnsProbeRequest) : Prop :=
  planner.pending.length < config.maxPending →
    EveryStep (fun planner req => (tryEnqueue config clock planner req).2)
      (fun planner req => ¬ LateObservation config clock handedOut planner req) planner batch

instance (handedOut : List (Int × MdnsProbeRequest)) (planner : MdnsProbePlanner)
    (batch : List MdnsProbeRequest) :
    Decidable (NoLateRequest config clock handedOut planner batch) :=
  inferInstanceAs (Decidable (_ → _))

/-- No request of the call is observed late. -/
def NoLateObservation (s : Probing) : ProbeAction → Prop
  | .observe ev =>
      EveryStep (observeRecord config clock)
        (fun planner rec => ∀ batch ∈ probeBatch rec,
          NoLateRequest config clock s.handedOut planner batch) s.planner ev.records
  | .drainReady _ => True

instance (s : Probing) : (action : ProbeAction) →
    Decidable (NoLateObservation config clock s action)
  | .observe _ => inferInstanceAs (Decidable (EveryStep _ _ _ _))
  | .drainReady _ => inferInstanceAs (Decidable True)

end

/-! ## The invariant -/

/-- What holds of a planner with its queue: requests are in the queue once, and they
were queued the cooldown after they had been handed out. -/
structure Scheduled (config : MdnsProbePlannerConfig) (clock : Nat → Int)
    (handedOut : List (Int × MdnsProbeRequest)) (planner : MdnsProbePlanner)
    (queued : List MdnsProbeRequest) : Prop where
  distinct : (queued.map probeKey).Nodup
  pendingKeys : ∀ key, key ∈ planner.pendingKeys ↔ key ∈ queued.map probeKey
  due : ∀ req ∈ queued, ∃ i < planner.readings,
    ∀ entry ∈ handedOut, entry.2 = req → entry.1 + cooldownNs config ≤ clock i
  queuedStamped : ∀ req ∈ queued, planner.lastProbe (probeKey req) ≠ none
  handedOutStamped : ∀ entry ∈ handedOut, planner.lastProbe (probeKey entry.2) ≠ none
  stampsPast : ∀ key stamp, planner.lastProbe key = some stamp →
    ∃ i < planner.readings, stamp = clock i
  spaced : Spaced config handedOut

section

variable {config : MdnsProbePlannerConfig} {clock : Nat → Int}
  {handedOut : List (Int × MdnsProbeRequest)} {planner : MdnsProbePlanner}
  {queued : List MdnsProbeRequest}

/-- A reading of the clock more. -/
theorem Scheduled.read (h : Scheduled config clock handedOut planner queued) :
    Scheduled config clock handedOut { planner with readings := planner.readings + 1 } queued where
  distinct := h.distinct
  pendingKeys := h.pendingKeys
  due := by
    intro req hreq
    obtain ⟨i, hi, hdue⟩ := h.due req hreq
    exact ⟨i, Nat.lt_succ_of_lt hi, hdue⟩
  queuedStamped := h.queuedStamped
  handedOutStamped := h.handedOutStamped
  stampsPast := by
    intro key stamp hstamp
    obtain ⟨i, hi, hpast⟩ := h.stampsPast key stamp hstamp
    exact ⟨i, Nat.lt_succ_of_lt hi, hpast⟩
  spaced := h.spaced

/-- The elapsed milliseconds reach the cooldown when the cooldown is over. -/
theorem tdiv_lt_cooldown_iff {last now : Int} (h : last ≤ now) :
    (now - last).tdiv 1000000 < (config.probeCooldownMs.toNat : Int) ↔
      now < last + cooldownNs config := by
  rw [Int.tdiv_eq_ediv_of_nonneg (by omega), cooldownNs]
  omega

/-- What `try_enqueue` does: it refuses the request, or it accepts one that is not
pending and whose stamp is the cooldown ago. -/
theorem tryEnqueue_cases (config : MdnsProbePlannerConfig) (clock : Nat → Int)
    (planner : MdnsProbePlanner) (req : MdnsProbeRequest) :
    tryEnqueue config clock planner req = (false, planner) ∨
    tryEnqueue config clock planner req =
      (false, { planner with readings := planner.readings + 1 }) ∨
    (probeKey req ∉ planner.pendingKeys ∧
      (∀ last, planner.lastProbe (probeKey req) = some last →
        ¬ (clock planner.readings - last).tdiv 1000000 < (config.probeCooldownMs.toNat : Int)) ∧
      tryEnqueue config clock planner req =
        (true,
          { planner with
            pendingKeys := insert (probeKey req) planner.pendingKeys
            lastProbe := Function.update planner.lastProbe (probeKey req)
              (some (clock planner.readings))
            readings := planner.readings + 1 })) := by
  unfold tryEnqueue
  by_cases hempty : req.qname.isEmpty = true
  · exact Or.inl (if_pos hempty)
  · rw [if_neg hempty]
    by_cases hpending : probeKey req ∈ planner.pendingKeys
    · exact Or.inr (Or.inl (if_pos hpending))
    · dsimp only
      rw [if_neg hpending]
      cases hlast : planner.lastProbe (probeKey req) with
      | none => exact Or.inr (Or.inr ⟨hpending, by simp, rfl⟩)
      | some last =>
          by_cases hcool : (clock planner.readings - last).tdiv 1000000 <
              (config.probeCooldownMs.toNat : Int)
          · exact Or.inr (Or.inl (if_pos (decide_eq_true hcool)))
          · refine Or.inr (Or.inr ⟨hpending, ?_, if_neg (by simpa using hcool)⟩)
            rintro _ ⟨⟩
            exact hcool

/-- A request that is not late and whose stamp is the cooldown ago was handed out the
cooldown ago, or never. -/
theorem Scheduled.due_of_cool (hclock : Monotone clock)
    (h : Scheduled config clock handedOut planner queued) {req : MdnsProbeRequest}
    (hpending : probeKey req ∉ planner.pendingKeys)
    (hcool : ∀ last, planner.lastProbe (probeKey req) = some last →
      ¬ (clock planner.readings - last).tdiv 1000000 < (config.probeCooldownMs.toNat : Int))
    (hlate : ¬ LateObservation config clock handedOut planner req) :
    ∀ entry ∈ handedOut, entry.2 = req →
      entry.1 + cooldownNs config ≤ clock planner.readings := by
  intro entry hentry hreq
  obtain ⟨stamp, hstamp⟩ := Option.ne_none_iff_exists'.mp (h.handedOutStamped entry hentry)
  rw [hreq] at hstamp
  obtain ⟨i, hi, rfl⟩ := h.stampsPast _ _ hstamp
  have hover := hcool _ hstamp
  rw [tdiv_lt_cooldown_iff (hclock hi.le), not_lt] at hover
  by_contra hearly
  exact hlate ⟨hpending, ⟨_, hstamp, hover⟩, entry, hentry, hreq, not_le.mp hearly⟩

/-- A stamp more. -/
theorem update_lastProbe_ne_none {key key' : Bytes} {stamp : Int}
    (h : key ≠ key' → planner.lastProbe key ≠ none) :
    Function.update planner.lastProbe key' (some stamp) key ≠ none := by
  by_cases hkey : key = key'
  · simp [hkey]
  · rw [Function.update_of_ne hkey]
    exact h hkey

/-- A request that is accepted is stamped and goes to the end of the queue. -/
theorem Scheduled.accept (h : Scheduled config clock handedOut planner queued)
    {req : MdnsProbeRequest} (hpending : probeKey req ∉ planner.pendingKeys)
    (hdue : ∀ entry ∈ handedOut, entry.2 = req →
      entry.1 + cooldownNs config ≤ clock planner.readings) :
    Scheduled config clock handedOut
      { planner with
        pendingKeys := insert (probeKey req) planner.pendingKeys
        lastProbe := Function.update planner.lastProbe (probeKey req)
          (some (clock planner.readings))
        readings := planner.readings + 1 }
      (queued ++ [req]) where
  distinct := by
    have hnew : probeKey req ∉ queued.map probeKey := fun hmem =>
      hpending ((h.pendingKeys _).mpr hmem)
    rw [List.map_append, List.nodup_append]
    exact ⟨h.distinct, List.nodup_singleton _, by simpa using hnew⟩
  pendingKeys := by
    intro key
    rw [Finset.mem_insert, h.pendingKeys, List.map_append, List.mem_append, or_comm]
    simp
  due := by
    -- the reading that accepted the request is the one it is due since
    intro req' hreq'
    rcases List.mem_append.mp hreq' with hold | hlast
    · obtain ⟨i, hi, hold⟩ := h.due req' hold
      exact ⟨i, Nat.lt_succ_of_lt hi, hold⟩
    · rw [List.mem_singleton.mp hlast]
      exact ⟨planner.readings, Nat.lt_succ_self _, hdue⟩
  queuedStamped := by
    intro req' hreq'
    refine update_lastProbe_ne_none fun hkey => ?_
    rcases List.mem_append.mp hreq' with hold | hlast
    · exact h.queuedStamped req' hold
    · exact absurd (List.mem_singleton.mp hlast ▸ rfl) hkey
  handedOutStamped := fun entry hentry =>
    update_lastProbe_ne_none fun _ => h.handedOutStamped entry hentry
  stampsPast := by
    intro key stamp hstamp
    dsimp only at hstamp
    by_cases hkey : key = probeKey req
    · subst hkey
      rw [Function.update_self] at hstamp
      exact ⟨planner.readings, Nat.lt_succ_self _, (Option.some.inj hstamp).symm⟩
    · rw [Function.update_of_ne hkey] at hstamp
      obtain ⟨i, hi, hpast⟩ := h.stampsPast key stamp hstamp
      exact ⟨i, Nat.lt_succ_of_lt hi, hpast⟩
  spaced := h.spaced

theorem scheduled_tryEnqueue (hclock : Monotone clock)
    (h : Scheduled config clock handedOut planner queued) {req : MdnsProbeRequest}
    (hlate : ¬ LateObservation config clock handedOut planner req) :
    Scheduled config clock handedOut (tryEnqueue config clock planner req).2
      (if (tryEnqueue config clock planner req).1 then queued ++ [req] else queued) := by
  rcases tryEnqueue_cases config clock planner req with heq | heq | ⟨hpending, hcool, heq⟩
  · rw [heq]
    exact h
  · rw [heq]
    exact h.read
  · rw [heq, if_pos rfl]
    exact h.accept hpending (h.due_of_cool hclock hpending hcool hlate)

theorem tryEnqueue_pending (config : MdnsProbePlannerConfig) (clock : Nat → Int)
    (planner : MdnsProbePlanner) (req : MdnsProbeRequest) :
    (tryEnqueue config clock planner req).2.pending = planner.pending := by
  rcases tryEnqueue_cases config clock planner req with heq | heq | ⟨-, -, heq⟩ <;> rw [heq]

/-- The loop of `enqueue_batch` with some requests accepted already. -/
theorem scheduled_acceptLoop (hclock : Monotone clock) {accepted : List MdnsProbeRequest}
    (batch : List MdnsProbeRequest)
    (h : Scheduled config clock handedOut planner (planner.pending.flatten ++ accepted))
    (hlate : EveryStep (fun planner req => (tryEnqueue config clock planner req).2)
      (fun planner req => ¬ LateObservation config clock handedOut planner req) planner batch) :
    ∃ planner' accepted',
      batch.foldl
        (fun acc req =>
          ((tryEnqueue config clock acc.1 req).2,
            if (tryEnqueue config clock acc.1 req).1 then acc.2 ++ [req] else acc.2))
        (planner, accepted) = (planner', accepted') ∧
      planner'.pending = planner.pending ∧
      Scheduled config clock handedOut planner' (planner'.pending.flatten ++ accepted') := by
  induction batch generalizing planner accepted with
  | nil => exact ⟨planner, accepted, rfl, rfl, h⟩
  | cons req batch ih =>
      have hstep := scheduled_tryEnqueue hclock h hlate.1
      have hpending := tryEnqueue_pending config clock planner req
      have hqueued : (if (tryEnqueue config clock planner req).1 then
            planner.pending.flatten ++ accepted ++ [req]
          else planner.pending.flatten ++ accepted) =
            (tryEnqueue config clock planner req).2.pending.flatten ++
              (if (tryEnqueue config clock planner req).1 then accepted ++ [req]
              else accepted) := by
        rw [hpending]
        split_ifs
        · rw [List.append_assoc]
        · rfl
      rw [hqueued] at hstep
      obtain ⟨planner', accepted', hloop, hpending', hscheduled⟩ := ih hstep hlate.2
      exact ⟨planner', accepted', hloop, hpending'.trans hpending, hscheduled⟩

theorem scheduled_enqueueBatch (hclock : Monotone clock) {batch : List MdnsProbeRequest}
    (h : Scheduled config clock handedOut planner planner.pending.flatten)
    (hlate : NoLateRequest config clock handedOut planner batch) :
    Scheduled config clock handedOut (enqueueBatch config clock planner batch)
      (enqueueBatch config clock planner batch).pending.flatten := by
  unfold enqueueBatch
  by_cases hempty : batch.isEmpty = true
  · rw [if_pos hempty]
    exact h
  · rw [if_neg hempty]
    -- only a batch that finds room is read request by request
    by_cases hfull : planner.pending.length ≥ config.maxPending
    · rw [if_pos hfull]
      exact h
    · rw [if_neg hfull]
      have hstart : Scheduled config clock handedOut planner (planner.pending.flatten ++ []) := by
        rw [List.append_nil]
        exact h
      obtain ⟨planner', accepted, hloop, -, hscheduled⟩ :=
        scheduled_acceptLoop hclock batch hstart (hlate (by omega))
      have haccept : acceptRequests config clock planner batch = (planner', accepted) := hloop
      rw [haccept]
      dsimp only
      split_ifs with hnone
      · rw [List.isEmpty_iff.mp hnone, List.append_nil] at hscheduled
        exact hscheduled
      · -- the requests accepted are the last batch of the queue
        have hflatten : (planner'.pending ++ [accepted]).flatten =
            planner'.pending.flatten ++ accepted := by
          simp
        rw [hflatten]
        exact ⟨hscheduled.distinct, hscheduled.pendingKeys, hscheduled.due,
          hscheduled.queuedStamped, hscheduled.handedOutStamped, hscheduled.stampsPast,
          hscheduled.spaced⟩

theorem scheduled_observeRecord (hclock : Monotone clock) {rec : ResourceRecordView}
    (h : Scheduled config clock handedOut planner planner.pending.flatten)
    (hlate : ∀ batch ∈ probeBatch rec, NoLateRequest config clock handedOut planner batch) :
    Scheduled config clock handedOut (observeRecord config clock planner rec)
      (observeRecord config clock planner rec).pending.flatten := by
  unfold observeRecord
  cases hbatch : probeBatch rec with
  | none => exact h
  | some batch => exact scheduled_enqueueBatch hclock h (hlate batch hbatch)

@[simp] theorem drainLoop_eq (limit : Nat) (planner : MdnsProbePlanner)
    (out : List (List MdnsProbeRequest)) :
    drainLoop limit planner out =
      ({ planner with
         pending := planner.pending.drop limit
         pendingKeys := (planner.pending.take limit).flatten.foldl
           (fun keys req => keys.erase (probeKey req)) planner.pendingKeys },
        out ++ planner.pending.take limit) := by
  induction limit generalizing planner out with
  | zero => simp [drainLoop]
  | succ limit ih =>
      rw [drainLoop]
      cases hpending : planner.pending with
      | nil =>
          cases planner
          obtain rfl := hpending
          simp
      | cons batch rest => simp [ih, List.append_assoc]

@[simp] theorem mem_foldl_erase {reqs : List MdnsProbeRequest} {keys : Finset Bytes} {key : Bytes} :
    key ∈ reqs.foldl (fun keys req => keys.erase (probeKey req)) keys ↔
      key ∈ keys ∧ key ∉ reqs.map probeKey := by
  induction reqs generalizing keys with
  | nil => simp
  | cons req reqs ih =>
      rw [List.foldl_cons, ih, Finset.mem_erase, List.map_cons, List.mem_cons, not_or]
      tauto

/-- Requests of the queue that are handed out are handed out the cooldown after they
were before. -/
theorem scheduled_handOut (hclock : Monotone clock) {taken left : List MdnsProbeRequest}
    (h : Scheduled config clock handedOut planner (taken ++ left))
    (pending : List (List MdnsProbeRequest)) :
    Scheduled config clock
      (handedOut ++ taken.map fun req => (clock planner.readings, req))
      { planner with
        pending
        pendingKeys := taken.foldl (fun keys req => keys.erase (probeKey req)) planner.pendingKeys
        readings := planner.readings + 1 } left := by
  have hsplit := h.distinct
  rw [List.map_append, List.nodup_append] at hsplit
  obtain ⟨htaken, hleft, hapart⟩ := hsplit
  refine ⟨hleft, ?_, ?_, ?_, ?_, ?_, ?_⟩
  · intro key
    rw [mem_foldl_erase, h.pendingKeys, List.map_append, List.mem_append]
    constructor
    · rintro ⟨hmem | hmem, hnot⟩
      · exact absurd hmem hnot
      · exact hmem
    · exact fun hmem => ⟨Or.inr hmem, fun hin => hapart key hin key hmem rfl⟩
  · intro req hreq
    obtain ⟨i, hi, hdue⟩ := h.due req (List.mem_append_right _ hreq)
    refine ⟨i, Nat.lt_succ_of_lt hi, ?_⟩
    intro entry hentry heq
    rcases List.mem_append.mp hentry with hold | hnew
    · exact hdue entry hold heq
    · -- a request that is left is none of those taken
      obtain ⟨req', hreq', rfl⟩ := List.mem_map.mp hnew
      obtain rfl : req' = req := heq
      exact absurd rfl (hapart _ (List.mem_map_of_mem hreq') _ (List.mem_map_of_mem hreq))
  · exact fun req hreq => h.queuedStamped req (List.mem_append_right _ hreq)
  · intro entry hentry
    rcases List.mem_append.mp hentry with hold | hnew
    · exact h.handedOutStamped entry hold
    · obtain ⟨req', hreq', rfl⟩ := List.mem_map.mp hnew
      exact h.queuedStamped req' (List.mem_append_left _ hreq')
  · intro key stamp hstamp
    obtain ⟨i, hi, hpast⟩ := h.stampsPast key stamp hstamp
    exact ⟨i, Nat.lt_succ_of_lt hi, hpast⟩
  · refine List.pairwise_append.mpr ⟨h.spaced, ?_, ?_⟩
    · -- no request is taken twice
      have hnodup : taken.Nodup := htaken.of_map
      rw [List.pairwise_map]
      exact hnodup.imp fun hne heq => absurd heq hne
    · -- it was due when it was queued, and the clock has not gone back since
      intro entry hentry later hlater heq
      obtain ⟨req, hreq, rfl⟩ := List.mem_map.mp hlater
      obtain ⟨i, hi, hdue⟩ := h.due req (List.mem_append_left _ hreq)
      exact (hdue entry hentry heq).trans (hclock hi.le)

end

/-! ## Whole runs -/

/-- The invariant of the system. -/
def Probing.Scheduled (config : MdnsProbePlannerConfig) (clock : Nat → Int) (s : Probing) : Prop :=
  Scanner.Scheduled config clock s.handedOut s.planner s.planner.pending.flatten

theorem Probing.scheduled_start (config : MdnsProbePlannerConfig) (clock : Nat → Int) :
    Probing.start.Scheduled config clock := by
  refine ⟨?_, ?_, ?_, ?_, ?_, ?_, ?_⟩ <;>
    simp [Probing.start, MdnsProbePlanner.start, Spaced]

theorem scheduled_probeStep {config : MdnsProbePlannerConfig} {clock : Nat → Int}
    (hclock : Monotone clock) {s : Probing} {action : ProbeAction}
    (h : s.Scheduled config clock) (hlate : NoLateObservation config clock s action) :
    (probeStep config clock s action).Scheduled config clock := by
  cases action with
  | observe ev =>
      exact EveryStep.invariant
        (I := fun planner =>
          Scanner.Scheduled config clock s.handedOut planner planner.pending.flatten)
        (fun _ _ hplanner hrec => scheduled_observeRecord hclock hplanner hrec) hlate h
  | drainReady maxBatches =>
      unfold Probing.Scheduled probeStep MdnsProbePlanner.drainReady
      dsimp only
      rw [drainLoop_eq, List.nil_append]
      dsimp only
      refine scheduled_handOut hclock ?_ _
      rw [← List.flatten_append, List.take_append_drop]
      exact h

/-- **Cooldown.**  In every run in which no request is observed late, the same request
is handed out at times that are at least the cooldown apart. -/
theorem spaced_of_no_lateObservation (config : MdnsProbePlannerConfig) (clock : Nat → Int)
    (hclock : Monotone clock) (actions : List ProbeAction)
    (hactions : EveryStep (probeStep config clock) (NoLateObservation config clock) .start
      actions) :
    Spaced config (actions.foldl (probeStep config clock) .start).handedOut :=
  (EveryStep.invariant (I := Probing.Scheduled config clock)
    (fun _ _ h hlate => scheduled_probeStep hclock h hlate) hactions
    (Probing.scheduled_start config clock)).spaced

/-! ### A request that is drained late -/

/-- A service type is advertised. -/
def typeAdvertised : ProbeAction :=
  .observe
    { timestampMs := 1, srcIp := ascii "192.168.1.10"
      records := [{ ownerName := kDnsSdMetaService, type := typePtr,
                    rdataText := ascii "_http._tcp.local", ttl := 120, observedAtMs := 1 }] }

/-- The readings of a clock that stands at zero and then, from the given reading on, at
one minute. -/
def minuteFrom (n : Nat) (i : Nat) : Int :=
  if i < n then 0 else 60000000000

theorem minuteFrom_monotone (n : Nat) : Monotone (minuteFrom n) := by
  intro i j hij
  unfold minuteFrom
  split_ifs <;> omega

/-- The type is asked for, and asked for again after a minute. -/
theorem typeAdvertised_spaced :
    Spaced {} ([typeAdvertised, .drainReady 8, typeAdvertised, .drainReady 8].foldl
      (probeStep {} (minuteFrom 2)) .start).handedOut :=
  spaced_of_no_lateObservation {} (minuteFrom 2) (minuteFrom_monotone 2) _ (by decide +kernel)

/-- The type is queued, handed out a minute later, and at once queued and handed out
again. -/
theorem lateDrain_repeated :
    ¬ ∀ (config : MdnsProbePlannerConfig) (clock : Nat → Int), Monotone clock →
      ∀ actions : List ProbeAction,
        Spaced config (actions.foldl (probeStep config clock) .start).handedOut := by
  intro h
  have hrun := h {} (minuteFrom 1) (minuteFrom_monotone 1)
    [typeAdvertised, .drainReady 8, typeAdvertised, .drainReady 8]
  revert hrun
  decide +kernel

end Scanner
end LanDiscovery

import LanDiscovery.Scanner.Decimal
import LanDiscovery.Scanner.MdnsProbePlanner

/-!
# The queue of the probe planner

`pending_`, `pending_keys_` and `last_probe_` through all calls of `observe` and
`drain_ready`, whatever the clock shows.  Beside the planner stand the batches that it
accepted and those that it handed out, in order: at any time the accepted ones are those
handed out followed by those pending.
-/

namespace LanDiscovery
namespace Scanner

open Library Library.Transition Library.Utf8 Library.PrefixCode

/-! ## Keys -/

theorem keySeparator_not_isDigit : Json.isDigit keySeparator = false := by
  decide

/-- **A key is the key of one request.** -/
theorem probeKey_injective : Function.Injective probeKey := by
  intro req req' h
  have hkey : ∀ req : MdnsProbeRequest,
      (probeKey req).reverse =
        (decimal req.qtype.toNat).reverse ++ keySeparator :: req.qname.reverse := by
    intro req
    simp [probeKey, joinKey]
  -- the number is what stands behind the last separator
  have hreverse := congrArg List.reverse h
  rw [hkey, hkey] at hreverse
  obtain ⟨hnumber, hrest⟩ := append_inj_of_stop (p := fun b => Json.isDigit b = true)
    (fun b hb => isDigit_of_mem_decimal (List.mem_reverse.mp hb))
    (fun b hb => isDigit_of_mem_decimal (List.mem_reverse.mp hb))
    (by simp [keySeparator_not_isDigit]) (by simp [keySeparator_not_isDigit]) hreverse
  have hqtype := decimal_injective (List.reverse_injective hnumber)
  have hqname := List.reverse_injective (List.cons.inj hrest).2
  cases req
  cases req'
  rw [MdnsProbeRequest.mk.injEq]
  exact ⟨hqname, UInt16.toNat_inj.mp hqtype⟩

/-! ## What is accepted -/

section

variable (config : MdnsProbePlannerConfig) (clock : Nat → Int)

/-- The requests of a batch that `enqueue_batch` accepts. -/
def acceptedOf (planner : MdnsProbePlanner) (batch : List MdnsProbeRequest) :
    List MdnsProbeRequest :=
  if planner.pending.length ≥ config.maxPending then []
  else (acceptRequests config clock planner batch).2

/-- The batches that are accepted for a record: one, or none if nothing of it is. -/
def acceptedFor (planner : MdnsProbePlanner) (rec : ResourceRecordView) :
    List (List MdnsProbeRequest) :=
  match probeBatch rec with
  | some batch =>
      if (acceptedOf config clock planner batch).isEmpty then []
      else [acceptedOf config clock planner batch]
  | none => []

/-- The batches that are accepted while the records of an event are observed. -/
def acceptedBatches : MdnsProbePlanner → List ResourceRecordView → List (List MdnsProbeRequest)
  | _, [] => []
  | planner, rec :: recs =>
      acceptedFor config clock planner rec ++
        acceptedBatches (observeRecord config clock planner rec) recs

end

/-- A planner with the batches that it accepted and handed out so far. -/
structure Queueing where
  planner : MdnsProbePlanner
  accepted : List (List MdnsProbeRequest)
  handedOut : List (List MdnsProbeRequest)

/-- The state before the first call. -/
def Queueing.start : Queueing where
  planner := .start
  accepted := []
  handedOut := []

/-- The state after a call. -/
def queueStep (config : MdnsProbePlannerConfig) (clock : Nat → Int) (s : Queueing) :
    ProbeAction → Queueing
  | .observe ev =>
      { s with
        planner := s.planner.observe config clock ev
        accepted := s.accepted ++ acceptedBatches config clock s.planner ev.records }
  | .drainReady maxBatches =>
      let (planner, out) := s.planner.drainReady config maxBatches
      { s with
        planner
        handedOut := s.handedOut ++ out }

/-! ## The invariant -/

/-- The three containers are consistent, with some requests accepted that are not in the
queue yet. -/
structure Consistent (config : MdnsProbePlannerConfig) (planner : MdnsProbePlanner)
    (accepted : List MdnsProbeRequest) : Prop where
  keys : ∀ key, key ∈ planner.pendingKeys ↔
    key ∈ (planner.pending.flatten ++ accepted).map probeKey
  distinct : (planner.pending.flatten ++ accepted).Nodup
  bounded : planner.pending.length ≤ config.maxPending
  nonempty : ∀ batch ∈ planner.pending, batch ≠ []

section

variable {config : MdnsProbePlannerConfig} {planner : MdnsProbePlanner}
  {accepted : List MdnsProbeRequest}

theorem Consistent.mem_pendingKeys (h : Consistent config planner accepted)
    (req : MdnsProbeRequest) :
    probeKey req ∈ planner.pendingKeys ↔ req ∈ planner.pending.flatten ++ accepted := by
  rw [h.keys, List.mem_map_of_injective probeKey_injective]

theorem consistent_tryEnqueue (clock : Nat → Int) (h : Consistent config planner accepted)
    (req : MdnsProbeRequest) :
    Consistent config (tryEnqueue config clock planner req).2
      (if (tryEnqueue config clock planner req).1 then accepted ++ [req] else accepted) := by
  rcases tryEnqueue_cases config clock planner req with heq | heq | ⟨hpending, -, heq⟩
  · rw [heq]
    exact h
  · rw [heq]
    exact ⟨h.keys, h.distinct, h.bounded, h.nonempty⟩
  · rw [heq, if_pos rfl]
    refine ⟨fun key => ?_, ?_, h.bounded, h.nonempty⟩
    · rw [Finset.mem_insert, h.keys]
      simp only [List.map_append, List.mem_append, List.map_singleton, List.mem_singleton]
      tauto
    · rw [← List.append_assoc]
      rw [h.mem_pendingKeys] at hpending
      exact h.distinct.append (List.nodup_singleton _) (by simpa using hpending)

/-- A request that is refused leaves the queue, the keys and the stamps alone. -/
theorem tryEnqueue_refused {clock : Nat → Int} {req : MdnsProbeRequest}
    (h : (tryEnqueue config clock planner req).1 = false) :
    (tryEnqueue config clock planner req).2.pending = planner.pending ∧
    (tryEnqueue config clock planner req).2.pendingKeys = planner.pendingKeys ∧
    (tryEnqueue config clock planner req).2.lastProbe = planner.lastProbe := by
  rcases tryEnqueue_cases config clock planner req with heq | heq | ⟨-, -, heq⟩
  · rw [heq]
    exact ⟨rfl, rfl, rfl⟩
  · rw [heq]
    exact ⟨rfl, rfl, rfl⟩
  · rw [heq] at h
    exact absurd h (by simp)

/-- A request stamps its own key only. -/
theorem tryEnqueue_lastProbe_of_ne {clock : Nat → Int} {req req' : MdnsProbeRequest}
    (h : req' ≠ req) :
    (tryEnqueue config clock planner req).2.lastProbe (probeKey req') =
      planner.lastProbe (probeKey req') := by
  rcases tryEnqueue_cases config clock planner req with heq | heq | ⟨-, -, heq⟩
  · rw [heq]
  · rw [heq]
  · rw [heq]
    exact Function.update_of_ne (fun hkey => h (probeKey_injective hkey)) _ _

/-- The loop of `enqueue_batch`: the queue stays, what is accepted is stamped. -/
theorem acceptLoop_spec (clock : Nat → Int) (batch : List MdnsProbeRequest)
    (h : Consistent config planner accepted) :
    ∃ planner' accepted',
      batch.foldl
        (fun acc req =>
          ((tryEnqueue config clock acc.1 req).2,
            if (tryEnqueue config clock acc.1 req).1 then acc.2 ++ [req] else acc.2))
        (planner, accepted) = (planner', accepted') ∧
      planner'.pending = planner.pending ∧ accepted ⊆ accepted' ∧
      (∀ req ∉ accepted', planner'.lastProbe (probeKey req) = planner.lastProbe (probeKey req)) ∧
      Consistent config planner' accepted' := by
  induction batch generalizing planner accepted with
  | nil => exact ⟨planner, accepted, rfl, rfl, List.Subset.refl _, fun _ _ => rfl, h⟩
  | cons req batch ih =>
      obtain ⟨planner', accepted', hloop, hpending, hsubset, hstamps, hconsistent⟩ :=
        ih (consistent_tryEnqueue clock h req)
      refine ⟨planner', accepted', hloop, hpending.trans (tryEnqueue_pending _ _ _ _), ?_, ?_,
        hconsistent⟩
      · intro req' hreq'
        apply hsubset
        split_ifs
        · exact List.mem_append_left _ hreq'
        · exact hreq'
      · intro req' hreq'
        rw [hstamps req' hreq']
        by_cases haccepted : (tryEnqueue config clock planner req).1 = true
        · refine tryEnqueue_lastProbe_of_ne fun heq => hreq' (hsubset ?_)
          rw [if_pos haccepted, heq]
          exact List.mem_append_right _ (List.mem_singleton.mpr rfl)
        · rw [(tryEnqueue_refused (Bool.eq_false_iff.mpr haccepted)).2.2]

/-- When the queue is full, a batch changes nothing at all. -/
theorem enqueueBatch_full {clock : Nat → Int} {batch : List MdnsProbeRequest}
    (h : planner.pending.length ≥ config.maxPending) :
    enqueueBatch config clock planner batch = planner := by
  rw [enqueueBatch, if_pos h, ite_self]

/-- Batches were accepted: they stand behind those pending, and nothing else is
stamped. -/
structure Adds (config : MdnsProbePlannerConfig) (planner planner' : MdnsProbePlanner)
    (batches : List (List MdnsProbeRequest)) : Prop where
  consistent : Consistent config planner' []
  pending : planner'.pending = planner.pending ++ batches
  stamps : ∀ req ∉ batches.flatten,
    planner'.lastProbe (probeKey req) = planner.lastProbe (probeKey req)

theorem Adds.refl (h : Consistent config planner []) : Adds config planner planner [] :=
  ⟨h, (List.append_nil _).symm, fun _ _ => rfl⟩

theorem Adds.trans {planner' planner'' : MdnsProbePlanner}
    {batches batches' : List (List MdnsProbeRequest)} (h : Adds config planner planner' batches)
    (h' : Adds config planner' planner'' batches') :
    Adds config planner planner'' (batches ++ batches') := by
  refine ⟨h'.consistent, ?_, fun req hreq => ?_⟩
  · rw [h'.pending, h.pending, List.append_assoc]
  · rw [List.flatten_append, List.mem_append, not_or] at hreq
    rw [h'.stamps req hreq.2, h.stamps req hreq.1]

/-- The requests accepted by the loop become the last batch. -/
theorem Consistent.pushBatch {accepted : List MdnsProbeRequest}
    (h : Consistent config planner accepted) (hroom : planner.pending.length < config.maxPending)
    (hne : accepted ≠ []) :
    Consistent config { planner with pending := planner.pending ++ [accepted] } [] := by
  refine ⟨?_, ?_, ?_, fun batch hbatch => ?_⟩
  · simpa using h.keys
  · simpa using h.distinct
  · rw [List.length_append, List.length_singleton]
    exact hroom
  · rcases List.mem_append.mp hbatch with hold | hnew
    · exact h.nonempty batch hold
    · rw [List.mem_singleton.mp hnew]
      exact hne

/-- What is accepted of a batch is the last batch of the queue. -/
theorem enqueueBatch_adds (clock : Nat → Int) (batch : List MdnsProbeRequest)
    (h : Consistent config planner []) :
    Adds config planner (enqueueBatch config clock planner batch)
      (if (acceptedOf config clock planner batch).isEmpty then []
      else [acceptedOf config clock planner batch]) := by
  by_cases hfull : planner.pending.length ≥ config.maxPending
  · have hnone : acceptedOf config clock planner batch = [] := if_pos hfull
    rw [enqueueBatch_full hfull, hnone]
    exact .refl h
  cases batch with
  | nil =>
      have hnone : acceptedOf config clock planner [] = [] := by
        rw [acceptedOf, if_neg hfull]
        rfl
      have hbatch : enqueueBatch config clock planner [] = planner := rfl
      rw [hbatch, hnone]
      exact .refl h
  | cons req batch =>
      obtain ⟨planner', accepted, hloop, hpending, -, hstamps, hconsistent⟩ :=
        acceptLoop_spec clock (req :: batch) h
      have haccept : acceptRequests config clock planner (req :: batch) = (planner', accepted) :=
        hloop
      have hof : acceptedOf config clock planner (req :: batch) = accepted := by
        rw [acceptedOf, if_neg hfull, haccept]
      have hbatch : enqueueBatch config clock planner (req :: batch) =
          if accepted.isEmpty then planner'
          else { planner' with pending := planner'.pending ++ [accepted] } := by
        rw [enqueueBatch, if_neg (by simp), if_neg hfull, haccept]
      rw [hbatch, hof]
      split_ifs with hempty
      · -- a batch of which nothing is accepted is not queued
        obtain rfl := List.isEmpty_iff.mp hempty
        exact ⟨hconsistent, hpending.trans (List.append_nil _).symm, hstamps⟩
      · refine ⟨hconsistent.pushBatch ?_ (by simpa using hempty), by rw [hpending], ?_⟩
        · rw [hpending]
          omega
        · simpa using hstamps

theorem observeRecord_adds (clock : Nat → Int) (rec : ResourceRecordView)
    (h : Consistent config planner []) :
    Adds config planner (observeRecord config clock planner rec)
      (acceptedFor config clock planner rec) := by
  unfold observeRecord acceptedFor
  cases probeBatch rec with
  | none => exact .refl h
  | some batch => exact enqueueBatch_adds clock batch h

/-- An event puts the batches accepted for it behind those pending. -/
theorem observeRecords_adds (clock : Nat → Int) (recs : List ResourceRecordView)
    (h : Consistent config planner []) :
    Adds config planner (recs.foldl (observeRecord config clock) planner)
      (acceptedBatches config clock planner recs) := by
  induction recs generalizing planner with
  | nil => exact .refl h
  | cons rec recs ih =>
      have hfirst := observeRecord_adds clock rec h
      exact hfirst.trans (ih hfirst.consistent)

theorem drainReady_eq (config : MdnsProbePlannerConfig) (planner : MdnsProbePlanner)
    (maxBatches : Nat) :
    ∃ keys,
      planner.drainReady config maxBatches =
        ({ planner with
           pending := planner.pending.drop
             (if maxBatches > 0 then maxBatches else config.maxProbesPerTick)
           pendingKeys := keys },
          planner.pending.take (if maxBatches > 0 then maxBatches else config.maxProbesPerTick)) ∧
      ∀ key, key ∈ keys ↔ key ∈ planner.pendingKeys ∧
        key ∉ (planner.pending.take
          (if maxBatches > 0 then maxBatches else config.maxProbesPerTick)).flatten.map probeKey := by
  refine ⟨_, ?_, fun key => mem_foldl_erase⟩
  rw [MdnsProbePlanner.drainReady, drainLoop_eq]
  rfl

theorem consistent_drainReady (h : Consistent config planner []) (maxBatches : Nat) :
    Consistent config (planner.drainReady config maxBatches).1 [] := by
  obtain ⟨keys, heq, hkeys⟩ := drainReady_eq config planner maxBatches
  generalize (if maxBatches > 0 then maxBatches else config.maxProbesPerTick) = limit at heq hkeys
  have hsplit : planner.pending.flatten =
      (planner.pending.take limit).flatten ++ (planner.pending.drop limit).flatten := by
    rw [← List.flatten_append, List.take_append_drop]
  have hdistinct := h.distinct
  have hpending := h.keys
  rw [List.append_nil, hsplit] at hdistinct
  rw [List.append_nil, hsplit] at hpending
  rw [heq]
  refine ⟨fun key => ?_, ?_, ?_, ?_⟩
  · -- the keys of what is left are none of those taken
    have hapart := hdistinct.map probeKey_injective
    rw [List.map_append, List.nodup_append] at hapart
    dsimp only
    rw [hkeys, hpending, List.append_nil, List.map_append, List.mem_append]
    constructor
    · rintro ⟨htaken | hleft, hnot⟩
      · exact absurd htaken hnot
      · exact hleft
    · exact fun hleft => ⟨Or.inr hleft, fun htaken => hapart.2.2 key htaken key hleft rfl⟩
  · rw [List.append_nil]
    exact hdistinct.of_append_right
  · have hbounded := h.bounded
    dsimp only
    rw [List.length_drop]
    omega
  · exact fun batch hbatch => h.nonempty batch (List.mem_of_mem_drop hbatch)

end

/-! ## Whole runs -/

/-- The keys are those of the requests pending, which are pending once, in batches that
are not empty and not too many; what was accepted was handed out in this order or is
pending. -/
structure Queueing.Sound (config : MdnsProbePlannerConfig) (s : Queueing) : Prop where
  keys : ∀ key, key ∈ s.planner.pendingKeys ↔
    ∃ req ∈ s.planner.pending.flatten, probeKey req = key
  distinct : s.planner.pending.flatten.Nodup
  bounded : s.planner.pending.length ≤ config.maxPending
  nonempty : ∀ batch ∈ s.planner.pending, batch ≠ []
  fifo : s.handedOut ++ s.planner.pending = s.accepted

theorem Queueing.Sound.consistent {config : MdnsProbePlannerConfig} {s : Queueing}
    (h : s.Sound config) : Consistent config s.planner [] := by
  refine ⟨fun key => ?_, ?_, h.bounded, h.nonempty⟩
  · rw [h.keys, List.append_nil, List.mem_map]
  · rw [List.append_nil]
    exact h.distinct

theorem Queueing.Sound.of_consistent {config : MdnsProbePlannerConfig} {s : Queueing}
    (h : Consistent config s.planner []) (hfifo : s.handedOut ++ s.planner.pending = s.accepted) :
    s.Sound config := by
  refine ⟨fun key => ?_, ?_, h.bounded, h.nonempty, hfifo⟩
  · rw [h.keys, List.append_nil, List.mem_map]
  · simpa using h.distinct

theorem Queueing.sound_start (config : MdnsProbePlannerConfig) : Queueing.start.Sound config := by
  refine ⟨?_, ?_, ?_, ?_, ?_⟩ <;> simp [Queueing.start, MdnsProbePlanner.start]

/-- **Each call keeps the invariant.** -/
theorem sound_queueStep {config : MdnsProbePlannerConfig} (clock : Nat → Int) {s : Queueing}
    (h : s.Sound config) (action : ProbeAction) : (queueStep config clock s action).Sound config := by
  cases action with
  | observe ev =>
      have hadds := observeRecords_adds clock ev.records h.consistent
      refine .of_consistent hadds.consistent ?_
      dsimp only [queueStep]
      rw [MdnsProbePlanner.observe, hadds.pending, ← List.append_assoc, h.fifo]
  | drainReady maxBatches =>
      refine .of_consistent (consistent_drainReady h.consistent maxBatches) ?_
      obtain ⟨keys, heq, -⟩ := drainReady_eq config s.planner maxBatches
      dsimp only [queueStep]
      rw [heq, List.append_assoc, List.take_append_drop]
      exact h.fifo

/-- The state after some calls. -/
def queueRun (config : MdnsProbePlannerConfig) (clock : Nat → Int) (actions : List ProbeAction) :
    Queueing :=
  actions.foldl (queueStep config clock) .start

theorem sound_queueRun (config : MdnsProbePlannerConfig) (clock : Nat → Int)
    (actions : List ProbeAction) : (queueRun config clock actions).Sound config := by
  have hsteps : ∀ s : Queueing, s.Sound config →
      (actions.foldl (queueStep config clock) s).Sound config := by
    induction actions with
    | nil => exact fun s h => h
    | cons action actions ih => exact fun s h => ih _ (sound_queueStep clock h action)
  exact hsteps _ (Queueing.sound_start config)

/-- **The queue of the planner.**  For every configuration, clock and sequence of calls:
the three containers are consistent and what is accepted is handed out once, first in,
first out; a call of `drain_ready` hands out the front of the queue, up to its limit, and
stamps nothing; a request that is refused, alone, with a batch that finds the queue full
or with an event, leaves queue, keys and stamps as they are on its account. -/
theorem probeQueue_invariant (config : MdnsProbePlannerConfig) (clock : Nat → Int)
    (actions : List ProbeAction) :
    (queueRun config clock actions).Sound config ∧
    (∀ maxBatches,
      ((queueRun config clock actions).planner.drainReady config maxBatches).2 =
        (queueRun config clock actions).planner.pending.take
          (if maxBatches > 0 then maxBatches else config.maxProbesPerTick) ∧
      ((queueRun config clock actions).planner.drainReady config maxBatches).1.lastProbe =
        (queueRun config clock actions).planner.lastProbe) ∧
    (∀ planner req, (tryEnqueue config clock planner req).1 = false →
      (tryEnqueue config clock planner req).2.pending = planner.pending ∧
      (tryEnqueue config clock planner req).2.pendingKeys = planner.pendingKeys ∧
      (tryEnqueue config clock planner req).2.lastProbe = planner.lastProbe) ∧
    (∀ planner batch, planner.pending.length ≥ config.maxPending →
      enqueueBatch config clock planner batch = planner) ∧
    ∀ ev req,
      req ∉ (acceptedBatches config clock (queueRun config clock actions).planner
        ev.records).flatten →
      (queueStep config clock (queueRun config clock actions)
          (.observe ev)).planner.lastProbe (probeKey req) =
        (queueRun config clock actions).planner.lastProbe (probeKey req) ∧
      (probeKey req ∈ (queueStep config clock (queueRun config clock actions)
          (.observe ev)).planner.pendingKeys ↔
        probeKey req ∈ (queueRun config clock actions).planner.pendingKeys) ∧
      (req ∈ (queueStep config clock (queueRun config clock actions)
          (.observe ev)).planner.pending.flatten ↔
        req ∈ (queueRun config clock actions).planner.pending.flatten) := by
  have hsound := sound_queueRun config clock actions
  refine ⟨hsound, fun maxBatches => ?_, fun planner req => tryEnqueue_refused,
    fun planner batch => enqueueBatch_full, fun ev req hreq => ?_⟩
  · obtain ⟨keys, heq, -⟩ :=
      drainReady_eq config (queueRun config clock actions).planner maxBatches
    rw [heq]
    exact ⟨rfl, rfl⟩
  · have hadds := observeRecords_adds clock ev.records hsound.consistent
    have hqueue : req ∈ (queueStep config clock (queueRun config clock actions)
          (.observe ev)).planner.pending.flatten ↔
        req ∈ (queueRun config clock actions).planner.pending.flatten := by
      dsimp only [queueStep]
      rw [MdnsProbePlanner.observe, hadds.pending, List.flatten_append, List.mem_append,
        or_iff_left hreq]
    refine ⟨hadds.stamps req hreq, ?_, hqueue⟩
    -- the keys are those of the queue, before and after
    have hafter := (sound_queueStep clock hsound (.observe ev)).consistent.mem_pendingKeys req
    rw [List.append_nil] at hafter
    rw [hafter, hqueue, hsound.consistent.mem_pendingKeys, List.append_nil]

end Scanner
end LanDiscovery

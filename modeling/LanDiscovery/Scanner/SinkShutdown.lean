import LanDiscovery.Library.DropOldest
import LanDiscovery.Scanner.HttpEventSink

/-!
# The HTTP sink from the first event to its destructor

`HttpEventSink` on its own: any threads call `on_event` with any events, the poster
runs, and at some point the destructor sets `stop_` and waits for the poster.  Two more
logs tell what came into the queue and what the poster gave up.

What is posted, in hand or queued is a sublist of what came in, every other event is in
one of the two loss logs (`Accounted`), and a poster that does not fail any more posts
the rest before it exits (`Drained`).
-/

namespace LanDiscovery
namespace Scanner

open Library.DropOldest Library.Transition

/-- The sink, with everything that was enqueued and what the poster abandoned, in
order. -/
structure SinkHistory extends Pipeline where
  enqueued : List DiscoveryEvent
  abandoned : List DiscoveryEvent
  deriving DecidableEq

/-- The state after construction. -/
def SinkHistory.start : SinkHistory where
  toPipeline := .start
  enqueued := []
  abandoned := []

/-- The calls and the steps of the poster. -/
inductive SinkAction where
  /-- a call of `on_event` -/
  | onEvent (ev : DiscoveryEvent)
  /-- the poster wakes up and takes the front of the queue -/
  | take
  /-- `post_once` returns -/
  | post (accepted : Bool)
  /-- the poster has slept -/
  | wake
  /-- the destructor sets `stop_` -/
  | stop
  /-- the poster finds `stop_` set and the queue empty -/
  | exit
  deriving DecidableEq

/-- The steps that the poster takes. -/
def SinkAction.isPoster : SinkAction → Bool
  | .onEvent _ => false
  | .stop => false
  | _ => true

section

variable (config : HttpEventSinkConfig) (s : SinkHistory)

/-- A step of `next`, which leaves the logs alone. -/
def SinkHistory.lift (a : Action) : Option SinkHistory :=
  (next config s.toPipeline a).map fun p => { s with toPipeline := p }

/-- One step; `none` where the action is not enabled. -/
def sinkNext : SinkAction → Option SinkHistory
  | .onEvent ev =>
      some
        { s with
          toPipeline := httpOnEvent config s.toPipeline ev
          enqueued := if s.stop then s.enqueued else s.enqueued ++ [ev] }
  | .take => s.lift config .take
  | .post accepted => s.lift config (.post accepted)
  | .wake =>
      (s.lift config .wake).map fun t =>
        if s.stop then { t with abandoned := s.abandoned ++ s.poster.inHand } else t
  | .stop => if s.stop then none else s.lift config .shutdown
  | .exit => s.lift config .exit

end

/-- The step relation of the sink. -/
def SinkStep (config : HttpEventSinkConfig) (s : SinkHistory) (a : SinkAction)
    (t : SinkHistory) : Prop :=
  sinkNext config s a = some t

/-- The steps of a poster whose posts are accepted. -/
def SmoothStep (config : HttpEventSinkConfig) (s : SinkHistory) (a : SinkAction)
    (t : SinkHistory) : Prop :=
  SinkStep config s a t ∧ a ≠ .post false

/-- The states that some interleaving reaches. -/
def SinkReachable (config : HttpEventSinkConfig) : SinkHistory → Prop :=
  Reachable (· = SinkHistory.start) (SinkStep config)

/-- The events that were posted, are being posted or are queued. -/
def SinkHistory.underway (s : SinkHistory) : List DiscoveryEvent :=
  s.posted ++ s.poster.inHand ++ s.queue

/-- Between a failed attempt and the next one. -/
def Poster.isSleeping : Poster → Bool
  | .sleeping _ _ => true
  | _ => false

/-! ## What a step does -/

section

variable {config : HttpEventSinkConfig} {s t : SinkHistory} {a : SinkAction}

theorem lift_eq_some {action : Action} (h : s.lift config action = some t) :
    ∃ p, Step config s.toPipeline action p ∧ t = { s with toPipeline := p } := by
  obtain ⟨p, hp, ht⟩ := Option.map_eq_some_iff.mp h
  exact ⟨p, hp, ht.symm⟩

/-- What `on_event` does: nothing after shutdown, else the event is queued, for which
the oldest one goes when the queue is full. -/
theorem httpOnEvent_cases (config : HttpEventSinkConfig) (p : Pipeline) (ev : DiscoveryEvent) :
    (p.stop = true ∧ httpOnEvent config p ev = p) ∨
    (p.stop = false ∧ p.queue.length < config.maxQueueSize ∧
      httpOnEvent config p ev = { p with queue := p.queue ++ [ev] }) ∨
    (∃ oldest newer, p.stop = false ∧ p.queue = oldest :: newer ∧
      config.maxQueueSize ≤ p.queue.length ∧
      httpOnEvent config p ev =
        { p with queue := newer ++ [ev], dropped := p.dropped ++ [oldest] }) := by
  unfold httpOnEvent
  cases hstop : p.stop with
  | true => exact Or.inl ⟨rfl, if_pos rfl⟩
  | false =>
      right
      rw [if_neg Bool.false_ne_true]
      by_cases hfull : p.queue.length ≥ config.maxQueueSize
      · right
        rw [if_pos hfull]
        cases hqueue : p.queue with
        | nil =>
            -- a full queue is not empty
            have hpos := config.positive
            rw [hqueue, List.length_nil] at hfull
            omega
        | cons oldest newer => exact ⟨oldest, newer, rfl, rfl, by simpa [hqueue] using hfull, rfl⟩
      · left
        rw [if_neg hfull]
        exact ⟨rfl, by omega, rfl⟩

/-- Inversion of a step: everything that each action can do. -/
theorem sinkStep_cases (h : SinkStep config s a t) :
    (∃ ev, a = .onEvent ev ∧
      t = { s with
        toPipeline := httpOnEvent config s.toPipeline ev
        enqueued := if s.stop then s.enqueued else s.enqueued ++ [ev] }) ∨
    (∃ ev queue, a = .take ∧ s.poster = .waiting ∧ s.queue = ev :: queue ∧
      t = { s with queue := queue, poster := .posting ev 1000 }) ∨
    (∃ ev backoffMs, a = .post true ∧ s.poster = .posting ev backoffMs ∧
      t = { s with poster := .waiting, posted := s.posted ++ [ev] }) ∨
    (∃ ev backoffMs, a = .post false ∧ s.poster = .posting ev backoffMs ∧
      t = { s with poster := .sleeping ev backoffMs }) ∨
    (∃ ev backoffMs, a = .wake ∧ s.poster = .sleeping ev backoffMs ∧ s.stop = false ∧
      t = { s with poster := .posting ev (min (backoffMs * 2) kMaxBackoffMs) }) ∨
    (∃ ev backoffMs, a = .wake ∧ s.poster = .sleeping ev backoffMs ∧ s.stop = true ∧
      t = { s with poster := .exited, abandoned := s.abandoned ++ [ev] }) ∨
    (a = .stop ∧ s.stop = false ∧ t = { s with stop := true }) ∨
    (a = .exit ∧ s.poster = .waiting ∧ s.queue = [] ∧ s.stop = true ∧
      t = { s with poster := .exited }) := by
  cases a with
  | onEvent ev =>
      left
      exact ⟨ev, rfl, (Option.some.inj h).symm⟩
  | take =>
      right; left
      obtain ⟨p, hp, rfl⟩ := lift_eq_some h
      simpa using step_cases hp
  | post accepted =>
      right; right
      obtain ⟨p, hp, rfl⟩ := lift_eq_some h
      cases accepted with
      | true => exact Or.inl (by simpa using step_cases hp)
      | false => exact Or.inr (Or.inl (by simpa using step_cases hp))
  | wake =>
      right; right; right; right
      obtain ⟨r, hr, ht⟩ := Option.map_eq_some_iff.mp h
      obtain ⟨p, hp, rfl⟩ := lift_eq_some hr
      have hwake : ∃ ev backoffMs, s.poster = .sleeping ev backoffMs ∧
          p = { s.toPipeline with
            poster := if s.stop then .exited
              else .posting ev (min (backoffMs * 2) kMaxBackoffMs) } := by
        simpa using step_cases hp
      obtain ⟨ev, backoffMs, hposter, rfl⟩ := hwake
      -- after the stop the event that was slept on is given up
      cases hstop : s.stop with
      | false =>
          left
          exact ⟨ev, backoffMs, rfl, hposter, rfl, by simpa [hstop] using ht.symm⟩
      | true =>
          right; left
          refine ⟨ev, backoffMs, rfl, hposter, rfl, ?_⟩
          simpa [hstop, hposter, Poster.inHand] using ht.symm
  | stop =>
      right; right; right; right; right; right; left
      unfold SinkStep sinkNext at h
      cases hstop : s.stop with
      | true => simp [hstop] at h
      | false =>
          rw [hstop, if_neg Bool.false_ne_true] at h
          obtain ⟨p, hp, rfl⟩ := lift_eq_some h
          exact ⟨rfl, rfl, by simpa using step_cases hp⟩
  | exit =>
      right; right; right; right; right; right; right
      obtain ⟨p, hp, rfl⟩ := lift_eq_some h
      simpa using step_cases hp

end

/-! ## No event is lost without a reason -/

/-- What holds in every state: the events underway are those that came in, in order and
each at most once, less the dropped and the abandoned ones, and the queue is not too
long. -/
structure Accounted (config : HttpEventSinkConfig) (s : SinkHistory) : Prop where
  ordered : s.underway.Sublist s.enqueued
  bounded : s.queue.length ≤ config.maxQueueSize
  complete : s.enqueued.Perm (s.underway ++ s.dropped ++ s.abandoned)
  running : s.stop = false → s.poster ≠ .exited

/-- The history of the queue: what the poster took is posted, in its hand or abandoned. -/
def SinkHistory.history (s : SinkHistory) : History DiscoveryEvent where
  pushed := s.enqueued
  popped := s.posted ++ s.poster.inHand ++ s.abandoned
  dropped := s.dropped
  queue := s.queue

/-- What holds in every state, said of that history. -/
structure SinkKept (config : HttpEventSinkConfig) (s : SinkHistory) : Prop where
  kept : Kept config.maxQueueSize s.history
  abandoned : s.poster ≠ .exited → s.abandoned = []
  running : s.stop = false → s.poster ≠ .exited

theorem sinkKept_start (config : HttpEventSinkConfig) : SinkKept config .start where
  kept := Kept.start config.maxQueueSize
  abandoned := fun _ => rfl
  running := by simp [SinkHistory.start, Pipeline.start]

section

variable {config : HttpEventSinkConfig} {s t : SinkHistory} {a : SinkAction}

/-- A step that leaves the history alone. -/
theorem SinkKept.of_history_eq (hs : SinkKept config s) (hhistory : t.history = s.history)
    (habandoned : t.poster ≠ .exited → t.abandoned = [])
    (hrunning : t.stop = false → t.poster ≠ .exited) : SinkKept config t where
  kept := hhistory ▸ hs.kept
  abandoned := habandoned
  running := hrunning

/-- An event that comes in before the stop is pushed. -/
theorem history_onEvent (hstop : s.stop = false) (ev : DiscoveryEvent) :
    SinkHistory.history { s with
      toPipeline := httpOnEvent config s.toPipeline ev
      enqueued := s.enqueued ++ [ev] } = s.history.push config.maxQueueSize ev := by
  rcases httpOnEvent_cases config s.toPipeline ev with ⟨hstopped, -⟩ | ⟨-, hroom, heq⟩ |
    ⟨oldest, newer, -, hqueue, hfull, heq⟩
  · exact absurd (hstop.symm.trans hstopped) (by simp)
  · simp [heq, SinkHistory.history, History.push, displaced_of_lt hroom]
  · rw [hqueue] at hfull
    simp [heq, SinkHistory.history, History.push, hqueue, displaced_of_le hfull]

theorem sinkKept_onEvent (hs : SinkKept config s) (ev : DiscoveryEvent) :
    SinkKept config { s with
      toPipeline := httpOnEvent config s.toPipeline ev
      enqueued := if s.stop then s.enqueued else s.enqueued ++ [ev] } := by
  cases hstop : s.stop with
  | true =>
      have heq : httpOnEvent config s.toPipeline ev = s.toPipeline := if_pos hstop
      rw [heq]
      exact hs
  | false =>
      have hposter : (httpOnEvent config s.toPipeline ev).poster = s.poster := by
        unfold httpOnEvent
        split_ifs <;> rfl
      refine ⟨?_, ?_, ?_⟩
      · rw [if_neg Bool.false_ne_true, history_onEvent hstop]
        exact hs.kept.push config.positive ev
      · show (httpOnEvent config s.toPipeline ev).poster ≠ .exited → s.abandoned = []
        rw [hposter]
        exact hs.abandoned
      · intro _
        show (httpOnEvent config s.toPipeline ev).poster ≠ .exited
        rw [hposter]
        exact hs.running hstop

/-- Every step keeps the history. -/
theorem sinkKept_step (hs : SinkKept config s) (h : SinkStep config s a t) :
    SinkKept config t := by
  rcases sinkStep_cases h with ⟨ev, rfl, rfl⟩ | ⟨ev, queue, rfl, hposter, hqueue, rfl⟩ |
    ⟨ev, b, rfl, hposter, rfl⟩ | ⟨ev, b, rfl, hposter, rfl⟩ | ⟨ev, b, rfl, hposter, hstop, rfl⟩ |
    ⟨ev, b, rfl, hposter, hstop, rfl⟩ | ⟨rfl, hstop, rfl⟩ | ⟨rfl, hposter, hqueue, hstop, rfl⟩
  · exact sinkKept_onEvent hs ev
  · -- from the queue into the hand
    have hnone := hs.abandoned (by simp [hposter])
    refine ⟨?_, fun _ => hnone, by simp⟩
    have hpop := hs.kept.pop
    simpa [SinkHistory.history, History.pop, hposter, hqueue, hnone, Poster.inHand] using hpop
  · -- from the hand to the posted ones
    have hnone := hs.abandoned (by simp [hposter])
    refine hs.of_history_eq ?_ (fun _ => hnone) (by simp)
    simp [SinkHistory.history, hposter, Poster.inHand]
  · have hnone := hs.abandoned (by simp [hposter])
    refine hs.of_history_eq ?_ (fun _ => hnone) (by simp)
    simp [SinkHistory.history, hposter, Poster.inHand]
  · have hnone := hs.abandoned (by simp [hposter])
    refine hs.of_history_eq ?_ (fun _ => hnone) (by simp)
    simp [SinkHistory.history, hposter, Poster.inHand]
  · -- the event in hand is abandoned
    have hnone := hs.abandoned (by simp [hposter])
    refine hs.of_history_eq ?_ (fun hne => absurd rfl hne) fun hrunning => ?_
    · simp [SinkHistory.history, hposter, hnone, Poster.inHand]
    · exact absurd (hstop.symm.trans hrunning) (by simp)
  · exact hs.of_history_eq rfl hs.abandoned (by simp)
  · refine hs.of_history_eq ?_ (fun hne => absurd rfl hne) fun hrunning => ?_
    · simp [SinkHistory.history, hposter, Poster.inHand]
    · exact absurd (hstop.symm.trans hrunning) (by simp)

theorem SinkKept.accounted (hs : SinkKept config s) : Accounted config s where
  ordered := by
    have hrest : s.underway.Sublist (s.posted ++ s.poster.inHand ++ s.abandoned ++ s.queue) :=
      (List.sublist_append_left _ s.abandoned).append_right s.queue
    exact hrest.trans hs.kept.sublist
  bounded := hs.kept.bounded
  complete := by
    have hperm : s.enqueued.Perm
        (s.posted ++ s.poster.inHand ++ s.abandoned ++ s.dropped ++ s.queue) := hs.kept.perm
    refine hperm.trans (List.perm_iff_count.mpr fun ev => ?_)
    simp only [SinkHistory.underway, List.count_append]
    omega
  running := hs.running

theorem accounted_of_reachable (hreach : SinkReachable config s) : Accounted config s := by
  have hkept : SinkKept config s := by
    apply Reachable.invariant (I := SinkKept config) _ _ hreach
    · rintro _ rfl
      exact sinkKept_start config
    · intro s a t hs hstep
      exact sinkKept_step hs hstep
  exact hkept.accounted

/-! ### The losses -/

/-- An event is dropped when it is the oldest one and a newer one meets a full queue. -/
theorem dropped_step (hs : Accounted config s) (h : SinkStep config s a t) :
    t.dropped = s.dropped ∨
    ∃ ev oldest newer, a = .onEvent ev ∧ s.stop = false ∧ s.queue = oldest :: newer ∧
      s.queue.length = config.maxQueueSize ∧ t.queue = newer ++ [ev] ∧
      t.dropped = s.dropped ++ [oldest] := by
  rcases sinkStep_cases h with ⟨ev, rfl, rfl⟩ | ⟨ev, queue, -, -, -, rfl⟩ |
    ⟨ev, b, -, -, rfl⟩ | ⟨ev, b, -, -, rfl⟩ | ⟨ev, b, -, -, -, rfl⟩ | ⟨ev, b, -, -, -, rfl⟩ |
    ⟨-, -, rfl⟩ | ⟨-, -, -, -, rfl⟩
  · rcases httpOnEvent_cases config s.toPipeline ev with ⟨-, heq⟩ | ⟨-, -, heq⟩ |
      ⟨oldest, newer, hstop, hqueue, hfull, heq⟩
    · exact Or.inl (by simp only [heq])
    · exact Or.inl (by simp only [heq])
    · right
      exact ⟨ev, oldest, newer, rfl, hstop, hqueue, le_antisymm hs.bounded hfull,
        congrArg Pipeline.queue heq, congrArg Pipeline.dropped heq⟩
  all_goals exact Or.inl rfl

/-- An event is abandoned when the poster exits after a failed post with `stop_` set. -/
theorem abandoned_step (h : SinkStep config s a t) :
    t.abandoned = s.abandoned ∨
    ∃ ev backoffMs, a = .wake ∧ s.poster = .sleeping ev backoffMs ∧ s.stop = true ∧
      t.poster = .exited ∧ t.abandoned = s.abandoned ++ [ev] := by
  rcases sinkStep_cases h with ⟨ev, -, rfl⟩ | ⟨ev, queue, -, -, -, rfl⟩ |
    ⟨ev, b, -, -, rfl⟩ | ⟨ev, b, -, -, rfl⟩ | ⟨ev, b, -, -, -, rfl⟩ |
    ⟨ev, b, rfl, hposter, hstop, rfl⟩ | ⟨-, -, rfl⟩ | ⟨-, -, -, -, rfl⟩
  case inr.inr.inr.inr.inr.inl => exact Or.inr ⟨ev, b, rfl, hposter, hstop, rfl, rfl⟩
  all_goals exact Or.inl rfl

end

/-! ## Shutdown -/

/-- What holds after the destructor has set `stop_`, as long as no post fails: the
events that were underway then still are. -/
structure Draining (rest : List DiscoveryEvent) (s : SinkHistory) : Prop where
  stopped : s.stop = true
  awake : s.poster.isSleeping = false
  underway : s.underway = rest
  empty : s.poster = .exited → s.queue = []

/-- The steps that the poster may still take without a failing post. -/
def SinkHistory.stepsLeft (s : SinkHistory) : Nat :=
  match s.poster with
  | .exited => 0
  | .waiting => 2 * s.queue.length + 1
  | _ => 2 * s.queue.length + 2

/-- The destructor may return, with the given events posted, or the poster has not done
its last step. -/
def Drained (config : HttpEventSinkConfig) (rest : List DiscoveryEvent) (s : SinkHistory) : Prop :=
  (s.poster = .exited ∧ s.posted = rest) ∨
    (s.poster ≠ .exited ∧ ∃ a t, a.isPoster = true ∧ SmoothStep config s a t)

section

variable {config : HttpEventSinkConfig} {rest : List DiscoveryEvent} {s t : SinkHistory}
  {a : SinkAction}

theorem draining_step (hs : Draining rest s) (h : SmoothStep config s a t) :
    Draining rest t ∧ t.stepsLeft + (if a.isPoster then 1 else 0) ≤ s.stepsLeft := by
  obtain ⟨hstopped, hawake, hunderway, hempty⟩ := hs
  obtain ⟨hstep, hsmooth⟩ := h
  rcases sinkStep_cases hstep with ⟨ev, rfl, rfl⟩ | ⟨ev, queue, rfl, hposter, hqueue, rfl⟩ |
    ⟨ev, b, rfl, hposter, rfl⟩ | ⟨ev, b, rfl, hposter, rfl⟩ | ⟨ev, b, rfl, hposter, hstop, rfl⟩ |
    ⟨ev, b, rfl, hposter, hstop, rfl⟩ | ⟨rfl, hstop, rfl⟩ | ⟨rfl, hposter, hqueue, hstop, rfl⟩
  · -- `on_event` returns at once
    have heq : httpOnEvent config s.toPipeline ev = s.toPipeline := if_pos hstopped
    rw [heq, hstopped]
    exact ⟨⟨hstopped, hawake, hunderway, hempty⟩, le_rfl⟩
  · refine ⟨⟨hstopped, rfl, ?_, by simp⟩, ?_⟩
    · rw [← hunderway]
      simp [SinkHistory.underway, hposter, hqueue, Poster.inHand]
    · simp [SinkHistory.stepsLeft, SinkAction.isPoster, hposter, hqueue]
      omega
  · refine ⟨⟨hstopped, rfl, ?_, by simp⟩, ?_⟩
    · rw [← hunderway]
      simp [SinkHistory.underway, hposter, Poster.inHand]
    · simp [SinkHistory.stepsLeft, SinkAction.isPoster, hposter]
  · exact absurd rfl hsmooth
  · exact absurd hawake (by simp [hposter, Poster.isSleeping])
  · exact absurd hawake (by simp [hposter, Poster.isSleeping])
  · exact absurd (hstopped.symm.trans hstop) (by simp)
  · refine ⟨⟨hstopped, rfl, ?_, fun _ => hqueue⟩, ?_⟩
    · rw [← hunderway]
      simp [SinkHistory.underway, hposter, Poster.inHand]
    · simp [SinkHistory.stepsLeft, SinkAction.isPoster, hposter, hqueue]

/-- The poster is never stuck: it takes the next event, posts the one in hand, or
exits. -/
theorem drained_of_draining (hs : Draining rest s) : Drained config rest s := by
  obtain ⟨hstopped, hawake, hunderway, hempty⟩ := hs
  cases hposter : s.poster with
  | exited =>
      left
      refine ⟨hposter, ?_⟩
      simpa [SinkHistory.underway, hposter, hempty hposter, Poster.inHand] using hunderway
  | sleeping ev b => simp [hposter, Poster.isSleeping] at hawake
  | posting ev b =>
      right
      refine ⟨by simp [hposter], .post true,
        { s with poster := .waiting, posted := s.posted ++ [ev] }, rfl, ?_, by simp⟩
      simp [SinkStep, sinkNext, SinkHistory.lift, next, hposter]
  | waiting =>
      right
      refine ⟨by simp [hposter], ?_⟩
      cases hqueue : s.queue with
      | nil =>
          refine ⟨.exit, { s with poster := .exited }, rfl, ?_, by simp⟩
          simp [SinkStep, sinkNext, SinkHistory.lift, next, hposter, hqueue, hstopped]
      | cons ev queue =>
          refine ⟨.take, { s with queue := queue, poster := .posting ev 1000 }, rfl, ?_,
            by simp⟩
          simp [SinkStep, sinkNext, SinkHistory.lift, next, hposter, hqueue]

end

/-! ## The guarantee -/

/-- What the sink promises in a state. -/
structure SinkGuarantee (config : HttpEventSinkConfig) (s : SinkHistory) : Prop where
  /-- what is posted, in hand and queued is what came in, in order and each event at most
  once -/
  ordered : (s.posted ++ s.poster.inHand ++ s.queue).Sublist s.enqueued
  bounded : s.queue.length ≤ config.maxQueueSize
  /-- what is missing was dropped or abandoned -/
  complete : s.enqueued.Perm
    (s.posted ++ s.poster.inHand ++ s.queue ++ s.dropped ++ s.abandoned)
  /-- only the oldest event is dropped, when a newer one meets a full queue -/
  dropped : ∀ a t, SinkStep config s a t → t.dropped = s.dropped ∨
    ∃ ev oldest newer, a = .onEvent ev ∧ s.stop = false ∧ s.queue = oldest :: newer ∧
      s.queue.length = config.maxQueueSize ∧ t.queue = newer ++ [ev] ∧
      t.dropped = s.dropped ++ [oldest]
  /-- only the event in hand is abandoned, when the poster exits after a failed post
  with `stop_` set -/
  abandoned : ∀ a t, SinkStep config s a t → t.abandoned = s.abandoned ∨
    ∃ ev backoffMs, a = .wake ∧ s.poster = .sleeping ev backoffMs ∧ s.stop = true ∧
      t.poster = .exited ∧ t.abandoned = s.abandoned ++ [ev]
  /-- when the destructor sets `stop_` while the poster does not sleep, and no post
  fails from then on, the poster gets through its steps and exits with everything that
  was in hand or queued posted -/
  drains : s.poster.isSleeping = false → ∀ t, SinkStep config s .stop t →
    ∀ actions u, Run (SmoothStep config) t actions u →
      actions.countP SinkAction.isPoster ≤ 2 * s.queue.length + 2 ∧
      Drained config (s.posted ++ s.poster.inHand ++ s.queue) u

/-- **What the HTTP sink delivers.**  The guarantee holds after every interleaving of
`on_event` calls, steps of the poster with any outcomes of `post_once`, and the
destructor. -/
theorem sink_guarantee (config : HttpEventSinkConfig) (s : SinkHistory)
    (hreach : SinkReachable config s) : SinkGuarantee config s := by
  have hs := accounted_of_reachable hreach
  refine ⟨hs.ordered, hs.bounded, hs.complete, fun a t => dropped_step hs,
    fun a t => abandoned_step, ?_⟩
  intro hawake t hstop actions u hrun
  have hdraining : Draining s.underway t ∧ t.stepsLeft ≤ 2 * s.queue.length + 2 := by
    have hcases := sinkStep_cases hstop
    simp only [reduceCtorEq, false_and, exists_false, false_or, or_false, true_and] at hcases
    obtain ⟨hrunning, rfl⟩ := hcases
    refine ⟨⟨rfl, hawake, rfl, fun hexited => absurd hexited (hs.running hrunning)⟩, ?_⟩
    unfold SinkHistory.stepsLeft
    split <;> simp
  have hcount : actions.countP SinkAction.isPoster + u.stepsLeft ≤ t.stepsLeft :=
    hrun.countP_add_le (I := Draining s.underway) (fun _ _ _ hs h => draining_step hs h)
      hdraining.1
  have hend := hrun.preserves (I := Draining s.underway)
    (fun _ _ _ hs h => (draining_step hs h).1) hdraining.1
  exact ⟨by omega, drained_of_draining hend⟩

/-- Three events, of which the queue holds two, and a failed post. -/
def busySink : List SinkAction :=
  [.onEvent (txtEvent 0), .onEvent (txtEvent 1), .onEvent (txtEvent 2), .take, .post false, .wake]

theorem busySink_guarantee :
    ∃ s, exec (sinkNext ⟨2, by decide⟩) .start busySink = some s ∧
      s.posted ++ s.poster.inHand ++ s.queue = [txtEvent 1, txtEvent 2] ∧
      SinkGuarantee ⟨2, by decide⟩ s :=
  ⟨_, rfl, rfl, sink_guarantee _ _ ⟨.start, busySink, rfl, Run.of_exec rfl⟩⟩

/-! ## Behind the change filter -/

/-- The state of the sink in a state of the pipeline. -/
def Pipeline.sinkPart (p : Pipeline) : Pipeline :=
  { p with seenKeys := ∅, calling := none }

theorem httpOnEvent_sinkPart (config : HttpEventSinkConfig) (p : Pipeline) (ev : DiscoveryEvent) :
    (httpOnEvent config p ev).sinkPart = httpOnEvent config p.sinkPart ev := by
  unfold httpOnEvent Pipeline.sinkPart
  split_ifs <;> rfl

/-- The change filter is one of the callers of the sink: what it does itself changes
nothing there. -/
theorem sinkPart_step {config : HttpEventSinkConfig} {p q : Pipeline} {a : Action}
    (h : Step config p a q) {s : SinkHistory} (hs : s.toPipeline = p.sinkPart) :
    ∃ t actions, Run (SinkStep config) s actions t ∧ t.toPipeline = q.sinkPart := by
  have hposter : s.poster = p.poster := by rw [hs]; rfl
  have hqueue : s.queue = p.queue := by rw [hs]; rfl
  have hstop : s.stop = p.stop := by rw [hs]; rfl
  -- a step of the sink alone with the same effect
  have hmatch : ∀ (action : SinkAction) (t : SinkHistory), sinkNext config s action = some t →
      t.toPipeline = q.sinkPart →
      ∃ t actions, Run (SinkStep config) s actions t ∧ t.toPipeline = q.sinkPart :=
    fun action t hnext ht => ⟨t, [action], .single hnext, ht⟩
  rcases step_cases h with ⟨ev, -, -, rfl⟩ | ⟨ev, -, -, rfl⟩ | ⟨ev, queue, -, hwait, hfront, rfl⟩ |
    ⟨ev, b, -, hpost, rfl⟩ | ⟨ev, b, -, hpost, rfl⟩ | ⟨ev, b, -, hsleep, rfl⟩ | ⟨-, rfl⟩ |
    ⟨-, hwait, hempty, hstopped, rfl⟩
  · exact ⟨s, [], .nil s, hs⟩
  · refine hmatch (.onEvent ev) _ rfl ?_
    change httpOnEvent config s.toPipeline ev = (httpOnEvent config p ev).sinkPart
    rw [hs, httpOnEvent_sinkPart]
  · refine hmatch .take { s with queue := queue, poster := .posting ev 1000 } ?_ ?_
    · simp [sinkNext, SinkHistory.lift, next, hposter, hqueue, hwait, hfront]
    · simp [hs, Pipeline.sinkPart]
  · refine hmatch (.post true) { s with poster := .waiting, posted := s.posted ++ [ev] } ?_ ?_
    · simp [sinkNext, SinkHistory.lift, next, hposter, hpost]
    · simp [hs, Pipeline.sinkPart]
  · refine hmatch (.post false) { s with poster := .sleeping ev b } ?_ ?_
    · simp [sinkNext, SinkHistory.lift, next, hposter, hpost]
    · simp [hs, Pipeline.sinkPart]
  · by_cases hstopped : p.stop = true
    · refine hmatch .wake { s with poster := .exited, abandoned := s.abandoned ++ [ev] } ?_ ?_
      · simp [sinkNext, SinkHistory.lift, next, hposter, hsleep, hstop, hstopped, Poster.inHand]
      · simp [hs, Pipeline.sinkPart, hstopped]
    · refine hmatch .wake { s with poster := .posting ev (min (b * 2) kMaxBackoffMs) } ?_ ?_
      · simp [sinkNext, SinkHistory.lift, next, hposter, hsleep, hstop, hstopped]
      · simp [hs, Pipeline.sinkPart, hstopped]
  · by_cases hstopped : p.stop = true
    · -- the sink alone is shut down once
      refine ⟨s, [], .nil s, ?_⟩
      rw [hs]
      simp [Pipeline.sinkPart, hstopped]
    · refine hmatch .stop { s with stop := true } ?_ ?_
      · simp [sinkNext, SinkHistory.lift, next, hstop, hstopped]
      · simp [hs, Pipeline.sinkPart]
  · refine hmatch .exit { s with poster := .exited } ?_ ?_
    · simp [sinkNext, SinkHistory.lift, next, hposter, hqueue, hstop, hwait, hempty, hstopped]
    · simp [hs, Pipeline.sinkPart]

/-- **The pipeline refines the sink.**  The sink behind the change filter is in a state
that the sink alone reaches. -/
theorem sinkReachable_of_pipelineReachable {config : HttpEventSinkConfig} {p : Pipeline}
    (h : PipelineReachable config p) :
    ∃ s, SinkReachable config s ∧ s.toPipeline = p.sinkPart := by
  refine Reachable.simulate
    (R := fun (p : Pipeline) (s : SinkHistory) => s.toPipeline = p.sinkPart) ?_ ?_ h
  · rintro p rfl
    exact ⟨.start, rfl, rfl⟩
  · intro p a q s hs hstep
    exact sinkPart_step hstep hs

/-- The queue behind the change filter is never too long. -/
theorem queue_le_of_pipelineReachable {config : HttpEventSinkConfig} {p : Pipeline}
    (h : PipelineReachable config p) : p.queue.length ≤ config.maxQueueSize := by
  obtain ⟨s, hreach, hs⟩ := sinkReachable_of_pipelineReachable h
  have hbounded := (accounted_of_reachable hreach).bounded
  rwa [hs] at hbounded

end Scanner
end LanDiscovery

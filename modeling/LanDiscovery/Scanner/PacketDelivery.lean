import LanDiscovery.Library.Transition
import LanDiscovery.Scanner.PacketReceiveQueue
import Mathlib.Data.List.Range

/-!
# What the queue delivers

The queue between the receiver and the worker over all runs.  Beside it stands a log of
what was pushed, popped and dropped, in which each packet has the number of its push, so
that two packets with the same octets are told apart; each run has its log
(`exists_receiveRun`).
-/

namespace LanDiscovery
namespace Scanner

open Library Library.DropOldest Library.Transition Library.Utf8

/-- A queue with what came in and went out so far, each packet with the number of its
push. -/
structure Receiving (α : Type) extends QueueState (Nat × α) where
  pushed : List (Nat × α)
  popped : List (Nat × α)
  dropped : List (Nat × α)

section

variable {α : Type}

namespace Receiving

/-- The state before the first call. -/
def start (maxSize : Nat) : Receiving α where
  toQueueState := .start maxSize
  pushed := []
  popped := []
  dropped := []

/-- The history of the queue. -/
def history (s : Receiving α) : History (Nat × α) where
  pushed := s.pushed
  popped := s.popped
  dropped := s.dropped
  queue := s.queue.queue

/-- The action with the number of its push. -/
def numbered (s : Receiving α) (a : QueueAction α) : QueueAction (Nat × α) :=
  a.map fun packet => (s.pushed.length, packet)

/-- The packets that go to make room in an action. -/
def displacedBy (s : Receiving α) : QueueAction α → List (Nat × α)
  | .push _ => displaced s.queue.maxSize s.queue.queue
  | _ => []

/-- The state after an action that hands out a packet and leaves the queue so. -/
def record (s : Receiving α) (a : QueueAction α) (packet : Option (Nat × α))
    (queue : QueueState (Nat × α)) : Receiving α where
  toQueueState := queue
  pushed := s.pushed ++ (s.numbered a).packets
  popped := s.popped ++ packet.toList
  dropped := s.dropped ++ s.displacedBy a

/-- One step of the queue, recorded. -/
def next (s : Receiving α) (a : QueueAction α) : Option (Except Fault (Receiving α)) :=
  (s.toQueueState.next (s.numbered a)).map fun outcome =>
    outcome.map fun (packet, queue) => s.record a packet queue

/-- What holds in every state. -/
structure Coherent (maxSize : Nat) (s : Receiving α) : Prop where
  size : s.queue.maxSize = maxSize
  kept : Kept maxSize s.history
  counted : s.queue.droppedPackets = s.dropped.length
  numbers : s.pushed.map Prod.fst = List.range s.pushed.length
  waited : s.holding = true → s.queue.waitOver s.running = true

end Receiving

/-- The steps that do not fault, recorded. -/
def ReceiveStep (s : Receiving α) (a : QueueAction α) (t : Receiving α) : Prop :=
  s.next a = some (.ok t)

end

/-! ## What a step does -/

section

variable {α : Type}

/-- A step is a step of the queue, recorded. -/
theorem receiveStep_iff {s t : Receiving α} {a : QueueAction α} :
    ReceiveStep s a t ↔
      ∃ packet queue, s.toQueueState.next (s.numbered a) = some (.ok (packet, queue)) ∧
        t = s.record a packet queue := by
  unfold ReceiveStep Receiving.next
  cases s.toQueueState.next (s.numbered a) with
  | none => simp
  | some outcome =>
      cases outcome with
      | error fault => simp [Except.map]
      | ok result =>
          obtain ⟨packet, queue⟩ := result
          simp only [Option.map_some, Except.map, Option.some.injEq, Except.ok.injEq,
            Prod.mk.injEq]
          constructor
          · rintro rfl
            exact ⟨packet, queue, ⟨rfl, rfl⟩, rfl⟩
          · intro hrecord
            obtain ⟨packet, queue, ⟨rfl, rfl⟩, rfl⟩ := hrecord
            rfl

/-! ## Every state -/

namespace Receiving

variable {maxSize : Nat} {s : Receiving α}

theorem coherent_start (maxSize : Nat) : (start maxSize : Receiving α).Coherent maxSize where
  size := rfl
  kept := Kept.start maxSize
  counted := rfl
  numbers := rfl
  waited := by simp [start, QueueState.start]

/-- An action that is not enabled is not recorded. -/
theorem next_eq_none {a : QueueAction α} (h : s.toQueueState.next (s.numbered a) = none) :
    s.next a = none := by
  rw [next, h]
  rfl

/-- An action that pushes nothing and hands nothing out. -/
theorem record_eq {a : QueueAction α} (hpackets : (s.numbered a).packets = [])
    (hdisplaced : s.displacedBy a = []) (queue : QueueState (Nat × α)) :
    s.record a none queue = { s with toQueueState := queue } := by
  simp [record, hpackets, hdisplaced]

/-- A call of `push` that gets the mutex does not fault. -/
theorem next_push (hpos : 0 < s.queue.maxSize) (packet : α) (hfree : s.holding = false) :
    s.next (.push packet) = some (.ok (s.record (.push packet) none
      { s.toQueueState with queue := s.queue.afterPush (s.pushed.length, packet) })) := by
  have hpush := PacketReceiveQueue.push_eq hpos (s.pushed.length, packet)
  rw [next, numbered, QueueAction.map, QueueState.next, if_neg (by simp [hfree]), hpush]
  rfl

@[simp] theorem next_check (hfree : s.holding = false) :
    s.next .check =
      some (.ok { s with holding := s.queue.waitOver s.running }) := by
  rw [next, numbered, QueueAction.map, QueueState.next, if_neg (by simp [hfree]),
    ← record_eq (a := .check) rfl rfl]
  rfl

/-- A call of `wait_pop` whose wait is over does not fault. -/
theorem next_finish (hholding : s.holding = true)
    (hover : s.queue.waitOver s.running = true) :
    s.next .finish = some (.ok (s.record .finish s.queue.queue.head?
      { s.toQueueState with queue := s.queue.afterTake, holding := false })) := by
  have htake := PacketReceiveQueue.takeFront_eq hover
  rw [next, numbered, QueueAction.map, QueueState.next, if_pos hholding, htake]
  rfl

@[simp] theorem next_stop : s.next .stop = some (.ok { s with running := false }) := by
  rw [next, numbered, QueueAction.map, QueueState.next, ← record_eq (a := .stop) rfl rfl]
  rfl

/-- The log follows the queue: a push is a push, a pop is a pop. -/
theorem history_push (packet : α) :
    (s.record (.push packet) none { s.toQueueState with
      queue := s.queue.afterPush (s.pushed.length, packet) }).history =
      s.history.push s.queue.maxSize (s.pushed.length, packet) := by
  simp [record, history, History.push, QueueAction.packets, numbered, QueueAction.map,
    displacedBy, PacketReceiveQueue.afterPush]

theorem history_finish :
    (s.record .finish s.queue.queue.head? { s.toQueueState with
      queue := s.queue.afterTake
      holding := false }).history = s.history.pop := by
  simp [record, history, History.pop, QueueAction.packets, numbered, QueueAction.map,
    displacedBy, PacketReceiveQueue.afterTake, List.take_one]

theorem Coherent.push (hpos : 0 < maxSize) (h : s.Coherent maxSize) (packet : α)
    (hfree : s.holding = false) :
    (s.record (.push packet) none { s.toQueueState with
      queue := s.queue.afterPush (s.pushed.length, packet) }).Coherent maxSize where
  size := h.size
  kept := by
    rw [history_push, h.size]
    exact h.kept.push hpos (s.pushed.length, packet)
  counted := by
    show s.queue.droppedPackets + (displaced s.queue.maxSize s.queue.queue).length =
      (s.dropped ++ displaced s.queue.maxSize s.queue.queue).length
    rw [List.length_append, h.counted]
  numbers := by
    show (s.pushed ++ [(s.pushed.length, packet)]).map Prod.fst =
      List.range (s.pushed ++ [(s.pushed.length, packet)]).length
    rw [List.map_append, h.numbers, List.length_append, List.length_singleton, List.range_succ]
    rfl
  waited := fun hholding => absurd (hfree.symm.trans hholding) (by simp)

theorem Coherent.check (h : s.Coherent maxSize) :
    ({ s with holding := s.queue.waitOver s.running } : Receiving α).Coherent maxSize where
  size := h.size
  kept := h.kept
  counted := h.counted
  numbers := h.numbers
  waited := id

theorem Coherent.finish (h : s.Coherent maxSize) :
    (s.record .finish s.queue.queue.head? { s.toQueueState with
      queue := s.queue.afterTake
      holding := false }).Coherent maxSize where
  size := h.size
  kept := by
    rw [history_finish]
    exact h.kept.pop
  counted := by
    show s.queue.droppedPackets = (s.dropped ++ []).length
    rw [List.append_nil, h.counted]
  numbers := by
    show (s.pushed ++ []).map Prod.fst = List.range (s.pushed ++ []).length
    rw [List.append_nil, h.numbers]
  waited := fun hholding => absurd hholding Bool.false_ne_true

theorem Coherent.stop (h : s.Coherent maxSize) :
    ({ s with running := false } : Receiving α).Coherent maxSize where
  size := h.size
  kept := h.kept
  counted := h.counted
  numbers := h.numbers
  waited := fun _ => by simp [PacketReceiveQueue.waitOver]

/-- In such a state each action is not enabled or leads to another one; none faults. -/
theorem Coherent.next (hpos : 0 < maxSize) (h : s.Coherent maxSize) (a : QueueAction α) :
    s.next a = none ∨ ∃ t, s.next a = some (.ok t) ∧ t.Coherent maxSize := by
  cases a with
  | push packet =>
      cases hholding : s.holding with
      | true =>
          left
          exact next_eq_none (if_pos hholding)
      | false =>
          right
          exact ⟨_, next_push (h.size.symm ▸ hpos) packet hholding, h.push hpos packet hholding⟩
  | check =>
      cases hholding : s.holding with
      | true =>
          left
          exact next_eq_none (if_pos hholding)
      | false =>
          right
          exact ⟨_, next_check hholding, h.check⟩
  | finish =>
      cases hholding : s.holding with
      | true =>
          right
          exact ⟨_, next_finish hholding (h.waited hholding), h.finish⟩
      | false =>
          left
          exact next_eq_none (if_neg (by simp [hholding]))
  | stop =>
      right
      exact ⟨_, next_stop, h.stop⟩

theorem Coherent.step (hpos : 0 < maxSize) (h : s.Coherent maxSize) {a : QueueAction α}
    {t : Receiving α} (hstep : ReceiveStep s a t) : t.Coherent maxSize := by
  rcases h.next hpos a with hnone | ⟨t', hnext, ht'⟩
  · exact absurd (hnone.symm.trans hstep) (by simp)
  · obtain rfl : t' = t := by simpa using hnext.symm.trans hstep
    exact ht'

/-! ## What is dropped -/

/-- No two packets have one number. -/
theorem Coherent.nodup (h : s.Coherent maxSize) : s.pushed.Nodup := by
  have hnumbers := List.nodup_range (n := s.pushed.length)
  rw [← h.numbers] at hnumbers
  exact hnumbers.of_map Prod.fst

/-- The number of a packet is its place. -/
theorem Coherent.exists_split (h : s.Coherent maxSize) {entry : Nat × α}
    (hentry : entry ∈ s.pushed) :
    ∃ before after, s.pushed = before ++ entry :: after ∧ before.length = entry.1 := by
  obtain ⟨before, after, hsplit⟩ := List.append_of_mem hentry
  refine ⟨before, after, hsplit, ?_⟩
  have hnumbers := congrArg (fun numbers => numbers[before.length]?) h.numbers
  rw [hsplit] at hnumbers
  have hplace : some entry.1 = some before.length := by simpa using hnumbers
  exact (Option.some.inj hplace).symm

/-- The dropped packets are told by their numbers. -/
theorem Coherent.mem_dropped_iff (h : s.Coherent maxSize) {entry : Nat × α}
    (hentry : entry ∈ s.pushed) :
    entry ∈ s.dropped ↔ entry ∉ s.popped ∧ entry.1 + maxSize < s.pushed.length := by
  obtain ⟨before, after, hsplit, hplace⟩ := h.exists_split hentry
  have hlength : s.pushed.length = entry.1 + (after.length + 1) := by
    rw [hsplit, List.length_append, List.length_cons, hplace]
  have hiff : entry ∈ s.dropped ↔ entry ∉ s.popped ∧ maxSize ≤ after.length :=
    h.kept.mem_dropped_iff h.nodup hsplit
  rw [hiff, hlength]
  exact and_congr_right fun _ => by omega

end Receiving

/-! ## Runs -/

@[simp] theorem map_snd_packets_numbered (s : Receiving α) (a : QueueAction α) :
    (s.numbered a).packets.map Prod.snd = a.packets := by
  cases a <;> rfl

/-- What was pushed and what was dropped stays so. -/
theorem receiveStep_logs {s t : Receiving α} {a : QueueAction α} (h : ReceiveStep s a t) :
    t.pushed = s.pushed ++ (s.numbered a).packets ∧ s.dropped <+: t.dropped := by
  obtain ⟨packet, queue, -, rfl⟩ := receiveStep_iff.mp h
  exact ⟨rfl, List.prefix_append s.dropped (s.displacedBy a)⟩

theorem receiveRun_logs {s t : Receiving α} {as : List (QueueAction α)}
    (h : Run ReceiveStep s as t) :
    s.pushed <+: t.pushed ∧ s.dropped <+: t.dropped ∧
      t.pushed.map Prod.snd = s.pushed.map Prod.snd ++ as.flatMap QueueAction.packets := by
  induction h with
  | nil s => simp
  | cons head tail ih =>
      obtain ⟨hpushed, hdropped⟩ := receiveStep_logs head
      obtain ⟨hpushed', hdropped', harrivals⟩ := ih
      refine ⟨?_, hdropped.trans hdropped', ?_⟩
      · rw [hpushed] at hpushed'
        exact (List.prefix_append _ _).trans hpushed'
      · rw [harrivals, hpushed, List.map_append, map_snd_packets_numbered, List.flatMap_cons,
          List.append_assoc]

/-- At some moment of a run `maxSize` later packets have been pushed, and the packet has
not been popped yet. -/
def Overtaken (maxSize : Nat) (as : List (QueueAction α)) (s : Receiving α)
    (entry : Nat × α) : Prop :=
  ∃ bs cs t, as = bs ++ cs ∧ Run ReceiveStep (.start maxSize) bs t ∧ Run ReceiveStep t cs s ∧
    entry ∉ t.popped ∧ entry.1 + maxSize < t.pushed.length

/-- What the log of a run from the start says. -/
structure Delivers (maxSize : Nat) (as : List (QueueAction α)) (s : Receiving α) : Prop where
  /-- the packets are those that are pushed, with the numbers of the pushes -/
  arrivals : s.pushed.map Prod.snd = as.flatMap QueueAction.packets
  numbers : s.pushed.map Prod.fst = List.range s.pushed.length
  /-- each is popped, dropped or queued, and the dropped ones are counted -/
  complete : s.pushed.Perm (s.popped ++ s.dropped ++ s.queue.queue)
  conserved : s.pushed.length =
    s.popped.length + s.queue.queue.length + s.queue.droppedCount
  bounded : s.queue.queue.length ≤ maxSize
  /-- what is popped and queued keeps the order, each packet once -/
  ordered : (s.popped ++ s.queue.queue).Sublist s.pushed
  distinct : (s.popped ++ s.queue.queue).Nodup
  dropped : ∀ entry ∈ s.pushed, (entry ∈ s.dropped ↔ Overtaken maxSize as s entry)

theorem coherent_of_run {maxSize : Nat} (hpos : 0 < maxSize) {as : List (QueueAction α)}
    {s : Receiving α} (h : Run ReceiveStep (.start maxSize) as s) : s.Coherent maxSize :=
  h.preserves (fun _ _ _ hs hst => hs.step hpos hst) (Receiving.coherent_start maxSize)

/-- A packet is dropped when it has been overtaken. -/
theorem mem_dropped_iff_overtaken {maxSize : Nat} (hpos : 0 < maxSize)
    {as : List (QueueAction α)} {s : Receiving α} (h : Run ReceiveStep (.start maxSize) as s)
    {entry : Nat × α} (hentry : entry ∈ s.pushed) :
    entry ∈ s.dropped ↔ Overtaken maxSize as s entry := by
  have hs := coherent_of_run hpos h
  constructor
  · intro hdropped
    obtain ⟨hpopped, hlater⟩ := (hs.mem_dropped_iff hentry).mp hdropped
    exact ⟨as, [], s, (List.append_nil as).symm, h, .nil s, hpopped, hlater⟩
  · intro hovertaken
    obtain ⟨bs, cs, t, -, hbefore, hafter, hpopped, hlater⟩ := hovertaken
    have ht := coherent_of_run hpos hbefore
    obtain ⟨hpushed, hdropped, -⟩ := receiveRun_logs hafter
    -- the packet had been pushed at that moment
    have hthere : entry ∈ t.pushed := by
      obtain ⟨before, after, hsplit, hplace⟩ := hs.exists_split hentry
      rw [hsplit] at hpushed
      have hshort : before ++ [entry] <+: t.pushed := by
        refine List.prefix_of_prefix_length_le ?_ hpushed ?_
        · exact ⟨after, (List.append_cons before entry after).symm⟩
        · rw [List.length_append, List.length_singleton, hplace]
          omega
      exact hshort.subset (by simp)
    exact hdropped.subset ((ht.mem_dropped_iff hthere).mpr ⟨hpopped, hlater⟩)

theorem delivers_of_run {maxSize : Nat} (hpos : 0 < maxSize) {as : List (QueueAction α)}
    {s : Receiving α} (h : Run ReceiveStep (.start maxSize) as s) : Delivers maxSize as s := by
  have hs := coherent_of_run hpos h
  obtain ⟨-, -, harrivals⟩ := receiveRun_logs h
  refine ⟨harrivals, hs.numbers, hs.kept.perm, ?_, hs.kept.bounded, hs.kept.sublist, ?_, ?_⟩
  · rw [PacketReceiveQueue.droppedCount, hs.counted]
    exact hs.kept.length_pushed
  · exact hs.nodup.sublist hs.kept.sublist
  · intro entry hentry
    exact mem_dropped_iff_overtaken hpos h hentry

/-! ## The log of a run -/

/-- The queue without the numbers of the packets. -/
def Receiving.erased (s : Receiving α) : QueueState α :=
  s.toQueueState.map Prod.snd

@[simp] theorem numbered_map_snd (s : Receiving α) (a : QueueAction α) :
    (s.numbered a).map Prod.snd = a := by
  cases a <;> rfl

theorem erased_next (s : Receiving α) (a : QueueAction α) :
    s.erased.next a = (s.toQueueState.next (s.numbered a)).map fun outcome =>
      outcome.map (Prod.map (Option.map Prod.snd) (QueueState.map Prod.snd)) := by
  have hnext := next_map Prod.snd s.toQueueState (s.numbered a)
  rw [numbered_map_snd] at hnext
  exact hnext

/-- A step of the queue can be recorded. -/
theorem exists_receiveStep {s : Receiving α} {a : QueueAction α} {q : QueueState α}
    (h : QueueStep s.erased a q) : ∃ t, ReceiveStep s a t ∧ t.erased = q := by
  obtain ⟨packet, hnext⟩ := h
  rw [erased_next] at hnext
  obtain ⟨outcome, hstep, houtcome⟩ := Option.map_eq_some_iff.mp hnext
  cases outcome with
  | error fault => exact absurd houtcome (by simp [Except.map])
  | ok result =>
      have hq : result.2.map Prod.snd = q := congrArg Prod.snd (Except.ok.inj houtcome)
      exact ⟨s.record a result.1 result.2, receiveStep_iff.mpr ⟨result.1, result.2, hstep, rfl⟩, hq⟩

/-- Each run of the queue has its log. -/
theorem exists_receiveRun {s : Receiving α} {as : List (QueueAction α)} {p q : QueueState α}
    (hs : s.erased = p) (h : Run QueueStep p as q) :
    ∃ t, Run ReceiveStep s as t ∧ t.erased = q := by
  induction h generalizing s with
  | nil p => exact ⟨s, .nil s, hs⟩
  | cons head tail ih =>
      obtain ⟨r, hstep, hr⟩ := exists_receiveStep (hs ▸ head)
      obtain ⟨t, hrun, ht⟩ := ih hr
      exact ⟨t, .cons hstep hrun, ht⟩

theorem Receiving.Coherent.erased_next_ne_error {maxSize : Nat} (hpos : 0 < maxSize)
    {s : Receiving α} (h : s.Coherent maxSize) (a : QueueAction α) (fault : Fault) :
    s.erased.next a ≠ some (.error fault) := by
  intro hfault
  rw [erased_next] at hfault
  obtain ⟨outcome, hstep, houtcome⟩ := Option.map_eq_some_iff.mp hfault
  have hnext : s.next a = outcome.map fun (packet, queue) => s.record a packet queue := by
    rw [Receiving.next, hstep]
    rfl
  cases outcome with
  | error fault' =>
      rcases h.next hpos a with hnone | ⟨t, ht, -⟩
      · exact absurd (hnone.symm.trans hnext) (by simp)
      · exact absurd (ht.symm.trans hnext) (by simp [Except.map])
  | ok result => exact absurd houtcome (by simp [Except.map])

/-- **The queue delivers in order.**  Whatever the threads do, and whenever the stop comes,
no packet is lost or doubled without being counted, and those that are dropped are the ones
that were overtaken by `maxSize` later ones.  No call takes from an empty queue, and
`wait_pop` returns false only if the queue is empty and scanning has stopped. -/
theorem receive_queue_delivers (maxSize : Nat) (hpos : 0 < maxSize) (as : List (QueueAction α))
    (q : QueueState α) (hrun : Run QueueStep (.start maxSize) as q) :
    (∃ s, Run ReceiveStep (.start maxSize) as s ∧ s.erased = q ∧ Delivers maxSize as s) ∧
    (∀ a fault, q.next a ≠ some (.error fault)) ∧
    (∀ after, q.queue.takeFront q.running = .ok (none, after) →
      q.queue.queue = [] ∧ q.running = false) := by
  obtain ⟨s, hlog, rfl⟩ := exists_receiveRun (s := .start maxSize) rfl hrun
  refine ⟨⟨s, hlog, rfl, delivers_of_run hpos hlog⟩, ?_, ?_⟩
  · exact (coherent_of_run hpos hlog).erased_next_ne_error hpos
  · intro after htake
    exact PacketReceiveQueue.takeFront_none htake

end

/-! ### A packet that comes twice -/

/-- A packet and its sender. -/
def smallPacket : Bytes × Bytes := ([1, 2], ascii "10.0.0.7")

/-- It comes twice, one is taken, and scanning stops before the next call is done. -/
def twiceAndStop : List (QueueAction (Bytes × Bytes)) :=
  [.push smallPacket, .push smallPacket, .check, .stop, .finish, .check, .finish]

/-- The queue after that. -/
def stoppedQueue : QueueState (Bytes × Bytes) where
  queue := ⟨1, [], 1⟩
  running := false
  holding := false

/-- In a queue for one packet the first of two is dropped. -/
theorem twiceAndStop_delivers :
    (∃ s, Run ReceiveStep (.start 1) twiceAndStop s ∧ s.erased = stoppedQueue ∧
      Delivers 1 twiceAndStop s) ∧
    ∀ a fault, stoppedQueue.next a ≠ some (.error fault) := by
  have hrun : Run QueueStep (.start 1) twiceAndStop stoppedQueue :=
    .cons ⟨none, rfl⟩ (.cons ⟨none, rfl⟩ (.cons ⟨none, rfl⟩ (.cons ⟨none, rfl⟩
      (.cons ⟨some smallPacket, rfl⟩ (.cons ⟨none, rfl⟩ (.cons ⟨none, rfl⟩ (.nil stoppedQueue)))))))
  have hall := receive_queue_delivers 1 (by decide) twiceAndStop stoppedQueue hrun
  exact ⟨hall.1, hall.2.1⟩

end Scanner
end LanDiscovery

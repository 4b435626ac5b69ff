import LanDiscovery.Library.DropOldest
import LanDiscovery.Scanner.Wire

/-!
# The queue between the receiver and the worker

`PacketReceiveQueue`: a bounded queue under one mutex.  `push` drops the oldest packet
when the queue is full; `wait_pop` waits until there is a packet or scanning has stopped,
and looks at the stop and the queue once more before it takes the front.

Any threads push and pop in any order.  What a call does with the mutex is one step, but
the stop may come at any moment, also between the end of a wait and the second look.  The
queue only moves its entries (`next_map`): what it does is the same for any packets.
-/

namespace LanDiscovery
namespace Scanner

open Library Library.DropOldest Library.Outcome

/-- `PacketReceiveQueue`, for entries of any kind. -/
structure PacketReceiveQueue (α : Type) where
  maxSize : Nat
  queue : List α
  droppedPackets : Nat

namespace PacketReceiveQueue

variable {α : Type}

/-- The constructor. -/
def create (maxSize : Nat) : PacketReceiveQueue α where
  maxSize := maxSize
  queue := []
  droppedPackets := 0

/-- `queue_.front()` and `queue_.pop_front()`, which there must be an entry for. -/
def popFront (q : PacketReceiveQueue α) : Except Fault (α × PacketReceiveQueue α) :=
  match q.queue with
  | [] => .error (.outOfBounds 0 0)
  | front :: rest => .ok (front, { q with queue := rest })

/-- `push`. -/
def push (q : PacketReceiveQueue α) (packet : α) : Except Fault (PacketReceiveQueue α) := do
  let q ←
    if q.queue.length ≥ q.maxSize then do
      let (_, q) ← q.popFront
      pure { q with droppedPackets := q.droppedPackets + 1 }
    else pure q
  return { q with queue := q.queue ++ [packet] }

/-- The condition that `wait_pop` waits for. -/
def waitOver (q : PacketReceiveQueue α) (shouldContinue : Bool) : Bool :=
  !q.queue.isEmpty || !shouldContinue

/-- The rest of `wait_pop`, after its wait: the packet, or none where it returns false. -/
def takeFront (q : PacketReceiveQueue α) (shouldContinue : Bool) :
    Except Fault (Option α × PacketReceiveQueue α) :=
  if !shouldContinue && q.queue.isEmpty then return (none, q)
  else do
    let (front, q) ← q.popFront
    return (some front, q)

/-- `reset_dropped_count`. -/
def resetDroppedCount (q : PacketReceiveQueue α) : PacketReceiveQueue α :=
  { q with droppedPackets := 0 }

/-- `dropped_count`. -/
def droppedCount (q : PacketReceiveQueue α) : Nat :=
  q.droppedPackets

/-- The same queue with other entries. -/
def map {β : Type} (f : α → β) (q : PacketReceiveQueue α) : PacketReceiveQueue β where
  maxSize := q.maxSize
  queue := q.queue.map f
  droppedPackets := q.droppedPackets

end PacketReceiveQueue

/-- What the threads do. -/
inductive QueueAction (α : Type) where
  /-- a call of `push` -/
  | push (packet : α)
  /-- a call of `wait_pop` gets the mutex, when it starts, is notified or wakes up of
  itself, and looks whether its wait is over -/
  | check
  /-- the call goes on to its end -/
  | finish
  /-- scanning stops -/
  | stop

/-- The queue and the stop. -/
structure QueueState (α : Type) where
  queue : PacketReceiveQueue α
  running : Bool
  /-- a call of `wait_pop` has the mutex, and its wait is over -/
  holding : Bool

section

variable {α β : Type}

/-- The same action with another packet. -/
def QueueAction.map (f : α → β) : QueueAction α → QueueAction β
  | .push packet => .push (f packet)
  | .check => .check
  | .finish => .finish
  | .stop => .stop

/-- The packets that an action pushes. -/
def QueueAction.packets : QueueAction α → List α
  | .push packet => [packet]
  | _ => []

/-- The state before the first call. -/
def QueueState.start (maxSize : Nat) : QueueState α where
  queue := .create maxSize
  running := true
  holding := false

/-- One step, with the packet that a call of `wait_pop` hands out; `none` where the action
is not enabled, as another thread has the mutex. -/
def QueueState.next (s : QueueState α) :
    QueueAction α → Option (Except Fault (Option α × QueueState α))
  | .push packet =>
      if s.holding then none
      else some do
        let queue ← s.queue.push packet
        return (none, { s with queue })
  | .check =>
      if s.holding then none
      else some (.ok (none, { s with holding := s.queue.waitOver s.running }))
  | .finish =>
      if s.holding then some do
        let (packet, queue) ← s.queue.takeFront s.running
        return (packet, { s with queue, holding := false })
      else none
  | .stop => some (.ok (none, { s with running := false }))

/-- The steps that do not fault. -/
def QueueStep (s : QueueState α) (a : QueueAction α) (t : QueueState α) : Prop :=
  ∃ packet, s.next a = some (.ok (packet, t))

/-- The same state with other packets. -/
def QueueState.map (f : α → β) (s : QueueState α) : QueueState β where
  queue := s.queue.map f
  running := s.running
  holding := s.holding

end

/-! ## The calls -/

namespace PacketReceiveQueue

variable {α β : Type}

/-- What a call of `push` leaves. -/
def afterPush (q : PacketReceiveQueue α) (packet : α) : PacketReceiveQueue α where
  maxSize := q.maxSize
  queue := q.queue.drop (displaced q.maxSize q.queue).length ++ [packet]
  droppedPackets := q.droppedPackets + (displaced q.maxSize q.queue).length

/-- What a call of `wait_pop` leaves. -/
def afterTake (q : PacketReceiveQueue α) : PacketReceiveQueue α where
  maxSize := q.maxSize
  queue := q.queue.drop 1
  droppedPackets := q.droppedPackets

/-- `push` takes the front of a full queue, which is not empty. -/
theorem push_eq {q : PacketReceiveQueue α} (hpos : 0 < q.maxSize) (packet : α) :
    q.push packet = .ok (q.afterPush packet) := by
  unfold push afterPush
  by_cases hfull : q.queue.length ≥ q.maxSize
  · rw [if_pos hfull]
    cases hqueue : q.queue with
    | nil =>
        rw [hqueue, List.length_nil] at hfull
        omega
    | cons oldest newer =>
        rw [hqueue] at hfull
        rw [displaced_of_le hfull, popFront, hqueue]
        rfl
  · rw [if_neg hfull, displaced_of_lt (Nat.lt_of_not_le hfull)]
    rfl

/-- `wait_pop` takes the front, if there is one. -/
theorem takeFront_eq {q : PacketReceiveQueue α} {shouldContinue : Bool}
    (hover : q.waitOver shouldContinue = true) :
    q.takeFront shouldContinue = .ok (q.queue.head?, q.afterTake) := by
  obtain ⟨maxSize, queue, droppedPackets⟩ := q
  cases queue with
  | nil =>
      -- the wait is over because scanning has stopped
      have hstop : shouldContinue = false := by simpa [waitOver] using hover
      rw [hstop]
      rfl
  | cons front rest =>
      rw [takeFront, if_neg (by simp)]
      rfl

/-- `wait_pop` returns false only on an empty queue after the stop. -/
theorem takeFront_none {q r : PacketReceiveQueue α} {shouldContinue : Bool}
    (h : q.takeFront shouldContinue = .ok (none, r)) :
    q.queue = [] ∧ shouldContinue = false := by
  unfold takeFront at h
  split at h
  · next hstop =>
      rw [Bool.and_eq_true, Bool.not_eq_true', List.isEmpty_iff] at hstop
      exact hstop.symm
  · obtain ⟨front, -, hfront⟩ := bind_eq_ok_iff.mp h
    exact absurd hfront (by simp)

/-! ### The queue only moves its entries -/

theorem push_map (f : α → β) (q : PacketReceiveQueue α) (packet : α) :
    (q.map f).push (f packet) = (q.push packet).map (map f) := by
  obtain ⟨maxSize, queue, droppedPackets⟩ := q
  have hlength : (queue.map f).length = queue.length := List.length_map f
  show (PacketReceiveQueue.mk maxSize (queue.map f) droppedPackets).push (f packet) = _
  unfold push
  rw [hlength]
  by_cases hfull : queue.length ≥ maxSize
  · rw [if_pos hfull, if_pos hfull]
    cases queue with
    | nil => rfl
    | cons oldest newer =>
        show Except.ok _ = Except.ok _
        simp [map]
  · rw [if_neg hfull, if_neg hfull]
    show Except.ok _ = Except.ok _
    simp [map]

theorem takeFront_map (f : α → β) (q : PacketReceiveQueue α) (shouldContinue : Bool) :
    (q.map f).takeFront shouldContinue =
      (q.takeFront shouldContinue).map (Prod.map (Option.map f) (map f)) := by
  obtain ⟨maxSize, queue, droppedPackets⟩ := q
  cases queue with
  | nil => cases shouldContinue <;> rfl
  | cons front rest => cases shouldContinue <;> rfl

end PacketReceiveQueue

/-! ## The steps -/

section

variable {α β : Type}

theorem waitOver_map (f : α → β) (q : PacketReceiveQueue α) (shouldContinue : Bool) :
    (q.map f).waitOver shouldContinue = q.waitOver shouldContinue := by
  simp [PacketReceiveQueue.waitOver, PacketReceiveQueue.map]

/-- **The packets do not matter.**  A step with other packets is the step, with other
packets. -/
theorem next_map (f : α → β) (s : QueueState α) (a : QueueAction α) :
    (s.map f).next (a.map f) =
      (s.next a).map fun outcome => outcome.map (Prod.map (Option.map f) (QueueState.map f)) := by
  obtain ⟨queue, running, holding⟩ := s
  cases a with
  | push packet =>
      cases holding with
      | true => rfl
      | false =>
          show some ((queue.map f).push (f packet) >>= _) = some _
          rw [PacketReceiveQueue.push_map]
          show _ = some (Except.map _ (queue.push packet >>= _))
          cases queue.push packet with
          | error fault => rfl
          | ok after => rfl
  | check =>
      cases holding with
      | true => rfl
      | false =>
          show some (Except.ok (none, QueueState.mk _ running ((queue.map f).waitOver running))) = _
          rw [waitOver_map]
          rfl
  | finish =>
      cases holding with
      | true =>
          show some ((queue.map f).takeFront running >>= _) = some _
          rw [PacketReceiveQueue.takeFront_map]
          show _ = some (Except.map _ (queue.takeFront running >>= _))
          cases queue.takeFront running with
          | error fault => rfl
          | ok result => rfl
      | false => rfl
  | stop => rfl

end

end Scanner
end LanDiscovery

import Mathlib.Data.List.Basic
import Mathlib.Data.List.Nodup
import Mathlib.Data.List.Perm.Basic
import Mathlib.Tactic.Common

/-!
# A bounded queue that drops its oldest entry

The history of such a queue: what came in, what was taken from the front, what was dropped
from the front to make room, and what is still in the queue.  `Kept` holds of every history
that is made of pushes and pops (`Kept.push`, `Kept.pop`): nothing is lost or invented,
the order stays, and each dropped entry has a full queue of later ones behind it.
-/

namespace LanDiscovery
namespace Library
namespace DropOldest

variable {α : Type*}

/-- The entries that came in, were taken and were dropped so far, and those in the queue. -/
structure History (α : Type*) where
  pushed : List α
  popped : List α
  dropped : List α
  queue : List α

/-- The entry that has to go before one more comes in. -/
def displaced (limit : Nat) (queue : List α) : List α :=
  if limit ≤ queue.length then queue.take 1 else []

/-- Before anything came in. -/
def History.start : History α where
  pushed := []
  popped := []
  dropped := []
  queue := []

/-- An entry comes in at the back; the oldest one makes room for it. -/
def History.push (limit : Nat) (h : History α) (a : α) : History α where
  pushed := h.pushed ++ [a]
  popped := h.popped
  dropped := h.dropped ++ displaced limit h.queue
  queue := h.queue.drop (displaced limit h.queue).length ++ [a]

/-- The front of the queue is taken. -/
def History.pop (h : History α) : History α where
  pushed := h.pushed
  popped := h.popped ++ h.queue.take 1
  dropped := h.dropped
  queue := h.queue.drop 1

/-- What holds of every history.  The entries that left the queue are those that came in
first; each is popped or dropped, and a dropped one had `limit` later ones behind it. -/
structure Kept (limit : Nat) (h : History α) : Prop where
  bounded : h.queue.length ≤ limit
  split : ∃ gone, h.pushed = gone ++ h.queue ∧ h.popped.Sublist gone ∧
    gone.Perm (h.popped ++ h.dropped)
  overrun : ∀ a ∈ h.dropped, ∃ before after, h.pushed = before ++ a :: after ∧
    limit ≤ after.length

/-! ## What goes -/

@[simp] theorem displaced_of_lt {limit : Nat} {queue : List α} (h : queue.length < limit) :
    displaced limit queue = [] :=
  if_neg (Nat.not_le.mpr h)

theorem displaced_of_le {limit : Nat} {a : α} {queue : List α} (h : limit ≤ queue.length + 1) :
    displaced limit (a :: queue) = [a] :=
  if_pos h

/-! ## Pushes and pops -/

theorem Kept.start (limit : Nat) : Kept limit (History.start : History α) where
  bounded := Nat.zero_le limit
  split := ⟨[], rfl, List.Sublist.refl [], List.Perm.refl []⟩
  overrun := by simp [History.start]

section

variable {limit : Nat} {h : History α}

/-- An entry that comes in is one more behind each dropped one. -/
theorem Kept.overrun_append (hkept : Kept limit h) (a : α) :
    ∀ b ∈ h.dropped, ∃ before after, h.pushed ++ [a] = before ++ b :: after ∧
      limit ≤ after.length := by
  intro b hb
  obtain ⟨before, after, hpushed, hle⟩ := hkept.overrun b hb
  refine ⟨before, after ++ [a], by simp [hpushed], ?_⟩
  rw [List.length_append]
  omega

theorem Kept.push_of_lt (hkept : Kept limit h) (hlt : h.queue.length < limit) (a : α) :
    Kept limit (h.push limit a) := by
  obtain ⟨gone, hpushed, hpopped, hperm⟩ := hkept.split
  have hnone := displaced_of_lt hlt
  constructor
  · show (h.queue.drop (displaced limit h.queue).length ++ [a]).length ≤ limit
    rw [hnone, List.length_append, List.length_nil, List.drop_zero, List.length_singleton]
    omega
  · refine ⟨gone, ?_, hpopped, ?_⟩
    · show h.pushed ++ [a] = gone ++ (h.queue.drop (displaced limit h.queue).length ++ [a])
      rw [hnone, List.length_nil, List.drop_zero, hpushed, List.append_assoc]
    · show gone.Perm (h.popped ++ (h.dropped ++ displaced limit h.queue))
      rw [hnone, List.append_nil]
      exact hperm
  · show ∀ b ∈ h.dropped ++ displaced limit h.queue, _
    rw [hnone, List.append_nil]
    exact hkept.overrun_append a

theorem Kept.push_of_full (hkept : Kept limit h) {oldest : α} {newer : List α}
    (hqueue : h.queue = oldest :: newer) (hfull : limit ≤ h.queue.length) (a : α) :
    Kept limit (h.push limit a) := by
  obtain ⟨gone, hpushed, hpopped, hperm⟩ := hkept.split
  have hbounded := hkept.bounded
  have hone : displaced limit h.queue = [oldest] := by
    rw [hqueue] at hfull ⊢
    exact displaced_of_le hfull
  rw [hqueue, List.length_cons] at hbounded hfull
  rw [hqueue] at hpushed
  -- the oldest entry joins those that are gone
  constructor
  · show (h.queue.drop (displaced limit h.queue).length ++ [a]).length ≤ limit
    rw [hone, hqueue, List.length_append, List.length_singleton, List.drop_one, List.tail_cons,
      List.length_singleton]
    exact hbounded
  · refine ⟨gone ++ [oldest], ?_, ?_, ?_⟩
    · show h.pushed ++ [a] =
        gone ++ [oldest] ++ (h.queue.drop (displaced limit h.queue).length ++ [a])
      rw [hone, hqueue, hpushed, List.length_singleton, List.drop_one, List.tail_cons]
      simp
    · exact hpopped.trans (List.sublist_append_left gone [oldest])
    · show (gone ++ [oldest]).Perm (h.popped ++ (h.dropped ++ displaced limit h.queue))
      rw [hone, ← List.append_assoc]
      exact hperm.append_right [oldest]
  · intro b hb
    have hmem : b ∈ h.dropped ++ [oldest] := hone ▸ hb
    rcases List.mem_append.mp hmem with hold | hnew
    · exact hkept.overrun_append a b hold
    · -- the queue was full behind the oldest entry, but for the new one
      obtain rfl := List.mem_singleton.mp hnew
      refine ⟨gone, newer ++ [a], ?_, ?_⟩
      · show h.pushed ++ [a] = gone ++ b :: (newer ++ [a])
        rw [hpushed, List.append_assoc, List.cons_append]
      · rw [List.length_append, List.length_singleton]
        exact hfull

theorem Kept.push (hpos : 0 < limit) (hkept : Kept limit h) (a : α) :
    Kept limit (h.push limit a) := by
  by_cases hfull : limit ≤ h.queue.length
  · cases hqueue : h.queue with
    | nil =>
        rw [hqueue, List.length_nil] at hfull
        omega
    | cons oldest newer => exact hkept.push_of_full hqueue hfull a
  · exact hkept.push_of_lt (Nat.lt_of_not_le hfull) a

theorem Kept.pop (hkept : Kept limit h) : Kept limit h.pop := by
  obtain ⟨gone, hpushed, hpopped, hperm⟩ := hkept.split
  have hbounded := hkept.bounded
  refine ⟨?_, ⟨gone ++ h.queue.take 1, ?_, ?_, ?_⟩, hkept.overrun⟩
  · show (h.queue.drop 1).length ≤ limit
    rw [List.length_drop]
    omega
  · show h.pushed = gone ++ h.queue.take 1 ++ h.queue.drop 1
    rw [List.append_assoc, List.take_append_drop, hpushed]
  · exact hpopped.append_right (h.queue.take 1)
  · show (gone ++ h.queue.take 1).Perm (h.popped ++ h.queue.take 1 ++ h.dropped)
    have hmove : (h.dropped ++ h.queue.take 1).Perm (h.queue.take 1 ++ h.dropped) :=
      List.perm_append_comm
    calc (gone ++ h.queue.take 1).Perm (h.popped ++ h.dropped ++ h.queue.take 1) :=
          hperm.append_right _
      _ = h.popped ++ (h.dropped ++ h.queue.take 1) := List.append_assoc ..
      (h.popped ++ (h.dropped ++ h.queue.take 1)).Perm
          (h.popped ++ (h.queue.take 1 ++ h.dropped)) := hmove.append_left _
      _ = h.popped ++ h.queue.take 1 ++ h.dropped := (List.append_assoc ..).symm

/-! ## What follows -/

/-- Nothing is lost or invented. -/
theorem Kept.perm (hkept : Kept limit h) :
    h.pushed.Perm (h.popped ++ h.dropped ++ h.queue) := by
  obtain ⟨gone, hpushed, -, hperm⟩ := hkept.split
  rw [hpushed]
  exact hperm.append_right h.queue

theorem Kept.length_pushed (hkept : Kept limit h) :
    h.pushed.length = h.popped.length + h.queue.length + h.dropped.length := by
  have hlength := hkept.perm.length_eq
  rw [List.length_append, List.length_append] at hlength
  omega

/-- The order stays, and no entry comes twice. -/
theorem Kept.sublist (hkept : Kept limit h) : (h.popped ++ h.queue).Sublist h.pushed := by
  obtain ⟨gone, hpushed, hpopped, -⟩ := hkept.split
  rw [hpushed]
  exact hpopped.append_right h.queue

/-- An entry with a full queue behind it is not in the queue. -/
theorem Kept.mem_gone (hkept : Kept limit h) {gone : List α} (hgone : h.pushed = gone ++ h.queue)
    {a : α} {before after : List α} (ha : h.pushed = before ++ a :: after)
    (hle : limit ≤ after.length) : a ∈ gone := by
  have hbounded := hkept.bounded
  have hboth : gone ++ h.queue = before ++ a :: after := hgone.symm.trans ha
  rcases List.append_eq_append_iff.mp hboth with ⟨later, -, hqueue⟩ | ⟨earlier, rfl, hafter⟩
  · have hlength := congrArg List.length hqueue
    rw [List.length_append, List.length_cons] at hlength
    omega
  · cases earlier with
    | nil =>
        have hlength := congrArg List.length hafter
        rw [List.length_cons, List.nil_append] at hlength
        omega
    | cons b earlier =>
        obtain ⟨rfl, -⟩ := List.cons.inj hafter
        simp

/-- **Which entries are dropped.**  Where no entry comes in twice, the dropped ones are
those that were not popped and have `limit` later ones behind them. -/
theorem Kept.mem_dropped_iff (hkept : Kept limit h) (hnodup : h.pushed.Nodup) {a : α}
    {before after : List α} (ha : h.pushed = before ++ a :: after) :
    a ∈ h.dropped ↔ a ∉ h.popped ∧ limit ≤ after.length := by
  obtain ⟨gone, hpushed, -, hperm⟩ := hkept.split
  constructor
  · intro hdropped
    have hleft : (h.popped ++ h.dropped).Nodup := by
      rw [hpushed] at hnodup
      exact hperm.nodup_iff.mp hnodup.of_append_left
    refine ⟨fun hpopped => List.disjoint_of_nodup_append hleft hpopped hdropped, ?_⟩
    -- the entry comes in once, so its place is the one where it was dropped
    obtain ⟨before', after', hpushed', hle⟩ := hkept.overrun a hdropped
    have honce : a ∉ before ++ after := by
      rw [ha, List.nodup_middle] at hnodup
      exact (List.nodup_cons.mp hnodup).1
    obtain ⟨hbefore, hafter⟩ := not_or.mp (mt List.mem_append.mpr honce)
    obtain ⟨-, -, rfl⟩ :=
      (List.append_cons_inj_of_notMem hbefore hafter).mp (ha.symm.trans hpushed')
    exact hle
  · intro hlate
    obtain ⟨hpopped, hle⟩ := hlate
    have hleft := hperm.mem_iff.mp (hkept.mem_gone hpushed ha hle)
    exact (List.mem_append.mp hleft).resolve_left hpopped

end

end DropOldest
end Library
end LanDiscovery

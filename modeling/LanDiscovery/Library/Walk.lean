import Mathlib.Data.Finset.Card
import Mathlib.Data.Finset.Range
import Mathlib.Data.Fintype.Pigeonhole
import Mathlib.Tactic.Common

/-!
# Walks of a partial function

From each state a partial function leads to at most one other state.  A walk
either ends or comes back to a state it has been in, and then it goes on for ever
(`Revisits.isSome_walk`).  In a finite set the second case is the only one in which
it takes as many steps as the set has elements (`revisits_of_walk_card`).
-/

namespace LanDiscovery
namespace Library
namespace Walk

variable {σ : Type*} {next : σ → Option σ}

/-- The state after the given number of steps. -/
def walk (next : σ → Option σ) : Nat → σ → Option σ
  | 0, s => some s
  | n + 1, s => (next s).bind (walk next n)

@[simp] theorem walk_zero (s : σ) : walk next 0 s = some s := rfl

@[simp] theorem walk_succ (n : Nat) (s : σ) :
    walk next (n + 1) s = (next s).bind (walk next n) := rfl

theorem walk_add (m n : Nat) (s : σ) :
    walk next (m + n) s = (walk next m s).bind (walk next n) := by
  induction m generalizing s with
  | zero => simp
  | succ m ih =>
      rw [Nat.succ_add, walk_succ, walk_succ, Option.bind_assoc]
      congr 1
      funext t
      exact ih t

/-- A walk is at least as long as its continuations. -/
theorem isSome_walk_of_le {m n : Nat} {s : σ} (hmn : m ≤ n) (h : (walk next n s).isSome) :
    (walk next m s).isSome := by
  obtain ⟨k, rfl⟩ := Nat.exists_eq_add_of_le hmn
  rw [walk_add] at h
  cases hm : walk next m s with
  | none => simp [hm] at h
  | some t => rfl

/-- The walk comes back to a state. -/
def Revisits (next : σ → Option σ) (s : σ) : Prop :=
  ∃ i j t, i < j ∧ walk next i s = some t ∧ walk next j s = some t

/-- A walk that comes back does not end. -/
theorem Revisits.isSome_walk {s : σ} (h : Revisits next s) (n : Nat) :
    (walk next n s).isSome := by
  obtain ⟨i, j, t, hij, hi, hj⟩ := h
  obtain ⟨period, rfl⟩ := Nat.exists_eq_add_of_le hij.le
  -- from the repeated state a whole number of rounds leads back to it
  have hround : walk next period t = some t := by
    rw [walk_add, hi] at hj
    exact hj
  have hrounds : ∀ rounds, walk next (i + rounds * period) s = some t := by
    intro rounds
    induction rounds with
    | zero => simpa using hi
    | succ rounds ih =>
        rw [Nat.succ_mul, ← Nat.add_assoc, walk_add, ih]
        exact hround
  refine isSome_walk_of_le (n := i + n * period) ?_ (by rw [hrounds]; rfl)
  have hpos : 0 < period := by omega
  exact (Nat.le_mul_of_pos_right n hpos).trans (Nat.le_add_left _ _)

/-- **Pigeonhole.**  A walk that makes as many steps in a finite set as the set has
elements comes back to one of them. -/
theorem revisits_of_walk_card {s : σ} (S : Finset σ)
    (h : ∀ i ≤ S.card, ∃ t ∈ S, walk next i s = some t) : Revisits next s := by
  have : Nonempty σ := ⟨s⟩
  choose! visit hmem hwalk using h
  have hmaps : Set.MapsTo visit (Finset.range (S.card + 1) : Set Nat) (S : Set σ) := by
    intro i hi
    exact Finset.mem_coe.mpr (hmem i (Nat.lt_succ_iff.mp (Finset.mem_range.mp hi)))
  obtain ⟨i, hi, j, hj, hne, heq⟩ := Finset.exists_ne_map_eq_of_card_lt_of_maps_to
    (by rw [Finset.card_range]; exact Nat.lt_succ_self _) hmaps
  have hi' := hwalk i (Nat.lt_succ_iff.mp (Finset.mem_range.mp hi))
  have hj' := hwalk j (Nat.lt_succ_iff.mp (Finset.mem_range.mp hj))
  rcases Nat.lt_or_gt_of_ne hne with hlt | hgt
  · exact ⟨i, j, visit i, hlt, hi', heq ▸ hj'⟩
  · exact ⟨j, i, visit i, hgt, heq ▸ hj', hi'⟩

end Walk
end Library
end LanDiscovery

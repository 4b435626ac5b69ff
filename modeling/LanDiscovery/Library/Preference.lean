import Mathlib.Data.List.Basic
import Mathlib.Tactic.Common

/-!
# A value with a preferred and a fallback source

A register that two kinds of sources write: a preferred source overwrites the
value, a fallback source only fills it while it is still empty.  `settle` runs a
list of updates from an initial value; `settle_eq` is its closed form, the last
overwriting value, or else the initial one, or else the first fallback.

The closed form is what makes different programs for the same preference
comparable: one that folds the updates into the stored value, and one that folds
them from scratch and merges the result afterwards.
-/

namespace LanDiscovery
namespace Library
namespace Preference

variable {α β : Type*}

/-- What one source does to the register. -/
inductive Update (α : Type*) where
  | overwrite (a : α)
  | fill (a : α)
  | keep
  deriving DecidableEq, Repr

/-- The effect of one update. -/
def Update.apply : Option α → Update α → Option α
  | _, .overwrite a => some a
  | none, .fill a => some a
  | some b, .fill _ => some b
  | h, .keep => h

/-- The register after a list of updates. -/
def settle (h : Option α) (us : List (Update α)) : Option α :=
  us.foldl Update.apply h

/-- The last overwriting value. -/
def lastOverwrite : List (Update α) → Option α
  | [] => none
  | .overwrite a :: us => (lastOverwrite us).or (some a)
  | _ :: us => lastOverwrite us

/-- The value of a fallback source. -/
def Update.fallback : Update α → Option α
  | .fill a => some a
  | _ => none

/-- The first fallback value. -/
def firstFill (us : List (Update α)) : Option α :=
  us.findSome? Update.fallback

@[simp] theorem settle_nil (h : Option α) : settle h [] = h := rfl

@[simp] theorem settle_cons (h : Option α) (u : Update α) (us : List (Update α)) :
    settle h (u :: us) = settle (u.apply h) us := rfl

@[simp] theorem firstFill_cons (u : Update α) (us : List (Update α)) :
    firstFill (u :: us) = u.fallback.or (firstFill us) := by
  unfold firstFill
  rw [List.findSome?_cons]
  cases u.fallback <;> rfl

/-- **Closed form.**  The last overwriting value wins; without one the initial
value stays, and the first fallback is used if there is none. -/
theorem settle_eq (h : Option α) (us : List (Update α)) :
    settle h us = (lastOverwrite us).or (h.or (firstFill us)) := by
  induction us generalizing h with
  | nil => simp [lastOverwrite, firstFill]
  | cons u us ih =>
      rw [settle_cons, ih]
      cases u with
      | overwrite a => cases h <;> simp [lastOverwrite, Update.apply]
      | fill a => cases h <;> simp [lastOverwrite, Update.apply, Update.fallback]
      | keep => cases h <;> simp [lastOverwrite, Update.apply, Update.fallback]

/-- Running the same updates again changes nothing. -/
theorem settle_idem (h : Option α) (us : List (Update α)) :
    settle (settle h us) us = settle h us := by
  rw [settle_eq (settle h us), settle_eq h]
  cases lastOverwrite us <;> cases h <;> cases firstFill us <;> rfl

/-- Once the register holds a value it never becomes empty again. -/
theorem settle_ne_none {h : Option α} (hne : h ≠ none) (us : List (Update α)) :
    settle h us ≠ none := by
  rw [settle_eq]
  cases hlast : lastOverwrite us with
  | some a => simp
  | none => simpa using fun hnone => absurd hnone hne

/-- A register that is empty at the end was written by no update. -/
theorem apply_none_of_settle {us : List (Update α)} (h : settle none us = none) :
    ∀ u ∈ us, u.apply none = none := by
  induction us with
  | nil => simp
  | cons u us ih =>
      rw [settle_cons] at h
      have hfirst : u.apply none = none := by
        by_contra hne
        exact settle_ne_none hne us h
      rw [hfirst] at h
      exact List.forall_mem_cons.mpr ⟨hfirst, ih h⟩

/-- There is a last overwriting value exactly when some update overwrites. -/
theorem lastOverwrite_eq_none_iff {us : List (Update α)} :
    lastOverwrite us = none ↔ ∀ u ∈ us, ∀ a, u ≠ .overwrite a := by
  induction us with
  | nil => simp [lastOverwrite]
  | cons u us ih =>
      cases u with
      | overwrite a => simp [lastOverwrite]
      | fill a => simp [lastOverwrite, ih]
      | keep => simp [lastOverwrite, ih]

/-- From an empty register, two lists of updates with the same first fallback
and overwrites on both or neither settle alike exactly when their last
overwriting values agree. -/
theorem settle_none_eq_iff {us vs : List (Update α)} (hfill : firstFill us = firstFill vs)
    (hnone : lastOverwrite us = none ↔ lastOverwrite vs = none) :
    settle none us = settle none vs ↔ lastOverwrite us = lastOverwrite vs := by
  rw [settle_eq, settle_eq, hfill]
  cases hus : lastOverwrite us with
  | none => simp [hnone.mp hus]
  | some a =>
      cases hvs : lastOverwrite vs with
      | none => exact absurd (hnone.mpr hvs) (by simp [hus])
      | some b => simp

/-- Preferring what settles from scratch to the settled value is preferring it to
the initial one. -/
theorem or_settle (h : Option α) (us : List (Update α)) :
    (settle none us).or (settle h us) = (settle none us).or h := by
  rw [settle_eq none, settle_eq h]
  cases lastOverwrite us <;> cases h <;> cases firstFill us <;> rfl

/-- Preferring what settles from scratch to the initial value agrees with settling
in place unless there are only fallbacks, the first of which is another value. -/
theorem or_eq_settle_iff {h : Option α} {us : List (Update α)} :
    (settle none us).or h = settle h us ↔
      ¬ ∃ a b, h = some a ∧ settle none us = some b ∧ b ≠ a ∧ lastOverwrite us = none := by
  rw [settle_eq none, settle_eq h]
  cases lastOverwrite us with
  | some c => simp
  | none =>
      cases h with
      | none => cases firstFill us <;> simp
      | some a => cases firstFill us <;> simp

/-- An update of the renamed values. -/
def Update.map (f : α → β) : Update α → Update β
  | .overwrite a => .overwrite (f a)
  | .fill a => .fill (f a)
  | .keep => .keep

/-- Settling commutes with renaming. -/
theorem settle_map (f : α → β) (h : Option α) (us : List (Update α)) :
    settle (h.map f) (us.map (Update.map f)) = (settle h us).map f := by
  induction us generalizing h with
  | nil => rfl
  | cons u us ih =>
      have hstep : (Update.map f u).apply (h.map f) = (u.apply h).map f := by
        cases u <;> cases h <;> rfl
      rw [List.map_cons, settle_cons, settle_cons, hstep, ih]

end Preference
end Library
end LanDiscovery

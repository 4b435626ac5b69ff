import LanDiscovery.Library.Words
import Mathlib.Data.List.Basic
import Mathlib.Tactic.Common

/-!
# Joining and splitting at a separator

`[c].intercalate parts` joins parts with a separator, `segments c text` are the
parts of a text between separators that are not empty.  Splitting what was joined
gives the parts back exactly when no part has a separator in it
(`segments_intercalate_eq_self_iff`).
-/

namespace LanDiscovery
namespace Library
namespace Segments

variable {α : Type*}

/-- One more part behind the others. -/
theorem intercalate_append_singleton {sep : List α} {parts : List (List α)} (hne : parts ≠ [])
    (part : List α) :
    sep.intercalate (parts ++ [part]) = sep.intercalate parts ++ sep ++ part := by
  induction parts with
  | nil => exact absurd rfl hne
  | cons first parts ih =>
      cases parts with
      | nil => simp [List.intercalate_cons_cons]
      | cons second parts =>
          simp only [List.cons_append, List.intercalate_cons_cons, List.append_assoc] at ih ⊢
          rw [ih (by simp)]

/-- Parts that are not empty join to a text that is not empty. -/
theorem intercalate_eq_nil_iff {sep : List α} {parts : List (List α)} (h : ∀ p ∈ parts, p ≠ []) :
    sep.intercalate parts = [] ↔ parts = [] := by
  cases parts with
  | nil => simp
  | cons first parts =>
      have hfirst : first ≠ [] := h first (by simp)
      cases parts with
      | nil => simpa using hfirst
      | cons second parts => simp [List.intercalate_cons_cons, hfirst]

variable [DecidableEq α] {c : α}

/-- The parts between separators that are not empty. -/
def segments (c : α) (text : List α) : List (List α) :=
  (text.splitOn c).filter fun part => part ≠ []

@[simp] theorem segments_nil : segments c [] = [] := by
  simp [segments]

/-- A separator splits a text. -/
@[simp] theorem segments_append_cons (before after : List α) :
    segments c (before ++ c :: after) = segments c before ++ segments c after := by
  rw [segments, List.splitOn_append_cons_self, List.filter_append]
  rfl

theorem segments_of_notMem {text : List α} (h : c ∉ text) (hne : text ≠ []) :
    segments c text = [text] := by
  simp [segments, List.splitOn_eq_singleton h, hne]

theorem ne_nil_of_mem_segments {text part : List α} (h : part ∈ segments c text) : part ≠ [] := by
  simpa using (List.mem_filter.mp h).2

/-- The parts of the parts. -/
theorem segments_intercalate (parts : List (List α)) :
    segments c ([c].intercalate parts) = parts.flatMap (segments c) := by
  induction parts with
  | nil => simp
  | cons first parts ih =>
      cases parts with
      | nil => simp
      | cons second parts =>
          rw [List.intercalate_cons_cons, List.append_assoc, List.singleton_append,
            segments_append_cons, ih]
          rfl

theorem notMem_of_mem_segments {text part : List α} (h : part ∈ segments c text) : c ∉ part := by
  have hpart := (List.mem_filter.mp h).1
  rw [List.splitOn_eq_splitOnP] at hpart
  intro hmem
  have hbreak := (Words.mem_of_mem_splitOnP hpart hmem).2
  simp at hbreak

theorem length_le_of_mem_segments {text part : List α} (h : part ∈ segments c text) :
    part.length ≤ text.length := by
  have hjoin : ∀ parts : List (List α), part ∈ parts →
      part.length ≤ ([c].intercalate parts).length := by
    intro parts
    induction parts with
    | nil => simp
    | cons first parts ih =>
        intro hmem
        cases parts with
        | nil => simp [List.mem_singleton.mp hmem]
        | cons second parts =>
            rw [List.intercalate_cons_cons, List.length_append, List.length_append]
            rcases List.mem_cons.mp hmem with rfl | hrest
            · omega
            · exact Nat.le_trans (ih hrest) (Nat.le_add_left _ _)
  have hle := hjoin _ (List.mem_filter.mp h).1
  rwa [List.intercalate_splitOn] at hle

/-- **Splitting what was joined.**  Parts that are not empty come back exactly when
none of them has a separator in it. -/
theorem segments_intercalate_eq_self_iff {parts : List (List α)} (h : ∀ p ∈ parts, p ≠ []) :
    segments c ([c].intercalate parts) = parts ↔ ∀ p ∈ parts, c ∉ p := by
  constructor
  · intro heq p hp
    rw [← heq] at hp
    exact notMem_of_mem_segments hp
  · intro hsep
    rw [segments_intercalate]
    induction parts with
    | nil => rfl
    | cons first parts ih =>
        rw [List.flatMap_cons, segments_of_notMem (hsep first (by simp)) (h first (by simp)),
          ih (fun p hp => h p (by simp [hp])) (fun p hp => hsep p (by simp [hp]))]
        rfl

end Segments
end Library
end LanDiscovery

import Mathlib.Data.List.Basic
import Mathlib.Tactic.Common

/-!
# Substring search over an arbitrary alphabet

The two string types of the development (octet strings and character strings)
share their searching primitives.  A pattern *occurs at* an index when the text
is a prefix of that length, the pattern, and a rest; `find?` and `rfind?` return
the first and the last such index.
-/

namespace LanDiscovery
namespace Library
namespace Text

variable {α : Type*} [DecidableEq α]

/-- The first index at which `pattern` occurs in the text. -/
def find? (pattern : List α) : List α → Option Nat
  | [] => if pattern = [] then some 0 else none
  | a :: text =>
      if pattern.isPrefixOf (a :: text) then some 0
      else (find? pattern text).map (· + 1)

/-- The last index at which `pattern` occurs in the text. -/
def rfind? (pattern : List α) : List α → Option Nat
  | [] => if pattern = [] then some 0 else none
  | a :: text =>
      match rfind? pattern text with
      | some i => some (i + 1)
      | none => if pattern.isPrefixOf (a :: text) then some 0 else none

/-- A reported index really is an occurrence: the text splits around it. -/
theorem find?_eq_some {pattern text : List α} {i : Nat} (h : find? pattern text = some i) :
    ∃ before after, text = before ++ pattern ++ after ∧ before.length = i := by
  induction text generalizing i with
  | nil =>
      unfold find? at h
      split at h
      · next hnil =>
          obtain rfl : 0 = i := Option.some.inj h
          exact ⟨[], [], by simp [hnil], rfl⟩
      · exact absurd h (by simp)
  | cons a text ih =>
      unfold find? at h
      split at h
      · next hprefix =>
          obtain rfl : 0 = i := Option.some.inj h
          obtain ⟨after, hafter⟩ := List.isPrefixOf_iff_prefix.mp hprefix
          exact ⟨[], after, by simp [hafter], rfl⟩
      · obtain ⟨j, hj, rfl⟩ := Option.map_eq_some_iff.mp h
        obtain ⟨before, after, hsplit, hlen⟩ := ih hj
        exact ⟨a :: before, after, by simp [hsplit], by simp [hlen]⟩

theorem rfind?_eq_some {pattern text : List α} {i : Nat} (h : rfind? pattern text = some i) :
    ∃ before after, text = before ++ pattern ++ after ∧ before.length = i := by
  induction text generalizing i with
  | nil =>
      unfold rfind? at h
      split at h
      · next hnil =>
          obtain rfl : 0 = i := Option.some.inj h
          exact ⟨[], [], by simp [hnil], rfl⟩
      · exact absurd h (by simp)
  | cons a text ih =>
      unfold rfind? at h
      split at h
      · next j hj =>
          obtain rfl : j + 1 = i := Option.some.inj h
          obtain ⟨before, after, hsplit, hlen⟩ := ih hj
          exact ⟨a :: before, after, by simp [hsplit], by simp [hlen]⟩
      · split at h
        · next hprefix =>
            obtain rfl : 0 = i := Option.some.inj h
            obtain ⟨after, hafter⟩ := List.isPrefixOf_iff_prefix.mp hprefix
            exact ⟨[], after, by simp [hafter], rfl⟩
        · exact absurd h (by simp)

/-- What follows a reported occurrence is a tail of the text behind the pattern. -/
theorem find?_drop {pattern text : List α} {i : Nat} (h : find? pattern text = some i) :
    ∃ before, text = before ++ pattern ++ text.drop (i + pattern.length) := by
  obtain ⟨before, after, hsplit, rfl⟩ := find?_eq_some h
  refine ⟨before, ?_⟩
  conv_lhs => rw [hsplit]
  rw [hsplit, List.drop_append_of_le_length (by simp), List.drop_eq_nil_of_le (by simp)]
  simp

/-- The first occurrence of a letter splits the text in front of it. -/
theorem find?_singleton_eq_some {c : α} {text : List α} {i : Nat} (h : find? [c] text = some i) :
    c ∉ text.take i ∧ text = text.take i ++ c :: text.drop (i + 1) := by
  induction text generalizing i with
  | nil => simp [find?] at h
  | cons a text ih =>
      unfold find? at h
      by_cases hac : c = a
      · obtain rfl := hac
        obtain rfl : 0 = i := by simpa using h
        simp
      · rw [if_neg (by simpa using hac)] at h
        obtain ⟨j, hj, rfl⟩ := Option.map_eq_some_iff.mp h
        obtain ⟨hbefore, hsplit⟩ := ih hj
        rw [List.take_succ_cons, List.drop_succ_cons, List.cons_append, ← hsplit]
        exact ⟨by simp [hac, hbefore], rfl⟩

theorem find?_singleton_eq_none {c : α} {text : List α} (h : find? [c] text = none) :
    c ∉ text := by
  induction text with
  | nil => simp
  | cons a text ih =>
      unfold find? at h
      by_cases hac : c = a
      · simp [hac] at h
      · rw [if_neg (by simpa using hac), Option.map_eq_none_iff] at h
        simp [hac, ih h]

omit [DecidableEq α] in
/-- No occurrence starts in a text without a letter of the pattern, if what follows does
not bring the letter in time. -/
theorem not_prefix_append_of_notMem {c : α} {before rest : List α} (u v : List α)
    (hne : before ≠ []) (hbefore : c ∉ before) (hrest : c ∉ rest.take u.length) :
    ¬ (u ++ c :: v) <+: before ++ rest := by
  intro hprefix
  have hfront : u ++ [c] <+: before ++ rest :=
    (List.append_cons u c v ▸ List.prefix_append (u ++ [c]) v).trans hprefix
  have hmem : c ∈ (before ++ rest).take (u.length + 1) := by
    have htake := List.prefix_iff_eq_take.mp hfront
    rw [List.length_append, List.length_singleton] at htake
    rw [← htake]
    simp
  rw [List.take_append, List.mem_append] at hmem
  rcases hmem with hin | hin
  · exact hbefore (List.mem_of_mem_take hin)
  · have hpos := List.length_pos_iff.mpr hne
    exact hrest (List.take_subset_take_left rest (by omega) hin)

/-- A search goes past such a text. -/
theorem find?_append_of_notMem {c : α} {before rest : List α} (u v : List α)
    (hbefore : c ∉ before) (hrest : c ∉ rest.take u.length) :
    find? (u ++ c :: v) (before ++ rest) =
      (find? (u ++ c :: v) rest).map (· + before.length) := by
  induction before with
  | nil => simp
  | cons a before ih =>
      have hno := not_prefix_append_of_notMem u v (List.cons_ne_nil a before) hbefore hrest
      rw [List.cons_append, ← List.isPrefixOf_iff_prefix] at hno
      rw [List.cons_append, find?, if_neg hno, ih (List.not_mem_of_not_mem_cons hbefore),
        Option.map_map]
      rfl

/-- A pattern is found at the front. -/
theorem find?_append_self (pattern rest : List α) : find? pattern (pattern ++ rest) = some 0 := by
  have hprefix : pattern.isPrefixOf (pattern ++ rest) = true :=
    List.isPrefixOf_iff_prefix.mpr (List.prefix_append pattern rest)
  cases htext : pattern ++ rest with
  | nil => simp [find?, (List.append_eq_nil_iff.mp htext).1]
  | cons a text =>
      rw [htext] at hprefix
      rw [find?, if_pos hprefix]

end Text
end Library
end LanDiscovery

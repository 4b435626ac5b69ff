import Mathlib.Data.List.Nodup
import Mathlib.Tactic.Common

/-!
# Keyed tables

A table is the list of its rows in insertion order.  `updateRow` updates the row
with a key in place, `upsert` puts a row in the place of the one with its key or
at the end.  With unique keys an update is the upsert of the updated row
(`updateRow_eq_upsert`).  The last section describes the row that an ordering by
a column, largest first, puts in front: among equals the one inserted first.
-/

namespace LanDiscovery
namespace Library
namespace Table

variable {α κ : Type*} [DecidableEq κ]

/-- The row with the given key. -/
def lookup (key : α → κ) (k : κ) (rows : List α) : Option α :=
  rows.find? fun row => key row = k

/-- Update the row with the given key. -/
def updateRow (key : α → κ) (k : κ) (f : α → α) (rows : List α) : List α :=
  rows.map fun row => if key row = k then f row else row

/-- Put the row in the place of the one with its key, or at the end. -/
def upsert (key : α → κ) (row : α) (rows : List α) : List α :=
  if key row ∈ rows.map key then updateRow key (key row) (fun _ => row) rows else rows ++ [row]

theorem lookup_eq_some {key : α → κ} {k : κ} {rows : List α} {row : α}
    (h : lookup key k rows = some row) : row ∈ rows ∧ key row = k := by
  refine ⟨List.mem_of_find?_eq_some h, ?_⟩
  simpa using List.find?_some h

@[simp] theorem lookup_eq_none_iff {key : α → κ} {k : κ} {rows : List α} :
    lookup key k rows = none ↔ k ∉ rows.map key := by
  simp [lookup]

/-- With unique keys every row is found under its own key. -/
theorem lookup_of_mem {key : α → κ} {rows : List α} (hkeys : (rows.map key).Nodup) {row : α}
    (hrow : row ∈ rows) : lookup key (key row) rows = some row := by
  induction rows with
  | nil => simp at hrow
  | cons r rows ih =>
      rw [List.map_cons, List.nodup_cons] at hkeys
      rcases List.mem_cons.mp hrow with rfl | hmem
      · simp [lookup]
      · have hne : key r ≠ key row := by
          intro heq
          exact hkeys.1 (heq ▸ List.mem_map_of_mem hmem)
        rw [lookup, List.find?_cons_of_neg (by simpa using hne)]
        exact ih hkeys.2 hmem

omit [DecidableEq κ] in
/-- With unique keys two rows with one key are the same row. -/
theorem eq_of_key_eq {key : α → κ} {rows : List α} (hkeys : (rows.map key).Nodup) {row row' : α}
    (hrow : row ∈ rows) (hrow' : row' ∈ rows) (h : key row = key row') : row = row' :=
  List.inj_on_of_nodup_map hkeys hrow hrow' h

/-- An update that changes nothing where it applies changes nothing. -/
theorem updateRow_eq_self {key : α → κ} {k : κ} {f : α → α} {rows : List α}
    (h : ∀ row ∈ rows, key row = k → f row = row) : updateRow key k f rows = rows := by
  rw [updateRow]
  conv_rhs => rw [← List.map_id rows]
  apply List.map_congr_left
  intro row hrow
  by_cases hk : key row = k
  · simp [hk, h row hrow hk]
  · simp [hk]

/-- An update under a key that no row has changes nothing. -/
@[simp] theorem updateRow_of_notMem {key : α → κ} {k : κ} {rows : List α} (h : k ∉ rows.map key)
    (f : α → α) : updateRow key k f rows = rows :=
  updateRow_eq_self fun _ hrow hk => absurd (hk ▸ List.mem_map_of_mem hrow) h

@[simp] theorem mem_updateRow {key : α → κ} {k : κ} {f : α → α} {rows : List α} {row : α} :
    row ∈ updateRow key k f rows ↔
      (∃ r ∈ rows, key r = k ∧ f r = row) ∨ (row ∈ rows ∧ key row ≠ k) := by
  rw [updateRow, List.mem_map]
  constructor
  · rintro ⟨r, hr, hrow⟩
    by_cases h : key r = k
    · rw [if_pos h] at hrow
      exact Or.inl ⟨r, hr, h, hrow⟩
    · rw [if_neg h] at hrow
      exact Or.inr (hrow ▸ ⟨hr, h⟩)
  · rintro (⟨r, hr, hk, hrow⟩ | ⟨hrow, hk⟩)
    · exact ⟨r, hr, by rw [if_pos hk]; exact hrow⟩
    · exact ⟨row, hrow, by rw [if_neg hk]⟩

/-! ## Upserts -/

/-- With unique keys an update is the upsert of the updated row. -/
theorem updateRow_eq_upsert {key : α → κ} {rows : List α} (hkeys : (rows.map key).Nodup)
    {f : α → α} {row : α} (hrow : row ∈ rows) (hf : key (f row) = key row) :
    updateRow key (key row) f rows = upsert key (f row) rows := by
  rw [upsert, hf, if_pos (List.mem_map_of_mem hrow)]
  apply List.map_congr_left
  intro r hr
  by_cases h : key r = key row
  · rw [if_pos h, if_pos h, eq_of_key_eq hkeys hr hrow h]
  · rw [if_neg h, if_neg h]

@[simp] theorem upsert_of_notMem {key : α → κ} {row : α} {rows : List α}
    (h : key row ∉ rows.map key) :
    upsert key row rows = rows ++ [row] :=
  if_neg h

@[simp] theorem mem_upsert {key : α → κ} {row r : α} {rows : List α} :
    r ∈ upsert key row rows ↔ r = row ∨ (r ∈ rows ∧ key r ≠ key row) := by
  unfold upsert
  split
  · next hmem =>
      obtain ⟨old, hold, hkey⟩ := List.mem_map.mp hmem
      rw [mem_updateRow]
      constructor
      · rintro (⟨-, -, -, rfl⟩ | hother)
        · exact Or.inl rfl
        · exact Or.inr hother
      · rintro (rfl | hother)
        · exact Or.inl ⟨old, hold, hkey, rfl⟩
        · exact Or.inr hother
  · next hnot =>
      rw [List.mem_append, List.mem_singleton, or_comm]
      refine or_congr_right ⟨fun hr => ⟨hr, ?_⟩, And.left⟩
      exact fun heq => hnot (heq ▸ List.mem_map_of_mem hr)

@[simp] theorem map_key_upsert_of_mem {key : α → κ} {row : α} {rows : List α}
    (h : key row ∈ rows.map key) : (upsert key row rows).map key = rows.map key := by
  rw [upsert, if_pos h, updateRow, List.map_map]
  apply List.map_congr_left
  intro r _
  by_cases hr : key r = key row
  · simp [hr]
  · simp [hr]

theorem map_key_upsert_of_notMem {key : α → κ} {row : α} {rows : List α}
    (h : key row ∉ rows.map key) :
    (upsert key row rows).map key = rows.map key ++ [key row] := by
  rw [upsert, if_neg h, List.map_append, List.map_singleton]

@[simp] theorem mem_map_key_upsert {key : α → κ} {row : α} {rows : List α} {k : κ} :
    k ∈ (upsert key row rows).map key ↔ k = key row ∨ k ∈ rows.map key := by
  by_cases h : key row ∈ rows.map key
  · rw [map_key_upsert_of_mem h]
    refine ⟨Or.inr, ?_⟩
    rintro (rfl | hk)
    · exact h
    · exact hk
  · rw [map_key_upsert_of_notMem h, List.mem_append, List.mem_singleton, or_comm]

theorem nodup_map_key_upsert {key : α → κ} {row : α} {rows : List α}
    (hkeys : (rows.map key).Nodup) : ((upsert key row rows).map key).Nodup := by
  by_cases h : key row ∈ rows.map key
  · rw [map_key_upsert_of_mem h]
    exact hkeys
  · rw [map_key_upsert_of_notMem h, List.nodup_append]
    refine ⟨hkeys, List.nodup_singleton _, ?_⟩
    rintro a ha b hb rfl
    exact h (List.mem_singleton.mp hb ▸ ha)

/-- The later of two upserts under one key prevails. -/
theorem upsert_upsert {key : α → κ} {row row' : α} (h : key row' = key row) (rows : List α) :
    upsert key row' (upsert key row rows) = upsert key row' rows := by
  have hmem : key row' ∈ (upsert key row rows).map key :=
    mem_map_key_upsert.mpr (Or.inl h)
  rw [upsert, if_pos hmem, h, upsert, upsert, h]
  split
  · rw [updateRow, updateRow, updateRow, List.map_map]
    apply List.map_congr_left
    intro r _
    by_cases hr : key r = key row
    · simp [hr]
    · simp [hr]
  · next hnot =>
      have hrows := updateRow_of_notMem hnot fun _ => row'
      rw [updateRow] at hrows
      rw [updateRow, List.map_append, hrows]
      simp

/-- Putting in a row that is there already changes nothing. -/
theorem upsert_eq_self {key : α → κ} {row : α} {rows : List α} (hkeys : (rows.map key).Nodup)
    (hrow : row ∈ rows) : upsert key row rows = rows := by
  rw [upsert, if_pos (List.mem_map_of_mem hrow)]
  refine updateRow_eq_self fun r hr heq => ?_
  exact (eq_of_key_eq hkeys hr hrow heq).symm

/-- The place of the row with the key. -/
theorem upsert_append_cons {key : α → κ} {row old : α} {before after : List α}
    (hkeys : ((before ++ old :: after).map key).Nodup) (h : key row = key old) :
    upsert key row (before ++ old :: after) = before ++ row :: after := by
  have hmem : key row ∈ (before ++ old :: after).map key := by simp [h]
  rw [List.map_append, List.map_cons, List.nodup_append] at hkeys
  obtain ⟨-, hafter, hdisjoint⟩ := hkeys
  have hnotBefore : key row ∉ before.map key := by
    intro hin
    exact hdisjoint _ hin (key old) (by simp) h
  have hnotAfter : key row ∉ after.map key := h ▸ (List.nodup_cons.mp hafter).1
  have hbefore := updateRow_of_notMem hnotBefore fun _ => row
  have hafter := updateRow_of_notMem hnotAfter fun _ => row
  rw [updateRow] at hbefore hafter
  rw [upsert, if_pos hmem, updateRow, List.map_append, List.map_cons, if_pos h.symm, hbefore,
    hafter]

/-! ## The first row by a column, largest first -/

variable {γ : Type*} [LE γ] [DecidableLE γ]

@[simp] theorem maxOn?_eq_none_iff {f : α → γ} {rows : List α} :
    rows.maxOn? f = none ↔ rows = [] := by
  rw [← Option.not_isSome_iff_eq_none, List.isSome_maxOn?_iff, not_ne_iff]

variable [Std.IsLinearPreorder γ]

theorem le_of_maxOn?_eq_some {f : α → γ} {rows : List α} {best r : α}
    (h : rows.maxOn? f = some best) (hr : r ∈ rows) : f r ≤ f best := by
  have hle := List.le_apply_get_maxOn?_of_mem (f := f) hr
  simpa [h] using hle

theorem maxOn?_cons_self_iff {f : α → γ} {row : α} {after : List α} :
    (row :: after).maxOn? f = some row ↔ ∀ r ∈ after, f r ≤ f row := by
  rw [List.maxOn?_cons]
  cases hbest : after.maxOn? f with
  | none =>
      obtain rfl := maxOn?_eq_none_iff.mp hbest
      simp
  | some best =>
      have hmem : best ∈ after := List.maxOn?_mem hbest
      rw [Option.elim_some, maxOn_eq_if]
      by_cases hle : f best ≤ f row
      · have hall : ∀ r ∈ after, f r ≤ f row := fun r hr =>
          Std.le_trans (le_of_maxOn?_eq_some hbest hr) hle
        simpa [hle] using hall
      · have hne : best ≠ row := by
          rintro rfl
          exact hle (Std.le_refl _)
        have hnot : ¬ ∀ r ∈ after, f r ≤ f row := fun h => hle (h best hmem)
        simp [hle, hne, hnot]

/-- A row is the first of the rows with the largest value when those before it
are smaller and those after it are not larger. -/
theorem maxOn?_append_cons_iff {f : α → γ} {before after : List α} {row : α}
    (hrow : row ∉ before) :
    (before ++ row :: after).maxOn? f = some row ↔
      (∀ r ∈ before, ¬ f row ≤ f r) ∧ ∀ r ∈ after, f r ≤ f row := by
  induction before with
  | nil => simp [maxOn?_cons_self_iff]
  | cons b before ih =>
      obtain ⟨hb, hbefore⟩ : row ≠ b ∧ row ∉ before := by simpa using hrow
      rw [List.cons_append, List.maxOn?_cons, List.forall_mem_cons, and_assoc, ← ih hbefore]
      cases hbest : (before ++ row :: after).maxOn? f with
      | none => simp at hbest
      | some best =>
          rw [Option.elim_some, maxOn_eq_if]
          -- on a tie the row in front is kept
          by_cases hle : f best ≤ f b
          · simp only [hle, if_true, Option.some.injEq]
            constructor
            · exact fun h => absurd h.symm hb
            · rintro ⟨hbrow, rfl⟩
              exact absurd hle hbrow
          · simp only [hle, if_false, Option.some.injEq]
            constructor
            · rintro rfl
              exact ⟨hle, rfl⟩
            · exact fun h => h.2

end Table
end Library
end LanDiscovery

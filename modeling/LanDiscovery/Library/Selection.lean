import Mathlib.Data.List.Perm.Basic
import Mathlib.Data.List.Sort
import Mathlib.Tactic.Common

/-!
# Ordered selections

`SELECT … ORDER BY key DESC LIMIT n`.  Rows with one key may come in any order, so an
`OrderByDesc` is any function that orders rows in this way.
-/

namespace LanDiscovery
namespace Library

/-- A way to put rows into descending order of a key. -/
structure OrderByDesc {α : Type*} (key : α → Int) where
  run : List α → List α
  perm : ∀ rows, (run rows).Perm rows
  sorted : ∀ rows, (run rows).Pairwise fun a b => key b ≤ key a

namespace OrderByDesc

variable {α : Type*} {key : α → Int}

/-- Rows with one key stay in the order of the table. -/
def stable (key : α → Int) : OrderByDesc key where
  run rows := rows.insertionSort fun a b => key b ≤ key a
  perm rows := List.perm_insertionSort _ rows
  sorted rows := by
    have htotal : Std.Total fun a b => key b ≤ key a :=
      ⟨fun a b => Int.le_total (key b) (key a)⟩
    have htrans : IsTrans α fun a b => key b ≤ key a :=
      ⟨fun a b c hab hbc => Int.le_trans hbc hab⟩
    exact List.pairwise_insertionSort _ rows

variable (order : OrderByDesc key)

/-- The first `n` rows. -/
def limit (n : Nat) (rows : List α) : List α :=
  (order.run rows).take n

theorem mem_run {rows : List α} {row : α} : row ∈ order.run rows ↔ row ∈ rows :=
  (order.perm rows).mem_iff

theorem mem_of_mem_limit {n : Nat} {rows : List α} {row : α} (h : row ∈ order.limit n rows) :
    row ∈ rows :=
  order.mem_run.mp (List.mem_of_mem_take h)

theorem length_limit (n : Nat) (rows : List α) :
    (order.limit n rows).length = min n rows.length := by
  rw [limit, List.length_take, (order.perm rows).length_eq]

theorem pairwise_limit (n : Nat) (rows : List α) :
    (order.limit n rows).Pairwise fun a b => key b ≤ key a :=
  (order.sorted rows).take

/-- A row that is not on the page comes after all rows that are. -/
theorem le_of_notMem_limit {n : Nat} {rows : List α} {row shown : α} (hrow : row ∈ rows)
    (hnot : row ∉ order.limit n rows) (hshown : shown ∈ order.limit n rows) :
    key row ≤ key shown := by
  have hmem : row ∈ (order.run rows).take n ++ (order.run rows).drop n := by
    rw [List.take_append_drop]
    exact order.mem_run.mpr hrow
  have hlater := (List.mem_append.mp hmem).resolve_left hnot
  have hsorted := order.sorted rows
  rw [← List.take_append_drop n (order.run rows), List.pairwise_append] at hsorted
  exact hsorted.2.2 shown hshown row hlater

/-- A page with room left has every row. -/
theorem mem_limit_of_length_lt {n : Nat} {rows : List α} {row : α} (hrow : row ∈ rows)
    (hroom : (order.limit n rows).length < n) : row ∈ order.limit n rows := by
  rw [length_limit] at hroom
  have hle : (order.run rows).length ≤ n := by
    rw [(order.perm rows).length_eq]
    omega
  rw [limit, List.take_of_length_le hle]
  exact order.mem_run.mpr hrow

end OrderByDesc
end Library
end LanDiscovery

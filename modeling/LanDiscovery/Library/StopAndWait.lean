import LanDiscovery.Library.FirstSeen
import Mathlib.Data.List.Range
import Mathlib.Tactic.Common

/-!
# Stop and wait

A sender numbers its messages, sends one until it hears that it has arrived, and only then
goes on to the next one.  What it has given up for lost may still arrive at any time, so
arrivals are neither unique nor in order; but their first occurrences are.
-/

namespace LanDiscovery
namespace Library
namespace StopAndWait

open FirstSeen

/-- The numbers that have arrived when the sender knows of so many arrivals: each of these
and perhaps the next one, first in their order. -/
def Arrivals (acknowledged : Nat) (arrived : List Nat) : Prop :=
  ∃ m, acknowledged ≤ m ∧ m ≤ acknowledged + 1 ∧ (scan id ∅ arrived).1 = List.range m

section

variable {n m p : Nat} {arrived : List Nat}

theorem arrivals_nil : Arrivals 0 [] :=
  ⟨0, le_rfl, Nat.zero_le _, rfl⟩

theorem mem_iff_lt (h : (scan id ∅ arrived).1 = List.range m) : p ∈ arrived ↔ p < m := by
  rw [← List.mem_range, ← h]
  constructor
  · intro hp
    obtain ⟨q, hq, hkey⟩ := exists_mem_scan id hp (Finset.notMem_empty _)
    obtain rfl : q = p := hkey
    exact hq
  · intro hp
    exact (scan_sublist id ∅ arrived).subset hp

/-- An arrival whose number is not beyond the message that is being sent. -/
theorem Arrivals.arrive (h : Arrivals n arrived) (hp : p ≤ n) : Arrivals n (arrived ++ [p]) := by
  obtain ⟨m, hge, hle, hfirsts⟩ := h
  have hscan := scan_append_toList id ∅ arrived (some p)
  by_cases hseen : p ∈ arrived
  · have hmem : p ∈ (scan id ∅ arrived).2 := mem_scan_snd.mpr (.inr ⟨p, hseen, rfl⟩)
    refine ⟨m, hge, hle, ?_⟩
    simpa [hmem, hfirsts] using hscan
  · have hnot : p ∉ (scan id ∅ arrived).2 := by
      rw [mem_scan_snd]
      simpa using hseen
    have hlt := (mem_iff_lt hfirsts).not.mp hseen
    obtain rfl : m = p := by omega
    refine ⟨m + 1, by omega, by omega, ?_⟩
    rw [List.range_succ, ← hfirsts]
    simpa [hnot] using hscan

/-- The sender hears of an arrival. -/
theorem Arrivals.acknowledge (h : Arrivals n arrived) (hmem : n ∈ arrived) :
    Arrivals (n + 1) arrived := by
  obtain ⟨m, hge, hle, hfirsts⟩ := h
  have hlt := (mem_iff_lt hfirsts).mp hmem
  exact ⟨m, by omega, by omega, hfirsts⟩

end

/-- **First arrivals are the messages in their order**, as far as the sender knows of them
or one further. -/
theorem Arrivals.firsts_eq_take {α : Type*} {n : Nat} {arrived : List (Nat × α)}
    {messages : List α} (h : Arrivals n (arrived.map Prod.fst))
    (hmessages : ∀ x ∈ arrived, messages[x.1]? = some x.2) :
    ∃ m, n ≤ m ∧ m ≤ n + 1 ∧ (scan Prod.fst ∅ arrived).1.map Prod.snd = messages.take m := by
  obtain ⟨m, hge, hle, hfirsts⟩ := h
  refine ⟨m, hge, hle, ?_⟩
  rw [scan_map] at hfirsts
  change (scan Prod.fst ∅ arrived).1.map Prod.fst = List.range m at hfirsts
  have hkept : ∀ x ∈ (scan Prod.fst ∅ arrived).1, messages[x.1]? = some x.2 := by
    intro x hx
    exact hmessages x ((scan_sublist Prod.fst ∅ arrived).subset hx)
  generalize (scan Prod.fst ∅ arrived).1 = kept at hfirsts hkept
  have hlength : kept.length = m := by
    rw [← List.length_map, hfirsts, List.length_range]
  apply List.ext_getElem?
  intro k
  rw [List.getElem?_map, List.getElem?_take]
  split
  · next hlt =>
      rw [← hlength] at hlt
      have hnumber : kept[k].1 = k := by
        have hboth := congrArg (fun numbers => numbers[k]?) hfirsts
        simpa [List.getElem?_map, List.getElem?_range (hlength ▸ hlt), hlt] using hboth
      have hmessage := hkept kept[k] (List.getElem_mem hlt)
      rw [hnumber] at hmessage
      rw [hmessage, List.getElem?_eq_getElem hlt, Option.map_some]
  · next hge =>
      rw [List.getElem?_eq_none (by omega), Option.map_none]

end StopAndWait
end Library
end LanDiscovery

import Mathlib.Data.List.Basic
import Mathlib.Data.List.Forall2
import Mathlib.Tactic.Common

/-!
# Reading programs

A program that looks at a state again and again while others may change it.  What it does
next may depend on all that it has seen.  `run` is its answer when its looks see the
listed states, one each.
-/

namespace LanDiscovery
namespace Library

/-- A program that has its answer, or looks at the state and goes on. -/
inductive Reading (σ ω : Type) where
  | answer (result : ω)
  | look (next : σ → Reading σ ω)

namespace Reading

variable {σ ω α β : Type}

/-- The answer of a program whose looks see `seen`, and all of it. -/
def run : Reading σ ω → List σ → Option ω
  | .answer result, [] => some result
  | .look next, s :: seen => (next s).run seen
  | .answer _, _ :: _ => none
  | .look _, [] => none

/-- One look. -/
def read (f : σ → ω) : Reading σ ω :=
  .look fun s => .answer (f s)

/-- A program, and then another one. -/
def andThen : Reading σ α → (α → Reading σ β) → Reading σ β
  | .answer a, k => k a
  | .look next, k => .look fun s => (next s).andThen k

/-- The answers of programs that run one after the other. -/
def all : List (Reading σ α) → Reading σ (List α)
  | [] => .answer []
  | p :: ps => p.andThen fun a => (all ps).andThen fun as => .answer (a :: as)

theorem run_answer_eq_some {result r : ω} {seen : List σ} :
    (answer result).run seen = some r ↔ seen = [] ∧ result = r := by
  cases seen <;> simp [run]

theorem run_look_eq_some {next : σ → Reading σ ω} {r : ω} {seen : List σ} :
    (look next).run seen = some r ↔ ∃ s rest, seen = s :: rest ∧ (next s).run rest = some r := by
  cases seen with
  | nil => simp [run]
  | cons s rest => simp [run]

theorem run_read_eq_some {f : σ → ω} {r : ω} {seen : List σ} :
    (read f).run seen = some r ↔ ∃ s, seen = [s] ∧ f s = r := by
  simp only [read, run_look_eq_some, run_answer_eq_some]
  constructor
  · intro ⟨s, rest, hseen, hrest, hr⟩
    exact ⟨s, by rw [hseen, hrest], hr⟩
  · intro ⟨s, hseen, hr⟩
    exact ⟨s, [], hseen, rfl, hr⟩

/-- Every program has an answer if it is shown enough. -/
theorem exists_run (s : σ) (p : Reading σ ω) : ∃ seen result, p.run seen = some result := by
  induction p with
  | answer result => exact ⟨[], result, rfl⟩
  | look next ih =>
      obtain ⟨seen, result, hrun⟩ := ih s
      exact ⟨s :: seen, result, hrun⟩

theorem run_andThen_eq_some {p : Reading σ α} {k : α → Reading σ β} {b : β} {seen : List σ} :
    (p.andThen k).run seen = some b ↔
      ∃ before after a, seen = before ++ after ∧ p.run before = some a ∧
        (k a).run after = some b := by
  induction p generalizing seen with
  | answer a =>
      constructor
      · intro h
        exact ⟨[], seen, a, rfl, rfl, h⟩
      · intro ⟨before, after, a', hseen, hbefore, hafter⟩
        obtain ⟨rfl, rfl⟩ := run_answer_eq_some.mp hbefore
        rw [hseen]
        exact hafter
  | look next ih =>
      rw [andThen, run_look_eq_some]
      constructor
      · intro ⟨s, rest, hseen, hrest⟩
        obtain ⟨before, after, a, rfl, hbefore, hafter⟩ := (ih s).mp hrest
        exact ⟨s :: before, after, a, hseen, hbefore, hafter⟩
      · intro ⟨before, after, a, hseen, hbefore, hafter⟩
        obtain ⟨s, rest, rfl, hrest⟩ := run_look_eq_some.mp hbefore
        exact ⟨s, rest ++ after, hseen, (ih s).mpr ⟨rest, after, a, rfl, hrest, hafter⟩⟩

/-- **Answers of a list of programs.**  Each comes from looks at some of the states. -/
theorem run_all_eq_some {ps : List (Reading σ α)} {answers : List α} {seen : List σ}
    (h : (all ps).run seen = some answers) :
    List.Forall₂ (fun p a => ∃ part : List σ, part ⊆ seen ∧ p.run part = some a) ps answers := by
  induction ps generalizing answers seen with
  | nil =>
      obtain ⟨-, rfl⟩ := run_answer_eq_some.mp h
      exact .nil
  | cons p ps ih =>
      obtain ⟨before, after, a, rfl, hhead, hrest⟩ := run_andThen_eq_some.mp h
      obtain ⟨tail, last, as, rfl, htail, hlast⟩ := run_andThen_eq_some.mp hrest
      obtain ⟨rfl, rfl⟩ := run_answer_eq_some.mp hlast
      refine .cons ⟨before, List.subset_append_left _ _, hhead⟩ ((ih htail).imp ?_)
      intro q b ⟨part, hpart, hq⟩
      refine ⟨part, fun s hs => List.mem_append_right _ ?_, hq⟩
      simpa using hpart hs

end Reading
end Library
end LanDiscovery

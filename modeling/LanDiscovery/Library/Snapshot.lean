import Mathlib.Data.List.Basic
import Mathlib.Logic.Function.Basic
import Mathlib.Tactic.Common

/-!
# Snapshots

A store with many sessions.  A session that begins to read keeps the state that is
persisted then.  One session at a time may write, and only if its snapshot is still the
persisted state; what it commits is persisted next.  So no commit overwrites another one
unseen (`Store.Coherent`).
-/

namespace LanDiscovery
namespace Library
namespace Snapshot

/-- A store: the persisted state and the earlier ones, the snapshots of the sessions, each
with its place among the states, and the session that may write. -/
structure Store (ι σ : Type) where
  past : List σ
  persisted : σ
  snapshot : ι → Option (Nat × σ)
  writer : Option ι

/-- A store without sessions. -/
def Store.opened {ι σ : Type} (s : σ) : Store ι σ where
  past := []
  persisted := s
  snapshot := fun _ => none
  writer := none

inductive Event (ι σ : Type) where
  /-- the first statement of a transaction -/
  | begin (i : ι)
  /-- its first statement that writes -/
  | lock (i : ι)
  | commit (i : ι) (s : σ)
  /-- a transaction without writes, or a rollback -/
  | close (i : ι)

namespace Store

variable {ι σ : Type} {store t : Store ι σ} {i : ι}

/-- The number of commits. -/
def version (store : Store ι σ) : Nat := store.past.length

/-- All states that have been persisted. -/
def states (store : Store ι σ) : List σ := store.past ++ [store.persisted]

@[simp] theorem getElem?_version (store : Store ι σ) :
    store.states[store.version]? = some store.persisted := by
  simp [states, version]

/-- Each snapshot is one of the states, and the writer's is the last one. -/
structure Coherent (store : Store ι σ) : Prop where
  taken : ∀ i n s, store.snapshot i = some (n, s) → store.states[n]? = some s
  current : ∀ i, store.writer = some i →
    store.snapshot i = some (store.version, store.persisted)

theorem coherent_opened (s : σ) : (Store.opened s : Store ι σ).Coherent where
  taken := by
    intro i n t h
    exact absurd h (by simp [Store.opened])
  current := by
    intro i h
    exact absurd h (by simp [Store.opened])

/-- What is committed was made from the last state. -/
theorem Coherent.eq_persisted (h : store.Coherent) {n : Nat} {s : σ}
    (hwriter : store.writer = some i) (hi : store.snapshot i = some (n, s)) :
    n = store.version ∧ s = store.persisted := by
  have hcurrent := h.current i hwriter
  rw [hi] at hcurrent
  exact Prod.mk.inj (Option.some.inj hcurrent)

variable [DecidableEq ι]

/-- What a session ends with. -/
def dropped (store : Store ι σ) (i : ι) : Store ι σ :=
  { store with
    snapshot := Function.update store.snapshot i none
    writer := if store.writer = some i then none else store.writer }

/-- One event, if it is possible. -/
def next (store : Store ι σ) : Event ι σ → Option (Store ι σ)
  | .begin i =>
      match store.snapshot i with
      | some _ => none
      | none =>
          some { store with
            snapshot := Function.update store.snapshot i
              (some (store.version, store.persisted)) }
  | .lock i =>
      match store.snapshot i, store.writer with
      | some (taken, _), none =>
          if taken = store.version then some { store with writer := some i } else none
      | _, _ => none
  | .commit i s =>
      if store.writer = some i then
        some { store.dropped i with past := store.states, persisted := s }
      else none
  | .close i => some (store.dropped i)

@[simp]
theorem states_dropped (store : Store ι σ) (i : ι) : (store.dropped i).states = store.states :=
  rfl

theorem Coherent.dropped (h : store.Coherent) (i : ι) : (store.dropped i).Coherent where
  taken := by
    intro j n s hj
    by_cases hij : j = i
    · subst hij
      exact absurd hj (by simp [Store.dropped])
    · exact h.taken j n s (by simpa [Store.dropped, Function.update_of_ne hij] using hj)
  current := by
    intro j hj
    by_cases hi : store.writer = some i
    · simp [Store.dropped, hi] at hj
    · have hwriter : store.writer = some j := by simpa [Store.dropped, hi] using hj
      have hij : j ≠ i := by
        intro hij
        exact hi (hij ▸ hwriter)
      show Function.update store.snapshot i none j = _
      rw [Function.update_of_ne hij]
      exact h.current j hwriter

theorem begin_eq_some (hnext : store.next (.begin i) = some t) :
    store.snapshot i = none ∧
      t = { store with
        snapshot := Function.update store.snapshot i (some (store.version, store.persisted)) } := by
  cases hi : store.snapshot i with
  | some taken => simp [next, hi] at hnext
  | none => exact ⟨rfl, by simpa [next, hi] using hnext.symm⟩

theorem lock_eq_some (hnext : store.next (.lock i) = some t) :
    ∃ s, store.snapshot i = some (store.version, s) ∧ store.writer = none ∧
      t = { store with writer := some i } := by
  cases hi : store.snapshot i with
  | none => simp [next, hi] at hnext
  | some entry =>
      obtain ⟨taken, s⟩ := entry
      cases hwriter : store.writer with
      | some j => simp [next, hi, hwriter] at hnext
      | none =>
          simp only [next, hi, hwriter] at hnext
          split at hnext
          · next htaken => exact ⟨s, by rw [htaken], rfl, (Option.some.inj hnext).symm⟩
          · exact absurd hnext (by simp)

theorem commit_eq_some {s : σ} (hnext : store.next (.commit i s) = some t) :
    store.writer = some i ∧
      t = { store.dropped i with past := store.states, persisted := s } := by
  simp only [next] at hnext
  split at hnext
  · next hwriter => exact ⟨hwriter, (Option.some.inj hnext).symm⟩
  · exact absurd hnext (by simp)

/-- **Every event keeps the store coherent.** -/
theorem Coherent.next (h : store.Coherent) {event : Event ι σ}
    (hnext : store.next event = some t) : t.Coherent := by
  cases event with
  | begin i =>
      obtain ⟨hi, rfl⟩ := begin_eq_some hnext
      refine ⟨?_, ?_⟩
      · intro j n s hj
        by_cases hij : j = i
        · subst hij
          obtain ⟨rfl, rfl⟩ : store.version = n ∧ store.persisted = s := by simpa using hj
          exact store.getElem?_version
        · exact h.taken j n s (by simpa [Function.update_of_ne hij] using hj)
      · -- the writer has a snapshot, so it is not the one that begins
        intro j hj
        have hcurrent := h.current j hj
        have hij : j ≠ i := by
          intro hij
          rw [hij, hi] at hcurrent
          exact absurd hcurrent (by simp)
        show Function.update store.snapshot i _ j = _
        rw [Function.update_of_ne hij]
        exact hcurrent
  | lock i =>
      obtain ⟨s, hi, -, rfl⟩ := lock_eq_some hnext
      refine ⟨h.taken, ?_⟩
      intro j hj
      obtain rfl : i = j := Option.some.inj hj
      have hs := h.taken i _ s hi
      rw [getElem?_version] at hs
      show store.snapshot i = some (store.version, store.persisted)
      rw [hi, Option.some.inj hs]
  | commit i s =>
      obtain ⟨hwriter, rfl⟩ := commit_eq_some hnext
      have hdropped := h.dropped i
      refine ⟨?_, ?_⟩
      · -- the versions that were are where they were
        intro j n u hj
        have hold := hdropped.taken j n u hj
        rw [states_dropped] at hold
        show (store.states ++ [s])[n]? = some u
        obtain ⟨hlt, -⟩ := List.getElem?_eq_some_iff.mp hold
        rw [List.getElem?_append_left hlt]
        exact hold
      · intro j hj
        exact absurd hj (by simp [Store.dropped, hwriter])
  | close i =>
      obtain rfl : store.dropped i = t := Option.some.inj hnext
      exact h.dropped i

end Store

end Snapshot
end Library
end LanDiscovery

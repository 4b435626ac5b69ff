import Mathlib.Data.List.Basic
import Mathlib.Tactic.Common

/-!
# Rules for computations that may fail

Fallible code is modelled in `Except ε`.  This file has the two views of such a
computation that the development uses:

* the *inversion* view: a sequence succeeds exactly when its parts do
  (`bind_eq_ok_iff`), which turns a parser into the relation it decides;
* the *failure* view: `FailsOnly P x` says that `x` can only fail with an error
  that satisfies `P`.  It is closed under sequencing, so the claim "no other
  error is possible" is proved one primitive at a time.

Counted loops over a moving cursor (`readMany`) and the layout they recognise
(`BackToBack`) are here as well, for an arbitrary item reader.
-/

namespace LanDiscovery
namespace Library
namespace Outcome

variable {ε α β : Type}

@[simp] theorem ok_bind (a : α) (f : α → Except ε β) :
    ((Except.ok a : Except ε α) >>= f) = f a := rfl

@[simp] theorem error_bind (e : ε) (f : α → Except ε β) :
    ((Except.error e : Except ε α) >>= f) = .error e := rfl

@[simp] theorem pure_eq_ok (a : α) : (pure a : Except ε α) = .ok a := rfl

@[simp] theorem throw_eq_error (e : ε) : (throw e : Except ε α) = .error e := rfl

/-- A sequence succeeds exactly when its first part does and the rest then
succeeds on that part's value. -/
@[simp] theorem bind_eq_ok_iff {x : Except ε α} {f : α → Except ε β} {b : β} :
    (x >>= f) = .ok b ↔ ∃ a, x = .ok a ∧ f a = .ok b := by
  cases x with
  | error e => simp
  | ok a => simp

/-- A guard succeeds exactly when its condition is false. -/
theorem guard_eq_ok_iff {c : Prop} [Decidable c] {e : ε} {x : Except ε α} {a : α} :
    (if c then Except.error e else x) = .ok a ↔ ¬ c ∧ x = .ok a := by
  by_cases hc : c <;> simp [hc]

/-- Every error the computation can end in satisfies `P`. -/
def FailsOnly (P : ε → Prop) (x : Except ε α) : Prop :=
  ∀ e, x = .error e → P e

theorem FailsOnly.ok {P : ε → Prop} (a : α) : FailsOnly P (.ok a : Except ε α) := by
  intro e h
  exact absurd h (by simp)

theorem FailsOnly.error {P : ε → Prop} {e : ε} (he : P e) :
    FailsOnly P (.error e : Except ε α) := by
  intro e' h
  obtain rfl : e = e' := Except.error.inj h
  exact he

/-- The sequencing rule: the rest may use that the first part succeeded. -/
theorem FailsOnly.bind {P : ε → Prop} {x : Except ε α} {f : α → Except ε β}
    (hx : FailsOnly P x) (hf : ∀ a, x = .ok a → FailsOnly P (f a)) :
    FailsOnly P (x >>= f) := by
  cases x with
  | error e => exact FailsOnly.error (hx e rfl)
  | ok a => exact hf a rfl

/-- The loop rule: a loop fails only as its body does. -/
theorem FailsOnly.foldlM {P : ε → Prop} {f : β → α → Except ε β} (hf : ∀ b a, FailsOnly P (f b a))
    (as : List α) (b : β) : FailsOnly P (as.foldlM f b) := by
  induction as generalizing b with
  | nil => exact FailsOnly.ok b
  | cons a as ih =>
      rw [List.foldlM_cons]
      exact (hf b a).bind fun b' _ => ih b'

/-- A computation that can fail with no error at all returns a value. -/
theorem exists_ok_of_failsOnly_false {x : Except ε α} (hx : FailsOnly (fun _ => False) x) :
    ∃ a, x = .ok a := by
  cases x with
  | error e => exact (hx e rfl).elim
  | ok a => exact ⟨a, rfl⟩

/-! ## Counted loops over a cursor -/

/-- Read `count` items one after the other; the cursor moves with every item. -/
def readMany (read : Nat → Except ε (α × Nat)) : Nat → Nat → Except ε (List α × Nat)
  | 0, cursor => pure ([], cursor)
  | count + 1, cursor => do
      let (item, cursor) ← read cursor
      let (items, cursor) ← readMany read count cursor
      return (item :: items, cursor)

/-- Items laid out back to back: each one starts where the previous one ended. -/
inductive BackToBack (item : Nat → α → Nat → Prop) : Nat → List α → Nat → Prop
  | nil (start : Nat) : BackToBack item start [] start
  | cons {start middle stop : Nat} {a : α} {items : List α}
      (head : item start a middle) (tail : BackToBack item middle items stop) :
      BackToBack item start (a :: items) stop

/-- Each of the items has its place. -/
theorem BackToBack.exists_of_mem {item : Nat → α → Nat → Prop} {start stop : Nat} {items : List α}
    (h : BackToBack item start items stop) {a : α} (ha : a ∈ items) : ∃ i j, item i a j := by
  induction h with
  | nil => simp at ha
  | cons head tail ih =>
      rcases List.mem_cons.mp ha with rfl | hrest
      · exact ⟨_, _, head⟩
      · exact ih hrest

/-- The loop succeeds exactly on `count` items laid out back to back. -/
theorem readMany_eq_ok_iff {read : Nat → Except ε (α × Nat)} {item : Nat → α → Nat → Prop}
    (hread : ∀ start a stop, read start = .ok (a, stop) ↔ item start a stop)
    (count start stop : Nat) (items : List α) :
    readMany read count start = .ok (items, stop) ↔
      items.length = count ∧ BackToBack item start items stop := by
  -- one item and the items behind it, from where it ended
  induction count generalizing start items with
  | zero =>
      constructor
      · intro h
        obtain ⟨rfl, rfl⟩ : [] = items ∧ start = stop := by simpa [readMany] using h
        exact ⟨rfl, .nil start⟩
      · rintro ⟨hlen, hitems⟩
        obtain rfl := List.length_eq_zero_iff.mp hlen
        cases hitems
        rfl
  | succ count ih =>
      constructor
      · intro h
        obtain ⟨⟨a, middle⟩, hhead, hrest⟩ := bind_eq_ok_iff.mp h
        obtain ⟨⟨tail, stop'⟩, htail, hout⟩ := bind_eq_ok_iff.mp hrest
        obtain ⟨rfl, rfl⟩ : a :: tail = items ∧ stop' = stop := by simpa using hout
        obtain ⟨hlen, hchain⟩ := (ih middle tail).mp htail
        exact ⟨by simp [hlen], .cons ((hread _ _ _).mp hhead) hchain⟩
      · rintro ⟨hlen, hitems⟩
        cases hitems with
        | nil => simp at hlen
        | cons head tail =>
            have hhead := (hread _ _ _).mpr head
            have htail := (ih _ _).mpr ⟨by simpa using hlen, tail⟩
            simp [readMany, hhead, htail]

/-- The loop fails only as its item reader does. -/
theorem readMany_failsOnly {P : ε → Prop} {read : Nat → Except ε (α × Nat)}
    (hread : ∀ start, FailsOnly P (read start)) (count start : Nat) :
    FailsOnly P (readMany read count start) := by
  induction count generalizing start with
  | zero => exact FailsOnly.ok _
  | succ count ih =>
      refine (hread start).bind fun p _ => ?_
      exact (ih p.2).bind fun q _ => FailsOnly.ok _

end Outcome
end Library
end LanDiscovery

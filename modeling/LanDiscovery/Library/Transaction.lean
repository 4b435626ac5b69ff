import Mathlib.Tactic.Common

/-!
# Transactions

A program that talks to a database over a connection.  The statements of an open
transaction work on a copy, which a commit makes the persisted database; a rollback
drops the copy, and so does closing the connection.  Any statement may be interrupted by
an exception, which leaves the transaction in any state.

`Follows` says that a program computes what a function on databases computes, as long
as it is not interrupted, and that it leaves the persisted database alone.  A
transaction around such a program is all or nothing (`Follows.ok_transaction`,
`Follows.error_transaction`).
-/

namespace LanDiscovery
namespace Library
namespace Transaction

/-- A connection: what is persisted, the copy of an open transaction, and the number of
statements so far. -/
structure Session (δ : Type) where
  persisted : δ
  working : Option δ
  executed : Nat

/-- A connection when it is opened. -/
def Session.opened {δ : Type} (db : δ) : Session δ where
  persisted := db
  working := none
  executed := 0

/-- An interruption: the exception, and what it leaves of the transaction. -/
structure Fault (δ ε : Type) where
  exception : ε
  working : Option δ

/-- The interruptions, by the numbers of the statements that they hit. -/
abbrev Plan (δ ε : Type) := Nat → Option (Fault δ ε)

/-- A program on a connection. -/
def Conn (δ ε α : Type) := Plan δ ε → Session δ → Except ε α × Session δ

namespace Conn

variable {δ ε α β : Type}

instance : Monad (Conn δ ε) where
  pure a := fun _ s => (.ok a, s)
  bind m k := fun plan s =>
    match m plan s with
    | (.ok a, t) => k a plan t
    | (.error e, t) => (.error e, t)

instance : MonadExceptOf ε (Conn δ ε) where
  throw e := fun _ s => (.error e, s)
  tryCatch m handler := fun plan s =>
    match m plan s with
    | (.ok a, t) => (.ok a, t)
    | (.error e, t) => handler e plan t

/-- A statement is interrupted, or it runs. -/
def statement (run : Session δ → Except ε α × Session δ) : Conn δ ε α := fun plan s =>
  match plan s.executed with
  | some fault =>
      (.error fault.exception, { s with working := fault.working, executed := s.executed + 1 })
  | none => run { s with executed := s.executed + 1 }

/-- `BEGIN`, which fails inside of a transaction. -/
def begin (nested : ε) : Conn δ ε Unit :=
  statement fun s =>
    match s.working with
    | some _ => (.error nested, s)
    | none => (.ok (), { s with working := some s.persisted })

/-- A statement that reads or writes; one that fails changes nothing.  Outside of a
transaction it is committed at once. -/
def execute (f : δ → Except ε (α × δ)) : Conn δ ε α :=
  statement fun s =>
    match f (s.working.getD s.persisted) with
    | .error e => (.error e, s)
    | .ok (a, db) =>
        if s.working.isSome then (.ok a, { s with working := some db })
        else (.ok a, { s with persisted := db })

/-- `COMMIT`. -/
def commit : Conn δ ε Unit :=
  statement fun s =>
    (.ok (), { s with persisted := s.working.getD s.persisted, working := none })

/-- `ROLLBACK`. -/
def rollback : Conn δ ε Unit :=
  statement fun s => (.ok (), { s with working := none })

/-- A program in a transaction. -/
def transaction (nested : ε) (m : Conn δ ε α) : Conn δ ε α := do
  begin nested
  let a ← m
  commit
  return a

/-- `COMMIT` or `ROLLBACK`. -/
def finish (ok : Bool) : Conn δ ε Unit :=
  if ok then commit else rollback

/-- A program in a transaction that is committed if it says so, and else rolled back. -/
def transactionIf (nested : ε) (m : Conn δ ε Bool) : Conn δ ε Bool := do
  begin nested
  let ok ← m
  finish ok
  return ok

/-- The outcome of a program, and what is persisted when the connection is closed. -/
def run (m : Conn δ ε α) (plan : Plan δ ε) (db : δ) : Except ε α × δ :=
  let (outcome, s) := m plan (.opened db)
  (outcome, s.persisted)

/-- The exception comes from the plan. -/
def Interrupted (plan : Plan δ ε) (e : ε) : Prop :=
  ∃ n fault, plan n = some fault ∧ fault.exception = e

/-! ## What a program does -/

section

variable {δ ε α β : Type} {m : Conn δ ε α} {k : α → Conn δ ε β} {plan : Plan δ ε}
  {s t : Session δ} {e : ε}

theorem bind_eq :
    (m >>= k) plan s =
      match m plan s with
      | (.ok a, t) => k a plan t
      | (.error e, t) => (.error e, t) :=
  rfl

theorem bind_eq_ok {b : β} (h : (m >>= k) plan s = (.ok b, t)) :
    ∃ a u, m plan s = (.ok a, u) ∧ k a plan u = (.ok b, t) := by
  rw [bind_eq] at h
  split at h
  · next a u hrun => exact ⟨a, u, hrun, h⟩
  · exact absurd (Prod.mk.inj h).1 (by simp)

theorem bind_eq_error (h : (m >>= k) plan s = (.error e, t)) :
    m plan s = (.error e, t) ∨ ∃ a u, m plan s = (.ok a, u) ∧ k a plan u = (.error e, t) := by
  rw [bind_eq] at h
  split at h
  · next a u hrun => exact Or.inr ⟨a, u, hrun, h⟩
  · next e' u hrun =>
      obtain ⟨he, rfl⟩ := Prod.mk.inj h
      obtain rfl := Except.error.inj he
      exact Or.inl hrun

/-- A program in a `try`. -/
theorem tryCatch_eq {handler : ε → Conn δ ε α} :
    tryCatch m handler plan s =
      match m plan s with
      | (.ok a, t) => (.ok a, t)
      | (.error e, t) => handler e plan t :=
  rfl

variable {body : Session δ → Except ε α × Session δ}

theorem statement_eq_ok {a : α} (h : statement body plan s = (.ok a, t)) :
    body { s with executed := s.executed + 1 } = (.ok a, t) := by
  unfold statement at h
  split at h
  · exact absurd (Prod.mk.inj h).1 (by simp)
  · exact h

theorem statement_eq_error (h : statement body plan s = (.error e, t)) :
    (t.persisted = s.persisted ∧ Interrupted plan e) ∨
      body { s with executed := s.executed + 1 } = (.error e, t) := by
  unfold statement at h
  split at h
  · next fault hplan =>
      obtain ⟨he, rfl⟩ := Prod.mk.inj h
      exact Or.inl ⟨rfl, s.executed, fault, hplan, Except.error.inj he⟩
  · exact Or.inr h

/-- A rollback persists nothing, even when it is interrupted. -/
theorem persisted_rollback {outcome : Except ε Unit} (h : rollback plan s = (outcome, t)) :
    t.persisted = s.persisted := by
  cases outcome with
  | ok _ =>
      have hrun := statement_eq_ok h
      obtain ⟨-, rfl⟩ := Prod.mk.inj hrun
      rfl
  | error e =>
      rcases statement_eq_error h with ⟨hkept, -⟩ | hrun
      · exact hkept
      · exact absurd (Prod.mk.inj hrun).1 (by simp)

theorem finish_eq (ok : Bool) :
    (finish ok : Conn δ ε Unit) = statement fun s =>
      (.ok (), { s with
        persisted := if ok then s.working.getD s.persisted else s.persisted
        working := none }) := by
  cases ok <;> rfl

theorem finish_eq_ok {ok : Bool} (h : finish ok plan s = (.ok (), t)) :
    t.working = none ∧
      t.persisted = if ok then s.working.getD s.persisted else s.persisted := by
  rw [finish_eq] at h
  have hrun := statement_eq_ok h
  obtain ⟨-, rfl⟩ := Prod.mk.inj hrun
  exact ⟨rfl, rfl⟩

end

end Conn

open Conn

variable {δ ε ε' α β : Type}

/-- In a transaction the program does what the function does, or fails, because it is
interrupted or because the function fails.  It persists nothing. -/
structure Follows (convert : ε' → ε) (m : Conn δ ε α) (f : δ → Except ε' (α × δ)) : Prop where
  ok : ∀ {plan s t db a}, s.working = some db → m plan s = (.ok a, t) →
    t.persisted = s.persisted ∧ ∃ db', f db = .ok (a, db') ∧ t.working = some db'
  error : ∀ {plan s t db e}, s.working = some db → m plan s = (.error e, t) →
    t.persisted = s.persisted ∧ (Interrupted plan e ∨ ∃ e', f db = .error e' ∧ e = convert e')

section

variable {convert : ε' → ε} {m : Conn δ ε α} {k : α → Conn δ ε β} {f : δ → Except ε' (α × δ)}
  {g : α → δ → Except ε' (β × δ)}

theorem Follows.congr {f' : δ → Except ε' (α × δ)} (h : Follows convert m f)
    (hf : ∀ db, f' db = f db) : Follows convert m f' := by
  obtain rfl : f' = f := funext hf
  exact h

theorem Follows.pure (a : α) :
    Follows convert (Pure.pure a : Conn δ ε α) fun db => .ok (a, db) where
  ok := by
    intro plan s t db b hopen h
    obtain ⟨hb, rfl⟩ := Prod.mk.inj h
    obtain rfl := Except.ok.inj hb
    exact ⟨rfl, db, rfl, hopen⟩
  error := by
    intro plan s t db e hopen h
    exact absurd (Prod.mk.inj h).1 (by simp)

/-- A program that throws follows a function that fails. -/
theorem Follows.throw (e : ε') :
    Follows convert (MonadExcept.throw (convert e) : Conn δ ε α) fun _ => .error e where
  ok := by
    intro plan s t db b hopen h
    exact absurd (Prod.mk.inj h).1 (by simp)
  error := by
    intro plan s t db e' hopen h
    obtain ⟨he, rfl⟩ := Prod.mk.inj h
    exact ⟨rfl, Or.inr ⟨e, rfl, (Except.error.inj he).symm⟩⟩

/-- A statement follows the function that it executes. -/
theorem Follows.execute (f : δ → Except ε' (α × δ)) :
    Follows convert (Conn.execute fun db => (f db).mapError convert) f where
  ok := by
    intro plan s t db a hopen h
    have hrun := statement_eq_ok h
    cases hf : f db with
    | error e =>
        simp only [hopen, Option.getD_some, hf, Except.mapError] at hrun
        exact absurd (Prod.mk.inj hrun).1 (by simp)
    | ok r =>
        simp only [hopen, Option.getD_some, hf, Except.mapError, Option.isSome_some,
          if_true] at hrun
        obtain ⟨ha, rfl⟩ := Prod.mk.inj hrun
        obtain rfl := Except.ok.inj ha
        exact ⟨rfl, r.2, rfl, rfl⟩
  error := by
    intro plan s t db e hopen h
    rcases statement_eq_error h with ⟨hkept, hplan⟩ | hrun
    · exact ⟨hkept, Or.inl hplan⟩
    · cases hf : f db with
      | error e' =>
          simp only [hopen, Option.getD_some, hf, Except.mapError] at hrun
          obtain ⟨he, rfl⟩ := Prod.mk.inj hrun
          exact ⟨rfl, Or.inr ⟨e', rfl, (Except.error.inj he).symm⟩⟩
      | ok r =>
          simp only [hopen, Option.getD_some, hf, Except.mapError, Option.isSome_some,
            if_true] at hrun
          exact absurd (Prod.mk.inj hrun).1 (by simp)

/-- Programs one after the other follow the functions one after the other. -/
theorem Follows.bind (hm : Follows convert m f) (hk : ∀ a, Follows convert (k a) (g a)) :
    Follows convert (m >>= k) fun db => f db >>= fun r => g r.1 r.2 where
  ok := by
    intro plan s t db b hopen h
    obtain ⟨a, u, hrun, hrest⟩ := bind_eq_ok h
    obtain ⟨hkept, db₁, hf, hopen₁⟩ := hm.ok hopen hrun
    obtain ⟨hkept', db₂, hg, hopen₂⟩ := (hk a).ok hopen₁ hrest
    refine ⟨hkept'.trans hkept, db₂, ?_, hopen₂⟩
    rw [hf]
    exact hg
  error := by
    intro plan s t db e hopen h
    rcases bind_eq_error h with hrun | ⟨a, u, hrun, hrest⟩
    · obtain ⟨hkept, hplan | ⟨e', hf, he⟩⟩ := hm.error hopen hrun
      · exact ⟨hkept, Or.inl hplan⟩
      · refine ⟨hkept, Or.inr ⟨e', ?_, he⟩⟩
        rw [hf]
        rfl
    · obtain ⟨hkept, db₁, hf, hopen₁⟩ := hm.ok hopen hrun
      obtain ⟨hkept', hplan | ⟨e', hg, he⟩⟩ := (hk a).error hopen₁ hrest
      · exact ⟨hkept'.trans hkept, Or.inl hplan⟩
      · refine ⟨hkept'.trans hkept, Or.inr ⟨e', ?_, he⟩⟩
        rw [hf]
        exact hg

/-- A program without a result, and then another one. -/
theorem Follows.andThen {first : Conn δ ε Unit} {f : δ → Except ε' δ} {g : δ → Except ε' (α × δ)}
    (hfirst : Follows convert first fun db => (f db).map fun db' => ((), db'))
    (hm : Follows convert m g) : Follows convert (first >>= fun _ => m) fun db => f db >>= g := by
  refine (hfirst.bind fun _ => hm).congr fun db => ?_
  cases f db with
  | error e => rfl
  | ok db' => rfl

/-- A loop of statements follows the fold of the functions. -/
theorem Follows.forM {item : α → Conn δ ε Unit} {f : δ → α → Except ε' δ}
    (h : ∀ a, Follows convert (item a) fun db => (f db a).map fun db' => ((), db')) (as : List α) :
    Follows convert (as.forM item) fun db => (as.foldlM f db).map fun db' => ((), db') := by
  induction as with
  | nil => exact Follows.pure ()
  | cons a as ih =>
      refine ((h a).andThen ih).congr fun db => ?_
      rw [List.foldlM_cons]
      cases f db a with
      | error e => rfl
      | ok db' => rfl

/-! ## All or nothing -/

variable {nested : ε} {plan : Plan δ ε} {s t : Session δ}

/-- A transaction that returns persists what the function gives. -/
theorem Follows.ok_transaction (hm : Follows convert m f) (hclosed : s.working = none) {a : α}
    (h : transaction nested m plan s = (.ok a, t)) : f s.persisted = .ok (a, t.persisted) := by
  obtain ⟨_, s₁, hbegin, h₁⟩ := bind_eq_ok h
  obtain ⟨b, s₂, hrun, h₂⟩ := bind_eq_ok h₁
  obtain ⟨_, s₃, hcommit, h₃⟩ := bind_eq_ok h₂
  have hopen := statement_eq_ok hbegin
  simp only [hclosed] at hopen
  obtain ⟨-, rfl⟩ := Prod.mk.inj hopen
  obtain ⟨-, db', hf, hopen₂⟩ := hm.ok rfl hrun
  have hclose := statement_eq_ok hcommit
  obtain ⟨-, rfl⟩ := Prod.mk.inj hclose
  obtain ⟨hb, rfl⟩ := Prod.mk.inj h₃
  obtain rfl := Except.ok.inj hb
  simpa [hopen₂] using hf

/-- A transaction that fails persists nothing, and it fails for a reason. -/
theorem Follows.error_transaction (hm : Follows convert m f) (hclosed : s.working = none) {e : ε}
    (h : transaction nested m plan s = (.error e, t)) :
    t.persisted = s.persisted ∧
      (Interrupted plan e ∨ ∃ e', f s.persisted = .error e' ∧ e = convert e') := by
  rcases bind_eq_error h with hbegin | ⟨_, s₁, hbegin, h₁⟩
  · rcases statement_eq_error hbegin with ⟨hkept, hplan⟩ | hnested
    · exact ⟨hkept, Or.inl hplan⟩
    · simp only [hclosed] at hnested
      exact absurd (Prod.mk.inj hnested).1 (by simp)
  · have hopen := statement_eq_ok hbegin
    simp only [hclosed] at hopen
    obtain ⟨-, rfl⟩ := Prod.mk.inj hopen
    rcases bind_eq_error h₁ with hrun | ⟨a, s₂, hrun, h₂⟩
    · obtain ⟨hkept, hreason⟩ := hm.error rfl hrun
      exact ⟨hkept, hreason⟩
    · obtain ⟨hkept, db', hf, hopen₂⟩ := hm.ok rfl hrun
      rcases bind_eq_error h₂ with hcommit | ⟨_, s₃, hcommit, h₃⟩
      · rcases statement_eq_error hcommit with ⟨hkept', hplan⟩ | hbody
        · exact ⟨hkept'.trans hkept, Or.inl hplan⟩
        · exact absurd (Prod.mk.inj hbody).1 (by simp)
      · exact absurd (Prod.mk.inj h₃).1 (by simp)

/-- A transaction that may roll back persists what the function gives, or nothing. -/
theorem Follows.ok_transactionIf {m : Conn δ ε Bool} {f : δ → Except ε' (Bool × δ)}
    (hm : Follows convert m f) (hclosed : s.working = none) {ok : Bool}
    (h : transactionIf nested m plan s = (.ok ok, t)) :
    t.working = none ∧ ∃ db, f s.persisted = .ok (ok, db) ∧
      t.persisted = if ok then db else s.persisted := by
  obtain ⟨_, s₁, hbegin, h₁⟩ := bind_eq_ok h
  obtain ⟨b, s₂, hrun, h₂⟩ := bind_eq_ok h₁
  obtain ⟨_, s₃, hend, h₃⟩ := bind_eq_ok h₂
  obtain ⟨hb, rfl⟩ := Prod.mk.inj h₃
  obtain rfl := Except.ok.inj hb
  have hopen := statement_eq_ok hbegin
  simp only [hclosed] at hopen
  obtain ⟨-, rfl⟩ := Prod.mk.inj hopen
  obtain ⟨hkept, db, hf, hopen₂⟩ := hm.ok rfl hrun
  obtain ⟨hworking, hpersisted⟩ := finish_eq_ok hend
  refine ⟨hworking, db, hf, ?_⟩
  rw [hpersisted, hopen₂, hkept]
  rfl

end

end Transaction
end Library
end LanDiscovery

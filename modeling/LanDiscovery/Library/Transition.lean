import Mathlib.Data.List.Basic
import Mathlib.Tactic.Common

/-!
# Labelled transition systems

A system is a relation `step s a t`: in state `s` the action `a` may lead to
`t`.  `Run` chains steps along a list of actions, and `Reachable` forgets the
list.  The invariant rules are the only inductions over runs that a client
needs: what every step preserves, every run preserves.
-/

namespace LanDiscovery
namespace Library
namespace Transition

variable {σ α : Type*} {step : σ → α → σ → Prop}

/-- A run: each action leads from one state to the next. -/
inductive Run (step : σ → α → σ → Prop) : σ → List α → σ → Prop
  | nil (s : σ) : Run step s [] s
  | cons {s t u : σ} {a : α} {as : List α} (head : step s a t) (tail : Run step t as u) :
      Run step s (a :: as) u

/-- The states that some run reaches from an initial state. -/
def Reachable (init : σ → Prop) (step : σ → α → σ → Prop) (s : σ) : Prop :=
  ∃ s₀ as, init s₀ ∧ Run step s₀ as s

theorem Run.append {s t u : σ} {as bs : List α} (h : Run step s as t) (h' : Run step t bs u) :
    Run step s (as ++ bs) u := by
  induction h with
  | nil s => exact h'
  | cons head tail ih => exact .cons head (ih h')

theorem Run.single {s t : σ} {a : α} (h : step s a t) : Run step s [a] t :=
  .cons h (.nil t)

theorem Run.mono {step' : σ → α → σ → Prop} (hstep : ∀ s a t, step s a t → step' s a t) {s t : σ}
    {as : List α} (h : Run step s as t) : Run step' s as t := by
  induction h with
  | nil s => exact .nil s
  | cons head tail ih => exact .cons (hstep _ _ _ head) ih

/-- **Invariant rule for runs.** -/
theorem Run.preserves {I : σ → Prop} (hstep : ∀ s a t, I s → step s a t → I t)
    {s t : σ} {as : List α} (h : Run step s as t) (hs : I s) : I t := by
  induction h with
  | nil s => exact hs
  | cons head tail ih => exact ih (hstep _ _ _ hs head)

/-- **Bound rule for runs.**  When the counted actions bring a measure of the states
down and no action brings it up, a run has at most as many counted actions as the
measure says. -/
theorem Run.countP_add_le {I : σ → Prop} {counted : α → Bool} {measure : σ → Nat}
    (hstep : ∀ s a t, I s → step s a t →
      I t ∧ measure t + (if counted a then 1 else 0) ≤ measure s)
    {s t : σ} {as : List α} (h : Run step s as t) (hs : I s) :
    as.countP counted + measure t ≤ measure s := by
  induction h with
  | nil s => simp
  | cons head tail ih =>
      obtain ⟨hinv, hle⟩ := hstep _ _ _ hs head
      have hrest := ih hinv
      rw [List.countP_cons]
      omega

/-- At some step of a run from `s` to `t`, `P` holds of the state and the action. -/
def SomeStep (step : σ → α → σ → Prop) (P : σ → α → Prop) (s : σ) (as : List α)
    (t : σ) : Prop :=
  ∃ bs a cs u, as = bs ++ a :: cs ∧ Run step s bs u ∧ P u a ∧ Run step u (a :: cs) t

theorem SomeStep.cons {P : σ → α → Prop} {s t u : σ} {a : α} {as : List α}
    (head : step s a t) (h : SomeStep step P t as u) : SomeStep step P s (a :: as) u := by
  obtain ⟨bs, b, cs, v, rfl, hrun, hP, hrest⟩ := h
  exact ⟨a :: bs, b, cs, v, rfl, .cons head hrun, hP, hrest⟩

/-- **Origin rule for runs.**  What holds at the end of a run held at its start, or a step
brought it about. -/
theorem Run.origin {I F : σ → Prop} {P : σ → α → Prop}
    (hinv : ∀ s a t, I s → step s a t → I t)
    (hstep : ∀ s a t, I s → step s a t → F t → F s ∨ P s a) {s t : σ} {as : List α}
    (h : Run step s as t) (hs : I s) (ht : F t) : F s ∨ SomeStep step P s as t := by
  induction h with
  | nil s => exact .inl ht
  | @cons s t u a as head tail ih =>
      rcases ih (hinv s a t hs head) ht with hthere | hlater
      · rcases hstep s a t hs head hthere with hhere | hP
        · exact .inl hhere
        · exact .inr ⟨[], a, as, s, rfl, .nil s, hP, .cons head tail⟩
      · exact .inr (hlater.cons head)

/-- **Flag rule for runs.**  A flag that no step clears is set at the end of a run just if
it was set at the start or a step of the run sets it. -/
theorem Run.flag_iff {I F : σ → Prop} {P : σ → α → Prop}
    (hinv : ∀ s a t, I s → step s a t → I t)
    (hstep : ∀ s a t, I s → step s a t → (F t ↔ F s ∨ P s a)) {s t : σ} {as : List α}
    (h : Run step s as t) (hs : I s) : F t ↔ F s ∨ SomeStep step P s as t := by
  have hkeep : ∀ s a t, I s ∧ F s → step s a t → I t ∧ F t := by
    intro s a t hboth hst
    exact ⟨hinv s a t hboth.1 hst, (hstep s a t hboth.1 hst).mpr (.inl hboth.2)⟩
  refine ⟨h.origin hinv (fun s a t hs hst => (hstep s a t hs hst).mp) hs, ?_⟩
  intro hset
  rcases hset with hstart | hsome
  · exact (h.preserves hkeep ⟨hs, hstart⟩).2
  · obtain ⟨bs, a, cs, u, rfl, hbefore, hP, hrest⟩ := hsome
    have hu := hbefore.preserves hinv hs
    cases hrest with
    | cons head tail =>
        exact (tail.preserves hkeep ⟨hinv u a _ hu head, (hstep u a _ hu head).mpr (.inr hP)⟩).2

theorem Reachable.of_init {init : σ → Prop} {s : σ} (h : init s) : Reachable init step s :=
  ⟨s, [], h, .nil s⟩

theorem Reachable.extend {init : σ → Prop} {s t : σ} {a : α} (h : Reachable init step s)
    (hst : step s a t) : Reachable init step t := by
  obtain ⟨s₀, as, hinit, hrun⟩ := h
  exact ⟨s₀, as ++ [a], hinit, hrun.append (.single hst)⟩

/-- **Invariant rule for reachable states.** -/
theorem Reachable.invariant {init I : σ → Prop} (hinit : ∀ s, init s → I s)
    (hstep : ∀ s a t, I s → step s a t → I t) {s : σ} (h : Reachable init step s) : I s := by
  obtain ⟨s₀, as, hs₀, hrun⟩ := h
  exact hrun.preserves hstep (hinit s₀ hs₀)

/-- **Simulation rule.**  When each step of a system is matched by a run of another one,
each reachable state is matched by a reachable one. -/
theorem Reachable.simulate {τ β : Type*} {step' : τ → β → τ → Prop} {init : σ → Prop}
    {init' : τ → Prop} {R : σ → τ → Prop} (hinit : ∀ s, init s → ∃ t, init' t ∧ R s t)
    (hstep : ∀ s a s' t, R s t → step s a s' → ∃ t' bs, Run step' t bs t' ∧ R s' t')
    {s : σ} (h : Reachable init step s) : ∃ t, Reachable init' step' t ∧ R s t := by
  refine h.invariant (I := fun s => ∃ t, Reachable init' step' t ∧ R s t) (fun s hs => ?_)
    fun s a s' hmatch hss' => ?_
  · obtain ⟨t, ht, hR⟩ := hinit s hs
    exact ⟨t, .of_init ht, hR⟩
  · obtain ⟨t, ⟨t₀, bs, ht₀, hrun⟩, hR⟩ := hmatch
    obtain ⟨t', bs', hrun', hR'⟩ := hstep s a s' t hR hss'
    exact ⟨t', ⟨t₀, bs ++ bs', ht₀, hrun.append hrun'⟩, hR'⟩

/-! ## Executable systems -/

/-- The runs of a partial step function. -/
def exec (next : σ → α → Option σ) (s : σ) (as : List α) : Option σ :=
  as.foldlM next s

theorem exec_append (next : σ → α → Option σ) (s : σ) (as bs : List α) :
    exec next s (as ++ bs) = (exec next s as).bind fun t => exec next t bs := by
  rw [exec, List.foldlM_append]
  rfl

/-- What is executed is a run of the step relation. -/
theorem Run.of_exec {next : σ → α → Option σ} {s t : σ} {as : List α}
    (h : exec next s as = some t) : Run (fun s a t => next s a = some t) s as t := by
  induction as generalizing s with
  | nil =>
      obtain rfl : s = t := by simpa [exec] using h
      exact .nil s
  | cons a as ih =>
      rw [exec, List.foldlM_cons] at h
      obtain ⟨u, hu, hrest⟩ := Option.bind_eq_some_iff.mp h
      exact .cons hu (ih hrest)

/-- A run that is executed to its end. -/
theorem Run.of_exec_isSome {next : σ → α → Option σ} {s other : σ} {as : List α}
    (h : (exec next s as).isSome = true) :
    Run (fun s a t => next s a = some t) s as ((exec next s as).getD other) := by
  obtain ⟨t, ht⟩ := Option.isSome_iff_exists.mp h
  rw [ht, Option.getD_some]
  exact .of_exec ht

/-- What goes out in the steps of a run, in order. -/
def outputs {β : Type*} (next : σ → α → Option σ) (out : σ → α → List β) : σ → List α → List β
  | _, [] => []
  | s, a :: as =>
      out s a ++ match next s a with
        | some t => outputs next out t as
        | none => []

theorem outputs_cons {β : Type*} {next : σ → α → Option σ} {out : σ → α → List β} {s t : σ}
    {a : α} (h : next s a = some t) (as : List α) :
    outputs next out s (a :: as) = out s a ++ outputs next out t as := by
  rw [outputs, h]

/-- **History rule for runs.**  When what went out so far is right for each state, so is
what went out in a run. -/
theorem Run.outputs_invariant {β : Type*} {next : σ → α → Option σ} {out : σ → α → List β}
    {I : σ → Prop} {R : σ → List β → Prop}
    (hstep : ∀ s a t log, I s → next s a = some t → R s log → I t ∧ R t (log ++ out s a))
    {s t : σ} {as : List α} (h : Run (fun s a t => next s a = some t) s as t) (hs : I s)
    {log : List β} (hlog : R s log) : R t (log ++ outputs next out s as) := by
  induction h generalizing log with
  | nil s =>
      rw [outputs, List.append_nil]
      exact hlog
  | cons head tail ih =>
      obtain ⟨ht, hmore⟩ := hstep _ _ _ log hs head hlog
      rw [outputs_cons head, ← List.append_assoc]
      exact ih ht hmore

/-! ## Step functions -/

section

variable {next : σ → α → σ} {I : σ → Prop} {A P Q : σ → α → Prop}

/-- A property of the steps of a run: it holds of each state with the action
taken there. -/
def EveryStep (next : σ → α → σ) (P : σ → α → Prop) : σ → List α → Prop
  | _, [] => True
  | s, a :: as => P s a ∧ EveryStep next P (next s a) as

instance EveryStep.decidable [∀ s a, Decidable (P s a)] :
    ∀ (s : σ) (as : List α), Decidable (EveryStep next P s as)
  | _, [] => .isTrue trivial
  | s, a :: as =>
      have := EveryStep.decidable (next s a) as
      inferInstanceAs (Decidable (_ ∧ _))

theorem everyStep_append {s : σ} {as bs : List α} :
    EveryStep next P s (as ++ bs) ↔
      EveryStep next P s as ∧ EveryStep next P (as.foldl next s) bs := by
  induction as generalizing s with
  | nil => exact (and_iff_right trivial).symm
  | cons a as ih => exact (and_congr_right fun _ => ih).trans and_assoc.symm

/-- **Invariant rule for step functions.**  An invariant that the steps of a run
keep holds at its end. -/
theorem EveryStep.invariant (hstep : ∀ s a, I s → A s a → I (next s a)) {s : σ} {as : List α}
    (h : EveryStep next A s as) (hs : I s) : I (as.foldl next s) := by
  induction as generalizing s with
  | nil => exact hs
  | cons a as ih => exact ih h.2 (hstep s a hs h.1)

/-- Two properties that agree on the steps from invariant states hold of the
same runs; the invariant may rely on the steps before. -/
theorem EveryStep.congr (hstep : ∀ s a, I s → A s a → P s a → I (next s a))
    (hiff : ∀ s a, I s → A s a → (P s a ↔ Q s a)) {s : σ} {as : List α}
    (h : EveryStep next A s as) (hs : I s) : EveryStep next P s as ↔ EveryStep next Q s as := by
  induction as generalizing s with
  | nil => rfl
  | cons a as ih =>
      have hhead := hiff s a hs h.1
      constructor
      · rintro ⟨hp, htail⟩
        exact ⟨hhead.mp hp, (ih h.2 (hstep s a hs h.1 hp)).mp htail⟩
      · rintro ⟨hq, htail⟩
        have hp := hhead.mpr hq
        exact ⟨hp, (ih h.2 (hstep s a hs h.1 hp)).mpr htail⟩

end

end Transition
end Library
end LanDiscovery

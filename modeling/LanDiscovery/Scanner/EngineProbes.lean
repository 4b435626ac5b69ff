import LanDiscovery.Scanner.EngineTraffic
import LanDiscovery.Scanner.ProbeQueue
import Mathlib.Data.List.ReduceOption

/-!
# What the engine sends

The worker shows the planner each response, the poller sends the browse query and drains
the planner.  However the two are interleaved, the poller tries to send browse queries and
the batches that the planner accepted, each once and in the order in which they were
accepted; what is asked for in them was named by a pointer record of a response.  A batch
that is refused is gone: it is neither sent nor pending (`engine_probes`).
-/

namespace LanDiscovery
namespace Scanner

open Library Library.Transition Library.Utf8

/-- The events that the planner is shown. -/
def observedEvents (actions : List ProbeAction) : List DiscoveryEvent :=
  actions.filterMap fun
    | .observe ev => some ev
    | .drainReady _ => none

/-- What the poller tries to send in a step of the engine. -/
def Engine.tries (config : MdnsProbePlannerConfig) (e : Engine) :
    EngineAction → List (Option (List MdnsProbeRequest) × Bool)
  | .poller refused _ => e.attempts config refused
  | _ => []

section

variable {config : MdnsProbePlannerConfig} {clock : Nat → Int}

@[simp] theorem queueRun_append (actions : List ProbeAction) (action : ProbeAction) :
    queueRun config clock (actions ++ [action]) =
      queueStep config clock (queueRun config clock actions) action := by
  rw [queueRun, List.foldl_append]
  rfl

end

/-! ## The poller and the worker together -/

/-- The planner of the engine is the planner after some calls; `tried` is what the poller
tried to send: a batch, or the browse query, each with whether it was refused. -/
structure Probes (config : MdnsProbePlannerConfig) (clock : Nat → Int) (e : Engine)
    (actions : List ProbeAction) (tried : List (Option (List MdnsProbeRequest) × Bool)) :
    Prop where
  planner : (queueRun config clock actions).planner = e.probePlanner
  observed : observedEvents actions = e.responses.map DecodedResponse.event
  handedOut : (tried.map Prod.fst).reduceOption = (queueRun config clock actions).handedOut
  sent : e.sent = (tried.filter fun entry => !entry.2).map fun entry =>
    Engine.probeQuery (entry.1.getD Engine.metaQuestions)

section

variable {config : MdnsProbePlannerConfig} {clock : Nat → Int} {interfaceName : Bytes}
  {running : Bool} {e t : Engine} {a : EngineAction} {actions : List ProbeAction}
  {tried : List (Option (List MdnsProbeRequest) × Bool)}

theorem Probes.of_eq (h : Probes config clock e actions tried)
    (hplanner : t.probePlanner = e.probePlanner) (hhandled : t.handled = e.handled)
    (hsent : t.sent = e.sent) : ∃ actions', Probes config clock t actions' (tried ++ []) := by
  refine ⟨actions, h.planner.trans hplanner.symm, ?_, ?_, ?_⟩
  · rw [h.observed, Engine.responses, Engine.responses, hhandled]
  · rw [List.append_nil, h.handedOut]
  · rw [List.append_nil, hsent, h.sent]

theorem Probes.handle (h : Probes config clock e actions tried) (nowMs : UInt64)
    (packet : Packet) :
    ∃ actions', Probes config clock { e.afterPacket config clock nowMs packet with
      worker := .loop
      handled := e.handled ++ [(nowMs, packet)] } actions' (tried ++ []) := by
  rw [List.append_nil]
  cases hresponse : responseOf nowMs packet with
  | none =>
      refine ⟨actions, ?_, ?_, h.handedOut, h.sent⟩
      · simp [Engine.afterPacket, hresponse, h.planner]
      · rw [h.observed]
        simp [Engine.responses, List.filterMap_append, hresponse]
  | some r =>
      refine ⟨actions ++ [.observe r.event], ?_, ?_, ?_, h.sent⟩
      · rw [queueRun_append]
        simp [queueStep, Engine.afterPacket, hresponse, h.planner]
      · have hobserved := h.observed
        unfold observedEvents at hobserved ⊢
        rw [List.filterMap_append, hobserved]
        simp [Engine.responses, List.filterMap_append, hresponse]
      · rw [queueRun_append, h.handedOut]
        rfl

/-- What is sent in a step is what is not refused of it. -/
theorem Probes.sends (h : Probes config clock e actions tried)
    (more : List (Option (List MdnsProbeRequest) × Bool)) :
    (e.afterSends more).sent = ((tried ++ more).filter fun entry => !entry.2).map fun entry =>
      Engine.probeQuery (entry.1.getD Engine.metaQuestions) := by
  rw [List.filter_append, List.map_append, ← h.sent]
  rfl

theorem Probes.broadcast (h : Probes config clock e actions tried)
    (hplace : e.poller = .broadcasting) (refused : List Bool) :
    Probes config clock { e.afterSends (e.attempts config refused) with poller := .draining }
      actions (tried ++ e.attempts config refused) := by
  refine ⟨h.planner, h.observed, ?_, h.sends _⟩
  rw [Engine.attempts_broadcasting config hplace, List.map_append, List.reduceOption_append,
    h.handedOut]
  exact List.append_nil _

@[simp] theorem map_fst_answered {α : Type} (packets : List α) (refused : List Bool) :
    (Engine.answered packets refused).map Prod.fst = packets := by
  induction packets generalizing refused with
  | nil => rfl
  | cons packet packets ih => rw [Engine.answered, List.map_cons, ih]

/-- Of batches that are not empty each is tried. -/
theorem reduceOption_attempts (hplace : e.poller = .draining)
    (hnonempty : ∀ batch ∈ (e.probePlanner.drainReady config 0).2, batch ≠ [])
    (refused : List Bool) :
    ((e.attempts config refused).map Prod.fst).reduceOption =
      (e.probePlanner.drainReady config 0).2 := by
  have hall : ∀ entry ∈ Engine.answered (e.probePlanner.drainReady config 0).2 refused,
      (!entry.1.isEmpty) = true := by
    intro entry hentry
    have hmem := List.mem_map_of_mem (f := Prod.fst) hentry
    rw [map_fst_answered] at hmem
    simpa using hnonempty entry.1 hmem
  rw [Engine.attempts_draining config hplace, List.filter_eq_self.mpr hall, List.map_map]
  have hsome : (Prod.fst ∘ fun entry : List MdnsProbeRequest × Bool => (some entry.1, entry.2)) =
      some ∘ Prod.fst := rfl
  rw [hsome, ← List.map_map, map_fst_answered, List.reduceOption, List.filterMap_map]
  exact List.filterMap_some

theorem Probes.drain (h : Probes config clock e actions tried) (hplace : e.poller = .draining)
    (refused : List Bool) :
    Probes config clock { e.afterDrain config refused with poller := .sleeping }
      (actions ++ [.drainReady 0]) (tried ++ e.attempts config refused) := by
  have hsound := sound_queueRun config clock actions
  obtain ⟨keys, heq, -⟩ := drainReady_eq config (queueRun config clock actions).planner 0
  have hout : ∀ batch ∈ (e.probePlanner.drainReady config 0).2, batch ≠ [] := by
    intro batch hbatch
    rw [← h.planner, heq] at hbatch
    exact hsound.nonempty batch (List.mem_of_mem_take hbatch)
  refine ⟨?_, ?_, ?_, h.sends _⟩
  · rw [queueRun_append, queueStep, h.planner]
    rfl
  · have hobserved := h.observed
    unfold observedEvents at hobserved ⊢
    rw [List.filterMap_append, hobserved]
    exact List.append_nil _
  · rw [queueRun_append, queueStep, List.map_append, List.reduceOption_append, h.handedOut,
      reduceOption_attempts hplace hout, h.planner]

/-- **Each step keeps it**, with what is tried in the step. -/
theorem Probes.move (h : Probes config clock e actions tried)
    (hmove : Engine.Move config clock e t a) :
    ∃ actions', Probes config clock t actions' (tried ++ e.tries config a) := by
  cases hmove with
  | main hmove => cases hmove <;> exact h.of_eq rfl rfl rfl
  | receiver hmove => cases hmove <;> exact h.of_eq rfl rfl rfl
  | worker hmove =>
      cases hmove with
      | handle nowMs packet hplace => exact h.handle nowMs packet
      | _ => exact h.of_eq rfl rfl rfl
  | wakeUp hmove =>
      cases hmove
      exact h.of_eq rfl rfl rfl
  | @poller refused room hmove =>
      cases hmove with
      | broadcast hplace => exact ⟨actions, h.broadcast hplace refused⟩
      | drain hplace => exact ⟨_, h.drain hplace refused⟩
      | loop hplace =>
          rw [Engine.tries, Engine.attempts, hplace]
          exact h.of_eq rfl rfl rfl
      | wake hplace =>
          rw [Engine.tries, Engine.attempts, hplace]
          exact h.of_eq rfl rfl rfl

theorem Probes.unopened (place : MainAt) :
    Probes config clock (.unopened interfaceName running place) [] [] :=
  ⟨rfl, rfl, rfl, rfl⟩

theorem Probes.started (bound : Bytes × Bytes) :
    Probes config clock (.started interfaceName bound) [] [] :=
  ⟨rfl, rfl, rfl, rfl⟩

/-- What goes with a state: the calls of the planner, and what was tried. -/
def Probed (config : MdnsProbePlannerConfig) (clock : Nat → Int) (interfaceName : Bytes)
    (running : Bool) (e : Engine) (tried : List (Option (List MdnsProbeRequest) × Bool)) : Prop :=
  (∃ place : MainAt, place.opening = true ∧ e = .unopened interfaceName running place ∧
    tried = []) ∨
  e.Orderly ∧ ∃ actions, Probes config clock e actions tried

theorem Probed.step (h : Probed config clock interfaceName running e tried)
    (hstep : EngineStep config clock e a t) :
    Probed config clock interfaceName running t (tried ++ e.tries config a) := by
  rcases h with ⟨place, hplace, rfl, rfl⟩ | ⟨horderly, actions, hprobes⟩
  · cases Engine.openingMove_of_next hplace hstep with
    | alreadyRunning throws shutdown hrunning => exact .inl ⟨.declined, rfl, rfl, rfl⟩
    | call throws shutdown hrunning => exact .inl ⟨.binding, rfl, rfl, rfl⟩
    | decline ifap bindThrows timeoutThrows hstart => exact .inl ⟨.declined, rfl, rfl, rfl⟩
    | start ifap bindThrows bound hstart =>
        exact .inr ⟨.started interfaceName bound, [], .started bound⟩
  · have hmove := horderly.engineStep hstep
    exact .inr ⟨horderly.step hmove, hprobes.move hmove⟩

end

end Scanner
end LanDiscovery

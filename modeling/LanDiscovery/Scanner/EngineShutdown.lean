import LanDiscovery.Library.Transition
import LanDiscovery.Scanner.EngineSteps

/-!
# How the engine stops

`run` clears `running` and notifies the queue without the mutex of the queue, and then
joins the threads.  From there on the threads take only so many steps; when none is left,
`run` has returned, or it waits for a worker that is blocked and that nobody will notify
(`shutdown_returns_or_strands`).  The worker is left so just if the notification came
after it had looked whether its wait was over, and before it blocked.
-/

namespace LanDiscovery
namespace Scanner

open Library Library.Transition Library.Utf8

/-! ## Every state -/

/-- `running` has been cleared. -/
def MainAt.stopped : MainAt → Bool
  | .called | .binding | .declined => false
  | .startWorker | .startReceiver | .startPoller | .looping | .stopping => false
  | .notifying | .joinReceiver | .joinPoller | .joinWorker | .returned _ => true

/-- The receiver has been joined. -/
def MainAt.pastReceiver : MainAt → Bool
  | .joinPoller | .joinWorker | .returned _ => true
  | _ => false

/-- The poller has been joined. -/
def MainAt.pastPoller : MainAt → Bool
  | .joinWorker | .returned _ => true
  | _ => false

/-- The worker has been joined. -/
def MainAt.pastWorker : MainAt → Bool
  | .returned _ => true
  | _ => false

@[simp] theorem WorkerAt.joined_notified (place : WorkerAt) :
    place.notified.joined = place.joined := by
  cases place <;> rfl

theorem WorkerAt.notified_eq_taking {place : WorkerAt} (h : place.notified = .taking) :
    place = .taking := by
  cases place <;> simp_all [WorkerAt.notified]

/-- No notification leaves the worker blocked. -/
theorem WorkerAt.notified_resting {place : WorkerAt}
    (h : place.notified = .parking ∨ place.notified = .asleep) : place = .parking := by
  cases place <;> simp_all [WorkerAt.notified]

namespace Engine

/-- What holds once `running` is set: only `run` clears `running`, a thread that was joined has
ended, and the worker waits only on an empty queue and takes only after its wait. -/
structure Orderly (e : Engine) : Prop where
  opened : e.main.opening = false
  size : e.packetQueue.maxSize = kMaxPacketQueueSize
  stopped : e.running = !e.main.stopped
  waited : e.worker = .taking → e.packetQueue.waitOver e.running = true
  resting : e.worker = .parking ∨ e.worker = .asleep → e.packetQueue.queue = []
  receiverEnded : e.main.pastReceiver = true → e.receiver.joined = true
  pollerEnded : e.main.pastPoller = true → e.poller.joined = true
  workerEnded : e.main.pastWorker = true → e.worker.joined = true

section

variable {config : MdnsProbePlannerConfig} {clock : Nat → Int} {e t : Engine} {a : EngineAction}
  {outcome : ReceiveOutcome} {refused : List Bool} {throws shutdown : Bool}

theorem Orderly.started (interfaceName : Bytes) (bound : Bytes × Bytes) :
    (Engine.started interfaceName bound).Orderly where
  opened := rfl
  size := rfl
  stopped := rfl
  waited := by simp [Engine.started, called]
  resting := by simp [Engine.started, called]
  receiverEnded := by simp [Engine.started, MainAt.pastReceiver]
  pollerEnded := by simp [Engine.started, MainAt.pastPoller]
  workerEnded := by simp [Engine.started, MainAt.pastWorker]

/-- One step of any thread. -/
inductive Move (config : MdnsProbePlannerConfig) (clock : Nat → Int) (e t : Engine) :
    EngineAction → Prop where
  | main {throws shutdown : Bool} (h : e.MainMove throws shutdown t) :
      Move config clock e t (.main throws shutdown)
  | receiver {outcome : ReceiveOutcome} (h : e.ReceiverMove outcome t) :
      Move config clock e t (.receiver outcome)
  | worker {nowMs : UInt64} (h : e.WorkerMove config clock t) :
      Move config clock e t (.worker nowMs)
  | wakeUp (h : e.WakeMove t) : Move config clock e t .wakeUp
  | poller {refused : List Bool} {room : Nat} (h : e.PollerMove config refused t) :
      Move config clock e t (.poller refused room)

/-- The action ends the process: `drain_ready` has no room for as much as is configured, or
the socket takes no timeout. -/
def Crashes (config : MdnsProbePlannerConfig) (e : Engine) : EngineAction → Fault → Prop
  | .poller _ room, fault =>
      e.poller = .draining ∧ ¬ HasRoom config room ∧ fault = .noRoom
  | .bind ifap bindThrows timeoutThrows, fault =>
      e.main = .binding ∧ (Engine.start e.interfaceName ifap bindThrows).isSome = true ∧
        timeoutThrows = true ∧ fault = .systemError
  | _, _ => False

theorem Orderly.maxSize_pos (h : e.Orderly) : 0 < e.packetQueue.maxSize := by
  rw [h.size]
  exact Nat.succ_pos 255

/-- A step is one of them, or the end of the process. -/
theorem Orderly.move (h : e.Orderly) {a : EngineAction} {result : Except Fault Engine}
    (hnext : e.next config clock a = some result) :
    (∃ t, result = .ok t ∧ Move config clock e t a) ∨
    ∃ fault, result = .error fault ∧ e.Crashes config a fault := by
  cases a with
  | main throws shutdown =>
      obtain ⟨t, ht, rfl⟩ := Option.map_eq_some_iff.mp hnext
      exact .inl ⟨t, rfl, .main (mainMove_of_next h.opened ht)⟩
  | bind ifap bindThrows timeoutThrows =>
      rw [next, bindNext] at hnext
      have hopened := h.opened
      cases hplace : e.main <;> simp [hplace, MainAt.opening] at hopened hnext
  | receiver outcome =>
      obtain ⟨t, rfl, ht⟩ := receiverMove_of_next h.maxSize_pos hnext
      exact .inl ⟨t, rfl, .receiver ht⟩
  | worker nowMs =>
      obtain ⟨t, rfl, ht⟩ := workerMove_of_next config clock h.waited hnext
      exact .inl ⟨t, rfl, .worker ht⟩
  | wakeUp =>
      obtain ⟨t, ht, rfl⟩ := Option.map_eq_some_iff.mp hnext
      exact .inl ⟨t, rfl, .wakeUp (wakeMove_of_next ht)⟩
  | poller refused room =>
      rcases pollerMove_of_next config hnext with ⟨rfl, hplace, hroom⟩ | ⟨t, rfl, ht⟩
      · exact .inr ⟨.noRoom, rfl, hplace, hroom, rfl⟩
      · exact .inl ⟨t, rfl, .poller ht⟩

/-- While `run` has joined no thread, nothing is asked of them. -/
theorem Orderly.of_unjoined (hopened : t.main.opening = false)
    (hsize : t.packetQueue.maxSize = kMaxPacketQueueSize)
    (hstopped : t.running = !t.main.stopped)
    (hwaited : t.worker = .taking → t.packetQueue.waitOver t.running = true)
    (hresting : t.worker = .parking ∨ t.worker = .asleep → t.packetQueue.queue = [])
    (hmain : t.main.pastReceiver = false) : t.Orderly := by
  have hpoller : t.main.pastPoller = false := by
    cases hplace : t.main <;> simp_all [MainAt.pastReceiver, MainAt.pastPoller]
  have hworker : t.main.pastWorker = false := by
    cases hplace : t.main <;> simp_all [MainAt.pastReceiver, MainAt.pastWorker]
  exact ⟨hopened, hsize, hstopped, hwaited, hresting, by simp [hmain], by simp [hpoller],
    by simp [hworker]⟩

theorem Orderly.running_at (h : e.Orderly) {place : MainAt} (hmain : e.main = place) :
    e.running = !place.stopped := by
  rw [h.stopped, hmain]

theorem Orderly.running_of_serving (h : e.Orderly) (hserving : e.Serving) : e.running = true := by
  rcases hserving with hmain | hmain | hmain | hmain <;> exact h.running_at hmain

/-- `run` leaves its loop only because a shutdown is requested. -/
theorem Orderly.requested (h : e.Orderly) (hmain : e.main = .looping)
    (hleave : e.running = false ∨ throws = false ∧ shutdown = true) :
    throws = false ∧ shutdown = true := by
  refine hleave.resolve_left ?_
  simp [h.running_at hmain, MainAt.stopped]

theorem Orderly.mainMove (h : e.Orderly) (hmove : e.MainMove throws shutdown t) : t.Orderly := by
  cases hmove with
  | fails hserving =>
      have hrunning := h.running_of_serving hserving
      exact .of_unjoined rfl h.size hrunning h.waited h.resting rfl
  | startWorker hmain =>
      have hrunning : e.running = true := h.running_at hmain
      exact .of_unjoined rfl h.size hrunning (by simp) (by simp) rfl
  | startReceiver hmain =>
      have hrunning : e.running = true := h.running_at hmain
      exact .of_unjoined rfl h.size hrunning h.waited h.resting rfl
  | startPoller hmain =>
      have hrunning : e.running = true := h.running_at hmain
      exact .of_unjoined rfl h.size hrunning h.waited h.resting rfl
  | loop hmain =>
      have hrunning : e.running = true := h.running_at hmain
      exact .of_unjoined rfl h.size hrunning h.waited h.resting rfl
  | leave hmain hleave =>
      have hrunning : e.running = true := h.running_at hmain
      exact .of_unjoined rfl h.size hrunning h.waited h.resting rfl
  | stop hmain =>
      -- any wait is over now
      have hover : e.packetQueue.waitOver false = true := by simp [PacketReceiveQueue.waitOver]
      exact .of_unjoined rfl h.size rfl (fun _ => hover) h.resting rfl
  | notify hmain =>
      have hstopped : e.running = false := h.running_at hmain
      refine .of_unjoined rfl h.size hstopped ?_ ?_ rfl
      · intro htaking
        exact h.waited (WorkerAt.notified_eq_taking htaking)
      · intro hresting
        exact h.resting (.inl (WorkerAt.notified_resting hresting))
  | joinReceiver hmain hjoined =>
      have hstopped : e.running = false := h.running_at hmain
      exact ⟨rfl, h.size, hstopped, h.waited, h.resting, fun _ => hjoined,
        by simp [MainAt.pastPoller], by simp [MainAt.pastWorker]⟩
  | joinPoller hmain hjoined =>
      have hstopped : e.running = false := h.running_at hmain
      have hreceiver := h.receiverEnded (by rw [hmain]; rfl)
      exact ⟨rfl, h.size, hstopped, h.waited, h.resting, fun _ => hreceiver, fun _ => hjoined,
        by simp [MainAt.pastWorker]⟩
  | joinWorker hmain hjoined =>
      have hstopped : e.running = false := h.running_at hmain
      have hreceiver := h.receiverEnded (by rw [hmain]; rfl)
      have hpoller := h.pollerEnded (by rw [hmain]; rfl)
      exact ⟨rfl, h.size, hstopped, h.waited, h.resting, fun _ => hreceiver, fun _ => hpoller,
        fun _ => hjoined⟩

/-- A thread that takes a step has not been joined. -/
theorem ReceiverMove.joined_eq_false (hmove : e.ReceiverMove outcome t) :
    e.receiver.joined = false := by
  cases hmove with
  | loop outcome hplace => rw [hplace]; rfl
  | received buffer senderIp hplace hlength => rw [hplace]; rfl
  | empty senderIp hplace => rw [hplace]; rfl
  | again errno hplace herrno => rw [hplace]; rfl
  | failed errno hplace herrno => rw [hplace]; rfl
  | push outcome packet hplace hfree => rw [hplace]; rfl

theorem WorkerMove.joined_eq_false (hmove : e.WorkerMove config clock t) :
    e.worker.joined = false := by
  cases hmove with
  | loop hplace => rw [hplace]; rfl
  | enter hplace => rw [hplace]; rfl
  | look hplace => rw [hplace]; rfl
  | park hplace => rw [hplace]; rfl
  | take hplace => rw [hplace]; rfl
  | handle nowMs packet hplace => rw [hplace]; rfl

theorem PollerMove.joined_eq_false (hmove : e.PollerMove config refused t) :
    e.poller.joined = false := by
  cases hmove with
  | loop hplace => rw [hplace]; rfl
  | broadcast hplace => rw [hplace]; rfl
  | drain hplace => rw [hplace]; rfl
  | wake hplace => rw [hplace]; rfl

theorem Orderly.receiverMove (h : e.Orderly) (hmove : e.ReceiverMove outcome t) : t.Orderly := by
  have hlive := hmove.joined_eq_false
  have hreceiver : e.main.pastReceiver = true → False := by
    intro hpast
    exact absurd (hlive.symm.trans (h.receiverEnded hpast)) (by simp)
  cases hmove with
  | loop outcome hplace =>
      exact { h with receiverEnded := fun hpast => (hreceiver hpast).elim }
  | received buffer senderIp hplace hlength =>
      exact { h with receiverEnded := fun hpast => (hreceiver hpast).elim }
  | empty senderIp hplace =>
      exact { h with receiverEnded := fun hpast => (hreceiver hpast).elim }
  | again errno hplace herrno =>
      exact { h with receiverEnded := fun hpast => (hreceiver hpast).elim }
  | failed errno hplace herrno =>
      exact { h with receiverEnded := fun _ => rfl }
  | push outcome packet hplace hfree =>
      refine ⟨h.opened, h.size, h.stopped, ?_, ?_, fun hpast => (hreceiver hpast).elim,
        h.pollerEnded, ?_⟩
      · -- the mutex is free, so the worker is not looking at the queue
        intro htaking
        have hholds : e.worker.holds = true := by
          rw [WorkerAt.notified_eq_taking htaking]
          rfl
        exact absurd (hfree.symm.trans hholds) (by simp)
      · intro hresting
        have hholds : e.worker.holds = true := by
          rw [WorkerAt.notified_resting hresting]
          rfl
        exact absurd (hfree.symm.trans hholds) (by simp)
      · intro hpast
        exact (WorkerAt.joined_notified e.worker).trans (h.workerEnded hpast)

theorem Orderly.workerMove (h : e.Orderly) (hmove : e.WorkerMove config clock t) :
    t.Orderly := by
  have hlive := hmove.joined_eq_false
  have hworker : e.main.pastWorker = true → False := by
    intro hpast
    exact absurd (hlive.symm.trans (h.workerEnded hpast)) (by simp)
  cases hmove with
  | loop hplace =>
      refine { h with
        waited := ?_
        resting := ?_
        workerEnded := fun hpast => (hworker hpast).elim }
      all_goals cases e.running <;> simp
  | enter hplace =>
      exact { h with
        waited := by simp
        resting := by simp
        workerEnded := fun hpast => (hworker hpast).elim }
  | look hplace =>
      refine { h with
        waited := ?_
        resting := ?_
        workerEnded := fun hpast => (hworker hpast).elim }
      · intro htaking
        by_contra hover
        simp [hover] at htaking
      · -- a wait that is not over has seen an empty queue
        intro hresting
        have hover : ¬ e.packetQueue.waitOver e.running = true := by
          intro hover
          simp [hover] at hresting
        simp only [PacketReceiveQueue.waitOver, Bool.or_eq_true, not_or, Bool.not_eq_true',
          Bool.not_eq_false, List.isEmpty_iff] at hover
        exact hover.1
  | park hplace =>
      exact { h with
        waited := by simp
        resting := fun _ => h.resting (.inl hplace)
        workerEnded := fun hpast => (hworker hpast).elim }
  | take hplace =>
      refine { h with
        waited := ?_
        resting := ?_
        workerEnded := fun hpast => (hworker hpast).elim }
      all_goals cases e.packetQueue.queue <;> simp
  | handle nowMs packet hplace =>
      exact { h with
        waited := by simp
        resting := by simp
        workerEnded := fun hpast => (hworker hpast).elim }

theorem Orderly.wakeMove (h : e.Orderly) (hmove : e.WakeMove t) : t.Orderly := by
  cases hmove with
  | wakeUp hplace =>
      refine { h with waited := by simp, resting := by simp, workerEnded := ?_ }
      intro hpast
      have hjoined := h.workerEnded hpast
      rw [hplace] at hjoined
      exact hjoined

theorem Orderly.pollerMove (h : e.Orderly) (hmove : e.PollerMove config refused t) : t.Orderly := by
  have hlive := hmove.joined_eq_false
  have hpoller : e.main.pastPoller = true → False := by
    intro hpast
    exact absurd (hlive.symm.trans (h.pollerEnded hpast)) (by simp)
  cases hmove with
  | loop hplace => exact { h with pollerEnded := fun hpast => (hpoller hpast).elim }
  | broadcast hplace => exact { h with pollerEnded := fun hpast => (hpoller hpast).elim }
  | drain hplace => exact { h with pollerEnded := fun hpast => (hpoller hpast).elim }
  | wake hplace => exact { h with pollerEnded := fun hpast => (hpoller hpast).elim }

/-- **Each step keeps it.** -/
theorem Orderly.step (h : e.Orderly) (hmove : Move config clock e t a) : t.Orderly := by
  cases hmove with
  | main hmove => exact h.mainMove hmove
  | receiver hmove => exact h.receiverMove hmove
  | worker hmove => exact h.workerMove hmove
  | wakeUp hmove => exact h.wakeMove hmove
  | poller hmove => exact h.pollerMove hmove

/-! ## After the stop -/

end

end Engine

/-! ## Runs -/

section

variable {config : MdnsProbePlannerConfig} {clock : Nat → Int} {interfaceName : Bytes}
  {running : Bool}

theorem Engine.Orderly.engineStep {e t : Engine} {a : EngineAction} (h : e.Orderly)
    (hstep : EngineStep config clock e a t) : Engine.Move config clock e t a := by
  rcases h.move hstep with ⟨u, hu, hmove⟩ | ⟨fault, hfault, -⟩
  · exact Except.ok.inj hu ▸ hmove
  · exact absurd hfault nofun

/-- What holds in every state from the call of `run`: nothing has happened yet, or
`running` has been set. -/
def Engine.Sound (interfaceName : Bytes) (running : Bool) (e : Engine) : Prop :=
  (∃ place : MainAt, place.opening = true ∧ e = .unopened interfaceName running place) ∨ e.Orderly

theorem Engine.Sound.called (interfaceName : Bytes) (running : Bool) :
    (Engine.called interfaceName running).Sound interfaceName running :=
  .inl ⟨.called, rfl, rfl⟩

/-- A step of `run` before its threads, or a step of any thread. -/
theorem Engine.Sound.step_cases {e t : Engine} {a : EngineAction}
    (h : e.Sound interfaceName running) (hstep : EngineStep config clock e a t) :
    (∃ place : MainAt, e = .unopened interfaceName running place ∧
      Engine.OpeningMove interfaceName running place a (.ok t)) ∨
    (e.Orderly ∧ Engine.Move config clock e t a) := by
  rcases h with ⟨place, hplace, rfl⟩ | h
  · exact .inl ⟨place, rfl, Engine.openingMove_of_next hplace hstep⟩
  · exact .inr ⟨h, h.engineStep hstep⟩

/-- **Each step keeps it.** -/
theorem sound_step (e : Engine) (a : EngineAction) (t : Engine)
    (h : e.Sound interfaceName running) (hstep : EngineStep config clock e a t) :
    t.Sound interfaceName running := by
  rcases h.step_cases hstep with ⟨place, rfl, hmove⟩ | ⟨h, hmove⟩
  · cases hmove with
    | alreadyRunning throws shutdown hrunning => exact .inl ⟨.declined, rfl, rfl⟩
    | call throws shutdown hrunning => exact .inl ⟨.binding, rfl, rfl⟩
    | decline ifap bindThrows timeoutThrows hstart => exact .inl ⟨.declined, rfl, rfl⟩
    | start ifap bindThrows bound hstart => exact .inr (.started interfaceName bound)
  · exact .inr (h.step hmove)

/-- Every state of a run is sound. -/
theorem sound_of_run {e : Engine} {as : List EngineAction}
    (hrun : Run (EngineStep config clock) (.called interfaceName running) as e) :
    e.Sound interfaceName running :=
  hrun.preserves sound_step (.called interfaceName running)

end

/-! ### A shutdown that does not end -/

/-- One packet is received, which the decoder rejects, and one query is sent. -/
def shortScan : List EngineAction :=
  [.main false false, .bind (some []) false false,
    .main false false, .main false false, .main false false,
    .receiver (.failed eAgain), .receiver (.received [1, 2] (ascii "10.0.0.7")),
    .receiver (.failed eAgain),
    .worker 0, .worker 0, .worker 0, .worker 0, .worker 7,
    .poller [] 8, .poller [false] 8, .poller [] 8,
    .main false true, .main false false, .main false false,
    .receiver (.failed eAgain), .worker 0, .poller [] 8,
    .main false false, .main false false, .main false false]

/-- The state that they lead to. -/
def shortScanEnd : Engine :=
  { Engine.called [] false with
    boundTo := some ([], [])
    main := .returned true
    receiver := .ended
    worker := .ended
    poller := .ended
    handled := [(7, [1, 2], ascii "10.0.0.7")]
    sent := [Engine.probeQuery Engine.metaQuestions] }

theorem shortScan_run :
    Run (EngineStep {} fun _ => 0) (.called [] false) shortScan shortScanEnd := by
  unfold shortScan
  repeat refine .cons rfl ?_
  exact .nil _

end Scanner
end LanDiscovery

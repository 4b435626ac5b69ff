import LanDiscovery.Scanner.EngineShutdown

/-!
# What `run` returns

`run` reports success just if no step failed: the engine was not running, there was an
interface and the socket could be bound, no thread could not be created, nothing was thrown
while it waited, the receiver met no error but a timeout or a signal, no query was refused.
Only what fails in `run` itself ends the scan: a receiver that has given up leaves the
engine running (`run_result`).
-/

namespace LanDiscovery
namespace Scanner

open Library Library.Transition

namespace Engine

/-- The action makes a step of the engine fail. -/
def Fails (config : MdnsProbePlannerConfig) (e : Engine) : EngineAction → Prop
  | .main throws _ => e.main = .called ∧ e.running = true ∨ e.Serving ∧ throws = true
  | .bind ifap bindThrows _ =>
      e.main = .binding ∧ start e.interfaceName ifap bindThrows = none
  | .receiver (.failed errno) => e.receiver = .receiving ∧ ¬ (errno = eAgain ∨ errno = eIntr)
  | .receiver (.received _ _) => False
  | .worker _ => False
  | .wakeUp => False
  | .poller refused _ => (e.attempts config refused).any Prod.snd = true

/-- The action ends the scan: a shutdown is requested, or `run` fails itself. -/
def Ends (e : Engine) : EngineAction → Prop
  | .main throws shutdown =>
      e.main = .called ∧ e.running = true ∨
        e.Serving ∧ (throws = true ∨ e.main = .looping ∧ shutdown = true)
  | .bind ifap bindThrows _ =>
      e.main = .binding ∧ start e.interfaceName ifap bindThrows = none
  | _ => False

/-- What `run` returns false for. -/
def Failed (e : Engine) : Prop :=
  e.errorOccurred = true ∨ e.main = .declined

/-- `run` has nothing to end for yet. -/
def Active (e : Engine) : Prop :=
  e.main = .called ∨ e.main = .binding ∨ e.Serving

/-- What `run` has returned is whether something has failed. -/
def Reported (e : Engine) : Prop :=
  ∀ ok, e.result = some ok → (ok = false ↔ e.Failed)

section

variable {config : MdnsProbePlannerConfig} {clock : Nat → Int} {e t : Engine} {a : EngineAction}
  {outcome : ReceiveOutcome} {refused : List Bool} {throws shutdown : Bool} {room : Nat}

/-! ## A step that fails -/

theorem MainMove.errorOccurred (h : e.Orderly) (hmove : e.MainMove throws shutdown t) :
    t.errorOccurred = true ↔
      e.errorOccurred = true ∨ e.Fails config (.main throws shutdown) := by
  have hcalled : ¬ (e.main = .called ∧ e.running = true) := by
    rintro ⟨hmain, -⟩
    simpa [hmain, MainAt.opening] using h.opened
  rw [Fails, or_iff_right hcalled]
  cases hmove with
  | fails hserving => simp [mainFails, hserving]
  | startWorker hmain => simp
  | startReceiver hmain => simp
  | startPoller hmain => simp
  | loop hmain => simp
  | leave hmain hleave =>
      simp [(h.requested hmain hleave).1]
  | stop hmain => simp [Serving, hmain]
  | notify hmain => simp [Serving, hmain, Engine.notify]
  | joinReceiver hmain hjoined => simp [Serving, hmain]
  | joinPoller hmain hjoined => simp [Serving, hmain]
  | joinWorker hmain hjoined => simp [Serving, hmain]

theorem ReceiverMove.errorOccurred (hmove : e.ReceiverMove outcome t) :
    t.errorOccurred = true ↔ e.errorOccurred = true ∨ e.Fails config (.receiver outcome) := by
  cases hmove with
  | loop outcome hplace => cases outcome <;> simp [Fails, hplace]
  | received buffer senderIp hplace hlength => simp [Fails]
  | empty senderIp hplace => simp [Fails]
  | again errno hplace herrno => simp [Fails, herrno]
  | failed errno hplace herrno => simp [Fails, hplace, herrno]
  | push outcome packet hplace hfree => cases outcome <;> simp [Fails, hplace, notify]

theorem PollerMove.errorOccurred (hmove : e.PollerMove config refused t) :
    t.errorOccurred = true ↔ e.errorOccurred = true ∨ e.Fails config (.poller refused room) := by
  cases hmove with
  | loop hplace => simp [Fails, attempts, hplace]
  | broadcast hplace => simp [Fails, afterSends]
  | drain hplace => simp [Fails, afterDrain, afterSends]
  | wake hplace => simp [Fails, attempts, hplace]

/-- A step sets the flag just if it fails. -/
theorem Move.errorOccurred (h : e.Orderly) (hmove : Move config clock e t a) :
    t.errorOccurred = true ↔ e.errorOccurred = true ∨ e.Fails config a := by
  cases hmove with
  | main hmove => exact hmove.errorOccurred h
  | receiver hmove => exact hmove.errorOccurred
  | worker hmove => cases hmove <;> simp [Fails, afterPacket]
  | wakeUp hmove =>
      cases hmove
      simp [Fails]
  | poller hmove => exact hmove.errorOccurred

theorem Orderly.failed_iff (h : e.Orderly) : e.Failed ↔ e.errorOccurred = true := by
  refine or_iff_left fun hmain => ?_
  simpa [hmain, MainAt.opening] using h.opened

/-! ## A step that ends the scan -/

/-- Only a failure or a request takes `run` out of its loop. -/
theorem MainMove.active (h : e.Orderly) (hmove : e.MainMove throws shutdown t)
    (ht : ¬ t.Active) : ¬ e.Active ∨ e.Ends (.main throws shutdown) := by
  cases hmove with
  | fails hserving => exact .inr (.inr ⟨hserving, .inl rfl⟩)
  | startWorker hmain => simp [Active, Serving] at ht
  | startReceiver hmain => simp [Active, Serving] at ht
  | startPoller hmain => simp [Active, Serving] at ht
  | loop hmain => simp [Active, Serving] at ht
  | leave hmain hleave =>
      have hshutdown := (h.requested hmain hleave).2
      exact .inr (.inr ⟨.inr (.inr (.inr hmain)), .inr ⟨hmain, hshutdown⟩⟩)
  | stop hmain => exact .inl (by simp [Active, Serving, hmain])
  | notify hmain => exact .inl (by simp [Active, Serving, hmain])
  | joinReceiver hmain hjoined => exact .inl (by simp [Active, Serving, hmain])
  | joinPoller hmain hjoined => exact .inl (by simp [Active, Serving, hmain])
  | joinWorker hmain hjoined => exact .inl (by simp [Active, Serving, hmain])

/-- The other threads leave `run` and its interface as they are. -/
theorem Move.main_eq_or (hmove : Move config clock e t a) :
    (t.main = e.main ∧ t.boundTo = e.boundTo) ∨
      ∃ throws shutdown, a = .main throws shutdown ∧ e.MainMove throws shutdown t := by
  cases hmove with
  | main hmove => exact .inr ⟨_, _, rfl, hmove⟩
  | receiver hmove => cases hmove <;> exact .inl ⟨rfl, rfl⟩
  | worker hmove => cases hmove <;> exact .inl ⟨rfl, rfl⟩
  | wakeUp hmove =>
      cases hmove
      exact .inl ⟨rfl, rfl⟩
  | poller hmove => cases hmove <;> exact .inl ⟨rfl, rfl⟩

theorem Move.boundTo (hmove : Move config clock e t a) : t.boundTo = e.boundTo := by
  rcases hmove.main_eq_or with ⟨-, hbound⟩ | ⟨throws, shutdown, -, hmain⟩
  · exact hbound
  · cases hmain <;> rfl

/-- Once `run` has returned, nothing happens. -/
theorem Orderly.not_move_of_returned (h : e.Orderly) {ok : Bool} (hmain : e.main = .returned ok) :
    ¬ Move config clock e t a := by
  intro hmove
  have hreceiver := h.receiverEnded (by rw [hmain]; rfl)
  have hpoller := h.pollerEnded (by rw [hmain]; rfl)
  have hworker := h.workerEnded (by rw [hmain]; rfl)
  cases hmove with
  | main hmove => cases hmove <;> simp_all [Serving]
  | receiver hmove => exact absurd (hmove.joined_eq_false.symm.trans hreceiver) (by simp)
  | worker hmove => exact absurd (hmove.joined_eq_false.symm.trans hworker) (by simp)
  | wakeUp hmove =>
      cases hmove with
      | wakeUp hplace => simp [hplace, WorkerAt.joined] at hworker
  | poller hmove => exact absurd (hmove.joined_eq_false.symm.trans hpoller) (by simp)

theorem returned_of_result (h : e.Orderly) {ok : Bool} (hresult : e.result = some ok) :
    e.main = .returned ok := by
  have hopened := h.opened
  cases hmain : e.main <;> simp_all [result, MainAt.opening]

theorem Orderly.reported_step (h : e.Orderly) (hmove : Move config clock e t a) : t.Reported := by
  intro ok hresult
  have hreturned := returned_of_result (h.step hmove) hresult
  rw [(h.step hmove).failed_iff]
  rcases hmove.main_eq_or with ⟨hmain, -⟩ | ⟨throws, shutdown, -, hmain⟩
  · exact absurd hmove (h.not_move_of_returned (hmain.symm.trans hreturned))
  · cases hmain with
    | joinWorker hbefore hjoined =>
        obtain rfl : (!e.errorOccurred) = ok := MainAt.returned.inj hreturned
        simp
    | _ => simp [mainFails] at hreturned

end

/-! ## With the steps before the threads -/

section

variable {config : MdnsProbePlannerConfig} {clock : Nat → Int} {interfaceName : Bytes}
  {running : Bool} {e t : Engine} {a : EngineAction}

theorem Sound.failed_step (h : e.Sound interfaceName running)
    (hstep : EngineStep config clock e a t) : t.Failed ↔ e.Failed ∨ e.Fails config a := by
  rcases h.step_cases hstep with ⟨place, rfl, hmove⟩ | ⟨h, hmove⟩
  · cases hmove with
    | alreadyRunning throws shutdown hrunning =>
        simp [Failed, Fails, unopened, Engine.called, hrunning]
    | call throws shutdown hrunning =>
        simp [Failed, Fails, unopened, Engine.called, hrunning, Serving]
    | decline ifap bindThrows timeoutThrows hstart =>
        simp [Failed, Fails, unopened, Engine.called, hstart]
    | start ifap bindThrows bound hstart =>
        simp [Failed, Fails, unopened, started, Engine.called, hstart]
  · rw [(h.step hmove).failed_iff, h.failed_iff]
    exact hmove.errorOccurred h

theorem Sound.active_step (h : e.Sound interfaceName running)
    (hstep : EngineStep config clock e a t) (ht : ¬ t.Active) : ¬ e.Active ∨ e.Ends a := by
  rcases h.step_cases hstep with ⟨place, rfl, hmove⟩ | ⟨h, hmove⟩
  · cases hmove with
    | alreadyRunning throws shutdown hrunning => exact .inr (.inl ⟨rfl, hrunning⟩)
    | call throws shutdown hrunning => exact absurd (.inr (.inl rfl)) ht
    | decline ifap bindThrows timeoutThrows hstart => exact .inr ⟨rfl, hstart⟩
    | start ifap bindThrows bound hstart => exact absurd (.inr (.inr (.inl rfl))) ht
  · rcases hmove.main_eq_or with ⟨hmain, -⟩ | ⟨throws, shutdown, rfl, hmain⟩
    · left
      rwa [Active, Serving, ← hmain]
    · exact hmain.active h ht

theorem Sound.reported_step (h : e.Sound interfaceName running)
    (hstep : EngineStep config clock e a t) : t.Reported := by
  rcases h.step_cases hstep with ⟨place, rfl, hmove⟩ | ⟨h, hmove⟩
  · intro ok hresult
    cases hmove with
    | alreadyRunning throws shutdown hrunning =>
        exact iff_of_true (Option.some.inj hresult).symm (.inr rfl)
    | call throws shutdown hrunning => exact absurd hresult nofun
    | decline ifap bindThrows timeoutThrows hstart =>
        exact iff_of_true (Option.some.inj hresult).symm (.inr rfl)
    | start ifap bindThrows bound hstart => exact absurd hresult nofun
  · exact h.reported_step hmove

theorem start_eq_some {ifap : Option (List Ifaddrs)} {bindThrows : Bool} {bound : Bytes × Bytes}
    (h : start interfaceName ifap bindThrows = some bound) :
    bindThrows = false ∧ startInterface (listIpv4Interfaces ifap) interfaceName = some bound := by
  unfold start at h
  cases hstart : startInterface (listIpv4Interfaces ifap) interfaceName with
  | none => simp [hstart] at h
  | some found => cases bindThrows <;> simp_all

/-- The socket is bound by `start`, and stays so. -/
theorem Sound.boundTo_step (h : e.Sound interfaceName running)
    (hstep : EngineStep config clock e a t) {bound : Bytes × Bytes}
    (ht : t.boundTo = some bound) :
    e.boundTo = some bound ∨ ∃ ifap, a = .bind ifap false false ∧
      startInterface (listIpv4Interfaces ifap) interfaceName = some bound := by
  rcases h.step_cases hstep with ⟨place, rfl, hmove⟩ | ⟨-, hmove⟩
  · cases hmove with
    | alreadyRunning throws shutdown hrunning => exact absurd ht nofun
    | call throws shutdown hrunning => exact absurd ht nofun
    | decline ifap bindThrows timeoutThrows hstart => exact absurd ht nofun
    | start ifap bindThrows found hstart =>
        obtain ⟨rfl, hfound⟩ := start_eq_some hstart
        exact .inr ⟨ifap, rfl, hfound.trans ht⟩
  · exact .inl (hmove.boundTo.symm.trans ht)

/-- Once `running` is set, the socket is bound. -/
theorem Sound.isSome_step (h : e.Sound interfaceName running)
    (hstep : EngineStep config clock e a t)
    (hbound : e.main.opening = false → e.boundTo.isSome = true) :
    t.main.opening = false → t.boundTo.isSome = true := by
  intro hopened
  rcases h.step_cases hstep with ⟨place, rfl, hmove⟩ | ⟨h, hmove⟩
  · cases hmove with
    | alreadyRunning throws shutdown hrunning => exact absurd hopened nofun
    | call throws shutdown hrunning => exact absurd hopened nofun
    | decline ifap bindThrows timeoutThrows hstart => exact absurd hopened nofun
    | start ifap bindThrows found hstart => rfl
  · rw [hmove.boundTo]
    exact hbound h.opened

end

end Engine

section

variable {config : MdnsProbePlannerConfig} {clock : Nat → Int} {interfaceName : Bytes}
  {running : Bool}

/-- The engine runs on the interface that was found for its name among those there were. -/
theorem exists_bind {e : Engine} {as : List EngineAction}
    (hrun : Run (EngineStep config clock) (.called interfaceName running) as e)
    (hopened : e.main.opening = false) :
    ∃ ifap bound, EngineAction.bind ifap false false ∈ as ∧
      startInterface (listIpv4Interfaces ifap) interfaceName = some bound ∧
      e.boundTo = some bound := by
  have hsome := hrun.preserves
    (I := fun s => s.Sound interfaceName running ∧
      (s.main.opening = false → s.boundTo.isSome = true))
    (fun s a t hs hstep => ⟨sound_step s a t hs.1 hstep, hs.1.isSome_step hstep hs.2⟩)
    ⟨.called interfaceName running, nofun⟩
  obtain ⟨bound, hbound⟩ := Option.isSome_iff_exists.mp (hsome.2 hopened)
  have horigin := hrun.origin (F := fun s => s.boundTo = some bound) sound_step
    (fun s a t hs hstep => hs.boundTo_step hstep) (.called interfaceName running) hbound
  obtain ⟨bs, a, cs, u, rfl, -, ⟨ifap, rfl, hstart⟩, -⟩ := horigin.resolve_left nofun
  exact ⟨ifap, bound, by simp, hstart, hbound⟩

/-- **What `run` returns.**  When `run` has returned, the threads have ended.  It has
returned false just if a step failed on the way, and it only came to an end because a
shutdown was requested or `run` itself failed.  Either it returned before it set `running`,
and left everything as it was, or it ran on the interface that was found for its name. -/
theorem run_result (config : MdnsProbePlannerConfig) (clock : Nat → Int) (interfaceName : Bytes)
    (running : Bool) (as : List EngineAction) (e : Engine)
    (hrun : Run (EngineStep config clock) (.called interfaceName running) as e) (ok : Bool)
    (hresult : e.result = some ok) :
    (e.receiver.joined = true ∧ e.poller.joined = true ∧ e.worker.joined = true) ∧
    (ok = false ↔
      SomeStep (EngineStep config clock) (Engine.Fails config) (.called interfaceName running)
        as e) ∧
    SomeStep (EngineStep config clock) Engine.Ends (.called interfaceName running) as e ∧
    (e = .unopened interfaceName running .declined ∨
      ∃ ifap bound, EngineAction.bind ifap false false ∈ as ∧
        startInterface (listIpv4Interfaces ifap) interfaceName = some bound ∧
        e.boundTo = some bound) := by
  have hsound := sound_of_run hrun
  refine ⟨?_, ?_, ?_, ?_⟩
  · rcases hsound with ⟨place, -, rfl⟩ | horderly
    · exact ⟨rfl, rfl, rfl⟩
    · have hreturned := Engine.returned_of_result horderly hresult
      exact ⟨horderly.receiverEnded (by rw [hreturned]; rfl),
        horderly.pollerEnded (by rw [hreturned]; rfl),
        horderly.workerEnded (by rw [hreturned]; rfl)⟩
  · have hreported : e.Reported := by
      refine (hrun.preserves (I := fun s => s.Sound interfaceName running ∧ s.Reported) ?_
        ⟨.called interfaceName running, nofun⟩).2
      intro s a t hs hstep
      exact ⟨sound_step s a t hs.1 hstep, hs.1.reported_step hstep⟩
    have hflag := hrun.flag_iff (F := Engine.Failed) sound_step
      (fun s a t hs hstep => hs.failed_step hstep) (.called interfaceName running)
    have hstart : ¬ (Engine.called interfaceName running).Failed := by
      simp [Engine.Failed, Engine.called]
    rw [or_iff_right hstart] at hflag
    rw [← hflag]
    exact hreported ok hresult
  · have hinactive : ¬ e.Active := by
      rintro (hmain | hmain | hmain | hmain | hmain | hmain) <;>
        simp [Engine.result, hmain] at hresult
    have horigin := hrun.origin (F := fun s => ¬ s.Active) sound_step
      (fun s a t hs hstep => hs.active_step hstep) (.called interfaceName running) hinactive
    exact horigin.resolve_left fun hstart => hstart (.inl rfl)
  · rcases hsound with ⟨place, hplace, rfl⟩ | horderly
    · left
      cases place <;> simp_all [MainAt.opening, Engine.result, Engine.unopened]
    · exact .inr (exists_bind hrun horderly.opened)

/-- No step of a short scan fails. -/
theorem shortScan_result :
    ¬ SomeStep (EngineStep {} fun _ => 0) (Engine.Fails {}) (.called [] false) shortScan
      shortScanEnd := by
  obtain ⟨-, hresult, -⟩ :=
    run_result {} (fun _ => 0) [] false shortScan shortScanEnd shortScan_run true rfl
  exact fun hsome => absurd (hresult.mpr hsome) (by decide)

end

end Scanner
end LanDiscovery

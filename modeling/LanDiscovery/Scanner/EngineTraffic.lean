import LanDiscovery.Scanner.EngineShutdown
import LanDiscovery.Scanner.PacketDelivery

/-!
# What the engine makes of the packets

The engine over all runs.  What its threads do to the queue is a run of the queue that
pushes what `receive_packet` returns and pops what the worker gets (`Traced.step`), so what
is known of the queue holds of these packets.  The counters, the calls of the sink and what
the change filter behind it lets through are functions of the packets that the worker got,
in the order in which they came (`engine_accounts`).
-/

namespace LanDiscovery
namespace Scanner

open Library Library.FirstSeen Library.Outcome Library.Transition Library.Utf8

/-- The packet that the worker has in hand. -/
def WorkerAt.packets : WorkerAt → List Packet
  | .handling packet => [packet]
  | _ => []

/-- The packet that the receiver has in hand. -/
def ReceiverAt.packets : ReceiverAt → List Packet
  | .pushing packet => [packet]
  | _ => []

namespace Engine

/-- The packet that `receive_packet` returns in a step, unless it is empty. -/
def arrivals (e : Engine) : EngineAction → List Packet
  | .receiver (.received buffer senderIp) =>
      if e.receiver = .receiving ∧ buffer.length > 0 then [(buffer, senderIp)] else []
  | _ => []

/-- The queue as its calls see it. -/
def queueState (e : Engine) : QueueState Packet where
  queue := e.packetQueue
  running := e.running
  holding := decide (e.worker = .taking)

/-- The packets that the worker has been given. -/
def taken (e : Engine) : List Packet :=
  e.handled.map Prod.snd ++ e.worker.packets

/-- The responses among the packets that the worker is done with. -/
def responses (e : Engine) : List DecodedResponse :=
  e.handled.filterMap fun entry => responseOf entry.1 entry.2

/-- The packets that the decoder rejected. -/
def malformed (e : Engine) : Nat :=
  e.handled.countP fun entry => !isQuery entry.2 && (responseOf entry.1 entry.2).isNone

/-- The counters and the calls of the sink follow from the packets handled. -/
structure Accounted (e : Engine) : Prop where
  queries : e.queriesSeen = e.handled.countP fun entry => isQuery entry.2
  responses : e.responsesSeen = e.responses.length
  emitted : e.emitted = (e.responses.map DecodedResponse.event).filter fun ev =>
    !ev.records.isEmpty
  events : e.sinkEvents = e.emitted.length

end Engine

/-! ## The queue of the engine -/

@[simp] theorem WorkerAt.packets_notified (place : WorkerAt) :
    place.notified.packets = place.packets := by
  cases place <;> rfl

@[simp] theorem WorkerAt.notified_eq_taking_iff (place : WorkerAt) :
    place.notified = .taking ↔ place = .taking := by
  cases place <;> simp [WorkerAt.notified]

namespace Engine

section

variable {config : MdnsProbePlannerConfig} {clock : Nat → Int} {e t : Engine} {a : EngineAction}
  {outcome : ReceiveOutcome} {refused : List Bool} {throws shutdown : Bool}

/-- The worker and the receiver are started once. -/
structure Fresh (e : Engine) : Prop where
  worker : e.main = .startWorker → e.worker = .notStarted
  receiver : e.main = .startWorker ∨ e.main = .startReceiver → e.receiver = .notStarted

theorem Fresh.started (interfaceName : Bytes) (bound : Bytes × Bytes) :
    (Engine.started interfaceName bound).Fresh :=
  ⟨fun _ => rfl, fun _ => rfl⟩

theorem Move.fresh (hmove : Move config clock e t a) (h : e.Fresh) : t.Fresh := by
  cases hmove with
  | main hmove =>
      cases hmove with
      | startWorker hmain => exact ⟨nofun, fun _ => h.receiver (.inl hmain)⟩
      | _ => exact ⟨nofun, fun hmain => hmain.elim nofun nofun⟩
  | receiver hmove =>
      have hlive := hmove.joined_eq_false
      have hreceiver : ¬ (e.main = .startWorker ∨ e.main = .startReceiver) := by
        intro hmain
        rw [h.receiver hmain] at hlive
        exact absurd hlive (by simp [ReceiverAt.joined])
      cases hmove with
      | _ =>
          exact ⟨fun hmain => absurd (.inl hmain) hreceiver, fun hmain => absurd hmain hreceiver⟩
  | worker hmove =>
      have hlive := hmove.joined_eq_false
      have hworker : e.main ≠ .startWorker := by
        intro hmain
        rw [h.worker hmain] at hlive
        exact absurd hlive (by simp [WorkerAt.joined])
      cases hmove with
      | _ => exact ⟨fun hmain => absurd hmain hworker, h.receiver⟩
  | wakeUp hmove =>
      cases hmove with
      | wakeUp hplace =>
          exact ⟨fun hmain => absurd (hplace.symm.trans (h.worker hmain)) (by simp), h.receiver⟩
  | poller hmove => cases hmove <;> exact ⟨h.worker, h.receiver⟩

/-- A step leaves the queue and the packets taken alone; what arrives in it is in hand. -/
structure Idle (e t : Engine) (arrived : List Packet) : Prop where
  queue : t.queueState = e.queueState
  taken : t.taken = e.taken
  inHand : t.receiver.packets = e.receiver.packets ++ arrived

/-- A step is an action of the queue, which pushes what was in hand or has arrived; what it
hands out goes to the worker. -/
def Acts (e t : Engine) (arrived : List Packet) : Prop :=
  ∃ b packet, e.queueState.next b = some (.ok (packet, t.queueState)) ∧
    t.taken = e.taken ++ packet.toList ∧
    b.packets ++ t.receiver.packets = e.receiver.packets ++ arrived

@[simp] theorem queueState_notify (e : Engine) : e.notify.queueState = e.queueState := by
  unfold queueState notify
  simp only [WorkerAt.notified_eq_taking_iff]

@[simp] theorem taken_notify (e : Engine) : e.notify.taken = e.taken := by
  unfold taken notify
  rw [WorkerAt.packets_notified]

theorem idle_of_places {place place' : WorkerAt} (hplace : e.worker = place)
    (hqueue : t.packetQueue = e.packetQueue) (hrunning : t.running = e.running)
    (hhandled : t.handled = e.handled) (hplace' : t.worker = place')
    (htaking : place ≠ .taking ∧ place' ≠ .taking)
    (hpackets : place'.packets = place.packets) (hreceiver : t.receiver = e.receiver) :
    Idle e t [] := by
  refine ⟨?_, ?_, ?_⟩
  · simp [queueState, hplace, hplace', hqueue, hrunning, htaking.1, htaking.2]
  · simp [taken, hplace, hplace', hhandled, hpackets]
  · rw [hreceiver, List.append_nil]

theorem MainMove.queue (h : e.Fresh) (hmove : e.MainMove throws shutdown t) :
    Idle e t [] ∨ Acts e t [] := by
  cases hmove with
  | startWorker hmain =>
      left
      exact idle_of_places (h.worker hmain) rfl rfl rfl rfl ⟨by simp, by simp⟩ rfl rfl
  | startReceiver hmain =>
      left
      refine ⟨rfl, rfl, ?_⟩
      rw [h.receiver (.inr hmain)]
      rfl
  | stop hmain =>
      right
      exact ⟨.stop, none, rfl, (List.append_nil _).symm, (List.append_nil _).symm⟩
  | notify hmain =>
      left
      exact ⟨queueState_notify e, taken_notify e, (List.append_nil _).symm⟩
  | _ => exact .inl ⟨rfl, rfl, (List.append_nil _).symm⟩

theorem arrivals_of_ne (hplace : e.receiver ≠ .receiving) (outcome : ReceiveOutcome) :
    e.arrivals (.receiver outcome) = [] := by
  cases outcome with
  | received buffer senderIp => exact if_neg fun h => hplace h.1
  | failed errno => rfl

theorem ReceiverMove.queue (hpos : 0 < e.packetQueue.maxSize) (hmove : e.ReceiverMove outcome t) :
    Idle e t (e.arrivals (.receiver outcome)) ∨ Acts e t (e.arrivals (.receiver outcome)) := by
  cases hmove with
  | loop outcome hplace =>
      left
      rw [arrivals_of_ne (by simp [hplace])]
      refine ⟨rfl, rfl, ?_⟩
      rw [hplace]
      cases e.running <;> rfl
  | received buffer senderIp hplace hlength =>
      left
      refine ⟨rfl, rfl, ?_⟩
      rw [arrivals, if_pos ⟨hplace, hlength⟩, hplace]
      rfl
  | empty senderIp hplace =>
      left
      refine ⟨rfl, rfl, ?_⟩
      rw [arrivals, if_neg (by simp), hplace]
      rfl
  | again errno hplace herrno =>
      left
      refine ⟨rfl, rfl, ?_⟩
      rw [hplace]
      rfl
  | failed errno hplace herrno =>
      left
      refine ⟨rfl, rfl, ?_⟩
      rw [hplace]
      rfl
  | push outcome packet hplace hfree =>
      right
      have hholding : ¬ e.worker = .taking := by
        intro htaking
        rw [htaking] at hfree
        exact absurd hfree (by simp [WorkerAt.holds])
      refine ⟨.push packet, none, ?_, ?_, ?_⟩
      · rw [queueState_notify]
        simp [QueueState.next, queueState, hholding, PacketReceiveQueue.push_eq hpos]
      · rw [taken_notify, Option.toList_none, List.append_nil]
        rfl
      · rw [arrivals_of_ne (by simp [hplace]), hplace]
        rfl

theorem WorkerMove.queue (h : e.Orderly) (hmove : e.WorkerMove config clock t) :
    Idle e t [] ∨ Acts e t [] := by
  cases hmove with
  | loop hplace =>
      left
      have htaking : (if e.running then WorkerAt.entering else .ended) ≠ .taking := by
        cases e.running <;> simp
      have hpackets : (if e.running then WorkerAt.entering else .ended).packets = [] := by
        cases e.running <;> rfl
      exact idle_of_places hplace rfl rfl rfl rfl ⟨by simp, htaking⟩ hpackets rfl
  | enter hplace =>
      left
      exact idle_of_places hplace rfl rfl rfl rfl ⟨by simp, by simp⟩ rfl rfl
  | look hplace =>
      right
      refine ⟨.check, none, ?_, ?_, (List.append_nil _).symm⟩
      · cases hover : e.packetQueue.waitOver e.running <;>
          simp [QueueState.next, queueState, hplace, hover]
      · cases hover : e.packetQueue.waitOver e.running <;>
          simp [taken, hplace, WorkerAt.packets]
  | park hplace =>
      left
      exact idle_of_places hplace rfl rfl rfl rfl ⟨by simp, by simp⟩ rfl rfl
  | take hplace =>
      right
      refine ⟨.finish, e.packetQueue.queue.head?, ?_, ?_, (List.append_nil _).symm⟩
      · cases hqueue : e.packetQueue.queue <;>
          simp [QueueState.next, queueState, hplace, hqueue,
            PacketReceiveQueue.takeFront_eq (h.waited hplace)]
      · cases hqueue : e.packetQueue.queue <;> simp [taken, hplace, WorkerAt.packets]
  | handle nowMs packet hplace =>
      left
      refine ⟨?_, ?_, (List.append_nil _).symm⟩
      · simp [queueState, hplace, afterPacket]
      · simp [taken, hplace, WorkerAt.packets]

theorem WakeMove.queue (hmove : e.WakeMove t) : Idle e t [] := by
  cases hmove with
  | wakeUp hplace => exact idle_of_places hplace rfl rfl rfl rfl ⟨by simp, by simp⟩ rfl rfl

theorem PollerMove.queue (hmove : e.PollerMove config refused t) : Idle e t [] := by
  cases hmove <;> exact ⟨rfl, rfl, (List.append_nil _).symm⟩

/-- **The engine's queue is the queue.** -/
theorem Orderly.queue (h : e.Orderly) (hfresh : e.Fresh) (hmove : Move config clock e t a) :
    Idle e t (e.arrivals a) ∨ Acts e t (e.arrivals a) := by
  cases hmove with
  | main hmove => exact hmove.queue hfresh
  | receiver hmove => exact hmove.queue h.maxSize_pos
  | worker hmove => exact hmove.queue h
  | wakeUp hmove => exact .inl hmove.queue
  | poller hmove => exact .inl hmove.queue

end

/-! ## What is counted -/

section

variable {config : MdnsProbePlannerConfig} {clock : Nat → Int} {e t : Engine} {a : EngineAction}

/-- Nothing has been counted while no packet has been handled. -/
theorem Accounted.unopened (interfaceName : Bytes) (running : Bool) (place : MainAt) :
    (Engine.unopened interfaceName running place).Accounted where
  queries := rfl
  responses := rfl
  emitted := rfl
  events := rfl

theorem Accounted.started (interfaceName : Bytes) (bound : Bytes × Bytes) :
    (Engine.started interfaceName bound).Accounted where
  queries := rfl
  responses := rfl
  emitted := rfl
  events := rfl

/-- A step is done with one packet more, or with none. -/
theorem Move.handled (hmove : Move config clock e t a) :
    (t.handled = e.handled ∧ t.queriesSeen = e.queriesSeen ∧
      t.responsesSeen = e.responsesSeen ∧ t.sinkEvents = e.sinkEvents ∧
      t.emitted = e.emitted) ∨
    ∃ nowMs packet, t = { e.afterPacket config clock nowMs packet with
      worker := .loop
      handled := e.handled ++ [(nowMs, packet)] } := by
  cases hmove with
  | main hmove => cases hmove <;> exact .inl ⟨rfl, rfl, rfl, rfl, rfl⟩
  | receiver hmove => cases hmove <;> exact .inl ⟨rfl, rfl, rfl, rfl, rfl⟩
  | worker hmove =>
      cases hmove with
      | handle nowMs packet hplace => exact .inr ⟨nowMs, packet, rfl⟩
      | _ => exact .inl ⟨rfl, rfl, rfl, rfl, rfl⟩
  | wakeUp hmove =>
      cases hmove
      exact .inl ⟨rfl, rfl, rfl, rfl, rfl⟩
  | poller hmove => cases hmove <;> exact .inl ⟨rfl, rfl, rfl, rfl, rfl⟩

theorem Accounted.move (h : e.Accounted) (hmove : Move config clock e t a) : t.Accounted := by
  rcases hmove.handled with ⟨hhandled, hqueries, hresponses, hevents, hemitted⟩ |
    ⟨nowMs, packet, rfl⟩
  · have hsame : t.responses = e.responses := by rw [Engine.responses, hhandled]; rfl
    refine ⟨?_, ?_, ?_, ?_⟩
    · rw [hqueries, h.queries, hhandled]
    · rw [hresponses, h.responses, hsame]
    · rw [hemitted, h.emitted, hsame]
    · rw [hevents, h.events, hemitted]
  · have hmore : Engine.responses { e.afterPacket config clock nowMs packet with
        worker := .loop
        handled := e.handled ++ [(nowMs, packet)] } =
        e.responses ++ (responseOf nowMs packet).toList := by
      simp [Engine.responses, List.filterMap_append, List.filterMap_cons]
      cases responseOf nowMs packet <;> rfl
    refine ⟨?_, ?_, ?_, ?_⟩
    · show e.queriesSeen + _ = (e.handled ++ [(nowMs, packet)]).countP _
      rw [List.countP_append, List.countP_singleton, h.queries]
    · rw [hmore, List.length_append]
      show e.responsesSeen + _ = _
      rw [h.responses]
    · rw [hmore, List.map_append, List.filter_append]
      show e.emitted ++ _ = _
      rw [h.emitted]
      rfl
    · show e.sinkEvents + _ = (e.emitted ++ offered nowMs packet).length
      rw [List.length_append, h.events]

/-- Each packet that the worker is done with is a query, a response or malformed. -/
theorem Accounted.length_handled (h : e.Accounted) :
    e.handled.length = e.queriesSeen + e.responsesSeen + e.malformed := by
  rw [h.queries, h.responses, Engine.responses, Engine.malformed]
  induction e.handled with
  | nil => rfl
  | cons entry rest ih =>
      rw [List.length_cons, List.countP_cons, List.countP_cons, List.filterMap_cons]
      rcases packet_cases entry.1 entry.2 with ⟨what, -, hquery, hresponse⟩ |
        ⟨msg, -, -, hquery, hresponse⟩ | ⟨r, -, -, -, -, hquery, hresponse⟩ <;>
        · simp [hquery, hresponse]
          omega

/-- An event without records is not for the sink. -/
theorem emittedRecords_filter (evs : List DiscoveryEvent) :
    emittedRecords (evs.filter fun ev => !ev.records.isEmpty) = emittedRecords evs := by
  induction evs with
  | nil => rfl
  | cons ev evs ih =>
      have hcons : ∀ rest : List DiscoveryEvent,
          emittedRecords (ev :: rest) = eventRecords ev ++ emittedRecords rest := by
        simp [emittedRecords]
      cases hempty : ev.records.isEmpty with
      | true =>
          have hnil : eventRecords ev = [] := by
            rw [eventRecords, List.isEmpty_iff.mp hempty]
            rfl
          rw [List.filter_cons_of_neg (by simp [hempty]), hcons, hnil, List.nil_append, ih]
      | false => rw [List.filter_cons_of_pos (by simp [hempty]), hcons, hcons, ih]

/-- What the change filter lets through is the first occurrence of each store key among
the records of the responses. -/
theorem Accounted.filtered (h : e.Accounted) :
    emittedRecords (filterRun ∅ e.emitted).1 =
      (scan storeKey ∅ (displayableRecords e.responses)).1 := by
  have hrun := congrArg Prod.fst (emittedRecords_filterRun ∅ e.emitted)
  rw [h.emitted, emittedRecords_filter, scan_storeKey_events] at hrun
  rw [h.emitted]
  exact hrun

end

end Engine

/-! ## Runs -/

section

variable {config : MdnsProbePlannerConfig} {clock : Nat → Int} {interfaceName : Bytes}
  {running : Bool}

theorem Engine.advance_eq_some_iff {e t : Engine} {a : EngineAction} :
    e.advance config clock a = some t ↔ EngineStep config clock e a t := by
  unfold Engine.advance EngineStep
  split <;> simp_all

theorem Engine.Sound.accounted_step {e t : Engine} {a : EngineAction}
    (h : e.Sound interfaceName running) (haccounted : e.Accounted)
    (hstep : EngineStep config clock e a t) : t.Accounted := by
  rcases h.step_cases hstep with ⟨place, rfl, hmove⟩ | ⟨-, hmove⟩
  · cases hmove with
    | alreadyRunning throws shutdown hrunning => exact .unopened interfaceName running .declined
    | call throws shutdown hrunning => exact .unopened interfaceName running .binding
    | decline ifap bindThrows timeoutThrows hstart =>
        exact .unopened interfaceName running .declined
    | start ifap bindThrows bound hstart => exact .started interfaceName bound
  · exact haccounted.move hmove

/-- Every state of a run is accounted for. -/
theorem accounted_of_run {e : Engine} {as : List EngineAction}
    (hrun : Run (EngineStep config clock) (.called interfaceName running) as e) : e.Accounted :=
  (hrun.preserves (I := fun s => s.Sound interfaceName running ∧ s.Accounted)
    (fun s a t hs hstep => ⟨sound_step s a t hs.1 hstep, hs.1.accounted_step hs.2 hstep⟩)
    ⟨.called interfaceName running, .unopened interfaceName running .called⟩).2

/-- A step of the queue can be recorded, with what it pushes and hands out. -/
theorem exists_receiveStep_popped {α : Type} {s : Receiving α} {a : QueueAction α}
    {packet : Option α} {q : QueueState α} (h : s.erased.next a = some (.ok (packet, q))) :
    ∃ t, ReceiveStep s a t ∧ t.erased = q ∧
      t.popped.map Prod.snd = s.popped.map Prod.snd ++ packet.toList ∧
      t.pushed.map Prod.snd = s.pushed.map Prod.snd ++ a.packets := by
  rw [erased_next] at h
  obtain ⟨outcome, hstep, houtcome⟩ := Option.map_eq_some_iff.mp h
  cases outcome with
  | error fault => exact absurd houtcome (by simp [Except.map])
  | ok result =>
      obtain ⟨hpacket, hq⟩ := Prod.mk.inj (Except.ok.inj houtcome)
      refine ⟨s.record a result.1 result.2, receiveStep_iff.mpr ⟨_, _, hstep, rfl⟩, hq, ?_, ?_⟩
      · rw [Receiving.record, List.map_append, ← hpacket]
        cases result.1 <;> rfl
      · rw [Receiving.record, List.map_append, map_snd_packets_numbered]

/-- A run of the queue goes with a state: it pops what the worker is given, and pushes what
has arrived but for the packet in hand. -/
structure Traces (bs : List (QueueAction Packet)) (s : Receiving Packet) (e : Engine)
    (arrived : List Packet) : Prop where
  run : Run ReceiveStep (.start kMaxPacketQueueSize) bs s
  queue : s.erased = e.queueState
  popped : s.popped.map Prod.snd = e.taken
  pushed : s.pushed.map Prod.snd ++ e.receiver.packets = arrived

/-- What goes with a state once `running` is set; before that there is nothing. -/
def Traced (interfaceName : Bytes) (running : Bool) (e : Engine) (arrived : List Packet) : Prop :=
  (∃ place : MainAt, place.opening = true ∧ e = .unopened interfaceName running place ∧
    arrived = []) ∨
  e.Orderly ∧ e.Fresh ∧ ∃ bs s, Traces bs s e arrived

theorem Traces.move {bs : List (QueueAction Packet)} {s : Receiving Packet} {e t : Engine}
    {a : EngineAction} {arrived : List Packet} (h : Traces bs s e arrived) (horderly : e.Orderly)
    (hfresh : e.Fresh) (hmove : Engine.Move config clock e t a) :
    ∃ bs s, Traces bs s t (arrived ++ e.arrivals a) := by
  rcases horderly.queue hfresh hmove with hidle | ⟨b, packet, hnext, htaken, hinHand⟩
  · refine ⟨bs, s, h.run, h.queue.trans hidle.queue.symm, h.popped.trans hidle.taken.symm, ?_⟩
    rw [hidle.inHand, ← List.append_assoc, h.pushed]
  · rw [← h.queue] at hnext
    obtain ⟨u, hstep, herased, hpopped, hpushed⟩ := exists_receiveStep_popped hnext
    refine ⟨bs ++ [b], u, h.run.append (.single hstep), herased, ?_, ?_⟩
    · rw [hpopped, h.popped, htaken]
    · rw [hpushed, List.append_assoc, hinHand, ← List.append_assoc, h.pushed]

theorem Traced.step {e t : Engine} {a : EngineAction} {arrived : List Packet}
    (h : Traced interfaceName running e arrived) (hstep : EngineStep config clock e a t) :
    Traced interfaceName running t (arrived ++ e.arrivals a) := by
  rcases h with ⟨place, hplace, rfl, rfl⟩ | ⟨horderly, hfresh, bs, s, htraces⟩
  · cases Engine.openingMove_of_next hplace hstep with
    | alreadyRunning throws shutdown hrunning => exact .inl ⟨.declined, rfl, rfl, rfl⟩
    | call throws shutdown hrunning => exact .inl ⟨.binding, rfl, rfl, rfl⟩
    | decline ifap bindThrows timeoutThrows hstart => exact .inl ⟨.declined, rfl, rfl, rfl⟩
    | start ifap bindThrows bound hstart =>
        exact .inr ⟨.started interfaceName bound, .started interfaceName bound, [],
          .start kMaxPacketQueueSize, .nil _, rfl, rfl, rfl⟩
  · have hmove := horderly.engineStep hstep
    exact .inr ⟨horderly.step hmove, hmove.fresh hfresh, htraces.move horderly hfresh hmove⟩

/-- **Each run of the engine is a run of its queue**, which pushes what arrives. -/
theorem traced_of_run {e : Engine} {as : List EngineAction}
    (hrun : Run (EngineStep config clock) (.called interfaceName running) as e) :
    Traced interfaceName running e (outputs (Engine.advance config clock) Engine.arrivals
      (.called interfaceName running) as) := by
  have hadvance : Run (fun e a t => Engine.advance config clock e a = some t)
      (.called interfaceName running) as e :=
    hrun.mono fun _ _ _ => Engine.advance_eq_some_iff.mpr
  exact hadvance.outputs_invariant (I := fun _ => True)
    (R := Traced interfaceName running)
    (fun s a t log _ hnext hlog => ⟨trivial, hlog.step (Engine.advance_eq_some_iff.mp hnext)⟩)
    trivial (.inl ⟨.called, rfl, rfl, rfl⟩)

/-- What is known of the packets in a state of the engine that has got some packets so far,
by the log of its queue. -/
structure Accounts (e : Engine) (s : Receiving Packet) (arrived : List Packet) : Prop where
  /-- the queue is that of the engine from when `running` is set -/
  queue : e.main.opening = false → s.erased = e.queueState
  /-- the packets pushed are those that `receive_packet` has returned, in this order, but
  for the one in hand -/
  pushed : s.pushed.map Prod.snd ++ e.receiver.packets = arrived
  /-- the packets popped are those handled and the one in hand, in this order -/
  popped : s.popped.map Prod.snd = e.handled.map Prod.snd ++ e.worker.packets
  /-- each packet is counted once: as what it was, as dropped, or it is still there -/
  counted : s.pushed.length =
    e.queriesSeen + e.responsesSeen + e.malformed + e.worker.packets.length +
      e.packetQueue.queue.length + e.packetQueue.droppedCount
  responses : e.responsesSeen = e.responses.length
  /-- the sink is called for each response with records, in the order of the packets -/
  emitted : e.emitted = (e.responses.map DecodedResponse.event).filter fun ev =>
    !ev.records.isEmpty
  events : e.sinkEvents = e.emitted.length
  /-- behind the change filter each record comes once -/
  filtered : emittedRecords (filterRun ∅ e.emitted).1 =
    (scan storeKey ∅ (displayableRecords e.responses)).1

theorem Traces.counted {bs : List (QueueAction Packet)} {s : Receiving Packet} {e : Engine}
    {arrived : List Packet} (h : Traces bs s e arrived) (haccounted : e.Accounted)
    (hdelivers : Delivers kMaxPacketQueueSize bs s) :
    s.pushed.length =
      e.queriesSeen + e.responsesSeen + e.malformed + e.worker.packets.length +
        e.packetQueue.queue.length + e.packetQueue.droppedCount := by
  have hlength := congrArg List.length h.popped
  have hconserved := hdelivers.conserved
  have hentries : s.queue.queue.length = e.packetQueue.queue.length := by
    have hmap := congrArg (fun q => q.queue.queue.length) h.queue
    simpa [Receiving.erased, QueueState.map, PacketReceiveQueue.map, Engine.queueState] using hmap
  have hdropped : s.queue.droppedCount = e.packetQueue.droppedCount :=
    congrArg (fun q => q.queue.droppedPackets) h.queue
  have hhandled := haccounted.length_handled
  simp only [Engine.taken, List.length_map, List.length_append] at hlength
  omega

/-- **What the engine makes of the packets.**  However the threads are interleaved, what
`receive_packet` returns is pushed in order; the queue delivers it but for the packets that
it dropped, each of them is counted once, and the sink gets the events of the responses
among them, in order. -/
theorem engine_accounts (config : MdnsProbePlannerConfig) (clock : Nat → Int)
    (interfaceName : Bytes) (running : Bool) (as : List EngineAction) (e : Engine)
    (hrun : Run (EngineStep config clock) (.called interfaceName running) as e) :
    ∃ bs s, Run ReceiveStep (.start kMaxPacketQueueSize) bs s ∧
      Delivers kMaxPacketQueueSize bs s ∧
      Accounts e s (outputs (Engine.advance config clock) Engine.arrivals
        (.called interfaceName running) as) := by
  have hpos : 0 < kMaxPacketQueueSize := Nat.succ_pos 255
  have haccounted := accounted_of_run hrun
  rcases traced_of_run hrun with ⟨place, hplace, rfl, hnone⟩ | ⟨-, -, bs, s, htraces⟩
  · refine ⟨[], .start kMaxPacketQueueSize, .nil _, delivers_of_run hpos (.nil _), ?_, ?_, rfl,
      rfl, haccounted.responses, haccounted.emitted, haccounted.events, haccounted.filtered⟩
    · intro hopened
      exact absurd (hplace.symm.trans hopened) (by simp)
    · rw [hnone]
      rfl
  · have hdelivers := delivers_of_run hpos htraces.run
    exact ⟨bs, s, htraces.run, hdelivers, fun _ => htraces.queue, htraces.pushed, htraces.popped,
      htraces.counted haccounted hdelivers, haccounted.responses, haccounted.emitted,
      haccounted.events, haccounted.filtered⟩

/-- The packet of a short scan is pushed and popped, and counted as malformed. -/
theorem shortScan_accounts :
    ∃ bs s, Run ReceiveStep (.start kMaxPacketQueueSize) bs s ∧
      s.pushed.map Prod.snd = [(([1, 2], ascii "10.0.0.7") : Packet)] ∧
      s.popped.map Prod.snd = s.pushed.map Prod.snd ∧ shortScanEnd.malformed = 1 := by
  obtain ⟨bs, s, hrun, -, haccounts⟩ :=
    engine_accounts {} (fun _ => 0) [] false shortScan shortScanEnd shortScan_run
  have hpushed := haccounts.pushed
  rw [show shortScanEnd.receiver.packets = [] from rfl, List.append_nil] at hpushed
  exact ⟨bs, s, hrun, hpushed.trans rfl, haccounts.popped.trans hpushed.symm, rfl⟩

end

end Scanner
end LanDiscovery

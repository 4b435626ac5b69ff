import LanDiscovery.Scanner.DeviceStateStore
import LanDiscovery.Scanner.DiscoveryEngine

/-!
# What the threads of the engine do

One lemma for each thread: the steps that it can take, and what each of them leaves.  The
worker's pass over a packet and the poller's rounds are closed forms in which every field
that they leave alone is visibly left alone.
-/

namespace LanDiscovery
namespace Scanner

open Library Library.Outcome

/-! ## A packet -/

/-- The worker counts the packet as the query of another host. -/
def isQuery (packet : Packet) : Bool :=
  match decodePacket packet.1 with
  | .ok msg => !isDnsResponse msg
  | .error _ => false

/-- The response in a packet, if it is one. -/
def responseOf (nowMs : UInt64) (packet : Packet) : Option DecodedResponse :=
  match hdecoded : decodePacket packet.1 with
  | .ok message =>
      if hresponse : isDnsResponse message = true then
        some {
          nowMs
          srcIp := packet.2
          packet := packet.1
          message
          decoded := hdecoded
          response := hresponse }
      else none
  | .error _ => none

/-- The events that the worker offers to the sink for a packet. -/
def offered (nowMs : UInt64) (packet : Packet) : List DiscoveryEvent :=
  ((responseOf nowMs packet).toList.map DecodedResponse.event).filter fun ev =>
    !ev.records.isEmpty

theorem responseOf_of_error {nowMs : UInt64} {packet : Packet} {fault : Fault}
    (h : decodePacket packet.1 = .error fault) : responseOf nowMs packet = none := by
  unfold responseOf
  split
  · next hdecode => simp [h] at hdecode
  · rfl

theorem responseOf_of_query {nowMs : UInt64} {packet : Packet} {msg : MdnsParsedMessage}
    (h : decodePacket packet.1 = .ok msg) (hquery : isDnsResponse msg = false) :
    responseOf nowMs packet = none := by
  unfold responseOf
  split
  · next message hdecode =>
      obtain rfl : msg = message := Except.ok.inj (h.symm.trans hdecode)
      simp [hquery]
  · rfl

@[simp] theorem responseOf_decoded (r : DecodedResponse) :
    responseOf r.nowMs (r.packet, r.srcIp) = some r := by
  unfold responseOf
  split
  · next message hdecode =>
      obtain rfl : r.message = message := Except.ok.inj (r.decoded.symm.trans hdecode)
      rw [dif_pos r.response]
  · next hdecode =>
      exact absurd (r.decoded.symm.trans hdecode) (by simp)

/-- A packet is malformed, a query or a response. -/
theorem packet_cases (nowMs : UInt64) (packet : Packet) :
    (∃ what, decodePacket packet.1 = .error (.invalidArgument what) ∧
      isQuery packet = false ∧ responseOf nowMs packet = none) ∨
    (∃ msg, decodePacket packet.1 = .ok msg ∧ isDnsResponse msg = false ∧
      isQuery packet = true ∧ responseOf nowMs packet = none) ∨
    (∃ r, decodePacket packet.1 = .ok r.message ∧ r.nowMs = nowMs ∧ r.srcIp = packet.2 ∧
      r.packet = packet.1 ∧ isQuery packet = false ∧ responseOf nowMs packet = some r) := by
  cases hdecode : decodePacket packet.1 with
  | error fault =>
      obtain ⟨what, rfl⟩ := decode_failsOnly packet.1 fault hdecode
      left
      exact ⟨what, rfl, by simp [isQuery, hdecode], responseOf_of_error hdecode⟩
  | ok msg =>
      right
      cases hresponse : isDnsResponse msg with
      | false =>
          left
          exact ⟨msg, rfl, hresponse, by simp [isQuery, hdecode, hresponse],
            responseOf_of_query hdecode hresponse⟩
      | true =>
          right
          let r : DecodedResponse :=
            { nowMs := nowMs, srcIp := packet.2, packet := packet.1, message := msg,
              decoded := hdecode, response := hresponse }
          exact ⟨r, rfl, rfl, rfl, rfl, by simp [isQuery, hdecode, hresponse],
            responseOf_decoded r⟩

/-! ## The threads -/

/-- `run` has not set `running`. -/
def MainAt.opening : MainAt → Bool
  | .called | .binding | .declined => true
  | _ => false

namespace Engine

section

variable (config : MdnsProbePlannerConfig) (clock : Nat → Int)

/-- What the worker's pass over a packet leaves. -/
def afterPacket (e : Engine) (nowMs : UInt64) (packet : Packet) : Engine :=
  { e with
    queriesSeen := e.queriesSeen + (if isQuery packet then 1 else 0)
    responsesSeen := e.responsesSeen + (responseOf nowMs packet).toList.length
    probePlanner := ((responseOf nowMs packet).toList.map DecodedResponse.event).foldl
      (fun planner ev => planner.observe config clock ev) e.probePlanner
    sinkEvents := e.sinkEvents + (offered nowMs packet).length
    emitted := e.emitted ++ offered nowMs packet }

/-- The worker's pass over a packet does not fault. -/
theorem interpret_eq (e : Engine) (nowMs : UInt64) (packet : Packet) :
    e.interpret config clock nowMs packet.1 packet.2 =
      .ok (e.afterPacket config clock nowMs packet) := by
  rcases packet_cases nowMs packet with ⟨what, hdecode, hquery, hnone⟩ |
    ⟨msg, hdecode, hresponse, hquery, hnone⟩ |
    ⟨r, hdecode, hnow, hsrc, hpacket, hquery, hsome⟩
  · simp [interpret, afterPacket, offered, hdecode, hquery, hnone]
  · simp [interpret, afterPacket, offered, hdecode, hresponse, hquery, hnone]
  · have hevent : createDiscoveryEvent nowMs packet.2 packet.1 r.message = .ok r.event := by
      rw [← hnow, ← hsrc, ← hpacket]
      exact createDiscoveryEvent_eq _ _ _ _
    cases hempty : r.event.records.isEmpty with
    | true =>
        simp [interpret, afterPacket, offered, hdecode, r.response, hquery, hsome, hevent, hempty]
    | false =>
        simp [interpret, afterPacket, offered, hdecode, r.response, hquery, hsome, hevent, hempty]

/-! ## What the poller sends -/

/-- The datagram that asks some questions. -/
def probeQuery (questions : List MdnsProbeRequest) : Bytes :=
  buildQuery 0
    (questions.map fun req => { name := req.qname, type := req.qtype, classCode := 1 })

/-- What the poller tries to send in a step, a batch or the browse query, each with whether
it is refused. -/
def attempts (e : Engine) (refused : List Bool) : List (Option (List MdnsProbeRequest) × Bool) :=
  match e.poller with
  | .broadcasting => [(none, refused.headD false)]
  | .draining =>
      ((answered (e.probePlanner.drainReady config 0).2 refused).filter fun entry =>
        !entry.1.isEmpty).map fun entry => (some entry.1, entry.2)
  | _ => []

@[simp] theorem attempts_broadcasting {e : Engine} (h : e.poller = .broadcasting)
    (refused : List Bool) : e.attempts config refused = [(none, refused.headD false)] := by
  rw [attempts, h]

@[simp] theorem attempts_draining {e : Engine} (h : e.poller = .draining) (refused : List Bool) :
    e.attempts config refused =
      ((answered (e.probePlanner.drainReady config 0).2 refused).filter fun entry =>
        !entry.1.isEmpty).map fun entry => (some entry.1, entry.2) := by
  rw [attempts, h]

/-- What some attempts leave. -/
def afterSends (e : Engine) (tries : List (Option (List MdnsProbeRequest) × Bool)) : Engine :=
  { e with
    sent := e.sent ++
      (tries.filter fun entry => !entry.2).map fun entry => probeQuery (entry.1.getD metaQuestions)
    errorOccurred := e.errorOccurred || tries.any Prod.snd }

@[simp] theorem afterSends_nil (e : Engine) : e.afterSends [] = e := by
  simp [afterSends]

theorem afterSends_cons (e : Engine) (entry : Option (List MdnsProbeRequest) × Bool)
    (tries : List (Option (List MdnsProbeRequest) × Bool)) :
    e.afterSends (entry :: tries) = (e.afterSends [entry]).afterSends tries := by
  cases hrefused : entry.2 <;> simp [afterSends, hrefused]

@[simp] theorem sendMdnsQuestions_nil (e : Engine) (refused : Bool) :
    e.sendMdnsQuestions [] refused = e :=
  rfl

theorem sendMdnsQuestions_eq (e : Engine) {questions : List MdnsProbeRequest} (refused : Bool)
    (h : questions.isEmpty = false) :
    e.sendMdnsQuestions questions refused = e.afterSends [(some questions, refused)] := by
  unfold sendMdnsQuestions afterSends probeQuery
  cases refused <;> simp [h]

theorem broadcastMetaBrowse_eq (e : Engine) (refused : Bool) :
    e.broadcastMetaBrowse refused = e.afterSends [(none, refused)] := by
  rw [broadcastMetaBrowse, sendMdnsQuestions_eq e refused rfl]
  cases refused <;> rfl

theorem foldl_sendMdnsQuestions (e : Engine) (entries : List (List MdnsProbeRequest × Bool)) :
    entries.foldl (fun e entry => e.sendMdnsQuestions entry.1 entry.2) e =
      e.afterSends ((entries.filter fun entry => !entry.1.isEmpty).map fun entry =>
        (some entry.1, entry.2)) := by
  induction entries generalizing e with
  | nil => exact (afterSends_nil e).symm
  | cons entry entries ih =>
      obtain ⟨questions, refused⟩ := entry
      rw [List.foldl_cons, ih]
      cases hempty : questions.isEmpty with
      | true =>
          obtain rfl := List.isEmpty_iff.mp hempty
          rfl
      | false =>
          rw [List.filter_cons_of_pos (by simp [hempty]), List.map_cons, afterSends_cons,
            sendMdnsQuestions_eq e refused hempty]

/-- `drain_ready` is let through. -/
def HasRoom (room : Nat) : Prop :=
  config.maxProbesPerTick ≤ vectorMaxSize ∧ config.maxProbesPerTick ≤ room

theorem reserveAndDrain_eq (planner : MdnsProbePlanner) {room : Nat} (h : HasRoom config room) :
    planner.reserveAndDrain config 0 room = .ok (planner.drainReady config 0) :=
  if_neg (not_or.mpr ⟨Nat.not_lt.mpr h.1, Nat.not_lt.mpr h.2⟩)

theorem reserveAndDrain_eq_error (planner : MdnsProbePlanner) {room : Nat}
    (h : ¬ HasRoom config room) : planner.reserveAndDrain config 0 room = .error .noRoom :=
  if_pos ((not_and_or.mp h).imp Nat.lt_of_not_le Nat.lt_of_not_le)

/-- What a drain leaves. -/
def afterDrain (e : Engine) (refused : List Bool) : Engine :=
  { e.afterSends (e.attempts config refused) with
    probePlanner := (e.probePlanner.drainReady config 0).1 }

theorem drainAndSendProbes_eq {e : Engine} {room : Nat} (hpoller : e.poller = .draining)
    (hroom : HasRoom config room) (refused : List Bool) :
    e.drainAndSendProbes config refused room = .ok (e.afterDrain config refused) := by
  rw [drainAndSendProbes, reserveAndDrain_eq config e.probePlanner hroom, afterDrain,
    attempts_draining config hpoller]
  cases e.probePlanner.drainReady config 0 with
  | mk probePlanner batches =>
      exact congrArg Except.ok (foldl_sendMdnsQuestions _ (answered batches refused))

/-! ## The threads -/

/-- `run` creates threads or waits for a shutdown. -/
def Serving (e : Engine) : Prop :=
  e.main = .startWorker ∨ e.main = .startReceiver ∨ e.main = .startPoller ∨ e.main = .looping

/-- The steps of `run`, once it has set `running`, by whether they throw and whether a
shutdown is requested. -/
inductive MainMove (e : Engine) : Bool → Bool → Engine → Prop where
  | fails {shutdown : Bool} (hserving : e.Serving) : MainMove e true shutdown e.mainFails
  | startWorker {shutdown : Bool} (hmain : e.main = .startWorker) :
      MainMove e false shutdown { e with worker := .loop, main := .startReceiver }
  | startReceiver {shutdown : Bool} (hmain : e.main = .startReceiver) :
      MainMove e false shutdown { e with receiver := .loop, main := .startPoller }
  | startPoller {shutdown : Bool} (hmain : e.main = .startPoller) :
      MainMove e false shutdown { e with poller := .loop, main := .looping }
  | loop (hmain : e.main = .looping) : MainMove e false false { e with main := .looping }
  | leave {throws shutdown : Bool} (hmain : e.main = .looping)
      (hleave : e.running = false ∨ throws = false ∧ shutdown = true) :
      MainMove e throws shutdown { e with main := .stopping }
  | stop {throws shutdown : Bool} (hmain : e.main = .stopping) :
      MainMove e throws shutdown { e with running := false, main := .notifying }
  | notify {throws shutdown : Bool} (hmain : e.main = .notifying) :
      MainMove e throws shutdown { e.notify with main := .joinReceiver }
  | joinReceiver {throws shutdown : Bool} (hmain : e.main = .joinReceiver)
      (hjoined : e.receiver.joined = true) :
      MainMove e throws shutdown { e with main := .joinPoller }
  | joinPoller {throws shutdown : Bool} (hmain : e.main = .joinPoller)
      (hjoined : e.poller.joined = true) :
      MainMove e throws shutdown { e with main := .joinWorker }
  | joinWorker {throws shutdown : Bool} (hmain : e.main = .joinWorker)
      (hjoined : e.worker.joined = true) :
      MainMove e throws shutdown { e with main := .returned (!e.errorOccurred) }

theorem mainMove_of_next {e t : Engine} (hopen : e.main.opening = false) {throws shutdown : Bool}
    (h : e.mainNext throws shutdown = some t) : e.MainMove throws shutdown t := by
  unfold mainNext at h
  cases hmain : e.main with
  | called => simp [hmain, MainAt.opening] at hopen
  | binding => simp [hmain] at h
  | declined => simp [hmain] at h
  | startWorker =>
      simp only [hmain, Option.some.injEq] at h
      cases throws with
      | false => exact h ▸ .startWorker hmain
      | true => exact h ▸ .fails (.inl hmain)
  | startReceiver =>
      simp only [hmain, Option.some.injEq] at h
      cases throws with
      | false => exact h ▸ .startReceiver hmain
      | true => exact h ▸ .fails (.inr (.inl hmain))
  | startPoller =>
      simp only [hmain, Option.some.injEq] at h
      cases throws with
      | false => exact h ▸ .startPoller hmain
      | true => exact h ▸ .fails (.inr (.inr (.inl hmain)))
  | looping =>
      simp only [hmain] at h
      -- the head of the loop is looked at before anything can throw
      split at h
      · next hstopped =>
          exact Option.some.inj h ▸ .leave hmain (.inl (by simpa using hstopped))
      · cases throws with
        | true => exact Option.some.inj h ▸ .fails (.inr (.inr (.inr hmain)))
        | false =>
            cases shutdown with
            | false => exact Option.some.inj h ▸ .loop hmain
            | true => exact Option.some.inj h ▸ .leave hmain (.inr ⟨rfl, rfl⟩)
  | stopping =>
      rw [hmain] at h
      exact Option.some.inj h ▸ .stop hmain
  | notifying =>
      rw [hmain] at h
      exact Option.some.inj h ▸ .notify hmain
  | joinReceiver =>
      rw [hmain] at h
      obtain ⟨hjoined, hnext⟩ := Option.ite_none_right_eq_some.mp h
      exact Option.some.inj hnext ▸ .joinReceiver hmain hjoined
  | joinPoller =>
      rw [hmain] at h
      obtain ⟨hjoined, hnext⟩ := Option.ite_none_right_eq_some.mp h
      exact Option.some.inj hnext ▸ .joinPoller hmain hjoined
  | joinWorker =>
      rw [hmain] at h
      obtain ⟨hjoined, hnext⟩ := Option.ite_none_right_eq_some.mp h
      exact Option.some.inj hnext ▸ .joinWorker hmain hjoined
  | returned ok => simp [hmain] at h

/-- The steps of `receiver_loop`, by what `receive_packet` comes to. -/
inductive ReceiverMove (e : Engine) : ReceiveOutcome → Engine → Prop where
  | loop (outcome : ReceiveOutcome) (hreceiver : e.receiver = .loop) :
      ReceiverMove e outcome { e with receiver := if e.running then .receiving else .ended }
  | received (buffer senderIp : Bytes) (hreceiver : e.receiver = .receiving)
      (hlength : buffer.length > 0) :
      ReceiverMove e (.received buffer senderIp)
        { e with receiver := .pushing (buffer, senderIp) }
  | empty (senderIp : Bytes) (hreceiver : e.receiver = .receiving) :
      ReceiverMove e (.received [] senderIp) { e with receiver := .loop }
  | again (errno : Nat) (hreceiver : e.receiver = .receiving)
      (herrno : errno = eAgain ∨ errno = eIntr) :
      ReceiverMove e (.failed errno) { e with receiver := .loop }
  | failed (errno : Nat) (hreceiver : e.receiver = .receiving)
      (herrno : ¬ (errno = eAgain ∨ errno = eIntr)) :
      ReceiverMove e (.failed errno) { e with errorOccurred := true, receiver := .ended }
  | push (outcome : ReceiveOutcome) (packet : Packet) (hreceiver : e.receiver = .pushing packet)
      (hfree : e.worker.holds = false) :
      ReceiverMove e outcome
        { e with packetQueue := e.packetQueue.afterPush packet, receiver := .loop }.notify

/-- A step of the receiver is one of them, unless the queue has no room at all. -/
theorem receiverMove_of_next {e : Engine} (hpos : 0 < e.packetQueue.maxSize)
    {outcome : ReceiveOutcome} {result : Except Fault Engine}
    (h : e.receiverNext outcome = some result) :
    ∃ t, result = .ok t ∧ e.ReceiverMove outcome t := by
  unfold receiverNext at h
  cases hreceiver : e.receiver with
  | notStarted => simp [hreceiver] at h
  | loop =>
      rw [hreceiver] at h
      exact ⟨_, (Option.some.inj h).symm, .loop outcome hreceiver⟩
  | receiving =>
      rw [hreceiver] at h
      cases outcome with
      | received buffer senderIp =>
          refine ⟨_, (Option.some.inj h).symm, ?_⟩
          by_cases hlength : buffer.length > 0
          · rw [if_pos hlength]
            exact .received buffer senderIp hreceiver hlength
          · rw [if_neg hlength]
            obtain rfl : buffer = [] := List.length_eq_zero_iff.mp (by omega)
            exact .empty senderIp hreceiver
      | failed errno =>
          by_cases hagain : errno = eAgain ∨ errno = eIntr
          · exact ⟨_, (Option.some.inj ((if_pos hagain).symm.trans h)).symm,
              .again errno hreceiver hagain⟩
          · exact ⟨_, (Option.some.inj ((if_neg hagain).symm.trans h)).symm,
              .failed errno hreceiver hagain⟩
  | pushing packet =>
      rw [hreceiver] at h
      obtain ⟨hholds, hresult⟩ := Option.ite_none_left_eq_some.mp h
      rw [PacketReceiveQueue.push_eq hpos packet] at hresult
      exact ⟨_, (Option.some.inj hresult).symm,
        .push outcome packet hreceiver (Bool.eq_false_iff.mpr hholds)⟩
  | ended => simp [hreceiver] at h

/-- The steps of `worker_loop`. -/
inductive WorkerMove (e : Engine) : Engine → Prop where
  | loop (hworker : e.worker = .loop) :
      WorkerMove e { e with worker := if e.running then .entering else .ended }
  | enter (hworker : e.worker = .entering) : WorkerMove e { e with worker := .looking }
  | look (hworker : e.worker = .looking) :
      WorkerMove e { e with
        worker := if e.packetQueue.waitOver e.running then .taking else .parking }
  | park (hworker : e.worker = .parking) : WorkerMove e { e with worker := .asleep }
  | take (hworker : e.worker = .taking) :
      WorkerMove e { e with
        packetQueue := e.packetQueue.afterTake
        worker := match e.packetQueue.queue.head? with
          | some packet => .handling packet
          | none => .ended }
  | handle (nowMs : UInt64) (packet : Packet) (hworker : e.worker = .handling packet) :
      WorkerMove e { e.afterPacket config clock nowMs packet with
        worker := .loop
        handled := e.handled ++ [(nowMs, packet)] }

/-- A step of the worker is one of them, if it takes from the queue after its wait. -/
theorem workerMove_of_next {e : Engine}
    (hwaited : e.worker = .taking → e.packetQueue.waitOver e.running = true) {nowMs : UInt64}
    {result : Except Fault Engine} (h : e.workerNext config clock nowMs = some result) :
    ∃ t, result = .ok t ∧ e.WorkerMove config clock t := by
  unfold workerNext at h
  cases hworker : e.worker with
  | notStarted => simp [hworker] at h
  | loop =>
      rw [hworker] at h
      exact ⟨_, (Option.some.inj h).symm, .loop hworker⟩
  | entering =>
      rw [hworker] at h
      exact ⟨_, (Option.some.inj h).symm, .enter hworker⟩
  | looking =>
      rw [hworker] at h
      exact ⟨_, (Option.some.inj h).symm, .look hworker⟩
  | parking =>
      rw [hworker] at h
      exact ⟨_, (Option.some.inj h).symm, .park hworker⟩
  | asleep => simp [hworker] at h
  | taking =>
      rw [hworker] at h
      dsimp only at h
      rw [PacketReceiveQueue.takeFront_eq (hwaited hworker)] at h
      exact ⟨_, (Option.some.inj h).symm, .take hworker⟩
  | handling packet =>
      rw [hworker] at h
      dsimp only at h
      rw [interpret_eq] at h
      exact ⟨_, (Option.some.inj h).symm, .handle nowMs packet hworker⟩
  | ended => simp [hworker] at h

/-- The steps of `poller_loop`, by what is refused. -/
inductive PollerMove (e : Engine) (refused : List Bool) : Engine → Prop where
  | loop (hpoller : e.poller = .loop) :
      PollerMove e refused { e with poller := if e.running then .broadcasting else .ended }
  | broadcast (hpoller : e.poller = .broadcasting) :
      PollerMove e refused { e.afterSends (e.attempts config refused) with poller := .draining }
  | drain (hpoller : e.poller = .draining) :
      PollerMove e refused { e.afterDrain config refused with poller := .sleeping }
  | wake (hpoller : e.poller = .sleeping) :
      PollerMove e refused { e with poller := if e.running then .loop else .ended }

/-- A step of the poller is one of them, unless `drain_ready` has no room. -/
theorem pollerMove_of_next {e : Engine} {refused : List Bool} {room : Nat}
    {result : Except Fault Engine} (h : e.pollerNext config refused room = some result) :
    (result = .error .noRoom ∧ e.poller = .draining ∧ ¬ HasRoom config room) ∨
    ∃ t, result = .ok t ∧ e.PollerMove config refused t := by
  unfold pollerNext at h
  cases hpoller : e.poller with
  | notStarted => simp [hpoller] at h
  | loop =>
      rw [hpoller] at h
      exact .inr ⟨_, (Option.some.inj h).symm, .loop hpoller⟩
  | broadcasting =>
      rw [hpoller] at h
      rw [broadcastMetaBrowse_eq, ← attempts_broadcasting config hpoller] at h
      exact .inr ⟨_, (Option.some.inj h).symm, .broadcast hpoller⟩
  | draining =>
      rw [hpoller] at h
      dsimp only at h
      by_cases hroom : HasRoom config room
      · rw [drainAndSendProbes_eq config hpoller hroom] at h
        exact .inr ⟨_, (Option.some.inj h).symm, .drain hpoller⟩
      · rw [drainAndSendProbes, reserveAndDrain_eq_error config e.probePlanner hroom] at h
        exact .inl ⟨(Option.some.inj h).symm, rfl, hroom⟩
  | sleeping =>
      rw [hpoller] at h
      exact .inr ⟨_, (Option.some.inj h).symm, .wake hpoller⟩
  | ended => simp [hpoller] at h

/-- The worker's wait ends without a notification. -/
inductive WakeMove (e : Engine) : Engine → Prop where
  | wakeUp (hworker : e.worker = .asleep) : WakeMove e { e with worker := .entering }

theorem wakeMove_of_next {e t : Engine} (h : e.wakeUpNext = some t) : e.WakeMove t := by
  obtain ⟨hworker, hnext⟩ := Option.ite_none_right_eq_some.mp h
  exact Option.some.inj hnext ▸ .wakeUp hworker

end

/-! ## Before the threads -/

/-- An engine that has not set `running`, with `run` at this place. -/
def unopened (interfaceName : Bytes) (running : Bool) (place : MainAt) : Engine :=
  { called interfaceName running with main := place }

/-- The state in which `run` starts the threads. -/
def started (interfaceName : Bytes) (bound : Bytes × Bytes) : Engine :=
  { called interfaceName true with
    boundTo := some bound
    main := .startWorker }

/-- The steps of `run` before it has set `running`, with what they come to. -/
inductive OpeningMove (interfaceName : Bytes) (running : Bool) :
    MainAt → EngineAction → Except Fault Engine → Prop where
  | alreadyRunning (throws shutdown : Bool) (hrunning : running = true) :
      OpeningMove interfaceName running .called (.main throws shutdown)
        (.ok (unopened interfaceName running .declined))
  | call (throws shutdown : Bool) (hrunning : running = false) :
      OpeningMove interfaceName running .called (.main throws shutdown)
        (.ok (unopened interfaceName running .binding))
  | decline (ifap : Option (List Ifaddrs)) (bindThrows timeoutThrows : Bool)
      (hstart : start interfaceName ifap bindThrows = none) :
      OpeningMove interfaceName running .binding (.bind ifap bindThrows timeoutThrows)
        (.ok (unopened interfaceName running .declined))
  | throws (ifap : Option (List Ifaddrs)) (bindThrows : Bool)
      (hstart : (start interfaceName ifap bindThrows).isSome = true) :
      OpeningMove interfaceName running .binding (.bind ifap bindThrows true)
        (.error .systemError)
  | start (ifap : Option (List Ifaddrs)) (bindThrows : Bool) (bound : Bytes × Bytes)
      (hstart : start interfaceName ifap bindThrows = some bound) :
      OpeningMove interfaceName running .binding (.bind ifap bindThrows false)
        (.ok (started interfaceName bound))

theorem openingMove_of_next {config : MdnsProbePlannerConfig} {clock : Nat → Int}
    {interfaceName : Bytes} {running : Bool} {place : MainAt} (hplace : place.opening = true)
    {a : EngineAction} {result : Except Fault Engine}
    (h : (unopened interfaceName running place).next config clock a = some result) :
    OpeningMove interfaceName running place a result := by
  cases a with
  | main throws shutdown =>
      obtain ⟨t, hnext, rfl⟩ := Option.map_eq_some_iff.mp h
      cases place <;> simp only [MainAt.opening, Bool.false_eq_true] at hplace
      · cases running with
        | true => exact Option.some.inj hnext ▸ .alreadyRunning throws shutdown rfl
        | false => exact Option.some.inj hnext ▸ .call throws shutdown rfl
      · exact absurd hnext nofun
      · exact absurd hnext nofun
  | bind ifap bindThrows timeoutThrows =>
      cases place <;> simp only [MainAt.opening, Bool.false_eq_true] at hplace
      · exact absurd h nofun
      · rw [next, bindNext] at h
        dsimp only [unopened, called] at h
        cases hstart : Engine.start interfaceName ifap bindThrows with
        | none =>
            rw [hstart] at h
            exact Option.some.inj h ▸ .decline ifap bindThrows timeoutThrows hstart
        | some bound =>
            rw [hstart] at h
            cases timeoutThrows with
            | true => exact Option.some.inj h ▸ .throws ifap bindThrows (by simp [hstart])
            | false => exact Option.some.inj h ▸ .start ifap bindThrows bound hstart
      · exact absurd h nofun
  | receiver outcome => exact absurd h nofun
  | worker nowMs => exact absurd h nofun
  | wakeUp => exact absurd h nofun
  | poller refused room => exact absurd h nofun

end Engine

end Scanner
end LanDiscovery

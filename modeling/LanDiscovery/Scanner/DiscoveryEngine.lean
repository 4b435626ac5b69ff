import LanDiscovery.Scanner.InterfaceInfo
import LanDiscovery.Scanner.MdnsProbePlanner
import LanDiscovery.Scanner.PacketInterpreter
import LanDiscovery.Scanner.PacketReceiveQueue
import LanDiscovery.Scanner.QueryBuilder

/-!
# The engine

`DiscoveryEngine.cpp`: the receiver, the worker and the poller, and the thread that calls
`run`, which binds the socket, starts the threads, clears `running`, notifies the queue and
joins them.

A step is one access to what the threads share: a load or store of `running`, what is
done while a mutex is held, the notification.  `wait_pop` is not atomic here: the worker
may look at its condition, be overtaken while it still has the mutex, and block.  What the
system answers (the interfaces, a packet, an error of a socket or of the creation of a
thread, the request to shut down, the clock, the memory that is left for what a setting
asks for) is part of the action.
-/

namespace LanDiscovery
namespace Scanner

open Library Library.Outcome

/-- A datagram and its sender. -/
abbrev Packet := Bytes × Bytes

/-- Where `run` is. -/
inductive MainAt where
  /-- before it looks whether the engine is running -/
  | called
  /-- in `start`, and up to `running.store(true)` -/
  | binding
  /-- it has returned false before that -/
  | declined
  | startWorker
  | startReceiver
  | startPoller
  /-- in its loop, until a shutdown is requested -/
  | looping
  /-- before `running.store(false)` -/
  | stopping
  /-- before `packet_queue_->notify_all()` -/
  | notifying
  | joinReceiver
  | joinPoller
  | joinWorker
  | returned (ok : Bool)
  deriving DecidableEq

/-- Where `receiver_loop` is. -/
inductive ReceiverAt where
  | notStarted
  /-- at the head of its loop -/
  | loop
  /-- in `receive_packet` -/
  | receiving
  /-- in `push`, before it gets the mutex -/
  | pushing (packet : Packet)
  | ended
  deriving DecidableEq

/-- `joinable` is false, or `join` returns. -/
def ReceiverAt.joined : ReceiverAt → Bool
  | .notStarted | .ended => true
  | .loop | .receiving | .pushing _ => false

/-- Where `worker_loop` is. -/
inductive WorkerAt where
  | notStarted
  /-- at the head of its loop -/
  | loop
  /-- in `wait_pop`, without the mutex that it needs next -/
  | entering
  /-- with the mutex, before it looks whether its wait is over -/
  | looking
  /-- with the mutex; its wait is not over, and it has yet to block -/
  | parking
  /-- blocked in the wait, without the mutex -/
  | asleep
  /-- with the mutex; its wait is over -/
  | taking
  /-- with a packet -/
  | handling (packet : Packet)
  | ended
  deriving DecidableEq

def WorkerAt.joined : WorkerAt → Bool
  | .notStarted | .ended => true
  | .loop | .entering | .looking | .parking | .asleep | .taking | .handling _ => false

/-- The worker has the mutex of the queue. -/
def WorkerAt.holds : WorkerAt → Bool
  | .looking | .parking | .taking => true
  | .notStarted | .loop | .entering | .asleep | .handling _ | .ended => false

/-- A notification reaches the worker only while it is blocked. -/
def WorkerAt.notified : WorkerAt → WorkerAt
  | .asleep => .entering
  | place => place

/-- Where `poller_loop` is. -/
inductive PollerAt where
  | notStarted
  /-- at the head of its loop -/
  | loop
  /-- in `broadcast_meta_browse` -/
  | broadcasting
  /-- in `drain_and_send_probes` -/
  | draining
  | sleeping
  | ended
  deriving DecidableEq

def PollerAt.joined : PollerAt → Bool
  | .notStarted | .ended => true
  | .loop | .broadcasting | .draining | .sleeping => false

/-- What `receive_packet` comes to. -/
inductive ReceiveOutcome where
  | received (buffer senderIp : Bytes)
  /-- a `std::system_error` with this code -/
  | failed (errno : Nat)

/-- The steps, by the thread that takes them. -/
inductive EngineAction where
  /-- whether the step throws, and what `shutdown_requested` returns -/
  | main (throws shutdown : Bool)
  /-- what `getifaddrs` returns, and whether `bind_multicast` and `set_receive_timeout`
  throw -/
  | bind (ifap : Option (List Ifaddrs)) (bindThrows timeoutThrows : Bool)
  | receiver (outcome : ReceiveOutcome)
  /-- the clock, should an event be created -/
  | worker (nowMs : UInt64)
  /-- the worker's wait ends without a notification -/
  | wakeUp
  /-- for each packet that is sent in the step whether it is refused, and how many batches
  there is memory for -/
  | poller (refused : List Bool) (room : Nat)

/-- `DiscoveryEngine` and its threads, with the interface and the address that its socket is
bound to.  The last three fields are what went through it: the packets that the worker is
done with, the calls of the sink, the datagrams sent. -/
structure Engine where
  interfaceName : Bytes
  boundTo : Option (Bytes × Bytes)
  running : Bool
  errorOccurred : Bool
  packetQueue : PacketReceiveQueue Packet
  probePlanner : MdnsProbePlanner
  queriesSeen : Nat
  responsesSeen : Nat
  sinkEvents : Nat
  main : MainAt
  receiver : ReceiverAt
  worker : WorkerAt
  poller : PollerAt
  handled : List (UInt64 × Packet)
  emitted : List DiscoveryEvent
  sent : List Bytes

/-- `DiscoveryEngine::kMaxPacketQueueSize`. -/
def kMaxPacketQueueSize : Nat := 256

/-- `EAGAIN`, which is also `EWOULDBLOCK`. -/
def eAgain : Nat := 11

/-- `EINTR`. -/
def eIntr : Nat := 4

namespace Engine

/-- An engine that has not run yet, when `run` is called; `running` is what that call finds. -/
def called (interfaceName : Bytes) (running : Bool) : Engine where
  interfaceName := interfaceName
  boundTo := none
  running := running
  errorOccurred := false
  packetQueue := .create kMaxPacketQueueSize
  probePlanner := .start
  queriesSeen := 0
  responsesSeen := 0
  sinkEvents := 0
  main := .called
  receiver := .notStarted
  worker := .notStarted
  poller := .notStarted
  handled := []
  emitted := []
  sent := []

/-- What `run` has returned, if it has. -/
def result (e : Engine) : Option Bool :=
  match e.main with
  | .declined => some false
  | .returned ok => some ok
  | _ => none

/-! ## The main thread -/

/-- `start`: what it has bound the socket to; `none` where it returns false. -/
def start (interfaceName : Bytes) (ifap : Option (List Ifaddrs)) (bindThrows : Bool) :
    Option (Bytes × Bytes) :=
  match startInterface (listIpv4Interfaces ifap) interfaceName with
  | none => none
  | some bound => if bindThrows then none else some bound

/-- `run`, from its call of `start` to where it sets `running`. -/
def bindNext (e : Engine) (ifap : Option (List Ifaddrs)) (bindThrows timeoutThrows : Bool) :
    Option (Except Fault Engine) :=
  match e.main with
  | .binding =>
      match start e.interfaceName ifap bindThrows with
      | none => some (.ok { e with main := .declined })
      | some bound =>
          let e := { e with
            boundTo := some bound
            errorOccurred := false
            packetQueue := e.packetQueue.resetDroppedCount
            queriesSeen := 0
            responsesSeen := 0
            sinkEvents := 0 }
          if timeoutThrows then some (.error .systemError)
          else some (.ok { e with running := true, main := .startWorker })
  | _ => none

/-- The handler of `run`: the error is kept, and the shutdown begins. -/
def mainFails (e : Engine) : Engine :=
  { e with errorOccurred := true, main := .stopping }

/-- `notify_all`, and `notify_one`, as only the worker waits. -/
def notify (e : Engine) : Engine :=
  { e with worker := e.worker.notified }

/-- `run`, but for `bindNext`.  `setup_ok` is false just where the handler has set the
error. -/
def mainNext (e : Engine) (throws shutdown : Bool) : Option Engine :=
  match e.main with
  | .called => some { e with main := if e.running then .declined else .binding }
  | .startWorker =>
      some (if throws then e.mainFails else { e with worker := .loop, main := .startReceiver })
  | .startReceiver =>
      some (if throws then e.mainFails else { e with receiver := .loop, main := .startPoller })
  | .startPoller =>
      some (if throws then e.mainFails else { e with poller := .loop, main := .looping })
  | .looping =>
      if !e.running then some { e with main := .stopping }
      else if throws then some e.mainFails
      else some { e with main := if shutdown then .stopping else .looping }
  | .stopping => some { e with running := false, main := .notifying }
  | .notifying => some { e.notify with main := .joinReceiver }
  | .joinReceiver => if e.receiver.joined then some { e with main := .joinPoller } else none
  | .joinPoller => if e.poller.joined then some { e with main := .joinWorker } else none
  | .joinWorker =>
      if e.worker.joined then some { e with main := .returned (!e.errorOccurred) } else none
  | .binding | .declined | .returned _ => none

/-! ## The receiver -/

/-- `receiver_loop`. -/
def receiverNext (e : Engine) (outcome : ReceiveOutcome) : Option (Except Fault Engine) :=
  match e.receiver with
  | .loop => some (.ok { e with receiver := if e.running then .receiving else .ended })
  | .receiving =>
      match outcome with
      | .received buffer senderIp =>
          some (.ok { e with
            receiver := if buffer.length > 0 then .pushing (buffer, senderIp) else .loop })
      | .failed errno =>
          if errno = eAgain ∨ errno = eIntr then some (.ok { e with receiver := .loop })
          else some (.ok { e with errorOccurred := true, receiver := .ended })
  | .pushing packet =>
      if e.worker.holds then none
      else some do
        let packetQueue ← e.packetQueue.push packet
        return { e with packetQueue, receiver := .loop }.notify
  | .notStarted | .ended => none

/-! ## The worker -/

section

variable (config : MdnsProbePlannerConfig) (clock : Nat → Int)

/-- The body of the `try` in `worker_loop` and its handler, for the packet that was
popped.  An exception of the sink comes after all that is kept here. -/
def interpret (e : Engine) (nowMs : UInt64) (buffer srcIp : Bytes) : Except Fault Engine :=
  match decodePacket buffer with
  | .error (.invalidArgument _) => .ok e
  | .error fault => .error fault
  | .ok msg =>
      if !isDnsResponse msg then .ok { e with queriesSeen := e.queriesSeen + 1 }
      else
        let e := { e with responsesSeen := e.responsesSeen + 1 }
        match createDiscoveryEvent nowMs srcIp buffer msg with
        | .error (.invalidArgument _) => .ok e
        | .error fault => .error fault
        | .ok ev =>
            let e := { e with probePlanner := e.probePlanner.observe config clock ev }
            if ev.records.isEmpty then .ok e
            else .ok { e with sinkEvents := e.sinkEvents + 1, emitted := e.emitted ++ [ev] }

/-- `worker_loop`. -/
def workerNext (e : Engine) (nowMs : UInt64) : Option (Except Fault Engine) :=
  match e.worker with
  | .loop => some (.ok { e with worker := if e.running then .entering else .ended })
  | .entering => some (.ok { e with worker := .looking })
  | .looking =>
      some (.ok { e with
        worker := if e.packetQueue.waitOver e.running then .taking else .parking })
  | .parking => some (.ok { e with worker := .asleep })
  | .taking =>
      some do
        let (packet, packetQueue) ← e.packetQueue.takeFront e.running
        return { e with
          packetQueue
          worker := match packet with
            | some packet => .handling packet
            | none => .ended }
  | .handling packet =>
      some do
        let e ← e.interpret config clock nowMs packet.1 packet.2
        return { e with worker := .loop, handled := e.handled ++ [(nowMs, packet)] }
  | .notStarted | .asleep | .ended => none

/-- The wait ends without a notification. -/
def wakeUpNext (e : Engine) : Option Engine :=
  if e.worker = .asleep then some { e with worker := .entering } else none

/-! ## The poller -/

/-- `send_mdns_questions`. -/
def sendMdnsQuestions (e : Engine) (questions : List MdnsProbeRequest) (refused : Bool) : Engine :=
  if questions.isEmpty then e
  else
    let query := buildQuery 0
      (questions.map fun req => { name := req.qname, type := req.qtype, classCode := 1 })
    if refused then { e with errorOccurred := true }
    else { e with sent := e.sent ++ [query] }

/-- The question of `broadcast_meta_browse`. -/
def metaQuestions : List MdnsProbeRequest :=
  [{ qname := MdnsNames.kDnsSdMetaService, qtype := typePtr }]

/-- `broadcast_meta_browse`. -/
def broadcastMetaBrowse (e : Engine) (refused : Bool) : Engine :=
  e.sendMdnsQuestions metaQuestions refused

/-- The packets of a step, each with whether it is refused. -/
def answered {α : Type} : List α → List Bool → List (α × Bool)
  | [], _ => []
  | packet :: packets, refused => (packet, refused.headD false) :: answered packets refused.tail

/-- `drain_and_send_probes`, with the loop of `send_probe_batch`. -/
def drainAndSendProbes (e : Engine) (refused : List Bool) (room : Nat) : Except Fault Engine := do
  let (probePlanner, batches) ← e.probePlanner.reserveAndDrain config 0 room
  return (answered batches refused).foldl
    (fun e entry => e.sendMdnsQuestions entry.1 entry.2) { e with probePlanner }

/-- `poller_loop`.  What `drain_ready` throws is not caught. -/
def pollerNext (e : Engine) (refused : List Bool) (room : Nat) : Option (Except Fault Engine) :=
  match e.poller with
  | .loop => some (.ok { e with poller := if e.running then .broadcasting else .ended })
  | .broadcasting =>
      some (.ok { e.broadcastMetaBrowse (refused.headD false) with poller := .draining })
  | .draining =>
      some do
        let e ← e.drainAndSendProbes config refused room
        return { e with poller := .sleeping }
  | .sleeping => some (.ok { e with poller := if e.running then .loop else .ended })
  | .notStarted | .ended => none

/-! ## All threads -/

/-- One step; `none` where the thread has to wait, or has not started or has ended.  A fault
is an exception that leaves its thread, and the end of the process. -/
def next (e : Engine) : EngineAction → Option (Except Fault Engine)
  | .main throws shutdown => (e.mainNext throws shutdown).map .ok
  | .bind ifap bindThrows timeoutThrows => e.bindNext ifap bindThrows timeoutThrows
  | .receiver outcome => e.receiverNext outcome
  | .worker nowMs => e.workerNext config clock nowMs
  | .wakeUp => e.wakeUpNext.map .ok
  | .poller refused room => e.pollerNext config refused room

/-- One step that does not fault. -/
def advance (e : Engine) (a : EngineAction) : Option Engine :=
  match e.next config clock a with
  | some (.ok t) => some t
  | _ => none

end

end Engine

/-- The steps that do not fault. -/
def EngineStep (config : MdnsProbePlannerConfig) (clock : Nat → Int) (e : Engine)
    (a : EngineAction) (t : Engine) : Prop :=
  e.next config clock a = some (.ok t)

end Scanner
end LanDiscovery

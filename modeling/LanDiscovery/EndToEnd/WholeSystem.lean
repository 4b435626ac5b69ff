import LanDiscovery.EndToEnd.Posting
import LanDiscovery.EndToEnd.ServiceTypes
import LanDiscovery.Scanner.Console
import LanDiscovery.Scanner.EngineResult
import LanDiscovery.Scanner.EngineTraffic

/-!
# The whole system

The threads of the engine, the sinks that `main` puts behind it (the change filter, then
the console and the HTTP sink side by side), the network and the API.  The worker calls the
sinks within its step; the destructor of the HTTP sink runs when `run` has returned.

Nothing gets lost between the parts: the HTTP sink and the console get the first record of
each store key (`parts_connect`), and what is posted of them is listed
(`records_reach_lists`).
-/

namespace LanDiscovery
namespace EndToEnd

open Library Library.FirstSeen Library.Transition Library.Utf8 Scanner Api Api.Server

/-! ## The parts -/

/-- The settings of all parts. -/
structure SystemConfig where
  probes : MdnsProbePlannerConfig
  exchange : ExchangeConfig

/-- The engine, the store of the change filter, the registry of the console, the messages
that were logged, and the HTTP sink with the API. -/
structure System where
  engine : Engine
  seenKeys : Finset Bytes
  registry : Devices
  console : List Bytes
  exchange : Exchange

/-- Nothing has happened yet. -/
def System.start (interfaceName : Bytes) (db : Db) : System where
  engine := .called interfaceName false
  seenKeys := ∅
  registry := fun _ => none
  console := []
  exchange := .start db

inductive SystemAction where
  | engine (a : EngineAction)
  | exchange (a : ExchangeAction)

/-- `run` has returned. -/
def hasReturned : MainAt → Bool
  | .declined | .returned _ => true
  | _ => false

/-- Only the worker calls the sink, and it is destroyed after `run`. -/
def free (e : Engine) : ExchangeAction → Bool
  | .sink (.onEvent _) => false
  | .sink .stop => hasReturned e.main
  | _ => true

section

variable (config : SystemConfig)

/-- The sinks of `main` take an event. -/
def onEvent (s : System) (ev : DiscoveryEvent) : Option System :=
  match changeFilteredOnEvent s.seenKeys ev with
  | (none, seenKeys) => some { s with seenKeys := seenKeys }
  | (some filtered, seenKeys) =>
      let out := deviceSummaryOnEvent s.registry filtered
      (s.exchange.next config.exchange (.sink (.onEvent filtered))).map fun exchange =>
        { s with
          seenKeys := seenKeys
          registry := out.2
          console := s.console ++ out.1
          exchange := exchange }

/-- One action, if it is possible. -/
def System.next (clock : Nat → Int) (s : System) : SystemAction → Option System
  | .engine a =>
      match s.engine.next config.probes clock a with
      | some (.ok e) =>
          (e.emitted.drop s.engine.emitted.length).foldlM (onEvent config) { s with engine := e }
      | _ => none
  | .exchange a =>
      if free s.engine a then
        (s.exchange.next config.exchange a).map fun exchange => { s with exchange := exchange }
      else none

end

/-- The steps of the system. -/
def SystemStep (config : SystemConfig) (clock : Nat → Int) (s : System) (a : SystemAction)
    (t : System) : Prop :=
  s.next config clock a = some t

/-! ## Lists of events, one by one -/

theorem filterRun_concat (seenKeys : Finset Bytes) (evs : List DiscoveryEvent)
    (ev : DiscoveryEvent) :
    filterRun seenKeys (evs ++ [ev]) =
      ((filterRun seenKeys evs).1 ++
          (changeFilteredOnEvent (filterRun seenKeys evs).2 ev).1.toList,
        (changeFilteredOnEvent (filterRun seenKeys evs).2 ev).2) := by
  induction evs generalizing seenKeys with
  | nil => simp [filterRun]
  | cons ev' evs ih => simp [filterRun, ih]

theorem consoleRun_concat (devices : Devices) (evs : List DiscoveryEvent) (ev : DiscoveryEvent) :
    consoleRun devices (evs ++ [ev]) =
      consoleRun devices evs ++ (deviceSummaryOnEvent (registryRun devices evs) ev).1 := by
  induction evs generalizing devices with
  | nil => simp [consoleRun, registryRun]
  | cons ev' evs ih =>
      rw [List.cons_append, consoleRun, consoleRun, List.append_assoc]
      exact congrArg _ (ih _)

theorem registryRun_concat (devices : Devices) (evs : List DiscoveryEvent) (ev : DiscoveryEvent) :
    registryRun devices (evs ++ [ev]) =
      (deviceSummaryOnEvent (registryRun devices evs) ev).2 := by
  rw [registryRun, List.foldl_concat]
  rfl

/-! ## The invariant -/

/-- The sinks have been given these events. -/
structure Fed (config : SystemConfig) (db : Db) (evs : List DiscoveryEvent) (s : System) :
    Prop where
  relaying : Relaying config.exchange db s.exchange
  filtered : filterRun ∅ evs = (s.exchange.sink.enqueued, s.seenKeys)
  registry : s.registry = registryRun (fun _ => none) s.exchange.sink.enqueued
  console : s.console = consoleRun (fun _ => none) s.exchange.sink.enqueued

/-- How the parts are connected, in every state. -/
structure Linked (config : SystemConfig) (interfaceName : Bytes) (db : Db) (s : System) :
    Prop where
  sound : s.engine.Sound interfaceName false
  accounted : s.engine.Accounted
  stopped : s.exchange.sink.stop = true → hasReturned s.engine.main = true
  fed : Fed config db s.engine.emitted s

theorem linked_start (config : SystemConfig) (interfaceName : Bytes) (db : Db) :
    Linked config interfaceName db (.start interfaceName db) where
  sound := .called interfaceName false
  accounted := .unopened interfaceName false .called
  stopped := by
    intro hstop
    exact absurd hstop (by simp [System.start, Exchange.start, SinkHistory.start, Pipeline.start])
  fed := ⟨relaying_start config.exchange db, rfl, rfl, rfl⟩

section

variable {config : SystemConfig} {clock : Nat → Int} {interfaceName : Bytes} {db : Db}
  {s t : System}

/-- The HTTP sink takes an event before it is destroyed. -/
theorem enqueue_eq {config : ExchangeConfig} {x y : Exchange} {ev : DiscoveryEvent}
    (hopen : x.sink.stop = false) (h : x.next config (.sink (.onEvent ev)) = some y) :
    y.sink.enqueued = x.sink.enqueued ++ [ev] ∧ y.sink.stop = false := by
  simp only [Exchange.next, sinkNext, hopen, Bool.false_eq_true, if_false, Option.map_some,
    Option.some.injEq] at h
  rw [← h]
  refine ⟨rfl, ?_⟩
  show (httpOnEvent config.sink x.sink.toPipeline ev).stop = false
  rcases httpOnEvent_cases config.sink x.sink.toPipeline ev with ⟨-, heq⟩ | ⟨-, -, heq⟩ |
    ⟨oldest, newer, -, -, -, heq⟩ <;> rw [heq] <;> exact hopen

/-- One call of the sinks. -/
theorem Fed.onEvent {evs : List DiscoveryEvent} {ev : DiscoveryEvent} (hs : Fed config db evs s)
    (hopen : s.exchange.sink.stop = false) (h : onEvent config s ev = some t) :
    Fed config db (evs ++ [ev]) t ∧ t.engine = s.engine ∧ t.exchange.sink.stop = false ∧
      ∀ x, Grown x s.exchange → Grown x t.exchange := by
  have hrun := filterRun_concat ∅ evs ev
  rw [hs.filtered] at hrun
  dsimp only at hrun
  unfold EndToEnd.onEvent at h
  split at h
  · next seenKeys hfilter =>
      rw [hfilter] at hrun
      simp only [Option.toList_none, List.append_nil] at hrun
      rw [← Option.some.inj h]
      exact ⟨⟨hs.relaying, hrun, hs.registry, hs.console⟩, rfl, hopen, fun _ => id⟩
  · next filtered seenKeys hfilter =>
      rw [hfilter] at hrun
      simp only [Option.toList_some] at hrun
      obtain ⟨exchange, hexchange, rfl⟩ := Option.map_eq_some_iff.mp h
      obtain ⟨henqueued, hstop⟩ := enqueue_eq hopen hexchange
      refine ⟨⟨hs.relaying.step hexchange, ?_, ?_, ?_⟩, rfl, hstop, ?_⟩
      · rw [hrun, henqueued]
      · rw [henqueued, registryRun_concat, ← hs.registry]
      · rw [henqueued, consoleRun_concat, ← hs.registry, ← hs.console]
      · intro x hx
        exact hx.step hs.relaying hexchange

/-- The calls of the sinks in a step of the worker. -/
theorem Fed.calls {evs news : List DiscoveryEvent} (hs : Fed config db evs s)
    (hopen : s.exchange.sink.stop = false)
    (h : news.foldlM (EndToEnd.onEvent config) s = some t) :
    Fed config db (evs ++ news) t ∧ t.engine = s.engine ∧ t.exchange.sink.stop = false ∧
      ∀ x, Grown x s.exchange → Grown x t.exchange := by
  induction news generalizing evs s with
  | nil =>
      obtain rfl : s = t := by simpa using h
      exact ⟨by simpa using hs, rfl, hopen, fun _ => id⟩
  | cons ev news ih =>
      rw [List.foldlM_cons] at h
      obtain ⟨u, hu, hrest⟩ := Option.bind_eq_some_iff.mp h
      obtain ⟨hfed, hengine, hstop, hgrown⟩ := hs.onEvent hopen hu
      obtain ⟨hfed', hengine', hstop', hgrown'⟩ := ih hfed hstop hrest
      rw [List.append_assoc, List.singleton_append] at hfed'
      exact ⟨hfed', hengine'.trans hengine, hstop', fun x hx => hgrown' x (hgrown x hx)⟩

/-- A step of the engine only adds calls of the sink. -/
theorem emitted_of_step {e e' : Engine} (h : e.Sound interfaceName false) {a : EngineAction}
    (hstep : EngineStep config.probes clock e a e') :
    e.emitted ++ e'.emitted.drop e.emitted.length = e'.emitted := by
  rcases h.step_cases hstep with ⟨place, rfl, hmove⟩ | ⟨-, hmove⟩
  · cases hmove <;> rfl
  · rcases hmove.handled with ⟨-, -, -, -, hsame⟩ | ⟨nowMs, packet, rfl⟩
    · rw [hsame, List.drop_length, List.append_nil]
    · show e.emitted ++ (e.emitted ++ offered nowMs packet).drop e.emitted.length =
        e.emitted ++ offered nowMs packet
      rw [List.drop_left]

/-- A step of the sink that is not a call leaves what was enqueued, and only the destructor
stops it. -/
theorem enqueued_of_sinkStep {config : HttpEventSinkConfig} {sink sink' : SinkHistory}
    {action : SinkAction} (h : SinkStep config sink action sink')
    (hcall : ∀ ev, action ≠ .onEvent ev) :
    sink'.enqueued = sink.enqueued ∧ (action ≠ .stop → sink'.stop = sink.stop) := by
  rcases sinkStep_cases h with ⟨ev, rfl, -⟩ | ⟨ev, queue, rfl, -, -, rfl⟩ |
    ⟨ev, b, rfl, -, rfl⟩ | ⟨ev, b, rfl, -, rfl⟩ | ⟨ev, b, rfl, -, -, rfl⟩ |
    ⟨ev, b, rfl, -, -, rfl⟩ | ⟨rfl, -, rfl⟩ | ⟨rfl, -, -, -, rfl⟩
  · exact absurd rfl (hcall ev)
  · exact ⟨rfl, fun _ => rfl⟩
  · exact ⟨rfl, fun _ => rfl⟩
  · exact ⟨rfl, fun _ => rfl⟩
  · exact ⟨rfl, fun _ => rfl⟩
  · exact ⟨rfl, fun _ => rfl⟩
  · exact ⟨rfl, fun hstop => absurd rfl hstop⟩
  · exact ⟨rfl, fun _ => rfl⟩

/-- What another part does leaves what was enqueued, and only the destructor stops the sink. -/
theorem enqueued_of_step {config : ExchangeConfig} {x y : Exchange} {a : ExchangeAction}
    (h : ExchangeStep config x a y) (hcall : ∀ ev, a ≠ .sink (.onEvent ev)) :
    y.sink.enqueued = x.sink.enqueued ∧ (a ≠ .sink .stop → y.sink.stop = x.sink.stop) := by
  cases moves_of_step h with
  | sink action sink ha hpost hsink ht =>
      obtain ⟨henqueued, hstop⟩ := enqueued_of_sinkStep hsink
        fun ev heq => hcall ev (heq ▸ ha)
      rw [ht]
      exact ⟨henqueued, fun hne => hstop fun heq => hne (heq ▸ ha)⟩
  | send i d backoffMs hposter hsent hnone ht =>
      rw [ht]
      exact ⟨rfl, fun _ => rfl⟩
  | post accepted sink hsink hanswered ht =>
      obtain ⟨henqueued, hstop⟩ := enqueued_of_sinkStep hsink (by simp)
      rw [ht]
      exact ⟨henqueued, fun _ => hstop (by simp)⟩
  | server action server hown hserver ht =>
      rw [ht]
      exact ⟨rfl, fun _ => rfl⟩

/-- A step of a thread is one before `run` has returned. -/
theorem not_hasReturned_of_step {e e' : Engine} (h : e.Sound interfaceName false)
    {a : EngineAction} (hstep : EngineStep config.probes clock e a e') :
    hasReturned e.main = false := by
  rcases h.step_cases hstep with ⟨place, rfl, hmove⟩ | ⟨h, hmove⟩
  · cases hmove <;> rfl
  · have hopened := h.opened
    cases hmain : e.main with
    | returned ok => exact absurd hmove (h.not_move_of_returned hmain)
    | declined => simp [hmain, MainAt.opening] at hopened
    | _ => rfl

/-- **Every action keeps the parts connected.** -/
theorem Linked.step (hs : Linked config interfaceName db s) {a : SystemAction}
    (h : SystemStep config clock s a t) :
    Linked config interfaceName db t ∧ ∀ x, Grown x s.exchange → Grown x t.exchange := by
  cases a with
  | engine a =>
      simp only [SystemStep, System.next] at h
      split at h
      · next e hstep =>
          -- the sink is destroyed after `run` has returned, so it takes what is emitted
          have hopen : s.exchange.sink.stop = false := by
            rw [Bool.eq_false_iff]
            intro hstop
            have hrunning := not_hasReturned_of_step hs.sound hstep
            exact absurd (hrunning.symm.trans (hs.stopped hstop)) (by simp)
          have hfed : Fed config db s.engine.emitted { s with engine := e } :=
            ⟨hs.fed.relaying, hs.fed.filtered, hs.fed.registry, hs.fed.console⟩
          obtain ⟨hfed', hengine, hstop, hgrown⟩ := hfed.calls hopen h
          rw [emitted_of_step hs.sound hstep] at hfed'
          refine ⟨⟨?_, ?_, ?_, ?_⟩, hgrown⟩
          · rw [hengine]
            exact sound_step s.engine a e hs.sound hstep
          · rw [hengine]
            exact hs.sound.accounted_step hs.accounted hstep
          · intro hstopped
            exact absurd (hstop.symm.trans hstopped) (by simp)
          · rw [hengine]
            exact hfed'
      · exact absurd h (by simp)
  | exchange a =>
      simp only [SystemStep, System.next, Option.ite_none_right_eq_some] at h
      obtain ⟨hfree, h⟩ := h
      obtain ⟨exchange, hstep, rfl⟩ := Option.map_eq_some_iff.mp h
      -- events come from the engine only
      have hcall : ∀ ev, a ≠ .sink (.onEvent ev) := by
        rintro ev rfl
        exact absurd hfree Bool.false_ne_true
      obtain ⟨henqueued, hstop⟩ := enqueued_of_step hstep hcall
      refine ⟨⟨hs.sound, hs.accounted, ?_, ?_⟩, fun x hx => hx.step hs.fed.relaying hstep⟩
      · intro hstopped
        by_cases hdestroyed : a = .sink .stop
        · rw [hdestroyed] at hfree
          exact hfree
        · exact hs.stopped ((hstop hdestroyed).symm.trans hstopped)
      · refine ⟨hs.fed.relaying.step hstep, ?_, ?_, ?_⟩
        · rw [henqueued]
          exact hs.fed.filtered
        · rw [henqueued]
          exact hs.fed.registry
        · rw [henqueued]
          exact hs.fed.console

theorem linked_of_run {actions : List SystemAction}
    (hrun : Run (SystemStep config clock) (.start interfaceName db) actions s) :
    Linked config interfaceName db s :=
  hrun.preserves (fun _ _ _ hs hstep => (hs.step hstep).1) (linked_start config interfaceName db)

theorem linked_grown_of_run (hs : Linked config interfaceName db s)
    {actions : List SystemAction} (hrun : Run (SystemStep config clock) s actions t) :
    Linked config interfaceName db t ∧ Grown s.exchange t.exchange := by
  refine hrun.preserves
    (I := fun u => Linked config interfaceName db u ∧ Grown s.exchange u.exchange) ?_
    ⟨hs, .refl s.exchange⟩
  intro u a v hu hstep
  obtain ⟨hlinked, hgrown⟩ := hu.1.step hstep
  exact ⟨hlinked, hgrown _ hu.2⟩

end

/-! ## From a record to the lists -/

/-- The text is not shorter without the white space around it. -/
def IsTrimmed (text : Bytes) : Prop :=
  ∀ chars : Str, encode chars = text → strip chars = chars

section

variable {config : SystemConfig} {clock : Nat → Int} {interfaceName : Bytes} {db : Db}
  {s t : System}

theorem Linked.records (hs : Linked config interfaceName db s) :
    emittedRecords s.exchange.sink.enqueued =
      (scan storeKey ∅ (displayableRecords s.engine.responses)).1 := by
  rw [← hs.accounted.filtered, hs.fed.filtered]

/-- A displayable record that was received came to the sink, or another one of its key. -/
theorem Linked.exists_enqueued (hs : Linked config interfaceName db s)
    {p : Bytes × ResourceRecordView}
    (hp : p ∈ displayableRecords s.engine.responses) :
    ∃ ev ∈ s.exchange.sink.enqueued, ∃ rec ∈ ev.records, storeKey (ev.srcIp, rec) = storeKey p := by
  obtain ⟨q, hq, hkey⟩ := exists_mem_scan storeKey hp (Finset.notMem_empty _)
  rw [← hs.records] at hq
  obtain ⟨ev, hev, hrecord⟩ := List.mem_flatMap.mp hq
  obtain ⟨rec, hrec, rfl⟩ := List.mem_map.mp hrecord
  exact ⟨ev, hev, rec, hrec, hkey⟩

/-- The sink only gets displayable records. -/
theorem Linked.displayable (hs : Linked config interfaceName db s) {ev : DiscoveryEvent}
    (hev : ev ∈ s.exchange.sink.enqueued) {rec : ResourceRecordView} (hrec : rec ∈ ev.records) :
    isDisplayableRecord rec = true := by
  have hmem : (ev.srcIp, rec) ∈ emittedRecords s.exchange.sink.enqueued :=
    List.mem_flatMap.mpr ⟨ev, hev, List.mem_map_of_mem hrec⟩
  rw [hs.records] at hmem
  obtain ⟨r, -, hr⟩ := List.mem_flatMap.mp ((scan_sublist _ _ _).subset hmem)
  obtain ⟨rec', hrec', heq⟩ := List.mem_map.mp hr
  obtain ⟨-, rfl⟩ := Prod.mk.inj heq
  exact (List.mem_filter.mp hrec').2

/-- Every record has its record in the request. -/
theorem exists_deliveredRecord {rs : List ResourceRecordView} {recs : List DiscoveryRecordIn}
    (h : List.Forall₂ DeliveredRecord rs recs) {r : ResourceRecordView} (hr : r ∈ rs) :
    ∃ rec ∈ recs, DeliveredRecord r rec := by
  induction h with
  | nil => exact absurd hr List.not_mem_nil
  | @cons r' rec' rs recs hpair _ ih =>
      rcases List.mem_cons.mp hr with rfl | hr
      · exact ⟨rec', List.mem_cons_self, hpair⟩
      · obtain ⟨rec, hrec, hpair⟩ := ih hr
        exact ⟨rec, List.mem_cons_of_mem _ hrec, hpair⟩

/-- The API names the service types of a record as the scanner does, if its text is trimmed. -/
theorem exists_key_of_delivered {ev : DiscoveryEvent} {mac : Option Bytes}
    {event : DiscoveryEventIn} (hdelivered : Delivered ev mac event)
    (hdisplay : ∀ rec ∈ ev.records, isDisplayableRecord rec = true) {rec : ResourceRecordView}
    (hrec : rec ∈ ev.records) (htrimmed : IsTrimmed rec.rdataText) {serviceType : Bytes}
    (htype : serviceType ∈ contributedServiceTypes rec) :
    ∃ key ∈ MdnsNames.serviceTypesFromRecords event.records, encode key = serviceType := by
  obtain ⟨rec', hrec', hpair⟩ := exists_deliveredRecord hdelivered.records hrec
  rw [contributedServiceTypes_of_delivered (hdisplay rec hrec) hpair, List.mem_toFinset] at htype
  obtain ⟨key, hkey, rfl⟩ := List.mem_map.mp htype
  refine ⟨key, ?_, rfl⟩
  rw [mem_serviceTypesFromRecords_iff hdelivered.records hdisplay]
  exact ⟨rec', hrec', by rwa [htrimmed rec'.rdataText hpair.rdataText]⟩

end

/-! ## A pointer that is received -/

/-- A response with the pointer of `airplayEvent`. -/
def airplayPacket : Bytes :=
  [0, 0, 0x84, 0, 0, 0, 0, 1, 0, 0, 0, 0] ++
    [ascii "_airplay", ascii "_tcp", ascii "local"].flatMap wireLabel ++
    [0, 0, 12, 0, 1, 0, 0, 0, 120, 0, 24] ++
    [ascii "TV", ascii "_airplay", ascii "_tcp", ascii "local"].flatMap wireLabel ++ [0]

/-- Its record, with its source. -/
def airplayPointer : Bytes × ResourceRecordView :=
  (ascii "192.168.1.10",
    { ownerName := ascii "_airplay._tcp.local", type := typePtr,
      rdataText := ascii "TV._airplay._tcp.local", ttl := 120, observedAtMs := 1000 })

/-- The settings of a scan without tokens. -/
def openSystem : SystemConfig where
  probes := {}
  exchange := openExchange

/-- The response is received and handled. -/
def scanActions : List EngineAction :=
  [.main false false, .bind (some []) false false,
    .main false false, .main false false, .main false false, .receiver (.failed eAgain),
    .receiver (.received airplayPacket (ascii "192.168.1.10")), .receiver (.failed eAgain),
    .worker 0, .worker 0, .worker 0, .worker 0, .worker 1000]

/-- Its event is posted. -/
def postActions : List ExchangeAction :=
  [.sink .take, .send 0 airplayDelivery, .arrive 0 (airplayInput 0)] ++ handled 0 ++ [.respond]

/-- Both. -/
def postedActions : List SystemAction :=
  scanActions.map .engine ++ postActions.map .exchange

/-- What that leads to. -/
def postedSystem : System :=
  (exec (System.next openSystem fun _ => 0) (.start [] Db.empty) postedActions).getD
    (.start [] Db.empty)

/-- What a list after that leads to. -/
def listedSystem : System :=
  (exec (System.next openSystem fun _ => 0) postedSystem (listActions.map .exchange)).getD
    (.start [] Db.empty)

theorem posted_run :
    Run (SystemStep openSystem fun _ => 0) (.start [] Db.empty) postedActions postedSystem :=
  .of_exec_isSome (by decide +kernel)

theorem listed_system_run :
    Run (SystemStep openSystem fun _ => 0) postedSystem (listActions.map .exchange)
      listedSystem :=
  .of_exec_isSome (by decide +kernel)

theorem airplayPointer_received :
    airplayPointer ∈ displayableRecords postedSystem.engine.responses := by
  decide +kernel

theorem airplayEvent_posted : postedSystem.exchange.sink.posted = [airplayEvent] := by
  decide +kernel

/-! ## The results -/

/-- **Records reach the lists.**  A displayable record of a response that was handled came to
the HTTP sink, it or the first one of its store key.  That event is posted, in hand, queued or
lost; once it is posted, a list that is asked for afterwards shows a device with each service
type that the scanner has named after the record. -/
theorem records_reach_lists (config : SystemConfig) (clock : Nat → Int) (interfaceName : Bytes)
    (db : Db) (before after : List SystemAction) (s t : System)
    (hbefore : Run (SystemStep config clock) (.start interfaceName db) before s)
    (hafter : Run (SystemStep config clock) s after t) (p : Bytes × ResourceRecordView)
    (hp : p ∈ displayableRecords s.engine.responses) :
    ∃ ev rec, rec ∈ ev.records ∧ storeKey (ev.srcIp, rec) = storeKey p ∧
      ev ∈ s.exchange.sink.posted ++ s.exchange.sink.poster.inHand ++ s.exchange.sink.queue ++
        s.exchange.sink.dropped ++ s.exchange.sink.abandoned ∧
      (ev ∈ s.exchange.sink.posted → IsTrimmed rec.rdataText →
        ∀ (j left : Nat) (h : Handling) (devices : List DeviceOut),
          s.exchange.server.handling j = none →
            t.exchange.server.Answered j h left (.devices devices) →
              ∃ device ∈ devices, ∀ serviceType ∈ contributedServiceTypes rec,
                ∃ key ∈ device.services, encode key = serviceType) := by
  have hs := linked_of_run hbefore
  obtain ⟨ht, hgrown⟩ := linked_grown_of_run hs hafter
  obtain ⟨ev, hev, rec, hrec, hkey⟩ := hs.exists_enqueued hp
  refine ⟨ev, rec, hrec, hkey, ?_, ?_⟩
  · exact hs.fed.relaying.kept.accounted.complete.mem_iff.mp hev
  · intro hposted htrimmed j left h devices hnew hanswered
    obtain ⟨mac, event, hdelivered, device, hdevice, hservices⟩ :=
      hs.fed.relaying.listed ht.fed.relaying hgrown hposted hnew hanswered
    refine ⟨device, hdevice, ?_⟩
    intro serviceType htype
    obtain ⟨key, hmem, henc⟩ := exists_key_of_delivered hdelivered
      (fun r hr => hs.displayable hev hr) hrec htrimmed htype
    exact ⟨key, hservices key hmem, henc⟩

/-- The list that is answered after the scan and the post shows the service type. -/
theorem airplay_listed :
    Run (SystemStep openSystem fun _ => 0) (.start [] Db.empty)
        (postedActions ++ listActions.map .exchange) listedSystem ∧
      ∃ (h : Handling) (devices : List DeviceOut),
        listedSystem.exchange.server.Answered 2 h 1 (.devices devices) ∧
        ∃ device ∈ devices, ∃ key ∈ device.services,
          encode key = ascii "_airplay._tcp.local" := by
  have hlist : (listedSystem.exchange.server.handling 2).any
      (Handling.isAnswered 1 1 isList) = true := by
    decide +kernel
  have hnew : postedSystem.exchange.server.handling 2 = none :=
    Option.isNone_iff_eq_none.mp (by decide +kernel)
  have hall : postedSystem.exchange.sink.posted ++ postedSystem.exchange.sink.poster.inHand ++
      postedSystem.exchange.sink.queue ++ postedSystem.exchange.sink.dropped ++
      postedSystem.exchange.sink.abandoned = [airplayEvent] := by
    decide +kernel
  have htype : ascii "_airplay._tcp.local" ∈ contributedServiceTypes airplayPointer.2 := by
    decide +kernel
  have htext : airplayPointer.2.rdataText = encode (str "TV._airplay._tcp.local") := by
    decide +kernel
  obtain ⟨h, devices, hanswered, -⟩ := listed_of_isAnswered hlist
  obtain ⟨ev, rec, hrec, -, hev, hlisted⟩ := records_reach_lists openSystem (fun _ => 0) [] Db.empty
    postedActions (listActions.map .exchange) postedSystem listedSystem posted_run
    listed_system_run airplayPointer airplayPointer_received
  rw [hall] at hev
  obtain rfl := List.mem_singleton.mp hev
  obtain rfl : rec = airplayPointer.2 := List.mem_singleton.mp hrec
  have htrimmed : IsTrimmed airplayPointer.2.rdataText := by
    intro chars hchars
    obtain rfl : chars = str "TV._airplay._tcp.local" := encode_injective (hchars.trans htext)
    decide +kernel
  obtain ⟨device, hdevice, hservices⟩ := hlisted (by rw [airplayEvent_posted]; simp) htrimmed
    2 1 h devices hnew hanswered
  exact ⟨posted_run.append listed_system_run, h, devices, hanswered, device, hdevice,
    hservices _ htype⟩

end EndToEnd
end LanDiscovery

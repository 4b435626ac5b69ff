import LanDiscovery.Api.ServerResults
import LanDiscovery.EndToEnd.Delivery
import LanDiscovery.Library.StopAndWait
import LanDiscovery.Scanner.SinkShutdown

/-!
# From the queue of the sink to the database

The poster of `HttpEventSink` and the API, with a network between them that may lose a
request or an answer.  `post_once` sends one request and waits; when it gives up, its
request may be lost, on its way or in the middle of its transaction, and what the poster
tries next is a request of its own.  The server has other clients.

Of what the poster has posted the API has committed everything, each event for the first
time in the order of the queue (`posts_commit_in_order`), and from then on lists show its
services (`posted_events_are_listed`).
-/

namespace LanDiscovery
namespace EndToEnd

open Library Library.FirstSeen Library.Json Library.StopAndWait Library.Text Library.Transition
  Library.Utf8 Scanner Api Api.Server

/-! ## The parties -/

/-- An event with the request that the API reads from the text posted for it. -/
structure Delivery where
  ev : DiscoveryEvent
  mac : Option Bytes
  event : DiscoveryEventIn
  delivered : Delivered ev mac event

/-- The settings of both parties. -/
structure ExchangeConfig where
  sink : HttpEventSinkConfig
  apiToken : Str
  server : Server.Config

/-- The header `X-API-Key` of `post_once`. -/
def ExchangeConfig.xApiKey (config : ExchangeConfig) : Option Str :=
  truthy (some config.apiToken)

/-- The sink, the server, what the sink has sent under which number, and the request that
`post_once` waits for.  The place of an event among those that were taken from the queue
is kept for the account only. -/
structure Exchange where
  sink : SinkHistory
  server : Server.State
  sent : Nat → Option (Nat × Delivery)
  awaiting : Option Nat

/-- Nothing has happened yet. -/
def Exchange.start (db : Db) : Exchange where
  sink := .start
  server := .start db
  sent := fun _ => none
  awaiting := none

inductive ExchangeAction where
  /-- a step of the sink outside of `post_once` -/
  | sink (a : SinkAction)
  /-- `post_once` sends its request -/
  | send (i : Nat) (d : Delivery)
  /-- the request gets to the server, which reads it -/
  | arrive (i : Nat) (inp : IngestInput)
  /-- `post_once` gets its answer -/
  | respond
  /-- `post_once` fails otherwise -/
  | fail
  /-- the server works, or somebody else sends a request -/
  | server (a : Server.Action)

/-- What `post_once` calls a success. -/
def isAccepted (answer : Request.Answer) : Bool :=
  200 ≤ answer.statusCode && answer.statusCode < 300

/-- The number of the request that arrives. -/
def arriving : Server.Action → Option Nat
  | .arrive i _ _ => some i
  | _ => none

namespace Exchange

/-- `post_once` returns. -/
def post (config : ExchangeConfig) (s : Exchange) (accepted : Bool) : Option Exchange :=
  (sinkNext config.sink s.sink (.post accepted)).map fun sink =>
    { s with sink := sink, awaiting := none }

/-- The server takes an action. -/
def serve (config : ExchangeConfig) (s : Exchange) (a : Server.Action) : Option Exchange :=
  (s.server.next config.server a).map fun server => { s with server := server }

/-- One action, if it is possible. -/
def next (config : ExchangeConfig) (s : Exchange) : ExchangeAction → Option Exchange
  | .sink a =>
      match a with
      | .post _ => none
      | a => (sinkNext config.sink s.sink a).map fun sink => { s with sink := sink }
  | .send i d =>
      match s.sink.poster with
      | .posting ev _ =>
          if ev = d.ev ∧ s.awaiting.isNone ∧ (s.sent i).isNone ∧ (s.server.handling i).isNone then
            some
              { s with
                sent := Function.update s.sent i (some (s.sink.posted.length, d))
                awaiting := some i }
          else none
      | _ => none
  | .arrive i inp =>
      match s.sent i with
      | some (_, d) =>
          if inp.event = d.event then s.serve config (.arrive i (.ingest inp) config.xApiKey)
          else none
      | none => none
  | .respond =>
      match s.awaiting.bind s.server.handling with
      | some ⟨_, _, _, _, _, .answered _ answer⟩ => s.post config (isAccepted answer)
      | _ => none
  | .fail => s.post config false
  | .server a =>
      match (arriving a).bind s.sent with
      | some _ => none
      | none => s.serve config a

/-- The events that were taken from the queue. -/
def taken (s : Exchange) : List DiscoveryEvent :=
  s.sink.posted ++ s.sink.poster.inHand ++ s.sink.abandoned

/-- The place and the event of a request of the sink. -/
def carries (s : Exchange) (i : Nat) : Option (Nat × DiscoveryEvent) :=
  (s.sent i).map fun x => (x.1, x.2.ev)

/-- What the sink got committed, in the order of the commits. -/
def relayed (s : Exchange) : List (Nat × DiscoveryEvent) :=
  s.server.log.filterMap fun entry => s.carries entry.1

end Exchange

/-- The steps of both parties. -/
def ExchangeStep (config : ExchangeConfig) (s : Exchange) (a : ExchangeAction) (t : Exchange) :
    Prop :=
  s.next config a = some t

/-! ## What an action does -/

section

variable {config : ExchangeConfig} {s t : Exchange} {a : ExchangeAction}

/-- The sink moves without `post_once`, `post_once` sends, `post_once` returns, or the
server moves; each with the condition under which it may. -/
inductive Moves (config : ExchangeConfig) (s : Exchange) (a : ExchangeAction) (t : Exchange) :
    Prop where
  | sink (action : SinkAction) (sink : SinkHistory) (ha : a = .sink action)
      (hpost : ∀ accepted, action ≠ .post accepted)
      (hstep : SinkStep config.sink s.sink action sink) (ht : t = { s with sink := sink })
  | send (i : Nat) (d : Delivery) (backoffMs : Nat)
      (hposter : s.sink.poster = .posting d.ev backoffMs)
      (hsent : s.sent i = none) (hnone : s.server.handling i = none)
      (ht : t = { s with
        sent := Function.update s.sent i (some (s.sink.posted.length, d))
        awaiting := some i })
  | post (accepted : Bool) (sink : SinkHistory)
      (hstep : SinkStep config.sink s.sink (.post accepted) sink)
      (hanswered : accepted = true → ∃ i h left answer, s.awaiting = some i ∧
        s.server.Answered i h left answer ∧ IsSuccessful answer)
      (ht : t = { s with sink := sink, awaiting := none })
  | server (action : Server.Action) (server : Server.State)
      (hown : ∀ i call xApiKey p d, action = .arrive i call xApiKey → s.sent i = some (p, d) →
        ∃ inp, call = .ingest inp ∧ inp.event = d.event)
      (hstep : Server.Step config.server s.server action server)
      (ht : t = { s with server := server })

theorem post_eq_some {accepted : Bool} (h : s.post config accepted = some t) :
    ∃ sink, SinkStep config.sink s.sink (.post accepted) sink ∧
      t = { s with sink := sink, awaiting := none } := by
  obtain ⟨sink, hsink, ht⟩ := Option.map_eq_some_iff.mp h
  exact ⟨sink, hsink, ht.symm⟩

theorem serve_eq_some {action : Server.Action} (h : s.serve config action = some t) :
    ∃ server, Server.Step config.server s.server action server ∧
      t = { s with server := server } := by
  obtain ⟨server, hserver, ht⟩ := Option.map_eq_some_iff.mp h
  exact ⟨server, hserver, ht.symm⟩

theorem moves_of_step (h : ExchangeStep config s a t) : Moves config s a t := by
  cases a with
  | sink a =>
      simp only [ExchangeStep, Exchange.next] at h
      split at h
      · exact absurd h (by simp)
      · next hpost =>
          obtain ⟨sink, hsink, ht⟩ := Option.map_eq_some_iff.mp h
          exact .sink a sink rfl hpost hsink ht.symm
  | send i d =>
      simp only [ExchangeStep, Exchange.next] at h
      split at h
      · next ev backoffMs hposter =>
          split at h
          · next hfree =>
              obtain ⟨rfl, -, hsent, hnone⟩ := hfree
              exact .send i d backoffMs hposter (Option.isNone_iff_eq_none.mp hsent)
                (Option.isNone_iff_eq_none.mp hnone) (Option.some.inj h).symm
          · exact absurd h (by simp)
      · exact absurd h (by simp)
  | arrive i inp =>
      simp only [ExchangeStep, Exchange.next] at h
      split at h
      · next p d hsent =>
          split at h
          · next hevent =>
              obtain ⟨server, hserver, ht⟩ := serve_eq_some h
              refine .server _ server ?_ hserver ht
              intro j call xApiKey p' d' hsame hsent'
              obtain ⟨rfl, rfl, -⟩ := Server.Action.arrive.inj hsame
              obtain ⟨-, rfl⟩ := Prod.mk.inj (Option.some.inj (hsent.symm.trans hsent'))
              exact ⟨inp, rfl, hevent⟩
          · exact absurd h (by simp)
      · exact absurd h (by simp)
  | respond =>
      simp only [ExchangeStep, Exchange.next] at h
      split at h
      · next call xApiKey entered commit looks left answer hhandling =>
          obtain ⟨i, hawaiting, hhandling⟩ := Option.bind_eq_some_iff.mp hhandling
          obtain ⟨sink, hsink, ht⟩ := post_eq_some h
          refine .post _ sink hsink ?_ ht
          -- only the answer 202 of this request makes the post a success
          intro haccepted
          rw [isAccepted, Bool.and_eq_true, decide_eq_true_eq, decide_eq_true_eq] at haccepted
          exact ⟨i, _, left, answer, hawaiting, ⟨hhandling, rfl⟩, haccepted⟩
      · exact absurd h (by simp)
  | fail =>
      obtain ⟨sink, hsink, ht⟩ := post_eq_some h
      exact .post false sink hsink (by simp) ht
  | server action =>
      simp only [ExchangeStep, Exchange.next] at h
      split at h
      · exact absurd h (by simp)
      · next hfree =>
          obtain ⟨server, hserver, ht⟩ := serve_eq_some h
          refine .server action server ?_ hserver ht
          -- a request of the sink has come by `arrive` only
          intro i call xApiKey p d hsame hsent
          rw [hsame] at hfree
          exact absurd (hfree.symm.trans hsent) (by simp)

/-! ## The sink goes on -/

/-- What is taken from the queue stays taken, and only a successful `post_once` posts. -/
theorem taken_of_sinkStep {sink sink' : SinkHistory} {action : SinkAction}
    {config : HttpEventSinkConfig} (hkept : SinkKept config sink)
    (h : SinkStep config sink action sink') :
    sink.posted ++ sink.poster.inHand ++ sink.abandoned <+:
        sink'.posted ++ sink'.poster.inHand ++ sink'.abandoned ∧
      (action ≠ .post true → sink'.posted = sink.posted) ∧
      (action = .post true → sink'.posted.length = sink.posted.length + 1) := by
  rcases sinkStep_cases h with ⟨ev, rfl, rfl⟩ | ⟨ev, queue, rfl, hposter, hqueue, rfl⟩ |
    ⟨ev, b, rfl, hposter, rfl⟩ | ⟨ev, b, rfl, hposter, rfl⟩ | ⟨ev, b, rfl, hposter, hstop, rfl⟩ |
    ⟨ev, b, rfl, hposter, hstop, rfl⟩ | ⟨rfl, hstop, rfl⟩ | ⟨rfl, hposter, hqueue, hstop, rfl⟩
  · rcases httpOnEvent_cases config sink.toPipeline ev with ⟨-, heq⟩ | ⟨-, -, heq⟩ |
      ⟨oldest, newer, -, -, -, heq⟩ <;> simp [heq]
  · -- into the hand, when nothing is abandoned yet
    have hnone := hkept.abandoned (by simp [hposter])
    simp [hposter, hnone, Poster.inHand]
  · simp [hposter, Poster.inHand]
  · simp [hposter, Poster.inHand]
  · simp [hposter, Poster.inHand]
  · have hnone := hkept.abandoned (by simp [hposter])
    simp [hposter, hnone, Poster.inHand]
  · simp
  · simp [hposter, Poster.inHand]

/-- Outside of `post_once` the poster stays in it. -/
theorem posting_of_sinkStep {sink sink' : SinkHistory} {action : SinkAction}
    {config : HttpEventSinkConfig} {ev : DiscoveryEvent} {backoffMs : Nat}
    (hposter : sink.poster = .posting ev backoffMs) (hpost : ∀ accepted, action ≠ .post accepted)
    (h : SinkStep config sink action sink') : sink'.poster = .posting ev backoffMs := by
  rcases sinkStep_cases h with ⟨ev', rfl, rfl⟩ | ⟨ev', queue, rfl, hposter', -, -⟩ |
    ⟨ev', b, rfl, -, -⟩ | ⟨ev', b, rfl, -, -⟩ | ⟨ev', b, rfl, hposter', -, -⟩ |
    ⟨ev', b, rfl, hposter', -, -⟩ | ⟨rfl, -, rfl⟩ | ⟨rfl, hposter', -, -, -⟩
  · rcases httpOnEvent_cases config sink.toPipeline ev' with ⟨-, heq⟩ | ⟨-, -, heq⟩ |
      ⟨oldest, newer, -, -, -, heq⟩ <;> simpa [heq] using hposter
  · exact absurd (hposter.symm.trans hposter') (by simp)
  · exact absurd rfl (hpost true)
  · exact absurd rfl (hpost false)
  · exact absurd (hposter.symm.trans hposter') (by simp)
  · exact absurd (hposter.symm.trans hposter') (by simp)
  · exact hposter
  · exact absurd (hposter.symm.trans hposter') (by simp)

end

/-! ## The invariant -/

/-- What holds of both parties in every state. -/
structure Relaying (config : ExchangeConfig) (db : Db) (s : Exchange) : Prop where
  sound : Server.Sound config.server db s.server
  kept : SinkKept config.sink s.sink
  arrivals : Arrivals s.sink.posted.length (s.relayed.map Prod.fst)
  places : ∀ i p d, s.sent i = some (p, d) →
    p ≤ s.sink.posted.length ∧ s.taken[p]? = some d.ev
  calls : ∀ i p d h, s.sent i = some (p, d) → s.server.handling i = some h →
    ∃ inp, h.call = .ingest inp ∧ inp.event = d.event
  awaited : ∀ i, s.awaiting = some i → ∃ d ev backoffMs,
    s.sent i = some (s.sink.posted.length, d) ∧ s.sink.poster = .posting ev backoffMs

theorem relaying_start (config : ExchangeConfig) (db : Db) : Relaying config db (.start db) where
  sound := sound_start config.server db
  kept := sinkKept_start config.sink
  arrivals := arrivals_nil
  places := by
    intro i p d hsent
    exact absurd hsent (by simp [Exchange.start])
  calls := by
    intro i p d h hsent
    exact absurd hsent (by simp [Exchange.start])
  awaited := by
    intro i hawaiting
    exact absurd hawaiting (by simp [Exchange.start])

section

variable {config : ExchangeConfig} {db : Db} {s t : Exchange}

theorem getElem?_mono {α : Type} {xs ys : List α} (h : xs <+: ys) {p : Nat} {a : α}
    (ha : xs[p]? = some a) : ys[p]? = some a := by
  obtain ⟨rest, rfl⟩ := h
  obtain ⟨hlt, -⟩ := List.getElem?_eq_some_iff.mp ha
  rw [List.getElem?_append_left hlt]
  exact ha

theorem Relaying.sink (hs : Relaying config db s) {a : SinkAction} {sink : SinkHistory}
    (hpost : ∀ accepted, a ≠ .post accepted) (hstep : SinkStep config.sink s.sink a sink) :
    Relaying config db { s with sink := sink } := by
  obtain ⟨htaken, hsame, -⟩ := taken_of_sinkStep hs.kept hstep
  have hposted := hsame (hpost true)
  refine ⟨hs.sound, sinkKept_step hs.kept hstep, ?_, ?_, hs.calls, ?_⟩
  · show Arrivals sink.posted.length (s.relayed.map Prod.fst)
    rw [hposted]
    exact hs.arrivals
  · intro i p d hsent
    obtain ⟨hle, hev⟩ := hs.places i p d hsent
    refine ⟨?_, getElem?_mono htaken hev⟩
    show p ≤ sink.posted.length
    rw [hposted]
    exact hle
  · intro i hawaiting
    obtain ⟨d, ev, backoffMs, hsent, hposter⟩ := hs.awaited i hawaiting
    refine ⟨d, ev, backoffMs, ?_, posting_of_sinkStep hposter hpost hstep⟩
    show s.sent i = some (sink.posted.length, d)
    rw [hposted]
    exact hsent

/-- A number that the server has not seen is not in its log. -/
theorem Relaying.ne_of_mem_log (hs : Relaying config db s) {i : Nat}
    (hnone : s.server.handling i = none) {entry : Nat × Call} (hentry : entry ∈ s.server.log) :
    entry.1 ≠ i := by
  obtain ⟨k, hk⟩ := List.mem_iff_getElem?.mp hentry
  obtain ⟨-, h, hhandling, -⟩ := hs.sound.logged k entry hk
  intro hsame
  rw [hsame, hnone] at hhandling
  exact absurd hhandling (by simp)

theorem Relaying.send (hs : Relaying config db s) {i : Nat} {d : Delivery} {backoffMs : Nat}
    (hposter : s.sink.poster = .posting d.ev backoffMs) (hnone : s.server.handling i = none) :
    Relaying config db { s with
      sent := Function.update s.sent i (some (s.sink.posted.length, d))
      awaiting := some i } := by
  have hother : ∀ j, j ≠ i →
      Function.update s.sent i (some (s.sink.posted.length, d)) j = s.sent j := by
    intro j hne
    exact Function.update_of_ne hne _ _
  refine ⟨hs.sound, hs.kept, ?_, ?_, ?_, ?_⟩
  · have hrelayed : Exchange.relayed { s with
        sent := Function.update s.sent i (some (s.sink.posted.length, d))
        awaiting := some i } = s.relayed := by
      apply List.filterMap_congr
      intro entry hentry
      simp only [Exchange.carries, hother entry.1 (hs.ne_of_mem_log hnone hentry)]
    rw [hrelayed]
    exact hs.arrivals
  · intro j p d' hsent
    by_cases hij : j = i
    · subst hij
      obtain ⟨rfl, rfl⟩ : s.sink.posted.length = p ∧ d = d' := by simpa using hsent
      refine ⟨le_rfl, ?_⟩
      show s.taken[s.sink.posted.length]? = some d.ev
      simp [Exchange.taken, hposter, Poster.inHand]
    · exact hs.places j p d' ((hother j hij).symm.trans hsent)
  · intro j p d' h hsent hhandling
    by_cases hij : j = i
    · subst hij
      exact absurd (hnone.symm.trans hhandling) (by simp)
    · exact hs.calls j p d' h ((hother j hij).symm.trans hsent) hhandling
  · intro j hawaiting
    obtain rfl := Option.some.inj hawaiting
    exact ⟨d, d.ev, backoffMs, Function.update_self _ _ _, hposter⟩

/-- A success is heard of after the commit. -/
theorem Relaying.mem_relayed (hs : Relaying config db s) {i left : Nat} {h : Handling}
    {answer : Request.Answer} (hawaiting : s.awaiting = some i)
    (hanswered : s.server.Answered i h left answer) (hsuccess : IsSuccessful answer) :
    s.sink.posted.length ∈ s.relayed.map Prod.fst := by
  obtain ⟨d, -, -, hsent, -⟩ := hs.awaited i hawaiting
  obtain ⟨inp, hcall, -⟩ := hs.calls i _ d h hsent hanswered.1
  have hwrites : h.call.writes = true := by
    rw [hcall]
    rfl
  have hcommitted := (hs.sound.successful hanswered hwrites).1 hsuccess
  obtain ⟨entry, hentry, rfl⟩ := List.mem_map.mp hcommitted
  refine List.mem_map.mpr ⟨(s.sink.posted.length, d.ev), ?_, rfl⟩
  exact List.mem_filterMap.mpr ⟨entry, hentry, by simp [Exchange.carries, hsent]⟩

theorem Relaying.post (hs : Relaying config db s) {accepted : Bool} {sink : SinkHistory}
    (hstep : SinkStep config.sink s.sink (.post accepted) sink)
    (hanswered : accepted = true → ∃ i h left answer, s.awaiting = some i ∧
      s.server.Answered i h left answer ∧ IsSuccessful answer) :
    Relaying config db { s with sink := sink, awaiting := none } := by
  obtain ⟨htaken, hsame, hmore⟩ := taken_of_sinkStep hs.kept hstep
  have hplaces : ∀ i p d, s.sent i = some (p, d) → s.sink.posted.length ≤ sink.posted.length →
      p ≤ sink.posted.length ∧
        (sink.posted ++ sink.poster.inHand ++ sink.abandoned)[p]? = some d.ev := by
    intro i p d hsent hle
    obtain ⟨hp, hev⟩ := hs.places i p d hsent
    exact ⟨by omega, getElem?_mono htaken hev⟩
  refine ⟨hs.sound, sinkKept_step hs.kept hstep, ?_, ?_, hs.calls, by simp⟩
  · show Arrivals sink.posted.length (s.relayed.map Prod.fst)
    cases accepted with
    | false =>
        rw [hsame (by simp)]
        exact hs.arrivals
    | true =>
        obtain ⟨i, h, left, answer, hawaiting, hreply, hsuccess⟩ := hanswered rfl
        rw [hmore rfl]
        exact hs.arrivals.acknowledge (hs.mem_relayed hawaiting hreply hsuccess)
  · intro i p d hsent
    apply hplaces i p d hsent
    cases accepted with
    | false => rw [hsame (by simp)]
    | true =>
        rw [hmore rfl]
        omega

theorem Relaying.server (hs : Relaying config db s) {action : Server.Action}
    {server : Server.State}
    (hown : ∀ i call xApiKey p d, action = .arrive i call xApiKey → s.sent i = some (p, d) →
      ∃ inp, call = .ingest inp ∧ inp.event = d.event)
    (hstep : Server.Step config.server s.server action server) :
    Relaying config db { s with server := server } := by
  have hsound := hs.sound.step hstep
  refine ⟨hsound, hs.kept, ?_, hs.places, ?_, hs.awaited⟩
  · have hlog : server.log = s.server.log ∨ ∃ entry, server.log = s.server.log ++ [entry] := by
      cases effect_of_next hstep with
      | idle hnew hhandling hlog => exact .inl hlog
      | arrived i call xApiKey h haction hnone hhandling hcall hentered hlog => exact .inl hlog
      | advanced i h h' hnew hold hhandling hcall hentered hlog =>
          exact hlog.imp id fun hmore => ⟨_, hmore⟩
    show Arrivals s.sink.posted.length
      ((server.log.filterMap fun entry => s.carries entry.1).map Prod.fst)
    -- a commit of a request that the sink has sent is an arrival of its event
    rcases hlog with hsame | ⟨entry, hmore⟩
    · rw [hsame]
      exact hs.arrivals
    · rw [hmore, List.filterMap_append, List.map_append]
      cases hsent : s.sent entry.1 with
      | none => simpa [Exchange.carries, hsent, Exchange.relayed] using hs.arrivals
      | some x =>
          have harrive := hs.arrivals.arrive (hs.places entry.1 x.1 x.2 hsent).1
          simpa [Exchange.carries, hsent, Exchange.relayed] using harrive
  · -- what a request asks for is settled when it comes
    intro j p d h' hsent hj
    cases effect_of_next hstep with
    | idle hnew hhandling hlog =>
        rw [show Server.State.handling _ = s.server.handling from hhandling] at hj
        exact hs.calls j p d h' hsent hj
    | arrived i call xApiKey h haction hnone hhandling hcall hentered hlog =>
        rw [show Server.State.handling _ = _ from hhandling, handling_put] at hj
        rcases hj with ⟨rfl, rfl⟩ | ⟨-, hold⟩
        · rw [hcall]
          exact hown j call xApiKey p d haction hsent
        · exact hs.calls j p d h' hsent hold
    | advanced i h h'' hnew hold hhandling hcall hentered hlog =>
        rw [show Server.State.handling _ = _ from hhandling, handling_put] at hj
        rcases hj with ⟨rfl, rfl⟩ | ⟨-, hother⟩
        · rw [hcall]
          exact hs.calls j p d h hsent hold
        · exact hs.calls j p d h' hsent hother

/-- **Every action keeps the account.** -/
theorem Relaying.step (hs : Relaying config db s) {a : ExchangeAction}
    (hstep : ExchangeStep config s a t) : Relaying config db t := by
  cases moves_of_step hstep with
  | sink action sink ha hpost hsink ht =>
      rw [ht]
      exact hs.sink hpost hsink
  | send i d backoffMs hposter hsent hnone ht =>
      rw [ht]
      exact hs.send hposter hnone
  | post accepted sink hsink hanswered ht =>
      rw [ht]
      exact hs.post hsink hanswered
  | server action server hown hserver ht =>
      rw [ht]
      exact hs.server hown hserver

theorem relaying_of_run {actions : List ExchangeAction}
    (hrun : Run (ExchangeStep config) (.start db) actions s) : Relaying config db s :=
  hrun.preserves (fun _ _ _ hs hstep => hs.step hstep) (relaying_start config db)

end

/-! ## What comes later -/

/-- The log has grown, and whoever has come since came after what was in it. -/
structure Grown (s t : Exchange) : Prop where
  log : s.server.log <+: t.server.log
  entered : ∀ j h, t.server.handling j = some h → s.server.handling j = none →
    s.server.log.length ≤ h.entered
  seen : ∀ j, s.server.handling j ≠ none → t.server.handling j ≠ none

theorem Grown.refl (s : Exchange) : Grown s s where
  log := List.prefix_rfl
  entered := by
    intro j h hhandling hnone
    exact absurd (hnone.symm.trans hhandling) (by simp)
  seen := fun _ => id

section

variable {config : ExchangeConfig} {db : Db} {s t u : Exchange}

theorem Grown.server (hgrown : Grown s t) (ht : Relaying config db t) {action : Server.Action}
    {server : Server.State} (hstep : Server.Step config.server t.server action server) :
    Grown s { t with server := server } := by
  have hlength := hgrown.log.length_le
  cases effect_of_next hstep with
  | idle hnew hhandling hlog =>
      refine ⟨?_, ?_, ?_⟩
      · show s.server.log <+: server.log
        rw [hlog]
        exact hgrown.log
      · show ∀ j h, server.handling j = some h → _
        rw [hhandling]
        exact hgrown.entered
      · show ∀ j, _ → server.handling j ≠ none
        rw [hhandling]
        exact hgrown.seen
  | arrived i call xApiKey h haction hnone hhandling hcall hentered hlog =>
      refine ⟨?_, ?_, ?_⟩
      · show s.server.log <+: server.log
        rw [hlog]
        exact hgrown.log
      · intro j h' hj hfirst
        rw [show Server.State.handling _ = _ from hhandling, handling_put] at hj
        rcases hj with ⟨rfl, rfl⟩ | ⟨-, hold⟩
        · -- it came after all that the log had
          have hversion := ht.sound.version
          omega
        · exact hgrown.entered j h' hold hfirst
      · intro j hthere
        show server.handling j ≠ none
        rw [hhandling]
        by_cases hij : j = i
        · simp [Server.State.put, hij]
        · simpa [Server.State.put, hij] using hgrown.seen j hthere
  | advanced i h h' hnew hold hhandling hcall hentered hlog =>
      refine ⟨?_, ?_, ?_⟩
      · show s.server.log <+: server.log
        rcases hlog with hsame | hmore
        · rw [hsame]
          exact hgrown.log
        · rw [hmore]
          exact hgrown.log.trans (List.prefix_append _ _)
      · intro j h'' hj hfirst
        rw [show Server.State.handling _ = _ from hhandling, handling_put] at hj
        rcases hj with ⟨rfl, rfl⟩ | ⟨-, hother⟩
        · rw [hentered]
          exact hgrown.entered j h hold hfirst
        · exact hgrown.entered j h'' hother hfirst
      · intro j hthere
        show server.handling j ≠ none
        rw [hhandling]
        by_cases hij : j = i
        · simp [Server.State.put, hij]
        · simpa [Server.State.put, hij] using hgrown.seen j hthere

theorem Grown.step (hgrown : Grown s t) (ht : Relaying config db t) {a : ExchangeAction}
    (hstep : ExchangeStep config t a u) : Grown s u := by
  cases moves_of_step hstep with
  | sink action sink ha hpost hsink hu =>
      rw [hu]
      exact ⟨hgrown.log, hgrown.entered, hgrown.seen⟩
  | send i d backoffMs hposter hsent hnone hu =>
      rw [hu]
      exact ⟨hgrown.log, hgrown.entered, hgrown.seen⟩
  | post accepted sink hsink hanswered hu =>
      rw [hu]
      exact ⟨hgrown.log, hgrown.entered, hgrown.seen⟩
  | server action server hown hserver hu =>
      rw [hu]
      exact hgrown.server ht hserver

theorem grown_of_run (hs : Relaying config db s) {actions : List ExchangeAction}
    (hrun : Run (ExchangeStep config) s actions t) : Relaying config db t ∧ Grown s t := by
  refine hrun.preserves (I := fun u => Relaying config db u ∧ Grown s u) ?_ ⟨hs, .refl s⟩
  intro u a v hu hstep
  exact ⟨hu.1.step hstep, hu.2.step hu.1 hstep⟩

/-! ## What is posted -/

/-- What the API has of the sink's events. -/
structure Relayed (s : Exchange) : Prop where
  /-- each commit is of the event that was taken from the queue in its place -/
  genuine : ∀ (k i : Nat) (call : Call) (p : Nat) (ev : DiscoveryEvent),
    s.server.log[k]? = some (i, call) → s.carries i = some (p, ev) →
      s.taken[p]? = some ev ∧
        ∃ mac inp, call = Call.ingest inp ∧ Delivered ev mac inp.event
  /-- the first commits are those of the posted events, in order, and perhaps of the event
  that the poster has in hand or has abandoned -/
  inOrder : ∃ last, last <+: s.sink.poster.inHand ++ s.sink.abandoned ∧
    (scan Prod.fst ∅ s.relayed).1.map Prod.snd = s.sink.posted ++ last
  /-- what came to the sink and is not posted is in hand, queued or lost -/
  complete : s.sink.enqueued.Perm (s.sink.posted ++ s.sink.poster.inHand ++ s.sink.queue ++
    s.sink.dropped ++ s.sink.abandoned)

/-- The commit of a request of the sink. -/
theorem Relaying.genuine (hs : Relaying config db s) {k i p : Nat} {call : Call}
    {ev : DiscoveryEvent} (hentry : s.server.log[k]? = some (i, call))
    (hcarries : s.carries i = some (p, ev)) :
    s.taken[p]? = some ev ∧ ∃ mac inp, call = Call.ingest inp ∧ Delivered ev mac inp.event := by
  obtain ⟨x, hsent, hx⟩ := Option.map_eq_some_iff.mp hcarries
  obtain ⟨rfl, rfl⟩ := Prod.mk.inj hx
  refine ⟨(hs.places i x.1 x.2 hsent).2, ?_⟩
  obtain ⟨h, hhandling, rfl, -⟩ := hs.sound.entry hentry
  obtain ⟨inp, hcall, hevent⟩ := hs.calls i x.1 x.2 h hsent hhandling
  exact ⟨x.2.mac, inp, hcall, hevent ▸ x.2.delivered⟩

theorem Relaying.messages (hs : Relaying config db s) :
    ∀ x ∈ s.relayed, s.taken[x.1]? = some x.2 := by
  intro x hx
  obtain ⟨entry, hentry, hcarries⟩ := List.mem_filterMap.mp hx
  obtain ⟨k, hk⟩ := List.mem_iff_getElem?.mp hentry
  exact (hs.genuine hk hcarries).1

theorem Relaying.inOrder (hs : Relaying config db s) :
    ∃ last, last <+: s.sink.poster.inHand ++ s.sink.abandoned ∧
      (scan Prod.fst ∅ s.relayed).1.map Prod.snd = s.sink.posted ++ last := by
  obtain ⟨m, hge, -, hfirsts⟩ := hs.arrivals.firsts_eq_take hs.messages
  refine ⟨(s.sink.poster.inHand ++ s.sink.abandoned).take (m - s.sink.posted.length),
    List.take_prefix _ _, ?_⟩
  rw [hfirsts, Exchange.taken, List.append_assoc, List.take_append,
    List.take_of_length_le hge]

/-- A posted event was committed by a request that carried it. -/
theorem Relaying.exists_commit (hs : Relaying config db s) {ev : DiscoveryEvent}
    (hposted : ev ∈ s.sink.posted) :
    ∃ (k i : Nat) (mac : Option Bytes) (inp : IngestInput),
      s.server.log[k]? = some (i, Call.ingest inp) ∧ Delivered ev mac inp.event := by
  obtain ⟨last, -, hfirsts⟩ := hs.inOrder
  have hmem : ev ∈ (scan Prod.fst ∅ s.relayed).1.map Prod.snd := by
    rw [hfirsts]
    exact List.mem_append_left _ hposted
  obtain ⟨x, hx, rfl⟩ := List.mem_map.mp hmem
  have hrelayed := (scan_sublist Prod.fst ∅ s.relayed).subset hx
  obtain ⟨entry, hentry, hcarries⟩ := List.mem_filterMap.mp hrelayed
  obtain ⟨k, hk⟩ := List.mem_iff_getElem?.mp hentry
  obtain ⟨-, mac, inp, hcall, hdelivered⟩ := hs.genuine hk hcarries
  exact ⟨k, entry.1, mac, inp, by rw [hk, ← hcall], hdelivered⟩

/-- A list that is asked for after an event was posted shows its services. -/
theorem Relaying.listed (hs : Relaying config db s) (ht : Relaying config db t)
    (hgrown : Grown s t) {ev : DiscoveryEvent} (hposted : ev ∈ s.sink.posted) {j left : Nat}
    {h : Handling} {devices : List DeviceOut} (hnew : s.server.handling j = none)
    (hanswered : t.server.Answered j h left (.devices devices)) :
    ∃ mac event, Delivered ev mac event ∧ ∃ device ∈ devices,
      ∀ key ∈ MdnsNames.serviceTypesFromRecords event.records, key ∈ device.services := by
  obtain ⟨k, i, mac, inp, hentry, hdelivered⟩ := hs.exists_commit hposted
  obtain ⟨hlt, -⟩ := List.getElem?_eq_some_iff.mp hentry
  obtain ⟨h', hhandling, hcall, hcommit⟩ := ht.sound.entry (getElem?_mono hgrown.log hentry)
  obtain ⟨n, hentered, -, hlisted⟩ := ht.sound.listed hanswered
  have hafterCommit := hgrown.entered j h hanswered.1 hnew
  have htold := ht.sound.told hhandling hcommit (show k < n by omega) hlisted
  rw [hcall] at htold
  exact ⟨mac, inp.event, hdelivered, htold⟩

end

/-! ## A request that is given up -/

/-- A pointer from a service type to an instance of it. -/
def airplayEvent : DiscoveryEvent where
  timestampMs := 1000
  srcIp := ascii "192.168.1.10"
  records :=
    [{ ownerName := ascii "_airplay._tcp.local", type := typePtr,
       rdataText := ascii "TV._airplay._tcp.local", ttl := 120, observedAtMs := 1000 }]

/-- The request for the event. -/
def airplayRequest : DiscoveryEventIn where
  timestampMs := 1000
  srcIp := str "192.168.1.10"
  records :=
    [{ ownerName := str "_airplay._tcp.local", type := 12, typeName := some (str "PTR")
       rdataText := str "TV._airplay._tcp.local", ttl := 120, lastSeenMs := 1000
       service := some (str "TV._airplay._tcp.local") }]

/-- The event, delivered. -/
def airplayDelivery : Delivery where
  ev := airplayEvent
  mac := none
  event := airplayRequest
  delivered :=
    { cleanSrcIp := cleanText_of_all (by decide)
      cleanMac := cleanText_nil
      timestampMs := by decide
      srcIp := by decide
      mac := by decide
      records := .cons
        { clean := ⟨cleanText_of_all (by decide), cleanText_of_all (by decide)⟩
          ownerName := by decide
          type := by decide
          typeName := by decide
          rdataText := by decide
          ttl := by decide
          lastSeenMs := by decide
          service := by decide
          host := by decide } .nil }

/-- The request as it is handled. -/
def airplayInput (n : Nat) : IngestInput :=
  { sampleInput "192.168.1.10" none [] 1000 n with event := airplayRequest }

/-- Neither side has a token. -/
def openExchange : ExchangeConfig where
  sink := {}
  apiToken := []
  server := openConfig

/-- The transaction of a request, and its answer. -/
def handled (i : Nat) : List ExchangeAction :=
  [.server (.begin i), .server (.lock i), .server (.finish i fun _ => none), .server (.reply i)]

/-- A request that comes late, after the poster has given it up, and the one after it. -/
def retriedActions : List ExchangeAction :=
  [.sink (.onEvent airplayEvent), .sink .take, .send 0 airplayDelivery, .fail,
    .arrive 0 (airplayInput 0), .sink .wake, .send 1 airplayDelivery,
    .arrive 1 (airplayInput 1)] ++ handled 0 ++ handled 1 ++ [.respond]

/-- A list after that. -/
def listActions : List ExchangeAction :=
  [.server (.arrive 2 .listDevices none), .server (.look 2), .server (.look 2),
    .server (.reply 2)]

/-- What the requests lead to. -/
def retriedExchange : Exchange :=
  (exec (Exchange.next openExchange) (.start Db.empty) retriedActions).getD (.start Db.empty)

/-- What the list leads to. -/
def listedExchange : Exchange :=
  (exec (Exchange.next openExchange) retriedExchange listActions).getD (.start Db.empty)

theorem retried_run :
    Run (ExchangeStep openExchange) (.start Db.empty) retriedActions retriedExchange :=
  .of_exec_isSome (by decide +kernel)

theorem listed_run :
    Run (ExchangeStep openExchange) retriedExchange listActions listedExchange :=
  .of_exec_isSome (by decide +kernel)

theorem retried_posted : airplayEvent ∈ retriedExchange.sink.posted := by
  decide +kernel

theorem retried_committed : retriedExchange.server.log.length = 2 := by
  decide +kernel

/-! ## The results -/

/-- **Posts are committed at least once and in order.**  Whatever is lost on the way,
whoever else sends requests and however the server interleaves them, what the poster has
posted is committed, each event for the first time in the order in which the poster took
them from the queue, and nothing else is but the event that it took last. -/
theorem posts_commit_in_order (config : ExchangeConfig) (db : Db) (actions : List ExchangeAction)
    (s : Exchange) (hrun : Run (ExchangeStep config) (.start db) actions s) : Relayed s := by
  have hs := relaying_of_run hrun
  refine ⟨?_, hs.inOrder, hs.kept.accounted.complete⟩
  intro k i call p ev hentry hcarries
  exact hs.genuine hentry hcarries

/-- An event that was sent twice is committed twice, and is posted once. -/
theorem retried_relayed :
    retriedExchange.server.log.length = 2 ∧ Relayed retriedExchange :=
  ⟨retried_committed,
    posts_commit_in_order openExchange Db.empty retriedActions retriedExchange retried_run⟩

/-- **Posted events are listed.**  A list that is asked for after an event was posted shows
a device with all the services that the API reads from the event. -/
theorem posted_events_are_listed (config : ExchangeConfig) (db : Db)
    (before after : List ExchangeAction) (s t : Exchange)
    (hbefore : Run (ExchangeStep config) (.start db) before s)
    (hafter : Run (ExchangeStep config) s after t) (ev : DiscoveryEvent)
    (hposted : ev ∈ s.sink.posted) (j left : Nat) (h : Handling) (devices : List DeviceOut)
    (hnew : s.server.handling j = none)
    (hanswered : t.server.Answered j h left (.devices devices)) :
    ∃ mac event, Delivered ev mac event ∧ ∃ device ∈ devices,
      ∀ key ∈ MdnsNames.serviceTypesFromRecords event.records, key ∈ device.services := by
  have hs := relaying_of_run hbefore
  obtain ⟨ht, hgrown⟩ := grown_of_run hs hafter
  exact hs.listed ht hgrown hposted hnew hanswered

/-- The list that is answered after the second attempt shows the service of the pointer. -/
theorem retried_listed :
    ∃ (h : Handling) (devices : List DeviceOut),
      listedExchange.server.Answered 2 h 2 (.devices devices) ∧
      ∃ mac event, Delivered airplayEvent mac event ∧ ∃ device ∈ devices,
        ∀ key ∈ MdnsNames.serviceTypesFromRecords event.records, key ∈ device.services := by
  have hlist : (listedExchange.server.handling 2).any (Handling.isAnswered 2 2 isList) = true := by
    decide +kernel
  have hnew : retriedExchange.server.handling 2 = none :=
    Option.isNone_iff_eq_none.mp (by decide +kernel)
  obtain ⟨h, devices, hanswered, -⟩ := listed_of_isAnswered hlist
  obtain ⟨mac, event, hdelivered, hshown⟩ := posted_events_are_listed openExchange Db.empty
    retriedActions listActions retriedExchange listedExchange retried_run listed_run airplayEvent
    retried_posted 2 2 h devices hnew hanswered
  exact ⟨h, devices, hanswered, mac, event, hdelivered, hshown⟩

end EndToEnd
end LanDiscovery

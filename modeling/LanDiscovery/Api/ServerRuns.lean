import LanDiscovery.Api.Server
import LanDiscovery.Library.Transition

/-!
# Runs of the server

Whatever requests come and however their statements are interleaved, the database is what
the committed requests make of it one after the other, in the order of their commits
(`requests_serialize`).
-/

namespace LanDiscovery
namespace Api
namespace Server

open Library Library.Outcome Library.Transaction Library.Transition Library.Snapshot Request

/-! ## The commits, one after the other -/

/-- What the commits of a log make of a database. -/
def replay (rt : PyRuntime) (db : Db) (log : List (Nat × Call)) : Db :=
  (log.filterMap fun entry => entry.2.operation).foldl (runOperation rt) db

/-- The database after the first commits of a log. -/
def stateAt (rt : PyRuntime) (db : Db) (log : List (Nat × Call)) (n : Nat) : Db :=
  replay rt db (log.take n)

section

variable {rt : PyRuntime} {db : Db} {log more : List (Nat × Call)} {n m : Nat}

@[simp] theorem replay_append (rt : PyRuntime) (db : Db) (log more : List (Nat × Call)) :
    replay rt db (log ++ more) = replay rt (replay rt db log) more := by
  rw [replay, List.filterMap_append, List.foldl_append]
  rfl

@[simp] theorem stateAt_length (rt : PyRuntime) (db : Db) (log : List (Nat × Call)) :
    stateAt rt db log log.length = replay rt db log := by
  rw [stateAt, List.take_length]

theorem stateAt_append (h : n ≤ log.length) :
    stateAt rt db (log ++ more) n = stateAt rt db log n := by
  rw [stateAt, List.take_append_of_le_length h, stateAt]

theorem later_replay (rt : PyRuntime) (db : Db) (log : List (Nat × Call)) :
    Later rt db (replay rt db log) :=
  ⟨_, rfl⟩

/-- Further commits lead to later databases. -/
theorem later_stateAt (rt : PyRuntime) (db : Db) (log : List (Nat × Call)) (h : n ≤ m) :
    Later rt (stateAt rt db log n) (stateAt rt db log m) := by
  have htake := List.take_append_drop n (log.take m)
  rw [List.take_take, min_eq_left h] at htake
  rw [stateAt, stateAt, ← htake, replay_append]
  exact later_replay rt _ _

end

/-! ## What a transaction does -/

section

variable {cfg : Config} {plan : Plan Db PyException} {db db' : Db} {call : Call}

/-- A transaction that commits does what the operation of the request does. -/
theorem operation_of_attempt (h : attempt cfg plan db call = (none, db')) :
    ∃ op, call.operation = some op ∧ db' = runOperation cfg.rt db op := by
  cases call with
  | ingest inp =>
      refine ⟨_, rfl, ?_⟩
      rcases request_cases cfg.rt plan db inp with ⟨-, hfailure⟩ | ⟨hresponse, deviceId, hrun⟩
      · have hcode : (request cfg.rt plan db inp).1.statusCode = 202 := by
          by_contra hne
          simp [attempt, hne] at h
        exact absurd ⟨by omega, by omega⟩ hfailure
      · have hdb : (request cfg.rt plan db inp).2 = db' := (Prod.mk.inj h).2
        rw [hdb] at hrun
        exact (runOperation_ingest_of_ok hrun).symm
  | approve deviceId displayName nowMs =>
      cases htransaction : approveTransaction deviceId displayName nowMs plan (.opened db) with
      | mk outcome t =>
          cases outcome with
          | error exc => simp [attempt, htransaction] at h
          | ok found =>
              obtain ⟨-, ⟨rfl, -, -⟩ | ⟨rfl, row, hrow, htables⟩⟩ :=
                approveTransaction_eq_ok htransaction
              · simp [attempt, htransaction] at h
              · obtain ⟨hmem, hid⟩ := deviceRowOf_eq_some hrow
                have hdb : t.persisted = db' := by simpa [attempt, htransaction] using h
                refine ⟨.approve row.deviceId displayName nowMs, by simp [Call.operation, hid], ?_⟩
                rw [← hdb]
                apply Db.ext_tables
                rw [runOperation_approve_of_mem cfg.rt hmem]
                exact htables
  | listDevices => simp [attempt] at h
  | getDevice deviceId => simp [attempt] at h
  | listAlerts limit alertType => simp [attempt] at h

/-- A transaction that does not commit is not answered with a success. -/
theorem not_isSuccess_of_attempt {response : Response}
    (h : attempt cfg plan db call = (some response, db')) : ¬ IsSuccess response := by
  cases call with
  | ingest inp =>
      rcases request_cases cfg.rt plan db inp with ⟨-, hfailure⟩ | ⟨hresponse, -⟩
      · by_cases hcode : (request cfg.rt plan db inp).1.statusCode = 202
        · simp [attempt, hcode] at h
        · have hanswer : (if (request cfg.rt plan db inp).1.statusCode = 202 then none
              else some (request cfg.rt plan db inp).1) = some response := (Prod.mk.inj h).1
          rw [if_neg hcode] at hanswer
          exact Option.some.inj hanswer ▸ hfailure
      · simp [attempt, hresponse] at h
  | approve deviceId displayName nowMs =>
      cases htransaction : approveTransaction deviceId displayName nowMs plan (.opened db) with
      | mk outcome t =>
          cases outcome with
          | error exc =>
              have hsame : exceptionAnswer plan t exc = response := by
                simpa [attempt, htransaction] using (Prod.mk.inj h).1
              have hcode := exceptionAnswer_statusCode plan t exc
              rw [hsame] at hcode
              simp [IsSuccess, hcode]
          | ok found =>
              cases found with
              | true => simp [attempt, htransaction] at h
              | false =>
                  have hsame : notFound = response := by
                    simpa [attempt, htransaction] using (Prod.mk.inj h).1
                  rw [← hsame]
                  simp [IsSuccess, notFound]
  | listDevices =>
      obtain rfl := Option.some.inj (Prod.mk.inj h).1
      simp [IsSuccess]
  | getDevice deviceId =>
      obtain rfl := Option.some.inj (Prod.mk.inj h).1
      simp [IsSuccess]
  | listAlerts limit alertType =>
      obtain rfl := Option.some.inj (Prod.mk.inj h).1
      simp [IsSuccess]

end

/-! ## The invariant -/

/-- The request has statements outside of a transaction. -/
def Call.Looks (call : Call) : Prop :=
  ∀ inp, call ≠ .ingest inp

/-- How far a request is, and why: it passed the checks before it came to a statement; it
has committed if it writes and is past its transaction; and its reading program goes on
from what it has seen. -/
inductive Staged (cfg : Config) (seen : List Db) (h : Handling) : Prop where
  | transaction (hstage : h.stage = .transaction) (hcommit : h.commit = none)
      (hlooks : h.looks = []) (hwrites : h.call.writes = true)
      (hchecked : checkRequest cfg h.call h.xApiKey = .ok ())
  | reading (rest : Reading Db Answer) (hstage : h.stage = .reading rest)
      (hcommit : h.call.writes = true → h.commit ≠ none)
      (hchecked : checkRequest cfg h.call h.xApiKey = .ok ())
      (hrest : ∀ later answer, rest.run later = some answer →
        (program cfg h.call).run (seen ++ later) = some answer)
  | completed (left : Nat) (answer : Answer) (hstage : h.stage = .answered left answer)
      (hcommit : h.call.writes = true → h.commit ≠ none)
      (hchecked : checkRequest cfg h.call h.xApiKey = .ok ())
      (hrun : (program cfg h.call).run seen = some answer)
  | rejected (left : Nat) (response : Response)
      (hstage : h.stage = .answered left (.status response)) (hcommit : h.commit = none)
      (hchecked : checkRequest cfg h.call h.xApiKey = .error response)
  | refused (left : Nat) (response : Response)
      (hstage : h.stage = .answered left (.status response)) (hcommit : h.commit = none)
      (hchecked : checkRequest cfg h.call h.xApiKey = .ok ())
      (hattempt : ∃ plan db db', seen = [db] ∧ attempt cfg plan db h.call = (some response, db'))
  | failed (left : Nat) (response : Response)
      (hstage : h.stage = .answered left (.status response))
      (hcommit : h.call.writes = true → h.commit ≠ none)
      (hchecked : checkRequest cfg h.call h.xApiKey = .ok ()) (hlook : h.call.Looks)
      (hcode : response.statusCode = 500)

theorem Staged.of_transaction {cfg : Config} {seen : List Db} {h : Handling}
    (hstaged : Staged cfg seen h) (hstage : h.stage = .transaction) :
    h.commit = none ∧ h.looks = [] ∧ h.call.writes = true ∧
      checkRequest cfg h.call h.xApiKey = .ok () := by
  cases hstaged with
  | transaction hstage' hcommit hlooks hwrites hchecked =>
      exact ⟨hcommit, hlooks, hwrites, hchecked⟩
  | reading rest hstage' => exact absurd (hstage.symm.trans hstage') (by simp)
  | completed left answer hstage' => exact absurd (hstage.symm.trans hstage') (by simp)
  | rejected left response hstage' => exact absurd (hstage.symm.trans hstage') (by simp)
  | refused left response hstage' => exact absurd (hstage.symm.trans hstage') (by simp)
  | failed left response hstage' => exact absurd (hstage.symm.trans hstage') (by simp)

theorem Staged.of_reading {cfg : Config} {seen : List Db} {h : Handling}
    {rest : Reading Db Answer} (hstaged : Staged cfg seen h) (hstage : h.stage = .reading rest) :
    (h.call.writes = true → h.commit ≠ none) ∧ checkRequest cfg h.call h.xApiKey = .ok () ∧
      ∀ later answer, rest.run later = some answer →
        (program cfg h.call).run (seen ++ later) = some answer := by
  cases hstaged with
  | transaction hstage' => exact absurd (hstage.symm.trans hstage') (by simp)
  | reading rest' hstage' hcommit hchecked hrest =>
      obtain rfl := Stage.reading.inj (hstage.symm.trans hstage')
      exact ⟨hcommit, hchecked, hrest⟩
  | completed left answer hstage' => exact absurd (hstage.symm.trans hstage') (by simp)
  | rejected left response hstage' => exact absurd (hstage.symm.trans hstage') (by simp)
  | refused left response hstage' => exact absurd (hstage.symm.trans hstage') (by simp)
  | failed left response hstage' => exact absurd (hstage.symm.trans hstage') (by simp)

/-- The account of one request against the log. -/
structure Tracked (cfg : Config) (db : Db) (log : List (Nat × Call)) (i : Nat) (h : Handling) :
    Prop where
  entered : h.entered ≤ log.length
  committed : ∀ k, h.commit = some k → log[k]? = some (i, h.call) ∧ h.entered ≤ k ∧
    ∃ plan, attempt cfg plan (stateAt cfg.rt db log k) h.call =
      (none, stateAt cfg.rt db log (k + 1))
  ordered : h.looks.Pairwise (· ≤ ·)
  looks : ∀ n ∈ h.looks, h.entered ≤ n ∧ n ≤ log.length ∧ ∀ k, h.commit = some k → k < n
  answered : ∀ left answer, h.stage = .answered left answer →
    h.entered ≤ left ∧ left ≤ log.length ∧ (∀ n ∈ h.looks, n ≤ left) ∧
      ∀ k, h.commit = some k → k < left
  staged : Staged cfg (h.looks.map (stateAt cfg.rt db log)) h

/-- What holds of the server in every state. -/
structure Sound (cfg : Config) (db : Db) (server : State) : Prop where
  coherent : server.store.Coherent
  version : server.store.version = server.log.length
  replayed : ∀ n ≤ server.log.length,
    server.store.states[n]? = some (stateAt cfg.rt db server.log n)
  tracked : ∀ i h, server.handling i = some h → Tracked cfg db server.log i h
  opened : ∀ i n s, server.store.snapshot i = some (n, s) →
    ∃ h, server.handling i = some h ∧ h.stage = .transaction ∧ h.entered ≤ n
  logged : ∀ k entry, server.log[k]? = some entry →
    (∃ op, entry.2.operation = some op) ∧
      ∃ h, server.handling entry.1 = some h ∧ h.commit = some k

section

variable {cfg : Config} {db : Db} {server t : State}

theorem sound_start (cfg : Config) (db : Db) : Sound cfg db (.start db) where
  coherent := Store.coherent_opened db
  version := rfl
  replayed := by
    intro n hn
    obtain rfl : n = 0 := Nat.le_zero.mp hn
    rfl
  tracked := by
    intro i h hi
    exact absurd hi (by simp [State.start])
  opened := by
    intro i n s hi
    exact absurd hi (by simp [State.start, Store.opened])
  logged := by
    intro k entry hentry
    exact absurd hentry (by simp [State.start])

theorem Sound.persisted (h : Sound cfg db server) :
    server.store.persisted = replay cfg.rt db server.log := by
  have hlast := h.replayed server.log.length le_rfl
  rw [← h.version, Store.getElem?_version, h.version, stateAt_length] at hlast
  exact Option.some.inj hlast

/-- What is tracked stays so when a request commits. -/
theorem Tracked.extend {log : List (Nat × Call)} {i : Nat} {h : Handling} {entry : Nat × Call}
    (htracked : Tracked cfg db log i h) : Tracked cfg db (log ++ [entry]) i h where
  entered := by
    have hentered := htracked.entered
    rw [List.length_append]
    omega
  committed := by
    intro k hk
    obtain ⟨hlog, hentered, hattempt⟩ := htracked.committed k hk
    obtain ⟨hlt, -⟩ := List.getElem?_eq_some_iff.mp hlog
    rw [List.getElem?_append_left hlt, stateAt_append (by omega), stateAt_append (by omega)]
    exact ⟨hlog, hentered, hattempt⟩
  ordered := htracked.ordered
  looks := by
    intro n hn
    obtain ⟨hentered, hle, hcommit⟩ := htracked.looks n hn
    rw [List.length_append]
    exact ⟨hentered, by omega, hcommit⟩
  answered := by
    intro left answer hstage
    obtain ⟨hentered, hle, hlooks, hcommit⟩ := htracked.answered left answer hstage
    rw [List.length_append]
    exact ⟨hentered, by omega, hlooks, hcommit⟩
  staged := by
    have hseen : h.looks.map (stateAt cfg.rt db (log ++ [entry])) =
        h.looks.map (stateAt cfg.rt db log) := by
      apply List.map_congr_left
      intro n hn
      exact stateAt_append (htracked.looks n hn).2.1
    rw [hseen]
    exact htracked.staged

/-! ## Steps -/

variable {i : Nat} {h h' : Handling}

@[simp] theorem handling_put {j : Nat} :
    (server.put i h).handling j = some h' ↔
      (j = i ∧ h = h') ∨ (j ≠ i ∧ server.handling j = some h') := by
  by_cases hij : j = i
  · subst hij
    simp [State.put]
  · simp [State.put, hij]

/-- Only a request in its transaction has a snapshot. -/
theorem Sound.snapshot_eq_none (hsound : Sound cfg db server)
    (hstage : ∀ h, server.handling i = some h → h.stage ≠ .transaction) :
    server.store.snapshot i = none := by
  cases hi : server.store.snapshot i with
  | none => rfl
  | some taken =>
      obtain ⟨h, hhandling, htransaction, -⟩ := hsound.opened i taken.1 taken.2 hi
      exact absurd htransaction (hstage h hhandling)

/-- A request goes on and leaves the store as it is. -/
theorem Sound.put (hsound : Sound cfg db server)
    (hstage : ∀ h, server.handling i = some h → h.stage ≠ .transaction)
    (hcommit : ∀ h, server.handling i = some h → h'.commit = h.commit)
    (htracked : Tracked cfg db server.log i h') : Sound cfg db (server.put i h') where
  coherent := hsound.coherent
  version := hsound.version
  replayed := hsound.replayed
  tracked := by
    intro j h hj
    rcases handling_put.mp hj with ⟨rfl, rfl⟩ | ⟨-, hold⟩
    · exact htracked
    · exact hsound.tracked j h hold
  opened := by
    intro j n s hj
    have hne : j ≠ i := by
      intro hij
      subst hij
      exact absurd hj (by simp [State.put, hsound.snapshot_eq_none hstage])
    obtain ⟨h, hhandling, hrest⟩ := hsound.opened j n s hj
    exact ⟨h, handling_put.mpr (.inr ⟨hne, hhandling⟩), hrest⟩
  logged := by
    intro k entry hentry
    obtain ⟨hoperation, h, hhandling, hcommitted⟩ := hsound.logged k entry hentry
    refine ⟨hoperation, ?_⟩
    by_cases hij : entry.1 = i
    · exact ⟨h', handling_put.mpr (.inl ⟨hij, rfl⟩), (hcommit h (hij ▸ hhandling)).trans hcommitted⟩
    · exact ⟨h, handling_put.mpr (.inr ⟨hij, hhandling⟩), hcommitted⟩

theorem staged_firstStage (cfg : Config) (version : Nat) (call : Call) (xApiKey : Option Str) :
    Staged cfg []
      { call, xApiKey, entered := version, commit := none, looks := []
        stage := State.firstStage cfg version call xApiKey } := by
  cases hchecked : checkRequest cfg call xApiKey with
  | error response =>
      exact .rejected version response (by simp [State.firstStage, hchecked]) rfl hchecked
  | ok _ =>
      cases hwrites : call.writes with
      | true =>
          have hstage : State.firstStage cfg version call xApiKey = .transaction := by
            simp [State.firstStage, hchecked, hwrites]
          exact .transaction hstage rfl rfl hwrites hchecked
      | false =>
          have hstage : State.firstStage cfg version call xApiKey =
              .reading (program cfg call) := by
            simp [State.firstStage, hchecked, hwrites]
          refine .reading (program cfg call) hstage ?_ hchecked fun later answer hrun => hrun
          simp [hwrites]

theorem firstStage_left {version left : Nat} {call : Call} {xApiKey : Option Str}
    {answer : Answer} (hstage : State.firstStage cfg version call xApiKey = .answered left answer) :
    left = version := by
  unfold State.firstStage at hstage
  split at hstage
  · exact (Stage.answered.inj hstage).1.symm
  · split at hstage <;> exact absurd hstage (by simp)

theorem Sound.arrive (hsound : Sound cfg db server) {call : Call} {xApiKey : Option Str}
    (hnone : server.handling i = none) :
    Sound cfg db (server.put i
      { call, xApiKey, entered := server.store.version, commit := none, looks := []
        stage := State.firstStage cfg server.store.version call xApiKey }) := by
  refine hsound.put (by simp [hnone]) (by simp [hnone]) ?_
  refine ⟨hsound.version.le, by simp, .nil, by simp, ?_, ?_⟩
  · intro left answer hstage
    obtain rfl := firstStage_left hstage
    exact ⟨le_rfl, hsound.version.le, by simp, by simp⟩
  · exact staged_firstStage cfg _ call xApiKey

theorem Sound.begin (hsound : Sound cfg db server) {store : Store Nat Db}
    (hhandling : server.handling i = some h) (hstage : h.stage = .transaction)
    (hnext : server.store.next (.begin i) = some store) :
    Sound cfg db { server with store := store } := by
  have hcoherent := hsound.coherent.next hnext
  obtain ⟨-, rfl⟩ := Store.begin_eq_some hnext
  refine ⟨hcoherent, hsound.version, hsound.replayed, hsound.tracked, ?_, hsound.logged⟩
  intro j n s hj
  by_cases hij : j = i
  · subst hij
    have htaken : server.store.version = n ∧ server.store.persisted = s := by simpa using hj
    refine ⟨h, hhandling, hstage, ?_⟩
    have hentered := (hsound.tracked j h hhandling).entered
    have hversion := hsound.version
    omega
  · exact hsound.opened j n s (by simpa [Function.update_of_ne hij] using hj)

theorem Sound.lock (hsound : Sound cfg db server) {store : Store Nat Db}
    (hnext : server.store.next (.lock i) = some store) :
    Sound cfg db { server with store := store } := by
  have hcoherent := hsound.coherent.next hnext
  obtain ⟨s, -, -, rfl⟩ := Store.lock_eq_some hnext
  exact ⟨hcoherent, hsound.version, hsound.replayed, hsound.tracked, hsound.opened, hsound.logged⟩

/-- The states that a request has seen, as the store has them. -/
theorem Sound.getElem?_states (hsound : Sound cfg db server) {n : Nat} {s : Db}
    (hstate : server.store.states[n]? = some s) :
    n ≤ server.log.length ∧ stateAt cfg.rt db server.log n = s := by
  obtain ⟨hlt, -⟩ := List.getElem?_eq_some_iff.mp hstate
  have hversion := hsound.version
  have hle : n ≤ server.log.length := by
    simp only [Store.states, List.length_append, List.length_singleton, Store.version]
      at hlt hversion
    omega
  refine ⟨hle, ?_⟩
  rw [hsound.replayed n hle] at hstate
  exact Option.some.inj hstate

theorem Sound.commit (hsound : Sound cfg db server) {store : Store Nat Db} {db' : Db}
    {plan : Plan Db PyException} (hhandling : server.handling i = some h)
    (hstage : h.stage = .transaction)
    (hattempt : attempt cfg plan server.store.persisted h.call = (none, db'))
    (hnext : server.store.next (.commit i db') = some store) :
    Sound cfg db
      { server.put i
          { h with commit := some server.log.length, stage := .reading (program cfg h.call) } with
        store := store
        log := server.log ++ [(i, h.call)] } := by
  have hcoherent := hsound.coherent.next hnext
  obtain ⟨hwriter, rfl⟩ := Store.commit_eq_some hnext
  have htracked := hsound.tracked i h hhandling
  have hlength : (server.log ++ [(i, h.call)]).length = server.log.length + 1 := by simp
  obtain ⟨op, hop, hdb⟩ := operation_of_attempt hattempt
  have hstate : stateAt cfg.rt db (server.log ++ [(i, h.call)]) (server.log.length + 1) = db' := by
    rw [← hlength, stateAt_length, replay_append, ← hsound.persisted, hdb]
    simp [replay, hop]
  obtain ⟨hcommit, hlooks, hwrites, hchecked⟩ := htracked.staged.of_transaction hstage
  refine ⟨hcoherent, ?_, ?_, ?_, ?_, ?_⟩
  · have hversion := hsound.version
    simp only [Store.version, Store.states, List.length_append, List.length_singleton] at hversion ⊢
    omega
  · intro n hn
    change n ≤ (server.log ++ [(i, h.call)]).length at hn
    rcases Nat.lt_or_ge server.log.length n with hlt | hle
    · -- the version that this commit has made
      obtain rfl : n = server.log.length + 1 := by omega
      have hstates : server.store.states.length = server.log.length + 1 := by
        have hversion := hsound.version
        simp only [Store.version, Store.states, List.length_append,
          List.length_singleton] at hversion ⊢
        omega
      show (server.store.states ++ [db'])[server.log.length + 1]? = _
      rw [← hstates, List.getElem?_concat_length, hstates, hstate]
    · have hold := hsound.replayed n hle
      obtain ⟨hlt, -⟩ := List.getElem?_eq_some_iff.mp hold
      show (server.store.states ++ [db'])[n]? = _
      rw [List.getElem?_append_left hlt, stateAt_append hle]
      exact hold
  · intro j h' hj
    rcases handling_put.mp hj with ⟨rfl, rfl⟩ | ⟨-, hold⟩
    · refine ⟨?_, ?_, by simp [hlooks], by simp [hlooks], by simp, ?_⟩
      · have hentered := htracked.entered
        show h.entered ≤ (server.log ++ [(j, h.call)]).length
        omega
      · -- its place in the log is the last one, and the state before it is the one it read
        intro k hk
        obtain rfl := Option.some.inj hk
        refine ⟨by simp, htracked.entered, plan, ?_⟩
        show attempt cfg plan (stateAt cfg.rt db (server.log ++ [(j, h.call)]) _) h.call =
          (none, stateAt cfg.rt db (server.log ++ [(j, h.call)]) _)
        rw [hstate, stateAt_append le_rfl, stateAt_length, ← hsound.persisted]
        exact hattempt
      · refine .reading (program cfg h.call) rfl (by simp) hchecked fun later answer hrun => ?_
        rw [hlooks]
        exact hrun
    · exact (hsound.tracked j h' hold).extend
  · intro j n s hj
    by_cases hij : j = i
    · subst hij
      exact absurd hj (by simp [Store.dropped])
    · obtain ⟨h', hold, hrest⟩ := hsound.opened j n s (by simpa [Store.dropped, hij] using hj)
      exact ⟨h', handling_put.mpr (.inr ⟨hij, hold⟩), hrest⟩
  · intro k entry hentry
    change (server.log ++ [(i, h.call)])[k]? = some entry at hentry
    rcases Nat.lt_or_ge k server.log.length with hlt | hge
    · rw [List.getElem?_append_left hlt] at hentry
      obtain ⟨hoperation, h', hhandling', hcommitted⟩ := hsound.logged k entry hentry
      refine ⟨hoperation, h', handling_put.mpr (.inr ⟨?_, hhandling'⟩), hcommitted⟩
      -- a request that has committed before is in no transaction now
      intro hij
      obtain rfl : h = h' := Option.some.inj (hhandling.symm.trans (hij ▸ hhandling'))
      exact absurd (hcommit.symm.trans hcommitted) (by simp)
    · obtain ⟨hlt, -⟩ := List.getElem?_eq_some_iff.mp hentry
      obtain rfl : k = server.log.length := by omega
      rw [List.getElem?_concat_length] at hentry
      obtain rfl := Option.some.inj hentry
      exact ⟨⟨op, hop⟩, _, handling_put.mpr (.inl ⟨rfl, rfl⟩), rfl⟩

theorem Sound.refuse (hsound : Sound cfg db server) {store : Store Nat Db} {taken : Nat}
    {snapshot db' : Db} {plan : Plan Db PyException} {response : Response}
    (hhandling : server.handling i = some h) (hstage : h.stage = .transaction)
    (hentered : h.entered ≤ taken) (hsnapshot : server.store.snapshot i = some (taken, snapshot))
    (hattempt : attempt cfg plan snapshot h.call = (some response, db'))
    (hnext : server.store.next (.close i) = some store) :
    Sound cfg db
      { server.put i
          { h with
            looks := [taken]
            stage := .answered server.store.version (.status response) } with
        store := store } := by
  have hcoherent := hsound.coherent.next hnext
  obtain rfl : server.store.dropped i = store := Option.some.inj hnext
  have htracked := hsound.tracked i h hhandling
  obtain ⟨hle, hseen⟩ := hsound.getElem?_states (hsound.coherent.taken i taken snapshot hsnapshot)
  obtain ⟨hcommit, hchecked⟩ : h.commit = none ∧ checkRequest cfg h.call h.xApiKey = .ok () := by
    obtain ⟨hcommit, -, -, hchecked⟩ := htracked.staged.of_transaction hstage
    exact ⟨hcommit, hchecked⟩
  refine ⟨hcoherent, hsound.version, hsound.replayed, ?_, ?_, ?_⟩
  · intro j h' hj
    rcases handling_put.mp hj with ⟨rfl, rfl⟩ | ⟨-, hold⟩
    · -- it has looked once, at the snapshot of its transaction
      refine ⟨htracked.entered, htracked.committed, by simp, ?_, ?_, ?_⟩
      · intro n hn
        obtain rfl := List.mem_singleton.mp hn
        exact ⟨hentered, hle, by simp [hcommit]⟩
      · intro left answer hanswered
        obtain ⟨rfl, -⟩ := Stage.answered.inj hanswered
        have hversion := hsound.version
        refine ⟨?_, hversion.le, ?_, by simp [hcommit]⟩
        · show h.entered ≤ server.store.version
          omega
        · intro n hn
          obtain rfl := List.mem_singleton.mp hn
          omega
      · refine .refused server.store.version response rfl hcommit hchecked ⟨plan, snapshot, db', ?_⟩
        exact ⟨congrArg (fun s => [s]) hseen, hattempt⟩
    · exact hsound.tracked j h' hold
  · intro j n s hj
    by_cases hij : j = i
    · subst hij
      exact absurd hj (by simp [Store.dropped])
    · obtain ⟨h', hold, hrest⟩ := hsound.opened j n s (by simpa [Store.dropped, hij] using hj)
      exact ⟨h', handling_put.mpr (.inr ⟨hij, hold⟩), hrest⟩
  · intro k entry hentry
    obtain ⟨hoperation, h', hhandling', hcommitted⟩ := hsound.logged k entry hentry
    refine ⟨hoperation, h', handling_put.mpr (.inr ⟨?_, hhandling'⟩), hcommitted⟩
    intro hij
    obtain rfl : h = h' := Option.some.inj (hhandling.symm.trans (hij ▸ hhandling'))
    exact absurd (hcommit.symm.trans hcommitted) (by simp)

/-- A request that has reached its reading program is in no transaction. -/
theorem Sound.put_of_reading (hsound : Sound cfg db server) {rest : Reading Db Answer}
    (hhandling : server.handling i = some h) (hstage : h.stage = .reading rest)
    (hcommit : h'.commit = h.commit) (htracked : Tracked cfg db server.log i h') :
    Sound cfg db (server.put i h') := by
  have hsame : ∀ h₀, server.handling i = some h₀ → h₀ = h := by
    intro h₀ hold
    exact Option.some.inj (hold.symm.trans hhandling)
  refine hsound.put ?_ ?_ htracked
  · intro h₀ hold
    rw [hsame h₀ hold, hstage]
    simp
  · intro h₀ hold
    rw [hcommit, hsame h₀ hold]

theorem Sound.look (hsound : Sound cfg db server) {next : Db → Reading Db Answer}
    (hhandling : server.handling i = some h) (hstage : h.stage = .reading (.look next)) :
    Sound cfg db (server.put i
      { h with
        looks := h.looks ++ [server.store.version]
        stage := .reading (next server.store.persisted) }) := by
  have htracked := hsound.tracked i h hhandling
  have hversion := hsound.version
  obtain ⟨hcommit, hchecked, hrest⟩ := htracked.staged.of_reading hstage
  refine hsound.put_of_reading hhandling hstage rfl ?_
  refine ⟨htracked.entered, htracked.committed, ?_, ?_, by simp, ?_⟩
  · rw [List.pairwise_append]
    refine ⟨htracked.ordered, by simp, ?_⟩
    intro n hn m hm
    obtain rfl := List.mem_singleton.mp hm
    have hle := (htracked.looks n hn).2.1
    omega
  · intro n hn
    rcases List.mem_append.mp hn with hold | hlast
    · exact htracked.looks n hold
    · obtain rfl := List.mem_singleton.mp hlast
      refine ⟨?_, hversion.le, ?_⟩
      · have hentered := htracked.entered
        show h.entered ≤ server.store.version
        omega
      · intro k hk
        obtain ⟨hlt, -⟩ := List.getElem?_eq_some_iff.mp (htracked.committed k hk).1
        omega
  · refine .reading _ rfl hcommit hchecked fun later answer hrun => ?_
    have hlook : (Reading.look next).run (server.store.persisted :: later) = some answer := hrun
    have hwhole := hrest _ _ hlook
    rw [List.map_append, List.map_singleton, hversion, stateAt_length, ← hsound.persisted,
      List.append_assoc]
    exact hwhole

/-- The bounds of a request that is answered now. -/
theorem Sound.answered_now (hsound : Sound cfg db server)
    (htracked : Tracked cfg db server.log i h) :
    h.entered ≤ server.store.version ∧ server.store.version ≤ server.log.length ∧
      (∀ n ∈ h.looks, n ≤ server.store.version) ∧
      ∀ k, h.commit = some k → k < server.store.version := by
  have hversion := hsound.version
  have hentered := htracked.entered
  refine ⟨by omega, by omega, ?_, ?_⟩
  · intro n hn
    have hle := (htracked.looks n hn).2.1
    omega
  · intro k hk
    obtain ⟨hlt, -⟩ := List.getElem?_eq_some_iff.mp (htracked.committed k hk).1
    omega

theorem Sound.answer (hsound : Sound cfg db server) {rest : Reading Db Answer} {answer : Answer}
    (hhandling : server.handling i = some h) (hstage : h.stage = .reading rest)
    (hstaged : Staged cfg (h.looks.map (stateAt cfg.rt db server.log))
      { h with stage := .answered server.store.version answer }) :
    Sound cfg db (server.put i { h with stage := .answered server.store.version answer }) := by
  have htracked := hsound.tracked i h hhandling
  refine hsound.put_of_reading hhandling hstage rfl ?_
  refine ⟨htracked.entered, htracked.committed, htracked.ordered,
    htracked.looks, ?_, hstaged⟩
  intro left answer' hanswered
  obtain ⟨rfl, -⟩ := Stage.answered.inj hanswered
  have hbounds := hsound.answered_now htracked
  exact hbounds

/-- After its commit a `POST` has no statement left. -/
theorem looks_of_reading {seen : List Db} {next : Db → Reading Db Answer}
    (hstaged : Staged cfg seen h) (hstage : h.stage = .reading (.look next)) : h.call.Looks := by
  obtain ⟨-, -, hrest⟩ := hstaged.of_reading hstage
  intro inp hcall
  obtain ⟨later, answer, hrun⟩ := Reading.exists_run Db.empty (Reading.look next)
  have hwhole := hrest later answer hrun
  rw [hcall] at hwhole
  obtain ⟨hseen, -⟩ := Reading.run_answer_eq_some.mp hwhole
  rw [(List.append_eq_nil_iff.mp hseen).2] at hrun
  exact absurd hrun (by simp [Reading.run])

theorem Sound.finish (hsound : Sound cfg db server) {taken : Nat} {snapshot : Db}
    {plan : Plan Db PyException} (hhandling : server.handling i = some h)
    (hsnapshot : server.store.snapshot i = some (taken, snapshot))
    (hnext : server.finish cfg i h taken snapshot plan = some t) : Sound cfg db t := by
  obtain ⟨h', hhandling', hstage, hentered⟩ := hsound.opened i taken snapshot hsnapshot
  obtain rfl : h = h' := Option.some.inj (hhandling.symm.trans hhandling')
  unfold State.finish at hnext
  split at hnext
  · next db' hattempt =>
      obtain ⟨store, hstore, hrest⟩ := Option.bind_eq_some_iff.mp hnext
      obtain rfl := Option.some.inj hrest
      obtain ⟨hwriter, -⟩ := Store.commit_eq_some hstore
      obtain ⟨-, rfl⟩ := hsound.coherent.eq_persisted hwriter hsnapshot
      exact hsound.commit hhandling hstage hattempt hstore
  · next response db' hattempt =>
      obtain ⟨store, hstore, hrest⟩ := Option.bind_eq_some_iff.mp hnext
      obtain rfl := Option.some.inj hrest
      exact hsound.refuse hhandling hstage hentered hsnapshot hattempt hstore

/-- **Every action keeps the account.** -/
theorem Sound.step (hsound : Sound cfg db server) {action : Action}
    (hnext : server.next cfg action = some t) : Sound cfg db t := by
  cases action with
  | arrive i call xApiKey =>
      simp only [State.next] at hnext
      split at hnext
      · exact absurd hnext (by simp)
      · next hnone =>
          obtain rfl := Option.some.inj hnext
          exact hsound.arrive hnone
  | begin i =>
      simp only [State.next] at hnext
      split at hnext
      · next hhandling =>
          obtain ⟨store, hstore, rfl⟩ := Option.map_eq_some_iff.mp hnext
          exact hsound.begin hhandling rfl hstore
      · exact absurd hnext (by simp)
  | lock i =>
      obtain ⟨store, hstore, rfl⟩ := Option.map_eq_some_iff.mp hnext
      exact hsound.lock hstore
  | finish i plan =>
      simp only [State.next] at hnext
      split at hnext
      · next h taken snapshot hhandling hsnapshot =>
          exact hsound.finish hhandling hsnapshot hnext
      · exact absurd hnext (by simp)
  | look i =>
      simp only [State.next] at hnext
      split at hnext
      · next hhandling =>
          obtain rfl := Option.some.inj hnext
          exact hsound.look hhandling rfl
      · exact absurd hnext (by simp)
  | fail i exc =>
      simp only [State.next] at hnext
      split at hnext
      · next hhandling =>
          obtain rfl := Option.some.inj hnext
          have hstaged := (hsound.tracked i _ hhandling).staged
          obtain ⟨hcommit, hchecked, -⟩ := hstaged.of_reading rfl
          have hlook := looks_of_reading hstaged rfl
          refine hsound.answer hhandling rfl (.failed _ _ rfl hcommit hchecked hlook ?_)
          cases exc <;> rfl
      · exact absurd hnext (by simp)
  | reply i =>
      simp only [State.next] at hnext
      split at hnext
      · next hhandling =>
          obtain rfl := Option.some.inj hnext
          obtain ⟨hcommit, hchecked, hrest⟩ := (hsound.tracked i _ hhandling).staged.of_reading rfl
          refine hsound.answer hhandling rfl (.completed _ _ rfl hcommit hchecked ?_)
          simpa using hrest [] _ rfl
      · exact absurd hnext (by simp)

/-- What an action does to the requests and the log: nothing, or one request comes, or one
goes on and perhaps commits. -/
inductive Effect (server : State) (action : Action) (t : State) : Prop where
  | idle (hnew : ∀ i call xApiKey, action ≠ .arrive i call xApiKey)
      (hhandling : t.handling = server.handling) (hlog : t.log = server.log)
  | arrived (i : Nat) (call : Call) (xApiKey : Option Str) (h : Handling)
      (haction : action = .arrive i call xApiKey) (hnone : server.handling i = none)
      (hhandling : t.handling = (server.put i h).handling) (hcall : h.call = call)
      (hentered : h.entered = server.store.version) (hlog : t.log = server.log)
  | advanced (i : Nat) (h h' : Handling) (hnew : ∀ i call xApiKey, action ≠ .arrive i call xApiKey)
      (hold : server.handling i = some h) (hhandling : t.handling = (server.put i h').handling)
      (hcall : h'.call = h.call) (hentered : h'.entered = h.entered)
      (hlog : t.log = server.log ∨ t.log = server.log ++ [(i, h.call)])

theorem effect_of_finish {taken : Nat} {snapshot : Db} {plan plan' : Plan Db PyException}
    (hhandling : server.handling i = some h)
    (hnext : server.finish cfg i h taken snapshot plan = some t) :
    Effect server (.finish i plan') t := by
  unfold State.finish at hnext
  split at hnext
  · obtain ⟨store, -, hrest⟩ := Option.bind_eq_some_iff.mp hnext
    obtain rfl := Option.some.inj hrest
    exact .advanced i h _ (by simp) hhandling rfl rfl rfl (.inr rfl)
  · obtain ⟨store, -, hrest⟩ := Option.bind_eq_some_iff.mp hnext
    obtain rfl := Option.some.inj hrest
    exact .advanced i h _ (by simp) hhandling rfl rfl rfl (.inl rfl)

theorem effect_of_next {action : Action} (hnext : server.next cfg action = some t) :
    Effect server action t := by
  cases action with
  | arrive i call xApiKey =>
      simp only [State.next] at hnext
      split at hnext
      · exact absurd hnext (by simp)
      · next hnone =>
          obtain rfl := Option.some.inj hnext
          exact .arrived i call xApiKey _ rfl hnone rfl rfl rfl rfl
  | begin i =>
      simp only [State.next] at hnext
      split at hnext
      · obtain ⟨store, -, rfl⟩ := Option.map_eq_some_iff.mp hnext
        exact .idle (by simp) rfl rfl
      · exact absurd hnext (by simp)
  | lock i =>
      obtain ⟨store, -, rfl⟩ := Option.map_eq_some_iff.mp hnext
      exact .idle (by simp) rfl rfl
  | finish i plan =>
      simp only [State.next] at hnext
      split at hnext
      · next h taken snapshot hhandling hsnapshot => exact effect_of_finish hhandling hnext
      · exact absurd hnext (by simp)
  | look i =>
      simp only [State.next] at hnext
      split at hnext
      · next hhandling =>
          obtain rfl := Option.some.inj hnext
          exact .advanced i _ _ (by simp) hhandling rfl rfl rfl (.inl rfl)
      · exact absurd hnext (by simp)
  | fail i exc =>
      simp only [State.next] at hnext
      split at hnext
      · next hhandling =>
          obtain rfl := Option.some.inj hnext
          exact .advanced i _ _ (by simp) hhandling rfl rfl rfl (.inl rfl)
      · exact absurd hnext (by simp)
  | reply i =>
      simp only [State.next] at hnext
      split at hnext
      · next hhandling =>
          obtain rfl := Option.some.inj hnext
          exact .advanced i _ _ (by simp) hhandling rfl rfl rfl (.inl rfl)
      · exact absurd hnext (by simp)

end

/-- The steps of the server. -/
def Step (cfg : Config) (server : State) (action : Action) (t : State) : Prop :=
  server.next cfg action = some t

theorem sound_of_run {cfg : Config} {db : Db} {actions : List Action} {server : State}
    (hrun : Run (Step cfg) (.start db) actions server) : Sound cfg db server :=
  hrun.preserves (fun _ _ _ hsound hnext => hsound.step hnext) (sound_start cfg db)

end Server
end Api
end LanDiscovery

import LanDiscovery.Api.ServerRuns

/-!
# What clients can rely on

However requests are interleaved, the server does them one after the other in the order of
their commits, which agrees with the order in which clients see them (`requests_serialize`);
and a list of devices is true of moments between its request and its answer, with all that
was accepted before (`lists_are_current`).
-/

namespace LanDiscovery
namespace Api
namespace Server

open Library Library.Outcome Library.Transaction Library.Transition Library.Snapshot Request
  MdnsNames

/-- An answer of the 2xx class. -/
def IsSuccessful (answer : Answer) : Prop :=
  200 ≤ answer.statusCode ∧ answer.statusCode < 300

/-- The request has committed. -/
def State.Committed (server : State) (i : Nat) : Prop :=
  i ∈ server.log.map Prod.fst

/-- Some request has been answered, with so many commits before the answer. -/
def State.Answered (server : State) (i : Nat) (h : Handling) (left : Nat) (answer : Answer) :
    Prop :=
  server.handling i = some h ∧ h.stage = .answered left answer

/-- The requests as if they came one after the other. -/
structure Serialized (cfg : Config) (db : Db) (server : State) : Prop where
  persisted : server.store.persisted = replay cfg.rt db server.log
  once : (server.log.map Prod.fst).Nodup
  /-- what has committed was let in, and did what its route does at its place -/
  admitted : ∀ k i call, server.log[k]? = some (i, call) →
    (∃ op, call.operation = some op) ∧
      ∃ h, server.handling i = some h ∧ h.call = call ∧ h.entered ≤ k ∧
        checkRequest cfg call h.xApiKey = .ok ()
  /-- a request is a success just if it has committed; only a device that could not be
  read back makes a difference -/
  successful : ∀ i h left answer, server.Answered i h left answer → h.call.writes = true →
    (IsSuccessful answer → server.Committed i) ∧
      (server.Committed i → IsSuccessful answer ∨ h.call.Looks ∧ answer.statusCode = 500)
  /-- requests commit in the order in which clients see them -/
  inOrder : ∀ (k m i j : Nat) call call' h h' left answer, server.log[k]? = some (i, call) →
    server.log[m]? = some (j, call') → server.Answered i h left answer →
    server.handling j = some h' → left ≤ h'.entered → k < m

section

variable {cfg : Config} {db : Db} {server : State} {i k : Nat} {h : Handling}

theorem Sound.committed_iff (hsound : Sound cfg db server)
    (hhandling : server.handling i = some h) : server.Committed i ↔ h.commit ≠ none := by
  constructor
  · intro hcommitted
    obtain ⟨entry, hentry, rfl⟩ := List.mem_map.mp hcommitted
    obtain ⟨k, hk⟩ := List.mem_iff_getElem?.mp hentry
    obtain ⟨-, h', hhandling', hcommit⟩ := hsound.logged k entry hk
    obtain rfl : h = h' := Option.some.inj (hhandling.symm.trans hhandling')
    simp [hcommit]
  · intro hcommit
    obtain ⟨k, hk⟩ := Option.ne_none_iff_exists'.mp hcommit
    obtain ⟨hlog, -⟩ := (hsound.tracked i h hhandling).committed k hk
    exact List.mem_map_of_mem (List.mem_of_getElem? hlog)

theorem Sound.nodup_log (hsound : Sound cfg db server) : (server.log.map Prod.fst).Nodup := by
  rw [List.nodup_iff_getElem?_ne_getElem?]
  intro k m hlt hm heq
  rw [List.getElem?_map, List.getElem?_map] at heq
  rw [List.length_map] at hm
  have hentry := List.getElem?_eq_getElem hm
  have hentry' := List.getElem?_eq_getElem (hlt.trans hm)
  rw [hentry, hentry', Option.map_some, Option.map_some] at heq
  have hsame := Option.some.inj heq
  obtain ⟨-, h, hhandling, hcommit⟩ := hsound.logged m _ hentry
  obtain ⟨-, h', hhandling', hcommit'⟩ := hsound.logged k _ hentry'
  rw [← hsame, hhandling'] at hhandling
  obtain rfl := Option.some.inj hhandling
  have hkm := Option.some.inj (hcommit.symm.trans hcommit')
  omega

/-- The entry of a request in the log. -/
theorem Sound.entry (hsound : Sound cfg db server) {call : Call}
    (hentry : server.log[k]? = some (i, call)) :
    ∃ h, server.handling i = some h ∧ h.call = call ∧ h.commit = some k := by
  obtain ⟨-, h, hhandling, hcommit⟩ := hsound.logged k _ hentry
  obtain ⟨hlog, -⟩ := (hsound.tracked i h hhandling).committed k hcommit
  rw [hentry] at hlog
  exact ⟨h, hhandling, (Prod.mk.inj (Option.some.inj hlog)).2.symm, hcommit⟩

/-- A request that has committed passed the checks. -/
theorem Staged.admitted {seen : List Db} (hstaged : Staged cfg seen h) (hcommit : h.commit ≠ none) :
    checkRequest cfg h.call h.xApiKey = .ok () := by
  cases hstaged with
  | transaction _ _ _ _ hchecked => exact hchecked
  | reading _ _ _ hchecked => exact hchecked
  | completed _ _ _ _ hchecked => exact hchecked
  | rejected _ _ _ hnone => exact absurd hnone hcommit
  | refused _ _ _ hnone => exact absurd hnone hcommit
  | failed _ _ _ _ hchecked => exact hchecked

/-! ## Commits -/

variable {rt : PyRuntime} {plan : Plan Db PyException} {db' : Db} {deviceId : Str}

theorem deviceRowOf_eq_some_iff {row : DeviceRow} :
    deviceRowOf db deviceId = some row ↔
      row ∈ db.devices ∧ Uuid.ofText? deviceId = some row.deviceId := by
  constructor
  · exact deviceRowOf_eq_some
  · intro hrow
    rw [deviceRowOf, hrow.2]
    exact getDeviceRow_of_mem hrow.1

/-- A device stays, approved if it was. -/
theorem exists_device_later {row : DeviceRow} (hlater : Later rt db db')
    (hrow : deviceRowOf db deviceId = some row) :
    ∃ row', deviceRowOf db' deviceId = some row' ∧
      (row.status = .approved → row'.status = .approved) := by
  obtain ⟨hmem, hid⟩ := deviceRowOf_eq_some hrow
  obtain ⟨ops, rfl⟩ := hlater
  obtain ⟨row', hmem', hsame, hstatus, -⟩ := retained_foldl rt db ops row hmem
  exact ⟨row', deviceRowOf_eq_some_iff.mpr ⟨hmem', by rw [hid, hsame]⟩, hstatus⟩

theorem approved_of_attempt {displayName : Option Str} {nowMs : Int}
    (h : attempt cfg plan db (.approve deviceId displayName nowMs) = (none, db')) :
    ∃ row, deviceRowOf db' deviceId = some row ∧ row.status = .approved := by
  cases htransaction : approveTransaction deviceId displayName nowMs plan (.opened db) with
  | mk outcome t =>
      cases outcome with
      | error exc => simp [attempt, htransaction] at h
      | ok found =>
          obtain ⟨-, ⟨rfl, -, -⟩ | ⟨rfl, row, hrow, htables⟩⟩ :=
            approveTransaction_eq_ok htransaction
          · simp [attempt, htransaction] at h
          · have hdb : t.persisted = db' := by simpa [attempt, htransaction] using h
            rw [← hdb]
            exact ⟨row.approve displayName, deviceRowOf_approved hrow htables, rfl⟩

theorem accepted_of_attempt {inp : IngestInput}
    (h : attempt cfg plan db (.ingest inp) = (none, db')) :
    ∃ id, processDiscoveryEvent cfg.rt db inp = .ok (id, db') := by
  rcases request_cases cfg.rt plan db inp with ⟨-, hfailure⟩ | ⟨-, id, hrun⟩
  · have hcode : (request cfg.rt plan db inp).1.statusCode = 202 := by
      by_contra hne
      simp [attempt, hne] at h
    exact absurd ⟨by omega, by omega⟩ hfailure
  · have hdb : (request cfg.rt plan db inp).2 = db' := (Prod.mk.inj h).2
    exact ⟨id, hdb ▸ hrun⟩

/-- A device that was there in an earlier state is read. -/
theorem exists_device_of_run {row : DeviceRow} {seen : List Db} {answer : Option DeviceOut}
    (hlater : ∀ s ∈ seen, Later rt db s) (hrow : deviceRowOf db deviceId = some row)
    (hrun : (getDevice deviceId).run seen = some answer) : ∃ device, answer = some device := by
  obtain ⟨first, rest, rfl, hrest⟩ := Reading.run_look_eq_some.mp hrun
  obtain ⟨row', hrow', -⟩ := exists_device_later (hlater first List.mem_cons_self) hrow
  rw [hrow'] at hrest
  obtain ⟨before, after, device, -, -, hanswer⟩ := Reading.run_andThen_eq_some.mp hrest
  exact ⟨device, (Reading.run_answer_eq_some.mp hanswer).2.symm⟩

/-- A writing request that runs to its end is a success. -/
theorem Sound.isSuccessful (hsound : Sound cfg db server) (hhandling : server.handling i = some h)
    (hwrites : h.call.writes = true) (hcommit : h.commit ≠ none) {answer : Answer}
    (hrun : (program cfg h.call).run (h.looks.map (stateAt cfg.rt db server.log)) = some answer) :
    IsSuccessful answer := by
  obtain ⟨k, hk⟩ := Option.ne_none_iff_exists'.mp hcommit
  have htracked := hsound.tracked i h hhandling
  obtain ⟨-, -, plan, hattempt⟩ := htracked.committed k hk
  cases hcall : h.call with
  | ingest inp =>
      rw [hcall] at hrun
      obtain ⟨-, rfl⟩ := Reading.run_answer_eq_some.mp hrun
      simp [IsSuccessful, Answer.statusCode]
  | approve deviceId displayName nowMs =>
      rw [hcall] at hrun hattempt
      obtain ⟨before, after, found, hseen, hdevice, hanswer⟩ :=
        Reading.run_andThen_eq_some.mp hrun
      obtain ⟨-, rfl⟩ := Reading.run_answer_eq_some.mp hanswer
      obtain ⟨row, hrow, -⟩ := approved_of_attempt hattempt
      have hlater : ∀ s ∈ before, Later cfg.rt (stateAt cfg.rt db server.log (k + 1)) s := by
        intro s hs
        have hmem : s ∈ h.looks.map (stateAt cfg.rt db server.log) := by
          rw [hseen]
          exact List.mem_append_left _ hs
        obtain ⟨n, hn, rfl⟩ := List.mem_map.mp hmem
        exact later_stateAt cfg.rt db server.log ((htracked.looks n hn).2.2 k hk)
      obtain ⟨device, rfl⟩ := exists_device_of_run hlater hrow hdevice
      simp [IsSuccessful, Answer.statusCode, detailAnswer]
  | listDevices => simp [hcall, Call.writes] at hwrites
  | getDevice deviceId => simp [hcall, Call.writes] at hwrites
  | listAlerts limit alertType => simp [hcall, Call.writes] at hwrites

theorem statusCode_of_requireApiKey {expected xApiKey : Option Str} {response : Response}
    (h : requireApiKey expected xApiKey = .error response) : response.statusCode = 401 := by
  unfold requireApiKey at h
  split at h
  · exact absurd h (by simp)
  · split at h
    · exact absurd h (by simp)
    · rw [← Except.error.inj h]

theorem statusCode_of_check {call : Call} {response : Response}
    (h : call.check = .error response) :
    response.statusCode = 400 ∨ response.statusCode = 422 := by
  cases call with
  | ingest inp =>
      rw [Call.check] at h
      split at h
      · exact .inl (by rw [← Except.error.inj h])
      · exact absurd h (by simp)
  | listAlerts limit alertType =>
      rw [Call.check] at h
      split at h
      · exact .inr (by rw [← Except.error.inj h])
      · exact absurd h (by simp)
  | _ => exact absurd h (by simp [Call.check])

theorem not_isSuccessful_of_checkRequest {call : Call} {xApiKey : Option Str} {response : Response}
    (h : checkRequest cfg call xApiKey = .error response) : ¬ IsSuccessful (.status response) := by
  have hcode : response.statusCode = 401 ∨ response.statusCode = 400 ∨
      response.statusCode = 422 := by
    unfold checkRequest at h
    split at h
    · cases hkey : requireApiKey cfg.apiToken xApiKey with
      | error response' =>
          rw [hkey] at h
          obtain rfl := Except.error.inj h
          exact .inl (statusCode_of_requireApiKey hkey)
      | ok _ =>
          rw [hkey] at h
          exact .inr (statusCode_of_check h)
    · exact .inr (statusCode_of_check h)
  intro hsuccess
  have hlt : response.statusCode < 300 := hsuccess.2
  omega

theorem Sound.successful (hsound : Sound cfg db server) {left : Nat} {answer : Answer}
    (hanswered : server.Answered i h left answer) (hwrites : h.call.writes = true) :
    (IsSuccessful answer → server.Committed i) ∧
      (server.Committed i → IsSuccessful answer ∨ h.call.Looks ∧ answer.statusCode = 500) := by
  obtain ⟨hhandling, hstage⟩ := hanswered
  rw [hsound.committed_iff hhandling]
  cases (hsound.tracked i h hhandling).staged with
  | transaction hstage' => exact absurd (hstage.symm.trans hstage') (by simp)
  | reading rest hstage' => exact absurd (hstage.symm.trans hstage') (by simp)
  | completed left' answer' hstage' hcommit hchecked hrun =>
      obtain ⟨-, rfl⟩ := Stage.answered.inj (hstage.symm.trans hstage')
      have hsuccess := hsound.isSuccessful hhandling hwrites (hcommit hwrites) hrun
      exact ⟨fun _ => hcommit hwrites, fun _ => .inl hsuccess⟩
  | rejected left' response hstage' hcommit hchecked =>
      obtain ⟨-, rfl⟩ := Stage.answered.inj (hstage.symm.trans hstage')
      exact ⟨fun hsuccess => absurd hsuccess (not_isSuccessful_of_checkRequest hchecked),
        fun hcommitted => absurd hcommit hcommitted⟩
  | refused left' response hstage' hcommit hchecked hattempt =>
      obtain ⟨-, rfl⟩ := Stage.answered.inj (hstage.symm.trans hstage')
      obtain ⟨plan, s, s', -, hrun⟩ := hattempt
      exact ⟨fun hsuccess => absurd hsuccess (not_isSuccess_of_attempt hrun),
        fun hcommitted => absurd hcommit hcommitted⟩
  | failed left' response hstage' hcommit hchecked hlook hcode =>
      obtain ⟨-, rfl⟩ := Stage.answered.inj (hstage.symm.trans hstage')
      exact ⟨fun _ => hcommit hwrites, fun _ => .inr ⟨hlook, hcode⟩⟩

end

/-! ## Two events at once -/

/-- A service without a token. -/
def openConfig : Config where
  rt := sampleRuntime
  apiToken := none
  deviceOrder := .stable _
  alertOrder := .stable _

/-- An event from one address. -/
def sampleEvent (n : Nat) (nowMs : Int) : IngestInput :=
  sampleInput "192.168.1.10" none [sampleRecord "A" "tv.local" (some "tv.local") nowMs] nowMs n

/-- Two events at once, of which the second one finds that its snapshot is out of date when
it comes to write; and then a list. -/
def overlappingActions : List Action :=
  [.arrive 0 (.ingest (sampleEvent 0 1000)) none,
    .arrive 1 (.ingest (sampleEvent 1 2000)) none,
    .begin 0, .begin 1, .lock 0,
    .finish 0 fun _ => none,
    .reply 0,
    .finish 1 fun n => if n = 2 then some ⟨.sqliteError, none⟩ else none,
    .arrive 2 .listDevices none,
    .look 2, .look 2, .reply 2]

/-- The server that they lead to. -/
def overlappedServer : State :=
  (exec (State.next openConfig) (.start Db.empty) overlappingActions).getD (.start Db.empty)

theorem overlapped_run :
    Run (Step openConfig) (.start Db.empty) overlappingActions overlappedServer :=
  .of_exec_isSome (by decide +kernel)

/-- The request came after so many commits and was answered after so many, like this. -/
def Handling.isAnswered (entered left : Nat) (p : Answer → Bool) (h : Handling) : Bool :=
  match h.stage with
  | .answered left' answer => h.entered = entered && left' = left && p answer
  | _ => false

theorem answered_of_isAnswered {server : State} {i entered left : Nat} {p : Answer → Bool}
    (h : (server.handling i).any (Handling.isAnswered entered left p) = true) :
    ∃ h answer, server.Answered i h left answer ∧ h.entered = entered ∧ p answer = true := by
  obtain ⟨h', hhandling, hanswered⟩ := (Option.any_eq_true _ _).mp h
  unfold Handling.isAnswered at hanswered
  split at hanswered
  · next left' answer hstage =>
      simp only [Bool.and_eq_true, decide_eq_true_eq] at hanswered
      obtain ⟨⟨hentered, rfl⟩, hp⟩ := hanswered
      exact ⟨h', answer, ⟨hhandling, hstage⟩, hentered, hp⟩
  · exact absurd hanswered Bool.false_ne_true

/-- The answer is a list of devices. -/
def isList : Answer → Bool
  | .devices _ => true
  | .status _ | .device _ | .alerts _ => false

theorem listed_of_isAnswered {server : State} {i entered left : Nat}
    (h : (server.handling i).any (Handling.isAnswered entered left isList) = true) :
    ∃ h devices, server.Answered i h left (.devices devices) ∧ h.entered = entered := by
  obtain ⟨h', answer, hanswered, hentered, hlist⟩ := answered_of_isAnswered h
  cases answer with
  | devices devices => exact ⟨h', devices, hanswered, hentered⟩
  | _ => exact absurd hlist Bool.false_ne_true

theorem overlapped_answered :
    ∃ h devices, overlappedServer.Answered 2 h 1 (.devices devices) ∧ h.entered = 1 :=
  listed_of_isAnswered (by decide +kernel)

/-! ## The results -/

/-- **The server does one request after the other.**  Whatever arrives and however the
statements are interleaved, the database is what the committed requests make of it in the
order of their commits; each was let in, commits at most once, and is answered with a
success, up to a `PATCH` that could not be read back; and a request that arrives after
another one is answered commits after it. -/
theorem requests_serialize (cfg : Config) (db : Db) (actions : List Action) (server : State)
    (hrun : Run (Step cfg) (.start db) actions server) : Serialized cfg db server := by
  have hsound := sound_of_run hrun
  refine ⟨hsound.persisted, hsound.nodup_log, ?_, ?_, ?_⟩
  · intro k i call hentry
    obtain ⟨hoperation, -⟩ := hsound.logged k _ hentry
    obtain ⟨h, hhandling, rfl, hcommit⟩ := hsound.entry hentry
    have htracked := hsound.tracked i h hhandling
    refine ⟨hoperation, h, hhandling, rfl, (htracked.committed k hcommit).2.1, ?_⟩
    exact htracked.staged.admitted (by simp [hcommit])
  · intro i h left answer hanswered hwrites
    exact hsound.successful hanswered hwrites
  · intro k m i j call call' h h' left answer hk hm hanswered hhandling' hleft
    obtain ⟨h₁, hhandling₁, -, hcommit₁⟩ := hsound.entry hk
    obtain rfl : h = h₁ := Option.some.inj (hanswered.1.symm.trans hhandling₁)
    obtain ⟨h₂, hhandling₂, -, hcommit₂⟩ := hsound.entry hm
    obtain rfl : h' = h₂ := Option.some.inj (hhandling'.symm.trans hhandling₂)
    have htracked := hsound.tracked i h hhandling₁
    have hbefore := (htracked.answered left answer hanswered.2).2.2.2 k hcommit₁
    have hafter := ((hsound.tracked j h' hhandling₂).committed m hcommit₂).2.1
    omega

/-- Of the two events the first one is recorded. -/
theorem overlapped_serialized :
    overlappedServer.store.persisted =
      replay sampleRuntime Db.empty overlappedServer.log :=
  (requests_serialize openConfig Db.empty overlappingActions overlappedServer
    overlapped_run).persisted

/-! ## Lists -/

/-- What a list says: each device once, the last seen ones first, with the columns of the
first state and services between the two. -/
structure Listed (first last : Db) (devices : List DeviceOut) : Prop where
  complete : (devices.map DeviceOut.deviceId).Perm first.deviceIds
  descending : devices.Pairwise fun a b => b.lastSeenMs ≤ a.lastSeenMs
  shown : ∀ device ∈ devices, ∃ row ∈ first.devices, Shows first last device row

/-- What an accepted request leaves visible. -/
def Told (devices : List DeviceOut) : Call → Prop
  | .ingest inp =>
      ∃ device ∈ devices, ∀ key ∈ serviceTypesFromRecords inp.event.records, key ∈ device.services
  | .approve deviceId _ _ =>
      ∃ device ∈ devices, Uuid.ofText? deviceId = some device.deviceId ∧ device.status = .approved
  | .listDevices | .getDevice _ | .listAlerts .. => True

section

variable {cfg : Config} {db first last : Db} {server : State} {devices : List DeviceOut}

theorem listed_of_shows {order : OrderByDesc DeviceRow.lastSeenMs}
    (h : List.Forall₂ (Shows first last) devices (order.run first.devices)) :
    Listed first last devices where
  complete := by
    have hids : devices.map DeviceOut.deviceId =
        (order.run first.devices).map DeviceRow.deviceId := by
      rw [← List.forall₂_eq_eq_eq, List.forall₂_map_left_iff, List.forall₂_map_right_iff]
      refine h.imp fun device row hshows => ?_
      rw [hshows.eq_out]
      rfl
    rw [hids]
    exact (order.perm first.devices).map DeviceRow.deviceId
  descending := by
    have htimes : devices.map DeviceOut.lastSeenMs =
        (order.run first.devices).map DeviceRow.lastSeenMs := by
      rw [← List.forall₂_eq_eq_eq, List.forall₂_map_left_iff, List.forall₂_map_right_iff]
      refine h.imp fun device row hshows => ?_
      rw [hshows.eq_out]
      rfl
    have hsorted := order.sorted first.devices
    rw [← List.pairwise_map (R := fun a b : Int => b ≤ a), ← htimes, List.pairwise_map] at hsorted
    exact hsorted
  shown := by
    intro device hdevice
    obtain ⟨hlength, hget⟩ := List.forall₂_iff_get.mp h
    obtain ⟨n, rfl⟩ := List.mem_iff_get.mp hdevice
    have hlt : n.val < (order.run first.devices).length := hlength ▸ n.isLt
    exact ⟨_, order.mem_run.mp (List.get_mem _ ⟨n.val, hlt⟩), hget n.val n.isLt hlt⟩

/-- The device with an identifier is on the list. -/
theorem Listed.exists_device (h : Listed first last devices) {row : DeviceRow}
    (hrow : row ∈ first.devices) : ∃ device ∈ devices, Shows first last device row := by
  have hid : row.deviceId ∈ devices.map DeviceOut.deviceId :=
    h.complete.mem_iff.mpr (List.mem_map_of_mem hrow)
  obtain ⟨device, hdevice, hsame⟩ := List.mem_map.mp hid
  obtain ⟨row', hrow', hshows⟩ := h.shown device hdevice
  have hkey : row'.deviceId = row.deviceId := by
    rw [← hsame, hshows.eq_out]
    rfl
  obtain rfl := Table.eq_of_key_eq first.constraints.deviceKeys hrow' hrow hkey
  exact ⟨device, hdevice, hshows⟩

theorem mem_serviceKeysWith {t : Tables} {deviceId : Uuid} {keys : List Str} {key : Str} :
    key ∈ t.serviceKeysWith deviceId keys ↔ key ∈ t.serviceKeysOf deviceId ∨ key ∈ keys := by
  rw [Tables.serviceKeysWith, List.mem_append, List.mem_filter, decide_eq_true_eq]
  by_cases hkey : key ∈ t.serviceKeysOf deviceId <;> simp [hkey]

theorem shows_status {device : DeviceOut} {row : DeviceRow} (h : Shows first last device row) :
    device.status = row.status ∧ device.deviceId = row.deviceId := by
  rw [h.eq_out]
  exact ⟨rfl, rfl⟩

/-- What was committed before the first look of a list is on it. -/
theorem Sound.told (hsound : Sound cfg db server) {j k n : Nat} {h : Handling}
    (hhandling : server.handling j = some h) (hcommit : h.commit = some k) (hlt : k < n)
    (hlisted : Listed (stateAt cfg.rt db server.log n) last devices) : Told devices h.call := by
  obtain ⟨-, -, plan, hattempt⟩ := (hsound.tracked j h hhandling).committed k hcommit
  have hlater := later_stateAt cfg.rt db server.log (Nat.succ_le_of_lt hlt)
  cases hcall : h.call with
  | ingest inp =>
      rw [hcall] at hattempt
      obtain ⟨id, hprocess⟩ := accepted_of_attempt hattempt
      obtain ⟨-, -, htables⟩ := processDiscoveryEvent_eq_ok_iff.mp hprocess
      have hrow : observedRow (stateAt cfg.rt db server.log k) inp ∈
          (stateAt cfg.rt db server.log (k + 1)).devices := by
        rw [htables]
        exact mem_devices_ingested.mpr (.inl rfl)
      obtain ⟨ops, hops⟩ := hlater
      obtain ⟨row', hrow', hid, -⟩ := retained_foldl cfg.rt _ ops _ hrow
      rw [← hops] at hrow'
      obtain ⟨device, hdevice, hshows⟩ := hlisted.exists_device hrow'
      refine ⟨device, hdevice, fun key hkey => hshows.atLeast key ?_⟩
      have hstored : key ∈ (stateAt cfg.rt db server.log (k + 1)).serviceKeysOf row'.deviceId := by
        rw [htables, hid, serviceKeysOf_ingested_self]
        exact mem_serviceKeysWith.mpr (.inr hkey)
      exact Later.mem_serviceKeysOf ⟨ops, hops⟩ hstored
  | approve deviceId displayName nowMs =>
      rw [hcall] at hattempt
      obtain ⟨row, hrow, hstatus⟩ := approved_of_attempt hattempt
      obtain ⟨row', hrow', hkept⟩ := exists_device_later hlater hrow
      obtain ⟨hmem, hid⟩ := deviceRowOf_eq_some hrow'
      obtain ⟨device, hdevice, hshows⟩ := hlisted.exists_device hmem
      obtain ⟨hsame, hsameId⟩ := shows_status hshows
      exact ⟨device, hdevice, by rw [hid, hsameId], hsame.trans (hkept hstatus)⟩
  | listDevices => trivial
  | getDevice deviceId => trivial
  | listAlerts limit alertType => trivial

/-- Only `list_devices` answers with a list of devices. -/
theorem run_of_program {call : Call} {seen : List Db}
    (hrun : (program cfg call).run seen = some (.devices devices)) :
    (listDevices cfg.deviceOrder).run seen = some devices := by
  cases call with
  | ingest inp => exact absurd (Reading.run_answer_eq_some.mp hrun).2 (by simp)
  | listDevices =>
      obtain ⟨before, after, found, rfl, hlist, hanswer⟩ := Reading.run_andThen_eq_some.mp hrun
      obtain ⟨rfl, hsame⟩ := Reading.run_answer_eq_some.mp hanswer
      rw [List.append_nil, ← Answer.devices.inj hsame]
      exact hlist
  | listAlerts limit alertType =>
      obtain ⟨before, after, found, rfl, -, hanswer⟩ := Reading.run_andThen_eq_some.mp hrun
      exact absurd (Reading.run_answer_eq_some.mp hanswer).2 (by simp)
  | approve deviceId displayName nowMs =>
      obtain ⟨before, after, found, rfl, -, hanswer⟩ := Reading.run_andThen_eq_some.mp hrun
      cases found <;>
        exact absurd (Reading.run_answer_eq_some.mp hanswer).2 (by simp [detailAnswer])
  | getDevice deviceId =>
      obtain ⟨before, after, found, rfl, -, hanswer⟩ := Reading.run_andThen_eq_some.mp hrun
      cases found <;>
        exact absurd (Reading.run_answer_eq_some.mp hanswer).2 (by simp [detailAnswer])

variable {i left : Nat} {h : Handling} {answer : Answer}

/-- An answer that is not a status comes from the reading program. -/
theorem Sound.run_of_answered (hsound : Sound cfg db server)
    (hanswered : server.Answered i h left answer)
    (hstatus : ∀ response, answer ≠ .status response) :
    checkRequest cfg h.call h.xApiKey = .ok () ∧
      (program cfg h.call).run (h.looks.map (stateAt cfg.rt db server.log)) = some answer := by
  obtain ⟨hhandling, hstage⟩ := hanswered
  cases (hsound.tracked i h hhandling).staged with
  | completed left' answer' hstage' hcommit hchecked hrun =>
      obtain ⟨-, rfl⟩ := Stage.answered.inj (hstage.symm.trans hstage')
      exact ⟨hchecked, hrun⟩
  | transaction hstage' => exact absurd (hstage.symm.trans hstage') (by simp)
  | reading rest hstage' => exact absurd (hstage.symm.trans hstage') (by simp)
  | rejected left' response hstage' =>
      exact absurd (Stage.answered.inj (hstage.symm.trans hstage')).2 (hstatus response)
  | refused left' response hstage' =>
      exact absurd (Stage.answered.inj (hstage.symm.trans hstage')).2 (hstatus response)
  | failed left' response hstage' =>
      exact absurd (Stage.answered.inj (hstage.symm.trans hstage')).2 (hstatus response)

/-- What the looks of a request see, one after the other. -/
theorem Sound.chain (hsound : Sound cfg db server) (hhandling : server.handling i = some h) :
    (h.looks.map (stateAt cfg.rt db server.log)).Pairwise (Later cfg.rt) := by
  rw [List.pairwise_map]
  refine (hsound.tracked i h hhandling).ordered.imp ?_
  intro n m hle
  exact later_stateAt cfg.rt db server.log hle

theorem Sound.seen (hsound : Sound cfg db server) (hanswered : server.Answered i h left answer) :
    ∀ s ∈ h.looks.map (stateAt cfg.rt db server.log),
      ∃ n, h.entered ≤ n ∧ n ≤ left ∧ s = stateAt cfg.rt db server.log n := by
  intro s hs
  obtain ⟨n, hn, rfl⟩ := List.mem_map.mp hs
  have htracked := hsound.tracked i h hanswered.1
  exact ⟨n, (htracked.looks n hn).1, (htracked.answered left answer hanswered.2).2.2.1 n hn, rfl⟩

theorem Sound.seen_later (hsound : Sound cfg db server)
    (hanswered : server.Answered i h left answer) :
    ∀ s ∈ h.looks.map (stateAt cfg.rt db server.log),
      Later cfg.rt s (stateAt cfg.rt db server.log left) := by
  intro s hs
  obtain ⟨n, -, hle, rfl⟩ := hsound.seen hanswered s hs
  exact later_stateAt cfg.rt db server.log hle

/-- A list shows each device as it was at one moment. -/
theorem Sound.listed (hsound : Sound cfg db server) {devices : List DeviceOut}
    (hanswered : server.Answered i h left (.devices devices)) :
    ∃ n, h.entered ≤ n ∧ n ≤ left ∧
      Listed (stateAt cfg.rt db server.log n) (stateAt cfg.rt db server.log left) devices := by
  obtain ⟨-, hrun⟩ := hsound.run_of_answered hanswered (by simp)
  obtain ⟨first, hfirst, hshows⟩ := shows_of_listDevices (hsound.chain hanswered.1)
    (hsound.seen_later hanswered) (run_of_program hrun)
  obtain ⟨n, hentered, hle, rfl⟩ := hsound.seen hanswered first hfirst
  exact ⟨n, hentered, hle, listed_of_shows hshows⟩

end

/-- **Lists are current.**  A list of devices is true of the states between its request and
its answer, and shows what any request left that was accepted before. -/
theorem lists_are_current (cfg : Config) (db : Db) (actions : List Action) (server : State)
    (hrun : Run (Step cfg) (.start db) actions server) (i : Nat) (h : Handling) (left : Nat)
    (devices : List DeviceOut) (hanswered : server.Answered i h left (.devices devices)) :
    ∃ n, h.entered ≤ n ∧ n ≤ left ∧
      Listed (stateAt cfg.rt db server.log n) (stateAt cfg.rt db server.log left) devices ∧
      ∀ j h' left' answer, server.Answered j h' left' answer → h'.call.writes = true →
        IsSuccessful answer → left' ≤ h.entered → Told devices h'.call := by
  have hsound := sound_of_run hrun
  obtain ⟨n, hentered, hle, hlisted⟩ := hsound.listed hanswered
  refine ⟨n, hentered, hle, hlisted, ?_⟩
  intro j h' left' answer hanswered' hwrites hsuccess hbefore
  have hcommitted := (hsound.successful hanswered' hwrites).1 hsuccess
  obtain ⟨k, hk⟩ := Option.ne_none_iff_exists'.mp
    ((hsound.committed_iff hanswered'.1).mp hcommitted)
  have hlt := ((hsound.tracked j h' hanswered'.1).answered left' answer hanswered'.2).2.2.2 k hk
  exact hsound.told hanswered'.1 hk (by omega) hlisted

/-- The list that is answered when one of the two events is committed: it shows that state,
and what was accepted by then. -/
theorem overlapped_current :
    ∃ (h : Handling) (devices : List DeviceOut),
      overlappedServer.Answered 2 h 1 (.devices devices) ∧
      Listed (stateAt sampleRuntime Db.empty overlappedServer.log 1)
        (stateAt sampleRuntime Db.empty overlappedServer.log 1) devices ∧
      ∀ j h' left' answer, overlappedServer.Answered j h' left' answer →
        h'.call.writes = true → IsSuccessful answer → left' ≤ 1 → Told devices h'.call := by
  obtain ⟨h, devices, hanswered, hentered⟩ := overlapped_answered
  obtain ⟨n, hge, hle, hlisted, htold⟩ := lists_are_current openConfig Db.empty
    overlappingActions overlappedServer overlapped_run 2 h 1 devices hanswered
  obtain rfl : n = 1 := by omega
  rw [hentered] at htold
  exact ⟨h, devices, hanswered, hlisted, htold⟩

end Server
end Api
end LanDiscovery

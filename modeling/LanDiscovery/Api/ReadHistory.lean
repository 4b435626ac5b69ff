import LanDiscovery.Api.ServerResults

/-!
# What clients see one after another

A client that asks again sees no less: whatever device one answer shows, a later answer
shows it with the same identity, and with its address, its name, its approval, its host
and its services if it had them (`reads_are_monotone`).  A page of alerts is the newest of
what was there at one moment, and an alert leaves it for newer ones only
(`alerts_are_current`).
-/

namespace LanDiscovery
namespace Api

open Library Library.Text MdnsNames

/-! ## What stays of a row -/

/-- What no operation takes away from a device. -/
structure DeviceRow.Keeps (row row' : DeviceRow) : Prop where
  deviceId : row'.deviceId = row.deviceId
  firstSeenMs : row'.firstSeenMs = row.firstSeenMs
  mac : row.mac ≠ none → row'.mac = row.mac
  displayName : row.displayName ≠ none → row'.displayName ≠ none
  status : row.status = .approved → row'.status = .approved
  mdnsHost : (truthy row.mdnsHost).isSome → (truthy row'.mdnsHost).isSome

theorem DeviceRow.Keeps.refl (row : DeviceRow) : row.Keeps row :=
  ⟨rfl, rfl, fun _ => rfl, id, id, id⟩

theorem DeviceRow.Keeps.trans {row row' row'' : DeviceRow} (h : row.Keeps row')
    (h' : row'.Keeps row'') : row.Keeps row'' where
  deviceId := h'.deviceId.trans h.deviceId
  firstSeenMs := h'.firstSeenMs.trans h.firstSeenMs
  mac := by
    intro hmac
    have hsame := h.mac hmac
    rw [← hsame] at hmac
    exact (h'.mac hmac).trans hsame
  displayName := fun hname => h'.displayName (h.displayName hname)
  status := fun hstatus => h'.status (h.status hstatus)
  mdnsHost := fun hhost => h'.mdnsHost (h.mdnsHost hhost)

/-- An event leaves the device that it is attributed to what it has. -/
theorem keeps_observedRow {db : Db} {inp : IngestInput} {row : DeviceRow}
    (h : (resolution db inp.event inp.macHint).device = some row) :
    row.Keeps (observedRow db inp) := by
  have hhost : (truthy row.mdnsHost).isSome → (truthy (observedRow db inp).mdnsHost).isSome := by
    rw [observedRow_mdnsHost]
    exact truthy_mergedHost_isSome h
  cases hres : resolution db inp.event inp.macHint with
  | byMac found =>
      rw [hres] at h
      obtain rfl := Option.some.inj h
      rw [observedRow_of_byMac hres] at hhost ⊢
      exact ⟨rfl, rfl, fun _ => rfl, id, id, hhost⟩
  | bySrcIp found =>
      rw [hres] at h
      obtain rfl := Option.some.inj h
      rw [observedRow_of_bySrcIp hres] at hhost ⊢
      refine ⟨rfl, rfl, ?_, id, id, hhost⟩
      intro hmac
      obtain ⟨mac, hsome⟩ := Option.ne_none_iff_exists'.mp hmac
      simp [hsome]
  | fresh =>
      rw [hres] at h
      exact absurd h (by simp [Resolution.device])

theorem keeps_approve (row : DeviceRow) (displayName : Option Str) :
    row.Keeps (row.approve displayName) := by
  refine ⟨rfl, rfl, fun _ => rfl, ?_, fun _ => rfl, id⟩
  intro hname
  obtain ⟨name, hsome⟩ := Option.ne_none_iff_exists'.mp hname
  cases displayName <;> simp [DeviceRow.approve, hsome]

/-! ## What stays in the tables -/

/-- Every device stays, and every alert. -/
structure Tables.Keeps (t t' : Tables) : Prop where
  devices : ∀ row ∈ t.devices, ∃ row' ∈ t'.devices, row.Keeps row'
  alerts : t.alerts <+: t'.alerts

theorem Tables.Keeps.refl (t : Tables) : t.Keeps t :=
  ⟨fun row hrow => ⟨row, hrow, .refl row⟩, List.prefix_rfl⟩

theorem Tables.Keeps.trans {t t' t'' : Tables} (h : t.Keeps t') (h' : t'.Keeps t'') :
    t.Keeps t'' where
  devices := by
    intro row hrow
    obtain ⟨row', hrow', hkeeps⟩ := h.devices row hrow
    obtain ⟨row'', hrow'', hkeeps'⟩ := h'.devices row' hrow'
    exact ⟨row'', hrow'', hkeeps.trans hkeeps'⟩
  alerts := h.alerts.trans h'.alerts

theorem keeps_ingested {rt : PyRuntime} {db : Db} {inp : IngestInput} (hok : Acceptable db inp) :
    db.Keeps (ingested rt db inp) where
  devices := by
    intro row hrow
    by_cases hid : row.deviceId = (observedRow db inp).deviceId
    · refine ⟨observedRow db inp, mem_devices_ingested.mpr (.inl rfl), ?_⟩
      cases hdevice : (resolution db inp.event inp.macHint).device with
      | none =>
          have hmem : row.deviceId ∈ db.deviceIds := List.mem_map_of_mem hrow
          rw [hid] at hmem
          exact absurd hmem (observedRow_of_device_none hdevice hok).1
      | some found =>
          obtain ⟨hfound, hsame, -⟩ := observedRow_of_device hdevice
          obtain rfl := Table.eq_of_key_eq db.constraints.deviceKeys hrow hfound (hid.trans hsame)
          exact keeps_observedRow hdevice
    · exact ⟨row, mem_devices_ingested.mpr (.inr ⟨hrow, hid⟩), .refl row⟩
  alerts := List.prefix_append _ _

theorem keeps_approved {db : Db} {row : DeviceRow} (hrow : row ∈ db.devices)
    (displayName : Option Str) (nowMs : Int) :
    db.Keeps (approved db.toTables row displayName nowMs) where
  devices := by
    intro r hr
    by_cases hid : r.deviceId = row.deviceId
    · obtain rfl := Table.eq_of_key_eq db.constraints.deviceKeys hr hrow hid
      exact ⟨_, mem_devices_approved.mpr (.inl rfl), keeps_approve r displayName⟩
    · exact ⟨r, mem_devices_approved.mpr (.inr ⟨hr, hid⟩), .refl r⟩
  alerts := List.prefix_rfl

/-- **No operation takes anything away.** -/
theorem Later.keeps {rt : PyRuntime} {db db' : Db} (h : Later rt db db') :
    db.Keeps db'.toTables := by
  obtain ⟨ops, rfl⟩ := h
  induction ops generalizing db with
  | nil => exact .refl _
  | cons op ops ih =>
      refine Tables.Keeps.trans ?_ ih
      refine runOperation_preserves (I := fun t => db.Keeps t) ?_ ?_ (.refl _)
      · intro inp _ hok
        exact keeps_ingested hok
      · intro row hrow displayName nowMs _
        exact keeps_approved hrow displayName nowMs

/-! ## What stays of an answer -/

/-- What a later answer says of a device that an earlier one shows. -/
structure DeviceOut.Keeps (device device' : DeviceOut) : Prop where
  deviceId : device'.deviceId = device.deviceId
  firstSeenMs : device'.firstSeenMs = device.firstSeenMs
  mac : device.mac ≠ none → device'.mac = device.mac
  displayName : device.displayName ≠ none → device'.displayName ≠ none
  status : device.status = .approved → device'.status = .approved
  mdnsHost : (truthy device.mdnsHost).isSome → (truthy device'.mdnsHost).isSome
  services : device.services ⊆ device'.services

theorem keeps_of_shows {rt : PyRuntime} {first last first' last' : Db}
    {device device' : DeviceOut} {row row' : DeviceRow} (h : Shows first last device row)
    (h' : Shows first' last' device' row') (hlater : Later rt last first')
    (hkeeps : row.Keeps row') : device.Keeps device' := by
  have hservices : device.services ⊆ device'.services := by
    intro key hkey
    apply h'.atLeast
    rw [hkeeps.deviceId]
    exact hlater.mem_serviceKeysOf (h.atMost key hkey)
  rw [h.eq_out, h'.eq_out]
  exact ⟨hkeeps.deviceId, hkeeps.firstSeenMs, hkeeps.mac, hkeeps.displayName, hkeeps.status,
    hkeeps.mdnsHost, hservices⟩

namespace Server

open Library.Transition Request

/-- The devices that an answer shows. -/
def shownDevices : Answer → List DeviceOut
  | .devices devices => devices
  | .device device => [device]
  | .status _ | .alerts _ => []

section

variable {cfg : Config} {db : Db} {server : State} {i left : Nat} {h : Handling} {answer : Answer}

/-- One device comes from a path. -/
theorem run_of_program_device {call : Call} {seen : List Db} {device : DeviceOut}
    (hrun : (program cfg call).run seen = some (.device device)) :
    ∃ deviceId, (getDevice deviceId).run seen = some (some device) := by
  have hpath : ∀ deviceId, ((getDevice deviceId).andThen fun found =>
      .answer (detailAnswer found)).run seen = some (.device device) →
        (getDevice deviceId).run seen = some (some device) := by
    intro deviceId hpath
    obtain ⟨before, after, found, rfl, hfound, hanswer⟩ := Reading.run_andThen_eq_some.mp hpath
    obtain ⟨rfl, hsame⟩ := Reading.run_answer_eq_some.mp hanswer
    cases found with
    | none => exact absurd hsame (by simp [detailAnswer])
    | some device' =>
        rw [List.append_nil, ← Answer.device.inj hsame]
        exact hfound
  cases call with
  | ingest inp => exact absurd (Reading.run_answer_eq_some.mp hrun).2 (by simp)
  | approve deviceId displayName nowMs => exact ⟨deviceId, hpath deviceId hrun⟩
  | getDevice deviceId => exact ⟨deviceId, hpath deviceId hrun⟩
  | listDevices =>
      obtain ⟨before, after, found, -, -, hanswer⟩ := Reading.run_andThen_eq_some.mp hrun
      exact absurd (Reading.run_answer_eq_some.mp hanswer).2 (by simp)
  | listAlerts limit alertType =>
      obtain ⟨before, after, found, -, -, hanswer⟩ := Reading.run_andThen_eq_some.mp hrun
      exact absurd (Reading.run_answer_eq_some.mp hanswer).2 (by simp)

/-- Whatever an answer shows was a row between the request and the answer. -/
theorem Sound.shown (hsound : Sound cfg db server) (hanswered : server.Answered i h left answer)
    {device : DeviceOut} (hdevice : device ∈ shownDevices answer) :
    ∃ n ≤ left, ∃ row ∈ (stateAt cfg.rt db server.log n).devices,
      Shows (stateAt cfg.rt db server.log n) (stateAt cfg.rt db server.log left) device row := by
  cases answer with
  | devices devices =>
      obtain ⟨n, -, hle, hlisted⟩ := hsound.listed hanswered
      obtain ⟨row, hrow, hshows⟩ := hlisted.shown device hdevice
      exact ⟨n, hle, row, hrow, hshows⟩
  | device found =>
      obtain rfl := List.mem_singleton.mp hdevice
      obtain ⟨-, hrun⟩ := hsound.run_of_answered hanswered (by simp)
      obtain ⟨deviceId, hget⟩ := run_of_program_device hrun
      obtain ⟨first, hfirst, hrel⟩ := shows_of_getDevice (hsound.chain hanswered.1)
        (hsound.seen_later hanswered) hget
      obtain ⟨n, -, hle, rfl⟩ := hsound.seen hanswered first hfirst
      cases hrow : deviceRowOf (stateAt cfg.rt db server.log n) deviceId with
      | none =>
          rw [hrow] at hrel
          exact absurd hrel (by simp)
      | some row =>
          rw [hrow, Option.rel_some_some] at hrel
          exact ⟨n, hle, row, (deviceRowOf_eq_some hrow).1, hrel⟩
  | status response => exact absurd hdevice (by simp [shownDevices])
  | alerts alerts => exact absurd hdevice (by simp [shownDevices])

/-- A later lookup finds a device that was there, unless it fails. -/
theorem Sound.looked (hsound : Sound cfg db server) (hanswered : server.Answered i h left answer)
    {deviceId : Str} (hcall : h.call = .getDevice deviceId) {row : DeviceRow} {m : Nat}
    (hle : m ≤ h.entered) (hrow : row ∈ (stateAt cfg.rt db server.log m).devices)
    (hid : Uuid.ofText? deviceId = some row.deviceId) :
    answer.statusCode = 500 ∨ ∃ device n row', answer = .device device ∧ h.entered ≤ n ∧
      row.Keeps row' ∧
      Shows (stateAt cfg.rt db server.log n) (stateAt cfg.rt db server.log left) device row' := by
  obtain ⟨hhandling, hstage⟩ := hanswered
  cases (hsound.tracked i h hhandling).staged with
  | completed left' answer' hstage' hcommit hchecked hrun =>
      obtain ⟨rfl, rfl⟩ := Stage.answered.inj (hstage.symm.trans hstage')
      rw [hcall] at hrun
      obtain ⟨before, after, found, hseen, hfound, hanswer⟩ := Reading.run_andThen_eq_some.mp hrun
      obtain ⟨rfl, rfl⟩ := Reading.run_answer_eq_some.mp hanswer
      rw [List.append_nil] at hseen
      rw [← hseen] at hfound
      obtain ⟨first, hfirst, hrel⟩ := shows_of_getDevice (hsound.chain hhandling)
        (hsound.seen_later ⟨hhandling, hstage⟩) hfound
      obtain ⟨n, hentered, -, rfl⟩ := hsound.seen ⟨hhandling, hstage⟩ first hfirst
      have hlater := later_stateAt cfg.rt db server.log (hle.trans hentered)
      obtain ⟨row', hrow', hkeeps⟩ := hlater.keeps.devices row hrow
      -- the first statement reads a state that has the row, under the same identifier
      have hthere : deviceRowOf (stateAt cfg.rt db server.log n) deviceId = some row' :=
        deviceRowOf_eq_some_iff.mpr ⟨hrow', by rw [hid, hkeeps.deviceId]⟩
      rw [hthere] at hrel
      cases found with
      | none => exact absurd hrel (by simp)
      | some device =>
          rw [Option.rel_some_some] at hrel
          exact .inr ⟨device, n, row', rfl, hentered, hkeeps, hrel⟩
  | transaction hstage' => exact absurd (hstage.symm.trans hstage') (by simp)
  | reading rest hstage' => exact absurd (hstage.symm.trans hstage') (by simp)
  | rejected left' response hstage' hcommit hchecked =>
      -- a lookup needs no key and has no bounds to check
      rw [hcall] at hchecked
      exact absurd hchecked (by simp [checkRequest, Call.writes, Call.check])
  | refused left' response hstage' hcommit hchecked hattempt =>
      obtain ⟨plan, s, s', -, hresponse⟩ := hattempt
      rw [hcall] at hresponse
      obtain rfl := Option.some.inj (Prod.mk.inj hresponse).1
      obtain ⟨-, rfl⟩ := Stage.answered.inj (hstage.symm.trans hstage')
      exact .inl rfl
  | failed left' response hstage' hcommit hchecked hlook hcode =>
      obtain ⟨-, rfl⟩ := Stage.answered.inj (hstage.symm.trans hstage')
      exact .inl hcode

end

/-! ## Pages of alerts -/

/-- What a page of alerts says of a database: the newest ones that match, each once. -/
structure AlertPage (db : Db) (limit : Nat) (alertType : Option Str) (alerts : List AlertOut) :
    Prop where
  length : alerts.length = min limit (alertsOfText db alertType).length
  once : (alerts.map AlertOut.alertId).Nodup
  genuine : ∀ alert ∈ alerts, ∃ row ∈ alertsOfText db alertType, alert = row.out
  descending : alerts.Pairwise fun a b => b.observedAtMs ≤ a.observedAtMs
  newest : ∀ row ∈ alertsOfText db alertType, row.out ∈ alerts ∨
    alerts.length = limit ∧ ∀ shown ∈ alerts, row.observedAtMs ≤ shown.observedAtMs

theorem mem_alertsOfText {db : Db} {alertType : Option Str} {row : AlertRow} :
    row ∈ alertsOfText db alertType ↔
      row ∈ db.alerts ∧ ∀ text, truthy alertType = some text → row.alertType.text = text := by
  unfold alertsOfText
  cases truthy alertType with
  | none => simp
  | some text => simp

theorem alertsOfText_sublist (db : Db) (alertType : Option Str) :
    (alertsOfText db alertType).Sublist db.alerts := by
  unfold alertsOfText
  cases truthy alertType with
  | none => exact List.Sublist.refl _
  | some text => exact List.filter_sublist

theorem nodup_alertIds (db : Db) (alertType : Option Str) :
    ((alertsOfText db alertType).map AlertRow.alertId).Nodup :=
  db.constraints.alertKeys.sublist ((alertsOfText_sublist db alertType).map _)

theorem alertPage (order : OrderByDesc AlertRow.observedAtMs) (db : Db) (limit : Nat)
    (alertType : Option Str) :
    AlertPage db limit alertType
      ((order.limit limit (alertsOfText db alertType)).map AlertRow.out) where
  length := by
    rw [List.length_map, order.length_limit]
  once := by
    rw [List.map_map]
    show ((order.limit limit (alertsOfText db alertType)).map AlertRow.alertId).Nodup
    have hall := ((order.perm (alertsOfText db alertType)).map AlertRow.alertId).nodup_iff.mpr
      (nodup_alertIds db alertType)
    exact hall.sublist ((List.take_sublist limit _).map AlertRow.alertId)
  genuine := by
    intro alert halert
    obtain ⟨row, hrow, rfl⟩ := List.mem_map.mp halert
    exact ⟨row, order.mem_of_mem_limit hrow, rfl⟩
  descending := by
    rw [List.pairwise_map]
    exact order.pairwise_limit limit (alertsOfText db alertType)
  newest := by
    intro row hrow
    by_cases hshown : row ∈ order.limit limit (alertsOfText db alertType)
    · exact .inl (List.mem_map_of_mem hshown)
    · refine .inr ⟨?_, ?_⟩
      · -- a page with room left would show it
        rw [List.length_map]
        by_contra hne
        apply hshown
        apply order.mem_limit_of_length_lt hrow
        have hlength := order.length_limit limit (alertsOfText db alertType)
        omega
      · -- nor is it newer than one that is shown
        intro shown hmem
        obtain ⟨row', hrow', rfl⟩ := List.mem_map.mp hmem
        exact order.le_of_notMem_limit hrow hshown hrow'

/-- Only `list_alerts` answers with alerts. -/
theorem run_of_program_alerts {cfg : Config} {call : Call} {seen : List Db}
    {alerts : List AlertOut} (hrun : (program cfg call).run seen = some (.alerts alerts)) :
    ∃ limit alertType, call = .listAlerts limit alertType ∧
      (listAlerts cfg.alertOrder limit.toNat alertType).run seen = some alerts := by
  cases call with
  | listAlerts limit alertType =>
      obtain ⟨before, after, found, rfl, hlist, hanswer⟩ := Reading.run_andThen_eq_some.mp hrun
      obtain ⟨rfl, hsame⟩ := Reading.run_answer_eq_some.mp hanswer
      rw [List.append_nil, ← Answer.alerts.inj hsame]
      exact ⟨limit, alertType, rfl, hlist⟩
  | ingest inp => exact absurd (Reading.run_answer_eq_some.mp hrun).2 (by simp)
  | listDevices =>
      obtain ⟨before, after, found, -, -, hanswer⟩ := Reading.run_andThen_eq_some.mp hrun
      exact absurd (Reading.run_answer_eq_some.mp hanswer).2 (by simp)
  | approve deviceId displayName nowMs =>
      obtain ⟨before, after, found, -, -, hanswer⟩ := Reading.run_andThen_eq_some.mp hrun
      cases found <;>
        exact absurd (Reading.run_answer_eq_some.mp hanswer).2 (by simp [detailAnswer])
  | getDevice deviceId =>
      obtain ⟨before, after, found, -, -, hanswer⟩ := Reading.run_andThen_eq_some.mp hrun
      cases found <;>
        exact absurd (Reading.run_answer_eq_some.mp hanswer).2 (by simp [detailAnswer])

theorem limit_of_checkRequest {cfg : Config} {limit : Int} {alertType xApiKey : Option Str}
    (h : checkRequest cfg (.listAlerts limit alertType) xApiKey = .ok ()) :
    1 ≤ limit ∧ limit ≤ 500 := by
  by_contra hbounds
  have hout : limit < 1 ∨ 500 < limit := by omega
  exact absurd h (by simp [checkRequest, Call.writes, Call.check, hout])

/-- A page is that of one moment between the request and its answer. -/
theorem Sound.alertPage {cfg : Config} {db : Db} {server : State} {i left : Nat} {h : Handling}
    {alerts : List AlertOut} (hsound : Sound cfg db server)
    (hanswered : server.Answered i h left (.alerts alerts)) :
    ∃ limit alertType n, h.call = .listAlerts limit alertType ∧ 1 ≤ limit ∧ limit ≤ 500 ∧
      h.entered ≤ n ∧ n ≤ left ∧
      AlertPage (stateAt cfg.rt db server.log n) limit.toNat alertType alerts := by
  obtain ⟨hchecked, hrun⟩ := hsound.run_of_answered hanswered (by simp)
  obtain ⟨limit, alertType, hcall, hlist⟩ := run_of_program_alerts hrun
  rw [hcall] at hchecked
  obtain ⟨hlower, hupper⟩ := limit_of_checkRequest hchecked
  obtain ⟨s, hseen, rfl⟩ := Reading.run_read_eq_some.mp hlist
  have hs : s ∈ h.looks.map (stateAt cfg.rt db server.log) := by
    rw [hseen]
    exact List.mem_singleton_self s
  obtain ⟨n, hentered, hle, rfl⟩ := hsound.seen hanswered s hs
  exact ⟨limit, alertType, n, hcall, hlower, hupper, hentered, hle, Server.alertPage _ _ _ _⟩

/-! ## Reading again -/

/-- After the two events the devices are listed twice, and the alerts. -/
def rereadActions : List Action :=
  overlappingActions ++
    [.arrive 3 .listDevices none, .look 3, .look 3, .reply 3,
      .arrive 4 (.listAlerts 10 none) none, .look 4, .reply 4]

/-- The server that they lead to. -/
def rereadServer : State :=
  (exec (State.next openConfig) (.start Db.empty) rereadActions).getD (.start Db.empty)

theorem reread_run : Run (Step openConfig) (.start Db.empty) rereadActions rereadServer :=
  .of_exec_isSome (by decide +kernel)

theorem reread_answered :
    (∃ h devices, rereadServer.Answered 2 h 1 (.devices devices) ∧ h.entered = 1) ∧
      ∃ h devices, rereadServer.Answered 3 h 1 (.devices devices) ∧ h.entered = 1 :=
  ⟨listed_of_isAnswered (by decide +kernel), listed_of_isAnswered (by decide +kernel)⟩

/-- The answer is a page with one alert. -/
def isPage : Answer → Bool
  | .alerts alerts => alerts.length = 1
  | .status _ | .device _ | .devices _ => false

theorem reread_page :
    ∃ h alerts, rereadServer.Answered 4 h 1 (.alerts alerts) ∧ h.entered = 1 ∧
      alerts.length = 1 := by
  have hpage : (rereadServer.handling 4).any (Handling.isAnswered 1 1 isPage) = true := by
    decide +kernel
  obtain ⟨h, answer, hanswered, hentered, hlength⟩ := answered_of_isAnswered hpage
  cases answer with
  | alerts alerts => exact ⟨h, alerts, hanswered, hentered, of_decide_eq_true hlength⟩
  | _ => exact absurd hlength Bool.false_ne_true

/-! ## The results -/

/-- **Reads are monotone.**  What an answer shows, a list that is asked for afterwards
shows again, and so does a lookup of the device unless it fails. -/
theorem reads_are_monotone (cfg : Config) (db : Db) (actions : List Action) (server : State)
    (hrun : Run (Step cfg) (.start db) actions server) (i j : Nat) (h h' : Handling)
    (left left' : Nat) (answer answer' : Answer) (hanswered : server.Answered i h left answer)
    (hanswered' : server.Answered j h' left' answer') (hbefore : left ≤ h'.entered)
    (device : DeviceOut) (hdevice : device ∈ shownDevices answer) :
    (∀ devices, answer' = .devices devices → ∃ device' ∈ devices, device.Keeps device') ∧
      ∀ deviceId, h'.call = .getDevice deviceId → Uuid.ofText? deviceId = some device.deviceId →
        answer'.statusCode = 500 ∨ ∃ device', answer' = .device device' ∧ device.Keeps device' := by
  have hsound := sound_of_run hrun
  obtain ⟨n, hle, row, hrow, hshows⟩ := hsound.shown hanswered hdevice
  constructor
  · intro devices hsame
    rw [hsame] at hanswered'
    obtain ⟨n', hentered', -, hlisted⟩ := hsound.listed hanswered'
    have hrows := later_stateAt cfg.rt db server.log (show n ≤ n' by omega)
    obtain ⟨row', hrow', hkeeps⟩ := hrows.keeps.devices row hrow
    obtain ⟨device', hdevice', hshows'⟩ := hlisted.exists_device hrow'
    have hlater := later_stateAt cfg.rt db server.log (show left ≤ n' by omega)
    exact ⟨device', hdevice', keeps_of_shows hshows hshows' hlater hkeeps⟩
  · intro deviceId hcall hid
    rw [(shows_status hshows).2] at hid
    rcases hsound.looked hanswered' hcall (hle.trans hbefore) hrow hid with hfailed |
      ⟨device', n', row', hsame, hentered', hkeeps, hshows'⟩
    · exact .inl hfailed
    · have hlater := later_stateAt cfg.rt db server.log (show left ≤ n' by omega)
      exact .inr ⟨device', hsame, keeps_of_shows hshows hshows' hlater hkeeps⟩

/-- The second list shows what the first one does. -/
theorem reread_monotone :
    ∃ h h' devices devices', rereadServer.Answered 2 h 1 (.devices devices) ∧
      rereadServer.Answered 3 h' 1 (.devices devices') ∧
      ∀ device ∈ devices, ∃ device' ∈ devices', device.Keeps device' := by
  obtain ⟨⟨h, devices, hanswered, -⟩, h', devices', hanswered', hentered⟩ := reread_answered
  refine ⟨h, h', devices, devices', hanswered, hanswered', fun device hdevice => ?_⟩
  exact (reads_are_monotone openConfig Db.empty rereadActions rereadServer reread_run 2 3 h h' 1 1
    _ _ hanswered hanswered' hentered.ge device hdevice).1 devices' rfl

/-- **Pages of alerts are current.**  A page is the newest of what matched at one moment
between the request and its answer, and an alert that an earlier answer shows is on it
unless it is full of alerts that are not older. -/
theorem alerts_are_current (cfg : Config) (db : Db) (actions : List Action) (server : State)
    (hrun : Run (Step cfg) (.start db) actions server) (i : Nat) (h : Handling) (left : Nat)
    (alerts : List AlertOut) (hanswered : server.Answered i h left (.alerts alerts)) :
    ∃ limit alertType n, h.call = .listAlerts limit alertType ∧ 1 ≤ limit ∧ limit ≤ 500 ∧
      h.entered ≤ n ∧ n ≤ left ∧
      AlertPage (stateAt cfg.rt db server.log n) limit.toNat alertType alerts ∧
      ∀ j h' left' earlier, server.Answered j h' left' (.alerts earlier) → left' ≤ h.entered →
        ∀ alert ∈ earlier, (∀ text, truthy alertType = some text → alert.alertType = text) →
          alert ∈ alerts ∨ alerts.length = limit.toNat ∧
            ∀ shown ∈ alerts, alert.observedAtMs ≤ shown.observedAtMs := by
  have hsound := sound_of_run hrun
  obtain ⟨limit, alertType, n, hcall, hlower, hupper, hentered, hle, hpage⟩ :=
    hsound.alertPage hanswered
  refine ⟨limit, alertType, n, hcall, hlower, hupper, hentered, hle, hpage, ?_⟩
  intro j h' left' earlier hanswered' hbefore alert halert htype
  obtain ⟨limit', alertType', n', -, -, -, -, hle', hpage'⟩ := hsound.alertPage hanswered'
  obtain ⟨row, hrow, rfl⟩ := hpage'.genuine alert halert
  have hlater := later_stateAt cfg.rt db server.log (show n' ≤ n by omega)
  have hthere := hlater.keeps.alerts.subset (mem_alertsOfText.mp hrow).1
  exact hpage.newest row (mem_alertsOfText.mpr ⟨hthere, htype⟩)

/-- The page after the two events has the alert of the first one. -/
theorem reread_current :
    ∃ limit alertType alerts, alerts.length = 1 ∧
      AlertPage (stateAt sampleRuntime Db.empty rereadServer.log 1) limit alertType alerts := by
  obtain ⟨h, alerts, hanswered, hentered, hlength⟩ := reread_page
  obtain ⟨limit, alertType, n, -, -, -, hge, hle, hpage, -⟩ := alerts_are_current openConfig
    Db.empty rereadActions rereadServer reread_run 4 h 1 alerts hanswered
  obtain rfl : n = 1 := by omega
  exact ⟨limit.toNat, alertType, alerts, hlength, hpage⟩

end Server
end Api
end LanDiscovery

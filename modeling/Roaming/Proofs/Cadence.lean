import Roaming.Proofs.Dispatch
import Roaming.Proofs.Pending
import Roaming.Proofs.Refusal
import Roaming.Proofs.Transmission

namespace Roaming

/-! The pace at which a station repeats a request that nobody answers. -/

/-- What a station asks for until it is answered. -/
inductive Appeal
  | probe
  | join
deriving DecidableEq

namespace Appeal

def timeout : Appeal → Timeout
  | .probe => .probeRequest
  | .join => .assocRequest

private theorem timeout_ne (appeal : Appeal) :
    appeal.timeout ≠ .beaconWatchdog := by
  cases appeal <;> exact nofun

def patience (config : Config) : Appeal → Duration
  | .probe => config.probeTimeout
  | .join => config.assocTimeout

/-- When an appeal is repeated for so many times that was made first at some time. -/
def beat (appeal : Appeal) (config : Config) (sent : Time) (count : Nat) :
    Time :=
  sent.after ((appeal.patience config).scale count)

def isMadeBy (frame : OutgoingFrame) : Appeal → Bool
  | .probe => frame.header.kind == .probeRequest
  | .join => frame.asks

@[simp] theorem isMadeBy_probeRequest (appeal : Appeal) (own : MacAddr)
    (ssid : Ssid) (config : Config) :
    appeal.isMadeBy (.probeRequest own ssid config) =
      decide (appeal = .probe) := by
  cases appeal <;> rfl

@[simp] theorem isMadeBy_assocRequest (appeal : Appeal) (own bssid : MacAddr)
    (ssid : Ssid) (config : Config) (reassociation : Bool) :
    appeal.isMadeBy (.assocRequest own bssid ssid config reassociation) =
      decide (appeal = .join) := by
  cases appeal <;> cases reassociation <;> rfl

@[simp] theorem isMadeBy_data (appeal : Appeal) (own bssid destination : MacAddr)
    (payload : Payload) (qos : Bool) (tid : UInt8) :
    appeal.isMadeBy (.data own bssid destination payload qos tid) = false := by
  cases appeal <;> cases qos <;> rfl

/-- The requests that make an appeal. -/
def made (appeal : Appeal) (requests : List Request) : List OutgoingFrame :=
  (requests.filterMap Request.frame?).filter appeal.isMadeBy

variable (appeal : Appeal)

@[simp] theorem made_nil : appeal.made [] = [] := rfl

@[simp] theorem made_append (requests others : List Request) :
    appeal.made (requests ++ others) =
      appeal.made requests ++ appeal.made others := by
  simp [made]

@[simp] theorem made_transmit (frame : OutgoingFrame) :
    appeal.made [.transmit frame] =
      if appeal.isMadeBy frame then [frame] else [] := by
  simp [made, Request.frame?, List.filter_singleton]

@[simp] theorem made_forwardUp (source destination : MacAddr)
    (payload : Payload) :
    appeal.made [.forwardUp source destination payload] = [] := rfl

@[simp] theorem made_toParent (frame : Frame) :
    appeal.made [.toParent frame] = [] := rfl

@[simp] theorem made_farewell (turn : Turn) (own : MacAddr) :
    appeal.made (turn.farewell own) = [] := by
  unfold Turn.farewell
  split
  · cases appeal <;> rfl
  · rfl

end Appeal

/-- When a timeout falls due, if it runs. -/
def Timeouts.deadline? (timeouts : Timeouts) (kind : Timeout) : Option Time :=
  (timeouts.armed? kind).map Armed.deadline

/-- An appeal is made once, and the station waits for as long as that takes; or it is not made, and
at most the station goes on waiting. -/
inductive Pacing (appeal : Appeal) (before : System)
    (requests : List Request) (after : Timeouts) : Prop
  | made (hmade : (appeal.made requests).length = 1)
      (hdeadline : after.deadline? appeal.timeout =
        some (before.clock.now.after
          (appeal.patience before.station.config)))
  | quiet (hquiet : appeal.made requests = [])
      (hkept : ∀ armed, after.armed? appeal.timeout = some armed →
        before.station.timeouts.armed? appeal.timeout = some armed)

def Turn.Paces (turn : Turn) (appeal : Appeal) (before : System) : Prop :=
  Pacing appeal before turn.requests turn.station.timeouts

/-- A turn that has not made an appeal so far. -/
structure Turn.Calm (turn : Turn) (appeal : Appeal) (system : System) :
    Prop where
  requests : appeal.made turn.requests = []
  now : turn.clock.now = system.clock.now
  config : turn.station.config = system.station.config
  kept : ∀ armed,
    turn.station.timeouts.armed? appeal.timeout = some armed →
    system.station.timeouts.armed? appeal.timeout = some armed

namespace Turn.Calm

variable {appeal : Appeal} {system : System} {turn : Turn}

private theorem opening (appeal : Appeal) (system : System) (operation : Operation) :
    (system.opening operation).Calm appeal system where
  requests := rfl
  now := rfl
  config := by simp
  kept armed harmed := by
    cases operation with
    | timeout id =>
        rw [System.station_opening, Station.prepare_timeout,
          Timeouts.armed?_take] at harmed
        split at harmed
        · cases harmed
        · exact harmed
    | setAddress | register | ensureAssociated | receive | send
    | capabilitiesChanged | setActiveProbing | setSsid => exact harmed

private theorem paces (hcalm : turn.Calm appeal system) : turn.Paces appeal system :=
  .quiet hcalm.requests hcalm.kept

private theorem probe (hcalm : turn.Calm appeal system) (own : MacAddr) :
    (turn.probe own).Paces appeal system := by
  cases appeal with
  | probe =>
      refine .made (by simp [hcalm.requests]) ?_
      simp [Timeouts.deadline?, Appeal.timeout, Appeal.patience, hcalm.now,
        hcalm.config]
  | join =>
      refine .quiet (by simp [hcalm.requests]) fun armed harmed => ?_
      exact hcalm.kept armed (by simpa [Appeal.timeout] using harmed)

private theorem join (hcalm : turn.Calm appeal system) (own : MacAddr)
    (attempt : Attempt) : (turn.join own attempt).Paces appeal system := by
  cases appeal with
  | probe =>
      refine .quiet (by simp [hcalm.requests]) fun armed harmed => ?_
      exact hcalm.kept armed (by simpa [Appeal.timeout] using harmed)
  | join =>
      refine .made (by simp [hcalm.requests]) ?_
      simp [Timeouts.deadline?, Appeal.timeout, Appeal.patience, hcalm.now,
        hcalm.config]

private theorem search (hcalm : turn.Calm appeal system) (own : MacAddr) :
    (turn.search own).Paces appeal system := by
  have hreported : (turn.reportDown own).Calm appeal system :=
    ⟨by simp [hcalm.requests], by simp [hcalm.now], by simp [hcalm.config],
      by simpa using hcalm.kept⟩
  unfold Turn.search
  split
  · exact hreported.probe own
  · exact hreported.paces

private theorem loseNetwork (hcalm : turn.Calm appeal system) (own : MacAddr) :
    (turn.loseNetwork own).Paces appeal system := by
  rw [loseNetwork_eq]
  refine search ⟨?_, ?_, ?_, ?_⟩ own
  · simp [hcalm.requests]
  · simp [hcalm.now]
  · simp [hcalm.config]
  · simpa using hcalm.kept

private theorem stop (hcalm : turn.Calm appeal system) (kind : Timeout) :
    (turn.stop kind).Calm appeal system where
  requests := by simp [hcalm.requests]
  now := by simp [hcalm.now]
  config := by simp [hcalm.config]
  kept armed harmed := by
    rw [Turn.station_stop, Timeouts.armed?_cancel] at harmed
    split at harmed
    · cases harmed
    · exact hcalm.kept armed harmed

private theorem consult (hcalm : turn.Calm appeal system) (own : MacAddr)
    (decision : Decision) (frame : Frame) :
    (turn.consult own decision frame).2.Calm appeal system where
  requests := by simp [hcalm.requests]
  now := by simp [hcalm.now]
  config := by simp [hcalm.config]
  kept := by simpa using hcalm.kept

end Turn.Calm

private theorem Reaction.paces {system : System} {decision : Decision}
    {operation : Operation} {turn : Turn}
    (hreaction : Reaction system decision operation turn) (appeal : Appeal) :
    turn.Paces appeal system := by
  have hopening := Turn.Calm.opening appeal system operation
  cases hreaction with
  | rested | outlived => exact hopening.paces
  | dropped | declined | forwarded | relayed | sent | unsent =>
      exact .quiet (by simp) (by simp)
  | followed =>
      exact .quiet (by simp) (by simp [appeal.timeout_ne])
  | joined =>
      refine Turn.Calm.join (.stop ⟨?_, ?_, ?_, ?_⟩ _) _ _
      · simp
      · simp
      · simp
      · simp [appeal.timeout_ne]
  | @answered own frame =>
      have hfollowed :
          ((system.opening (.receive frame)).followResponse frame).Calm appeal
            system :=
        ⟨by simp, by simp, by simp, by simp [appeal.timeout_ne]⟩
      exact ((hfollowed.stop _).consult own decision frame).join ..
  | granted =>
      exact .quiet (by simp) (by simp)
  | denied | silenced => exact (hopening.stop _).paces
  | rejoined | reassociated => exact hopening.join ..
  | reprobed => exact hopening.probe ..
  | rearmed =>
      refine .quiet (by simp) fun armed harmed => hopening.kept armed ?_
      simpa [appeal.timeout_ne] using harmed
  | expired => exact ((hopening.stop _).stop _).loseNetwork _
  | released => exact hopening.loseNetwork _
  | searched => exact hopening.search _
  | soughtUnsent =>
      refine Turn.Calm.search ?_ _
      exact ⟨rfl, rfl, hopening.config, hopening.kept⟩

namespace Moment

/-- The frames that a moment sends, and when. -/
def timed (moment : Moment) : List (Time × OutgoingFrame) :=
  moment.sent.map fun frame => (moment.opened.clock.now, frame)

private theorem paces (moment : Moment) (appeal : Appeal) :
    Pacing appeal moment.opened moment.outcome.requests
      moment.after.station.timeouts := by
  cases moment.course with
  | idle _ hafter heffects =>
      refine .quiet ?_ fun armed harmed => ?_
      · simp [Outcome.requests, heffects]
      · rw [hafter] at harmed
        exact harmed
  | reacted _ hreaction hstation _ heffects =>
      rw [hstation, Outcome.requests_of_parting heffects]
      exact hreaction.paces appeal

end Moment

def transmissions (history : List Moment) : List (Time × OutgoingFrame) :=
  history.flatMap Moment.timed

private theorem transmissions_concat (history : List Moment) (moment : Moment) :
    transmissions (history ++ [moment]) =
      transmissions history ++ moment.timed := by
  simp [transmissions]

namespace Appeal

variable (appeal : Appeal)

/-- When an appeal was made last, and by which frame. -/
def last? (history : List Moment) : Option (Time × OutgoingFrame) :=
  ((transmissions history).filter fun sent => appeal.isMadeBy sent.2).getLast?

private theorem last?_concat (history : List Moment) (moment : Moment) :
    appeal.last? (history ++ [moment]) =
      ((appeal.made moment.outcome.requests).getLast?.map fun frame =>
        (moment.opened.clock.now, frame)).or (appeal.last? history) := by
  rw [last?, transmissions_concat, List.filter_append, List.getLast?_append]
  congr 1
  rw [Moment.timed, List.filter_map, List.getLast?_map]
  rfl

/-- Whoever waits for an answer has waited since the appeal was made last. -/
def Paced (history : List Moment) (station : Station) : Prop :=
  ∀ deadline, station.timeouts.deadline? appeal.timeout = some deadline →
    ∃ sent frame, appeal.last? history = some (sent, frame) ∧
      deadline = sent.after (appeal.patience station.config)

private theorem paced_concat {history : List Moment} {moment : Moment}
    (hpaced : appeal.Paced history moment.before.station) :
    appeal.Paced (history ++ [moment]) moment.after.station := by
  intro deadline hdeadline
  rw [last?_concat, moment.config_after]
  cases moment.paces appeal with
  | made hmade hstarted =>
      obtain ⟨frame, hframe⟩ := List.length_eq_one_iff.mp hmade
      rw [hframe]
      exact ⟨_, frame, rfl,
        Option.some.inj (hdeadline.symm.trans hstarted)⟩
  | quiet hquiet hkept =>
      rw [hquiet]
      obtain ⟨armed, harmed, rfl⟩ := Option.map_eq_some_iff.mp hdeadline
      exact hpaced _ (Option.map_eq_some_iff.mpr
        ⟨armed, hkept armed harmed, rfl⟩)

theorem paced_run (config : Config) (moves : List Move) :
    appeal.Paced ((System.ofConfig config).history moves)
      ((System.ofConfig config).run moves).station := by
  refine System.run_induction (motive := fun history system =>
    appeal.Paced history system.station) ?_ ?_ moves
  · intro deadline hdeadline
    cases appeal <;> cases hdeadline
  · intro history system move hbefore
    exact appeal.paced_concat hbefore

end Appeal

/-- A station that waits for the answer to an appeal, with the request that it would repeat. -/
inductive Station.Pleads (station : Station) : Appeal → OutgoingFrame → Prop
  | probe {own : MacAddr} (haddress : station.address = some own)
      (hphase : station.phase = .probing) :
      Pleads station .probe
        (.probeRequest own station.ssid station.config)
  | join {own : MacAddr} {attempt : Attempt}
      (haddress : station.address = some own)
      (hphase : station.phase = .joining attempt) :
      Pleads station .join (.assocRequest own attempt.target station.ssid
        station.config attempt.reassociation)

/-- What comes of an event for a station that waits for an answer: its own timeout has the request
repeated, and any other event leaves that timeout alone. -/
structure Turn.Repeats (turn : Turn) (system : System) (id : EventId)
    (appeal : Appeal) (request : OutgoingFrame) : Prop where
  station : turn.station =
    { system.station with timeouts := turn.station.timeouts }
  coverage :
    turn.station.timeouts.coverage = system.station.timeouts.coverage
  watchdog : turn.station.timeouts.isRunning .beaconWatchdog = true →
    system.station.timeouts.isRunning .beaconWatchdog = true
  course :
    (system.station.timeouts.take id).1 = some appeal.timeout ∧
      turn.requests = [.transmit request] ∧
      turn.station.timeouts.deadline? appeal.timeout = some
        (system.clock.now.after (appeal.patience system.station.config)) ∨
    (system.station.timeouts.take id).1 ≠ some appeal.timeout ∧
      turn.requests = [] ∧
      turn.station.timeouts.deadline? appeal.timeout =
        system.station.timeouts.deadline? appeal.timeout

section Repeats

variable {system : System} {id : EventId} {appeal : Appeal}
  {request : OutgoingFrame}

private theorem Timeouts.deadline?_take {timeouts : Timeouts} {kind : Timeout}
    (hother : (timeouts.take id).1 ≠ some kind) :
    (timeouts.take id).2.deadline? kind = timeouts.deadline? kind := by
  rw [deadline?, armed?_take, if_neg hother]
  rfl

private theorem System.repeats_opening
    (hother : (system.station.timeouts.take id).1 ≠ some appeal.timeout) :
    (system.opening (.timeout id)).Repeats system id appeal request where
  station := rfl
  coverage := Timeouts.coverage_take ..
  watchdog := Timeouts.isRunning_of_isRunning_take _
  course := .inr ⟨hother, rfl, Timeouts.deadline?_take hother⟩

private theorem Station.Pleads.ne_of_outlives {station : Station} {kind : Timeout}
    (hpleads : station.Pleads appeal request)
    (houtlives : station.Outlives kind) : kind ≠ appeal.timeout := by
  rintro rfl
  cases hpleads with
  | probe haddress hphase =>
      rcases houtlives with hnone | hother
      · cases haddress.symm.trans hnone
      · exact hother hphase
  | join haddress hphase =>
      rcases houtlives with hnone | hother
      · cases haddress.symm.trans hnone
      · exact hother _ hphase

private theorem Reaction.repeats {decision : Decision} {turn : Turn}
    (hreaction : Reaction system decision (.timeout id) turn)
    (hpleads : system.station.Pleads appeal request)
    (hcovered : (system.station.timeouts.take id).1 = some .beaconWatchdog →
      system.clock.now < system.station.timeouts.coverage) :
    turn.Repeats system id appeal request := by
  cases hreaction with
  | rested hstale =>
      refine System.repeats_opening ?_
      rw [show (system.station.timeouts.take id).1 = none from hstale]
      exact nofun
  | outlived htake houtlives =>
      refine System.repeats_opening fun hown => ?_
      exact hpleads.ne_of_outlives houtlives
        (Option.some.inj (htake.symm.trans hown))
  | reprobed haddress htake hphase =>
      cases hpleads with
      | probe hown =>
          obtain rfl := Option.some.inj (haddress.symm.trans hown)
          refine ⟨rfl, by simp, fun hrunning => ?_, .inl ⟨htake, by simp, ?_⟩⟩
          · exact Timeouts.isRunning_of_isRunning_take _
              (by simpa using hrunning)
          · simp [Timeouts.deadline?, Appeal.timeout, Appeal.patience]
      | join _ hother => cases hphase.symm.trans hother
  | rejoined haddress htake hphase =>
      cases hpleads with
      | probe _ hother => cases hphase.symm.trans hother
      | join hown hother =>
          obtain rfl := Option.some.inj (haddress.symm.trans hown)
          obtain rfl := Phase.joining.inj (hphase.symm.trans hother)
          refine ⟨by simp [hphase], by simp, fun hrunning => ?_,
            .inl ⟨htake, by simp, ?_⟩⟩
          · exact Timeouts.isRunning_of_isRunning_take _
              (by simpa using hrunning)
          · simp [Timeouts.deadline?, Appeal.timeout, Appeal.patience]
  | rearmed _ htake =>
      have hother :
          (system.station.timeouts.take id).1 ≠ some appeal.timeout := by
        rw [htake]
        exact fun hsame => appeal.timeout_ne (Option.some.inj hsame).symm
      refine ⟨rfl, by simp, fun _ => Timeouts.isRunning_of_take _ htake,
        .inr ⟨hother, by simp, ?_⟩⟩
      simp [Timeouts.deadline?, Timeouts.armed?_take, hother,
        appeal.timeout_ne]
  | expired _ htake _ hended =>
      exact absurd (hcovered htake) (Time.not_lt.mpr hended)
  | searched _ hoperation => simp at hoperation

end Repeats

namespace System

/-- A run has led to the system in which nobody kept an event from the station. -/
def PromptlyReached (config : Config) (system : System) : Prop :=
  ∃ moves, (ofConfig config).run moves = system ∧
    ∀ moment ∈ (ofConfig config).history moves, moment.Prompt

namespace PromptlyReached

variable {config : Config} {system : System}

private theorem reached (hreached : PromptlyReached config system) :
    Reached config system := by
  obtain ⟨moves, hmoves, _⟩ := hreached
  exact ⟨moves, hmoves⟩

private theorem tracked (hreached : PromptlyReached config system) :
    system.station.timeouts.Tracked system.clock := by
  obtain ⟨moves, rfl, hprompt⟩ := hreached
  exact tracked_run config moves hprompt

private theorem advance (hreached : PromptlyReached config system) (bound : Time) :
    PromptlyReached config (Moment.after ⟨system, .advance bound⟩) := by
  obtain ⟨moves, rfl, hprompt⟩ := hreached
  refine ⟨moves ++ [.advance bound], run_concat .., fun moment hmoment => ?_⟩
  rw [history_concat] at hmoment
  rcases List.mem_append.mp hmoment with hmoment | hlast
  · exact hprompt moment hmoment
  · rw [List.mem_singleton.mp hlast]
    trivial

end PromptlyReached

end System

private theorem Appeal.beat_succ (appeal : Appeal) (config : Config) (sent : Time)
    (count : Nat) :
    (appeal.beat config sent count).after (appeal.patience config) =
      appeal.beat config sent (count + 1) := by
  apply Time.ext
  simp only [beat, Time.nanos_after, Duration.nanos_scale, Nat.mul_succ]
  omega

private theorem Appeal.beat_one (appeal : Appeal) (config : Config) (sent : Time) :
    appeal.beat config sent 1 = sent.after (appeal.patience config) := by
  rw [beat, Duration.scale, Nat.mul_one]

/-- As many delays fit in before a time as have gone by, if not one more has. -/
private theorem Appeal.div_eq_of_elapsed {appeal : Appeal} {config : Config}
    {sent bound : Time} {count : Nat} (hbound : bound < .last)
    (helapsed : 0 < count → appeal.beat config sent count ≤ bound)
    (hnext : bound < appeal.beat config sent (count + 1)) :
    (bound.nanos - sent.nanos) / (appeal.patience config).nanos = count := by
  have hlimit : bound.nanos < Time.limit := hbound
  rw [beat, Time.lt_def, Time.nanos_after, Duration.nanos_scale,
    Nat.mul_succ] at hnext
  cases count with
  | zero =>
      by_cases hnone : (appeal.patience config).nanos = 0
      · rw [hnone, Nat.div_zero]
      · refine Nat.div_eq_of_lt ?_
        omega
  | succ count =>
      have hpast := helapsed (Nat.succ_pos count)
      rw [beat, Time.le_def, Time.nanos_after, Duration.nanos_scale] at hpast
      refine Nat.div_eq_of_lt_le ?_ ?_
      · rw [Nat.mul_comm]
        omega
      · rw [Nat.mul_comm, Nat.mul_succ]
        omega

private theorem Station.Pleads.withTimeouts {station : Station} {appeal : Appeal}
    {request : OutgoingFrame} (hpleads : station.Pleads appeal request)
    (timeouts : Timeouts) :
    Station.Pleads { station with timeouts := timeouts } appeal request := by
  cases hpleads with
  | probe haddress hphase => exact .probe haddress hphase
  | join haddress hphase => exact .join haddress hphase

/-- What a release comes to for a station that waits for an answer. -/
structure Moment.Repeats (moment : Moment) (appeal : Appeal)
    (request : OutgoingFrame) : Prop where
  station : moment.after.station =
    { moment.before.station with timeouts := moment.after.station.timeouts }
  now : moment.after.clock.now = moment.opened.clock.now
  coverage : moment.after.station.timeouts.coverage =
    moment.before.station.timeouts.coverage
  watchdog :
    moment.after.station.timeouts.isRunning .beaconWatchdog = true →
      moment.before.station.timeouts.isRunning .beaconWatchdog = true
  course :
    moment.before.station.timeouts.deadline? appeal.timeout =
        some moment.opened.clock.now ∧
      moment.timed = [(moment.opened.clock.now, request)] ∧
      moment.after.station.timeouts.deadline? appeal.timeout = some
        (moment.opened.clock.now.after
          (appeal.patience moment.before.station.config)) ∨
    moment.timed = [] ∧
      moment.after.station.timeouts.deadline? appeal.timeout =
        moment.before.station.timeouts.deadline? appeal.timeout

private theorem System.PromptlyReached.repeats {config : Config} {system : System}
    {appeal : Appeal} {request : OutgoingFrame} {bound : Time} {id : EventId}
    (hreached : PromptlyReached config system)
    (hpleads : system.station.Pleads appeal request)
    (hcovered : system.station.timeouts.isRunning .beaconWatchdog = true →
      bound < system.station.timeouts.coverage)
    (hreleased : (system.clock.advanceUntil bound).1 = some id) :
    Moment.Repeats ⟨system, .advance bound⟩ appeal request := by
  let moment : Moment := ⟨system, .advance bound⟩
  have htold : moment.operation? = some (.timeout id) := by
    simp [moment, Moment.operation?, Move.operation?, hreleased]
  cases moment.course with
  | idle hoperation => cases hoperation.symm.trans htold
  | @reacted operation turn hoperation hreaction hstation hclock heffects =>
      obtain rfl := Option.some.inj (hoperation.symm.trans htold)
      have hrepeats : turn.Repeats moment.opened id appeal request := by
        refine hreaction.repeats hpleads fun htake => ?_
        obtain ⟨_, hpassed, _⟩ := hreached.reached.tallied.release hreleased
        exact Nat.lt_of_le_of_lt hpassed
          (hcovered (Timeouts.isRunning_of_take _ htake))
      have hafter : moment.after.station = turn.station := by
        have hlasting : turn.station.isAssociated =
            moment.before.station.isAssociated := by
          rw [hrepeats.station]
          rfl
        rw [hstation, Turn.settledAp_of_lasting hlasting]
      have htimed : moment.timed = (turn.requests.filterMap
          Request.frame?).map fun frame =>
            (moment.opened.clock.now, frame) := by
        rw [Moment.timed, Moment.sent, Outcome.requests_of_parting heffects]
      refine ⟨?_, ?_, ?_, ?_, ?_⟩
      · rw [hafter]
        exact hrepeats.station
      · rw [hclock]
        exact (Timeouts.now_kept _).reaction rfl hreaction
      · rw [hafter]
        exact hrepeats.coverage
      · rw [hafter]
        exact hrepeats.watchdog
      · rw [hafter]
        rcases hrepeats.course with ⟨htake, hrequests, hdeadline⟩ |
          ⟨_, hrequests, hdeadline⟩
        · obtain ⟨⟨deadline, harmed⟩, _⟩ := Timeouts.take_some _ htake
          -- The clock stands where the timeout was due, so that nothing is lost on the way.
          have hdue : moment.opened.clock.now = deadline :=
            hreached.reached.tallied.now_released hreleased
              (hreached.tracked.pending _ _ harmed)
          refine .inl ⟨?_, ?_, hdeadline⟩
          · rw [hdue]
            exact congrArg (Option.map Armed.deadline) harmed
          · rw [htimed, hrequests]
            rfl
        · refine .inr ⟨?_, hdeadline⟩
          rw [htimed, hrequests]
          rfl

/-- Where a station stands that has repeated a request so many times since it was sent, with nobody
to answer it. -/
structure Cadence (start : System) (appeal : Appeal) (sent bound : Time)
    (count : Nat) (system : System) : Prop where
  station : system.station =
    { start.station with timeouts := system.station.timeouts }
  now : system.clock.now ≤ bound
  coverage :
    system.station.timeouts.coverage = start.station.timeouts.coverage
  watchdog : system.station.timeouts.isRunning .beaconWatchdog = true →
    start.station.timeouts.isRunning .beaconWatchdog = true
  deadline : system.station.timeouts.deadline? appeal.timeout =
    some (appeal.beat start.station.config sent (count + 1))
  elapsed : 0 < count → appeal.beat start.station.config sent count ≤ bound

namespace Cadence

variable {config : Config} {start system : System} {appeal : Appeal}
  {request : OutgoingFrame} {sent bound limit : Time} {count : Nat}

private theorem step_idle (hcadence : Cadence start appeal sent bound count system)
    (hlimit : limit ≤ bound) (hidle : (system.clock.advanceUntil limit).1 = none) :
    let moment : Moment := ⟨system, .advance limit⟩
    Cadence start appeal sent bound count moment.after ∧
      moment.timed = [] := by
  intro moment
  have hnow : (system.clock.advanceUntil limit).2.now ≤ bound := by
    rw [(Clock.rests_of_idle hidle).1]
    exact Time.max_le hlimit hcadence.now
  cases moment.course with
  | idle _ hafter heffects =>
      refine ⟨?_, ?_⟩
      · rw [hafter]
        exact { hcadence with now := hnow }
      · simp [Moment.timed, Moment.sent, Outcome.requests, heffects]
  | reacted hoperation =>
      simp [moment, Moment.operation?, Move.operation?, hidle] at hoperation

private theorem step_released (hcadence : Cadence start appeal sent bound count system)
    (hreached : System.PromptlyReached config system) (hlimit : limit ≤ bound)
    (hpleads : start.station.Pleads appeal request)
    (hcovered : start.station.timeouts.isRunning .beaconWatchdog = true →
      bound < start.station.timeouts.coverage) {id : EventId}
    (hreleased : (system.clock.advanceUntil limit).1 = some id) :
    let moment : Moment := ⟨system, .advance limit⟩
    Cadence start appeal sent bound count moment.after ∧ moment.timed = [] ∨
    Cadence start appeal sent bound (count + 1) moment.after ∧
      moment.timed =
        [(appeal.beat start.station.config sent (count + 1), request)] := by
  intro moment
  obtain ⟨_, hpassed, _⟩ := hreached.reached.tallied.release hreleased
  have hnow : moment.opened.clock.now ≤ bound := Nat.le_trans hpassed hlimit
  have hwaits : system.station.Pleads appeal request := by
    rw [hcadence.station]
    exact hpleads.withTimeouts _
  have hrepeats : moment.Repeats appeal request := by
    refine hreached.repeats hwaits (fun hrunning => ?_) hreleased
    rw [hcadence.coverage]
    exact Nat.lt_of_le_of_lt hlimit (hcovered (hcadence.watchdog hrunning))
  have hstation : moment.after.station =
      { start.station with timeouts := moment.after.station.timeouts } := by
    rw [hrepeats.station, hcadence.station]
  have hlater : moment.after.clock.now ≤ bound := by
    rw [hrepeats.now]
    exact hnow
  have hcoverage := hrepeats.coverage.trans hcadence.coverage
  have hwatchdog := hcadence.watchdog ∘ hrepeats.watchdog
  have hconfig : system.station.config = start.station.config := by
    rw [hcadence.station]
  rcases hrepeats.course with ⟨hdue, htimed, hdeadline⟩ | ⟨htimed, hdeadline⟩
  · have hbeat : moment.opened.clock.now =
        appeal.beat start.station.config sent (count + 1) :=
      Option.some.inj (hdue.symm.trans hcadence.deadline)
    refine .inr ⟨⟨hstation, hlater, hcoverage, hwatchdog, ?_, ?_⟩, ?_⟩
    · rw [hdeadline, hconfig, hbeat, Appeal.beat_succ]
    · intro _
      rw [← hbeat]
      exact hnow
    · rw [htimed, hbeat]
  · exact .inl ⟨⟨hstation, hlater, hcoverage, hwatchdog,
      hdeadline.trans hcadence.deadline, hcadence.elapsed⟩, htimed⟩

private theorem step (hcadence : Cadence start appeal sent bound count system)
    (hreached : System.PromptlyReached config system) (hlimit : limit ≤ bound)
    (hpleads : start.station.Pleads appeal request)
    (hcovered : start.station.timeouts.isRunning .beaconWatchdog = true →
      bound < start.station.timeouts.coverage) :
    let moment : Moment := ⟨system, .advance limit⟩
    Cadence start appeal sent bound count moment.after ∧ moment.timed = [] ∨
    Cadence start appeal sent bound (count + 1) moment.after ∧
      moment.timed =
        [(appeal.beat start.station.config sent (count + 1), request)] := by
  cases hreleased : (system.clock.advanceUntil limit).1 with
  | none => exact .inl (hcadence.step_idle hlimit hreleased)
  | some id =>
      exact hcadence.step_released hreached hlimit hpleads hcovered hreleased

private theorem zero (hnow : start.clock.now ≤ bound)
    (hdeadline : start.station.timeouts.deadline? appeal.timeout =
      some (sent.after (appeal.patience start.station.config))) :
    Cadence start appeal sent bound 0 start where
  station := rfl
  now := hnow
  coverage := rfl
  watchdog := id
  deadline := by
    rw [hdeadline, Appeal.beat_one]
  elapsed hsome := absurd hsome (Nat.lt_irrefl 0)

theorem run (hreached : System.PromptlyReached config start)
    (hpleads : start.station.Pleads appeal request)
    (hcovered : start.station.timeouts.isRunning .beaconWatchdog = true →
      bound < start.station.timeouts.coverage)
    (hstart : Cadence start appeal sent bound 0 start) {later : List Move}
    (hlater : ∀ move ∈ later, ∃ limit, limit ≤ bound ∧ move = .advance limit) :
    System.PromptlyReached config (start.run later) ∧
      ∃ count, Cadence start appeal sent bound count (start.run later) ∧
        transmissions (start.history later) = (List.range count).map fun k =>
          (appeal.beat start.station.config sent (k + 1), request) := by
  refine System.run_induction_of (motive := fun history system =>
    System.PromptlyReached config system ∧
      ∃ count, Cadence start appeal sent bound count system ∧
        transmissions history = (List.range count).map fun k =>
          (appeal.beat start.station.config sent (k + 1), request))
    ⟨hreached, 0, hstart, rfl⟩ ?_
    fun moment hmoment => hlater _ (System.move_mem hmoment)
  rintro history ⟨system, _⟩ ⟨limit, hlimit, rfl⟩ ⟨hpast, count, hcadence, hsent⟩
  refine ⟨hpast.advance limit, ?_⟩
  rw [transmissions_concat, hsent]
  have hstep := hcadence.step hpast hlimit hpleads hcovered
  rcases hstep with ⟨hafter, htimed⟩ | ⟨hafter, htimed⟩
  · exact ⟨count, hafter, by rw [htimed, List.append_nil]⟩
  · refine ⟨count + 1, hafter, ?_⟩
    rw [htimed, List.range_succ, List.map_append]
    rfl

end Cadence

/-- Nothing happens but that a request sent at some time is repeated at an even pace, for as long as
nobody answers and no network is lost. -/
def System.Repeats (system : System) (sent : Time) (patience : Duration)
    (request : OutgoingFrame) : Prop :=
  ∀ bound, system.clock.now ≤ bound → bound < .last →
    (system.station.timeouts.isRunning .beaconWatchdog = true →
      bound < system.station.timeouts.coverage) →
    ∀ later, (∀ move ∈ later, ∃ limit, limit ≤ bound ∧ move = .advance limit) →
    (∀ event ∈ (system.run later).clock.pending, bound < event.1) →
    (system.run later).station = { system.station with
      timeouts := (system.run later).station.timeouts } ∧
    transmissions (system.history later) =
      (List.range ((bound.nanos - sent.nanos) / patience.nanos)).map fun k =>
        (sent.after (patience.scale (k + 1)), request)

private theorem System.PromptlyReached.keepsPace {config : Config} {system : System}
    {appeal : Appeal} {request : OutgoingFrame} {sent : Time}
    (hreached : PromptlyReached config system)
    (hpleads : system.station.Pleads appeal request)
    (hdeadline : system.station.timeouts.deadline? appeal.timeout =
      some (sent.after (appeal.patience system.station.config))) :
    system.Repeats sent (appeal.patience system.station.config) request := by
  intro bound hnow hbound hcovered later hlater hrest
  obtain ⟨hended, count, hcadence, hsent⟩ :=
    Cadence.run hreached hpleads hcovered (.zero hnow hdeadline) hlater
  refine ⟨hcadence.station, ?_⟩
  obtain ⟨armed, harmed, hnext⟩ := Option.map_eq_some_iff.mp hcadence.deadline
  have hlate : bound < armed.deadline :=
    hrest _ (hended.tracked.pending _ _ harmed)
  rw [hnext] at hlate
  rw [hsent, Appeal.div_eq_of_elapsed hbound hcadence.elapsed hlate]
  rfl

/-- Nobody starts to wait to be let in without asking for it. -/
private theorem Reaction.joining_of_unmade {system : System} {decision : Decision}
    {operation : Operation} {turn : Turn} {attempt : Attempt}
    (hreaction : Reaction system decision operation turn)
    (hphase : turn.station.phase = .joining attempt)
    (hunmade : Appeal.join.made turn.requests = []) :
    system.station.phase = .joining attempt := by
  cases hreaction with
  | joined | answered | rejoined | reassociated => simp at hunmade
  | granted | denied => cases hphase
  | expired | released => simp [cond_eq_ite, ite_eq_iff] at hphase
  | searched _ _ hsearching | soughtUnsent _ hsearching =>
      simp [cond_eq_ite, ite_eq_iff, hsearching] at hphase
  | _ => simpa using hphase

/-- A station that waits to be let in has asked for it last in the way in which it waits. -/
def Asked (history : List Moment) (station : Station) : Prop :=
  ∀ attempt, station.phase = .joining attempt →
    ∀ sent frame, Appeal.join.last? history = some (sent, frame) →
      (frame.header.kind = .reassocRequest ↔ attempt.reassociation = true)

private theorem Asked.concat {history : List Moment} {moment : Moment}
    (hasked : Asked history moment.before.station)
    (hnamed : moment.before.station.Named) :
    Asked (history ++ [moment]) moment.after.station := by
  intro attempt hphase sent frame hlast
  rw [Appeal.last?_concat] at hlast
  cases hmade : (Appeal.join.made moment.outcome.requests).getLast? with
  | none =>
      have hunmade := List.getLast?_eq_none_iff.mp hmade
      rw [hmade] at hlast
      refine hasked attempt ?_ sent frame hlast
      cases moment.course with
      | idle _ hafter =>
          rw [hafter] at hphase
          exact hphase
      | reacted _ hreaction hstation _ heffects =>
          rw [Outcome.requests_of_parting heffects] at hunmade
          rw [hstation] at hphase
          exact hreaction.joining_of_unmade hphase hunmade
  | some request =>
      rw [hmade] at hlast
      obtain ⟨_, rfl⟩ := Prod.mk.inj (Option.some.inj hlast)
      have hmem := List.mem_of_getLast? hmade
      obtain ⟨hsent, hasks⟩ := List.mem_filter.mp hmem
      have hkind : request.header.kind = .assocRequest ∨
          request.header.kind = .reassocRequest := by
        simpa [Appeal.isMadeBy, OutgoingFrame.asks] using hasks
      obtain ⟨own, _, _, hsending⟩ := Moment.sending hnamed hsent
      obtain ⟨other, hother, _, hmanner⟩ := (hsending.asks hkind).phase
      obtain rfl := Phase.joining.inj (hphase.symm.trans hother)
      exact hmanner.symm

theorem asked_run (config : Config) (moves : List Move) :
    Asked ((System.ofConfig config).history moves)
      ((System.ofConfig config).run moves).station := by
  refine (System.run_induction (motive := fun history system =>
    System.Reached config system ∧ Asked history system.station)
    ⟨⟨[], rfl⟩, fun attempt hphase => nomatch hphase⟩ ?_ moves).2
  rintro history system move ⟨⟨past, rfl⟩, hasked⟩
  refine ⟨⟨past ++ [move], System.run_concat ..⟩, ?_⟩
  exact hasked.concat (named_run config past)

/-- In every run in which nobody keeps from the station what the clock releases, a station that
waits for an answer repeats its request at an even pace for as long as it gets none and its watchdog
has not ended: as many times as the timeout fits in since it was sent last, each at its time and as
the settings have it now, and nothing else is sent or changed meanwhile.  With timeouts that are not
zero it also comes to a time at which nothing is due any more. -/
theorem retries_keep_pace (config : Config) (moves : List Move)
    (hprompt : ∀ moment ∈ (System.ofConfig config).history moves,
      moment.Prompt) :
    let reached := (System.ofConfig config).run moves
    let history := (System.ofConfig config).history moves
    let station := reached.station
    (∀ attempt, station.phase = .joining attempt →
      ∃ own bssid sent frame, station.address = some own ∧
        station.bssid = some bssid ∧
        Appeal.join.last? history = some (sent, frame) ∧
        (frame.header.kind = .reassocRequest ↔
          attempt.reassociation = true) ∧
        reached.Repeats sent config.assocTimeout (.assocRequest own bssid
          station.ssid config attempt.reassociation)) ∧
    (station.phase = .probing →
      station.timeouts.isRunning .probeRequest = true →
      ∃ own sent frame, station.address = some own ∧
        Appeal.probe.last? history = some (sent, frame) ∧
        reached.Repeats sent config.probeTimeout (.probeRequest own
          station.ssid config)) ∧
    (config.Patient → ∀ bound, bound < .last →
      ∃ later, (∀ move ∈ later, move = .advance bound) ∧
        ∀ event ∈ (reached.run later).clock.pending, bound < event.1) := by
  intro reached history station
  have hreached : System.PromptlyReached config reached :=
    ⟨moves, rfl, hprompt⟩
  have hconfig : station.config = config := System.config_run config moves
  have haddressed (hphase : station.phase ≠ .searching) :
      ∃ own, station.address = some own :=
    Option.ne_none_iff_exists'.mp (address_ne_run config moves hphase)
  -- Whoever waits for an answer has sent a request, from which the timeout runs.
  have hwaits (appeal : Appeal)
      (hrunning : station.timeouts.isRunning appeal.timeout = true) :
      ∃ sent frame, appeal.last? history = some (sent, frame) ∧
        station.timeouts.deadline? appeal.timeout =
          some (sent.after (appeal.patience station.config)) := by
    obtain ⟨armed, harmed⟩ := (Timeouts.isRunning_iff _ _).mp hrunning
    have hdeadline : station.timeouts.deadline? appeal.timeout =
        some armed.deadline := by
      rw [Timeouts.deadline?, harmed]
      rfl
    obtain ⟨sent, frame, hlast, hsince⟩ :=
      appeal.paced_run config moves _ hdeadline
    exact ⟨sent, frame, hlast, hdeadline.trans (congrArg some hsince)⟩
  refine ⟨?_, ?_, ?_⟩
  · intro attempt hphase
    obtain ⟨own, haddress⟩ := haddressed (by simp [hphase])
    have hrunning : station.timeouts.isRunning .assocRequest = true :=
      (fits_run config moves).assocRequest.mpr ⟨attempt, hphase⟩
    obtain ⟨sent, frame, hlast, hdeadline⟩ := hwaits .join hrunning
    have hrepeats := hreached.keepsPace (.join haddress hphase) hdeadline
    rw [show reached.station.config = config from hconfig] at hrepeats
    exact ⟨own, attempt.target, sent, frame, haddress,
      (named_run config moves).target attempt hphase, hlast,
      asked_run config moves attempt hphase sent frame hlast, hrepeats⟩
  · intro hphase hrunning
    obtain ⟨own, haddress⟩ := haddressed (by simp [hphase])
    obtain ⟨sent, frame, hlast, hdeadline⟩ := hwaits .probe hrunning
    have hrepeats := hreached.keepsPace (.probe haddress hphase) hdeadline
    rw [show reached.station.config = config from hconfig] at hrepeats
    exact ⟨own, sent, frame, haddress, hlast, hrepeats⟩
  · intro hpatient bound hbound
    obtain ⟨rounds, ended, hdispatches⟩ :=
      hreached.reached.dispatches_of_patient hpatient hbound
    refine ⟨List.replicate (rounds + 1) (.advance bound),
      fun move => List.eq_of_mem_replicate, ?_⟩
    rw [hdispatches.run_eq]
    exact (hdispatches.rests_of_patient hreached.reached hpatient hbound).2

open Sample in
/-- Nobody answers a station that has asked to be let in at the start. -/
theorem retries_keep_pace_sample :
    let config : Config := {}
    let moves : List Move := [.perform refuse (.setAddress own),
      .perform refuse (.receive beacon)]
    let reached := (System.ofConfig config).run moves
    let bound : Time := .ofNanos 1020000000
    let later : List Move := List.replicate 3 (.advance bound)
    let request := OutgoingFrame.assocRequest own accessPoint [] config false
    reached.station.phase = .joining ⟨false, accessPoint⟩ ∧
      transmissions (reached.history later) =
        [(.ofNanos 500000000, request), (.ofNanos 1000000000, request)] := by
  intro config moves reached bound later request
  have hphase : reached.station.phase = .joining ⟨false, accessPoint⟩ := by
    decide
  have hprompt : ∀ moment ∈ (System.ofConfig config).history moves,
      moment.Prompt := by
    intro moment hmoment
    rcases List.mem_pair.mp hmoment with rfl | rfl <;> trivial
  obtain ⟨hjoins, _, _⟩ := retries_keep_pace config moves hprompt
  obtain ⟨_, _, sent, frame, haddress, hbssid, hlast, _, hrepeats⟩ :=
    hjoins _ hphase
  have hnetwork : reached.station.bssid = some accessPoint := by decide
  have hfirst : Appeal.join.last? ((System.ofConfig config).history moves) =
      some (.zero, request) := by decide
  obtain rfl := Option.some.inj haddress
  obtain rfl := Option.some.inj (hnetwork.symm.trans hbssid)
  obtain ⟨rfl, _⟩ := Prod.mk.inj (Option.some.inj (hfirst.symm.trans hlast))
  obtain ⟨_, hsent⟩ := hrepeats bound (by decide) (by decide)
    (fun _ => by decide) later
    (fun move hmove =>
      ⟨bound, Nat.le_refl _, List.eq_of_mem_replicate hmove⟩) (by decide)
  refine ⟨hphase, hsent.trans ?_⟩
  decide

end Roaming

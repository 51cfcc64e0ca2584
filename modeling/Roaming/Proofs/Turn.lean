import Roaming.Proofs.Timeouts
import Roaming.Station.Operation

namespace Roaming

/-! What each step of a turn leaves of the station, the clock and the effects so far. -/

namespace Turn

variable (turn : Turn) (own : MacAddr)

@[simp] theorem station_emit (effect : Effect) :
    (turn.emit effect).station = turn.station := rfl

@[simp] theorem clock_emit (effect : Effect) :
    (turn.emit effect).clock = turn.clock := rfl

@[simp] theorem effects_emit (effect : Effect) :
    (turn.emit effect).effects = turn.effects ++ [effect] := rfl

@[simp] theorem station_transmit (frame : OutgoingFrame) :
    (turn.transmit frame).station = turn.station := rfl

@[simp] theorem clock_transmit (frame : OutgoingFrame) :
    (turn.transmit frame).clock = turn.clock := rfl

@[simp] theorem station_report (notice : Notice) :
    (turn.report notice).station = turn.station := rfl

@[simp] theorem clock_report (notice : Notice) :
    (turn.report notice).clock = turn.clock := rfl

@[simp] theorem effects_report (notice : Notice) :
    (turn.report notice).effects = turn.effects ++ [.notice notice] := rfl

@[simp] theorem station_enter (phase : Phase) :
    (turn.enter phase).station = { turn.station with phase := phase } := rfl

@[simp] theorem clock_enter (phase : Phase) :
    (turn.enter phase).clock = turn.clock := rfl

@[simp] theorem station_start (kind : Timeout) (delay : Duration) :
    (turn.start kind delay).station = { turn.station with
      timeouts := (turn.station.timeouts.start turn.clock kind delay).1 } := rfl

@[simp] theorem clock_start (kind : Timeout) (delay : Duration) :
    (turn.start kind delay).clock =
      (turn.station.timeouts.start turn.clock kind delay).2 := rfl

@[simp] theorem station_stop (kind : Timeout) :
    (turn.stop kind).station = { turn.station with
      timeouts := (turn.station.timeouts.cancel turn.clock kind).1 } := rfl

@[simp] theorem clock_stop (kind : Timeout) :
    (turn.stop kind).clock =
      (turn.station.timeouts.cancel turn.clock kind).2 := rfl

@[simp] theorem station_dropReceived :
    turn.dropReceived.station = { turn.station with
      counters.rxDrops := turn.station.counters.rxDrops + 1 } := rfl

@[simp] theorem clock_dropReceived :
    turn.dropReceived.clock = turn.clock := rfl

@[simp] theorem station_dropOutgoing :
    turn.dropOutgoing.station = { turn.station with
      counters.txDrops := turn.station.counters.txDrops + 1 } := rfl

@[simp] theorem clock_dropOutgoing :
    turn.dropOutgoing.clock = turn.clock := rfl

@[simp] theorem station_reportUp (bssid : MacAddr) :
    (turn.reportUp own bssid).station = turn.station := by
  unfold reportUp
  split <;> rfl

@[simp] theorem clock_reportUp (bssid : MacAddr) :
    (turn.reportUp own bssid).clock = turn.clock := by
  unfold reportUp
  split <;> rfl

@[simp] theorem station_reportLost :
    turn.reportLost.station = turn.station := by
  unfold reportLost
  split <;> rfl

@[simp] theorem clock_reportLost :
    turn.reportLost.clock = turn.clock := by
  unfold reportLost
  split <;> rfl

@[simp] theorem station_reportDown :
    (turn.reportDown own).station =
      { turn.station with downReported := true } := by
  unfold reportDown
  cases hreported : turn.station.downReported with
  | true =>
      rw [if_pos rfl]
      cases hstation : turn.station with
      | mk => simp_all
  | false =>
      simp only [Bool.false_eq_true, if_false]
      split <;> rfl

@[simp] theorem clock_reportDown :
    (turn.reportDown own).clock = turn.clock := by
  unfold reportDown
  split
  · rfl
  · simp only
    split <;> rfl

@[simp] theorem station_probe :
    (turn.probe own).station = { turn.station with
      timeouts := (turn.station.timeouts.start turn.clock .probeRequest
        turn.station.config.probeTimeout).1 } := rfl

@[simp] theorem clock_probe :
    (turn.probe own).clock = (turn.station.timeouts.start turn.clock
      .probeRequest turn.station.config.probeTimeout).2 := rfl

@[simp] theorem station_join (attempt : Attempt) :
    (turn.join own attempt).station = { turn.station with
      phase := .joining attempt
      timeouts := (turn.station.timeouts.start turn.clock .assocRequest
        turn.station.config.assocTimeout).1 } := rfl

@[simp] theorem clock_join (attempt : Attempt) :
    (turn.join own attempt).clock = (turn.station.timeouts.start turn.clock
      .assocRequest turn.station.config.assocTimeout).2 := rfl

@[simp] theorem station_leave : (turn.leave own).station = turn.station := by
  unfold leave
  split <;> rfl

@[simp] theorem clock_leave : (turn.leave own).clock = turn.clock := by
  unfold leave
  split <;> rfl

@[simp] theorem station_consult (decision : Decision) (frame : Frame) :
    (turn.consult own decision frame).2.station = turn.station := by
  unfold consult
  split <;> rfl

@[simp] theorem clock_consult (decision : Decision) (frame : Frame) :
    (turn.consult own decision frame).2.clock = turn.clock := by
  unfold consult
  split <;> rfl

@[simp] theorem station_followBeacon (frame : Frame) :
    (turn.followBeacon frame).station = { turn.station with
      timeouts := (turn.station.timeouts.extendWatchdog turn.clock
        (turn.station.config.watchdogDelay frame.body.beaconInterval)).1
      bssid := some frame.header.third
      capabilities := turn.station.capabilities.adoptBeacon
        turn.station.config frame.body } := rfl

@[simp] theorem clock_followBeacon (frame : Frame) :
    (turn.followBeacon frame).clock =
      (turn.station.timeouts.extendWatchdog turn.clock
        (turn.station.config.watchdogDelay frame.body.beaconInterval)).2 := rfl

@[simp] theorem station_followResponse (frame : Frame) :
    (turn.followResponse frame).station = { turn.station with
      timeouts := (turn.station.timeouts.extendWatchdog turn.clock
        (turn.station.config.watchdogDelay frame.body.beaconInterval)).1
      bssid := some frame.header.transmitter
      capabilities := turn.station.capabilities.adoptResponse
        turn.station.config frame.body } := rfl

@[simp] theorem clock_followResponse (frame : Frame) :
    (turn.followResponse frame).clock =
      (turn.station.timeouts.extendWatchdog turn.clock
        (turn.station.config.watchdogDelay frame.body.beaconInterval)).2 := rfl

@[simp] theorem station_acceptAssociation (frame : Frame) :
    (turn.acceptAssociation own frame).station = { turn.station with
      phase := .associated
      capabilities := turn.station.capabilities.adoptResponse
        turn.station.config frame.body
      downReported := false
      previousAp := some frame.header.transmitter } := by
  simp [acceptAssociation]

@[simp] theorem clock_acceptAssociation (frame : Frame) :
    (turn.acceptAssociation own frame).clock = turn.clock := by
  simp [acceptAssociation]

/-- The search of a station that has no network: the loss is reported, and a request sent out if
the station may probe. -/
def search : Turn :=
  if turn.station.activeProbing then
    ((turn.reportDown own).probe own).enter .probing
  else turn.reportDown own

@[simp] theorem station_search :
    (turn.search own).station = { turn.station with
      phase := bif turn.station.activeProbing then .probing
        else turn.station.phase
      downReported := true
      timeouts := bif turn.station.activeProbing then
          (turn.station.timeouts.start turn.clock .probeRequest
            turn.station.config.probeTimeout).1
        else turn.station.timeouts } := by
  unfold search
  cases hprobing : turn.station.activeProbing <;> simp

@[simp] theorem clock_search :
    (turn.search own).clock =
      bif turn.station.activeProbing then
        (turn.station.timeouts.start turn.clock .probeRequest
          turn.station.config.probeTimeout).2
      else turn.clock := by
  unfold search
  cases hprobing : turn.station.activeProbing <;> simp

theorem isBound_search (hfree : turn.station.phase.isBound = false) :
    (turn.search own).station.phase.isBound = false := by
  rw [station_search]
  cases turn.station.activeProbing with
  | true => rfl
  | false => exact hfree

theorem ensureAssociated_of_searching
    (hphase : turn.station.phase = .searching) :
    turn.ensureAssociated own = turn.search own := by
  simp [ensureAssociated, search, hphase]

theorem ensureAssociated_of_ne (hphase : turn.station.phase ≠ .searching) :
    turn.ensureAssociated own = turn := by
  unfold ensureAssociated
  split
  · contradiction
  · rfl

theorem loseNetwork_eq :
    turn.loseNetwork own = (turn.reportLost.enter .searching).search own :=
  ensureAssociated_of_searching _ own rfl

theorem isBound_loseNetwork :
    (turn.loseNetwork own).station.phase.isBound = false := by
  rw [loseNetwork_eq]
  exact isBound_search _ own rfl

@[simp] theorem station_loseNetwork :
    (turn.loseNetwork own).station = { turn.station with
      phase := bif turn.station.activeProbing then .probing else .searching
      downReported := true
      timeouts := bif turn.station.activeProbing then
          (turn.station.timeouts.start turn.clock .probeRequest
            turn.station.config.probeTimeout).1
        else turn.station.timeouts } := by
  simp [loseNetwork_eq]

@[simp] theorem clock_loseNetwork :
    (turn.loseNetwork own).clock =
      bif turn.station.activeProbing then
        (turn.station.timeouts.start turn.clock .probeRequest
          turn.station.config.probeTimeout).2
      else turn.clock := by
  simp [loseNetwork_eq]

end Turn

end Roaming

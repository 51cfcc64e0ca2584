import Roaming.Station
import Roaming.Text.Utf8

namespace Roaming

/-! Steps that a station takes within one operation: what it sends, reports and starts. -/

structure System where
  station : Station
  clock : Clock

structure Turn where
  station : Station
  clock : Clock
  /-- Oldest first. -/
  effects : List Effect

namespace Turn

def emit (turn : Turn) (effect : Effect) : Turn :=
  { turn with effects := turn.effects ++ [effect] }

def transmit (turn : Turn) (frame : OutgoingFrame) : Turn :=
  turn.emit (.request (.transmit frame))

def report (turn : Turn) (notice : Notice) : Turn :=
  turn.emit (.notice notice)

def enter (turn : Turn) (phase : Phase) : Turn :=
  { turn with station.phase := phase }

def start (turn : Turn) (kind : Timeout) (delay : Duration) : Turn :=
  let (timeouts, clock) := turn.station.timeouts.start turn.clock kind delay
  { turn with station.timeouts := timeouts, clock := clock }

def stop (turn : Turn) (kind : Timeout) : Turn :=
  let (timeouts, clock) := turn.station.timeouts.cancel turn.clock kind
  { turn with station.timeouts := timeouts, clock := clock }

def extendWatchdog (turn : Turn) (interval : TimeUnits) : Turn :=
  let (timeouts, clock) := turn.station.timeouts.extendWatchdog turn.clock
    (turn.station.config.watchdogDelay interval)
  { turn with station.timeouts := timeouts, clock := clock }

def dropReceived (turn : Turn) : Turn :=
  { turn with
    station.counters.rxDrops := turn.station.counters.rxDrops + 1 }

def dropOutgoing (turn : Turn) : Turn :=
  { turn with
    station.counters.txDrops := turn.station.counters.txDrops + 1 }

def wifiLink (own attachment : MacAddr) : LinkId :=
  ⟨.wifi, own, attachment⟩

def networkFeatures (body : FrameBody) : Flags NetworkFlag :=
  (Flags.empty.assign .security (body.capabilities.has .privacy)).assign
    .qosClass0 (body.capabilities.has .qos)

/-- Missing measurements count as zero. -/
def detectedLink (own : MacAddr) (frame : Frame) : DetectedLink where
  link := wifiLink own frame.header.transmitter
  network := Text.lossy frame.body.ssid
  signal := frame.measurements.signal?.getD 0
  snr := frame.measurements.snr?.getD 0
  rates := frame.body.rates
  features := networkFeatures frame.body
  stations := frame.measurements.stations?.getD 0

/-- Asks whether to switch to the frame's sender; without a listener the answer is no. -/
def consult (turn : Turn) (own : MacAddr) (decision : Decision) (frame : Frame) :
    Bool × Turn :=
  match turn.station.listeners.detected with
  | none => (false, turn)
  | some source =>
      let detected := detectedLink own frame
      let answer := decision source detected
      (answer, turn.report (.detected source detected answer))

/-- The former access point is named only if it is another one. -/
def reportUp (turn : Turn) (own bssid : MacAddr) : Turn :=
  if turn.station.listeners.up then
    turn.report (.up {
      link := wifiLink own bssid
      oldRouter := turn.station.previousAp.filter (· ≠ bssid)
      newRouter := bssid
      ipRenewal := true
      mobility := .single .mobileIpv4 })
  else turn

def reportLost (turn : Turn) : Turn :=
  if turn.station.listeners.lost then
    turn.report (.lost (turn.station.bssid.getD .null))
  else turn

/-- Reports a loss only once until the next association. -/
def reportDown (turn : Turn) (own : MacAddr) : Turn :=
  if turn.station.downReported then turn
  else
    let turn := { turn with station.downReported := true }
    let bssid := turn.station.bssid.getD .null
    if turn.station.listeners.down then
      turn.report (.down ⟨wifiLink own bssid, bssid, .noBroadcast⟩)
    else turn

def probe (turn : Turn) (own : MacAddr) : Turn :=
  (turn.transmit (.probeRequest own turn.station.ssid turn.station.config)).start
    .probeRequest turn.station.config.probeTimeout

def join (turn : Turn) (own : MacAddr) (attempt : Attempt) : Turn :=
  ((turn.transmit (.assocRequest own attempt.target turn.station.ssid
    turn.station.config attempt.reassociation)).start
      .assocRequest turn.station.config.assocTimeout).enter (.joining attempt)

/-- Breaks with the network joined. -/
def leave (turn : Turn) (own : MacAddr) : Turn :=
  match turn.station.bssid with
  | some bssid => turn.transmit (.disassociation own bssid)
  | none => turn

/-- Starts looking for a network unless one is joined or being joined. -/
def ensureAssociated (turn : Turn) (own : MacAddr) : Turn :=
  match turn.station.phase with
  | .searching =>
      let turn := turn.reportDown own
      if turn.station.activeProbing then (turn.probe own).enter .probing
      else turn
  | _ => turn

def loseNetwork (turn : Turn) (own : MacAddr) : Turn :=
  (turn.reportLost.enter .searching).ensureAssociated own

end Turn

end Roaming

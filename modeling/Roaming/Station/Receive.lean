import Roaming.Station.Turn

namespace Roaming.Turn

/-! What a station does with a frame from the air. -/

def advertisesAny (config : Config) (rates : RateSet) : Bool :=
  config.requiredSelectors.isEmpty ||
    config.requiredSelectors.any rates.advertises

def advertisesAll (config : Config) (rates : RateSet) : Bool :=
  config.requiredSelectors.all rates.advertises

def followBeacon (turn : Turn) (frame : Frame) : Turn :=
  let turn := turn.extendWatchdog frame.body.beaconInterval
  { turn with
    station.bssid := some frame.header.third
    station.capabilities :=
      turn.station.capabilities.adoptBeacon turn.station.config frame.body }

def followResponse (turn : Turn) (frame : Frame) : Turn :=
  let turn := turn.extendWatchdog frame.body.beaconInterval
  { turn with
    station.bssid := some frame.header.transmitter
    station.capabilities :=
      turn.station.capabilities.adoptResponse turn.station.config frame.body }

/-- A beacon keeps the network joined, offers one to a station without, or comes from one that the
listener prefers to switch to. -/
def receiveBeacon (turn : Turn) (own : MacAddr) (decision : Decision)
    (frame : Frame) : Turn :=
  let station := turn.station
  let sender := frame.header.third
  let known := station.bssid == some sender
  let (answer, turn) :=
    if station.isAssociated && known then (false, turn)
    else turn.consult own decision frame
  let eligible := advertisesAny station.config frame.body.rates
  let switch := eligible && answer
  let suitable := eligible && station.wantsSsid frame.body.ssid &&
    (known || !station.phase.isBound)
  let turn :=
    if switch && station.isAssociated then turn.leave own else turn
  if switch || suitable then
    let turn := turn.followBeacon frame
    if switch || (suitable && station.phase.isOpen) then
      (turn.stop .probeRequest).join own ⟨false, sender⟩
    else turn
  else turn.dropReceived

/-- The answer to an own probe request is followed whatever the listener says. -/
def receiveProbeResponse (turn : Turn) (own : MacAddr) (decision : Decision)
    (frame : Frame) : Turn :=
  match turn.station.phase with
  | .probing =>
      if turn.station.wantsSsid frame.body.ssid &&
          advertisesAll turn.station.config frame.body.rates then
        let turn := (turn.followResponse frame).stop .probeRequest
        ((turn.consult own decision frame).2).join own
          ⟨false, frame.header.transmitter⟩
      else turn.dropReceived
  | _ => turn

def acceptAssociation (turn : Turn) (own : MacAddr) (frame : Frame) : Turn :=
  let bssid := frame.header.transmitter
  let turn := { turn with
    station.capabilities :=
      turn.station.capabilities.adoptResponse turn.station.config frame.body
    station.downReported := false }
  let turn := turn.reportUp own bssid
  { turn with station.previousAp := some bssid }.enter .associated

def receiveAssocResponse (turn : Turn) (own : MacAddr) (frame : Frame) :
    Turn :=
  match turn.station.phase with
  | .joining attempt =>
      if frame.header.transmitter = attempt.target then
        let turn := turn.stop .assocRequest
        if frame.body.status.isSuccess then turn.acceptAssociation own frame
        else turn.enter .refused
      else turn.dropReceived
  | _ => turn

/-- Data is taken only from the access point joined. -/
def receiveData (turn : Turn) (frame : Frame) : Turn :=
  if turn.station.isAssociated && frame.header.fromDs && !frame.header.toDs &&
      turn.station.bssid == some frame.header.transmitter then
    { turn with
      station.counters.forwardedUp :=
        turn.station.counters.forwardedUp + 1 }.emit
      (.request (.forwardUp frame.header.third frame.header.receiver
        frame.payload))
  else turn.dropReceived

/-- Own frames heard again are ignored, and those for others dropped. -/
def receive (turn : Turn) (own : MacAddr) (decision : Decision)
    (frame : Frame) : Turn :=
  if frame.header.third = own then turn
  else if frame.header.receiver ≠ own ∧ !frame.header.receiver.isGroup then
    turn.dropReceived
  else match frame.header.kind with
    | .data | .qosData => turn.receiveData frame
    | .beacon => turn.receiveBeacon own decision frame
    | .probeResponse => turn.receiveProbeResponse own decision frame
    | .assocResponse | .reassocResponse => turn.receiveAssocResponse own frame
    | .probeRequest | .assocRequest | .reassocRequest => turn.dropReceived
    | .disassociation | .action => turn.emit (.request (.toParent frame))

end Roaming.Turn

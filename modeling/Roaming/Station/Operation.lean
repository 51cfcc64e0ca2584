import Roaming.Station.Receive

namespace Roaming

/-! The operations of a station. -/

namespace Turn

/-- What a timeout leads to in the phase that it finds. -/
def timeOut (turn : Turn) (own : MacAddr) (kind : Timeout) : Turn :=
  match turn.station.phase, kind with
  | .probing, .probeRequest => turn.probe own
  | .joining attempt, .assocRequest => turn.join own attempt
  | .refused, .beaconWatchdog => turn
  | _, .beaconWatchdog =>
      let (ended, timeouts, clock) :=
        turn.station.timeouts.watchdogFired turn.clock
      let turn := { turn with station.timeouts := timeouts, clock := clock }
      if ended then
        ((turn.stop .probeRequest).stop .assocRequest).loseNetwork own
      else turn
  | _, _ => turn

def changeCapabilities (turn : Turn) (own : MacAddr) : Turn :=
  match turn.station.phase, turn.station.bssid with
  | .associated, some bssid => turn.join own ⟨true, bssid⟩
  | _, _ => turn

def changeSsid (turn : Turn) (own : MacAddr) : Turn :=
  match turn.station.phase with
  | .refused => turn.loseNetwork own
  | _ => turn

def changeActiveProbing (turn : Turn) (own : MacAddr) : Turn :=
  if turn.station.activeProbing then turn.ensureAssociated own
  else turn.stop .probeRequest

def send (turn : Turn) (own destination : MacAddr) (payload : Payload)
    (tid : UInt8) : Turn :=
  match turn.station.phase, turn.station.bssid with
  | .associated, some bssid =>
      turn.transmit (.data own bssid destination payload
        turn.station.capabilities.qos tid)
  | _, _ => turn.dropOutgoing.ensureAssociated own

/-- Reports an association that the turn made or ended. -/
def settle (turn : Turn) (wasAssociated : Bool) : Turn :=
  match wasAssociated, turn.station.isAssociated with
  | false, true =>
      let turn := { turn with station.reportedAp := turn.station.bssid }
      match turn.station.listeners.joined, turn.station.reportedAp with
      | true, some bssid => turn.report (.joined bssid)
      | _, _ => turn
  | true, false =>
      let former := turn.station.reportedAp
      let turn := { turn with station.reportedAp := none }
      match turn.station.listeners.left, former with
      | true, some bssid => turn.report (.left bssid)
      | _, _ => turn
  | _, _ => turn

end Turn

inductive StationError
  | addressNotConfigured
deriving DecidableEq

def StationError.message : StationError → String
  | .addressNotConfigured => "station address is not configured"

inductive Listener
  | detected (source : MihfId)
  | up | down | lost | joined | left
deriving DecidableEq

def Listeners.add (listeners : Listeners) : Listener → Listeners
  | .detected source => { listeners with detected := some source }
  | .up => { listeners with up := true }
  | .down => { listeners with down := true }
  | .lost => { listeners with lost := true }
  | .joined => { listeners with joined := true }
  | .left => { listeners with left := true }

inductive Operation
  | setAddress (address : MacAddr)
  | register (listener : Listener)
  | ensureAssociated
  | receive (frame : Frame)
  | timeout (id : EventId)
  | send (destination : MacAddr) (payload : Payload) (tid : UInt8)
  | capabilitiesChanged
  | setActiveProbing (on : Bool)
  | setSsid (ssid : Ssid)
deriving DecidableEq

structure Outcome where
  system : System
  effects : List Effect := []
  error? : Option StationError := none

namespace System

def ofConfig (config : Config) : System :=
  ⟨.ofConfig config, .start⟩

/-- Nothing can be done without an address. -/
def act (system : System) (handler : MacAddr → Turn → Turn) : Outcome :=
  match system.station.address with
  | none => { system, error? := some .addressNotConfigured }
  | some own =>
      let turn := (handler own ⟨system.station, system.clock, []⟩).settle
        system.station.isAssociated
      { system := ⟨turn.station, turn.clock⟩, effects := turn.effects }

def handleTimeout (system : System) (id : EventId) : Outcome :=
  let (kind, timeouts) := system.station.timeouts.take id
  let system := { system with station.timeouts := timeouts }
  match kind with
  | none => { system }
  | some kind => system.act fun own turn => turn.timeOut own kind

/-- New settings are kept even if nothing can be done about them yet. -/
def perform (system : System) (decision : Decision) : Operation → Outcome
  | .setAddress address =>
      { system := { system with station.address := some address } }
  | .register listener =>
      { system := { system with
        station.listeners := system.station.listeners.add listener } }
  | .ensureAssociated => system.act fun own turn => turn.ensureAssociated own
  | .receive frame =>
      system.act fun own turn => turn.receive own decision frame
  | .timeout id => system.handleTimeout id
  | .send destination payload tid =>
      system.act fun own turn => turn.send own destination payload tid
  | .capabilitiesChanged =>
      system.act fun own turn => turn.changeCapabilities own
  | .setActiveProbing on =>
      { system with station.activeProbing := on }.act fun own turn =>
        turn.changeActiveProbing own
  | .setSsid ssid =>
      { system with station.ssid := ssid }.act fun own turn =>
        turn.changeSsid own

end System

end Roaming

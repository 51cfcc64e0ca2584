import Roaming.Capabilities
import Roaming.Frame.Outgoing
import Roaming.Link
import Roaming.Station.Timeouts

namespace Roaming

/-! A station, what it asks for and what it reports. -/

/-- An association request waiting for its response. -/
structure Attempt where
  reassociation : Bool
  target : MacAddr
deriving DecidableEq

inductive Phase
  /-- Waiting for a suitable beacon. -/
  | searching
  /-- Waiting for an answer to a probe request. -/
  | probing
  | joining (attempt : Attempt)
  | associated
  /-- Turned away by an access point. -/
  | refused
deriving DecidableEq

namespace Phase

def isAssociated : Phase → Bool
  | .associated => true
  | _ => false

/-- Whether the station has settled on a network. -/
def isBound : Phase → Bool
  | .associated => true
  | .joining _ => true
  | _ => false

def isOpen : Phase → Bool
  | .searching => true
  | .probing => true
  | _ => false

end Phase

structure Counters where
  rxDrops : Nat := 0
  txDrops : Nat := 0
  forwardedUp : Nat := 0
deriving DecidableEq

/-- Which notices are wanted.  The one on detected links names who wants it. -/
structure Listeners where
  detected : Option MihfId := none
  up : Bool := false
  down : Bool := false
  lost : Bool := false
  joined : Bool := false
  left : Bool := false
deriving DecidableEq

structure Station where
  config : Config
  ssid : Ssid
  activeProbing : Bool
  address : Option MacAddr := none
  phase : Phase := .searching
  /-- The network joined, or else the last one accepted. -/
  bssid : Option MacAddr := none
  /-- The access point of the last association. -/
  previousAp : Option MacAddr := none
  /-- The access point reported as joined and not yet as left. -/
  reportedAp : Option MacAddr := none
  /-- Set by the first report of a loss, until the next association. -/
  downReported : Bool := false
  timeouts : Timeouts := .idle
  capabilities : Capabilities := {}
  counters : Counters := {}
  listeners : Listeners := {}

namespace Station

def ofConfig (config : Config) : Station where
  config := config
  ssid := config.ssidOctets
  activeProbing := config.activeProbing

def isAssociated (station : Station) : Bool :=
  station.phase.isAssociated

/-- An empty name joins any network. -/
def wantsSsid (station : Station) (ssid : Ssid) : Bool :=
  station.ssid.isEmpty || decide (ssid = station.ssid)

end Station

inductive Request
  | transmit (frame : OutgoingFrame)
  | forwardUp (source destination : MacAddr) (payload : Payload)
  | toParent (frame : Frame)
deriving DecidableEq

inductive Notice
  | detected (source : MihfId) (detected : DetectedLink) (answer : Bool)
  | up (up : LinkUp)
  | down (down : LinkDown)
  | lost (bssid : MacAddr)
  | joined (bssid : MacAddr)
  | left (bssid : MacAddr)
deriving DecidableEq

inductive Effect
  | request (request : Request)
  | notice (notice : Notice)
deriving DecidableEq

/-- Answers whether to switch to a detected link. -/
abbrev Decision := MihfId → DetectedLink → Bool

end Roaming

import Roaming.Config

namespace Roaming

/-! Frames that a station builds. -/

/-- What a request says about the sender's own PHY. -/
structure PhyElements where
  extended : Option (Flags ExtendedFlag) := none
  ht : Option HtCapabilities := none
  vht : Option VhtCapabilities := none
  he : Option HeCapabilities := none
deriving DecidableEq

structure ProbeRequest where
  ssid : Ssid
  rates : RateSet
  phy : PhyElements
deriving DecidableEq

structure AssocRequest where
  ssid : Ssid
  rates : RateSet
  capabilities : Flags CapabilityFlag
  listenInterval : UInt16 := 0
  /-- Present in a reassociation request only. -/
  currentAp : Option MacAddr
  phy : PhyElements
deriving DecidableEq

inductive OutgoingBody
  | probe (request : ProbeRequest)
  | assoc (request : AssocRequest)
  | disassociation (reason : ReasonCode)
  | data (tid : Option UInt8) (payload : Payload)
deriving DecidableEq

structure OutgoingFrame where
  header : FrameHeader
  body : OutgoingBody
deriving DecidableEq

namespace Config

/-- The rates, with a selector for each of the newer PHYs. -/
def advertisedRates (config : Config) : RateSet :=
  let selectors :=
    (if config.ht then [Rate.htSelector] else []) ++
    (if config.vht then [Rate.vhtSelector] else []) ++
    (if config.he then [Rate.heSelector] else [])
  selectors.foldl RateSet.addSelector config.rates

/-- A newer PHY brings the elements of the older ones with it. -/
def phyElements (config : Config) : PhyElements where
  extended :=
    if config.ht || config.vht || config.he then some .empty else none
  ht :=
    if config.ht || config.vht || config.he then
      some { mcs := .ofList config.htMcs }
    else none
  vht :=
    if config.vht || config.he then
      some { highestRate := 1, mcs := .ofList config.vhtMcs }
    else none
  he := if config.he then some { mcs := .ofList config.heMcs } else none

def capabilityFlags (config : Config) : Flags CapabilityFlag :=
  ((Flags.empty.assign .shortPreamble config.shortPreamble).assign
    .shortSlotTime config.shortSlots).assign .qos config.qos

end Config

namespace OutgoingFrame

def toAccessPoint (kind : FrameKind) (own bssid : MacAddr) : FrameHeader where
  kind := kind
  receiver := bssid
  transmitter := own
  third := bssid

def probeRequest (own : MacAddr) (ssid : Ssid) (config : Config) :
    OutgoingFrame where
  header := {
    kind := .probeRequest
    receiver := .broadcast
    transmitter := own
    third := .broadcast }
  body := .probe {
    ssid := ssid
    rates := config.advertisedRates
    phy := config.phyElements }

/-- A reassociation request names the network itself as the current one. -/
def assocRequest (own bssid : MacAddr) (ssid : Ssid) (config : Config)
    (reassociation : Bool) : OutgoingFrame where
  header := toAccessPoint
    (if reassociation then .reassocRequest else .assocRequest) own bssid
  body := .assoc {
    ssid := ssid
    rates := config.advertisedRates
    capabilities := config.capabilityFlags
    currentAp := if reassociation then some bssid else none
    phy := config.phyElements }

def disassociation (own bssid : MacAddr) : OutgoingFrame where
  header := toAccessPoint .disassociation own bssid
  body := .disassociation .leavingDisassociated

/-- Traffic identifiers above the highest user priority count as best effort. -/
def usableTid (tid : UInt8) : UInt8 :=
  if tid > 7 then 0 else tid

def data (own bssid destination : MacAddr) (payload : Payload) (qos : Bool)
    (tid : UInt8) : OutgoingFrame where
  header := {
    kind := if qos then .qosData else .data
    receiver := bssid
    transmitter := own
    third := destination
    toDs := true }
  body := .data (if qos then some (usableTid tid) else none) payload

end OutgoingFrame

end Roaming

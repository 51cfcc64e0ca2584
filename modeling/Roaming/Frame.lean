import Roaming.Address
import Roaming.Frame.Element
import Roaming.Frame.Measurement
import Roaming.Frame.Rate

namespace Roaming

/-! Frames received from the air, already decoded. -/

abbrev Ssid := List UInt8

abbrev Payload := List UInt8

inductive FrameKind
  | beacon | probeRequest | probeResponse | assocRequest | reassocRequest
  | assocResponse | reassocResponse | disassociation | data | qosData | action
deriving DecidableEq

structure FrameHeader where
  kind : FrameKind
  receiver : MacAddr
  transmitter : MacAddr
  /-- The network of a management frame; one end of a data frame. -/
  third : MacAddr
  toDs : Bool := false
  fromDs : Bool := false
deriving DecidableEq

structure FrameBody where
  ssid : Ssid := []
  beaconInterval : TimeUnits := .zero
  capabilities : Flags CapabilityFlag := .empty
  rates : RateSet := []
  status : StatusCode := .success
  erp : Option (Flags ErpFlag) := none
  edca : Option EdcaParameters := none
  extended : Option (Flags ExtendedFlag) := none
  ht : Option HtCapabilities := none
  htOperation : Option HtOperation := none
  vht : Option VhtCapabilities := none
  he : Option HeCapabilities := none
deriving DecidableEq

structure Frame where
  header : FrameHeader
  body : FrameBody := {}
  measurements : Measurements := []
  payload : Payload := []
deriving DecidableEq

end Roaming

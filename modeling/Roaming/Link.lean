import Roaming.Address
import Roaming.Flags
import Roaming.Frame.Rate
import Roaming.Text.Hex

namespace Roaming

/-! Links as the layer above sees them, and what it is told about them. -/

inductive LinkType
  | gsm | gprs | edge | ethernet | otherWireless | wifi | cdma2000 | umts | wimax
deriving DecidableEq

def LinkType.code : LinkType → Nat
  | .gsm => 1
  | .gprs => 2
  | .edge => 3
  | .ethernet => 15
  | .otherWireless => 18
  | .wifi => 19
  | .cdma2000 => 22
  | .umts => 23
  | .wimax => 27

/-- A link between a local interface and a point of attachment. -/
structure LinkId where
  type : LinkType
  address : MacAddr
  attachment : MacAddr
deriving DecidableEq

/-- Names a handover function. -/
structure MihfId where
  text : String
deriving DecidableEq

/-- The low 32 bits of a random word, in hexadecimal. -/
def MihfId.ofSeed (seed : UInt64) : MihfId :=
  ⟨String.ofList (Text.hex 8 seed.toNat) ++ "@mih-local"⟩

inductive LinkStatus
  | success | unspecifiedFailure | rejected | authorizationFailure | networkError
deriving DecidableEq

inductive EventFlag
  | detected | up | down | parametersReport | goingDown | handoverImminent
  | handoverComplete | transmitStatus
deriving DecidableEq

instance : Flag EventFlag where
  width := 32
  all := [.detected, .up, .down, .parametersReport, .goingDown,
    .handoverImminent, .handoverComplete, .transmitStatus]
  bit
    | .detected => 0
    | .up => 1
    | .down => 2
    | .parametersReport => 3
    | .goingDown => 4
    | .handoverImminent => 5
    | .handoverComplete => 6
    | .transmitStatus => 7
  name
    | .detected => "LINK_DETECTED"
    | .up => "LINK_UP"
    | .down => "LINK_DOWN"
    | .parametersReport => "LINK_PARAMETERS_REPORT"
    | .goingDown => "LINK_GOING_DOWN"
    | .handoverImminent => "LINK_HANDOVER_IMMINENT"
    | .handoverComplete => "LINK_HANDOVER_COMPLETE"
    | .transmitStatus => "LINK_PDU_TRANSMIT_STATUS"

inductive CommandFlag
  | subscribe | unsubscribe | getParameters | configureThresholds | action
deriving DecidableEq

instance : Flag CommandFlag where
  width := 32
  all := [.subscribe, .unsubscribe, .getParameters, .configureThresholds,
    .action]
  bit
    | .subscribe => 1
    | .unsubscribe => 2
    | .getParameters => 3
    | .configureThresholds => 4
    | .action => 5
  name
    | .subscribe => "LINK_EVENT_SUBSCRIBE"
    | .unsubscribe => "LINK_EVENT_UNSUBSCRIBE"
    | .getParameters => "LINK_GET_PARAMETERS"
    | .configureThresholds => "LINK_CONFIGURE_THRESHOLDS"
    | .action => "LINK_ACTION"

/-- Services of a handover function. -/
inductive ServiceFlag
  | event | command | information
deriving DecidableEq

instance : Flag ServiceFlag where
  width := 8
  all := [.event, .command, .information]
  bit
    | .event => 1
    | .command => 2
    | .information => 3
  name
    | .event => "EVENT_SERVICE"
    | .command => "COMMAND_SERVICE"
    | .information => "INFORMATION_SERVICE"

inductive NetworkFlag
  | security | qosClass0 | internetAccess | emergencyServices | mihCapability
deriving DecidableEq

instance : Flag NetworkFlag where
  width := 32
  all := [.security, .qosClass0, .internetAccess, .emergencyServices,
    .mihCapability]
  bit
    | .security => 0
    | .qosClass0 => 1
    | .internetAccess => 7
    | .emergencyServices => 8
    | .mihCapability => 9
  name
    | .security => "SECURITY"
    | .qosClass0 => "QOS_CLASS_0"
    | .internetAccess => "INTERNET_ACCESS"
    | .emergencyServices => "EMERGENCY_SERVICES"
    | .mihCapability => "MIH_CAPABILITY"

inductive MobilityFlag
  | mobileIpv4 | regionalRegistration | mobileIpv6 | hierarchicalMobileIpv6
  | lowLatencyHandoffs | fastHandovers | ikev2Multihoming
deriving DecidableEq

instance : Flag MobilityFlag where
  width := 16
  all := [.mobileIpv4, .regionalRegistration, .mobileIpv6,
    .hierarchicalMobileIpv6, .lowLatencyHandoffs, .fastHandovers,
    .ikev2Multihoming]
  bit
    | .mobileIpv4 => 0
    | .regionalRegistration => 1
    | .mobileIpv6 => 2
    | .hierarchicalMobileIpv6 => 3
    | .lowLatencyHandoffs => 4
    | .fastHandovers => 5
    | .ikev2Multihoming => 6
  name
    | .mobileIpv4 => "MOBILE_IPV4_RFC3344"
    | .regionalRegistration => "MOBILE_IPV4_REGIONAL_REGISTRATION"
    | .mobileIpv6 => "MOBILE_IPV6_RFC3775"
    | .hierarchicalMobileIpv6 => "HIERARCHICAL_MOBILE_IPV6"
    | .lowLatencyHandoffs => "LOW_LATENCY_HANDOFFS"
    | .fastHandovers => "MOBILE_IPV6_FAST_HANDOVERS"
    | .ikev2Multihoming => "IKEV2_MOBILITY_MULTIHOMING"

inductive DownReason
  | explicitDisconnect | packetTimeout | noResource | noBroadcast
  | authenticationFailure | billingFailure
deriving DecidableEq

def DownReason.code : DownReason → Nat
  | .explicitDisconnect => 0
  | .packetTimeout => 1
  | .noResource => 2
  | .noBroadcast => 3
  | .authenticationFailure => 4
  | .billingFailure => 5

inductive LinkParameter
  | signal | snr | dataRate | stations
deriving DecidableEq

structure Threshold where
  parameter : LinkParameter
  value : Float
deriving DecidableEq

/-- A link seen in a beacon or probe response. -/
structure DetectedLink where
  link : LinkId
  /-- The network's name as text. -/
  network : String
  auxiliary : String := ""
  signal : Float
  snr : Float
  rates : RateSet
  services : Flags ServiceFlag := .empty
  features : Flags NetworkFlag
  stations : UInt32
deriving DecidableEq

structure LinkUp where
  link : LinkId
  oldRouter : Option MacAddr
  newRouter : MacAddr
  ipRenewal : Bool
  mobility : Flags MobilityFlag
deriving DecidableEq

structure LinkDown where
  link : LinkId
  oldRouter : MacAddr
  reason : DownReason
deriving DecidableEq

inductive LinkEvent
  | detected (source : MihfId) (detected : DetectedLink) (accepted : Bool)
  | up (up : LinkUp)
  | down (down : LinkDown)
deriving DecidableEq

end Roaming

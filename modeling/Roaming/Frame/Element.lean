import Roaming.Flags
import Roaming.Time
import Roaming.Frame.Mcs

namespace Roaming

/-! Fields and elements of a management frame body. -/

inductive CapabilityFlag
  | ess | ibss | cfPollable | cfPollRequest | privacy | shortPreamble
  | spectrumManagement | qos | shortSlotTime | apsd | radioMeasurement
  | delayedBlockAck | immediateBlockAck
deriving DecidableEq

instance : Flag CapabilityFlag where
  width := 16
  all := [.ess, .ibss, .cfPollable, .cfPollRequest, .privacy, .shortPreamble,
    .spectrumManagement, .qos, .shortSlotTime, .apsd, .radioMeasurement,
    .delayedBlockAck, .immediateBlockAck]
  bit
    | .ess => 0
    | .ibss => 1
    | .cfPollable => 2
    | .cfPollRequest => 3
    | .privacy => 4
    | .shortPreamble => 5
    | .spectrumManagement => 8
    | .qos => 9
    | .shortSlotTime => 10
    | .apsd => 11
    | .radioMeasurement => 12
    | .delayedBlockAck => 14
    | .immediateBlockAck => 15
  name
    | .ess => "ess"
    | .ibss => "ibss"
    | .cfPollable => "cf_pollable"
    | .cfPollRequest => "cf_poll_req"
    | .privacy => "privacy"
    | .shortPreamble => "short_preamble"
    | .spectrumManagement => "spectrum_mgmt"
    | .qos => "qos"
    | .shortSlotTime => "short_slot_time"
    | .apsd => "apsd"
    | .radioMeasurement => "radio_measurement"
    | .delayedBlockAck => "delayed_block_ack"
    | .immediateBlockAck => "immediate_block_ack"

/-- The extended rate PHY information of a beacon. -/
inductive ErpFlag
  | nonErpPresent | useProtection | barkerPreamble
deriving DecidableEq

instance : Flag ErpFlag where
  width := 8
  all := [.nonErpPresent, .useProtection, .barkerPreamble]
  bit
    | .nonErpPresent => 0
    | .useProtection => 1
    | .barkerPreamble => 2
  name
    | .nonErpPresent => "non_erp_present"
    | .useProtection => "use_protection"
    | .barkerPreamble => "barker_preamble_mode"

inductive ExtendedFlag
  | coexistence | bssTransition | interworking
deriving DecidableEq

instance : Flag ExtendedFlag where
  width := 64
  all := [.coexistence, .bssTransition, .interworking]
  bit
    | .coexistence => 0
    | .bssTransition => 19
    | .interworking => 31
  name
    | .coexistence => "bss_coexistence_mgmt"
    | .bssTransition => "bss_transition"
    | .interworking => "interworking"

structure HtCapabilities where
  greenfield : Bool := false
  shortGuard20 : Bool := false
  shortGuard40 : Bool := false
  mcs : McsSet := .empty
deriving DecidableEq

structure HtOperation where
  channel : UInt8 := 0
  rifs : Bool := false
  nonGreenfieldPresent : Bool := false
deriving DecidableEq

structure VhtCapabilities where
  /-- In Mb/s, with a long guard interval; zero if no rate is usable. -/
  highestRate : UInt16 := 0
  mcs : McsSet := .empty
deriving DecidableEq

structure HeCapabilities where
  mcs : McsSet := .empty
deriving DecidableEq

/-- Channel access parameters of one access category. -/
structure AccessParameters where
  aifsn : UInt8 := 0
  minExponent : UInt8 := 0
  maxExponent : UInt8 := 0
  /-- In units of 32 microseconds. -/
  txopLimit : UInt16 := 0
deriving DecidableEq

namespace AccessParameters

/-- The window below a power of two; exponents have four bits. -/
def window (exponent : UInt8) : Nat :=
  Nat.pow 2 (exponent &&& 0x0f).toNat - 1

def minWindow (parameters : AccessParameters) : Nat :=
  window parameters.minExponent

def maxWindow (parameters : AccessParameters) : Nat :=
  window parameters.maxExponent

def txop (parameters : AccessParameters) : Duration :=
  .ofMicros (parameters.txopLimit.toNat * 32)

end AccessParameters

structure EdcaParameters where
  bestEffort : AccessParameters := {}
  background : AccessParameters := {}
  video : AccessParameters := {}
  voice : AccessParameters := {}
deriving DecidableEq

structure StatusCode where
  code : UInt16
deriving DecidableEq

namespace StatusCode

def success : StatusCode := ⟨0⟩
def refused : StatusCode := ⟨1⟩
def capabilityMismatch : StatusCode := ⟨10⟩
def noMoreStations : StatusCode := ⟨17⟩
def basicRateMismatch : StatusCode := ⟨18⟩

def isSuccess (status : StatusCode) : Bool :=
  decide (status = success)

end StatusCode

structure ReasonCode where
  code : UInt16
deriving DecidableEq

namespace ReasonCode

def unspecified : ReasonCode := ⟨1⟩
def leavingDeauthenticated : ReasonCode := ⟨3⟩
def inactivity : ReasonCode := ⟨4⟩
def leavingDisassociated : ReasonCode := ⟨8⟩

end ReasonCode

/-- A number of beacon time units, each of 1024 microseconds. -/
structure TimeUnits where
  count : UInt16
deriving DecidableEq

namespace TimeUnits

def zero : TimeUnits := ⟨0⟩

def usualBeaconInterval : TimeUnits := ⟨100⟩

def duration (units : TimeUnits) : Duration :=
  .ofMicros (units.count.toNat * 1024)

end TimeUnits

end Roaming

import Roaming.Frame

namespace Roaming

/-! What a station is told before it starts. -/

structure Config where
  /-- The network to join; empty for any. -/
  ssid : String := ""
  activeProbing : Bool := false
  probeTimeoutMillis : UInt64 := 50
  assocTimeoutMillis : UInt64 := 500
  /-- How many beacon intervals without a beacon mean that the network is lost. -/
  missedBeaconLimit : UInt32 := 10
  /-- In units of 500 kb/s, as are the basic rates. -/
  supportedRates : List UInt8 := [12, 18, 24, 36, 48, 72, 96, 108]
  basicRates : List UInt8 := [12, 24, 48]
  /-- The selectors that a network has to advertise. -/
  requiredSelectors : List UInt8 := []
  erp : Bool := false
  qos : Bool := false
  ht : Bool := false
  vht : Bool := false
  he : Bool := false
  shortPreamble : Bool := false
  shortSlots : Bool := false
  htMcs : List UInt8 := [0, 1, 2, 3, 4, 5, 6, 7]
  vhtMcs : List UInt8 := [0, 1, 2, 3, 4, 5, 6, 7, 8, 9]
  heMcs : List UInt8 := [0, 1, 2, 3, 4, 5, 6, 7, 8, 9, 10, 11]
deriving DecidableEq

namespace Config

def ssidOctets (config : Config) : Ssid :=
  config.ssid.toUTF8.data.toList

def probeTimeout (config : Config) : Duration :=
  .ofMillis config.probeTimeoutMillis.toNat

def assocTimeout (config : Config) : Duration :=
  .ofMillis config.assocTimeoutMillis.toNat

/-- How long the network may stay silent, given its beacon interval. -/
def watchdogDelay (config : Config) (interval : TimeUnits) : Duration :=
  interval.duration.scale config.missedBeaconLimit.toNat

def rates (config : Config) : RateSet :=
  .ofUnits config.supportedRates config.basicRates

inductive Defect
  | zeroTimeout
  | zeroBeaconLimit
  | noRates
  | rateOutOfRange (rate : UInt8)
  | basicRateUnsupported (rate : UInt8)
  | htRequired
deriving DecidableEq

def Defect.message : Defect → String
  | .zeroTimeout => "request timeouts must be non-zero"
  | .zeroBeaconLimit => "max_missed_beacons is 0"
  | .noRates => "no supported rates"
  | .rateOutOfRange rate => "rate " ++ toString rate.toNat ++ " out of range"
  | .basicRateUnsupported rate =>
      "basic rate " ++ toString rate.toNat ++ " is not supported"
  | .htRequired => "VHT and HE require HT"

def rateInRange (rate : UInt8) : Bool :=
  rate != 0 && rate ≤ 127

/-- The first rate or selector that does not fit into seven bits, or is zero. -/
def misfit? (config : Config) : Option UInt8 :=
  (config.supportedRates ++ config.requiredSelectors).find?
    fun rate => !rateInRange rate

def unsupportedBasic? (config : Config) : Option UInt8 :=
  config.basicRates.find? fun rate => !config.supportedRates.contains rate

/-- The first thing wrong with a configuration. -/
def defect? (config : Config) : Option Defect :=
  if config.probeTimeoutMillis = 0 ∨ config.assocTimeoutMillis = 0 then
    some .zeroTimeout
  else if config.missedBeaconLimit = 0 then some .zeroBeaconLimit
  else if config.supportedRates = [] then some .noRates
  else match config.misfit? with
    | some rate => some (.rateOutOfRange rate)
    | none => match config.unsupportedBasic? with
      | some rate => some (.basicRateUnsupported rate)
      | none =>
          if (config.vht || config.he) && !config.ht then some .htRequired
          else none

end Config

end Roaming

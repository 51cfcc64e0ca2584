namespace Roaming

/-! Measurements that the receiver attaches to a frame, at most one of each kind. -/

inductive Measurement
  /-- Received signal strength in dBm. -/
  | signal (dBm : Float)
  /-- Signal to noise ratio in dB. -/
  | snr (dB : Float)
  /-- How many stations the sender serves. -/
  | stations (count : UInt32)
deriving DecidableEq

inductive Measurement.Kind
  | signal | snr | stations
deriving DecidableEq

def Measurement.kind : Measurement → Kind
  | .signal _ => .signal
  | .snr _ => .snr
  | .stations _ => .stations

abbrev Measurements := List Measurement

namespace Measurements

def hasKind (kind : Measurement.Kind) (measurement : Measurement) : Bool :=
  decide (measurement.kind = kind)

/-- Replaces an earlier measurement of the same kind. -/
def add (measurements : Measurements) (measurement : Measurement) :
    Measurements :=
  measurements.filter (fun other => !hasKind measurement.kind other) ++
    [measurement]

def ofList (measurements : List Measurement) : Measurements :=
  measurements.foldl add []

def get? (measurements : Measurements) (kind : Measurement.Kind) :
    Option Measurement :=
  measurements.find? (hasKind kind)

def erase (measurements : Measurements) (kind : Measurement.Kind) :
    Measurements :=
  measurements.eraseP (hasKind kind)

/-- Detaches a measurement. -/
def remove (measurements : Measurements) (kind : Measurement.Kind) :
    Option Measurement × Measurements :=
  (measurements.get? kind, measurements.erase kind)

def signal? (measurements : Measurements) : Option Float :=
  match measurements.get? .signal with
  | some (.signal dBm) => some dBm
  | _ => none

def snr? (measurements : Measurements) : Option Float :=
  match measurements.get? .snr with
  | some (.snr dB) => some dB
  | _ => none

def stations? (measurements : Measurements) : Option UInt32 :=
  match measurements.get? .stations with
  | some (.stations count) => some count
  | _ => none

end Measurements

end Roaming

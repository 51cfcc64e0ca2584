namespace Roaming

/-! Rates as one octet each: the rate itself, in units of 500 kb/s, below a bit that marks basic
rates.  A selector is a number from the top of the same range that stands for a required
feature. -/

structure Rate where
  octet : UInt8
deriving DecidableEq

namespace Rate

def unitMask : UInt8 := 0x7f

def basicBit : UInt8 := 0x80

def units (rate : Rate) : UInt8 :=
  rate.octet &&& unitMask

def isBasic (rate : Rate) : Bool :=
  rate.octet &&& basicBit != 0

/-- Bits above the seventh of `units` are lost. -/
def withUnits (rate : Rate) (units : UInt8) : Rate :=
  ⟨(rate.octet &&& basicBit) ||| (units &&& unitMask)⟩

def withBasic (rate : Rate) (basic : Bool) : Rate :=
  ⟨(rate.octet &&& unitMask) ||| (if basic then basicBit else 0)⟩

def ofUnits (units : UInt8) (basic : Bool) : Rate :=
  ((⟨0⟩ : Rate).withUnits units).withBasic basic

def htSelector : UInt8 := 127

def vhtSelector : UInt8 := 126

def heSelector : UInt8 := 122

def isSelector (units : UInt8) : Bool :=
  units == htSelector || units == vhtSelector || units == heSelector

/-- The OFDM rates of an extended rate PHY. -/
def ofdm : List UInt8 := [12, 18, 24, 36, 48, 72, 96, 108]

end Rate

abbrev RateSet := List Rate

namespace RateSet

def ofUnits (units basic : List UInt8) : RateSet :=
  units.map fun rate => Rate.ofUnits rate (basic.contains rate)

/-- Selectors are always marked basic. -/
def addSelector (rates : RateSet) (selector : UInt8) : RateSet :=
  rates ++ [Rate.ofUnits selector true]

def supports (rates : RateSet) (units : UInt8) : Bool :=
  rates.any fun rate => rate.units == units

def requires (rates : RateSet) (units : UInt8) : Bool :=
  rates.any fun rate => rate.units == units && rate.isBasic

/-- A selector is advertised the way a basic rate is. -/
def advertises (rates : RateSet) (selector : UInt8) : Bool :=
  rates.requires selector

/-- The rates proper, without the selectors. -/
def units (rates : RateSet) : List UInt8 :=
  (rates.map Rate.units).filter fun units => !Rate.isSelector units

end RateSet

end Roaming

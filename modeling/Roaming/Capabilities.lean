import Roaming.Config

namespace Roaming

/-! What a station and the network it joins have in common. -/

structure ContentionWindow where
  min : Nat
  max : Nat
deriving DecidableEq

namespace ContentionWindow

def ofdm : ContentionWindow := ⟨15, 1023⟩

def dsss : ContentionWindow := ⟨31, 1023⟩

end ContentionWindow

def shortSlot : Duration := .ofMicros 9

def longSlot : Duration := .ofMicros 20

def slotTime (short : Bool) : Duration :=
  if short then shortSlot else longSlot

structure Capabilities where
  /-- The rates that both sides support. -/
  rates : List UInt8 := []
  basicRates : List UInt8 := []
  shortPreamble : Bool := false
  shortSlots : Bool := false
  slotTime : Duration := longSlot
  contentionWindow : ContentionWindow := .ofdm
  nonErpProtection : Bool := false
  qos : Bool := false
  edca : Option EdcaParameters := none
  htMcs : McsSet := .empty
  greenfieldProtection : Bool := false
  rifsPermitted : Bool := false
  vhtMcs : McsSet := .empty
  heMcs : McsSet := .empty
deriving DecidableEq

namespace Capabilities

def commonRates (config : Config) (body : FrameBody) : List UInt8 :=
  config.supportedRates.filter body.rates.supports

def offersOfdm (body : FrameBody) : Bool :=
  Rate.ofdm.any body.rates.supports

/-- An absent element has no flag set. -/
def erpFlag (body : FrameBody) (flag : ErpFlag) : Bool :=
  (body.erp.getD .empty).has flag

def preambleOf (config : Config) (body : FrameBody) (erp : Bool) : Bool :=
  config.shortPreamble && body.capabilities.has .shortPreamble &&
    !(erp && erpFlag body .barkerPreamble)

def shortSlotsOf (config : Config) (body : FrameBody) : Bool :=
  config.shortSlots && body.capabilities.has .shortSlotTime

def adoptQos (capabilities : Capabilities) (config : Config)
    (body : FrameBody) : Capabilities :=
  if config.qos then
    { capabilities with qos := body.edca.isSome, edca := body.edca }
  else capabilities

/-- A peer that lacks the first scheme takes part in none. -/
def adoptHt (capabilities : Capabilities) (config : Config)
    (body : FrameBody) : Capabilities :=
  let peer := body.ht.getD {}
  let operation := body.htOperation.getD {}
  if !config.ht then capabilities
  else if peer.mcs.contains 0 then
    { capabilities with
      htMcs := (McsSet.ofList config.htMcs).inter peer.mcs
      greenfieldProtection := operation.nonGreenfieldPresent
      rifsPermitted := !config.vht && operation.rifs }
  else { capabilities with htMcs := .empty }

/-- A peer without a usable rate leaves the schemes as they were. -/
def adoptVht (capabilities : Capabilities) (config : Config)
    (body : FrameBody) : Capabilities :=
  let peer := body.vht.getD {}
  if config.vht && peer.highestRate > 0 then
    { capabilities with
      vhtMcs := (McsSet.ofList config.vhtMcs).inter peer.mcs }
  else capabilities

def adoptHe (capabilities : Capabilities) (config : Config)
    (body : FrameBody) : Capabilities :=
  let peer := body.he.getD {}
  if config.he then
    { capabilities with
      heMcs := (McsSet.ofList config.heMcs).inter peer.mcs }
  else capabilities

def adoptElements (capabilities : Capabilities) (config : Config)
    (body : FrameBody) : Capabilities :=
  (((capabilities.adoptQos config body).adoptHt config body).adoptVht
    config body).adoptHe config body

def adoptBeacon (capabilities : Capabilities) (config : Config)
    (body : FrameBody) : Capabilities :=
  adoptElements { capabilities with
    rates := commonRates config body
    shortPreamble := preambleOf config body config.erp
    shortSlots := shortSlotsOf config body
    nonErpProtection :=
      if config.erp then erpFlag body .useProtection
      else capabilities.nonErpProtection
    slotTime :=
      if config.erp then
        Roaming.slotTime (body.capabilities.has .shortSlotTime)
      else capabilities.slotTime } config body

/-- The slot time follows the setting in force before the response. -/
def adoptResponse (capabilities : Capabilities) (config : Config)
    (body : FrameBody) : Capabilities :=
  let ofdm := offersOfdm body
  let rates := commonRates config body
  adoptElements { capabilities with
    rates := rates
    basicRates := rates.filter body.rates.requires
    shortPreamble := preambleOf config body (config.erp && ofdm)
    shortSlots := shortSlotsOf config body
    slotTime :=
      if config.erp then Roaming.slotTime (ofdm && capabilities.shortSlots)
      else capabilities.slotTime
    contentionWindow :=
      if config.erp then (if ofdm then .ofdm else .dsss)
      else capabilities.contentionWindow } config body

end Capabilities

end Roaming

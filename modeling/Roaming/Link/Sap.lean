import Roaming.Link
import Roaming.Link.Ranking

namespace Roaming

/-! Service access points: the handover function's view of one interface. -/

inductive Medium
  | wifi (ranking : Ranking)
  /-- A wire has no other link to switch to. -/
  | ethernet
deriving DecidableEq

structure Sap where
  link : LinkId
  owner : MihfId
  medium : Medium
  /-- Events not yet collected, oldest first. -/
  outbox : List LinkEvent := []
  /-- Without a listener events are lost. -/
  heard : Bool := true
deriving DecidableEq

structure Discovery where
  status : LinkStatus
  events : Flags EventFlag
  commands : Flags CommandFlag
deriving DecidableEq

structure ParameterReport where
  status : LinkStatus
  parameters : List (LinkParameter × Float)
deriving DecidableEq

namespace Sap

def wifi (owner : MihfId) : Sap where
  link := ⟨.wifi, .null, .null⟩
  owner := owner
  medium := .wifi .untracked

def ethernet (owner : MihfId) (address : MacAddr) : Sap where
  link := ⟨.ethernet, address, .null⟩
  owner := owner
  medium := .ethernet

def ranking? (sap : Sap) : Option Ranking :=
  match sap.medium with
  | .wifi ranking => some ranking
  | .ethernet => none

def withType (sap : Sap) (type : LinkType) : Sap :=
  { sap with link := { sap.link with type := type } }

def withAddress (sap : Sap) (address : MacAddr) : Sap :=
  { sap with link := { sap.link with address := address } }

def withAttachment (sap : Sap) (attachment : MacAddr) : Sap :=
  { sap with link := { sap.link with attachment := attachment } }

def publish (sap : Sap) (event : LinkEvent) : Sap :=
  if sap.heard then { sap with outbox := sap.outbox ++ [event] } else sap

/-- Hands over the events published since the last time. -/
def collect (sap : Sap) : List LinkEvent × Sap :=
  (sap.outbox, { sap with outbox := [] })

def dropListener (sap : Sap) : Sap :=
  { sap with outbox := [], heard := false }

/-- Forgets the candidates taken so far. -/
def resetRanking (sap : Sap) : Sap :=
  match sap.medium with
  | .wifi _ => { sap with medium := .wifi .untracked }
  | .ethernet => sap

/-- Judges a detected link: whether the station should switch to it. -/
def detect (sap : Sap) (source : MihfId) (detected : DetectedLink) :
    Bool × Sap :=
  match sap.medium with
  | .wifi ranking =>
      let (accepted, ranking) := ranking.accept detected.signal detected.stations
      (accepted, { sap with medium := .wifi ranking }.publish
        (.detected source detected accepted))
  | .ethernet => (false, sap)

def linkUp (sap : Sap) (up : LinkUp) : Sap :=
  match sap.medium with
  | .wifi _ =>
      { sap with link := { up.link with attachment := up.newRouter } }.publish
        (.up up)
  | .ethernet => (sap.withAttachment up.newRouter).publish (.up up)

def linkDown (sap : Sap) (down : LinkDown) : Sap :=
  match sap.medium with
  | .wifi _ =>
      ((sap.withAttachment .null).resetRanking).publish (.down down)
  | .ethernet => sap.publish (.down down)

def linkLost (sap : Sap) : Sap :=
  sap.resetRanking

def discover (sap : Sap) : Discovery :=
  match sap.medium with
  | .wifi _ =>
      { status := .success
        events := .ofList [.detected, .up, .down, .parametersReport]
        commands := .ofList [.getParameters, .configureThresholds] }
  | .ethernet =>
      { status := .success
        events := .ofList [.up, .down]
        commands := .ofList [.getParameters] }

/-- Parameters are never reported. -/
def parameters (_ : Sap) (_ : List LinkParameter) : ParameterReport :=
  ⟨.success, []⟩

/-- Thresholds are not supported. -/
def configureThresholds (_ : Sap) (_ : List Threshold) : LinkStatus :=
  .unspecifiedFailure

def device (sap : Sap) : String :=
  match sap.medium with
  | .wifi _ => "OEM = wlan-handover"
  | .ethernet => "OEM = wlan-handover, wired"

end Sap

end Roaming

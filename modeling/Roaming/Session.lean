import Roaming.Link.Policy
import Roaming.Link.Sap
import Roaming.Station.Operation

namespace Roaming

/-! A station together with the parties that hear its notices: an observer who records them, and
service access points installed on it. -/

/-- Who hears a kind of notice. -/
inductive Hearer
  | observer
  | sap (index : Nat)
deriving DecidableEq

/-- Who answers for detected links. -/
inductive Judge
  | policy (policy : Policy)
  | sap (index : Nat)
deriving DecidableEq

structure Session where
  system : System
  saps : List Sap := []
  judge : Judge := .policy (.constant false)
  upHearer : Hearer := .observer
  downHearer : Hearer := .observer
  lostHearer : Hearer := .observer
  /-- Whether anybody still takes the station's requests. -/
  streaming : Bool := true

/-- What an observer of the session sees in one step. -/
structure Session.Report where
  session : Session
  trace : List Effect := []
  error? : Option StationError := none

namespace Session

def ofConfig (config : Config) : Session :=
  { system := .ofConfig config }

def updateSap (session : Session) (index : Nat) (f : Sap → Sap) : Session :=
  { session with saps := session.saps.modify index f }

/-- The judge's answer; one who is not there says no. -/
def decision (session : Session) : Decision := fun source detected =>
  match session.judge with
  | .policy policy => (policy.consult detected).1
  | .sap index =>
      match session.saps[index]? with
      | some sap => (sap.detect source detected).1
      | none => false

/-- Lets the judge take note of a link on which it was consulted. -/
def recordDetected (session : Session) (source : MihfId)
    (detected : DetectedLink) : Session :=
  match session.judge with
  | .policy policy =>
      { session with judge := .policy (policy.consult detected).2 }
  | .sap index =>
      session.updateSap index fun sap => (sap.detect source detected).2

/-- Gives a notice to a service access point, or leaves it to the observer. -/
def route (session : Session) (hearer : Hearer) (effect : Effect)
    (f : Sap → Sap) : List Effect × Session :=
  match hearer with
  | .observer => ([effect], session)
  | .sap index => ([], session.updateSap index f)

def deliver (session : Session) (effect : Effect) : List Effect × Session :=
  match effect with
  | .request _ => (if session.streaming then [effect] else [], session)
  | .notice (.detected source detected _) =>
      let observed := match session.judge with
        | .policy _ => [effect]
        | .sap _ => []
      (observed, session.recordDetected source detected)
  | .notice (.up up) =>
      session.route session.upHearer effect fun sap => sap.linkUp up
  | .notice (.down down) =>
      session.route session.downHearer effect fun sap => sap.linkDown down
  | .notice (.lost _) =>
      session.route session.lostHearer effect fun sap => sap.linkLost
  | .notice (.joined _) => ([effect], session)
  | .notice (.left _) => ([effect], session)

def deliverAll (session : Session) : List Effect → List Effect × Session
  | [] => ([], session)
  | effect :: effects =>
      let (first, session) := session.deliver effect
      let (rest, session) := session.deliverAll effects
      (first ++ rest, session)

def perform (session : Session) (operation : Operation) : Report :=
  let outcome := session.system.perform session.decision operation
  let (trace, session) :=
    { session with system := outcome.system }.deliverAll outcome.effects
  { session, trace, error? := outcome.error? }

def register (session : Session) (listener : Listener) : Session :=
  (session.perform (.register listener)).session

/-- Has the observer hear a kind of notice. -/
def observe (session : Session) (listener : Listener) : Session :=
  let session := match listener with
    | .up => { session with upHearer := .observer }
    | .down => { session with downHearer := .observer }
    | .lost => { session with lostHearer := .observer }
    | _ => session
  session.register listener

/-- Leaves detected links to a policy, under the observer's eyes. -/
def decideBy (session : Session) (source : MihfId) (policy : Policy) :
    Session :=
  { session with judge := .policy policy }.register (.detected source)

/-- Puts a service access point in charge of everything that concerns links.  It takes over the
station's address, if there is one. -/
def install (session : Session) (sap : Sap) : Session :=
  let sap := match session.system.station.address with
    | some address => sap.withAddress address
    | none => sap
  let index := session.saps.length
  let session := { session with
    saps := session.saps ++ [sap]
    judge := .sap index
    upHearer := .sap index
    downHearer := .sap index
    lostHearer := .sap index }
  [Listener.detected sap.owner, .up, .down, .lost].foldl register session

def dropStream (session : Session) : Session :=
  { session with streaming := false }

/-- Schedules an event that is not the station's. -/
def scheduleForeign (session : Session) (deadline : Time) :
    EventId × Session :=
  let (id, clock) := session.system.clock.schedule deadline
  (id, { session with system.clock := clock })

def cancelEvent (session : Session) (id : EventId) : Session :=
  { session with system.clock := session.system.clock.cancel id }

/-- Takes the next event from the clock and keeps it from the station. -/
def releaseNext (session : Session) : Option EventId × Session :=
  let (id, clock) := session.system.clock.advanceToNext
  (id, { session with system.clock := clock })

/-- Hands released events to the station, at most `count` of them, until one fails. -/
def dispatch (advance : Clock → Option EventId × Clock) :
    (count : Nat) → Session → List EventId × Report
  | 0, session => ([], { session })
  | count + 1, session =>
      let (id, clock) := advance session.system.clock
      let session := { session with system.clock := clock }
      match id with
      | none => ([], { session })
      | some id =>
          let report := session.perform (.timeout id)
          match report.error? with
          | some _ => ([id], report)
          | none =>
              let (ids, later) := dispatch advance count report.session
              (id :: ids, { later with trace := report.trace ++ later.trace })

def dispatchNext (session : Session) (count : Nat) : List EventId × Report :=
  dispatch Clock.advanceToNext count session

def dispatchUntil (session : Session) (bound : Time) (count : Nat) :
    List EventId × Report :=
  dispatch (fun clock => clock.advanceUntil bound) count session

def dispatchBy (session : Session) (delay : Duration) (count : Nat) :
    List EventId × Report :=
  session.dispatchUntil (session.system.clock.now.after delay) count

end Session

end Roaming

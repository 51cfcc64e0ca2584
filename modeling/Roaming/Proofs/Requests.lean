import Roaming.Proofs.Run

namespace Roaming

/-! What a station asks of the layers around it: frames to send, and payloads to hand up. -/

def Effect.request? : Effect → Option Request
  | .request asked => some asked
  | .notice _ => none

def Request.frame? : Request → Option OutgoingFrame
  | .transmit frame => some frame
  | .forwardUp _ _ _ => none
  | .toParent _ => none

theorem Request.eq_transmit {request : Request} {frame : OutgoingFrame}
    (hframe : request.frame? = some frame) : request = .transmit frame := by
  cases request with
  | transmit sent => exact congrArg _ (Option.some.inj hframe)
  | forwardUp | toParent => cases hframe

namespace OutgoingFrame

def asks (frame : OutgoingFrame) : Bool :=
  frame.header.kind == .assocRequest || frame.header.kind == .reassocRequest

def leaves (frame : OutgoingFrame) : Bool :=
  frame.header.kind == .disassociation

@[simp] theorem asks_assocRequest (own bssid : MacAddr) (ssid : Ssid)
    (config : Config) (reassociation : Bool) :
    (assocRequest own bssid ssid config reassociation).asks = true := by
  cases reassociation <;> rfl

@[simp] theorem receiver_assocRequest (own bssid : MacAddr) (ssid : Ssid)
    (config : Config) (reassociation : Bool) :
    (assocRequest own bssid ssid config reassociation).header.receiver =
      bssid := rfl

@[simp] theorem asks_probeRequest (own : MacAddr) (ssid : Ssid)
    (config : Config) :
    (probeRequest own ssid config).asks = false := rfl

@[simp] theorem asks_disassociation (own bssid : MacAddr) :
    (disassociation own bssid).asks = false := rfl

@[simp] theorem asks_data (own bssid destination : MacAddr)
    (payload : Payload) (qos : Bool) (tid : UInt8) :
    (data own bssid destination payload qos tid).asks = false := by
  cases qos <;> rfl

@[simp] theorem leaves_data (own bssid destination : MacAddr)
    (payload : Payload) (qos : Bool) (tid : UInt8) :
    (data own bssid destination payload qos tid).leaves = false := by
  cases qos <;> rfl

end OutgoingFrame

def Outcome.requests (outcome : Outcome) : List Request :=
  outcome.effects.filterMap Effect.request?

namespace Turn

def requests (turn : Turn) : List Request :=
  turn.effects.filterMap Effect.request?

variable (turn : Turn) (own : MacAddr)

@[simp] theorem requests_emit (request : Request) :
    (turn.emit (.request request)).requests = turn.requests ++ [request] := by
  simp [requests, Effect.request?]

@[simp] theorem requests_transmit (frame : OutgoingFrame) :
    (turn.transmit frame).requests = turn.requests ++ [.transmit frame] :=
  requests_emit turn _

@[simp] theorem requests_report (notice : Notice) :
    (turn.report notice).requests = turn.requests := by
  simp [requests, Effect.request?]

@[simp] theorem requests_enter (phase : Phase) :
    (turn.enter phase).requests = turn.requests := rfl

@[simp] theorem requests_start (kind : Timeout) (delay : Duration) :
    (turn.start kind delay).requests = turn.requests := rfl

@[simp] theorem requests_stop (kind : Timeout) :
    (turn.stop kind).requests = turn.requests := rfl

@[simp] theorem requests_dropReceived :
    turn.dropReceived.requests = turn.requests := rfl

@[simp] theorem requests_dropOutgoing :
    turn.dropOutgoing.requests = turn.requests := rfl

@[simp] theorem requests_reportUp (bssid : MacAddr) :
    (turn.reportUp own bssid).requests = turn.requests := by
  unfold reportUp
  split
  · exact requests_report turn _
  · rfl

@[simp] theorem requests_reportLost :
    turn.reportLost.requests = turn.requests := by
  unfold reportLost
  split
  · exact requests_report turn _
  · rfl

@[simp] theorem requests_reportDown :
    (turn.reportDown own).requests = turn.requests := by
  unfold reportDown
  split
  · rfl
  · simp only
    split
    · exact requests_report _ _
    · rfl

@[simp] theorem requests_probe :
    (turn.probe own).requests = turn.requests ++ [.transmit
      (.probeRequest own turn.station.ssid turn.station.config)] :=
  requests_transmit turn _

@[simp] theorem requests_join (attempt : Attempt) :
    (turn.join own attempt).requests = turn.requests ++ [.transmit
      (.assocRequest own attempt.target turn.station.ssid turn.station.config
        attempt.reassociation)] :=
  requests_transmit turn _

@[simp] theorem requests_followBeacon (frame : Frame) :
    (turn.followBeacon frame).requests = turn.requests := rfl

@[simp] theorem requests_followResponse (frame : Frame) :
    (turn.followResponse frame).requests = turn.requests := rfl

@[simp] theorem requests_consult (decision : Decision) (frame : Frame) :
    (turn.consult own decision frame).2.requests = turn.requests := by
  unfold consult
  split
  · rfl
  · exact requests_report turn _

@[simp] theorem requests_consulted (decision : Decision) (frame : Frame) :
    (turn.consulted own decision frame).requests = turn.requests := by
  unfold consulted
  split
  · rfl
  · exact requests_consult ..

@[simp] theorem requests_acceptAssociation (frame : Frame) :
    (turn.acceptAssociation own frame).requests = turn.requests := by
  simp only [acceptAssociation, requests_enter]
  exact requests_reportUp _ own _

@[simp] theorem requests_search :
    (turn.search own).requests = turn.requests ++
      (bif turn.station.activeProbing then [.transmit
        (.probeRequest own turn.station.ssid turn.station.config)]
      else []) := by
  unfold search
  cases hprobing : turn.station.activeProbing <;> simp

@[simp] theorem requests_loseNetwork :
    (turn.loseNetwork own).requests = turn.requests ++
      (bif turn.station.activeProbing then [.transmit
        (.probeRequest own turn.station.ssid turn.station.config)]
      else []) := by
  simp [loseNetwork_eq]

def farewell : List Request :=
  match turn.station.isAssociated, turn.station.bssid with
  | true, some bssid => [.transmit (.disassociation own bssid)]
  | _, _ => []

@[simp] theorem forwardUp_not_mem_farewell (source destination : MacAddr)
    (payload : Payload) :
    .forwardUp source destination payload ∉ turn.farewell own := by
  unfold farewell
  split <;> simp

@[simp] theorem requests_depart :
    (turn.depart own).requests = turn.requests ++ turn.farewell own := by
  unfold depart leave farewell
  cases turn.station.isAssociated with
  | true => cases turn.station.bssid <;> simp
  | false => simp

@[simp] theorem requests_joinSender (frame : Frame) :
    (turn.joinSender own frame).requests = turn.requests ++ [.transmit
      (.assocRequest own frame.header.third turn.station.ssid
        turn.station.config false)] := by
  simp [joinSender]

@[simp] theorem requests_joinResponder (decision : Decision) (frame : Frame) :
    (turn.joinResponder own decision frame).requests = turn.requests ++
      [.transmit (.assocRequest own frame.header.transmitter turn.station.ssid
        turn.station.config false)] := by
  simp [joinResponder]

@[simp] theorem requests_forward (frame : Frame) :
    (turn.forward frame).requests = turn.requests ++ [.forwardUp
      frame.header.third frame.header.receiver frame.payload] :=
  requests_emit _ _

private theorem requests_parting (wasAssociated : Bool) :
    (turn.parting wasAssociated).filterMap Effect.request? = [] := by
  unfold parting
  split
  · split <;> rfl
  · split <;> rfl
  · rfl

end Turn

theorem Outcome.requests_of_parting {outcome : Outcome} {turn : Turn}
    {wasAssociated : Bool} (heffects : outcome.effects =
      turn.effects ++ turn.parting wasAssociated) :
    outcome.requests = turn.requests := by
  rw [requests, heffects, List.filterMap_append, Turn.requests_parting,
    List.append_nil]
  rfl

@[simp] theorem Turn.requests_outcome (turn : Turn) (wasAssociated : Bool) :
    (turn.outcome wasAssociated).requests = turn.requests :=
  Outcome.requests_of_parting (effects_settle ..)

theorem System.requests_act {system : System} {own : MacAddr}
    (haddress : system.station.address = some own)
    (handler : MacAddr → Turn → Turn) :
    (system.act handler).requests =
      (handler own ⟨system.station, system.clock, []⟩).requests := by
  unfold act
  rw [haddress]
  exact Outcome.requests_of_parting (Turn.effects_settle ..)

@[simp] theorem System.requests_opening (system : System)
    (operation : Operation) :
    (system.opening operation).requests = [] := rfl

namespace Request

/-- The kind of frame to be sent, if it is one. -/
def kind? (request : Request) : Option FrameKind :=
  request.frame?.map fun frame => frame.header.kind

@[simp] theorem kind?_forwardUp (source destination : MacAddr)
    (payload : Payload) :
    (forwardUp source destination payload).kind? = none := rfl

@[simp] theorem kind?_toParent (frame : Frame) :
    (toParent frame).kind? = none := rfl

@[simp] theorem kind?_probeRequest (own : MacAddr) (ssid : Ssid)
    (config : Config) :
    (transmit (.probeRequest own ssid config)).kind? =
      some .probeRequest := rfl

@[simp] theorem kind?_assocRequest (own bssid : MacAddr) (ssid : Ssid)
    (config : Config) (reassociation : Bool) :
    (transmit (.assocRequest own bssid ssid config reassociation)).kind? =
      some (if reassociation then .reassocRequest else .assocRequest) := rfl

end Request

theorem Turn.kind?_of_mem_farewell {turn : Turn} {own : MacAddr}
    {request : Request} (hrequest : request ∈ turn.farewell own) :
    request.kind? = some .disassociation := by
  unfold farewell at hrequest
  split at hrequest
  · rw [List.mem_singleton.mp hrequest]
    rfl
  · cases hrequest

def Turn.transmits (turn : Turn) (kind : FrameKind) : Bool :=
  turn.requests.any fun request => request.kind? == some kind

/-- Whether a moment has a frame of some kind sent. -/
def Moment.transmits (moment : Moment) (kind : FrameKind) : Bool :=
  moment.outcome.requests.any fun request => request.kind? == some kind

theorem Moment.transmits_of_parting {moment : Moment} {turn : Turn}
    {wasAssociated : Bool} (heffects : moment.outcome.effects =
      turn.effects ++ turn.parting wasAssociated) (kind : FrameKind) :
    moment.transmits kind = turn.transmits kind := by
  rw [transmits, Outcome.requests_of_parting heffects]
  rfl

/-- Whatever is asked for at a moment, the station's reaction to the operation asks for it. -/
theorem Moment.reaction_of_request {moment : Moment} {request : Request}
    (hrequest : request ∈ moment.outcome.requests) :
    ∃ operation turn, moment.operation? = some operation ∧
      Reaction moment.opened moment.move.decision operation turn ∧
      moment.after.station = { turn.station with
        reportedAp := turn.settledAp moment.before.station.isAssociated } ∧
      moment.outcome.effects =
        turn.effects ++ turn.parting moment.before.station.isAssociated ∧
      request ∈ turn.requests := by
  cases moment.course with
  | idle _ _ heffects => simp [heffects, Outcome.requests] at hrequest
  | reacted hoperation hreaction hstation _ heffects =>
      rw [Outcome.requests_of_parting heffects] at hrequest
      exact ⟨_, _, hoperation, hreaction, hstation, heffects, hrequest⟩

end Roaming

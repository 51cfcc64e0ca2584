import Roaming.Proofs.Turn

namespace Roaming

/-! Which frames a station heeds, and what it makes of those that it does. -/

theorem Phase.isAssociated_of_isOpen {phase : Phase}
    (hopen : phase.isOpen = true) : phase.isAssociated = false := by
  cases phase <;> first | rfl | cases hopen

theorem Phase.eq_of_isAssociated {phase : Phase}
    (hassociated : phase.isAssociated = true) : phase = .associated := by
  cases phase <;> first | rfl | cases hassociated

theorem Station.isAssociated_iff {station : Station} :
    station.isAssociated = true ↔ station.phase = .associated := by
  refine ⟨Phase.eq_of_isAssociated, fun hphase => ?_⟩
  rw [isAssociated, hphase]
  rfl

/-- Whether a frame from the air is neither an own one nor meant for somebody else. -/
def Frame.reaches (frame : Frame) (own : MacAddr) : Bool :=
  decide (frame.header.third ≠ own) &&
    (decide (frame.header.receiver = own) || frame.header.receiver.isGroup)

/-- A frame that reaches the station passes both checks on its way in. -/
theorem Frame.heard_of_reaches {own : MacAddr} {frame : Frame}
    (hreaches : frame.reaches own = true) :
    frame.header.third ≠ own ∧
      ¬(frame.header.receiver ≠ own ∧ !frame.header.receiver.isGroup) := by
  obtain ⟨hthird, hours⟩ := Bool.and_eq_true_iff.mp hreaches
  refine ⟨of_decide_eq_true hthird, ?_⟩
  rintro ⟨hother, hsingle⟩
  simp [hother] at hours
  simp [hours] at hsingle

namespace Station

def attends (station : Station) (frame : Frame) : Bool :=
  station.isAssociated && station.bssid == some frame.header.third

def prefers (station : Station) (own : MacAddr) (decision : Decision)
    (frame : Frame) : Bool :=
  match station.listeners.detected with
  | none => false
  | some source =>
      !station.attends frame && decision source (Turn.detectedLink own frame)

/-- Whether a beacon makes the station leave whatever it has for the sender. -/
def switches (station : Station) (own : MacAddr) (decision : Decision)
    (frame : Frame) : Bool :=
  Turn.advertisesAny station.config frame.body.rates &&
    station.prefers own decision frame

/-- Whether a beacon comes from the station's own network, or from one that it could join. -/
def suits (station : Station) (frame : Frame) : Bool :=
  Turn.advertisesAny station.config frame.body.rates &&
    station.wantsSsid frame.body.ssid &&
    (station.bssid == some frame.header.third || !station.phase.isBound)

theorem bssid_of_suits {station : Station} {frame : Frame}
    (hsuits : station.suits frame = true)
    (hbound : station.phase.isBound = true) :
    station.bssid = some frame.header.third := by
  simpa [suits, hbound] using (Bool.and_eq_true_iff.mp hsuits).2

/-- Whether a probe response answers a search and names a network to join. -/
def answers (station : Station) (frame : Frame) : Bool :=
  decide (station.phase = .probing) &&
    station.wantsSsid frame.body.ssid &&
    Turn.advertisesAll station.config frame.body.rates

/-- Whether a frame is taken as a sign of life that the watchdog has to know of. -/
def heeds (station : Station) (decision : Decision) (frame : Frame) : Bool :=
  match station.address with
  | none => false
  | some own =>
      frame.reaches own &&
        match frame.header.kind with
        | .beacon =>
            station.switches own decision frame || station.suits frame
        | .probeResponse => station.answers frame
        | _ => false

theorem heeds_of_kind (station : Station) (decision : Decision)
    {frame : Frame} (hbeacon : frame.header.kind ≠ .beacon)
    (hresponse : frame.header.kind ≠ .probeResponse) :
    station.heeds decision frame = false := by
  unfold heeds
  split
  · rfl
  · split
    · contradiction
    · contradiction
    · exact Bool.and_false _

/-- A station after the settings that an operation brings, and after the event that it hands
over is taken. -/
def prepare (station : Station) : Operation → Station
  | .setAddress address => { station with address := some address }
  | .register listener =>
      { station with listeners := station.listeners.add listener }
  | .timeout id =>
      { station with timeouts := (station.timeouts.take id).2 }
  | .setActiveProbing on => { station with activeProbing := on }
  | .setSsid ssid => { station with ssid := ssid }
  | _ => station

section Prepare

variable (station : Station)

@[simp] theorem prepare_setAddress (address : MacAddr) :
    station.prepare (.setAddress address) =
      { station with address := some address } := rfl

@[simp] theorem prepare_register (listener : Listener) :
    station.prepare (.register listener) =
      { station with listeners := station.listeners.add listener } := rfl

@[simp] theorem prepare_ensureAssociated :
    station.prepare .ensureAssociated = station := rfl

@[simp] theorem prepare_receive (frame : Frame) :
    station.prepare (.receive frame) = station := rfl

@[simp] theorem prepare_timeout (id : EventId) :
    station.prepare (.timeout id) =
      { station with timeouts := (station.timeouts.take id).2 } := rfl

@[simp] theorem prepare_send (destination : MacAddr) (payload : Payload)
    (tid : UInt8) :
    station.prepare (.send destination payload tid) = station := rfl

@[simp] theorem prepare_capabilitiesChanged :
    station.prepare .capabilitiesChanged = station := rfl

@[simp] theorem prepare_setActiveProbing (on : Bool) :
    station.prepare (.setActiveProbing on) =
      { station with activeProbing := on } := rfl

@[simp] theorem prepare_setSsid (ssid : Ssid) :
    station.prepare (.setSsid ssid) = { station with ssid := ssid } := rfl

end Prepare

@[simp] theorem config_prepare (station : Station) (operation : Operation) :
    (station.prepare operation).config = station.config := by
  cases operation <;> rfl

@[simp] theorem phase_prepare (station : Station) (operation : Operation) :
    (station.prepare operation).phase = station.phase := by
  cases operation <;> rfl

@[simp] theorem isAssociated_prepare (station : Station)
    (operation : Operation) :
    (station.prepare operation).isAssociated = station.isAssociated :=
  congrArg Phase.isAssociated (phase_prepare ..)

@[simp] theorem bssid_prepare (station : Station) (operation : Operation) :
    (station.prepare operation).bssid = station.bssid := by
  cases operation <;> rfl

@[simp] theorem coverage_prepare (station : Station) (operation : Operation) :
    (station.prepare operation).timeouts.coverage =
      station.timeouts.coverage := by
  cases operation with
  | timeout id => exact Timeouts.coverage_take ..
  | setAddress | register | ensureAssociated | receive | send
  | capabilitiesChanged | setActiveProbing | setSsid => rfl

/-- When there is nothing to do but to note what an operation brings. -/
def Rests (station : Station) : Operation → Prop
  | .setAddress _ => True
  | .register _ => True
  | .ensureAssociated =>
      station.address = none ∨ station.phase ≠ .searching
  | .receive frame => ∀ own, station.address = some own →
      frame.header.third = own ∨
      frame.header.kind = .probeResponse ∧ station.phase ≠ .probing ∨
      (frame.header.kind = .assocResponse ∨
        frame.header.kind = .reassocResponse) ∧
        ∀ attempt, station.phase ≠ .joining attempt
  | .timeout id => (station.timeouts.take id).1 = none
  | .send _ _ _ => station.address = none
  | .capabilitiesChanged => station.address = none ∨
      station.isAssociated = false ∨ station.bssid = none
  | .setActiveProbing on => station.address = none ∨
      on = true ∧ station.phase ≠ .searching
  | .setSsid _ => station.address = none ∨ station.phase ≠ .refused

theorem isRunning_prepare {station : Station} {operation : Operation}
    (hrests : station.Rests operation) (kind : Timeout) :
    (station.prepare operation).timeouts.isRunning kind =
      station.timeouts.isRunning kind := by
  cases operation with
  | timeout id =>
      have hstale : (station.timeouts.take id).1 = none := hrests
      simp [Timeouts.isRunning_take, hstale]
  | setAddress | register | ensureAssociated | receive | send
  | capabilitiesChanged | setActiveProbing | setSsid => rfl

/-- When a timeout that ran has nothing to do with the phase that it finds. -/
def Outlives (station : Station) (kind : Timeout) : Prop :=
  station.address = none ∨
  match kind with
  | .probeRequest => station.phase ≠ .probing
  | .assocRequest => ∀ attempt, station.phase ≠ .joining attempt
  | .beaconWatchdog => station.phase = .refused

end Station

namespace Turn

def consulted (turn : Turn) (own : MacAddr) (decision : Decision)
    (frame : Frame) : Turn :=
  if turn.station.attends frame then turn
  else (turn.consult own decision frame).2

@[simp] theorem station_consulted (turn : Turn) (own : MacAddr)
    (decision : Decision) (frame : Frame) :
    (turn.consulted own decision frame).station = turn.station := by
  unfold consulted
  split
  · rfl
  · exact station_consult ..

@[simp] theorem clock_consulted (turn : Turn) (own : MacAddr)
    (decision : Decision) (frame : Frame) :
    (turn.consulted own decision frame).clock = turn.clock := by
  unfold consulted
  split
  · rfl
  · exact clock_consult ..

def depart (turn : Turn) (own : MacAddr) : Turn :=
  if turn.station.isAssociated then turn.leave own else turn

@[simp] theorem station_depart (turn : Turn) (own : MacAddr) :
    (turn.depart own).station = turn.station := by
  unfold depart
  split
  · exact station_leave ..
  · rfl

@[simp] theorem clock_depart (turn : Turn) (own : MacAddr) :
    (turn.depart own).clock = turn.clock := by
  unfold depart
  split
  · exact clock_leave ..
  · rfl

def joinSender (turn : Turn) (own : MacAddr) (frame : Frame) : Turn :=
  ((turn.followBeacon frame).stop .probeRequest).join own
    ⟨false, frame.header.third⟩

private theorem consult_unless_attends (turn : Turn) (own : MacAddr)
    (decision : Decision) (frame : Frame) :
    (if turn.station.isAssociated &&
        turn.station.bssid == some frame.header.third then (false, turn)
      else turn.consult own decision frame) =
      (turn.station.prefers own decision frame,
        turn.consulted own decision frame) := by
  unfold consulted Station.prefers
  change (if turn.station.attends frame then _ else _) = _
  cases hattends : turn.station.attends frame with
  | true => cases turn.station.listeners.detected <;> rfl
  | false =>
      cases hlistener : turn.station.listeners.detected with
      | none => simp [consult, hlistener]
      | some source => simp [consult, hlistener]

theorem receive_beacon {turn : Turn} {own : MacAddr} {decision : Decision}
    {frame : Frame} (hreaches : frame.reaches own = true)
    (hkind : frame.header.kind = .beacon) :
    turn.receive own decision frame =
      turn.receiveBeacon own decision frame := by
  obtain ⟨hthird, hours⟩ := Frame.heard_of_reaches hreaches
  rw [receive, if_neg hthird, if_neg hours, hkind]

theorem receiveBeacon_eq (turn : Turn) (own : MacAddr) (decision : Decision)
    (frame : Frame) :
    turn.receiveBeacon own decision frame =
      if turn.station.switches own decision frame then
        ((turn.consulted own decision frame).depart own).joinSender own frame
      else if turn.station.suits frame then
        if turn.station.phase.isOpen then
          (turn.consulted own decision frame).joinSender own frame
        else (turn.consulted own decision frame).followBeacon frame
      else (turn.consulted own decision frame).dropReceived := by
  unfold receiveBeacon
  simp only [consult_unless_attends]
  unfold joinSender depart
  cases hswitch : turn.station.switches own decision frame with
  | true =>
      have heligible := hswitch
      unfold Station.switches at heligible
      simp [heligible]
  | false =>
      have heligible := hswitch
      unfold Station.switches at heligible
      cases hsuits : turn.station.suits frame with
      | true =>
          have hsuitable := hsuits
          unfold Station.suits at hsuitable
          simp [heligible, hsuitable]
      | false =>
          have hsuitable := hsuits
          unfold Station.suits at hsuitable
          simp [heligible, hsuitable]

def joinResponder (turn : Turn) (own : MacAddr) (decision : Decision)
    (frame : Frame) : Turn :=
  ((((turn.followResponse frame).stop .probeRequest).consult own decision
    frame).2).join own ⟨false, frame.header.transmitter⟩

@[simp] theorem station_joinSender (turn : Turn) (own : MacAddr)
    (frame : Frame) :
    (turn.joinSender own frame).station = { turn.station with
      phase := .joining ⟨false, frame.header.third⟩
      timeouts := (((turn.followBeacon frame).stop .probeRequest).join own
        ⟨false, frame.header.third⟩).station.timeouts
      bssid := some frame.header.third
      capabilities := turn.station.capabilities.adoptBeacon
        turn.station.config frame.body } := by
  simp [joinSender]

@[simp] theorem station_joinResponder (turn : Turn) (own : MacAddr)
    (decision : Decision) (frame : Frame) :
    (turn.joinResponder own decision frame).station = { turn.station with
      phase := .joining ⟨false, frame.header.transmitter⟩
      timeouts := (((turn.followResponse frame).stop .probeRequest).join own
        ⟨false, frame.header.transmitter⟩).station.timeouts
      bssid := some frame.header.transmitter
      capabilities := turn.station.capabilities.adoptResponse
        turn.station.config frame.body } := by
  simp [joinResponder]

def forward (turn : Turn) (frame : Frame) : Turn :=
  { turn with
    station.counters.forwardedUp :=
      turn.station.counters.forwardedUp + 1 }.emit
    (.request (.forwardUp frame.header.third frame.header.receiver
      frame.payload))

@[simp] theorem station_forward (turn : Turn) (frame : Frame) :
    (turn.forward frame).station = { turn.station with
      counters.forwardedUp := turn.station.counters.forwardedUp + 1 } := rfl

@[simp] theorem clock_forward (turn : Turn) (frame : Frame) :
    (turn.forward frame).clock = turn.clock := rfl

end Turn

end Roaming

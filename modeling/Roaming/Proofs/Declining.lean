import Roaming.Proofs.AssociationTrace

namespace Roaming

/-! What is left of a station, and of what happens to it, if nobody asks about detected links or
looks at measurements.  Leaving these out commutes with every step, unless a listener has the
station switch. -/

def Frame.plain (frame : Frame) : Frame :=
  { frame with measurements := [] }

def Station.plain (station : Station) : Station :=
  { station with listeners.detected := none }

def System.plain (system : System) : System :=
  ⟨system.station.plain, system.clock⟩

/-- Detected links are left out, and so are the measurements of frames passed on. -/
def Effect.plain? : Effect → Option Effect
  | .notice (.detected _ _ _) => none
  | .request (.toParent frame) => some (.request (.toParent frame.plain))
  | effect => some effect

def Outcome.plain (outcome : Outcome) : Outcome where
  system := outcome.system.plain
  effects := outcome.effects.filterMap Effect.plain?
  error? := outcome.error?

namespace Operation

def plain : Operation → Operation
  | .receive frame => .receive frame.plain
  | operation => operation

/-- Whether all that is done is to have a listener asked about detected links. -/
def hooks : Operation → Bool
  | .register (.detected _) => true
  | _ => false

end Operation

section Fields

variable (station : Station) (frame : Frame)

@[simp] theorem Station.phase_plain : station.plain.phase = station.phase := rfl

@[simp] theorem Station.bssid_plain : station.plain.bssid = station.bssid := rfl

@[simp] theorem Station.isAssociated_plain :
    station.plain.isAssociated = station.isAssociated := rfl

@[simp] theorem Station.timeouts_plain :
    station.plain.timeouts = station.timeouts := rfl

@[simp] theorem Station.activeProbing_plain :
    station.plain.activeProbing = station.activeProbing := rfl

@[simp] theorem Frame.header_plain : frame.plain.header = frame.header := rfl

@[simp] theorem Frame.body_plain : frame.plain.body = frame.body := rfl

end Fields

namespace Turn

def plain (turn : Turn) : Turn where
  station := turn.station.plain
  clock := turn.clock
  effects := turn.effects.filterMap Effect.plain?

section Plain

variable (turn : Turn) (own : MacAddr)

@[simp] theorem station_plain : turn.plain.station = turn.station.plain := rfl

@[simp] theorem clock_plain : turn.plain.clock = turn.clock := rfl

private theorem plain_emit {effect told : Effect} (h : effect.plain? = some told) :
    (turn.emit effect).plain = turn.plain.emit told := by
  simp [plain, emit, h]

private theorem plain_emit_none {effect : Effect} (h : effect.plain? = none) :
    (turn.emit effect).plain = turn.plain := by
  simp [plain, emit, h]

@[simp] theorem plain_transmit (frame : OutgoingFrame) :
    (turn.transmit frame).plain = turn.plain.transmit frame :=
  plain_emit turn rfl

@[simp] theorem plain_enter (phase : Phase) :
    (turn.enter phase).plain = turn.plain.enter phase := rfl

@[simp] theorem plain_start (kind : Timeout) (delay : Duration) :
    (turn.start kind delay).plain = turn.plain.start kind delay := rfl

@[simp] theorem plain_stop (kind : Timeout) :
    (turn.stop kind).plain = turn.plain.stop kind := rfl

@[simp] theorem plain_dropReceived :
    turn.dropReceived.plain = turn.plain.dropReceived := rfl

@[simp] theorem plain_dropOutgoing :
    turn.dropOutgoing.plain = turn.plain.dropOutgoing := rfl

@[simp] theorem plain_followBeacon (frame : Frame) :
    (turn.followBeacon frame).plain = turn.plain.followBeacon frame.plain := rfl

@[simp] theorem plain_followResponse (frame : Frame) :
    (turn.followResponse frame).plain =
      turn.plain.followResponse frame.plain := rfl

@[simp] theorem plain_consult (decision : Decision) (frame : Frame) :
    (turn.consult own decision frame).2.plain = turn.plain := by
  unfold consult
  split
  · rfl
  · exact plain_emit_none turn rfl

private theorem consult_plain (decision : Decision) (frame : Frame) :
    turn.plain.consult own decision frame = (false, turn.plain) := rfl

@[simp] theorem plain_consulted (decision : Decision) (frame : Frame) :
    (turn.consulted own decision frame).plain = turn.plain := by
  unfold consulted
  split
  · rfl
  · exact plain_consult ..

@[simp] theorem consulted_plain (decision : Decision) (frame : Frame) :
    turn.plain.consulted own decision frame = turn.plain := by
  unfold consulted
  split
  · rfl
  · rw [consult_plain]

@[simp] theorem plain_reportUp (bssid : MacAddr) :
    (turn.reportUp own bssid).plain = turn.plain.reportUp own bssid := by
  unfold reportUp
  rw [apply_ite plain]
  exact ite_congr rfl (fun _ => plain_emit turn rfl) fun _ => rfl

@[simp] theorem plain_reportLost :
    turn.reportLost.plain = turn.plain.reportLost := by
  unfold reportLost
  rw [apply_ite plain]
  exact ite_congr rfl (fun _ => plain_emit turn rfl) fun _ => rfl

@[simp] theorem plain_reportDown :
    (turn.reportDown own).plain = turn.plain.reportDown own := by
  unfold reportDown
  simp only [apply_ite plain]
  refine ite_congr rfl (fun _ => rfl) fun _ => ?_
  exact ite_congr rfl (fun _ => plain_emit _ rfl) fun _ => rfl

@[simp] theorem plain_probe :
    (turn.probe own).plain = turn.plain.probe own := by
  rw [probe, plain_start, plain_transmit]
  rfl

@[simp] theorem plain_join (attempt : Attempt) :
    (turn.join own attempt).plain = turn.plain.join own attempt := by
  rw [join, plain_enter, plain_start, plain_transmit]
  rfl

@[simp] theorem plain_leave :
    (turn.leave own).plain = turn.plain.leave own := by
  unfold leave
  simp only [station_plain, Station.bssid_plain]
  split
  · exact plain_transmit ..
  · rfl

@[simp] theorem plain_depart :
    (turn.depart own).plain = turn.plain.depart own := by
  unfold depart
  rw [apply_ite plain, plain_leave]
  rfl

@[simp] theorem plain_ensureAssociated :
    (turn.ensureAssociated own).plain = turn.plain.ensureAssociated own := by
  by_cases hphase : turn.station.phase = .searching
  · rw [ensureAssociated_of_searching turn own hphase,
      ensureAssociated_of_searching turn.plain own hphase]
    unfold search
    simp only [apply_ite plain, plain_enter, plain_probe, plain_reportDown,
      station_plain, Station.activeProbing_plain]
    rfl
  · rw [ensureAssociated_of_ne turn own hphase,
      ensureAssociated_of_ne turn.plain own hphase]

@[simp] theorem plain_loseNetwork :
    (turn.loseNetwork own).plain = turn.plain.loseNetwork own := by
  simp [loseNetwork]

@[simp] theorem plain_acceptAssociation (frame : Frame) :
    (turn.acceptAssociation own frame).plain =
      turn.plain.acceptAssociation own frame.plain := by
  unfold acceptAssociation
  simp only [plain_enter]
  exact congrArg (fun turn : Turn => ({ turn with
    station.previousAp := some frame.header.transmitter } : Turn).enter
      .associated) (plain_reportUp _ own _)

private theorem plain_receiveAssocResponse (frame : Frame) :
    (turn.receiveAssocResponse own frame).plain =
      turn.plain.receiveAssocResponse own frame.plain := by
  unfold receiveAssocResponse
  simp only [station_plain, Station.phase_plain, Frame.header_plain,
    Frame.body_plain]
  split
  · simp only [apply_ite plain, plain_acceptAssociation, plain_enter,
      plain_stop, plain_dropReceived]
    rfl
  · rfl

private theorem plain_receiveData (frame : Frame) :
    (turn.receiveData frame).plain = turn.plain.receiveData frame.plain := by
  unfold receiveData
  rw [apply_ite plain]
  exact ite_congr rfl (fun _ => plain_emit _ rfl) fun _ => rfl

private theorem plain_receiveProbeResponse (decision other : Decision)
    (frame : Frame) :
    (turn.receiveProbeResponse own decision frame).plain =
      turn.plain.receiveProbeResponse own other frame.plain := by
  unfold receiveProbeResponse
  simp only [station_plain, Station.phase_plain]
  split
  · rw [apply_ite plain, plain_join, plain_consult, plain_stop,
      plain_followResponse]
    rfl
  · rfl

private theorem plain_joinSender (frame : Frame) :
    (turn.joinSender own frame).plain =
      turn.plain.joinSender own frame.plain := by
  simp [joinSender]

/-- A beacon on which the station does not switch is taken for what it says itself. -/
private theorem plain_receiveBeacon {decision : Decision} (other : Decision)
    {frame : Frame}
    (hstays : turn.station.switches own decision frame = false) :
    (turn.receiveBeacon own decision frame).plain =
      turn.plain.receiveBeacon own other frame.plain := by
  have hplain : turn.plain.station.switches own other frame.plain = false := by
    simp [Station.switches, Station.prefers, Station.plain]
  have hsuits : turn.plain.station.suits frame.plain =
      turn.station.suits frame := rfl
  rw [receiveBeacon_eq, receiveBeacon_eq, hstays, hplain, hsuits]
  simp only [Bool.false_eq_true, if_false, apply_ite plain, plain_joinSender,
    plain_followBeacon, plain_dropReceived, plain_consulted, consulted_plain,
    station_plain, Station.phase_plain]

private theorem stays_of_declines {decision : Decision} {frame : Frame}
    (hdeclines : ∀ source link, .detected source link true ∉
      (turn.receiveBeacon own decision frame).notices) :
    turn.station.switches own decision frame = false := by
  refine eq_false_of_ne_true fun hswitches => ?_
  have hprefers : turn.station.prefers own decision frame = true :=
    (Bool.and_eq_true_iff.mp hswitches).2
  obtain ⟨hother, source, link, hquestion⟩ :=
    Station.mem_question_of_prefers hprefers
  refine hdeclines source link ?_
  rw [notices_receiveBeacon, notices_consulted, hother]
  exact List.mem_append_right _ hquestion

private theorem plain_receive {decision : Decision} (other : Decision) {frame : Frame}
    (hdeclines : ∀ source link, .detected source link true ∉
      (turn.receive own decision frame).notices) :
    (turn.receive own decision frame).plain =
      turn.plain.receive own other frame.plain := by
  unfold receive at hdeclines ⊢
  rw [Frame.header_plain]
  by_cases hthird : frame.header.third = own
  · rw [if_pos hthird, if_pos hthird]
  rw [if_neg hthird] at hdeclines
  rw [if_neg hthird, if_neg hthird]
  by_cases hothers : frame.header.receiver ≠ own ∧
      !frame.header.receiver.isGroup
  · rw [if_pos hothers, if_pos hothers, plain_dropReceived]
  rw [if_neg hothers] at hdeclines
  rw [if_neg hothers, if_neg hothers]
  cases hkind : frame.header.kind with
  | beacon =>
      simp only [hkind] at hdeclines
      exact plain_receiveBeacon turn own other
        (stays_of_declines turn own hdeclines)
  | probeResponse => exact plain_receiveProbeResponse ..
  | assocResponse | reassocResponse => exact plain_receiveAssocResponse ..
  | data | qosData => exact plain_receiveData ..
  | disassociation | action => exact plain_emit turn rfl
  | probeRequest | assocRequest | reassocRequest => rfl

private theorem plain_timeOut (kind : Timeout) :
    (turn.timeOut own kind).plain = turn.plain.timeOut own kind := by
  cases kind with
  | probeRequest =>
      unfold timeOut
      simp only [station_plain, Station.phase_plain]
      cases turn.station.phase with
      | probing => exact plain_probe ..
      | searching | joining _ | associated | refused => rfl
  | assocRequest =>
      unfold timeOut
      simp only [station_plain, Station.phase_plain]
      cases turn.station.phase with
      | joining attempt => exact plain_join ..
      | searching | probing | associated | refused => rfl
  | beaconWatchdog =>
      by_cases hphase : turn.station.phase = .refused
      · simp [timeOut, hphase]
      · rw [timeOut_beaconWatchdog turn own hphase,
          timeOut_beaconWatchdog turn.plain own hphase]
        simp only [apply_ite plain, plain_start, plain_loseNetwork, plain_stop]
        rfl

private theorem plain_changeCapabilities :
    (turn.changeCapabilities own).plain =
      turn.plain.changeCapabilities own := by
  unfold changeCapabilities
  simp only [station_plain, Station.phase_plain, Station.bssid_plain]
  split
  · exact plain_join ..
  · rfl

private theorem plain_changeSsid :
    (turn.changeSsid own).plain = turn.plain.changeSsid own := by
  unfold changeSsid
  simp only [station_plain, Station.phase_plain]
  split
  · exact plain_loseNetwork ..
  · rfl

private theorem plain_changeActiveProbing :
    (turn.changeActiveProbing own).plain =
      turn.plain.changeActiveProbing own := by
  unfold changeActiveProbing
  simp only [apply_ite plain, plain_ensureAssociated, plain_stop,
    station_plain, Station.activeProbing_plain]
  rfl

private theorem plain_send (destination : MacAddr) (payload : Payload) (tid : UInt8) :
    (turn.send own destination payload tid).plain =
      turn.plain.send own destination payload tid := by
  unfold send
  simp only [station_plain, Station.phase_plain, Station.bssid_plain]
  split
  · exact plain_transmit ..
  · rw [plain_ensureAssociated, plain_dropOutgoing]

private theorem plain_settle (wasAssociated : Bool) :
    (turn.settle wasAssociated).plain = turn.plain.settle wasAssociated := by
  unfold settle
  simp only [station_plain, Station.isAssociated_plain]
  cases wasAssociated <;> cases turn.station.isAssociated
  · rfl
  · simp only [Station.plain]
    split
    · exact plain_emit _ rfl
    · rfl
  · simp only [Station.plain]
    split
    · exact plain_emit _ rfl
    · rfl
  · rfl

end Plain

end Turn

namespace System

variable (system : System)

@[simp] theorem station_plain :
    system.plain.station = system.station.plain := rfl

@[simp] theorem clock_plain : system.plain.clock = system.clock := rfl

@[simp] theorem address_plain :
    system.plain.station.address = system.station.address := rfl

/-- What an action comes to is left out of alike if it is left out of the turn. -/
private theorem plain_act {handler other : MacAddr → Turn → Turn}
    (hhandler : ∀ own, system.station.address = some own →
      (handler own ⟨system.station, system.clock, []⟩).plain =
        other own ⟨system.plain.station, system.clock, []⟩) :
    (system.act handler).plain = system.plain.act other := by
  unfold act
  rw [address_plain]
  cases haddress : system.station.address with
  | none => rfl
  | some own =>
      have hturn := Turn.plain_settle
        (handler own ⟨system.station, system.clock, []⟩)
        system.station.isAssociated
      rw [hhandler own haddress] at hturn
      exact congrArg (fun turn : Turn =>
        ({ system := ⟨turn.station, turn.clock⟩, effects := turn.effects } :
          Outcome)) hturn

private theorem plain_handleTimeout (id : EventId) :
    (system.handleTimeout id).plain = system.plain.handleTimeout id := by
  unfold handleTimeout
  simp only [station_plain, Station.timeouts_plain]
  obtain ⟨kind, timeouts⟩ := system.station.timeouts.take id
  cases kind with
  | none => rfl
  | some kind =>
      exact plain_act { system with station.timeouts := timeouts }
        fun own _ => Turn.plain_timeOut _ own kind

/-- Having a listener asked is nothing that shows. -/
private theorem plain_perform_hook {operation : Operation} (decision : Decision)
    (hhooks : operation.hooks = true) :
    (system.perform decision operation).plain = { system := system.plain } := by
  unfold Operation.hooks at hhooks
  split at hhooks
  · rfl
  · cases hhooks

/-- Unless a listener has the station switch, an operation comes to what it comes to if nobody is
asked and no measurements have been taken. -/
private theorem plain_perform {decision : Decision} (other : Decision)
    {operation : Operation} (hhooks : operation.hooks = false)
    (hdeclines : ∀ source link, .detected source link true ∉
      (system.perform decision operation).notices) :
    (system.perform decision operation).plain =
      system.plain.perform other operation.plain := by
  cases operation with
  | setAddress address => rfl
  | register listener =>
      cases listener with
      | detected source => cases hhooks
      | up | down | lost | joined | left => rfl
  | ensureAssociated =>
      unfold perform
      exact plain_act system fun own _ => Turn.plain_ensureAssociated _ own
  | receive frame =>
      unfold perform
      refine plain_act system fun own haddress =>
        Turn.plain_receive _ own other fun source link hanswer =>
          hdeclines source link ?_
      simp only [perform, act, haddress, Outcome.notices, Turn.effects_settle,
        List.filterMap_append]
      exact List.mem_append_left _ hanswer
  | timeout id => exact plain_handleTimeout ..
  | send destination payload tid =>
      unfold perform
      exact plain_act system fun own _ =>
        Turn.plain_send _ own destination payload tid
  | capabilitiesChanged =>
      unfold perform
      exact plain_act system fun own _ => Turn.plain_changeCapabilities _ own
  | setActiveProbing on =>
      unfold perform
      exact plain_act { system with station.activeProbing := on }
        fun own _ => Turn.plain_changeActiveProbing _ own
  | setSsid ssid =>
      unfold perform
      exact plain_act { system with station.ssid := ssid }
        fun own _ => Turn.plain_changeSsid _ own

end System

private theorem Station.detected_prepare (station : Station) {operation : Operation}
    (hhooks : operation.hooks = false) :
    (station.prepare operation).listeners.detected =
      station.listeners.detected := by
  cases operation with
  | register listener =>
      cases listener with
      | detected source => cases hhooks
      | up | down | lost | joined | left => rfl
  | _ => rfl

section Asked

variable {source : MihfId} {detected : DetectedLink} {answer : Bool}

private theorem Station.asked_of_mem_question {station : Station} {own : MacAddr}
    {decision : Decision} {frame : Frame}
    (hmem : .detected source detected answer ∈
      station.question own decision frame) :
    station.listeners.detected = some source ∧
      answer = decision source detected := by
  obtain ⟨source, hlistener, hnotice⟩ := (station.mem_question own).mp hmem
  cases hnotice
  exact ⟨hlistener, rfl⟩

/-- Who is told of a detected link has asked to be, and the answer is the one decided on. -/
private theorem Reaction.asked_of_mem {system : System} {decision : Decision}
    {operation : Operation} {turn : Turn}
    (hreaction : Reaction system decision operation turn)
    (hmem : .detected source detected answer ∈ turn.notices) :
    system.station.listeners.detected = some source ∧
      answer = decision source detected := by
  cases hreaction with
  | @declined own frame | @followed own frame | @joined own frame =>
      have hquestion : .detected source detected answer ∈
          system.station.question own decision frame := by
        cases hattends : system.station.attends frame with
        | true => simp [hattends] at hmem
        | false => simpa [hattends] using hmem
      exact Station.asked_of_mem_question hquestion
  | @answered own frame =>
      have hquestion : .detected source detected answer ∈
          system.station.question own decision frame := by
        simpa using hmem
      exact Station.asked_of_mem_question hquestion
  | _ => simp at hmem

private theorem Moment.asked_of_mem {moment : Moment}
    (hmem : .detected source detected answer ∈ moment.outcome.notices) :
    moment.before.station.listeners.detected = some source ∧
      answer = moment.move.decision source detected := by
  cases moment.course with
  | idle _ _ heffects => simp [Outcome.notices, heffects] at hmem
  | reacted _ hreaction _ _ heffects =>
      exact hreaction.asked_of_mem
        (Outcome.mem_turn_notices heffects hmem rfl)

end Asked

namespace Move

def plain : Move → Move
  | .perform _ operation => .perform (fun _ _ => false) operation.plain
  | move => move

def hooks : Move → Bool
  | .perform _ operation => operation.hooks
  | _ => false

end Move

namespace Moment

variable {moment : Moment}

/-- No listener that was asked has the station switch. -/
def Declines (moment : Moment) : Prop :=
  ∀ source link, .detected source link true ∉ moment.outcome.notices

private theorem hooks_of_operation {operation : Operation}
    (hhooks : moment.move.hooks = false)
    (hoperation : moment.operation? = some operation) :
    operation.hooks = false := by
  obtain ⟨before, move⟩ := moment
  cases move with
  | perform decision performed =>
      obtain rfl := Option.some.inj hoperation
      exact hhooks
  | advance bound =>
      obtain ⟨id, _, rfl⟩ := Option.map_eq_some_iff.mp hoperation
      rfl
  | withhold _ | schedule _ | cancel _ => cases hoperation

private theorem unasked_after
    (hunasked : moment.before.station.listeners.detected = none)
    (hhooks : moment.move.hooks = false) :
    moment.after.station.listeners.detected = none := by
  rw [moment.eq_noted (fun _ _ => rfl) Reaction.listeners_eq]
  unfold noted
  cases hoperation : moment.operation? with
  | none => exact hunasked
  | some operation =>
      exact (Station.detected_prepare _
        (hooks_of_operation hhooks hoperation)).trans hunasked

private theorem plain_outcome_hook {system : System} {move : Move}
    (hhooks : move.hooks = true) :
    (outcome ⟨system, move⟩).plain = { system := system.plain } := by
  cases move with
  | perform decision operation =>
      exact system.plain_perform_hook decision hhooks
  | advance _ | withhold _ | schedule _ | cancel _ => cases hhooks

private theorem plain_outcome {system : System} {move : Move}
    (hhooks : move.hooks = false) (hdeclines : Declines ⟨system, move⟩) :
    (outcome ⟨system, move⟩).plain = outcome ⟨system.plain, move.plain⟩ := by
  cases move with
  | perform decision operation =>
      exact system.plain_perform _ hhooks hdeclines
  | advance bound =>
      simp only [outcome, operation?, Move.plain, Move.operation?,
        System.clock_plain]
      cases (system.clock.advanceUntil bound).1 with
      | none => rfl
      | some id =>
          exact System.plain_handleTimeout (opened ⟨system, .advance bound⟩) id
  | withhold _ | schedule _ | cancel _ => rfl

end Moment

namespace System

variable {system : System} {moves : List Move}

theorem declines_of_refusals (hrefuses : ∀ move ∈ moves,
    ∀ source link, move.decision source link = false) :
    ∀ moment ∈ system.history moves, moment.Declines := by
  intro moment hmoment source link hanswer
  have hrefused := hrefuses moment.move (move_mem hmoment) source link
  rw [← (Moment.asked_of_mem hanswer).2] at hrefused
  cases hrefused

theorem declines_of_unasked
    (hunasked : system.station.listeners.detected = none)
    (hhooks : ∀ move ∈ moves, move.hooks = false) :
    ∀ moment ∈ system.history moves, moment.Declines := by
  induction moves generalizing system with
  | nil => simp [history]
  | cons move moves ih =>
      obtain ⟨hfirst, hrest⟩ := List.forall_mem_cons.mp hhooks
      refine List.forall_mem_cons.mpr ⟨fun source link hanswer => ?_, ?_⟩
      · have hasked := (Moment.asked_of_mem hanswer).1
        rw [hunasked] at hasked
        cases hasked
      · exact ih (Moment.unasked_after hunasked hfirst) hrest

end System

/-- The moves that are made if nobody is ever asked and no measurements are taken. -/
def plainly (moves : List Move) : List Move :=
  (moves.filter fun move => !move.hooks).map Move.plain

/-- What the moves of a run come to, apart from questions and measurements. -/
def sights (history : List Moment) : List Outcome :=
  (history.filter fun moment => !moment.move.hooks).map
    fun moment => moment.outcome.plain

theorem System.plain_run {system : System} {moves : List Move}
    (hdeclines : ∀ moment ∈ system.history moves, moment.Declines) :
    sights (system.history moves) =
        (system.plain.history (plainly moves)).map Moment.outcome ∧
      (system.run moves).plain = system.plain.run (plainly moves) := by
  induction moves generalizing system with
  | nil => exact ⟨rfl, rfl⟩
  | cons move moves ih =>
      have hfirst : Moment.Declines ⟨system, move⟩ :=
        hdeclines _ List.mem_cons_self
      obtain ⟨hsights, hrun⟩ := ih fun moment hmoment =>
        hdeclines moment (List.mem_cons_of_mem _ hmoment)
      cases hhooks : move.hooks with
      | true =>
          have hsame : (Moment.after ⟨system, move⟩).plain = system.plain :=
            congrArg Outcome.system (Moment.plain_outcome_hook hhooks)
          rw [hsame] at hsights hrun
          constructor
          · simpa [sights, plainly, System.history, hhooks] using hsights
          · simpa [plainly, System.run, hhooks] using hrun
      | false =>
          have hsame := Moment.plain_outcome hhooks hfirst
          have hafter : (Moment.after ⟨system, move⟩).plain =
              Moment.after ⟨system.plain, move.plain⟩ :=
            congrArg Outcome.system hsame
          rw [hafter] at hsights hrun
          constructor
          · simpa [sights, plainly, System.history, hhooks, hsame] using hsights
          · simpa [plainly, System.run, hhooks] using hrun

end Roaming

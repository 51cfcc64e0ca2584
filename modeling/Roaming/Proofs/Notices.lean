import Roaming.Proofs.Run

namespace Roaming

/-! What a station tells those who listen to it, and in which steps. -/

def Effect.notice? : Effect → Option Notice
  | .request _ => none
  | .notice told => some told

def Outcome.notices (outcome : Outcome) : List Notice :=
  outcome.effects.filterMap Effect.notice?

namespace Station

variable (station : Station) (own : MacAddr)

/-- The question put to a listener about a frame, with the answer. -/
def question (decision : Decision) (frame : Frame) : List Notice :=
  match station.listeners.detected with
  | none => []
  | some source =>
      let detected := Turn.detectedLink own frame
      [.detected source detected (decision source detected)]

def upNotice (bssid : MacAddr) : List Notice :=
  bif station.listeners.up then [.up {
    link := Turn.wifiLink own bssid
    oldRouter := station.previousAp.filter (· ≠ bssid)
    newRouter := bssid
    ipRenewal := true
    mobility := .single .mobileIpv4 }]
  else []

def lostNotice : List Notice :=
  bif station.listeners.lost then [.lost (station.bssid.getD .null)] else []

def downNotice : List Notice :=
  bif !station.downReported && station.listeners.down then
    [.down ⟨Turn.wifiLink own (station.bssid.getD .null),
      station.bssid.getD .null, .noBroadcast⟩]
  else []

@[simp] theorem mem_question {decision : Decision} {frame : Frame}
    {notice : Notice} :
    notice ∈ station.question own decision frame ↔
      ∃ source, station.listeners.detected = some source ∧
        notice = .detected source (Turn.detectedLink own frame)
          (decision source (Turn.detectedLink own frame)) := by
  unfold question
  cases station.listeners.detected <;> simp

@[simp] theorem mem_upNotice {bssid : MacAddr} {notice : Notice} :
    notice ∈ station.upNotice own bssid ↔
      station.listeners.up = true ∧ notice = .up {
        link := Turn.wifiLink own bssid
        oldRouter := station.previousAp.filter (· ≠ bssid)
        newRouter := bssid
        ipRenewal := true
        mobility := .single .mobileIpv4 } := by
  unfold upNotice
  cases station.listeners.up <;> simp

@[simp] theorem mem_lostNotice {notice : Notice} :
    notice ∈ station.lostNotice ↔
      station.listeners.lost = true ∧
        notice = .lost (station.bssid.getD .null) := by
  unfold lostNotice
  cases station.listeners.lost <;> simp

@[simp] theorem mem_downNotice {notice : Notice} :
    notice ∈ station.downNotice own ↔
      (station.downReported = false ∧ station.listeners.down = true) ∧
        notice = .down ⟨Turn.wifiLink own (station.bssid.getD .null),
          station.bssid.getD .null, .noBroadcast⟩ := by
  unfold downNotice
  cases station.downReported <;> cases station.listeners.down <;> simp

/-- Who prefers another network has been asked, and has said so. -/
theorem mem_question_of_prefers {station : Station} {own : MacAddr}
    {decision : Decision} {frame : Frame}
    (hprefers : station.prefers own decision frame = true) :
    station.attends frame = false ∧ ∃ source link,
      .detected source link true ∈ station.question own decision frame := by
  unfold prefers at hprefers
  split at hprefers
  · cases hprefers
  · next source hlistener =>
      obtain ⟨hother, hanswer⟩ := Bool.and_eq_true_iff.mp hprefers
      refine ⟨by simpa using hother, source, Turn.detectedLink own frame, ?_⟩
      simp [hlistener, hanswer]

end Station

namespace Turn

def notices (turn : Turn) : List Notice :=
  turn.effects.filterMap Effect.notice?

variable (turn : Turn) (own : MacAddr)

@[simp] theorem notices_emit (request : Request) :
    (turn.emit (.request request)).notices = turn.notices := by
  simp [notices, Effect.notice?]

@[simp] theorem notices_transmit (frame : OutgoingFrame) :
    (turn.transmit frame).notices = turn.notices :=
  notices_emit turn _

@[simp] theorem notices_report (notice : Notice) :
    (turn.report notice).notices = turn.notices ++ [notice] := by
  simp [notices, Effect.notice?]

@[simp] theorem notices_enter (phase : Phase) :
    (turn.enter phase).notices = turn.notices := rfl

@[simp] theorem notices_start (kind : Timeout) (delay : Duration) :
    (turn.start kind delay).notices = turn.notices := rfl

@[simp] theorem notices_stop (kind : Timeout) :
    (turn.stop kind).notices = turn.notices := rfl

@[simp] theorem notices_dropReceived :
    turn.dropReceived.notices = turn.notices := rfl

@[simp] theorem notices_dropOutgoing :
    turn.dropOutgoing.notices = turn.notices := rfl

@[simp] theorem notices_reportUp (bssid : MacAddr) :
    (turn.reportUp own bssid).notices =
      turn.notices ++ turn.station.upNotice own bssid := by
  unfold reportUp Station.upNotice
  cases turn.station.listeners.up <;> simp

@[simp] theorem notices_reportLost :
    turn.reportLost.notices = turn.notices ++ turn.station.lostNotice := by
  unfold reportLost Station.lostNotice
  cases turn.station.listeners.lost <;> simp

@[simp] theorem notices_reportDown :
    (turn.reportDown own).notices = turn.notices ++ turn.station.downNotice own := by
  unfold reportDown Station.downNotice
  cases turn.station.downReported with
  | true => simp
  | false =>
      cases hlistener : turn.station.listeners.down with
      | true => simp [hlistener, report, emit, notices, Effect.notice?]
      | false => simp [hlistener, notices]

@[simp] theorem notices_probe :
    (turn.probe own).notices = turn.notices :=
  notices_transmit turn _

@[simp] theorem notices_join (attempt : Attempt) :
    (turn.join own attempt).notices = turn.notices :=
  notices_transmit turn _

@[simp] theorem notices_followBeacon (frame : Frame) :
    (turn.followBeacon frame).notices = turn.notices := rfl

@[simp] theorem notices_followResponse (frame : Frame) :
    (turn.followResponse frame).notices = turn.notices := rfl

@[simp] theorem notices_consult (decision : Decision) (frame : Frame) :
    (turn.consult own decision frame).2.notices =
      turn.notices ++ turn.station.question own decision frame := by
  unfold consult Station.question
  cases turn.station.listeners.detected <;> simp

@[simp] theorem notices_consulted (decision : Decision) (frame : Frame) :
    (turn.consulted own decision frame).notices = turn.notices ++
      (bif turn.station.attends frame then []
        else turn.station.question own decision frame) := by
  unfold consulted
  cases turn.station.attends frame <;> simp

@[simp] theorem notices_acceptAssociation (frame : Frame) :
    (turn.acceptAssociation own frame).notices = turn.notices ++
      turn.station.upNotice own frame.header.transmitter := by
  simp only [acceptAssociation, notices_enter]
  exact notices_reportUp _ own _

@[simp] theorem notices_search :
    (turn.search own).notices = turn.notices ++ turn.station.downNotice own := by
  unfold search
  cases turn.station.activeProbing <;> simp

@[simp] theorem notices_loseNetwork :
    (turn.loseNetwork own).notices =
      turn.notices ++ turn.station.lostNotice ++ turn.station.downNotice own := by
  simp [loseNetwork_eq, Station.downNotice]

@[simp] theorem notices_depart :
    (turn.depart own).notices = turn.notices := by
  unfold depart leave
  split
  · split <;> simp
  · rfl

@[simp] theorem notices_joinSender (frame : Frame) :
    (turn.joinSender own frame).notices = turn.notices := by
  simp [joinSender]

@[simp] theorem notices_joinResponder (decision : Decision) (frame : Frame) :
    (turn.joinResponder own decision frame).notices =
      turn.notices ++ turn.station.question own decision frame := by
  simp [joinResponder, Station.question]

theorem notices_receiveBeacon (decision : Decision) (frame : Frame) :
    (turn.receiveBeacon own decision frame).notices =
      (turn.consulted own decision frame).notices := by
  rw [receiveBeacon_eq]
  split
  · simp
  · split
    · split <;> simp
    · simp

@[simp] theorem notices_forward (frame : Frame) :
    (turn.forward frame).notices = turn.notices :=
  notices_emit _ _

/-- The report of an association made or ended, as its listener gets it. -/
def partingNotice (wasAssociated : Bool) : List Notice :=
  (turn.parting wasAssociated).filterMap Effect.notice?

/-- At the end of a turn nothing but an association made or ended is reported. -/
theorem mem_partingNotice {wasAssociated : Bool} {notice : Notice}
    (hmem : notice ∈ turn.partingNotice wasAssociated) :
    ∃ bssid, notice = .joined bssid ∨ notice = .left bssid := by
  unfold partingNotice parting at hmem
  split at hmem
  · split at hmem
    · next bssid _ _ =>
        exact ⟨bssid, .inl (by simpa [Effect.notice?] using hmem)⟩
    · cases hmem
  · split at hmem
    · next bssid _ _ =>
        exact ⟨bssid, .inr (by simpa [Effect.notice?] using hmem)⟩
    · cases hmem
  · cases hmem

end Turn

theorem Outcome.notices_of_parting {outcome : Outcome} {turn : Turn}
    {wasAssociated : Bool} (heffects : outcome.effects =
      turn.effects ++ turn.parting wasAssociated) :
    outcome.notices = turn.notices ++ turn.partingNotice wasAssociated := by
  rw [notices, heffects, List.filterMap_append]
  rfl

@[simp] theorem Turn.notices_outcome (turn : Turn) (wasAssociated : Bool) :
    (turn.outcome wasAssociated).notices =
      turn.notices ++ turn.partingNotice wasAssociated :=
  Outcome.notices_of_parting (effects_settle ..)

/-- Whether a notice is about a link, and not about an association. -/
def Notice.isOfLink : Notice → Bool
  | .joined _ => false
  | .left _ => false
  | _ => true

/-- Whatever is told of links is told within the turn. -/
theorem Outcome.mem_turn_notices {outcome : Outcome} {turn : Turn}
    {wasAssociated : Bool} (heffects : outcome.effects =
      turn.effects ++ turn.parting wasAssociated) {notice : Notice}
    (hmem : notice ∈ outcome.notices) (hlink : notice.isOfLink = true) :
    notice ∈ turn.notices := by
  rw [notices_of_parting heffects] at hmem
  rcases List.mem_append.mp hmem with hmem | hparting
  · exact hmem
  · obtain ⟨bssid, rfl | rfl⟩ := turn.mem_partingNotice hparting <;>
      cases hlink

@[simp] theorem System.notices_opening (system : System)
    (operation : Operation) :
    (system.opening operation).notices = [] := rfl

end Roaming

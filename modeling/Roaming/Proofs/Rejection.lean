import Roaming.Proofs.BeaconDecision
import Roaming.Proofs.DroppedBeacons

namespace Roaming

/-! Frames that a station drops or ignores.  Nothing else comes of them, but that the listener may
have been asked about a beacon. -/

/-- Own frames heard again, and responses that the station does not wait for. -/
def Station.Ignores (station : Station) (own : MacAddr) (frame : Frame) :
    Prop :=
  frame.header.third = own ∨
    frame.header.kind = .probeResponse ∧ station.phase ≠ .probing ∨
    (frame.header.kind = .assocResponse ∨
      frame.header.kind = .reassocResponse) ∧
      ∀ attempt, station.phase ≠ .joining attempt

namespace Turn

variable {turn : Turn} {own : MacAddr} {frame : Frame}

/-- A frame that is ignored is not even counted, unless it is meant for somebody else. -/
private theorem receive_of_ignores (decision : Decision)
    (hignores : turn.station.Ignores own frame)
    (hheard : frame.header.third = own ∨ frame.reaches own = true) :
    turn.receive own decision frame = turn := by
  rcases hheard with hown | hreaches
  · rw [receive, if_pos hown]
  · obtain ⟨hthird, hours⟩ := Frame.heard_of_reaches hreaches
    rw [receive, if_neg hthird, if_neg hours]
    rcases hignores with hown | ⟨hkind, hphase⟩ | ⟨hkind, hphase⟩
    · exact absurd hown hthird
    · simp only [hkind, receiveProbeResponse]
    · have hunasked : turn.receiveAssocResponse own frame = turn := by
        unfold receiveAssocResponse
        split
        · next attempt hjoining => exact absurd hjoining (hphase attempt)
        · rfl
      rcases hkind with hkind | hkind <;> simp only [hkind, hunasked]

end Turn

/-- What a frame comes to that is dropped or ignored. -/
structure System.Rejects (before : System) (own : MacAddr)
    (decision : Decision) (frame : Frame) (drops : Nat) (outcome : Outcome) :
    Prop where
  system : outcome.system = { before with
    station.counters.rxDrops := before.station.counters.rxDrops + drops }
  effects : outcome.effects = [] ∨
    drops = 1 ∧ frame.header.kind = .beacon ∧
      ∃ source, before.station.listeners.detected = some source ∧
        let link := Turn.detectedLink own frame
        outcome.effects =
          [.notice (.detected source link (decision source link))]

private theorem Station.not_ignores {station : Station} {own : MacAddr}
    {frame : Frame} (hreaches : frame.reaches own = true)
    (hprobing : frame.header.kind = .probeResponse →
      station.phase = .probing)
    (hjoining : frame.header.kind = .assocResponse ∨
      frame.header.kind = .reassocResponse →
      ∃ attempt, station.phase = .joining attempt) :
    ¬station.Ignores own frame := by
  rintro (hown | ⟨hkind, hphase⟩ | ⟨hkind, hphase⟩)
  · exact (Frame.heard_of_reaches hreaches).1 hown
  · exact hphase (hprobing hkind)
  · obtain ⟨attempt, hattempt⟩ := hjoining hkind
    exact hphase attempt hattempt

section Reaction

variable {system : System} {own : MacAddr} {decision : Decision}
  {frame : Frame} {turn : Turn}

namespace System

variable (system own decision frame)

private theorem rejects_opening :
    system.Rejects own decision frame 0
      ((system.opening (.receive frame)).outcome
        system.station.isAssociated) := by
  have hlasting : (system.opening (.receive frame)).station.isAssociated =
      system.station.isAssociated := rfl
  rw [Turn.outcome_of_lasting hlasting]
  exact ⟨rfl, .inl rfl⟩

private theorem rejects_dropReceived :
    system.Rejects own decision frame 1
      ((system.opening (.receive frame)).dropReceived.outcome
        system.station.isAssociated) := by
  have hlasting :
      (system.opening (.receive frame)).dropReceived.station.isAssociated =
        system.station.isAssociated := rfl
  rw [Turn.outcome_of_lasting hlasting]
  exact ⟨rfl, .inl rfl⟩

private theorem rejects_consulted (hkind : frame.header.kind = .beacon) :
    system.Rejects own decision frame 1
      ((system.consulted own decision frame).dropReceived.outcome
        system.station.isAssociated) := by
  refine ⟨system_dropReceived .., ?_⟩
  rw [Turn.outcome_of_lasting (isAssociated_dropReceived ..)]
  have heffects :
      (system.consulted own decision frame).dropReceived.effects =
        (system.station.inquiry own decision frame).map .notice :=
    Turn.effects_consulted (system.opening (.receive frame)) own decision frame
  simp only [heffects, Station.inquiry, Station.question, true_and]
  cases system.station.attends frame with
  | true => exact .inl rfl
  | false =>
      cases system.station.listeners.detected with
      | none => exact .inl rfl
      | some source => exact .inr ⟨hkind, source, rfl, rfl⟩

end System

/-- A station either rejects a frame or has been waiting for it. -/
private theorem Reaction.rejects_or_minds
    (hreaction : Reaction system decision (.receive frame) turn)
    (haddress : system.station.address = some own) :
    (∃ drops, drops ≤ 1 ∧ system.Rejects own decision frame drops
      (turn.outcome system.station.isAssociated)) ∨
    turn.station.counters.rxDrops = system.station.counters.rxDrops ∧
      ¬system.station.Ignores own frame := by
  have hsame {other : MacAddr} (hother : system.station.address = some other) :
      other = own := Option.some.inj (hother.symm.trans haddress)
  cases hreaction with
  | rested => exact .inl ⟨0, Nat.zero_le _, System.rejects_opening ..⟩
  | dropped =>
      exact .inl ⟨1, Nat.le_refl _, System.rejects_dropReceived ..⟩
  | declined hother _ hkind =>
      obtain rfl := hsame hother
      exact .inl ⟨1, Nat.le_refl _, System.rejects_consulted _ _ _ _ hkind⟩
  | forwarded hother hreaches hkind | relayed hother hreaches hkind =>
      obtain rfl := hsame hother
      refine .inr ⟨by simp, Station.not_ignores hreaches ?_ ?_⟩
      · rcases hkind with hkind | hkind <;> simp [hkind]
      · rcases hkind with hkind | hkind <;> simp [hkind]
  | followed hother hreaches hkind | joined hother hreaches hkind =>
      obtain rfl := hsame hother
      exact .inr ⟨by simp,
        Station.not_ignores hreaches (by simp [hkind]) (by simp [hkind])⟩
  | answered hother hreaches hkind hanswers =>
      obtain rfl := hsame hother
      exact .inr ⟨by simp, Station.not_ignores hreaches
        (fun _ => Station.phase_of_answers hanswers) (by simp [hkind])⟩
  | granted hother hreaches hkind hphase | denied hother hreaches hkind hphase =>
      obtain rfl := hsame hother
      refine .inr ⟨by simp, Station.not_ignores hreaches ?_
        (fun _ => ⟨_, hphase⟩)⟩
      rcases hkind with hkind | hkind <;> simp [hkind]
  | searched _ hoperation => simp at hoperation

end Reaction

/-- In every run a frame is counted as dropped once at most.  If it is, or if the station ignores
it, everything else is as it was, and nobody is told anything, but that the listener may have been
asked about a beacon.  What is ignored is not counted, unless it is for somebody else. -/
theorem rejected_frames_leave_no_trace (config : Config) (moves : List Move) :
    let reached := (System.ofConfig config).run moves
    ∀ own decision frame, reached.station.address = some own →
      let outcome := reached.perform decision (.receive frame)
      let ignored := reached.station.Ignores own frame
      ∃ drops, drops ≤ 1 ∧
        outcome.system.station.counters.rxDrops =
          reached.station.counters.rxDrops + drops ∧
        (drops = 1 ∨ ignored →
          reached.Rejects own decision frame drops outcome) ∧
        (ignored → frame.header.third = own ∨ frame.reaches own = true →
          drops = 0) := by
  intro reached own decision frame haddress outcome ignored
  let turn := (reached.opening (.receive frame)).receive own decision frame
  have houtcome : outcome = turn.outcome reached.station.isAssociated :=
    System.perform_receive haddress decision frame
  have hreaction : Reaction reached decision (.receive frame) turn :=
    System.receive_reaction haddress decision frame
  rcases hreaction.rejects_or_minds haddress with
    ⟨drops, hdrops, hrejects⟩ | ⟨hdrops, hminds⟩
  · have hcounted : outcome.system.station.counters.rxDrops =
        reached.station.counters.rxDrops + drops := by
      rw [houtcome, hrejects.system]
    refine ⟨drops, hdrops, hcounted, fun _ => houtcome ▸ hrejects, ?_⟩
    intro hignored hheard
    have hkept : turn = reached.opening (.receive frame) :=
      Turn.receive_of_ignores decision hignored hheard
    rw [houtcome, hkept] at hcounted
    simpa using hcounted
  · refine ⟨0, Nat.zero_le _, ?_, ?_, fun hignored => absurd hignored hminds⟩
    · rw [houtcome, Turn.station_outcome]
      exact hdrops
    · rintro (hnone | hignored)
      · cases hnone
      · exact absurd hignored hminds

open Sample in
/-- A network that the listener does not want, and a response that nobody has asked for. -/
theorem rejected_frames_leave_no_trace_sample :
    let reached := (System.ofConfig {}).run askedJoins
    let offered := reached.perform refuse (.receive rivalBeacon)
    let late := reached.perform refuse (.receive response)
    reached.Rejects own refuse rivalBeacon 1 offered ∧
      reached.Rejects own refuse response 0 late := by
  intro reached offered late
  have hrule := rejected_frames_leave_no_trace {} askedJoins own refuse
  have hphase : reached.station.phase = .associated := by decide
  have hignored : reached.station.Ignores own response :=
    .inr (.inr ⟨.inl rfl, by simp [hphase]⟩)
  obtain ⟨drops, _, hdrops, hrejects, _⟩ := hrule rivalBeacon rfl
  obtain ⟨others, _, _, hignores, hnone⟩ := hrule response rfl
  obtain rfl : drops = 1 := by
    have hcounted : offered.system.station.counters.rxDrops =
        reached.station.counters.rxDrops + 1 := by decide
    exact Nat.add_left_cancel (hdrops.symm.trans hcounted)
  obtain rfl : others = 0 := hnone hignored (.inr (by decide))
  exact ⟨hrejects (.inl rfl), hignores (.inr hignored)⟩

end Roaming

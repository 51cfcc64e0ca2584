import Roaming.Proofs.PhaseTimeouts

namespace Roaming

/-! Until when the signs of life in a history cover the silence of a network. -/

namespace System

/-- Until when a frame covers the silence after it, if the station heeds it: for as many beacon
intervals, of 1024 microseconds a unit, as may be missed. -/
def covers? (system : System) (decision : Decision) : Operation → Option Time
  | .receive frame =>
      if system.station.heeds decision frame then
        some (.ofNanos (system.clock.now.nanos +
          frame.body.beaconInterval.count.toNat * 1024000 *
            system.station.config.missedBeaconLimit.toNat))
      else none
  | _ => none

variable {system : System} {decision : Decision} {frame : Frame}

private theorem covers?_unheeded
    (hheeds : system.station.heeds decision frame = false) :
    system.covers? decision (.receive frame) = none := by
  simp [covers?, hheeds]

private theorem covers?_heeded (hheeds : system.station.heeds decision frame = true) :
    system.covers? decision (.receive frame) =
      some (system.clock.now.after (system.station.config.watchdogDelay
        frame.body.beaconInterval)) := by
  have hdelay : (system.station.config.watchdogDelay
      frame.body.beaconInterval).nanos =
        frame.body.beaconInterval.count.toNat * 1024000 *
          system.station.config.missedBeaconLimit.toNat :=
    congrArg (· * _) (Nat.mul_assoc _ 1024 1000)
  simp [covers?, hheeds, Time.after, hdelay]

end System

def Moment.covers? (moment : Moment) : Option Time :=
  moment.operation?.bind (moment.opened.covers? moment.move.decision)

/-- The latest time that anything in a history covers. -/
def coveredUntil (history : List Moment) : Time :=
  (history.filterMap Moment.covers?).foldl max .zero

private theorem coveredUntil_concat (history : List Moment) (moment : Moment) :
    coveredUntil (history ++ [moment]) =
      moment.covers?.elim (coveredUntil history)
        (max (coveredUntil history)) := by
  unfold coveredUntil
  rw [List.filterMap_append, List.foldl_append]
  cases hcovers : moment.covers? with
  | none => simp [hcovers]
  | some time => simp [hcovers]

namespace System

variable {system : System} {own : MacAddr} {decision : Decision}
  {frame : Frame}

theorem heeds_beacon (haddress : system.station.address = some own)
    (hreaches : frame.reaches own = true)
    (hkind : frame.header.kind = .beacon)
    (haccepted : system.station.switches own decision frame = true ∨
      system.station.suits frame = true) :
    system.station.heeds decision frame = true := by
  rw [heeds_of_address haddress, hreaches, hkind]
  rcases haccepted with haccepted | haccepted
  · simp [haccepted]
  · simp [haccepted]

theorem heeds_response (haddress : system.station.address = some own)
    (hreaches : frame.reaches own = true)
    (hkind : frame.header.kind = .probeResponse)
    (hanswers : system.station.answers frame = true) :
    system.station.heeds decision frame = true := by
  rw [heeds_of_address haddress, hreaches, hkind, hanswers]
  rfl

end System

theorem Station.heeds_of_rests {station : Station} {frame : Frame}
    (hrests : station.Rests (.receive frame)) (decision : Decision) :
    station.heeds decision frame = false := by
  unfold heeds
  split
  · rfl
  · next own hown =>
      rcases hrests own hown with hthird | ⟨hkind, hphase⟩ | ⟨hkind, _⟩
      · simp [Frame.reaches, hthird]
      · simp [hkind, answers, hphase]
      · rcases hkind with hkind | hkind <;> simp [hkind]

/-- The network that a beacon, or the answer to a probe request, speaks for. -/
def Frame.network (frame : Frame) : MacAddr :=
  match frame.header.kind with
  | .probeResponse => frame.header.transmitter
  | _ => frame.header.third

/-- Either the station heeds a frame, and follows it; or it keeps its network, and what its watchdog
covers. -/
inductive Hearing (system : System) (decision : Decision)
    (operation : Operation) (turn : Turn) : Prop
  | heeded {frame : Frame} (hoperation : operation = .receive frame)
      (hheeds : system.station.heeds decision frame = true)
      (hbssid : turn.station.bssid = some frame.network)
      (hcoverage : turn.station.timeouts.coverage =
        max (system.clock.now.after (system.station.config.watchdogDelay
          frame.body.beaconInterval)) system.station.timeouts.coverage)
  | unheeded (hheeds : ∀ frame, operation = .receive frame →
        system.station.heeds decision frame = false)
      (hbssid : turn.station.bssid = system.station.bssid)
      (hcoverage : turn.station.timeouts.coverage =
        system.station.timeouts.coverage)

namespace Hearing

variable {system : System} {decision : Decision} {turn : Turn}

private theorem of_frame {frame : Frame}
    (hheeds : system.station.heeds decision frame = false)
    (hbssid : turn.station.bssid = system.station.bssid)
    (hcoverage : turn.station.timeouts.coverage =
      system.station.timeouts.coverage) :
    Hearing system decision (.receive frame) turn := by
  refine .unheeded (fun other hother => ?_) hbssid hcoverage
  obtain rfl : frame = other := Operation.receive.inj hother
  exact hheeds

private theorem of_other {operation : Operation}
    (hother : ∀ frame, operation ≠ .receive frame)
    (hbssid : turn.station.bssid = system.station.bssid)
    (hcoverage : turn.station.timeouts.coverage =
      system.station.timeouts.coverage) :
    Hearing system decision operation turn :=
  .unheeded (fun frame hframe => absurd hframe (hother frame)) hbssid hcoverage

end Hearing

theorem Reaction.hearing {system : System} {decision : Decision}
    {operation : Operation} {turn : Turn}
    (hreaction : Reaction system decision operation turn) :
    Hearing system decision operation turn := by
  cases hreaction with
  | rested hrests =>
      cases operation with
      | receive frame =>
          exact .of_frame (Station.heeds_of_rests hrests _) rfl rfl
      | timeout id => exact .of_other (by simp) rfl (Timeouts.coverage_take ..)
      | setAddress | register | ensureAssociated | send | capabilitiesChanged
      | setActiveProbing | setSsid => exact .of_other (by simp) rfl rfl
  | dropped _ hheeds => exact .of_frame hheeds (by simp) (by simp)
  | declined _ hheeds => exact .of_frame hheeds (by simp) (by simp)
  | forwarded _ _ hkind | relayed _ _ hkind | granted _ _ hkind
  | denied _ _ hkind =>
      refine .of_frame (Station.heeds_of_kind _ _ ?_ ?_) (by simp) (by simp)
      · rcases hkind with hkind | hkind <;> simp [hkind]
      · rcases hkind with hkind | hkind <;> simp [hkind]
  | followed haddress hreaches hkind _ hsuits =>
      refine .heeded rfl
        (System.heeds_beacon haddress hreaches hkind (.inr hsuits)) ?_ ?_
      · simp [Frame.network, hkind]
      · simp
  | joined haddress hreaches hkind hjoins =>
      refine .heeded rfl (System.heeds_beacon haddress hreaches hkind
        (hjoins.imp_right And.left)) ?_ ?_
      · simp [Frame.network, hkind]
      · simp [Turn.joinSender]
  | answered haddress hreaches hkind hanswers =>
      refine .heeded rfl
        (System.heeds_response haddress hreaches hkind hanswers) ?_ ?_
      · simp [Frame.network, hkind]
      · simp [Turn.joinResponder]
  | outlived =>
      exact .of_other (by simp) rfl (Timeouts.coverage_take ..)
  | searched _ hoperation =>
      rcases hoperation with rfl | rfl
      · exact .of_other (by simp) (by simp) (by simp)
      · exact .of_other (by simp) (by simp) (by simp)
  | reprobed | rejoined | rearmed | expired | silenced | sent | unsent
  | soughtUnsent | reassociated | released =>
      exact .of_other (by simp) (by simp) (by simp)

theorem coverage_reaction {system : System} {decision : Decision}
    {operation : Operation} {turn : Turn}
    (hreaction : Reaction system decision operation turn) :
    turn.station.timeouts.coverage =
      (system.covers? decision operation).elim
        system.station.timeouts.coverage
        (max system.station.timeouts.coverage) := by
  cases hreaction.hearing with
  | heeded hoperation hheeds _ hcoverage =>
      rw [hoperation, System.covers?_heeded hheeds, hcoverage]
      exact Time.max_comm _ _
  | unheeded hheeds _ hcoverage =>
      cases operation with
      | receive frame =>
          rw [System.covers?_unheeded (hheeds frame rfl)]
          exact hcoverage
      | setAddress | register | ensureAssociated | timeout | send
      | capabilitiesChanged | setActiveProbing | setSsid => exact hcoverage

theorem Moment.coverage_after (moment : Moment) :
    moment.after.station.timeouts.coverage =
      moment.covers?.elim moment.before.station.timeouts.coverage
        (max moment.before.station.timeouts.coverage) := by
  rw [Moment.covers?]
  cases moment.course with
  | idle hoperation hafter =>
      rw [hafter, hoperation]
      rfl
  | reacted hoperation hreaction hstation =>
      rw [hstation, hoperation]
      exact coverage_reaction hreaction

theorem coverage_run (config : Config) (moves : List Move) :
    ((System.ofConfig config).run moves).station.timeouts.coverage =
      coveredUntil ((System.ofConfig config).history moves) := by
  refine System.run_induction (motive := fun history system =>
    system.station.timeouts.coverage = coveredUntil history) ?_ ?_ moves
  · rfl
  · intro history system move hbefore
    rw [coveredUntil_concat, ← hbefore]
    exact Moment.coverage_after ⟨system, move⟩

/-- Only the events of its own timeouts touch a running watchdog. -/
theorem watchdog_kept {system : System} {decision : Decision}
    {operation : Operation} {turn : Turn} {armed : Armed}
    (hreaction : Reaction system decision operation turn)
    (hevent : ∀ id, operation ≠ .timeout id)
    (harmed : system.station.timeouts.armed? .beaconWatchdog = some armed) :
    turn.station.timeouts.armed? .beaconWatchdog = some armed := by
  have hrunning : system.station.timeouts.isRunning .beaconWatchdog = true :=
    (Timeouts.isRunning_iff _ _).mpr ⟨armed, harmed⟩
  cases hreaction with
  | rested =>
      cases operation with
      | timeout id => exact absurd rfl (hevent id)
      | setAddress | register | ensureAssociated | receive | send
      | capabilitiesChanged | setActiveProbing | setSsid => exact harmed
  | outlived | reprobed | rejoined | rearmed | expired =>
      exact absurd rfl (hevent _)
  | followed => simp [harmed, hrunning]
  | joined => simp [Turn.joinSender, harmed, hrunning]
  | answered => simp [Turn.joinResponder, harmed, hrunning]
  | searched _ hoperation =>
      rcases hoperation with rfl | rfl
      · simp [harmed]
      · simp [harmed]
  | dropped | declined | forwarded | relayed | granted | denied | silenced
  | sent | unsent | soughtUnsent | reassociated | released => simp [harmed]

end Roaming

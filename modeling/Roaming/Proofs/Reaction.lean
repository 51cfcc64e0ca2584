import Roaming.Proofs.Reception

namespace Roaming

/-! Everything that a station can do in one operation, with the conditions under which it does
it. -/

namespace Turn

def system (turn : Turn) : System := ⟨turn.station, turn.clock⟩

def settledAp (turn : Turn) (wasAssociated : Bool) : Option MacAddr :=
  match wasAssociated, turn.station.isAssociated with
  | false, true => turn.station.bssid
  | true, false => none
  | _, _ => turn.station.reportedAp

/-- The report of an association made or ended, if somebody wants it. -/
def parting (turn : Turn) (wasAssociated : Bool) : List Effect :=
  match wasAssociated, turn.station.isAssociated with
  | false, true =>
      match turn.station.listeners.joined, turn.station.bssid with
      | true, some bssid => [.notice (.joined bssid)]
      | _, _ => []
  | true, false =>
      match turn.station.listeners.left, turn.station.reportedAp with
      | true, some bssid => [.notice (.left bssid)]
      | _, _ => []
  | _, _ => []

@[simp] theorem station_settle (turn : Turn) (wasAssociated : Bool) :
    (turn.settle wasAssociated).station =
      { turn.station with reportedAp := turn.settledAp wasAssociated } := by
  unfold settle settledAp
  cases wasAssociated <;> cases turn.station.isAssociated <;> simp only
  · split <;> rfl
  · split <;> rfl

@[simp] theorem clock_settle (turn : Turn) (wasAssociated : Bool) :
    (turn.settle wasAssociated).clock = turn.clock := by
  unfold settle
  cases wasAssociated <;> cases turn.station.isAssociated <;> simp only
  · split <;> rfl
  · split <;> rfl

@[simp] theorem effects_settle (turn : Turn) (wasAssociated : Bool) :
    (turn.settle wasAssociated).effects =
      turn.effects ++ turn.parting wasAssociated := by
  unfold settle parting
  cases wasAssociated <;> cases turn.station.isAssociated <;>
    simp only [List.append_nil]
  · cases turn.station.listeners.joined <;> cases turn.station.bssid <;> simp
  · cases turn.station.listeners.left <;>
      cases turn.station.reportedAp <;> simp

theorem settle_isAssociated (turn : Turn) :
    turn.settle turn.station.isAssociated = turn := by
  unfold settle
  cases turn.station.isAssociated <;> rfl

theorem settledAp_of_lasting {turn : Turn} {wasAssociated : Bool}
    (hlasting : turn.station.isAssociated = wasAssociated) :
    turn.settledAp wasAssociated = turn.station.reportedAp := by
  subst hlasting
  unfold settledAp
  cases turn.station.isAssociated <;> rfl

/-- What an operation comes to by way of a turn. -/
def outcome (turn : Turn) (wasAssociated : Bool) : Outcome where
  system := (turn.settle wasAssociated).system
  effects := (turn.settle wasAssociated).effects

@[simp] theorem station_outcome (turn : Turn) (wasAssociated : Bool) :
    (turn.outcome wasAssociated).system.station =
      { turn.station with reportedAp := turn.settledAp wasAssociated } :=
  station_settle ..

@[simp] theorem clock_outcome (turn : Turn) (wasAssociated : Bool) :
    (turn.outcome wasAssociated).system.clock = turn.clock :=
  clock_settle ..

theorem outcome_of_lasting {turn : Turn} {wasAssociated : Bool}
    (hlasting : turn.station.isAssociated = wasAssociated) :
    turn.outcome wasAssociated =
      { system := turn.system, effects := turn.effects } := by
  rw [outcome, ← hlasting, settle_isAssociated]

theorem timeOut_beaconWatchdog (turn : Turn) (own : MacAddr)
    (hphase : turn.station.phase ≠ .refused) :
    turn.timeOut own .beaconWatchdog =
      if turn.clock.now < turn.station.timeouts.coverage then
        turn.start .beaconWatchdog
          (turn.clock.now.remaining turn.station.timeouts.coverage)
      else
        ((turn.stop .probeRequest).stop .assocRequest).loseNetwork own := by
  unfold timeOut
  split
  · contradiction
  · contradiction
  · contradiction
  · by_cases hcovered : turn.clock.now < turn.station.timeouts.coverage
    · simp only [Timeouts.watchdogFired, hcovered, if_true]
      rfl
    · simp only [Timeouts.watchdogFired, hcovered, if_false, if_true]
  · contradiction

end Turn

namespace System

/-- The turn that an operation opens: what it brings is noted, and nothing is done yet. -/
def opening (system : System) (operation : Operation) : Turn :=
  ⟨system.station.prepare operation, system.clock, []⟩

@[simp] theorem station_opening (system : System) (operation : Operation) :
    (system.opening operation).station =
      system.station.prepare operation := rfl

@[simp] theorem clock_opening (system : System) (operation : Operation) :
    (system.opening operation).clock = system.clock := rfl

end System

/-- The turns that an operation can lead to, before the association that it made or ended is
reported. -/
inductive Reaction (system : System) (decision : Decision) :
    Operation → Turn → Prop
  | rested {operation : Operation} (hrests : system.station.Rests operation) :
      Reaction system decision operation (system.opening operation)
  | dropped {own : MacAddr} {frame : Frame}
      (haddress : system.station.address = some own)
      (hheeds : system.station.heeds decision frame = false) :
      Reaction system decision (.receive frame)
        (system.opening (.receive frame)).dropReceived
  | declined {own : MacAddr} {frame : Frame}
      (haddress : system.station.address = some own)
      (hheeds : system.station.heeds decision frame = false)
      (hkind : frame.header.kind = .beacon) :
      Reaction system decision (.receive frame)
        ((system.opening (.receive frame)).consulted own decision
          frame).dropReceived
  | forwarded {own : MacAddr} {frame : Frame}
      (haddress : system.station.address = some own)
      (hreaches : frame.reaches own = true)
      (hkind : frame.header.kind = .data ∨ frame.header.kind = .qosData)
      (hassociated : system.station.isAssociated = true)
      (hfromDs : frame.header.fromDs = true)
      (htoDs : frame.header.toDs = false)
      (hsender : system.station.bssid = some frame.header.transmitter) :
      Reaction system decision (.receive frame)
        ((system.opening (.receive frame)).forward frame)
  | relayed {own : MacAddr} {frame : Frame}
      (haddress : system.station.address = some own)
      (hreaches : frame.reaches own = true)
      (hkind : frame.header.kind = .disassociation ∨
        frame.header.kind = .action) :
      Reaction system decision (.receive frame)
        ((system.opening (.receive frame)).emit (.request (.toParent frame)))
  | followed {own : MacAddr} {frame : Frame}
      (haddress : system.station.address = some own)
      (hreaches : frame.reaches own = true)
      (hkind : frame.header.kind = .beacon)
      (hswitch : system.station.switches own decision frame = false)
      (hsuits : system.station.suits frame = true)
      (hclosed : system.station.phase.isOpen = false) :
      Reaction system decision (.receive frame)
        (((system.opening (.receive frame)).consulted own decision
          frame).followBeacon frame)
  | joined {own : MacAddr} {frame : Frame}
      (haddress : system.station.address = some own)
      (hreaches : frame.reaches own = true)
      (hkind : frame.header.kind = .beacon)
      (hjoins : system.station.switches own decision frame = true ∨
        system.station.suits frame = true ∧
          system.station.phase.isOpen = true) :
      Reaction system decision (.receive frame)
        ((((system.opening (.receive frame)).consulted own decision
          frame).depart own).joinSender own frame)
  | answered {own : MacAddr} {frame : Frame}
      (haddress : system.station.address = some own)
      (hreaches : frame.reaches own = true)
      (hkind : frame.header.kind = .probeResponse)
      (hanswers : system.station.answers frame = true) :
      Reaction system decision (.receive frame)
        ((system.opening (.receive frame)).joinResponder own decision frame)
  | granted {own : MacAddr} {frame : Frame} {attempt : Attempt}
      (haddress : system.station.address = some own)
      (hreaches : frame.reaches own = true)
      (hkind : frame.header.kind = .assocResponse ∨
        frame.header.kind = .reassocResponse)
      (hphase : system.station.phase = .joining attempt)
      (hsender : frame.header.transmitter = attempt.target)
      (hstatus : frame.body.status.isSuccess = true) :
      Reaction system decision (.receive frame)
        (((system.opening (.receive frame)).stop
          .assocRequest).acceptAssociation own frame)
  | denied {own : MacAddr} {frame : Frame} {attempt : Attempt}
      (haddress : system.station.address = some own)
      (hreaches : frame.reaches own = true)
      (hkind : frame.header.kind = .assocResponse ∨
        frame.header.kind = .reassocResponse)
      (hphase : system.station.phase = .joining attempt)
      (hsender : frame.header.transmitter = attempt.target)
      (hstatus : frame.body.status.isSuccess = false) :
      Reaction system decision (.receive frame)
        (((system.opening (.receive frame)).stop .assocRequest).enter .refused)
  | outlived {id : EventId} {kind : Timeout}
      (htake : (system.station.timeouts.take id).1 = some kind)
      (houtlives : system.station.Outlives kind) :
      Reaction system decision (.timeout id) (system.opening (.timeout id))
  | reprobed {own : MacAddr} {id : EventId}
      (haddress : system.station.address = some own)
      (htake : (system.station.timeouts.take id).1 = some .probeRequest)
      (hphase : system.station.phase = .probing) :
      Reaction system decision (.timeout id)
        ((system.opening (.timeout id)).probe own)
  | rejoined {own : MacAddr} {id : EventId} {attempt : Attempt}
      (haddress : system.station.address = some own)
      (htake : (system.station.timeouts.take id).1 = some .assocRequest)
      (hphase : system.station.phase = .joining attempt) :
      Reaction system decision (.timeout id)
        ((system.opening (.timeout id)).join own attempt)
  | rearmed {own : MacAddr} {id : EventId}
      (haddress : system.station.address = some own)
      (htake : (system.station.timeouts.take id).1 = some .beaconWatchdog)
      (hphase : system.station.phase ≠ .refused)
      (hcovered : system.clock.now < system.station.timeouts.coverage) :
      Reaction system decision (.timeout id)
        ((system.opening (.timeout id)).start .beaconWatchdog
          (system.clock.now.remaining system.station.timeouts.coverage))
  | expired {own : MacAddr} {id : EventId}
      (haddress : system.station.address = some own)
      (htake : (system.station.timeouts.take id).1 = some .beaconWatchdog)
      (hphase : system.station.phase ≠ .refused)
      (hended : system.station.timeouts.coverage ≤ system.clock.now) :
      Reaction system decision (.timeout id)
        ((((system.opening (.timeout id)).stop .probeRequest).stop
          .assocRequest).loseNetwork own)
  | searched {own : MacAddr} {operation : Operation}
      (haddress : system.station.address = some own)
      (hoperation : operation = .ensureAssociated ∨
        operation = .setActiveProbing true)
      (hphase : system.station.phase = .searching) :
      Reaction system decision operation
        ((system.opening operation).search own)
  | silenced {own : MacAddr}
      (haddress : system.station.address = some own) :
      Reaction system decision (.setActiveProbing false)
        ((system.opening (.setActiveProbing false)).stop .probeRequest)
  | sent {own bssid destination : MacAddr} {payload : Payload} {tid : UInt8}
      (haddress : system.station.address = some own)
      (hphase : system.station.phase = .associated)
      (hbssid : system.station.bssid = some bssid) :
      Reaction system decision (.send destination payload tid)
        ((system.opening (.send destination payload tid)).transmit
          (.data own bssid destination payload
            system.station.capabilities.qos tid))
  | unsent {own destination : MacAddr} {payload : Payload} {tid : UInt8}
      (haddress : system.station.address = some own)
      (hunable : system.station.isAssociated = false ∨
        system.station.bssid = none)
      (hphase : system.station.phase ≠ .searching) :
      Reaction system decision (.send destination payload tid)
        (system.opening (.send destination payload tid)).dropOutgoing
  | soughtUnsent {own destination : MacAddr} {payload : Payload} {tid : UInt8}
      (haddress : system.station.address = some own)
      (hphase : system.station.phase = .searching) :
      Reaction system decision (.send destination payload tid)
        ((system.opening (.send destination payload
          tid)).dropOutgoing.search own)
  | reassociated {own bssid : MacAddr}
      (haddress : system.station.address = some own)
      (hphase : system.station.phase = .associated)
      (hbssid : system.station.bssid = some bssid) :
      Reaction system decision .capabilitiesChanged
        ((system.opening .capabilitiesChanged).join own ⟨true, bssid⟩)
  | released {own : MacAddr} {ssid : Ssid}
      (haddress : system.station.address = some own)
      (hphase : system.station.phase = .refused) :
      Reaction system decision (.setSsid ssid)
        ((system.opening (.setSsid ssid)).loseNetwork own)

theorem Reaction.address_eq {system : System} {decision : Decision}
    {operation : Operation} {turn : Turn}
    (hreaction : Reaction system decision operation turn) :
    turn.station.address = (system.station.prepare operation).address := by
  cases hreaction <;> simp

theorem Reaction.config_eq {system : System} {decision : Decision}
    {operation : Operation} {turn : Turn}
    (hreaction : Reaction system decision operation turn) :
    turn.station.config = system.station.config := by
  cases hreaction <;> simp

namespace System

variable {system : System} {own : MacAddr}

theorem heeds_of_address (haddress : system.station.address = some own)
    (decision : Decision) (frame : Frame) :
    system.station.heeds decision frame =
      (frame.reaches own &&
        match frame.header.kind with
        | .beacon => system.station.switches own decision frame ||
            system.station.suits frame
        | .probeResponse => system.station.answers frame
        | _ => false) := by
  unfold Station.heeds
  split
  · next hnone => cases haddress.symm.trans hnone
  · next other hother =>
      obtain rfl : own = other := Option.some.inj (haddress.symm.trans hother)
      rfl

theorem receiveBeacon_reaction (haddress : system.station.address = some own)
    (decision : Decision) {frame : Frame}
    (hreaches : frame.reaches own = true)
    (hkind : frame.header.kind = .beacon) :
    Reaction system decision (.receive frame)
      ((system.opening (.receive frame)).receiveBeacon own decision frame) := by
  have hheeds := heeds_of_address haddress decision frame
  simp only [hreaches, hkind, Bool.true_and] at hheeds
  rw [Turn.receiveBeacon_eq]
  split
  · next hswitch => exact .joined haddress hreaches hkind (.inl hswitch)
  · next hswitch =>
      split
      · next hsuits =>
          split
          · next hopen =>
              have hfree : system.station.isAssociated = false :=
                Phase.isAssociated_of_isOpen hopen
              have hstays : ((system.opening (.receive frame)).consulted own
                  decision frame).depart own =
                    (system.opening (.receive frame)).consulted own decision
                      frame := by
                simp [Turn.depart, hfree]
              rw [← hstays]
              exact .joined haddress hreaches hkind (.inr ⟨hsuits, hopen⟩)
          · next hclosed =>
              exact .followed haddress hreaches hkind
                (eq_false_of_ne_true hswitch) hsuits
                (eq_false_of_ne_true hclosed)
      · next hsuits =>
          have hunheeded : system.station.heeds decision frame = false := by
            simp only [station_opening, Station.prepare] at hswitch hsuits
            simp [hheeds, hswitch, hsuits]
          exact .declined haddress hunheeded hkind

theorem receiveProbeResponse_reaction
    (haddress : system.station.address = some own)
    (decision : Decision) {frame : Frame}
    (hreaches : frame.reaches own = true)
    (hkind : frame.header.kind = .probeResponse) :
    Reaction system decision (.receive frame)
      ((system.opening (.receive frame)).receiveProbeResponse own decision
        frame) := by
  have hheeds := heeds_of_address haddress decision frame
  simp only [hreaches, hkind, Bool.true_and] at hheeds
  unfold Turn.receiveProbeResponse
  split
  · next hphase =>
      simp only [station_opening, Station.prepare] at hphase
      have hanswers : system.station.answers frame =
          (system.station.wantsSsid frame.body.ssid &&
            Turn.advertisesAll system.station.config frame.body.rates) := by
        simp [Station.answers, hphase]
      split
      · next hwanted =>
          exact .answered haddress hreaches hkind (hanswers.trans hwanted)
      · next hunwanted =>
          exact .dropped haddress ((hheeds.trans hanswers).trans
            (eq_false_of_ne_true hunwanted))
  · next hphase =>
      refine .rested ?_
      intro _ _
      exact .inr (.inl ⟨hkind, hphase⟩)

theorem receiveAssocResponse_reaction
    (haddress : system.station.address = some own)
    (decision : Decision) {frame : Frame}
    (hreaches : frame.reaches own = true)
    (hkind : frame.header.kind = .assocResponse ∨
      frame.header.kind = .reassocResponse) :
    Reaction system decision (.receive frame)
      ((system.opening (.receive frame)).receiveAssocResponse own frame) := by
  have hheeds : system.station.heeds decision frame = false := by
    apply Station.heeds_of_kind
    · rcases hkind with hkind | hkind <;> simp [hkind]
    · rcases hkind with hkind | hkind <;> simp [hkind]
  unfold Turn.receiveAssocResponse
  simp only [station_opening, Station.prepare]
  split
  · next attempt hphase =>
      split
      · next hsender =>
          cases hstatus : frame.body.status.isSuccess with
          | true => exact .granted haddress hreaches hkind hphase hsender hstatus
          | false => exact .denied haddress hreaches hkind hphase hsender hstatus
      · exact .dropped haddress hheeds
  · next hphase =>
      refine .rested ?_
      intro _ _
      exact .inr (.inr ⟨hkind, hphase⟩)

theorem receiveData_reaction (haddress : system.station.address = some own)
    (decision : Decision) {frame : Frame}
    (hreaches : frame.reaches own = true)
    (hkind : frame.header.kind = .data ∨ frame.header.kind = .qosData) :
    Reaction system decision (.receive frame)
      ((system.opening (.receive frame)).receiveData frame) := by
  have hheeds : system.station.heeds decision frame = false := by
    apply Station.heeds_of_kind
    · rcases hkind with hkind | hkind <;> simp [hkind]
    · rcases hkind with hkind | hkind <;> simp [hkind]
  unfold Turn.receiveData
  split
  · next haccepted =>
      simp only [station_opening, Station.prepare, Bool.and_eq_true,
        Bool.not_eq_true', beq_iff_eq] at haccepted
      obtain ⟨⟨⟨hassociated, hfromDs⟩, htoDs⟩, hsender⟩ := haccepted
      exact .forwarded haddress hreaches hkind hassociated hfromDs htoDs hsender
  · exact .dropped haddress hheeds

theorem receive_reaction (haddress : system.station.address = some own)
    (decision : Decision) (frame : Frame) :
    Reaction system decision (.receive frame)
      ((system.opening (.receive frame)).receive own decision frame) := by
  unfold Turn.receive
  split
  · next hthird =>
      refine .rested ?_
      intro other hother
      obtain rfl : own = other := Option.some.inj (haddress.symm.trans hother)
      exact .inl hthird
  · next hthird =>
      split
      · next hothers =>
          have hreaches : frame.reaches own = false := by
            simpa [Frame.reaches, hthird] using hothers
          refine .dropped haddress ?_
          rw [heeds_of_address haddress, hreaches, Bool.false_and]
      · next hours =>
          have hreaches : frame.reaches own = true := by
            simpa [Frame.reaches, hthird, Classical.or_iff_not_imp_left]
              using hours
          cases hkind : frame.header.kind with
          | beacon => exact receiveBeacon_reaction haddress decision hreaches hkind
          | probeResponse =>
              exact receiveProbeResponse_reaction haddress decision hreaches hkind
          | assocResponse | reassocResponse =>
              exact receiveAssocResponse_reaction haddress decision hreaches
                (by simp [hkind])
          | data | qosData =>
              exact receiveData_reaction haddress decision hreaches
                (by simp [hkind])
          | disassociation | action =>
              exact .relayed haddress hreaches (by simp [hkind])
          | probeRequest | assocRequest | reassocRequest =>
              exact .dropped haddress (Station.heeds_of_kind _ _
                (by simp [hkind]) (by simp [hkind]))

theorem timeOut_reaction (haddress : system.station.address = some own)
    (decision : Decision) {id : EventId} {kind : Timeout}
    (htake : (system.station.timeouts.take id).1 = some kind) :
    Reaction system decision (.timeout id)
      ((system.opening (.timeout id)).timeOut own kind) := by
  cases kind with
  | probeRequest =>
      by_cases hphase : system.station.phase = .probing
      · simpa [Turn.timeOut, hphase] using
          Reaction.reprobed haddress htake hphase
      · have hkept : (system.opening (.timeout id)).timeOut own .probeRequest =
            system.opening (.timeout id) := by
          unfold Turn.timeOut
          split <;> simp_all
        rw [hkept]
        exact .outlived htake (.inr hphase)
  | assocRequest =>
      cases hphase : system.station.phase with
      | joining attempt =>
          simpa [Turn.timeOut, hphase] using
            Reaction.rejoined haddress htake hphase
      | searching | probing | associated | refused =>
          have hkept :
              (system.opening (.timeout id)).timeOut own .assocRequest =
                system.opening (.timeout id) := by
            simp [Turn.timeOut, hphase]
          rw [hkept]
          exact .outlived htake (by simp [Station.Outlives, hphase])
  | beaconWatchdog =>
      by_cases hphase : system.station.phase = .refused
      · have hkept :
            (system.opening (.timeout id)).timeOut own .beaconWatchdog =
              system.opening (.timeout id) := by
          simp [Turn.timeOut, hphase]
        rw [hkept]
        exact .outlived htake (.inr hphase)
      · have hfired := Turn.timeOut_beaconWatchdog
          (system.opening (.timeout id)) own (by simpa using hphase)
        simp only [station_opening, clock_opening, Station.coverage_prepare]
          at hfired
        rw [hfired]
        split
        · next hcovered => exact .rearmed haddress htake hphase hcovered
        · next hended =>
            exact .expired haddress htake hphase (Nat.le_of_not_lt hended)

/-- What an operation makes of a system by way of a turn. -/
def Reacts (system : System) (decision : Decision) (operation : Operation)
    (outcome : Outcome) : Prop :=
  ∃ turn, Reaction system decision operation turn ∧
    outcome.system = (turn.settle system.station.isAssociated).system ∧
    outcome.effects = (turn.settle system.station.isAssociated).effects

private theorem reacts_opening {decision : Decision} {operation : Operation}
    {error? : Option StationError}
    (hreaction : Reaction system decision operation
      (system.opening operation)) :
    system.Reacts decision operation
      { system := (system.opening operation).system, error? } := by
  have hsettle := Turn.settle_isAssociated (system.opening operation)
  rw [station_opening, Station.isAssociated_prepare] at hsettle
  exact ⟨_, hreaction, by rw [hsettle], by rw [hsettle]; rfl⟩

private theorem reacts_act {decision : Decision} {operation : Operation}
    {handler : MacAddr → Turn → Turn}
    (haddress : (system.station.prepare operation).address =
      system.station.address)
    (hnone : system.station.address = none →
      Reaction system decision operation (system.opening operation))
    (hsome : ∀ own, system.station.address = some own →
      Reaction system decision operation
        (handler own (system.opening operation))) :
    system.Reacts decision operation
      ((system.opening operation).system.act handler) := by
  unfold act
  split
  · next hunset => exact reacts_opening (hnone (haddress.symm.trans hunset))
  · next own hset =>
      refine ⟨_, hsome own (haddress.symm.trans hset), ?_, ?_⟩
      · simp only [Turn.system, ← Station.isAssociated_prepare system.station
          operation]
        rfl
      · simp only [← Station.isAssociated_prepare system.station operation]
        rfl

theorem handleTimeout_eq (system : System) (id : EventId) :
    system.handleTimeout id =
      match (system.station.timeouts.take id).1 with
      | none => { system := (system.opening (.timeout id)).system }
      | some kind => (system.opening (.timeout id)).system.act
          fun own turn => turn.timeOut own kind := rfl

private theorem unable_of_forall
    (h : ∀ bssid, system.station.phase = .associated →
      system.station.bssid = some bssid → False) :
    system.station.isAssociated = false ∨ system.station.bssid = none := by
  cases hbssid : system.station.bssid with
  | none => exact .inr rfl
  | some bssid =>
      refine .inl ?_
      unfold Station.isAssociated
      cases hphase : system.station.phase with
      | associated => exact (h bssid hphase hbssid).elim
      | searching | probing | joining | refused => rfl

/-- Whatever is asked of a station, it reacts in one of the ways listed. -/
theorem perform_reacts (system : System) (decision : Decision)
    (operation : Operation) :
    system.Reacts decision operation
      (system.perform decision operation) := by
  cases operation with
  | setAddress address => exact reacts_opening (.rested trivial)
  | register listener => exact reacts_opening (.rested trivial)
  | ensureAssociated =>
      refine reacts_act rfl (fun hnone => .rested (.inl hnone)) ?_
      intro own haddress
      by_cases hphase : system.station.phase = .searching
      · rw [Turn.ensureAssociated_of_searching _ _ hphase]
        exact .searched haddress (.inl rfl) hphase
      · rw [Turn.ensureAssociated_of_ne _ _ hphase]
        exact .rested (.inr hphase)
  | receive frame =>
      refine reacts_act rfl (fun hnone => .rested ?_)
        fun own haddress => receive_reaction haddress decision frame
      intro own haddress
      cases hnone.symm.trans haddress
  | timeout id =>
      change system.Reacts decision _ (system.handleTimeout id)
      rw [handleTimeout_eq]
      split
      · next htake => exact reacts_opening (.rested htake)
      · next kind htake =>
          refine reacts_act rfl (fun hnone => .outlived htake (.inl hnone)) ?_
          intro own haddress
          exact timeOut_reaction haddress decision htake
  | send destination payload tid =>
      refine reacts_act rfl (fun hnone => .rested hnone) ?_
      intro own haddress
      unfold Turn.send
      split
      · next bssid hphase hbssid => exact .sent haddress hphase hbssid
      · next hunable =>
          by_cases hphase : system.station.phase = .searching
          · rw [Turn.ensureAssociated_of_searching _ _ hphase]
            exact .soughtUnsent haddress hphase
          · rw [Turn.ensureAssociated_of_ne _ _ hphase]
            refine .unsent haddress (unable_of_forall hunable) hphase
  | capabilitiesChanged =>
      refine reacts_act rfl (fun hnone => .rested (.inl hnone)) ?_
      intro own haddress
      unfold Turn.changeCapabilities
      split
      · next bssid hphase hbssid => exact .reassociated haddress hphase hbssid
      · next hunable =>
          exact .rested (.inr (unable_of_forall hunable))
  | setActiveProbing on =>
      refine reacts_act rfl (fun hnone => .rested (.inl hnone)) ?_
      intro own haddress
      cases on with
      | false => exact .silenced haddress
      | true =>
          change Reaction _ _ _ (Turn.ensureAssociated _ own)
          by_cases hphase : system.station.phase = .searching
          · rw [Turn.ensureAssociated_of_searching _ _ hphase]
            exact .searched haddress (.inr rfl) hphase
          · rw [Turn.ensureAssociated_of_ne _ _ hphase]
            exact .rested (.inr ⟨rfl, hphase⟩)
  | setSsid ssid =>
      refine reacts_act rfl (fun hnone => .rested (.inl hnone)) ?_
      intro own haddress
      unfold Turn.changeSsid
      split
      · next hphase => exact .released haddress hphase
      · next hphase => exact .rested (.inr hphase)

theorem perform_receive (haddress : system.station.address = some own)
    (decision : Decision) (frame : Frame) :
    let turn := ((system.opening (.receive frame)).receive own decision
      frame).settle system.station.isAssociated
    system.perform decision (.receive frame) =
      { system := turn.system, effects := turn.effects } := by
  unfold perform act
  rw [haddress]
  rfl

end System

end Roaming

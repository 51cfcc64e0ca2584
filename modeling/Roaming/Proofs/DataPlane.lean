import Roaming.Proofs.Rejection
import Roaming.Proofs.Transmission

namespace Roaming

/-! Payloads handed up and payloads handed over to be sent, each accounted for. -/

namespace Turn

variable (turn : Turn) (own : MacAddr)

/-! A payload that cannot be sent is counted, whatever else comes of it. -/

private theorem reportDown_dropOutgoing :
    turn.dropOutgoing.reportDown own =
      (turn.reportDown own).dropOutgoing := by
  simp only [reportDown, apply_ite dropOutgoing]
  rfl

private theorem search_dropOutgoing :
    turn.dropOutgoing.search own = (turn.search own).dropOutgoing := by
  simp only [search, reportDown_dropOutgoing, apply_ite dropOutgoing]
  rfl

private theorem ensureAssociated_dropOutgoing :
    turn.dropOutgoing.ensureAssociated own =
      (turn.ensureAssociated own).dropOutgoing := by
  by_cases hphase : turn.station.phase = .searching
  · rw [ensureAssociated_of_searching turn own hphase,
      ensureAssociated_of_searching turn.dropOutgoing own hphase,
      search_dropOutgoing]
  · rw [ensureAssociated_of_ne turn own hphase,
      ensureAssociated_of_ne turn.dropOutgoing own hphase]

private theorem settle_dropOutgoing (wasAssociated : Bool) :
    turn.dropOutgoing.settle wasAssociated =
      (turn.settle wasAssociated).dropOutgoing := by
  have hassociated : turn.dropOutgoing.station.isAssociated =
      turn.station.isAssociated := rfl
  unfold settle
  rw [hassociated]
  cases wasAssociated <;> cases turn.station.isAssociated
  · rfl
  · simp only [station_dropOutgoing]
    cases turn.station.listeners.joined <;> cases turn.station.bssid <;> rfl
  · simp only [station_dropOutgoing]
    cases turn.station.listeners.left <;> cases turn.station.reportedAp <;> rfl
  · rfl

end Turn

/-- Data for the station that its access point has sent on. -/
structure Station.Takes (station : Station) (own : MacAddr) (frame : Frame) :
    Prop where
  phase : station.phase = .associated
  reaches : frame.reaches own = true
  fromDs : frame.header.fromDs = true
  toDs : frame.header.toDs = false
  sender : station.bssid = some frame.header.transmitter

namespace Turn

variable {turn : Turn} {own : MacAddr} {decision : Decision} {frame : Frame}
  (hkind : frame.header.kind = .data ∨ frame.header.kind = .qosData)

include hkind

private theorem receive_data_of_reaches (hreaches : frame.reaches own = true) :
    turn.receive own decision frame = turn.receiveData frame := by
  obtain ⟨hthird, hours⟩ := Frame.heard_of_reaches hreaches
  rw [receive, if_neg hthird, if_neg hours]
  rcases hkind with hkind | hkind <;> rw [hkind]

private theorem receive_of_takes (htakes : turn.station.Takes own frame) :
    turn.receive own decision frame = turn.forward frame := by
  rw [receive_data_of_reaches hkind htakes.reaches, receiveData, if_pos]
  · rfl
  · simp [Station.isAssociated_iff.mpr htakes.phase, htakes.fromDs,
      htakes.toDs, htakes.sender]

private theorem receive_of_not_takes (hthird : frame.header.third ≠ own)
    (hrejects : ¬turn.station.Takes own frame) :
    turn.receive own decision frame = turn.dropReceived := by
  cases hreaches : frame.reaches own with
  | false =>
      have hothers : frame.header.receiver ≠ own ∧
          !frame.header.receiver.isGroup := by
        simpa [Frame.reaches, hthird] using hreaches
      rw [receive, if_neg hthird, if_pos hothers]
  | true =>
      rw [receive_data_of_reaches hkind hreaches, receiveData, if_neg]
      intro haccepted
      simp only [Bool.and_eq_true, Bool.not_eq_true', beq_iff_eq] at haccepted
      obtain ⟨⟨⟨hassociated, hfromDs⟩, htoDs⟩, hsender⟩ := haccepted
      exact hrejects ⟨Station.isAssociated_iff.mp hassociated, hreaches,
        hfromDs, htoDs, hsender⟩

end Turn

namespace System

variable {system : System} {own : MacAddr}

private theorem perform_send (haddress : system.station.address = some own)
    (decision : Decision) (destination : MacAddr) (payload : Payload)
    (tid : UInt8) :
    system.perform decision (.send destination payload tid) =
      ((system.opening (.send destination payload tid)).send own destination
        payload tid).outcome system.station.isAssociated := by
  unfold perform act
  rw [haddress]
  rfl

private theorem perform_ensureAssociated (haddress : system.station.address = some own)
    (decision : Decision) :
    system.perform decision .ensureAssociated =
      ((system.opening .ensureAssociated).ensureAssociated own).outcome
        system.station.isAssociated := by
  unfold perform act
  rw [haddress]
  rfl

section Receive

variable {decision : Decision} {frame : Frame}
  (haddress : system.station.address = some own)
  (hkind : frame.header.kind = .data ∨ frame.header.kind = .qosData)

include haddress hkind

private theorem perform_taken (htakes : system.station.Takes own frame) :
    system.perform decision (.receive frame) =
      { system := { system with
          station.counters.forwardedUp :=
            system.station.counters.forwardedUp + 1 }
        effects := [.request (.forwardUp frame.header.third
          frame.header.receiver frame.payload)] } := by
  rw [perform_receive haddress, Turn.receive_of_takes hkind htakes]
  exact Turn.outcome_of_lasting rfl

private theorem perform_untaken (hrejects : ¬system.station.Takes own frame) :
    system.perform decision (.receive frame) =
      { system := { system with
          station.counters.rxDrops := system.station.counters.rxDrops +
            if frame.header.third = own then 0 else 1 } } := by
  rw [perform_receive haddress]
  by_cases hthird : frame.header.third = own
  · rw [if_pos hthird, Turn.receive, if_pos hthird]
    exact Turn.outcome_of_lasting rfl
  · rw [if_neg hthird, Turn.receive_of_not_takes hkind hthird hrejects]
    exact Turn.outcome_of_lasting rfl

end Receive

section Send

variable {decision : Decision} {destination : MacAddr} {payload : Payload}
  {tid : UInt8} (haddress : system.station.address = some own)

include haddress

private theorem perform_sent {bssid : MacAddr}
    (hphase : system.station.phase = .associated)
    (hbssid : system.station.bssid = some bssid) :
    system.perform decision (.send destination payload tid) =
      { system := system
        effects := [.request (.transmit (.data own bssid destination payload
          system.station.capabilities.qos tid))] } := by
  let turn := system.opening (.send destination payload tid)
  have hsend : turn.send own destination payload tid =
      turn.transmit (.data own bssid destination payload
        turn.station.capabilities.qos tid) := by
    simp [Turn.send, turn, hphase, hbssid]
  rw [perform_send haddress, hsend]
  exact Turn.outcome_of_lasting rfl

private theorem perform_unsent (hfree : system.station.phase ≠ .associated) :
    let outcome := system.perform decision (.send destination payload tid)
    let sought := system.perform decision .ensureAssociated
    outcome.system = { sought.system with
        station.counters.txDrops :=
          sought.system.station.counters.txDrops + 1 } ∧
      outcome.effects = sought.effects := by
  intro outcome sought
  let turn := system.opening (.send destination payload tid)
  have hsend : turn.send own destination payload tid =
      (turn.ensureAssociated own).dropOutgoing := by
    rw [← Turn.ensureAssociated_dropOutgoing, Turn.send]
    split
    · next hphase _ => exact absurd hphase hfree
    · rfl
  have houtcome : outcome = ((turn.ensureAssociated own).dropOutgoing).outcome
      system.station.isAssociated := by
    rw [← hsend]
    exact perform_send haddress ..
  have hsought : sought = (turn.ensureAssociated own).outcome
      system.station.isAssociated :=
    perform_ensureAssociated haddress decision
  rw [houtcome, hsought, Turn.outcome, Turn.settle_dropOutgoing]
  exact ⟨rfl, rfl⟩

end Send

end System

namespace Request

def isForwardUp : Request → Bool
  | .forwardUp _ _ _ => true
  | _ => false

def isData (request : Request) : Bool :=
  request.kind? == some .data || request.kind? == some .qosData

@[simp] theorem isForwardUp_forwardUp (source destination : MacAddr)
    (payload : Payload) :
    (forwardUp source destination payload).isForwardUp = true := rfl

@[simp] theorem isForwardUp_transmit (frame : OutgoingFrame) :
    (transmit frame).isForwardUp = false := rfl

@[simp] theorem isForwardUp_toParent (frame : Frame) :
    (toParent frame).isForwardUp = false := rfl

@[simp] theorem isData_forwardUp (source destination : MacAddr)
    (payload : Payload) :
    (forwardUp source destination payload).isData = false := rfl

@[simp] theorem isData_toParent (frame : Frame) :
    (toParent frame).isData = false := rfl

@[simp] theorem isData_probeRequest (own : MacAddr) (ssid : Ssid)
    (config : Config) :
    (transmit (.probeRequest own ssid config)).isData = false := rfl

@[simp] theorem isData_assocRequest (own bssid : MacAddr) (ssid : Ssid)
    (config : Config) (reassociation : Bool) :
    (transmit (.assocRequest own bssid ssid config reassociation)).isData =
      false := by
  cases reassociation <;> rfl

@[simp] theorem isData_data (own bssid destination : MacAddr)
    (payload : Payload) (qos : Bool) (tid : UInt8) :
    (transmit (.data own bssid destination payload qos tid)).isData =
      true := by
  cases qos <;> rfl

end Request

namespace Turn

@[simp] theorem countP_farewell_isForwardUp (turn : Turn) (own : MacAddr) :
    (turn.farewell own).countP Request.isForwardUp = 0 := by
  unfold farewell
  split <;> rfl

@[simp] theorem countP_farewell_isData (turn : Turn) (own : MacAddr) :
    (turn.farewell own).countP Request.isData = 0 := by
  unfold farewell
  split <;> rfl

end Turn

/-- Whether an operation gives the station a payload to send, and it can do something about it. -/
def Station.offers (station : Station) : Operation → Bool
  | .send _ _ _ => station.address.isSome
  | _ => false

/-- What the counters go up by agrees with what has been asked for, and with how many payloads there
were to send. -/
structure Accounts (before after : Counters) (offered : Nat)
    (requests : List Request) : Prop where
  forwardedUp :
    after.forwardedUp = before.forwardedUp + requests.countP Request.isForwardUp
  sent : requests.countP Request.isData + after.txDrops =
    before.txDrops + offered

private theorem Accounts.trans {first second third : Counters} {offered more : Nat}
    {requests others : List Request}
    (hfirst : Accounts first second offered requests)
    (hsecond : Accounts second third more others) :
    Accounts first third (offered + more) (requests ++ others) where
  forwardedUp := by
    rw [hsecond.forwardedUp, hfirst.forwardedUp, List.countP_append,
      Nat.add_assoc]
  sent := by
    have hsent := hfirst.sent
    have hmore := hsecond.sent
    rw [List.countP_append]
    omega

private theorem Reaction.accounts {system : System} {decision : Decision}
    {operation : Operation} {turn : Turn}
    (hreaction : Reaction system decision operation turn) :
    Accounts system.station.counters turn.station.counters
      (if system.station.offers operation then 1 else 0) turn.requests := by
  cases hreaction with
  | rested hrests =>
      cases operation with
      | send =>
          have hunset : system.station.address = none := hrests
          exact ⟨by simp, by simp [Station.offers, hunset]⟩
      | setAddress | register | ensureAssociated | receive | timeout
      | capabilitiesChanged | setActiveProbing | setSsid =>
          exact ⟨by simp, by simp [Station.offers]⟩
  | searched _ hoperation =>
      rcases hoperation with rfl | rfl
      · exact ⟨by simp [cond_eq_ite], by simp [Station.offers, cond_eq_ite]⟩
      · exact ⟨by simp, by simp [Station.offers]⟩
  | sent haddress =>
      exact ⟨by simp, by simp [Station.offers, haddress, Nat.add_comm]⟩
  | unsent haddress => exact ⟨by simp, by simp [Station.offers, haddress]⟩
  | soughtUnsent haddress =>
      exact ⟨by simp [cond_eq_ite],
        by simp [Station.offers, haddress, cond_eq_ite]⟩
  | expired | released =>
      exact ⟨by simp [cond_eq_ite], by simp [Station.offers, cond_eq_ite]⟩
  | _ => exact ⟨by simp, by simp [Station.offers]⟩

namespace Moment

/-- Whether the station is given a payload to send. -/
def sends (moment : Moment) : Bool :=
  match moment.operation? with
  | some (.send _ _ _) => true
  | _ => false

/-- The same of a station that has an address. -/
def offers (moment : Moment) : Bool :=
  moment.operation?.any moment.before.station.offers

private theorem offers_of_addressed {moment : Moment}
    (haddressed : moment.sends = true →
      moment.before.station.address ≠ none) :
    moment.offers = moment.sends := by
  unfold offers sends at *
  cases hoperation : moment.operation? with
  | none => rfl
  | some operation =>
      cases operation with
      | send =>
          rw [hoperation] at haddressed
          exact Option.isSome_iff_ne_none.mpr (haddressed rfl)
      | setAddress | register | ensureAssociated | receive | timeout
      | capabilitiesChanged | setActiveProbing | setSsid => rfl

private theorem accounts (moment : Moment) :
    Accounts moment.before.station.counters moment.after.station.counters
      (if moment.offers then 1 else 0) moment.outcome.requests := by
  cases moment.course with
  | idle hoperation hafter heffects =>
      rw [hafter, offers, hoperation]
      simp only [Outcome.requests, heffects]
      exact ⟨rfl, Nat.zero_add _⟩
  | reacted hoperation hreaction hstation _ heffects =>
      rw [hstation, offers, hoperation, Outcome.requests_of_parting heffects]
      exact hreaction.accounts

end Moment

def requestsMade (history : List Moment) : List Request :=
  history.flatMap fun moment => moment.outcome.requests

theorem accounts_run (config : Config) (moves : List Move) :
    Accounts {} ((System.ofConfig config).run moves).station.counters
      (((System.ofConfig config).history moves).countP Moment.offers)
      (requestsMade ((System.ofConfig config).history moves)) := by
  refine System.run_induction (motive := fun history system =>
    Accounts {} system.station.counters (history.countP Moment.offers)
      (requestsMade history)) ⟨rfl, rfl⟩ ?_ moves
  intro history system move hbefore
  have hmoment := hbefore.trans (Moment.accounts ⟨system, move⟩)
  simpa [requestsMade, List.countP_append, List.countP_singleton] using hmoment

/-- In every run data is handed up exactly if it comes from the access point of a station that is
associated, is for that station and not from itself, and comes out of the distribution system; all
other data is dropped, but for the station's own.  A payload to be sent goes out in one frame to the
access point of a station that is associated; any other station counts it, and looks for a network
as if asked to.  Neither touches anything else.  So the counters tell how many payloads have been
handed up, and with the frames sent how many there were to send. -/
theorem data_is_accounted_for (config : Config) (moves : List Move) :
    let reached := (System.ofConfig config).run moves
    let history := (System.ofConfig config).history moves
    let station := reached.station
    (∀ own decision frame, station.address = some own →
      frame.header.kind = .data ∨ frame.header.kind = .qosData →
      let outcome := reached.perform decision (.receive frame)
      (station.Takes own frame →
        outcome.system = { reached with
          station.counters.forwardedUp :=
            reached.station.counters.forwardedUp + 1 } ∧
        outcome.effects = [.request (.forwardUp frame.header.third
          frame.header.receiver frame.payload)]) ∧
      (¬station.Takes own frame →
        outcome.system = { reached with
          station.counters.rxDrops := reached.station.counters.rxDrops +
            if frame.header.third = own then 0 else 1 } ∧
        outcome.effects = [])) ∧
    (∀ own decision destination payload tid, station.address = some own →
      let outcome := reached.perform decision (.send destination payload tid)
      let sought := reached.perform decision .ensureAssociated
      (station.phase = .associated →
        outcome.system = reached ∧
        ∃ frame tid?, outcome.effects = [.request (.transmit frame)] ∧
          (frame.header.kind = .data ∨ frame.header.kind = .qosData) ∧
          station.bssid = some frame.header.receiver ∧
          frame.header.third = destination ∧
          frame.body = .data tid? payload) ∧
      (station.phase ≠ .associated →
        outcome.system = { sought.system with
          station.counters.txDrops :=
            sought.system.station.counters.txDrops + 1 } ∧
        outcome.effects = sought.effects)) ∧
    station.counters.forwardedUp =
      (requestsMade history).countP Request.isForwardUp ∧
    ((∀ moment ∈ history, moment.sends = true →
        moment.before.station.address ≠ none) →
      (requestsMade history).countP Request.isData + station.counters.txDrops =
        history.countP Moment.sends) := by
  intro reached history station
  have haccounts := accounts_run config moves
  refine ⟨?_, ?_, ?_, ?_⟩
  · intro own decision frame haddress hkind outcome
    constructor
    · intro htakes
      have houtcome : outcome = _ :=
        System.perform_taken haddress hkind htakes
      rw [houtcome]
      exact ⟨rfl, rfl⟩
    · intro hrejects
      have houtcome : outcome = _ :=
        System.perform_untaken haddress hkind hrejects
      rw [houtcome]
      exact ⟨rfl, rfl⟩
  · intro own decision destination payload tid haddress outcome sought
    constructor
    · intro hphase
      obtain ⟨bssid, hbssid, _⟩ := (named_run config moves).accessPoint hphase
      have houtcome : outcome = _ :=
        System.perform_sent haddress hphase hbssid
      rw [houtcome]
      refine ⟨rfl, _, _, rfl, ?_, hbssid, rfl, rfl⟩
      cases reached.station.capabilities.qos with
      | true => exact .inr rfl
      | false => exact .inl rfl
    · exact System.perform_unsent haddress
  · rw [← Nat.zero_add (List.countP ..)]
    exact haccounts.forwardedUp
  · intro haddressed
    have hoffers : history.countP Moment.offers = history.countP Moment.sends :=
      List.countP_congr fun moment hmoment => by
        rw [Moment.offers_of_addressed (haddressed moment hmoment)]
    rw [← hoffers, ← Nat.zero_add (List.countP Moment.offers _)]
    exact haccounts.sent

namespace Sample

/-- One payload before the station is let in, one after, and one the other way. -/
def traffic : List Move :=
  [.perform refuse (.setAddress own), .perform refuse (.receive beacon),
    .perform refuse (.send rival [1] 0), .perform refuse (.receive response),
    .perform refuse (.send rival [2] 0), .perform refuse (.receive data)]

end Sample

open Sample in
theorem data_is_accounted_for_sample :
    let reached := (System.ofConfig {}).run traffic
    let history := (System.ofConfig {}).history traffic
    reached.station.counters = ⟨0, 1, 1⟩ ∧
      (requestsMade history).countP Request.isForwardUp = 1 ∧
      (requestsMade history).countP Request.isData = 1 ∧
      (reached.perform refuse (.receive data)).effects =
        [.request (.forwardUp accessPoint own [1, 2, 3])] ∧
      ∃ frame tid?,
        (reached.perform refuse (.send rival [3] 0)).effects =
          [.request (.transmit frame)] ∧
        frame.header.receiver = accessPoint ∧ frame.header.third = rival ∧
        frame.body = .data tid? [3] := by
  intro reached history
  have hcounters : reached.station.counters = ⟨0, 1, 1⟩ := by decide
  have hphase : reached.station.phase = .associated := by decide
  obtain ⟨hreceive, hsend, hforwarded, hoffered⟩ :=
    data_is_accounted_for {} traffic
  have htakes : reached.station.Takes own data :=
    ⟨hphase, by decide, rfl, rfl, by decide⟩
  obtain ⟨_, frame, tid?, heffects, _, hbssid, hrest⟩ :=
    (hsend own refuse rival [3] 0 rfl).1 hphase
  refine ⟨hcounters, ?_, ?_,
    ((hreceive own refuse data rfl (.inl rfl)).1 htakes).2,
    frame, tid?, heffects, ?_, hrest⟩
  · rw [← hforwarded, hcounters]
  · have hoffers : history.countP Moment.sends = 2 := by decide
    have hsent := hoffered (by decide)
    rw [hoffers, hcounters] at hsent
    exact Nat.add_right_cancel hsent
  · have hnetwork : reached.station.bssid = some accessPoint := by decide
    exact Option.some.inj (hbssid.symm.trans hnetwork)

end Roaming

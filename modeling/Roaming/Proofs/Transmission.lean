import Roaming.Proofs.Identity
import Roaming.Proofs.Support

namespace Roaming

/-! The frames that a station sends: whom they come from and go to, and what the station waits for
once they are out. -/

namespace OutgoingFrame

@[simp] theorem kind_assocRequest (own bssid : MacAddr) (ssid : Ssid)
    (config : Config) (reassociation : Bool) :
    (assocRequest own bssid ssid config reassociation).header.kind =
      if reassociation then .reassocRequest else .assocRequest := rfl

@[simp] theorem kind_data (own bssid destination : MacAddr)
    (payload : Payload) (qos : Bool) (tid : UInt8) :
    (data own bssid destination payload qos tid).header.kind =
      if qos then .qosData else .data := rfl

private theorem usableTid_le (tid : UInt8) : usableTid tid ≤ 7 := by
  unfold usableTid
  split
  · decide
  · next hsmall => exact UInt8.not_lt.mp hsmall

end OutgoingFrame

/-- The frames that a station can send, with what it was before and what it has become since. -/
inductive Sending (before after : Station) (own : MacAddr) :
    OutgoingFrame → Prop
  | probed (hphase : after.phase = .probing)
      (hrunning : after.timeouts.isRunning .probeRequest = true) :
      Sending before after own (.probeRequest own after.ssid after.config)
  | asked {attempt : Attempt} (hphase : after.phase = .joining attempt)
      (hbssid : after.bssid = some attempt.target)
      (hrunning : after.timeouts.isRunning .assocRequest = true) :
      Sending before after own (.assocRequest own attempt.target after.ssid
        after.config attempt.reassociation)
  | left {bssid : MacAddr} (hphase : before.phase = .associated)
      (hbssid : before.bssid = some bssid) :
      Sending before after own (.disassociation own bssid)
  | carried {bssid destination : MacAddr} {payload : Payload} {tid : UInt8}
      (hphase : before.phase = .associated)
      (hbssid : before.bssid = some bssid)
      (hafter : after.phase = .associated) :
      Sending before after own (.data own bssid destination payload
        before.capabilities.qos tid)

namespace Turn

variable {turn : Turn} {own : MacAddr}

private theorem mem_farewell {request : Request} :
    request ∈ turn.farewell own ↔ ∃ bssid,
      turn.station.phase = .associated ∧ turn.station.bssid = some bssid ∧
      request = .transmit (.disassociation own bssid) := by
  unfold farewell
  split
  · next bssid hassociated hbssid =>
      simp [Station.isAssociated_iff.mp hassociated, hbssid]
  · next hstays =>
      refine iff_of_false (by simp) ?_
      rintro ⟨bssid, hphase, hbssid, _⟩
      exact hstays bssid (Station.isAssociated_iff.mpr hphase) hbssid

private theorem length_farewell (turn : Turn) (own : MacAddr) :
    (turn.farewell own).length ≤ 1 := by
  unfold farewell
  split <;> simp

private theorem length_requests_search (turn : Turn) (own : MacAddr) :
    (turn.search own).requests.length ≤ turn.requests.length + 1 := by
  rw [requests_search]
  cases turn.station.activeProbing <;> simp

end Turn

section Steps

variable {before : Station} (turn : Turn) (own : MacAddr)

private theorem sending_probe (hphase : turn.station.phase = .probing) :
    Sending before (turn.probe own).station own
      (.probeRequest own turn.station.ssid turn.station.config) :=
  .probed hphase (by simp)

private theorem sending_join (attempt : Attempt)
    (hbssid : turn.station.bssid = some attempt.target) :
    Sending before (turn.join own attempt).station own
      (.assocRequest own attempt.target turn.station.ssid turn.station.config
        attempt.reassociation) :=
  .asked rfl hbssid (by simp)

private theorem sending_joinSender (frame : Frame) :
    Sending before (turn.joinSender own frame).station own
      (.assocRequest own frame.header.third turn.station.ssid
        turn.station.config false) :=
  sending_join ((turn.followBeacon frame).stop .probeRequest) own
    ⟨false, frame.header.third⟩ rfl

private theorem sending_joinResponder (decision : Decision) (frame : Frame) :
    Sending before (turn.joinResponder own decision frame).station own
      (.assocRequest own frame.header.transmitter turn.station.ssid
        turn.station.config false) := by
  have hjoin : Sending before (turn.joinResponder own decision frame).station
      own _ :=
    sending_join _ own ⟨false, frame.header.transmitter⟩ (by simp)
  simpa using hjoin

private theorem sending_search {turn : Turn} {own : MacAddr} {sent : OutgoingFrame}
    (hquiet : turn.requests = [])
    (hsent : .transmit sent ∈ (turn.search own).requests) :
    Sending before (turn.search own).station own sent := by
  rw [Turn.requests_search, hquiet, List.nil_append] at hsent
  rw [Turn.station_search]
  cases hprobing : turn.station.activeProbing with
  | false => simp [hprobing] at hsent
  | true =>
      rw [hprobing] at hsent
      cases List.mem_singleton.mp hsent
      exact .probed rfl (by simp)

end Steps

namespace Reaction

variable {system : System} {decision : Decision} {operation : Operation}
  {turn : Turn}

private theorem length_requests (hreaction : Reaction system decision operation turn) :
    turn.requests.length ≤ 2 := by
  cases hreaction with
  | @joined own frame =>
      have hfarewell := Turn.length_farewell
        ((system.opening (.receive frame)).consulted own decision frame) own
      simpa using hfarewell
  | expired | released =>
      rw [Turn.loseNetwork_eq]
      exact Nat.le_trans (Turn.length_requests_search ..) (by simp)
  | searched | soughtUnsent =>
      exact Nat.le_trans (Turn.length_requests_search ..) (by simp)
  | _ => simp

private theorem address_of_sent
    (hreaction : Reaction system decision operation turn)
    {sent : OutgoingFrame} (hsent : .transmit sent ∈ turn.requests) :
    turn.station.address = system.station.address := by
  rw [hreaction.address_eq]
  cases operation with
  | setAddress address =>
      cases hreaction with
      | rested => simp at hsent
      | searched _ hoperation => simp at hoperation
  | register | ensureAssociated | receive | timeout | send
  | capabilitiesChanged | setActiveProbing | setSsid => rfl

private theorem sending (hreaction : Reaction system decision operation turn)
    (hnamed : system.station.Named) {sent : OutgoingFrame}
    (hsent : .transmit sent ∈ turn.requests) :
    ∃ own, system.station.address = some own ∧
      Sending system.station turn.station own sent := by
  cases hreaction with
  | @joined own frame haddress =>
      refine ⟨own, haddress, ?_⟩
      rw [Turn.requests_joinSender, Turn.requests_depart,
        Turn.requests_consulted, System.requests_opening, List.nil_append]
        at hsent
      rcases List.mem_append.mp hsent with hfarewell | hrequest
      · obtain ⟨bssid, hphase, hbssid, hsame⟩ :=
          Turn.mem_farewell.mp hfarewell
        cases hsame
        exact .left (by simpa using hphase) (by simpa using hbssid)
      · cases List.mem_singleton.mp hrequest
        exact sending_joinSender ..
  | answered haddress =>
      refine ⟨_, haddress, ?_⟩
      rw [Turn.requests_joinResponder] at hsent
      cases List.mem_singleton.mp hsent
      exact sending_joinResponder ..
  | rejoined haddress _ hphase =>
      refine ⟨_, haddress, ?_⟩
      rw [Turn.requests_join] at hsent
      cases List.mem_singleton.mp hsent
      exact sending_join _ _ _ (hnamed.target _ hphase)
  | reassociated haddress _ hbssid =>
      refine ⟨_, haddress, ?_⟩
      rw [Turn.requests_join] at hsent
      cases List.mem_singleton.mp hsent
      exact sending_join _ _ ⟨true, _⟩ hbssid
  | reprobed haddress _ hphase =>
      refine ⟨_, haddress, ?_⟩
      rw [Turn.requests_probe] at hsent
      cases List.mem_singleton.mp hsent
      exact sending_probe _ _ hphase
  | expired haddress | released haddress =>
      refine ⟨_, haddress, ?_⟩
      rw [Turn.loseNetwork_eq] at hsent ⊢
      exact sending_search (by simp) hsent
  | searched haddress | soughtUnsent haddress =>
      exact ⟨_, haddress, sending_search (by simp) hsent⟩
  | sent haddress hphase hbssid =>
      refine ⟨_, haddress, ?_⟩
      rw [Turn.requests_transmit] at hsent
      cases List.mem_singleton.mp hsent
      exact .carried hphase hbssid hphase
  | _ => simp at hsent

end Reaction

private theorem Sending.settled {before after : Station} {own : MacAddr}
    {frame : OutgoingFrame} (hsending : Sending before after own frame)
    (reportedAp : Option MacAddr) :
    Sending before { after with reportedAp := reportedAp } own frame := by
  cases hsending with
  | probed hphase hrunning => exact .probed hphase hrunning
  | asked hphase hbssid hrunning => exact .asked hphase hbssid hrunning
  | left hphase hbssid => exact .left hphase hbssid
  | carried hphase hbssid hafter => exact .carried hphase hbssid hafter

namespace Moment

variable {moment : Moment}

private theorem length_sent (moment : Moment) : moment.sent.length ≤ 2 := by
  refine Nat.le_trans (List.length_filterMap_le ..) ?_
  cases moment.course with
  | idle _ _ heffects => simp [Outcome.requests, heffects]
  | reacted _ hreaction _ _ heffects =>
      rw [Outcome.requests_of_parting heffects]
      exact hreaction.length_requests

theorem sending (hnamed : moment.before.station.Named)
    {frame : OutgoingFrame} (hframe : frame ∈ moment.sent) :
    ∃ own, moment.before.station.address = some own ∧
      moment.after.station.address = some own ∧
      Sending moment.before.station moment.after.station own frame := by
  obtain ⟨operation, turn, _, hreaction, hstation, _, hrequest⟩ :=
    reaction_of_request (mem_sent.mp hframe)
  obtain ⟨own, haddress, hsending⟩ := hreaction.sending hnamed hrequest
  rw [hstation]
  exact ⟨own, haddress, (hreaction.address_of_sent hrequest).trans haddress,
    hsending.settled _⟩

/-- A station that probes asks everybody for the network that it wants, and waits. -/
structure Probes (moment : Moment) (frame : OutgoingFrame) : Prop where
  receiver : frame.header.receiver = .broadcast
  body : ∃ request, frame.body = .probe request ∧
    request.ssid = moment.after.station.ssid
  phase : moment.after.station.phase = .probing
  running : moment.after.station.timeouts.isRunning .probeRequest = true

/-- A station that asks to be let in asks its network, and waits; it names that network if it asks
anew, and then only. -/
structure Asks (moment : Moment) (frame : OutgoingFrame) : Prop where
  bssid : moment.after.station.bssid = some frame.header.receiver
  third : frame.header.third = frame.header.receiver
  body : ∃ request, frame.body = .assoc request ∧
    request.ssid = moment.after.station.ssid ∧
    (request.currentAp = some frame.header.receiver ↔
      frame.header.kind = .reassocRequest)
  phase : ∃ attempt, moment.after.station.phase = .joining attempt ∧
    attempt.target = frame.header.receiver ∧
    (attempt.reassociation = true ↔ frame.header.kind = .reassocRequest)
  running : moment.after.station.timeouts.isRunning .assocRequest = true

/-- A station sends data by way of its access point; a priority goes with it if both can tell
priorities apart, which the network has said when it was last heard. -/
structure Carries (moment : Moment) (adopted : List Adoption)
    (frame : OutgoingFrame) : Prop where
  phase : moment.before.station.phase = .associated
  stays : moment.after.station.phase = .associated
  bssid : moment.before.station.bssid = some frame.header.receiver
  toDs : frame.header.toDs = true
  fromDs : frame.header.fromDs = false
  body : ∃ tid? payload, frame.body = .data tid? payload ∧
    (tid?.isSome = true ↔ frame.header.kind = .qosData) ∧
    ∀ tid ∈ tid?, tid ≤ 7
  priority : frame.header.kind = .qosData ↔
    moment.before.station.config.qos = true ∧
    ∃ adoption, adopted.getLast? = some adoption ∧
      adoption.body.edca.isSome = true

end Moment

private theorem qos_negotiated (config : Config) (adopted : List Adoption) :
    (negotiated config adopted).qos = true ↔
      config.qos = true ∧ ∃ adoption, adopted.getLast? = some adoption ∧
        adoption.body.edca.isSome = true := by
  cases adopted using List.reverseRecOn with
  | nil => simp [negotiated]
  | append_singleton past adoption =>
      have hspared := (spared_negotiated config past).qos
      rw [negotiated_concat, Capabilities.qos_adopt]
      cases hqos : config.qos with
      | false => simp [hspared hqos]
      | true => simp

namespace Sending

variable {moment : Moment} {own : MacAddr} {frame : OutgoingFrame}

private theorem transmitter {before after : Station}
    (hsending : Sending before after own frame) :
    frame.header.transmitter = own := by
  cases hsending <;> rfl

private theorem probes
    (hsending : Sending moment.before.station moment.after.station own frame)
    (hkind : frame.header.kind = .probeRequest) : moment.Probes frame := by
  cases hsending with
  | probed hphase hrunning => exact ⟨rfl, ⟨_, rfl, rfl⟩, hphase, hrunning⟩
  | left => cases hkind
  | asked | carried => simp [ite_eq_iff] at hkind

theorem asks
    (hsending : Sending moment.before.station moment.after.station own frame)
    (hkind : frame.header.kind = .assocRequest ∨
      frame.header.kind = .reassocRequest) : moment.Asks frame := by
  cases hsending with
  | @asked attempt hphase hbssid hrunning =>
      refine ⟨hbssid, rfl, ⟨_, rfl, rfl, ?_⟩, ⟨attempt, hphase, rfl, ?_⟩,
        hrunning⟩
      · cases attempt.reassociation <;>
          simp [OutgoingFrame.assocRequest, OutgoingFrame.toAccessPoint]
      · cases attempt.reassociation <;> simp
  | probed | left => rcases hkind with hkind | hkind <;> cases hkind
  | carried => simp [ite_eq_iff] at hkind

private theorem carries
    (hsending : Sending moment.before.station moment.after.station own frame)
    {adopted : List Adoption}
    (hadopted : moment.before.station.capabilities =
      negotiated moment.before.station.config adopted)
    (hkind : frame.header.kind = .data ∨ frame.header.kind = .qosData) :
    moment.Carries adopted frame := by
  cases hsending with
  | @carried bssid destination payload tid hphase hbssid hstays =>
      refine ⟨hphase, hstays, hbssid, rfl, rfl, ⟨_, _, rfl, ?_, ?_⟩, ?_⟩
      · cases moment.before.station.capabilities.qos <;> simp
      · intro used hused
        split at hused
        · cases hused
          exact OutgoingFrame.usableTid_le tid
        · cases hused
      · rw [← qos_negotiated, ← hadopted]
        cases moment.before.station.capabilities.qos <;> simp
  | probed | left => rcases hkind with hkind | hkind <;> cases hkind
  | asked => simp [ite_eq_iff] at hkind

end Sending

/-- In every run, whatever happens next, a station sends no more than two frames, all in its own
name.  Those that probe, that ask to be let in and that carry data are what they should be, and
leave the station waiting as it should. -/
theorem frames_sent_are_sound (config : Config) (moves : List Move)
    (move : Move) :
    let system := System.ofConfig config
    let moment : Moment := ⟨system.run moves, move⟩
    moment.sent.length ≤ 2 ∧
    ∀ frame ∈ moment.sent,
      moment.before.station.address = some frame.header.transmitter ∧
      moment.after.station.address = some frame.header.transmitter ∧
      (frame.header.kind = .probeRequest → moment.Probes frame) ∧
      (frame.header.kind = .assocRequest ∨
        frame.header.kind = .reassocRequest → moment.Asks frame) ∧
      (frame.header.kind = .data ∨ frame.header.kind = .qosData →
        moment.Carries (adoptions (system.history moves)) frame) := by
  intro system moment
  have hadopted : moment.before.station.capabilities =
      negotiated moment.before.station.config
        (adoptions (system.history moves)) :=
    (capabilities_run config moves).trans
      (congrArg (negotiated · _) (System.config_run config moves).symm)
  refine ⟨moment.length_sent, ?_⟩
  intro frame hframe
  obtain ⟨own, hbefore, hafter, hsending⟩ :=
    Moment.sending (named_run config moves) hframe
  obtain rfl := hsending.transmitter
  exact ⟨hbefore, hafter, hsending.probes, hsending.asks,
    hsending.carries hadopted⟩

open Sample in
theorem frames_sent_are_sound_sample :
    let config : Config := { activeProbing := true, qos := true }
    let system := System.ofConfig config
    let search : Moment :=
      ⟨system.run [.perform refuse (.setAddress own)],
        .perform refuse .ensureAssociated⟩
    let request : Moment := ⟨search.before, .perform refuse (.receive beacon)⟩
    let delivery : Moment :=
      ⟨system.run joins, .perform refuse (.send rival [1, 2, 3] 5)⟩
    search.Probes (.probeRequest own [] config) ∧
    request.Asks (.assocRequest own accessPoint [] config false) ∧
    delivery.Carries (adoptions (system.history joins))
      (.data own accessPoint rival [1, 2, 3] false 5) := by
  intro config system search request delivery
  have hsearch : .probeRequest own [] config ∈ search.sent := by decide
  have hrequest : .assocRequest own accessPoint [] config false ∈
      request.sent := by decide
  have hdelivery : .data own accessPoint rival [1, 2, 3] false 5 ∈
      delivery.sent := by decide
  obtain ⟨_, _, hprobes, _⟩ :=
    (frames_sent_are_sound config [_] search.move).2 _ hsearch
  obtain ⟨_, _, _, hasks, _⟩ :=
    (frames_sent_are_sound config [_] request.move).2 _ hrequest
  obtain ⟨_, _, _, _, hcarries⟩ :=
    (frames_sent_are_sound config joins delivery.move).2 _ hdelivery
  exact ⟨hprobes rfl, hasks (.inl rfl), hcarries (.inl rfl)⟩

end Roaming

import Roaming.Proofs.Requests

namespace Roaming

/-! An association traced back through a history, to the request for it and the response that
granted it. -/

namespace Moment

def sent (moment : Moment) : List OutgoingFrame :=
  moment.outcome.requests.filterMap Request.frame?

theorem mem_sent {moment : Moment} {frame : OutgoingFrame} :
    frame ∈ moment.sent ↔ .transmit frame ∈ moment.outcome.requests := by
  rw [sent, List.mem_filterMap]
  constructor
  · rintro ⟨request, hrequest, hframe⟩
    exact Request.eq_transmit hframe ▸ hrequest
  · exact fun hrequest => ⟨_, hrequest, rfl⟩

/-- The access point that lets the station in, if the moment brings the response that the station
waits for. -/
def granted? (moment : Moment) : Option MacAddr :=
  match moment.before.station.phase, moment.operation? with
  | .joining attempt, some (.receive frame) =>
      if (frame.header.kind = .assocResponse ∨
            frame.header.kind = .reassocResponse) ∧
          frame.header.transmitter = attempt.target ∧
          frame.body.status.isSuccess = true ∧
          moment.after.station.isAssociated = true then
        some attempt.target
      else none
  | _, _ => none

private theorem granted?_of_isAssociated {moment : Moment}
    (hassociated : moment.before.station.isAssociated = true) :
    moment.granted? = none := by
  unfold granted?
  split
  · next attempt _ hphase _ =>
      simp [Station.isAssociated, hphase, Phase.isAssociated] at hassociated
  · rfl

theorem granted?_of_receive {moment : Moment} {frame : Frame}
    {attempt : Attempt} (hreceive : moment.operation? = some (.receive frame))
    (hphase : moment.before.station.phase = .joining attempt)
    (hkind : frame.header.kind = .assocResponse ∨
      frame.header.kind = .reassocResponse)
    (hsender : frame.header.transmitter = attempt.target)
    (hstatus : frame.body.status.isSuccess = true)
    (hassociated : moment.after.station.isAssociated = true) :
    moment.granted? = some attempt.target := by
  unfold granted?
  rw [hphase, hreceive]
  exact if_pos ⟨hkind, hsender, hstatus, hassociated⟩

end Moment

def framesSent (history : List Moment) : List OutgoingFrame :=
  history.flatMap Moment.sent

private theorem framesSent_concat (history : List Moment) (moment : Moment) :
    framesSent (history ++ [moment]) = framesSent history ++ moment.sent := by
  simp [framesSent]

def lastGranted? (history : List Moment) : Option MacAddr :=
  (history.filterMap Moment.granted?).getLast?

/-- An access point has been asked, and no other one since. -/
def Requested (history : List Moment) (accessPoint : MacAddr) : Prop :=
  ∃ earlier request later,
    framesSent history = earlier ++ request :: later ∧
    request.asks = true ∧ request.header.receiver = accessPoint ∧
    ∀ frame ∈ later, frame.asks = true → frame.header.receiver = accessPoint

/-- An access point has let the station in, as requested; and since then the station has neither
asked nor left anybody, and has stayed associated. -/
def Granted (history : List Moment) (accessPoint : MacAddr) : Prop :=
  ∃ earlier grant later,
    history = earlier ++ grant :: later ∧
    grant.granted? = some accessPoint ∧ Requested earlier accessPoint ∧
    (∀ frame ∈ framesSent (grant :: later),
      frame.asks = false ∧ frame.leaves = false) ∧
    ∀ moment ∈ later, moment.before.station.isAssociated = true

structure Handshake (history : List Moment) (station : Station) : Prop where
  requested : ∀ attempt, station.phase = .joining attempt →
    station.bssid = some attempt.target ∧ Requested history attempt.target
  granted : station.phase = .associated →
    ∃ accessPoint, station.bssid = some accessPoint ∧
      Granted history accessPoint

section Concat

variable {history : List Moment} {moment : Moment} {accessPoint : MacAddr}
  {station : Station}

private theorem Requested.concat (hrequested : Requested history accessPoint)
    (hsent : ∀ frame ∈ moment.sent, frame.asks = true →
      frame.header.receiver = accessPoint) :
    Requested (history ++ [moment]) accessPoint := by
  obtain ⟨earlier, request, later, hhistory, hasks, hreceiver, hlater⟩ :=
    hrequested
  refine ⟨earlier, request, later ++ moment.sent, ?_, hasks, hreceiver, ?_⟩
  · rw [framesSent_concat, hhistory]
    simp
  · intro frame hframe
    rcases List.mem_append.mp hframe with hframe | hframe
    · exact hlater frame hframe
    · exact hsent frame hframe

private theorem requested_concat {request : OutgoingFrame}
    (hlast : moment.sent.getLast? = some request)
    (hasks : request.asks = true)
    (hreceiver : request.header.receiver = accessPoint) :
    Requested (history ++ [moment]) accessPoint := by
  obtain ⟨frames, hsent⟩ := List.getLast?_eq_some_iff.mp hlast
  refine ⟨framesSent history ++ frames, request, [], ?_, hasks, hreceiver, ?_⟩
  · rw [framesSent_concat, hsent]
    simp
  · intro frame hframe
    exact absurd hframe List.not_mem_nil

private theorem Granted.concat (hgranted : Granted history accessPoint)
    (hquiet : ∀ frame ∈ moment.sent,
      frame.asks = false ∧ frame.leaves = false)
    (hassociated : moment.before.station.isAssociated = true) :
    Granted (history ++ [moment]) accessPoint := by
  obtain ⟨earlier, grant, later, rfl, hgrant, hrequested, hsince, hlater⟩ :=
    hgranted
  refine ⟨earlier, grant, later ++ [moment], by simp, hgrant, hrequested,
    ?_, ?_⟩
  · intro frame hframe
    rw [← List.cons_append, framesSent_concat] at hframe
    rcases List.mem_append.mp hframe with hframe | hframe
    · exact hsince frame hframe
    · exact hquiet frame hframe
  · intro other hother
    rcases List.mem_append.mp hother with hother | hother
    · exact hlater other hother
    · exact List.mem_singleton.mp hother ▸ hassociated

private theorem granted_concat (hgrant : moment.granted? = some accessPoint)
    (hrequested : Requested history accessPoint) (hsent : moment.sent = []) :
    Granted (history ++ [moment]) accessPoint := by
  refine ⟨history, moment, [], rfl, hgrant, hrequested, ?_, ?_⟩
  · simp [framesSent, hsent]
  · intro other hother
    exact absurd hother List.not_mem_nil

private theorem Granted.lastGranted? (hgranted : Granted history accessPoint) :
    lastGranted? history = some accessPoint := by
  obtain ⟨earlier, grant, later, rfl, hgrant, _, _, hlater⟩ := hgranted
  -- A station that is associated waits for no response, so nobody lets it in again.
  have hnone : later.filterMap Moment.granted? = [] := by
    rw [List.filterMap_eq_nil_iff]
    intro moment hmoment
    exact Moment.granted?_of_isAssociated (hlater moment hmoment)
  simp [Roaming.lastGranted?, hgrant, hnone]

private theorem handshake_free (hfree : station.phase.isBound = false) :
    Handshake history station where
  requested attempt hphase := by
    rw [hphase] at hfree
    cases hfree
  granted hphase := by
    rw [hphase] at hfree
    cases hfree

private theorem Handshake.keep
    (hbefore : Handshake history moment.before.station)
    (hphase : station.phase = moment.before.station.phase)
    (hbssid : station.bssid = moment.before.station.bssid)
    (hquiet : ∀ frame ∈ moment.sent,
      frame.asks = false ∧ frame.leaves = false) :
    Handshake (history ++ [moment]) station where
  requested := by
    intro attempt hjoining
    rw [hphase] at hjoining
    obtain ⟨htarget, hrequested⟩ := hbefore.requested attempt hjoining
    refine ⟨hbssid.trans htarget, hrequested.concat ?_⟩
    intro frame hframe hasks
    simp [(hquiet frame hframe).1] at hasks
  granted := by
    intro hassociated
    rw [hphase] at hassociated
    obtain ⟨accessPoint, haccessPoint, hgranted⟩ := hbefore.granted hassociated
    refine ⟨accessPoint, hbssid.trans haccessPoint,
      hgranted.concat hquiet ?_⟩
    rw [Station.isAssociated, hassociated]
    rfl

private theorem handshake_asked (attempt : Attempt)
    (hphase : station.phase = .joining attempt)
    (hbssid : station.bssid = some attempt.target)
    (hlast : ∃ request, moment.sent.getLast? = some request ∧
      request.asks = true ∧ request.header.receiver = attempt.target) :
    Handshake (history ++ [moment]) station where
  requested := by
    intro other hother
    obtain rfl : attempt = other :=
      Phase.joining.inj (hphase.symm.trans hother)
    obtain ⟨request, hrequest, hasks, hreceiver⟩ := hlast
    exact ⟨hbssid, requested_concat hrequest hasks hreceiver⟩
  granted hassociated := nomatch hphase.symm.trans hassociated

end Concat

theorem handshake_reaction {history : List Moment} {moment : Moment}
    {operation : Operation} {turn : Turn}
    (hbefore : Handshake history moment.before.station)
    (hoperation : moment.operation? = some operation)
    (hafter : moment.after.station.phase = turn.station.phase)
    (hsent : moment.sent = turn.requests.filterMap Request.frame?)
    (hreaction : Reaction moment.opened moment.move.decision operation turn) :
    Handshake (history ++ [moment]) turn.station := by
  cases hreaction with
  | rested => exact hbefore.keep (by simp) (by simp) (by simp [hsent])
  | dropped => exact hbefore.keep (by simp) (by simp) (by simp [hsent])
  | declined => exact hbefore.keep (by simp) (by simp) (by simp [hsent])
  | forwarded =>
      exact hbefore.keep (by simp) (by simp)
        (by simp [hsent, Request.frame?])
  | relayed =>
      exact hbefore.keep (by simp) (by simp)
        (by simp [hsent, Request.frame?])
  | followed _ _ _ _ hsuits hclosed =>
      cases hphase : moment.before.station.phase with
      | searching | probing => simp [Moment.opened, hphase, Phase.isOpen] at hclosed
      | refused => exact handshake_free (by simp [hphase, Phase.isBound])
      | joining | associated =>
          -- Bound already, the station follows the beacons of its own network only.
          have hbssid : moment.before.station.bssid = some _ :=
            Station.bssid_of_suits hsuits (by simp [hphase, Phase.isBound])
          exact hbefore.keep (by simp) (by simp [hbssid])
            (by simp [hsent])
  | @joined own frame =>
      exact handshake_asked ⟨false, frame.header.third⟩ (by simp) (by simp)
        (by simp [hsent, Request.frame?])
  | @answered own frame =>
      exact handshake_asked ⟨false, frame.header.transmitter⟩ (by simp)
        (by simp) (by simp [hsent, Request.frame?])
  | granted _ _ hkind hphase hsender hstatus =>
      obtain ⟨hbssid, hrequested⟩ := hbefore.requested _ hphase
      have hgrant := Moment.granted?_of_receive hoperation hphase hkind hsender hstatus
        (by simp [Station.isAssociated, hafter, Phase.isAssociated])
      refine ⟨by simp, ?_⟩
      intro _
      exact ⟨_, by simpa using hbssid,
        granted_concat hgrant hrequested (by simp [hsent])⟩
  | denied => exact handshake_free rfl
  | outlived => exact hbefore.keep (by simp) (by simp) (by simp [hsent])
  | reprobed _ _ hphase =>
      rw [Moment.station_opened] at hphase
      exact handshake_free (by simp [hphase, Phase.isBound])
  | @rejoined own id attempt _ _ hphase =>
      obtain ⟨hbssid, _⟩ := hbefore.requested _ hphase
      exact handshake_asked attempt (by simp) (by simpa using hbssid)
        (by simp [hsent, Request.frame?])
  | rearmed => exact hbefore.keep (by simp) (by simp) (by simp [hsent])
  | expired => exact handshake_free (Turn.isBound_loseNetwork ..)
  | searched _ _ hphase =>
      rw [Moment.station_opened] at hphase
      exact handshake_free (Turn.isBound_search _ _ (by
        simp [hphase, Phase.isBound]))
  | silenced => exact hbefore.keep (by simp) (by simp) (by simp [hsent])
  | sent =>
      exact hbefore.keep (by simp) (by simp)
        (by simp [hsent, Request.frame?])
  | unsent => exact hbefore.keep (by simp) (by simp) (by simp [hsent])
  | soughtUnsent _ hphase =>
      rw [Moment.station_opened] at hphase
      exact handshake_free (Turn.isBound_search _ _ (by
        simp [hphase, Phase.isBound]))
  | @reassociated own bssid _ _ hbssid =>
      exact handshake_asked ⟨true, bssid⟩ (by simp) (by simpa using hbssid)
        (by simp [hsent, Request.frame?])
  | released => exact handshake_free (Turn.isBound_loseNetwork ..)

theorem forwardUp_reaction {system : System} {decision : Decision}
    {operation : Operation} {turn : Turn} {source destination : MacAddr}
    {payload : Payload} (hreaction : Reaction system decision operation turn)
    (hforward : .forwardUp source destination payload ∈ turn.requests) :
    ∃ frame, operation = .receive frame ∧ frame.payload = payload ∧
      system.station.isAssociated = true ∧
      system.station.bssid = some frame.header.transmitter := by
  cases hreaction with
  | @forwarded own frame _ _ _ hassociated _ _ hsender =>
      have hsame := List.mem_singleton.mp hforward
      obtain ⟨_, _, hpayload⟩ := Request.forwardUp.inj hsame
      exact ⟨frame, rfl, hpayload.symm, hassociated, hsender⟩
  | expired | released | searched | soughtUnsent =>
      simp [cond_eq_ite] at hforward
  | _ => simp at hforward

theorem handshake_run (config : Config) (moves : List Move) :
    Handshake ((System.ofConfig config).history moves)
      ((System.ofConfig config).run moves).station := by
  refine System.run_induction (motive := fun history system =>
    Handshake history system.station) ?_ ?_ moves
  · exact handshake_free rfl
  · intro history system move hbefore
    let moment : Moment := ⟨system, move⟩
    change Handshake (history ++ [moment]) moment.after.station
    cases moment.course with
    | idle _ hafter heffects =>
        rw [hafter]
        exact hbefore.keep rfl rfl (by
          simp [Moment.sent, heffects, Outcome.requests])
    | reacted hoperation hreaction hstation _ heffects =>
        have hrequests := Outcome.requests_of_parting heffects
        have hlater := handshake_reaction hbefore hoperation
          (by rw [hstation]) (by rw [Moment.sent, hrequests]) hreaction
        rw [hstation]
        exact ⟨hlater.requested, hlater.granted⟩

/-- In every run a station that is associated has been let in by the access point that it names,
on a request to it and to no other one since, and has neither asked nor left anybody after that; and
what it hands up comes from the access point that let it in last. -/
theorem association_was_granted (config : Config) (moves : List Move) :
    let system := System.ofConfig config
    ((system.run moves).station.phase = .associated →
      ∃ accessPoint,
        (system.run moves).station.bssid = some accessPoint ∧
        Granted (system.history moves) accessPoint) ∧
    ∀ earlier moment later,
      system.history moves = earlier ++ moment :: later →
      ∀ source destination payload,
        .forwardUp source destination payload ∈ moment.outcome.requests →
        ∃ frame,
          moment.operation? = some (.receive frame) ∧
          frame.payload = payload ∧
          lastGranted? earlier = some frame.header.transmitter := by
  refine ⟨(handshake_run config moves).granted, ?_⟩
  intro earlier moment later hhistory source destination payload hforward
  obtain ⟨before, _, _, rfl, hbefore⟩ := System.history_split hhistory
  have hhandshake := handshake_run config before
  rw [← hbefore] at hhandshake
  cases moment.course with
  | idle _ _ heffects => simp [heffects, Outcome.requests] at hforward
  | reacted hoperation hreaction _ _ heffects =>
      rw [Outcome.requests_of_parting heffects] at hforward
      obtain ⟨frame, rfl, hpayload, hassociated, hsender⟩ :=
        forwardUp_reaction hreaction hforward
      obtain ⟨accessPoint, hbssid, hgranted⟩ :=
        hhandshake.granted (Phase.eq_of_isAssociated hassociated)
      obtain rfl : accessPoint = frame.header.transmitter :=
        Option.some.inj (hbssid.symm.trans hsender)
      exact ⟨frame, hoperation, hpayload, hgranted.lastGranted?⟩

theorem association_was_granted_sample :
    let system := System.ofConfig {}
    ((system.run Sample.joins).station.phase = .associated ∧
      ∃ accessPoint,
        (system.run Sample.joins).station.bssid = some accessPoint ∧
        Granted (system.history Sample.joins) accessPoint) ∧
    ∃ frame : Frame,
      frame.payload = [1, 2, 3] ∧
      lastGranted? (system.history Sample.joins) =
        some frame.header.transmitter := by
  refine ⟨⟨by decide, ?_⟩, ?_⟩
  · exact (association_was_granted {} Sample.joins).1 (by decide)
  · obtain ⟨frame, _, hpayload, hgranted⟩ := (association_was_granted {}
      (Sample.joins ++ [.perform Sample.refuse (.receive Sample.data)])).2
        _ _ _ (System.history_concat ..) Sample.accessPoint Sample.own
        [1, 2, 3] (by decide)
    exact ⟨frame, hpayload, hgranted⟩

end Roaming

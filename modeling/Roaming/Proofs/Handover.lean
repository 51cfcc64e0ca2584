import Roaming.Proofs.Identity
import Roaming.Proofs.Requests

namespace Roaming

/-! The requests by which a station changes its network: it leaves the one before it asks the next
one, and asks its own anew without leaving it. -/

namespace OutgoingFrame

theorem asks_iff {frame : OutgoingFrame} :
    frame.asks = true ↔ frame.header.kind = .assocRequest ∨
      frame.header.kind = .reassocRequest := by
  simp [asks]

theorem leaves_iff {frame : OutgoingFrame} :
    frame.leaves = true ↔ frame.header.kind = .disassociation := by
  simp [leaves]

@[simp] theorem leaves_probeRequest (own : MacAddr) (ssid : Ssid)
    (config : Config) :
    (probeRequest own ssid config).leaves = false := rfl

end OutgoingFrame

private theorem Station.bssid_ne_of_switches {station : Station} {own : MacAddr}
    {decision : Decision} {frame : Frame}
    (hswitches : station.switches own decision frame = true)
    (hassociated : station.isAssociated = true) :
    station.bssid ≠ some frame.header.third := by
  have hprefers : station.prefers own decision frame = true :=
    (Bool.and_eq_true_iff.mp hswitches).2
  have hother := (mem_question_of_prefers hprefers).1
  simpa [attends, hassociated] using hother

/-- What the requests of one operation mean for the station's network. -/
inductive Approach (system : System) (operation : Operation)
    (requests : List Request) : Prop
  /-- No network is asked or left. -/
  | stays (hquiet : ∀ frame, .transmit frame ∈ requests →
      frame.asks = false ∧ frame.leaves = false)
  | asks (request : OutgoingFrame) (hrequests : requests = [.transmit request])
      (hkind : request.header.kind = .assocRequest)
      (hfree : system.station.phase ≠ .associated)
  | handsOver (farewell request : OutgoingFrame)
      (hrequests : requests = [.transmit farewell, .transmit request])
      (hphase : system.station.phase = .associated)
      (hbssid : system.station.bssid = some farewell.header.receiver)
      (hfarewell : farewell.header.kind = .disassociation)
      (hkind : request.header.kind = .assocRequest)
      (hother : request.header.receiver ≠ farewell.header.receiver)
  /-- The own network is asked anew. -/
  | renews (request : OutgoingFrame)
      (hrequests : requests = [.transmit request])
      (hkind : request.header.kind = .reassocRequest)
      (hoperation : operation = .capabilitiesChanged)
      (hphase : system.station.phase = .associated)
      (hbssid : system.station.bssid = some request.header.receiver)
  | repeats (request : OutgoingFrame) (id : EventId)
      (hrequests : requests = [.transmit request])
      (hkind : request.header.kind = .reassocRequest)
      (hoperation : operation = .timeout id)
      (htake : (system.station.timeouts.take id).1 = some .assocRequest)
      (hphase : system.station.phase =
        .joining ⟨true, request.header.receiver⟩)

section Reaction

variable {system : System} {decision : Decision} {operation : Operation}
  {turn : Turn}

private theorem approach_of_join {own : MacAddr} {frame : Frame}
    (hnamed : system.station.Named)
    (hjoins : system.station.switches own decision frame = true ∨
      system.station.suits frame = true ∧
        system.station.phase.isOpen = true) :
    Approach system (.receive frame)
      ((((system.opening (.receive frame)).consulted own decision
        frame).depart own).joinSender own frame).requests := by
  cases hassociated : system.station.isAssociated with
  | false =>
      refine .asks (.assocRequest own frame.header.third system.station.ssid
        system.station.config false) ?_ rfl fun hphase => ?_
      · simp [Turn.farewell, hassociated]
      · simp [Station.isAssociated, hphase, Phase.isAssociated] at hassociated
  | true =>
      have hphase := Phase.eq_of_isAssociated hassociated
      obtain ⟨current, hbssid, _⟩ := hnamed.accessPoint hphase
      -- Whoever has a network joins another one only to switch.
      have hswitches : system.station.switches own decision frame = true := by
        rcases hjoins with hswitches | ⟨_, hopen⟩
        · exact hswitches
        · simp [hphase, Phase.isOpen] at hopen
      have hother := Station.bssid_ne_of_switches hswitches hassociated
      refine .handsOver (.disassociation own current) (.assocRequest own
        frame.header.third system.station.ssid system.station.config false)
        ?_ hphase hbssid rfl rfl ?_
      · simp [Turn.farewell, hassociated, hbssid]
      · rintro rfl
        exact hother hbssid

private theorem approach_of_rejoin {own : MacAddr} {id : EventId} {attempt : Attempt}
    (htake : (system.station.timeouts.take id).1 = some .assocRequest)
    (hphase : system.station.phase = .joining attempt) :
    Approach system (.timeout id)
      ((system.opening (.timeout id)).join own attempt).requests := by
  obtain ⟨reassociation, target⟩ := attempt
  cases reassociation with
  | false =>
      refine .asks _ (Turn.requests_join ..) rfl ?_
      simp [hphase]
  | true => exact .repeats _ id (Turn.requests_join ..) rfl rfl htake hphase

private theorem Reaction.approach (hreaction : Reaction system decision operation turn)
    (hnamed : system.station.Named) :
    Approach system operation turn.requests := by
  cases hreaction with
  | joined _ _ _ hjoins => exact approach_of_join hnamed hjoins
  | answered _ _ _ hanswers =>
      refine .asks _ (Turn.requests_joinResponder ..) rfl ?_
      simp [Station.phase_of_answers hanswers]
  | rejoined _ htake hphase => exact approach_of_rejoin htake hphase
  | reassociated _ hphase hbssid =>
      exact .renews _ (Turn.requests_join ..) rfl rfl hphase hbssid
  | rested | dropped | declined | forwarded | relayed | followed | granted
  | denied | outlived | rearmed | silenced | unsent =>
      exact .stays fun frame hframe => by simp at hframe
  | reprobed | sent =>
      refine .stays fun frame hframe => ?_
      simp only [Turn.requests_probe, Turn.requests_transmit,
        System.requests_opening, List.nil_append, List.mem_singleton,
        Request.transmit.injEq] at hframe
      simp [hframe]
  | expired | searched | soughtUnsent | released =>
      refine .stays fun frame hframe => ?_
      simp [cond_eq_ite] at hframe
      simp [hframe.2]

/-- A station waits to be let in again where it did before, or has just asked for it. -/
private theorem Reaction.renewal (hreaction : Reaction system decision operation turn)
    {accessPoint : MacAddr}
    (hjoining : turn.station.phase = .joining ⟨true, accessPoint⟩) :
    system.station.phase = .joining ⟨true, accessPoint⟩ ∨
      operation = .capabilitiesChanged ∧
      system.station.phase = .associated ∧
      system.station.bssid = some accessPoint ∧
      turn.transmits .reassocRequest = true := by
  cases hreaction with
  | reassociated _ hphase hbssid =>
      obtain ⟨_, rfl⟩ := Attempt.mk.inj (Phase.joining.inj hjoining)
      refine .inr ⟨rfl, hphase, hbssid, ?_⟩
      simp [Turn.transmits]
  | rejoined _ _ hphase =>
      obtain rfl := Phase.joining.inj hjoining
      exact .inl hphase
  | joined | answered =>
      have hasked := Phase.joining.inj hjoining
      cases hasked
  | granted | denied => cases hjoining
  | expired | released =>
      have hfree := Turn.isBound_loseNetwork _ _ ▸
        congrArg Phase.isBound hjoining
      cases hfree
  | searched _ _ hphase | soughtUnsent _ hphase =>
      have hfree := congrArg Phase.isBound hjoining
      rw [Turn.isBound_search _ _ (by simp [hphase, Phase.isBound])] at hfree
      cases hfree
  | rested | dropped | declined | forwarded | relayed | followed | outlived
  | reprobed | rearmed | silenced | sent | unsent =>
      exact .inl (by simpa using hjoining)

end Reaction

namespace Moment

/-- A station that is associated hears of other capabilities, and asks its access point anew. -/
structure Renews (moment : Moment) (accessPoint : MacAddr) : Prop where
  operation : moment.operation? = some .capabilitiesChanged
  phase : moment.before.station.phase = .associated
  bssid : moment.before.station.bssid = some accessPoint
  request : moment.transmits .reassocRequest = true

def Awaits (moment : Moment) (accessPoint : MacAddr) : Prop :=
  moment.before.station.phase = .joining ⟨true, accessPoint⟩

/-- The time for an answer to an association request is over. -/
def Lapses (moment : Moment) : Prop :=
  ∃ id, moment.operation? = some (.timeout id) ∧
    (moment.before.station.timeouts.take id).1 = some .assocRequest

end Moment

/-- An access point has been asked anew, and has not answered since. -/
def Renewed (history : List Moment) (accessPoint : MacAddr) : Prop :=
  Since (fun moment => moment.Renews accessPoint)
    (fun moment => moment.Awaits accessPoint) history

theorem renewed_run (config : Config) (moves : List Move)
    {accessPoint : MacAddr}
    (hjoining : ((System.ofConfig config).run moves).station.phase =
      .joining ⟨true, accessPoint⟩) :
    Renewed ((System.ofConfig config).history moves) accessPoint := by
  refine System.run_induction (motive := fun history system =>
    system.station.phase = .joining ⟨true, accessPoint⟩ →
      Renewed history accessPoint) ?_ ?_ moves hjoining
  · intro hphase
    cases hphase
  · intro history system move hbefore hafter
    let moment : Moment := ⟨system, move⟩
    have hwaited (hstill : moment.Awaits accessPoint) :
        Renewed (history ++ [moment]) accessPoint :=
      since_concat.mpr (.inr ⟨hbefore hstill, hstill⟩)
    cases moment.course with
    | idle _ hsame =>
        rw [hsame] at hafter
        exact hwaited hafter
    | reacted hoperation hreaction hstation _ heffects =>
        rw [hstation] at hafter
        rcases hreaction.renewal hafter with hstill |
          ⟨rfl, hphase, hbssid, hrequest⟩
        · exact hwaited hstill
        · refine since_concat.mpr (.inl ⟨hoperation, hphase, hbssid, ?_⟩)
          rw [Moment.transmits_of_parting heffects]
          exact hrequest

private theorem Moment.approach {moment : Moment}
    (hnamed : moment.before.station.Named) :
    (∃ operation, moment.operation? = some operation ∧
      Approach moment.opened operation moment.outcome.requests) ∨
    moment.outcome.requests = [] := by
  cases moment.course with
  | idle _ _ heffects => exact .inr (by simp [Outcome.requests, heffects])
  | reacted hoperation hreaction _ _ heffects =>
      refine .inl ⟨_, hoperation, ?_⟩
      rw [Outcome.requests_of_parting heffects]
      exact hreaction.approach hnamed

namespace Request

variable {before after : List Request} {frame request : OutgoingFrame}

private theorem eq_of_single
    (h : [.transmit request] = before ++ .transmit frame :: after) :
    before = [] ∧ frame = request ∧ after = [] := by
  cases before with
  | nil =>
      obtain ⟨hsame, hafter⟩ := List.cons.inj h
      exact ⟨rfl, (transmit.inj hsame).symm, hafter.symm⟩
  | cons first before => simp at h

private theorem eq_of_pair {farewell : OutgoingFrame}
    (h : [.transmit farewell, .transmit request] =
      before ++ .transmit frame :: after) :
    (before = [] ∧ frame = farewell ∧ after = [.transmit request]) ∨
      before = [.transmit farewell] ∧ frame = request ∧ after = [] := by
  cases before with
  | nil =>
      obtain ⟨hsame, hafter⟩ := List.cons.inj h
      exact .inl ⟨rfl, (transmit.inj hsame).symm, hafter.symm⟩
  | cons first before =>
      obtain ⟨rfl, hrest⟩ := List.cons.inj h
      obtain ⟨rfl, hframe, hafter⟩ := eq_of_single hrest
      exact .inr ⟨rfl, hframe, hafter⟩

end Request

namespace Approach

variable {system : System} {operation : Operation}
  {before after : List Request} {frame : OutgoingFrame}

private theorem of_leaving (happroach : Approach system operation
      (before ++ .transmit frame :: after))
    (hkind : frame.header.kind = .disassociation) :
    system.station.phase = .associated ∧
      system.station.bssid = some frame.header.receiver ∧
      ∃ request rest, after = .transmit request :: rest ∧
        request.header.kind = .assocRequest ∧
        request.header.receiver ≠ frame.header.receiver := by
  cases happroach with
  | stays hquiet =>
      have hleaves := (hquiet frame (by simp)).2
      simp [OutgoingFrame.leaves_iff.mpr hkind] at hleaves
  | asks _ hsingle hasked | renews _ hsingle hasked
  | repeats _ _ hsingle hasked =>
      obtain ⟨_, rfl, _⟩ := Request.eq_of_single hsingle.symm
      cases hkind.symm.trans hasked
  | handsOver farewell request hpair hphase hbssid _ hasked hother =>
      rcases Request.eq_of_pair hpair.symm with
        ⟨_, rfl, rfl⟩ | ⟨_, rfl, _⟩
      · exact ⟨hphase, hbssid, request, [], rfl, hasked, hother⟩
      · cases hkind.symm.trans hasked

private theorem of_asking (happroach : Approach system operation
      (before ++ .transmit frame :: after))
    (hkind : frame.header.kind = .assocRequest)
    (hassociated : system.station.phase = .associated) :
    ∃ farewell rest, before = rest ++ [.transmit farewell] ∧
      farewell.header.kind = .disassociation ∧
      system.station.bssid = some farewell.header.receiver := by
  cases happroach with
  | stays hquiet =>
      have hasks := (hquiet frame (by simp)).1
      simp [OutgoingFrame.asks_iff.mpr (.inl hkind)] at hasks
  | asks _ _ _ hfree => exact absurd hassociated hfree
  | renews _ hsingle hasked | repeats _ _ hsingle hasked =>
      obtain ⟨_, rfl, _⟩ := Request.eq_of_single hsingle.symm
      cases hkind.symm.trans hasked
  | handsOver farewell _ hpair _ hbssid hfarewell =>
      rcases Request.eq_of_pair hpair.symm with
        ⟨_, rfl, _⟩ | ⟨rfl, _, _⟩
      · cases hkind.symm.trans hfarewell
      · exact ⟨farewell, [], rfl, hfarewell, hbssid⟩

private theorem of_reasking (happroach : Approach system operation
      (before ++ .transmit frame :: after))
    (hkind : frame.header.kind = .reassocRequest) :
    before = [] ∧ after = [] ∧
      (operation = .capabilitiesChanged ∧
        system.station.phase = .associated ∧
        system.station.bssid = some frame.header.receiver ∨
      (∃ id, operation = .timeout id ∧
        (system.station.timeouts.take id).1 = some .assocRequest) ∧
        system.station.phase = .joining ⟨true, frame.header.receiver⟩) := by
  cases happroach with
  | stays hquiet =>
      have hasks := (hquiet frame (by simp)).1
      simp [OutgoingFrame.asks_iff.mpr (.inr hkind)] at hasks
  | asks _ hsingle hasked =>
      obtain ⟨_, rfl, _⟩ := Request.eq_of_single hsingle.symm
      cases hkind.symm.trans hasked
  | handsOver _ _ hpair _ _ hfarewell hasked =>
      rcases Request.eq_of_pair hpair.symm with ⟨_, rfl, _⟩ | ⟨_, rfl, _⟩
      · cases hkind.symm.trans hfarewell
      · cases hkind.symm.trans hasked
  | renews _ hsingle _ hchanged hphase hbssid =>
      obtain ⟨hbefore, rfl, hafter⟩ := Request.eq_of_single hsingle.symm
      exact ⟨hbefore, hafter, .inl ⟨hchanged, hphase, hbssid⟩⟩
  | repeats _ id hsingle _ hexpired htake hphase =>
      obtain ⟨hbefore, rfl, hafter⟩ := Request.eq_of_single hsingle.symm
      exact ⟨hbefore, hafter, .inr ⟨⟨id, hexpired, htake⟩, hphase⟩⟩

end Approach

/-- In every run, a frame by which a station leaves a network goes to the one that it is associated
with, and next the same operation asks another one; an association request of a station that is
associated follows right behind such a frame; and a reassociation request goes out alone, either to
the station's own access point when the capabilities have changed, or again to one that was asked so
and has not answered in time. -/
theorem handover_breaks_first (config : Config) (moves : List Move)
    (earlier later : List Moment) (moment : Moment)
    (hhistory : (System.ofConfig config).history moves =
      earlier ++ moment :: later)
    (before after : List Request) (frame : OutgoingFrame)
    (hrequests : moment.outcome.requests =
      before ++ .transmit frame :: after) :
    (frame.header.kind = .disassociation →
      moment.before.station.phase = .associated ∧
      moment.before.station.bssid = some frame.header.receiver ∧
      ∃ request rest, after = .transmit request :: rest ∧
        request.header.kind = .assocRequest ∧
        request.header.receiver ≠ frame.header.receiver) ∧
    (frame.header.kind = .assocRequest →
      moment.before.station.phase = .associated →
      ∃ farewell rest, before = rest ++ [.transmit farewell] ∧
        farewell.header.kind = .disassociation ∧
        moment.before.station.bssid = some farewell.header.receiver) ∧
    (frame.header.kind = .reassocRequest →
      before = [] ∧ after = [] ∧
      (moment.Renews frame.header.receiver ∨
        moment.Lapses ∧ moment.Awaits frame.header.receiver ∧
        Renewed earlier frame.header.receiver)) := by
  obtain ⟨moved, _, _, rfl, hbefore⟩ := System.history_split hhistory
  have hnamed := named_run config moved
  rw [← hbefore] at hnamed
  rcases Moment.approach hnamed with ⟨operation, hoperation, happroach⟩ | hnone
  · rw [hrequests] at happroach
    refine ⟨happroach.of_leaving, happroach.of_asking, fun hkind => ?_⟩
    obtain ⟨rfl, rfl, hreason⟩ := happroach.of_reasking hkind
    refine ⟨rfl, rfl, ?_⟩
    rcases hreason with ⟨rfl, hphase, hbssid⟩ | ⟨⟨id, rfl, htake⟩, hphase⟩
    · have htransmits : moment.transmits .reassocRequest = true := by
        simp [Moment.transmits, hrequests, Request.kind?, Request.frame?, hkind]
      exact .inl ⟨hoperation, hphase, hbssid, htransmits⟩
    · refine .inr ⟨⟨id, hoperation, htake⟩, hphase, ?_⟩
      refine renewed_run config moved ?_
      rw [← hbefore]
      exact hphase
  · simp [hnone] at hrequests

namespace Sample

def lured : Move := .perform (fun _ _ => true) (.receive rivalBeacon)

/-- The station asks its access point anew, and waits for the answer. -/
def renewedJoins : List Move :=
  joins ++ [.perform refuse .capabilitiesChanged]

end Sample

/-- A station leaves its network for another one, and one that asks its own anew asks it again. -/
theorem handover_breaks_first_sample :
    let handover : Moment :=
      ⟨(System.ofConfig {}).run Sample.askedJoins, Sample.lured⟩
    let retry : Moment :=
      ⟨(System.ofConfig {}).run Sample.renewedJoins, .advance .last⟩
    (∃ request rest,
      handover.outcome.requests =
        .transmit (.disassociation Sample.own Sample.accessPoint) ::
          .transmit request :: rest ∧
      request.header.receiver ≠ Sample.accessPoint) ∧
    retry.Lapses ∧
    Renewed ((System.ofConfig {}).history Sample.renewedJoins)
      Sample.accessPoint := by
  intro handover retry
  have hleaving : ∃ after, handover.outcome.requests =
      [] ++ .transmit (.disassociation Sample.own Sample.accessPoint) ::
        after := ⟨_, rfl⟩
  have hretry : retry.outcome.requests = [] ++ .transmit (.assocRequest
      Sample.own Sample.accessPoint [] {} true) :: [] := by decide
  obtain ⟨after, hleaving⟩ := hleaving
  constructor
  · obtain ⟨_, _, request, rest, rfl, _, hother⟩ :=
      (handover_breaks_first {} _ _ [] handover (System.history_concat ..)
        _ _ _ hleaving).1 rfl
    exact ⟨request, rest, hleaving, hother⟩
  · obtain ⟨_, _, hrenews | ⟨hlapses, _, hrenewed⟩⟩ :=
      (handover_breaks_first {} _ _ [] retry (System.history_concat ..)
        _ _ _ hretry).2.2 rfl
    · have hphase : retry.before.station.phase ≠ .associated := by decide
      exact absurd hrenews.phase hphase
    · exact ⟨hlapses, hrenewed⟩

end Roaming

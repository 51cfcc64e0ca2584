import Roaming.Proofs.Identity
import Roaming.Proofs.Losses

namespace Roaming

/-! A station that an access point has turned away: it keeps still until it is to look for another
network, or its listener sends it to one. -/

private theorem Station.prefers_of_mem {station : Station} {own : MacAddr}
    {decision : Decision} {frame : Frame} {source : MihfId}
    {link : DetectedLink}
    (hmem : .detected source link true ∈ bif station.attends frame then []
      else station.question own decision frame) :
    station.prefers own decision frame = true := by
  cases hattends : station.attends frame with
  | true => simp [hattends] at hmem
  | false =>
      rw [hattends, cond_false, mem_question] at hmem
      obtain ⟨listener, hlistener, hnotice⟩ := hmem
      obtain ⟨rfl, rfl, hanswer⟩ := Notice.detected.inj hnotice
      simp [prefers, hlistener, hattends, ← hanswer]

private theorem Turn.partingNotice_isAssociated (turn : Turn) :
    turn.partingNotice turn.station.isAssociated = [] := by
  unfold partingNotice parting
  cases turn.station.isAssociated <;> rfl

/-- A station turned away does nothing, but for asking its listener about a network. -/
structure Turn.Still (turn : Turn) : Prop where
  phase : turn.station.phase = .refused
  frames : turn.requests.filterMap Request.frame? = []
  notices : ∀ notice ∈ turn.notices,
    ∃ source link answer, notice = .detected source link answer

namespace Reaction

variable {system : System} {decision : Decision} {operation : Operation}
  {turn : Turn}

private theorem still (hreaction : Reaction system decision operation turn)
    (hrefused : system.station.phase = .refused)
    (hssid : ∀ ssid, operation ≠ .setSsid ssid) :
    turn.Still ∨ ∃ own frame source link,
      operation = .receive frame ∧ frame.header.kind = .beacon ∧
      system.station.address = some own ∧ frame.reaches own = true ∧
      Turn.advertisesAny system.station.config frame.body.rates = true ∧
      .detected source link true ∈ turn.notices := by
  have hfree : system.station.isAssociated = false := by
    simp [Station.isAssociated, hrefused, Phase.isAssociated]
  cases hreaction with
  | rested | dropped | outlived | silenced | unsent =>
      exact .inl ⟨by simpa using hrefused, by simp, by simp⟩
  | relayed =>
      exact .inl ⟨by simpa using hrefused, by simp [Request.frame?], by simp⟩
  | declined | followed =>
      refine .inl ⟨by simpa using hrefused, by simp, ?_⟩
      intro notice hnotice
      obtain ⟨source, _, rfl⟩ : ∃ source, system.station.listeners.detected =
          some source ∧ notice = .detected source _ _ := by
        simpa [Station.attends, hfree] using hnotice
      exact ⟨_, _, _, rfl⟩
  | joined haddress hreaches hkind hjoins =>
      rcases hjoins with hswitches | ⟨_, hopen⟩
      · obtain ⟨heligible, hprefers⟩ := Bool.and_eq_true_iff.mp hswitches
        obtain ⟨hother, source, link, hasked⟩ :=
          Station.mem_question_of_prefers hprefers
        exact .inr ⟨_, _, source, link, rfl, hkind, haddress, hreaches,
          heligible, by simpa [hother] using hasked⟩
      · simp [hrefused, Phase.isOpen] at hopen
  | answered _ _ _ hanswers =>
      cases hrefused.symm.trans (Station.phase_of_answers hanswers)
  | forwarded _ _ _ hassociated => cases hfree.symm.trans hassociated
  | granted _ _ _ hphase | denied _ _ _ hphase | reprobed _ _ hphase
  | rejoined _ _ hphase | searched _ _ hphase | sent _ hphase
  | soughtUnsent _ hphase | reassociated _ hphase =>
      cases hrefused.symm.trans hphase
  | rearmed _ _ hphase | expired _ _ hphase => exact absurd hrefused hphase
  | released => exact absurd rfl (hssid _)

/-- A listener who wants another network has its way. -/
private theorem lured {frame : Frame}
    (hreaction : Reaction system decision (.receive frame) turn)
    {own : MacAddr} (haddress : system.station.address = some own)
    (hreaches : frame.reaches own = true)
    (hkind : frame.header.kind = .beacon)
    (heligible : Turn.advertisesAny system.station.config frame.body.rates =
      true) {source : MihfId} {link : DetectedLink}
    (hanswer : .detected source link true ∈ turn.notices) :
    turn.station.phase = .joining ⟨false, frame.header.third⟩ := by
  cases hreaction with
  | joined => simp
  | @declined other _ hother hunheeded =>
      obtain rfl : own = other :=
        Option.some.inj (haddress.symm.trans hother)
      have hprefers : system.station.prefers own decision frame = true :=
        Station.prefers_of_mem (by simpa using hanswer)
      have hheeds := System.heeds_of_address haddress decision frame
      simp [hunheeded, hreaches, hkind, Station.switches, heligible, hprefers]
        at hheeds
  | @followed other _ hother _ _ hswitch =>
      have hprefers : system.station.prefers other decision frame = true :=
        Station.prefers_of_mem (by simpa using hanswer)
      simp [Station.switches, heligible, hprefers] at hswitch
  | answered _ _ hresponse => cases hkind.symm.trans hresponse
  | searched _ hoperation => simp at hoperation
  | _ => simp at hanswer

/-- A station turned away that is given another network to look for does so. -/
private theorem freed {ssid : Ssid}
    (hreaction : Reaction system decision (.setSsid ssid) turn)
    (hrefused : system.station.phase = .refused)
    (haddress : system.station.address ≠ none) :
    turn.station.phase =
      if system.station.activeProbing then .probing else .searching := by
  cases hreaction with
  | rested hrests =>
      rcases hrests with hnone | hother
      · exact absurd hnone haddress
      · exact absurd hrefused hother
  | released => simp [cond_eq_ite]
  | searched _ hoperation => simp at hoperation

/-- Without an address a station goes nowhere. -/
private theorem address_ne (hreaction : Reaction system decision operation turn)
    (haddress : system.station.phase ≠ .searching →
      system.station.address ≠ none)
    (hphase : turn.station.phase ≠ .searching) :
    turn.station.address ≠ none := by
  have hkept (hset : system.station.address ≠ none) :
      turn.station.address ≠ none := by
    rw [hreaction.address_eq]
    cases operation <;> first | exact hset | exact nofun
  cases hreaction with
  | rested | outlived => exact hkept (haddress (by simpa using hphase))
  | _ hset => exact hkept (by simp [hset])

end Reaction

theorem address_ne_run (config : Config) (moves : List Move)
    (hphase : ((System.ofConfig config).run moves).station.phase ≠
      .searching) :
    ((System.ofConfig config).run moves).station.address ≠ none := by
  refine System.station_induction (motive := fun station =>
    station.phase ≠ .searching → station.address ≠ none) ?_ ?_ moves hphase
  · exact fun hsearching => absurd rfl hsearching
  · intro system decision operation turn haddress hreaction
    rw [Turn.station_settle]
    exact hreaction.address_ne haddress

namespace Moment

/-- A beacon reaches the station from a network that it may join, and the listener answers that it
is to. -/
structure Lures (moment : Moment) (frame : Frame) : Prop where
  operation : moment.operation? = some (.receive frame)
  kind : frame.header.kind = .beacon
  reaches : ∃ own, moment.before.station.address = some own ∧
    frame.reaches own = true
  eligible : Turn.advertisesAny moment.before.station.config
    frame.body.rates = true
  answer : ∃ source link, .detected source link true ∈ moment.outcome.notices

/-- The station is neither given a network to look for nor sent to one. -/
structure Spares (moment : Moment) : Prop where
  ssid : ∀ ssid, moment.operation? ≠ some (.setSsid ssid)
  unlured : ∀ frame, ¬moment.Lures frame

/-- The station sends nothing, and at most asks its listener about a network. -/
structure Silent (moment : Moment) : Prop where
  sent : moment.sent = []
  notices : ∀ notice ∈ moment.outcome.notices,
    ∃ source link answer, notice = .detected source link answer

variable {moment : Moment}

private theorem still_after (hrefused : moment.before.station.phase = .refused)
    (hspares : moment.Spares) :
    moment.after.station.phase = .refused ∧ moment.Silent := by
  cases moment.course with
  | idle _ hafter heffects =>
      refine ⟨by rw [hafter]; exact hrefused, ?_, ?_⟩
      · simp [sent, Outcome.requests, heffects]
      · simp [Outcome.notices, heffects]
  | @reacted _ turn hoperation hreaction hstation _ heffects =>
      have hnotices := Outcome.notices_of_parting heffects
      rcases hreaction.still hrefused
        (fun ssid hssid => hspares.ssid ssid (hssid ▸ hoperation)) with
        hstill | ⟨own, frame, source, link, rfl, hkind, haddress, hreaches,
          heligible, hanswer⟩
      · have hstays : moment.before.station.isAssociated =
            turn.station.isAssociated := by
          rw [Station.isAssociated, Station.isAssociated, hrefused,
            hstill.phase]
        rw [hstays, Turn.partingNotice_isAssociated, List.append_nil]
          at hnotices
        refine ⟨by rw [hstation]; exact hstill.phase, ?_, ?_⟩
        · rw [sent, Outcome.requests_of_parting heffects]
          exact hstill.frames
        · rw [hnotices]
          exact hstill.notices
      · refine absurd ?_ (hspares.unlured frame)
        refine ⟨hoperation, hkind, ⟨own, haddress, hreaches⟩, heligible,
          source, link, ?_⟩
        rw [hnotices]
        exact List.mem_append_left _ hanswer

private theorem lured_after {frame : Frame} (hlures : moment.Lures frame) :
    moment.after.station.phase = .joining ⟨false, frame.header.third⟩ := by
  obtain ⟨own, haddress, hreaches⟩ := hlures.reaches
  obtain ⟨source, link, hanswer⟩ := hlures.answer
  cases moment.course with
  | idle hoperation => cases hoperation.symm.trans hlures.operation
  | reacted hoperation hreaction hstation _ heffects =>
      obtain rfl := Option.some.inj (hoperation.symm.trans hlures.operation)
      rw [hstation]
      exact hreaction.lured haddress hreaches hlures.kind hlures.eligible
        (Outcome.mem_turn_notices heffects hanswer rfl)

private theorem freed_after (hrefused : moment.before.station.phase = .refused)
    (haddress : moment.before.station.address ≠ none) {ssid : Ssid}
    (hssid : moment.operation? = some (.setSsid ssid)) :
    moment.after.station.phase =
      if moment.before.station.activeProbing then .probing
      else .searching := by
  cases moment.course with
  | idle hoperation => cases hoperation.symm.trans hssid
  | reacted hoperation hreaction hstation =>
      obtain rfl := Option.some.inj (hoperation.symm.trans hssid)
      rw [hstation]
      exact hreaction.freed hrefused haddress

end Moment

private theorem System.still_later {system : System}
    (hrefused : system.station.phase = .refused) {later : List Move}
    (hspares : ∀ moment ∈ system.history later, moment.Spares) :
    (system.run later).station.phase = .refused ∧
      ∀ moment ∈ system.history later, moment.Silent := by
  induction later generalizing system with
  | nil => exact ⟨hrefused, by simp [history]⟩
  | cons move later ih =>
      let moment : Moment := ⟨system, move⟩
      obtain ⟨hfirst, hrest⟩ := List.forall_mem_cons.mp hspares
      obtain ⟨hafter, hsilent⟩ := Moment.still_after hrefused hfirst
      obtain ⟨hphase, hlater⟩ := ih hafter hrest
      exact ⟨hphase, List.forall_mem_cons.mpr ⟨hsilent, hlater⟩⟩

/-- In every run a station turned away stays so, lets neither request run out, sends nothing and
tells nobody of a link or an association, as long as it is neither given a network to look for nor
sent to one by its listener.  The first always sets it looking, and the second always has it ask the
network named. -/
theorem refused_keeps_still (config : Config) (moves : List Move) :
    let reached := (System.ofConfig config).run moves
    (reached.station.phase = .refused → ∀ later,
      (∀ moment ∈ reached.history later, moment.Spares) →
      let station := (reached.run later).station
      station.phase = .refused ∧
      station.timeouts.isRunning .probeRequest = false ∧
      station.timeouts.isRunning .assocRequest = false ∧
      ∀ moment ∈ reached.history later, moment.Silent) ∧
    ∀ move,
      let moment : Moment := ⟨reached, move⟩
      (reached.station.phase = .refused →
        ∀ ssid, moment.operation? = some (.setSsid ssid) →
        moment.after.station.phase =
          if reached.station.activeProbing then .probing else .searching) ∧
      ∀ frame, moment.Lures frame →
        moment.after.station.phase = .joining ⟨false, frame.header.third⟩ := by
  intro reached
  constructor
  · intro hrefused later hspares
    obtain ⟨hphase, hsilent⟩ := System.still_later hrefused hspares
    have hfits := fits_run config (moves ++ later)
    rw [System.run_append, hphase] at hfits
    exact ⟨hphase, hfits.probe_idle (by simp), hfits.assoc_idle (by simp),
      hsilent⟩
  · intro move moment
    refine ⟨fun hrefused ssid hssid => ?_, fun frame => Moment.lured_after⟩
    have haddress := address_ne_run config moves (by simp [reached, hrefused])
    exact Moment.freed_after hrefused haddress hssid

namespace Sample

/-- The first network that the station hears of turns it away, with a listener to be asked about
every other one. -/
def rejected : List Move :=
  [.perform refuse (.register (.detected ⟨"observer"⟩)),
    .perform refuse (.setAddress own), .perform refuse (.receive beacon),
    .perform refuse (.receive refusal)]

end Sample

open Sample in
theorem refused_keeps_still_sample :
    let reached := (System.ofConfig {}).run rejected
    let offered : Moment := ⟨reached, .perform refuse (.receive rivalBeacon)⟩
    let wanted : Moment :=
      ⟨reached, .perform (fun _ _ => true) (.receive rivalBeacon)⟩
    let renamed : Moment := ⟨reached, .perform refuse (.setSsid [110])⟩
    offered.after.station.phase = .refused ∧
    wanted.after.station.phase = .joining ⟨false, rival⟩ ∧
    renamed.after.station.phase = .searching := by
  intro reached offered wanted renamed
  have hrefused : reached.station.phase = .refused := by decide
  obtain ⟨hstill, hnext⟩ := refused_keeps_still {} rejected
  have hspares : offered.Spares := by
    refine ⟨fun _ => nofun, fun frame hlures => ?_⟩
    obtain ⟨source, link, hanswer⟩ := hlures.answer
    have hdeclined : .detected source link true ∈ [Notice.detected
        ⟨"observer"⟩ (Turn.detectedLink own rivalBeacon) false] := hanswer
    simp at hdeclined
  have hlures : wanted.Lures rivalBeacon := by
    refine ⟨rfl, rfl, ⟨own, rfl, by decide⟩, by decide, ⟨"observer"⟩,
      Turn.detectedLink own rivalBeacon, by decide⟩
  refine ⟨?_, (hnext _).2 _ hlures, (hnext _).1 hrefused _ rfl⟩
  exact (hstill hrefused [offered.move] (by simpa [System.history])).1

end Roaming

import Mathlib.Data.List.Chain
import Mathlib.Data.List.Induction
import Roaming.Proofs.Identity

namespace Roaming

/-! The reports of associations made and ended, and those of links that are up: each kind tells
where the other left off. -/

/-- What is reported of an association. -/
inductive Passage
  | arrival (bssid : MacAddr)
  | departure (bssid : MacAddr)
deriving DecidableEq

namespace Passage

def arrived? : Passage → Option MacAddr
  | .arrival bssid => some bssid
  | .departure _ => none

/-- A network is left before the next one, and as the one that it is. -/
inductive Follows : Passage → Passage → Prop
  | departure (bssid : MacAddr) : Follows (.arrival bssid) (.departure bssid)
  | arrival (former bssid : MacAddr) :
      Follows (.departure former) (.arrival bssid)

end Passage

namespace Notice

def passage? : Notice → Option Passage
  | .joined bssid => some (.arrival bssid)
  | .left bssid => some (.departure bssid)
  | _ => none

def up? : Notice → Option LinkUp
  | .up link => some link
  | _ => none

end Notice

theorem Reaction.listeners_eq {system : System} {decision : Decision}
    {operation : Operation} {turn : Turn}
    (hreaction : Reaction system decision operation turn) :
    turn.station.listeners = (system.station.prepare operation).listeners := by
  cases hreaction <;> simp

/-- No step of a turn reports an association; that is left to its end. -/
private theorem Reaction.passages_nil {system : System} {decision : Decision}
    {operation : Operation} {turn : Turn}
    (hreaction : Reaction system decision operation turn) :
    turn.notices.filterMap Notice.passage? = [] := by
  cases hreaction <;> simp +contextual [cond_eq_ite, Notice.passage?]

/-- What a reaction makes of an association, and whether it reports a link as up: only if it makes
one. -/
theorem association_reaction {system : System} {decision : Decision}
    {operation : Operation} {turn : Turn} (hnamed : system.station.Named)
    (hreaction : Reaction system decision operation turn) :
    (turn.notices.filterMap Notice.up? = [] ∧
      turn.station.previousAp = system.station.previousAp ∧
      (turn.station.isAssociated = true →
        system.station.isAssociated = true)) ∨
    ∃ own bssid, system.station.isAssociated = false ∧
      turn.station.isAssociated = true ∧
      turn.station.bssid = some bssid ∧
      turn.station.previousAp = some bssid ∧
      turn.notices = system.station.upNotice own bssid := by
  cases hreaction with
  | rested | dropped | declined | forwarded | relayed | followed | outlived
  | reprobed | rearmed | silenced | sent | unsent =>
      refine .inl ⟨?_, by simp, by simp [Station.isAssociated]⟩
      simp +contextual [cond_eq_ite, Notice.up?]
  | joined | answered | rejoined | denied | reassociated =>
      refine .inl ⟨by simp +contextual [cond_eq_ite, Notice.up?], by simp, ?_⟩
      intro hassociated
      cases hassociated
  | expired | released =>
      refine .inl ⟨by simp +contextual [Notice.up?], by simp, ?_⟩
      intro hassociated
      have hbound := Phase.isBound_of_isAssociated hassociated
      exact absurd hbound (by rw [Turn.isBound_loseNetwork]; simp)
  | searched _ _ hphase | soughtUnsent _ hphase =>
      refine .inl ⟨by simp +contextual [Notice.up?], by simp, ?_⟩
      intro hassociated
      have hbound := Phase.isBound_of_isAssociated hassociated
      rw [Turn.isBound_search _ _ (by simp [hphase, Phase.isBound])] at hbound
      cases hbound
  | @granted own frame _ _ _ _ hphase hsender =>
      refine .inr ⟨own, frame.header.transmitter, ?_, rfl, ?_, by simp, ?_⟩
      · simp [Station.isAssociated, hphase, Phase.isAssociated]
      · simpa [hsender] using hnamed.target _ hphase
      · simp [Station.upNotice]

section Parting

variable {turn : Turn} {wasAssociated : Bool} {bssid : MacAddr}

private theorem passages_lasting (hsame : turn.station.isAssociated = wasAssociated) :
    (turn.partingNotice wasAssociated).filterMap Notice.passage? = [] := by
  subst hsame
  unfold Turn.partingNotice Turn.parting
  cases turn.station.isAssociated <;> rfl

private theorem passages_begun (hassociated : turn.station.isAssociated = true)
    (hjoined : turn.station.listeners.joined = true)
    (hbssid : turn.station.bssid = some bssid) :
    (turn.partingNotice false).filterMap Notice.passage? =
      [.arrival bssid] := by
  simp [Turn.partingNotice, Turn.parting, hassociated, hjoined, hbssid,
    Effect.notice?, Notice.passage?]

private theorem passages_ended (hfree : turn.station.isAssociated = false)
    (hleft : turn.station.listeners.left = true)
    (hreported : turn.station.reportedAp = some bssid) :
    (turn.partingNotice true).filterMap Notice.passage? =
      [.departure bssid] := by
  simp [Turn.partingNotice, Turn.parting, hfree, hleft, hreported,
    Effect.notice?, Notice.passage?]

private theorem ups_parting :
    (turn.partingNotice wasAssociated).filterMap Notice.up? = [] := by
  refine List.filterMap_eq_nil_iff.mpr fun notice hmem => ?_
  obtain ⟨bssid, rfl | rfl⟩ := turn.mem_partingNotice hmem <;> rfl

end Parting

namespace Moment

def passages (moment : Moment) : List Passage :=
  moment.outcome.notices.filterMap Notice.passage?

def ups (moment : Moment) : List LinkUp :=
  moment.outcome.notices.filterMap Notice.up?

/-- Whoever has the station do something wants to hear of its associations and its links. -/
def Heard (moment : Moment) : Prop :=
  ∀ operation, moment.operation? = some operation →
    (∀ listener, operation ≠ .register listener) →
    moment.before.station.listeners.up = true ∧
    moment.before.station.listeners.joined = true ∧
    moment.before.station.listeners.left = true

private theorem Heard.registered {moment : Moment} {listener : Listener}
    (hregister : moment.operation? = some (.register listener)) :
    moment.Heard := by
  intro operation hoperation hother
  exact absurd (Option.some.inj (hoperation.symm.trans hregister))
    (hother listener)

private theorem Heard.listened {moment : Moment}
    (hup : moment.before.station.listeners.up = true)
    (hjoined : moment.before.station.listeners.joined = true)
    (hleft : moment.before.station.listeners.left = true) : moment.Heard :=
  fun _ _ _ => ⟨hup, hjoined, hleft⟩

/-- The three ways in which the reports of a moment can agree with what they are about. -/
inductive Account (moment : Moment) : Prop
  | lasting (hpassages : moment.passages = []) (hups : moment.ups = [])
      (hreported : moment.after.station.reportedAp =
        moment.before.station.reportedAp)
      (hprevious : moment.after.station.previousAp =
        moment.before.station.previousAp)
  | begun (up : LinkUp) (hpassages : moment.passages = [.arrival up.newRouter])
      (hups : moment.ups = [up])
      (hattachment : up.link.attachment = up.newRouter)
      (hold : up.oldRouter =
        moment.before.station.previousAp.filter (· ≠ up.newRouter))
      (hbefore : moment.before.station.reportedAp = none)
      (hreported : moment.after.station.reportedAp = some up.newRouter)
      (hprevious : moment.after.station.previousAp = some up.newRouter)
  | ended (bssid : MacAddr) (hpassages : moment.passages = [.departure bssid])
      (hups : moment.ups = [])
      (hbefore : moment.before.station.reportedAp = some bssid)
      (hreported : moment.after.station.reportedAp = none)
      (hprevious : moment.after.station.previousAp =
        moment.before.station.previousAp)

variable {moment : Moment}

private theorem Heard.listeners (hheard : moment.Heard) {operation : Operation}
    {turn : Turn} (hoperation : moment.operation? = some operation)
    (hreaction : Reaction moment.opened moment.move.decision operation turn)
    (hchanged : turn.station.isAssociated ≠
      moment.before.station.isAssociated) :
    moment.before.station.listeners.up = true ∧
      turn.station.listeners.joined = true ∧
      turn.station.listeners.left = true := by
  rw [hreaction.listeners_eq]
  cases operation with
  | register listener =>
      -- Who registers does nothing else.
      cases hreaction with
      | rested => exact absurd rfl hchanged
      | searched _ hasked => rcases hasked with hasked | hasked <;> cases hasked
  | setAddress | ensureAssociated | receive | timeout | send
  | capabilitiesChanged | setActiveProbing | setSsid =>
      exact hheard _ hoperation (by simp)

section Reacted

variable {operation : Operation} {turn : Turn}
  (hreaction : Reaction moment.opened moment.move.decision operation turn)
  (hstation : moment.after.station = { turn.station with
    reportedAp := turn.settledAp moment.before.station.isAssociated })
  (heffects : moment.outcome.effects =
    turn.effects ++ turn.parting moment.before.station.isAssociated)

include heffects in
theorem ups_of_reaction : moment.ups = turn.notices.filterMap Notice.up? := by
  rw [ups, Outcome.notices_of_parting heffects, List.filterMap_append,
    ups_parting, List.append_nil]

include hreaction

include heffects in
theorem passages_of_reaction :
    moment.passages = (turn.partingNotice
      moment.before.station.isAssociated).filterMap Notice.passage? := by
  rw [passages, Outcome.notices_of_parting heffects, List.filterMap_append,
    hreaction.passages_nil, List.nil_append]

theorem reportedAp_of_reaction :
    turn.station.reportedAp = moment.before.station.reportedAp := by
  rw [hreaction.reportedAp_eq, Station.reportedAp_prepare, station_opened]

include hstation heffects

private theorem account_lasting
    (hsame : turn.station.isAssociated = moment.before.station.isAssociated)
    (hups : turn.notices.filterMap Notice.up? = [])
    (hprevious : turn.station.previousAp = moment.before.station.previousAp) :
    moment.Account := by
  refine .lasting ?_ ((ups_of_reaction heffects).trans hups) ?_ ?_
  · exact (passages_of_reaction hreaction heffects).trans
      (passages_lasting hsame)
  · rw [hstation]
    exact (Turn.settledAp_of_lasting hsame).trans
      (reportedAp_of_reaction hreaction)
  · rw [hstation]
    exact hprevious

private theorem account_ended {bssid : MacAddr}
    (hassociated : moment.before.station.isAssociated = true)
    (hfree : turn.station.isAssociated = false)
    (hformer : moment.before.station.reportedAp = some bssid)
    (hleft : turn.station.listeners.left = true)
    (hups : turn.notices.filterMap Notice.up? = [])
    (hprevious : turn.station.previousAp = moment.before.station.previousAp) :
    moment.Account := by
  have hpassages := passages_of_reaction hreaction heffects
  rw [hassociated] at hpassages hstation
  refine .ended bssid ?_ ((ups_of_reaction heffects).trans hups) hformer ?_ ?_
  · exact hpassages.trans (passages_ended hfree hleft
      ((reportedAp_of_reaction hreaction).trans hformer))
  · rw [hstation]
    simp [Turn.settledAp, hfree]
  · rw [hstation]
    exact hprevious

private theorem account_begun {own bssid : MacAddr}
    (hbefore : moment.before.station.isAssociated = false)
    (hassociated : turn.station.isAssociated = true)
    (hnone : moment.before.station.reportedAp = none)
    (hjoined : turn.station.listeners.joined = true)
    (hup : moment.before.station.listeners.up = true)
    (hbssid : turn.station.bssid = some bssid)
    (hprevious : turn.station.previousAp = some bssid)
    (hnotices : turn.notices = moment.before.station.upNotice own bssid) :
    moment.Account := by
  have hpassages := passages_of_reaction hreaction heffects
  rw [hbefore] at hpassages hstation
  have hups : moment.ups = [{
      link := Turn.wifiLink own bssid
      oldRouter := moment.before.station.previousAp.filter (· ≠ bssid)
      newRouter := bssid
      ipRenewal := true
      mobility := .single .mobileIpv4 }] := by
    rw [ups_of_reaction heffects, hnotices]
    simp [Station.upNotice, hup, Notice.up?]
  refine .begun _ ?_ hups rfl rfl hnone ?_ ?_
  · exact hpassages.trans (passages_begun hassociated hjoined hbssid)
  · rw [hstation]
    simp [Turn.settledAp, hassociated, hbssid]
  · rw [hstation]
    exact hprevious

end Reacted

private theorem account (hnamed : moment.before.station.Named)
    (hreported : moment.before.station.Reported) (hheard : moment.Heard) :
    moment.Account := by
  cases moment.course with
  | idle _ hafter heffects =>
      refine .lasting ?_ ?_ (by rw [hafter]; rfl) (by rw [hafter]; rfl)
      · simp [passages, Outcome.notices, heffects]
      · simp [ups, Outcome.notices, heffects]
  | @reacted operation turn hoperation hreaction hstation _ heffects =>
      have hnamed' : moment.opened.station.Named := hnamed
      rcases association_reaction hnamed' hreaction with ⟨hups, hprevious, hstays⟩ |
        ⟨own, bssid, hbefore, hafter, hbssid, hprevious, hnotices⟩
      · by_cases hsame : turn.station.isAssociated =
            moment.before.station.isAssociated
        · exact account_lasting hreaction hstation heffects hsame hups hprevious
        · have hended : moment.before.station.isAssociated = true ∧
              turn.station.isAssociated = false := by
            cases hstill : turn.station.isAssociated with
            | true => exact absurd (hstill.trans (hstays hstill).symm) hsame
            | false => exact ⟨by simpa [hstill] using hsame, rfl⟩
          obtain ⟨hassociated, hfree⟩ := hended
          obtain ⟨bssid, hbssid, _⟩ :=
            hnamed.accessPoint (Phase.eq_of_isAssociated hassociated)
          have hformer : moment.before.station.reportedAp = some bssid := by
            rw [hreported, hassociated, hbssid]
            rfl
          obtain ⟨_, _, hleft⟩ := hheard.listeners hoperation hreaction hsame
          exact account_ended hreaction hstation heffects hassociated hfree
            hformer hleft hups hprevious
      · rw [station_opened] at hbefore hnotices
        have hnone : moment.before.station.reportedAp = none := by
          rw [hreported, hbefore]
          rfl
        obtain ⟨hup, hjoined, _⟩ :=
          hheard.listeners hoperation hreaction (by simp [hbefore, hafter])
        exact account_begun hreaction hstation heffects hbefore hafter hnone
          hjoined hup hbssid hprevious hnotices

end Moment

/-- Arrivals and departures take turns from an arrival on, and the last of them tells which network
the station is with, if any. -/
structure Alternating (passages : List Passage) (current : Option MacAddr) :
    Prop where
  first : ∀ passage ∈ passages.head?, ∃ bssid, passage = .arrival bssid
  chain : passages.IsChain Passage.Follows
  last : ∀ bssid, current = some bssid ↔
    passages.getLast? = some (.arrival bssid)

namespace Alternating

variable {passages : List Passage} {bssid : MacAddr}

private theorem start : Alternating [] none where
  first := by simp
  chain := .nil
  last bssid := by simp

private theorem arrive (halternating : Alternating passages none) (bssid : MacAddr) :
    Alternating (passages ++ [.arrival bssid]) (some bssid) where
  first := by
    intro passage hpassage
    cases passages with
    | nil => exact ⟨bssid, (Option.some.inj hpassage).symm⟩
    | cons head tail => exact halternating.first passage hpassage
  chain := by
    refine halternating.chain.append (.singleton _) ?_
    intro former hformer passage hpassage
    obtain rfl : .arrival bssid = passage := Option.some.inj hpassage
    cases former with
    | departure other => exact .arrival other bssid
    | arrival other => cases (halternating.last other).mpr hformer
  last := by simp

private theorem depart (halternating : Alternating passages (some bssid)) :
    Alternating (passages ++ [.departure bssid]) none where
  first := by
    intro passage hpassage
    cases passages with
    | nil => cases (halternating.last bssid).mp rfl
    | cons head tail => exact halternating.first passage hpassage
  chain := by
    refine halternating.chain.append (.singleton _) ?_
    intro former hformer passage hpassage
    obtain rfl : .departure bssid = passage := Option.some.inj hpassage
    obtain rfl : .arrival bssid = former :=
      Option.some.inj (((halternating.last bssid).mp rfl).symm.trans hformer)
    exact .departure bssid
  last := by simp

end Alternating

def passages (history : List Moment) : List Passage :=
  history.flatMap Moment.passages

def linkUps (history : List Moment) : List LinkUp :=
  history.flatMap Moment.ups

structure Traced (history : List Moment) (station : Station) : Prop where
  alternating : Alternating (passages history) station.reportedAp
  previous : station.previousAp =
    (linkUps history).getLast?.map LinkUp.newRouter

private theorem Traced.concat {history : List Moment} {moment : Moment}
    (htraced : Traced history moment.before.station)
    (haccount : moment.Account) :
    Traced (history ++ [moment]) moment.after.station := by
  have hpassages : passages (history ++ [moment]) =
      passages history ++ moment.passages := by
    simp [passages]
  have hlinkUps : linkUps (history ++ [moment]) =
      linkUps history ++ moment.ups := by
    simp [linkUps]
  cases haccount with
  | lasting hnone hups hreported hprevious =>
      rw [hnone, List.append_nil] at hpassages
      rw [hups, List.append_nil] at hlinkUps
      refine ⟨?_, ?_⟩
      · rw [hpassages, hreported]
        exact htraced.alternating
      · rw [hlinkUps, hprevious]
        exact htraced.previous
  | begun up harrival hups _ _ hbefore hreported hprevious =>
      have halternating := htraced.alternating
      rw [hbefore] at halternating
      refine ⟨?_, ?_⟩
      · rw [hpassages, harrival, hreported]
        exact halternating.arrive up.newRouter
      · rw [hlinkUps, hups, hprevious]
        simp
  | ended bssid hdeparture hups hbefore hreported hprevious =>
      have halternating := htraced.alternating
      rw [hbefore] at halternating
      rw [hups, List.append_nil] at hlinkUps
      refine ⟨?_, ?_⟩
      · rw [hpassages, hdeparture, hreported]
        exact halternating.depart
      · rw [hlinkUps, hprevious]
        exact htraced.previous

theorem account_run (config : Config) (moves : List Move) (move : Move)
    (hheard : Moment.Heard ⟨(System.ofConfig config).run moves, move⟩) :
    Moment.Account ⟨(System.ofConfig config).run moves, move⟩ :=
  Moment.account (named_run config moves) (reported_run config moves) hheard

theorem traced_run (config : Config) (moves : List Move)
    (hheard : ∀ moment ∈ (System.ofConfig config).history moves,
      moment.Heard) :
    Traced ((System.ofConfig config).history moves)
      ((System.ofConfig config).run moves).station := by
  induction moves using List.reverseRecOn with
  | nil => exact ⟨.start, rfl⟩
  | append_singleton moves move ih =>
      rw [System.history_concat] at hheard ⊢
      rw [System.run_append]
      have htraced := ih fun moment hmoment =>
        hheard moment (List.mem_append_left _ hmoment)
      have hlast := hheard _ (List.mem_append_right _ (List.mem_singleton_self _))
      exact htraced.concat (account_run config moves move hlast)

/-- In every run of a station whose reports of associations and links are wanted from the start,
those of associations made and ended alternate, beginning with one made, each ends the one before
it, and the last one tells whether the station is associated; and the link is reported as up in the
same moments as an association is, once each and for the same access point, and with the access
point of the link before if that was another one. -/
theorem reports_follow_associations (config : Config) (moves : List Move)
    (hheard : ∀ moment ∈ (System.ofConfig config).history moves,
      moment.Heard) :
    let history := (System.ofConfig config).history moves
    let station := ((System.ofConfig config).run moves).station
    (∀ passage ∈ (passages history).head?,
      ∃ bssid, passage = .arrival bssid) ∧
    (passages history).IsChain Passage.Follows ∧
    (station.phase = .associated ↔
      ∃ bssid, (passages history).getLast? = some (.arrival bssid)) ∧
    ∀ earlier moment later, history = earlier ++ moment :: later →
      moment.passages.filterMap Passage.arrived? =
        moment.ups.map LinkUp.newRouter ∧
      moment.ups.length ≤ 1 ∧
      ∀ up ∈ moment.ups,
        up.link.attachment = up.newRouter ∧
        up.oldRouter = ((linkUps earlier).getLast?.map
          LinkUp.newRouter).filter (· ≠ up.newRouter) := by
  intro history station
  have htraced := traced_run config moves hheard
  have hreported : station.Reported := reported_run config moves
  refine ⟨htraced.alternating.first, htraced.alternating.chain, ⟨?_, ?_⟩, ?_⟩
  · intro hphase
    obtain ⟨bssid, hbssid, _⟩ := (named_run config moves).accessPoint hphase
    refine ⟨bssid, (htraced.alternating.last bssid).mp ?_⟩
    refine hreported.trans ?_
    simp [Station.isAssociated, hphase, Phase.isAssociated, station, hbssid]
  · rintro ⟨bssid, hlast⟩
    exact hreported.phase_of_some ((htraced.alternating.last bssid).mpr hlast)
  · intro earlier moment later hhistory
    obtain ⟨before, _, _, hearlier, hbefore⟩ := System.history_split hhistory
    have htraced := traced_run config before fun other hother =>
      hheard other (by simp [history, hhistory, hearlier, hother])
    rw [← hearlier, ← hbefore] at htraced
    have hnamed := named_run config before
    have htold := reported_run config before
    rw [← hbefore] at hnamed htold
    have hmoment : moment.Heard := hheard moment (by simp [history, hhistory])
    cases Moment.account hnamed htold hmoment with
    | lasting hpassages hups => simp [hpassages, hups]
    | ended _ hpassages hups =>
        simp [hpassages, hups, Passage.arrived?]
    | begun up hpassages hups hattachment hold =>
        rw [htraced.previous] at hold
        simp [hpassages, hups, Passage.arrived?, hattachment, hold]

namespace Sample

/-- Everybody listens, and the station joins, and joins again with other capabilities. -/
def heardJoins : List Move :=
  [.perform refuse (.register .up), .perform refuse (.register .joined),
    .perform refuse (.register .left)] ++ joins ++
  [.perform refuse .capabilitiesChanged, .perform refuse (.receive response)]

end Sample

theorem reports_follow_associations_sample :
    let history := (System.ofConfig {}).history Sample.heardJoins
    (∃ bssid, (passages history).getLast? = some (.arrival bssid)) ∧
    passages history = [.arrival Sample.accessPoint,
      .departure Sample.accessPoint, .arrival Sample.accessPoint] ∧
    (linkUps history).length = 2 := by
  have hreports := reports_follow_associations {} Sample.heardJoins (by
    simp only [Sample.heardJoins, Sample.joins, List.cons_append,
      List.nil_append, System.history, List.forall_mem_cons]
    exact ⟨.registered rfl, .registered rfl, .registered rfl,
      .listened rfl rfl rfl, .listened rfl rfl rfl, .listened rfl rfl rfl,
      .listened rfl rfl rfl, .listened rfl rfl rfl, by simp⟩)
  exact ⟨hreports.2.2.1.mp (by decide), by decide, by decide⟩

end Roaming

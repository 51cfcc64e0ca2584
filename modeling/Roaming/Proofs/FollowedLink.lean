import Roaming.Proofs.LinkReports

namespace Roaming

/-! A link as it is known to one who hears no more than what is reported of it, held against what
the station knows. -/

/-- What a report makes of the link that it is about. -/
def LinkId.follow (link : LinkId) : LinkReport → LinkId
  | .up up => { up.link with attachment := up.newRouter }
  | .down _ => { link with attachment := .null }

/-- The link that a history makes known. -/
def followedLink (history : List Moment) : LinkId :=
  (linkReports history).foldl LinkId.follow ⟨.wifi, .null, .null⟩

theorem followedLink_concat (history : List Moment) (moment : Moment) :
    followedLink (history ++ [moment]) =
      moment.linkReports.foldl LinkId.follow (followedLink history) := by
  rw [followedLink, linkReports_concat, List.foldl_append]
  rfl

namespace Moment

/-- What a moment means to one who follows the link. -/
inductive Tidings (moment : Moment) : Prop
  | none (hreports : moment.linkReports = [])
      (hreported : moment.after.station.downReported =
        moment.before.station.downReported)
      (hprevious : moment.after.station.previousAp =
        moment.before.station.previousAp)
      (hstays : moment.after.station.phase = .associated →
        moment.before.station.phase = .associated)
      (hopens : moment.after.station.phase.isOpen = true →
        moment.before.station.phase.isOpen = true)
  | lost (own : MacAddr) {operation : Operation}
      (hoperation : moment.operation? = some operation)
      (hacts : operation.acts = true)
      (hreports : moment.linkReports =
        (moment.before.station.downNotice own).filterMap Notice.link?)
      (hreported : moment.after.station.downReported = true)
      (hprevious : moment.after.station.previousAp =
        moment.before.station.previousAp)
      (hopen : moment.after.station.phase.isOpen = true)
  | gained (own bssid : MacAddr) {operation : Operation}
      (hoperation : moment.operation? = some operation)
      (hacts : operation.acts = true)
      (hreports : moment.linkReports =
        (moment.before.station.upNotice own bssid).filterMap Notice.link?)
      (haddress : moment.before.station.address = some own)
      (hgranted : moment.granted? = some bssid)
      (hreported : moment.after.station.downReported = false)
      (hprevious : moment.after.station.previousAp = some bssid)
      (hphase : moment.after.station.phase = .associated)

variable {moment : Moment}

section Reacted

variable {turn : Turn}
  (hstation : moment.after.station = { turn.station with
    reportedAp := turn.settledAp moment.before.station.isAssociated })
  (heffects : moment.outcome.effects =
    turn.effects ++ turn.parting moment.before.station.isAssociated)

include hstation heffects

private theorem tidings_none (hreports : turn.notices.filterMap Notice.link? = [])
    (hreported : turn.station.downReported =
      moment.before.station.downReported)
    (hprevious : turn.station.previousAp = moment.before.station.previousAp)
    (hstays : turn.station.phase = .associated →
      moment.before.station.phase = .associated)
    (hopens : turn.station.phase.isOpen = true →
      moment.before.station.phase.isOpen = true) : moment.Tidings := by
  refine .none ((links_of_reaction heffects).trans hreports) ?_ ?_ ?_ ?_ <;>
    rw [hstation]
  · exact hreported
  · exact hprevious
  · exact hstays
  · exact hopens

private theorem tidings_lost (own : MacAddr) {operation : Operation}
    (hoperation : moment.operation? = some operation)
    (hacts : operation.acts = true)
    (hreports : turn.notices.filterMap Notice.link? =
      (moment.before.station.downNotice own).filterMap Notice.link?)
    (hreported : turn.station.downReported = true)
    (hprevious : turn.station.previousAp = moment.before.station.previousAp)
    (hopen : turn.station.phase.isOpen = true) : moment.Tidings := by
  refine .lost own hoperation hacts
    ((links_of_reaction heffects).trans hreports) ?_ ?_ ?_ <;> rw [hstation]
  · exact hreported
  · exact hprevious
  · exact hopen

end Reacted

private theorem tidings (moment : Moment) : moment.Tidings := by
  cases moment.course with
  | idle _ hafter heffects =>
      refine .none ?_ ?_ ?_ ?_ ?_
      · simp [linkReports, Outcome.notices, heffects]
      all_goals simp [hafter]
  | @reacted operation turn hoperation hreaction hstation _ heffects =>
      cases hreaction with
      | rested | dropped | declined | forwarded | relayed | followed | outlived
      | reprobed | rearmed | silenced | sent | unsent =>
          refine tidings_none hstation heffects ?_ (by simp) (by simp)
            (by simp) (by simp)
          simp +contextual [cond_eq_ite, Notice.link?]
      | joined | answered | rejoined | denied | reassociated =>
          refine tidings_none hstation heffects ?_ (by simp) (by simp)
            (by simp) (by simp [Phase.isOpen])
          simp +contextual [cond_eq_ite, Notice.link?]
      | @expired own | @released own =>
          refine tidings_lost hstation heffects own hoperation rfl ?_ (by simp)
            (by simp) (Turn.isOpen_loseNetwork ..)
          simp [Station.downReport]
      | @searched own _ _ hasked hphase =>
          rw [station_opened] at hphase
          have hopen := Turn.isOpen_search (moment.opened.opening operation) own
            (by simp [hphase, Phase.isOpen])
          have hacts : operation.acts = true := by
            rcases hasked with rfl | rfl <;> rfl
          refine tidings_lost hstation heffects own hoperation hacts ?_
            (by simp) (by simp) hopen
          rcases hasked with rfl | rfl <;> simp [Station.downReport]
      | @soughtUnsent own _ _ _ _ hphase =>
          rw [station_opened] at hphase
          refine tidings_lost hstation heffects own hoperation rfl ?_ (by simp)
            (by simp) (Turn.isOpen_search _ _ (by simp [hphase, Phase.isOpen]))
          simp [Station.downReport]
      | @granted own frame attempt haddress _ hkind hphase hsender hstatus =>
          have hassociated : moment.after.station.phase = .associated := by
            rw [hstation]
            simp
          refine .gained own frame.header.transmitter hoperation rfl ?_ haddress
            ?_ ?_ ?_ hassociated
          · rw [links_of_reaction heffects]
            simp [Station.upNotice]
          · rw [hsender]
            exact granted?_of_receive hoperation hphase hkind hsender hstatus
              (by simp [Station.isAssociated, hassociated, Phase.isAssociated])
          · rw [hstation]
            simp
          · rw [hstation]
            simp

end Moment

/-- A station with a network let it in, and has stayed with it since; `own` was its address then. -/
def Entered (history : List Moment) (own bssid : MacAddr) : Prop :=
  Since
    (fun moment => moment.granted? = some bssid ∧
      moment.before.station.address = some own)
    (fun moment => moment.before.station.phase = .associated) history

/-- How a link that is followed through its reports agrees with what the station knows. -/
structure Followed (history : List Moment) (station : Station) : Prop where
  attachment : (followedLink history).attachment =
    bif station.downReported then .null else station.previousAp.getD .null
  unlinked : station.phase.isOpen = true →
    station.downReported = true ∨ station.previousAp = none
  entered : station.phase = .associated →
    ∃ own bssid, followedLink history = ⟨.wifi, own, bssid⟩ ∧
      station.previousAp = some bssid ∧ Entered history own bssid

private theorem Moment.Tidings.followed {history : List Moment} {moment : Moment}
    (htidings : moment.Tidings) (hheard : moment.HeardBy [.up, .down])
    (hfollowed : Followed history moment.before.station) :
    Followed (history ++ [moment]) moment.after.station := by
  cases htidings with
  | none hreports hreported hprevious hstays hopens =>
      have hsame : followedLink (history ++ [moment]) = followedLink history := by
        rw [followedLink_concat, hreports]
        rfl
      constructor
      · rw [hsame, hreported, hprevious]
        exact hfollowed.attachment
      · rw [hreported, hprevious]
        exact fun hopen => hfollowed.unlinked (hopens hopen)
      · intro hphase
        have hbefore := hstays hphase
        rw [hsame, hprevious]
        obtain ⟨own, bssid, hlink, hknown, hentered⟩ :=
          hfollowed.entered hbefore
        exact ⟨own, bssid, hlink, hknown,
          since_concat.mpr (.inr ⟨hentered, hbefore⟩)⟩
  | lost own hoperation hacts hreports hreported hprevious hopen =>
      have hlistens : moment.before.station.listeners.down = true :=
        hheard _ hoperation hacts .down (by simp)
      refine ⟨?_, fun _ => .inl hreported, fun hphase => ?_⟩
      · rw [followedLink_concat, hreports, hreported]
        -- A link that has been reported as down is known to be.
        have hattachment := hfollowed.attachment
        cases hbefore : moment.before.station.downReported with
        | true => simpa [hbefore] using hattachment
        | false => simp [hbefore, hlistens, LinkId.follow]
      · exact absurd hphase (Phase.ne_associated_of_isOpen hopen)
  | gained own bssid hoperation hacts hreports haddress hgranted hreported
      hprevious hphase =>
      have hlistens : moment.before.station.listeners.up = true :=
        hheard _ hoperation hacts .up (by simp)
      have hlink : followedLink (history ++ [moment]) =
          ⟨.wifi, own, bssid⟩ := by
        rw [followedLink_concat, hreports]
        simp [Station.upNotice, hlistens, Notice.link?, LinkId.follow,
          Turn.wifiLink]
      refine ⟨?_, fun hopen => ?_, fun _ => ?_⟩
      · rw [hlink, hreported, hprevious]
        rfl
      · exact absurd hphase (Phase.ne_associated_of_isOpen hopen)
      · exact ⟨own, bssid, hlink, hprevious,
          since_concat.mpr (.inl ⟨hgranted, haddress⟩)⟩

theorem followed_run (config : Config) (moves : List Move)
    (hheard : ∀ moment ∈ (System.ofConfig config).history moves,
      moment.HeardBy [.up, .down]) :
    Followed ((System.ofConfig config).history moves)
      ((System.ofConfig config).run moves).station := by
  refine System.run_induction_of (motive := fun history system =>
    Followed history system.station) ?_ ?_ hheard
  · exact ⟨rfl, fun _ => .inr rfl, fun hphase => by cases hphase⟩
  · intro history moment hlast hfollowed
    exact moment.tidings.followed hlast hfollowed

end Roaming

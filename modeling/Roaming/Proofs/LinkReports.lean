import Roaming.Proofs.AssociationTrace
import Roaming.Proofs.Losses

namespace Roaming

/-! What is reported of a link: that it is up whenever a station is let in, and that it is down once
after that, however often the station searches. -/

inductive LinkReport
  | up (up : LinkUp)
  | down (down : LinkDown)
deriving DecidableEq

namespace LinkReport

/-- A link is reported as down only after one was reported as up. -/
inductive Follows : LinkReport → LinkReport → Prop
  | up (former : LinkReport) (link : LinkUp) : Follows former (.up link)
  | down (former : LinkUp) (link : LinkDown) : Follows (.up former) (.down link)

private theorem up_of_chain {reports later : List LinkReport}
    {first second : LinkDown}
    (hchain : (.down first :: (reports ++ .down second :: later)).IsChain
      Follows) : ∃ up, .up up ∈ reports := by
  cases reports with
  | nil => cases hchain.rel
  | cons report reports =>
      cases hchain.rel with
      | up _ link => exact ⟨link, List.mem_cons_self ..⟩

end LinkReport

def Notice.link? : Notice → Option LinkReport
  | .up link => some (.up link)
  | .down link => some (.down link)
  | _ => none

def Moment.linkReports (moment : Moment) : List LinkReport :=
  moment.outcome.notices.filterMap Notice.link?

def linkReports (history : List Moment) : List LinkReport :=
  history.flatMap Moment.linkReports

theorem linkReports_concat (history : List Moment) (moment : Moment) :
    linkReports (history ++ [moment]) =
      linkReports history ++ moment.linkReports := by
  simp [linkReports]

/-- Whether an operation has a station do something, and does not just set it up. -/
def Operation.acts : Operation → Bool
  | .setAddress _ => false
  | .register _ => false
  | _ => true

def Listeners.has (listeners : Listeners) : Listener → Bool
  | .detected source => decide (listeners.detected = some source)
  | .up => listeners.up
  | .down => listeners.down
  | .lost => listeners.lost
  | .joined => listeners.joined
  | .left => listeners.left

/-- Whoever has the station act, these listeners are there. -/
def Moment.HeardBy (wanted : List Listener) (moment : Moment) : Prop :=
  ∀ operation, moment.operation? = some operation → operation.acts = true →
    ∀ listener ∈ wanted, moment.before.station.listeners.has listener = true

namespace Moment.HeardBy

variable {wanted : List Listener} {moment : Moment} {operation : Operation}

theorem of_setting (hoperation : moment.operation? = some operation)
    (hacts : operation.acts = false) : moment.HeardBy wanted := by
  intro other hother hothers
  obtain rfl : operation = other := Option.some.inj (hoperation.symm.trans hother)
  exact absurd hothers (ne_true_of_eq_false hacts)

private theorem mono {others : List Listener} (hheard : moment.HeardBy others)
    (hwanted : ∀ listener ∈ wanted, listener ∈ others) :
    moment.HeardBy wanted :=
  fun _ hsome hacts listener hlistener =>
    hheard _ hsome hacts listener (hwanted listener hlistener)

theorem of_listening (hlisteners : ∀ listener ∈ wanted,
    moment.before.station.listeners.has listener = true) :
    moment.HeardBy wanted :=
  fun _ _ _ => hlisteners

end Moment.HeardBy

namespace Station

variable (station : Station) (own : MacAddr)

@[simp] theorem downReported_prepare (operation : Operation) :
    (station.prepare operation).downReported = station.downReported := by
  cases operation <;> rfl

@[simp] theorem links_lostNotice :
    station.lostNotice.filterMap Notice.link? = [] := by
  unfold lostNotice
  cases station.listeners.lost <;> rfl

/-- The report that the station's network, as far as it names one, is out of reach. -/
def downReport : LinkDown :=
  ⟨Turn.wifiLink own (station.bssid.getD .null), station.bssid.getD .null,
    .noBroadcast⟩

@[simp] theorem links_downNotice :
    (station.downNotice own).filterMap Notice.link? =
      bif !station.downReported && station.listeners.down then
        [.down (station.downReport own)]
      else [] := by
  unfold downNotice
  cases !station.downReported && station.listeners.down <;> rfl

end Station

private theorem links_parting (turn : Turn) (wasAssociated : Bool) :
    (turn.partingNotice wasAssociated).filterMap Notice.link? = [] := by
  refine List.filterMap_eq_nil_iff.mpr fun notice hmem => ?_
  obtain ⟨bssid, rfl | rfl⟩ := turn.mem_partingNotice hmem <;> rfl

/-- A reaction reports a link as down where it has the station search, and as up where it lets the
station in; and it keeps in mind whether the former has been done since the latter. -/
theorem links_reaction {system : System} {decision : Decision}
    {operation : Operation} {turn : Turn}
    (hreaction : Reaction system decision operation turn) :
    (turn.notices.filterMap Notice.link? = [] ∧
      turn.station.downReported = system.station.downReported) ∨
    operation.acts = true ∧
      ((∃ own, turn.notices.filterMap Notice.link? =
          (system.station.downNotice own).filterMap Notice.link? ∧
        turn.station.downReported = true ∧
        turn.station.phase.isOpen = true) ∨
      ∃ own bssid, turn.notices = system.station.upNotice own bssid ∧
        turn.station.downReported = false) := by
  cases hreaction with
  | rested | dropped | declined | forwarded | relayed | followed | joined
  | answered | denied | outlived | reprobed | rejoined | rearmed | silenced
  | sent | unsent | reassociated =>
      refine .inl ⟨?_, by simp⟩
      simp +contextual [cond_eq_ite, Notice.link?]
  | @granted own frame =>
      refine .inr ⟨rfl, .inr ⟨own, frame.header.transmitter, ?_, by simp⟩⟩
      simp [Station.upNotice]
  | @expired own | @released own =>
      refine .inr ⟨rfl, .inl ⟨own, ?_, by simp, Turn.isOpen_loseNetwork ..⟩⟩
      simp [Station.downReport]
  | @searched own operation _ hoperation hphase =>
      have hopen := Turn.isOpen_search (system.opening operation) own
        (by simp [hphase, Phase.isOpen])
      rcases hoperation with rfl | rfl
      · exact .inr ⟨rfl, .inl ⟨own, by simp, by simp, hopen⟩⟩
      · exact .inr ⟨rfl, .inl ⟨own, by simp [Station.downReport], by simp,
          hopen⟩⟩
  | @soughtUnsent own _ _ _ _ hphase =>
      refine .inr ⟨rfl, .inl ⟨own, ?_, by simp, ?_⟩⟩
      · simp [Station.downReport]
      · exact Turn.isOpen_search _ _ (by simp [hphase, Phase.isOpen])

namespace Moment

/-- The three ways in which the reports of a link can agree with what the station has in mind. -/
inductive Relay (moment : Moment) : Prop
  | silent (hreports : moment.linkReports = [])
      (hreported : moment.after.station.downReported =
        moment.before.station.downReported)
  | up (link : LinkUp) (hreports : moment.linkReports = [.up link])
      (hreported : moment.after.station.downReported = false)
  | down (own : MacAddr)
      (hreports : moment.linkReports =
        [.down (moment.before.station.downReport own)])
      (hopen : moment.after.station.phase.isOpen = true)
      (hbefore : moment.before.station.downReported = false)
      (hreported : moment.after.station.downReported = true)

variable {moment : Moment}

theorem links_of_reaction {turn : Turn} (heffects : moment.outcome.effects =
      turn.effects ++ turn.parting moment.before.station.isAssociated) :
    moment.linkReports = turn.notices.filterMap Notice.link? := by
  rw [linkReports, Outcome.notices_of_parting heffects, List.filterMap_append,
    links_parting, List.append_nil]

theorem relay (hheard : moment.HeardBy [.up, .down]) : moment.Relay := by
  cases moment.course with
  | idle _ hafter heffects =>
      refine .silent ?_ (by rw [hafter]; rfl)
      simp [linkReports, Outcome.notices, heffects]
  | reacted hoperation hreaction hstation _ heffects =>
      have hreports := links_of_reaction heffects
      rcases links_reaction hreaction with ⟨hnone, hsame⟩ |
        ⟨hacts, ⟨own, hdown, htold, hopen⟩ | ⟨own, bssid, hup, htold⟩⟩
      · exact .silent (hreports.trans hnone) (by rw [hstation]; exact hsame)
      · have hlistener : moment.before.station.listeners.down = true :=
          hheard _ hoperation hacts .down (by simp)
        rw [hdown, Station.links_downNotice, station_opened, hlistener,
          Bool.and_true] at hreports
        -- Of a link that has been reported as down, nothing more is said.
        cases hbefore : moment.before.station.downReported with
        | true =>
            refine .silent (by simpa [hbefore] using hreports) ?_
            rw [hstation, hbefore]
            exact htold
        | false =>
            refine .down own (by simpa [hbefore] using hreports) ?_ hbefore ?_
            · rw [hstation]
              exact hopen
            · rw [hstation]
              exact htold
      · have hlistener : moment.before.station.listeners.up = true :=
          hheard _ hoperation hacts .up (by simp)
        rw [hup, Station.upNotice, station_opened, hlistener] at hreports
        exact .up _ hreports (by rw [hstation]; exact htold)

end Moment

/-- No two reports of a link as down follow each other, and what the station has in mind tells
whether another would. -/
structure Spaced (reports : List LinkReport) (reported : Bool) : Prop where
  chain : reports.IsChain LinkReport.Follows
  last : ∀ link, reports.getLast? = some (.down link) → reported = true

namespace Spaced

variable {reports : List LinkReport} {reported : Bool}

private theorem up (hspaced : Spaced reports reported) (link : LinkUp) :
    Spaced (reports ++ [.up link]) false where
  chain := by
    refine hspaced.chain.append (.singleton _) ?_
    intro former _ report hreport
    obtain rfl : .up link = report := Option.some.inj hreport
    exact .up former link
  last := by simp

private theorem down (hspaced : Spaced reports false) (link : LinkDown) :
    Spaced (reports ++ [.down link]) true where
  chain := by
    refine hspaced.chain.append (.singleton _) ?_
    intro former hformer report hreport
    obtain rfl : .down link = report := Option.some.inj hreport
    cases former with
    | up former => exact .down former link
    | down former => cases hspaced.last former hformer
  last _ _ := rfl

end Spaced

private theorem Moment.Relay.spaced {moment : Moment} {reports : List LinkReport}
    (hrelay : moment.Relay)
    (hspaced : Spaced reports moment.before.station.downReported) :
    Spaced (reports ++ moment.linkReports)
      moment.after.station.downReported := by
  cases hrelay with
  | silent hreports hreported =>
      rw [hreports, List.append_nil, hreported]
      exact hspaced
  | up link hreports hreported =>
      rw [hreports, hreported]
      exact hspaced.up link
  | down own hreports _ hbefore hreported =>
      rw [hbefore] at hspaced
      rw [hreports, hreported]
      exact hspaced.down _

theorem spaced_run (config : Config) (moves : List Move)
    (hheard : ∀ moment ∈ (System.ofConfig config).history moves,
      moment.HeardBy [.up, .down]) :
    Spaced (linkReports ((System.ofConfig config).history moves))
      ((System.ofConfig config).run moves).station.downReported := by
  refine System.run_induction_of (motive := fun history system =>
    Spaced (linkReports history) system.station.downReported) ?_ ?_ hheard
  · exact ⟨.nil, by simp [linkReports]⟩
  · intro history moment hlast hspaced
    rw [linkReports_concat]
    exact (Moment.relay hlast).spaced hspaced

/-- Whoever reports a link as down has no network, and reports the one that it names. -/
theorem Moment.report_of_down {moment : Moment} {link : LinkDown}
    (hlink : .down link ∈ moment.outcome.notices) :
    (∃ own, link = moment.before.station.downReport own) ∧
      moment.after.station.phase.isOpen = true := by
  have hreport : .down link ∈ moment.linkReports :=
    List.mem_filterMap.mpr ⟨_, hlink, rfl⟩
  cases moment.course with
  | idle _ _ heffects => simp [Outcome.notices, heffects] at hlink
  | reacted _ hreaction hstation _ heffects =>
      rw [links_of_reaction heffects] at hreport
      rcases links_reaction hreaction with ⟨hnone, _⟩ |
        ⟨_, ⟨own, hdown, _, hopen⟩ | ⟨own, bssid, hup, _⟩⟩
      · rw [hnone] at hreport
        cases hreport
      · rw [hstation]
        refine ⟨⟨own, ?_⟩, hopen⟩
        rw [hdown, Station.links_downNotice, Bool.cond_eq_ite] at hreport
        split at hreport
        · exact LinkReport.down.inj (List.mem_singleton.mp hreport)
        · cases hreport
      · rw [hup] at hreport
        obtain ⟨notice, hnotice, hdown⟩ := List.mem_filterMap.mp hreport
        obtain ⟨_, rfl⟩ := (Station.mem_upNotice _ _).mp hnotice
        cases hdown

theorem Phase.ne_associated_of_isOpen {phase : Phase}
    (hopen : phase.isOpen = true) : phase ≠ .associated := by
  rintro rfl
  cases hopen

theorem unreported_reaction {system : System} {decision : Decision}
    {operation : Operation} {turn : Turn}
    (hunreported : system.station.phase = .associated →
      system.station.downReported = false)
    (hreaction : Reaction system decision operation turn) :
    turn.station.phase = .associated → turn.station.downReported = false := by
  cases hreaction with
  | granted => simp
  | joined | answered | denied | rejoined | reassociated =>
      intro hassociated
      cases hassociated
  | expired | released =>
      intro hassociated
      exact absurd hassociated
        (Phase.ne_associated_of_isOpen (Turn.isOpen_loseNetwork ..))
  | searched _ _ hphase | soughtUnsent _ hphase =>
      intro hassociated
      refine absurd hassociated
        (Phase.ne_associated_of_isOpen (Turn.isOpen_search _ _ ?_))
      simp [hphase, Phase.isOpen]
  | _ => simpa using hunreported

theorem unreported_run (config : Config) (moves : List Move) :
    ((System.ofConfig config).run moves).station.phase = .associated →
      ((System.ofConfig config).run moves).station.downReported = false := by
  refine System.station_induction (motive := fun station =>
    station.phase = .associated → station.downReported = false) ?_ ?_ moves
  · intro hphase
    cases hphase
  · intro system decision operation turn hbefore hreaction
    rw [Turn.station_settle]
    exact unreported_reaction hbefore hreaction

namespace Turn

variable (turn : Turn) (own : MacAddr)

/-- What a station sends out to find a network. -/
def probes : List Effect :=
  bif turn.station.activeProbing then
    [.request (.transmit (.probeRequest own turn.station.ssid
      turn.station.config))]
  else []

@[simp] theorem effects_enter (phase : Phase) :
    (turn.enter phase).effects = turn.effects := rfl

@[simp] theorem effects_stop (kind : Timeout) :
    (turn.stop kind).effects = turn.effects := rfl

@[simp] theorem effects_probe :
    (turn.probe own).effects = turn.effects ++ [.request (.transmit
      (.probeRequest own turn.station.ssid turn.station.config))] := rfl

@[simp] theorem effects_reportLost :
    turn.reportLost.effects =
      turn.effects ++ turn.station.lostNotice.map .notice := by
  unfold reportLost Station.lostNotice
  cases turn.station.listeners.lost <;> simp

@[simp] theorem effects_reportDown :
    (turn.reportDown own).effects =
      turn.effects ++ (turn.station.downNotice own).map .notice := by
  unfold reportDown Station.downNotice
  cases turn.station.downReported with
  | true => simp
  | false => cases hlistener : turn.station.listeners.down <;> simp [hlistener]

@[simp] theorem effects_search :
    (turn.search own).effects = turn.effects ++
      (turn.station.downNotice own).map .notice ++ turn.probes own := by
  unfold search probes
  cases turn.station.activeProbing <;> simp

@[simp] theorem effects_loseNetwork :
    (turn.loseNetwork own).effects = turn.effects ++
      turn.station.lostNotice.map .notice ++
      (turn.station.downNotice own).map .notice ++ turn.probes own := by
  simp [loseNetwork_eq, Station.downNotice, probes]

end Turn

@[simp] theorem System.effects_opening (system : System)
    (operation : Operation) :
    (system.opening operation).effects = [] := rfl

/-- What an expired watchdog has a station with an access point do, if all who are to be told of it
listen. -/
private theorem Moment.effects_of_expires {moment : Moment} {accessPoint : MacAddr}
    (hheard : moment.HeardBy [.down, .lost, .left])
    (hexpires : moment.expires = true)
    (hphase : moment.before.station.phase = .associated)
    (hbssid : moment.before.station.bssid = some accessPoint)
    (htold : moment.before.station.reportedAp = some accessPoint)
    (hunreported : moment.before.station.downReported = false) :
    ∃ own, moment.before.station.address = some own ∧
      moment.outcome.effects =
        [.notice (.lost accessPoint),
          .notice (.down ⟨Turn.wifiLink own accessPoint, accessPoint,
            .noBroadcast⟩)] ++
        (if moment.before.station.activeProbing then
          [.request (.transmit (.probeRequest own moment.before.station.ssid
            moment.before.station.config))]
        else []) ++
        [.notice (.left accessPoint)] := by
  obtain ⟨id, hoperation, _⟩ := expires_iff.mp hexpires
  have hlisteners := hheard _ hoperation rfl
  have hdown : moment.before.station.listeners.down = true :=
    hlisteners .down (by simp)
  have hlost : moment.before.station.listeners.lost = true :=
    hlisteners .lost (by simp)
  have hleft : moment.before.station.listeners.left = true :=
    hlisteners .left (by simp)
  obtain ⟨_, own, turn, hreaction, haddress, hturn, _, heffects⟩ :=
    reaction_of_expires hexpires
  refine ⟨own, haddress, ?_⟩
  have hassociated : moment.before.station.isAssociated = true := by
    simp [Station.isAssociated, hphase, Phase.isAssociated]
  have hfree : turn.station.isAssociated = false := by
    rw [hturn]
    exact Phase.isAssociated_of_isOpen (Turn.isOpen_loseNetwork ..)
  have hparting : turn.parting moment.before.station.isAssociated =
      [.notice (.left accessPoint)] := by
    rw [hassociated]
    simp [Turn.parting, hfree, hreaction.reportedAp_eq, htold,
      hreaction.listeners_eq, hleft]
  have hlast : turn.effects = _ := hturn ▸ Turn.effects_loseNetwork ..
  rw [heffects, hparting, hlast]
  simp [Station.lostNotice, Station.downNotice, Turn.probes, hdown, hlost,
    hbssid, hunreported, cond_eq_ite]

/-- In every run of a station with listeners from the start, a link is reported as down again only
after one has been reported as up, and never by what ends in an association; and a watchdog that
expires on a station with an access point has it tell that the network is lost and, once, that the
link is down, then probe if it may, and then tell that the access point is left. -/
theorem loss_is_told_in_order (config : Config) (moves : List Move)
    (hheard : ∀ moment ∈ (System.ofConfig config).history moves,
      moment.HeardBy [.up, .down, .lost, .left]) :
    let history := (System.ofConfig config).history moves
    (∀ earlier first between second later,
      linkReports history =
        earlier ++ .down first :: (between ++ .down second :: later) →
      ∃ up, .up up ∈ between) ∧
    ∀ moment ∈ history,
      (∀ link, .down link ∈ moment.outcome.notices →
        moment.after.station.phase ≠ .associated) ∧
      (moment.expires = true → moment.before.station.phase = .associated →
        ∃ own accessPoint,
          moment.before.station.address = some own ∧
          moment.before.station.bssid = some accessPoint ∧
          moment.outcome.effects =
            [.notice (.lost accessPoint),
              .notice (.down ⟨Turn.wifiLink own accessPoint, accessPoint,
                .noBroadcast⟩)] ++
            (if moment.before.station.activeProbing then
              [.request (.transmit (.probeRequest own
                moment.before.station.ssid moment.before.station.config))]
            else []) ++
            [.notice (.left accessPoint)]) := by
  intro history
  refine ⟨?_, ?_⟩
  · intro earlier first between second later hreports
    have hspaced := spaced_run config moves fun moment hmoment =>
      (hheard moment hmoment).mono (by simp)
    have hchain := hspaced.chain
    rw [hreports] at hchain
    exact LinkReport.up_of_chain hchain.right_of_append
  · intro moment hmoment
    refine ⟨fun link hlink =>
      Phase.ne_associated_of_isOpen (Moment.report_of_down hlink).2, ?_⟩
    intro hexpires hphase
    obtain ⟨earlier, later, hhistory⟩ := List.append_of_mem hmoment
    obtain ⟨before, _, _, _, hbefore⟩ := System.history_split hhistory
    have hnamed := named_run config before
    have hreported := reported_run config before
    have hunreported := unreported_run config before
    rw [← hbefore] at hnamed hreported hunreported
    obtain ⟨accessPoint, hbssid, _⟩ := hnamed.accessPoint hphase
    have htold : moment.before.station.reportedAp = some accessPoint := by
      rw [hreported, Station.isAssociated, hphase, hbssid]
      rfl
    obtain ⟨own, haddress, heffects⟩ := Moment.effects_of_expires
      ((hheard moment hmoment).mono (by simp)) hexpires hphase hbssid htold
      (hunreported hphase)
    exact ⟨own, accessPoint, haddress, hbssid, heffects⟩

namespace Sample

/-- Everybody listens, and the station joins a network. -/
def observedJoins : List Move :=
  [.perform refuse (.register .up), .perform refuse (.register .down),
    .perform refuse (.register .lost), .perform refuse (.register .left)] ++
  joins

/-- The station hears no more of its network. -/
def observedLoss : Moment :=
  ⟨(System.ofConfig {}).run observedJoins, .advance .last⟩

end Sample

theorem loss_is_told_in_order_sample :
    Sample.observedLoss.expires = true ∧
    Sample.observedLoss.before.station.phase = .associated ∧
    Sample.observedLoss.outcome.effects =
      [.notice (.lost Sample.accessPoint),
        .notice (.down ⟨Turn.wifiLink Sample.own Sample.accessPoint,
          Sample.accessPoint, .noBroadcast⟩),
        .notice (.left Sample.accessPoint)] := by
  have htold := loss_is_told_in_order {}
    (Sample.observedJoins ++ [.advance .last]) (by
      simp only [Sample.observedJoins, Sample.joins, List.cons_append,
        List.nil_append, System.history, List.forall_mem_cons]
      exact ⟨.of_setting rfl rfl, .of_setting rfl rfl, .of_setting rfl rfl,
        .of_setting rfl rfl, .of_setting rfl rfl, .of_listening (by decide),
        .of_listening (by decide), .of_listening (by decide), by simp⟩)
  have hexpires : Sample.observedLoss.expires = true := by decide
  have hphase : Sample.observedLoss.before.station.phase = .associated := by
    decide
  have hlast : Sample.observedLoss ∈ (System.ofConfig {}).history
      (Sample.observedJoins ++ [.advance .last]) := by
    rw [System.history_concat]
    exact List.mem_append_right _ (List.mem_singleton_self _)
  obtain ⟨own, accessPoint, haddress, hbssid, heffects⟩ :=
    (htold.2 _ hlast).2 hexpires hphase
  obtain rfl : Sample.own = own :=
    Option.some.inj ((show _ = some Sample.own by decide).symm.trans haddress)
  obtain rfl : Sample.accessPoint = accessPoint := Option.some.inj
    ((show _ = some Sample.accessPoint by decide).symm.trans hbssid)
  exact ⟨hexpires, hphase, heffects⟩

end Roaming

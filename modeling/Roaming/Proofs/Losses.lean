import Mathlib.Data.List.Induction
import Roaming.Proofs.Handshake
import Roaming.Proofs.Notices
import Roaming.Proofs.Watchdog

namespace Roaming

/-! Losses of a network: those of a station that has one, and those that a watchdog left running
reports of a station that has lost it already. -/

namespace Turn

variable (turn : Turn) (own : MacAddr)

theorem isOpen_search (hopen : turn.station.phase.isOpen = true) :
    (turn.search own).station.phase.isOpen = true := by
  rw [station_search]
  cases turn.station.activeProbing with
  | true => rfl
  | false => exact hopen

theorem isOpen_loseNetwork :
    (turn.loseNetwork own).station.phase.isOpen = true := by
  rw [loseNetwork_eq]
  exact isOpen_search _ own rfl

private theorem lost_not_mem_partingNotice (wasAssociated : Bool)
    (bssid : MacAddr) :
    .lost bssid ∉ turn.partingNotice wasAssociated := by
  intro hmem
  obtain ⟨_, hnotice | hnotice⟩ := turn.mem_partingNotice hmem <;> cases hnotice

end Turn

/-- An operation names a network to a station that has been turned away. -/
def System.Releases (system : System) (operation : Operation) : Prop :=
  ∃ ssid, operation = .setSsid ssid ∧
    system.station.address.isSome = true ∧ system.station.phase = .refused

namespace Reaction

variable {system : System} {decision : Decision} {operation : Operation}
  {turn : Turn}

private theorem eq_of_releases (hreaction : Reaction system decision operation turn)
    (hreleases : system.Releases operation) :
    ∃ own, turn = (system.opening operation).loseNetwork own := by
  obtain ⟨ssid, rfl, haddress, hphase⟩ := hreleases
  cases hreaction with
  | rested hrests =>
      rcases hrests with hunset | hother
      · simp [hunset] at haddress
      · exact absurd hphase hother
  | searched _ hasked => rcases hasked with hasked | hasked <;> cases hasked
  | released => exact ⟨_, rfl⟩

private theorem expires_or_releases_of_lost
    (hreaction : Reaction system decision operation turn) {bssid : MacAddr}
    (hlost : .lost bssid ∈ turn.notices) :
    system.Expires operation ∨ system.Releases operation := by
  cases hreaction with
  | expired haddress htake hphase hended =>
      exact .inl ⟨_, rfl, by simp [haddress], htake, hphase, hended⟩
  | released haddress hphase =>
      exact .inr ⟨_, rfl, by simp [haddress], hphase⟩
  | _ => simp [cond_eq_ite] at hlost

theorem lost_iff (hreaction : Reaction system decision operation turn)
    (hloses : system.Expires operation ∨ system.Releases operation)
    {bssid : MacAddr} :
    .lost bssid ∈ turn.notices ↔ system.station.listeners.lost = true ∧
      bssid = system.station.bssid.getD .null := by
  rcases hloses with hexpires | hreleases
  · obtain ⟨own, _, rfl⟩ := hreaction.eq_of_expires hexpires
    obtain ⟨id, rfl, _⟩ := hexpires
    simp [Station.prepare]
  · obtain ⟨own, rfl⟩ := hreaction.eq_of_releases hreleases
    obtain ⟨ssid, rfl, _⟩ := hreleases
    simp [Station.prepare]

private theorem open_of_loses (hreaction : Reaction system decision operation turn)
    (hloses : system.Expires operation ∨ system.Releases operation) :
    turn.station.phase.isOpen = true := by
  rcases hloses with hexpires | hreleases
  · obtain ⟨own, _, rfl⟩ := hreaction.eq_of_expires hexpires
    exact Turn.isOpen_loseNetwork ..
  · obtain ⟨own, rfl⟩ := hreaction.eq_of_releases hreleases
    exact Turn.isOpen_loseNetwork ..

private theorem ended_of_expires (hreaction : Reaction system decision operation turn)
    (hexpires : system.Expires operation) :
    turn.station.timeouts.isRunning .beaconWatchdog = false ∧
      turn.transmits .probeRequest = system.station.activeProbing := by
  obtain ⟨own, _, rfl⟩ := hreaction.eq_of_expires hexpires
  obtain ⟨id, rfl, _, htake, _⟩ := hexpires
  refine ⟨by simp [Station.prepare, Timeouts.isRunning_take, htake], ?_⟩
  cases hprobing : system.station.activeProbing <;>
    simp [Turn.transmits, Station.prepare, hprobing]

/-- A station comes to be without a network by a loss, or because it has none; and its watchdog
does what it did unless it ends. -/
private theorem open_before (hreaction : Reaction system decision operation turn)
    (hunset : system.station.Unset) (hkept : ¬system.Expires operation)
    (hopen : turn.station.phase.isOpen = true) :
    (system.Releases operation ∨ system.station.phase.isOpen = true) ∧
      turn.station.timeouts.isRunning .beaconWatchdog =
        system.station.timeouts.isRunning .beaconWatchdog := by
  cases hreaction with
  | rested hrests =>
      exact ⟨.inr (by simpa using hopen), Station.isRunning_prepare hrests _⟩
  | dropped | declined | forwarded | relayed | silenced | sent | unsent =>
      exact ⟨.inr (by simpa using hopen), by simp [Station.prepare]⟩
  | followed _ _ _ _ _ hclosed => simp [hclosed] at hopen
  | joined | answered | granted | denied | rejoined | reassociated => cases hopen
  | @outlived _ kind htake houtlives =>
      refine ⟨.inr (by simpa using hopen), ?_⟩
      rcases houtlives with hnone | hphase
      · exact absurd hnone (hunset.address_ne htake)
      · cases kind with
        | probeRequest | assocRequest =>
            simp [Station.prepare, Timeouts.isRunning_take, htake]
        | beaconWatchdog =>
            change system.station.phase = .refused at hphase
            simp [hphase, Phase.isOpen] at hopen
  | reprobed _ htake hphase =>
      exact ⟨.inr (by simp [hphase, Phase.isOpen]),
        by simp [Station.prepare, Timeouts.isRunning_take, htake]⟩
  | rearmed _ htake =>
      exact ⟨.inr (by simpa using hopen),
        by simp [Timeouts.isRunning_of_take _ htake]⟩
  | expired haddress htake hphase hended =>
      exact absurd ⟨_, rfl, by simp [haddress], htake, hphase, hended⟩ hkept
  | searched _ hoperation hphase =>
      refine ⟨.inr (by simp [hphase, Phase.isOpen]), ?_⟩
      rcases hoperation with rfl | rfl <;> simp [Station.prepare]
  | soughtUnsent _ hphase =>
      exact ⟨.inr (by simp [hphase, Phase.isOpen]), by simp [Station.prepare]⟩
  | released haddress hphase =>
      exact ⟨.inl ⟨_, rfl, by simp [haddress], hphase⟩, by simp [Station.prepare]⟩

/-- A station without a network goes on without, unless a frame gets it to ask one. -/
private theorem open_or_asks (hreaction : Reaction system decision operation turn)
    (hopen : system.station.phase.isOpen = true) :
    turn.station.phase.isOpen = true ∨
      turn.transmits .assocRequest = true ∧
        ∃ frame, operation = .receive frame := by
  cases hreaction with
  | joined | answered => exact .inr ⟨by simp [Turn.transmits], _, rfl⟩
  | rejoined _ _ hphase | granted _ _ _ hphase | denied _ _ _ hphase
  | reassociated _ hphase =>
      simp [hphase, Phase.isOpen] at hopen
  | expired | released => exact .inl (Turn.isOpen_loseNetwork ..)
  | searched | soughtUnsent =>
      exact .inl (Turn.isOpen_search _ _ (by simpa using hopen))
  | _ => exact .inl (by simpa using hopen)

end Reaction

namespace Moment

/-- Whether a network is named to the station after it has been turned away. -/
def releases (moment : Moment) : Bool :=
  match moment.operation? with
  | some (.setSsid _) =>
      moment.before.station.address.isSome &&
        decide (moment.before.station.phase = .refused)
  | _ => false

/-- Whether the station gives up a network, or searches again as if it did. -/
def loses (moment : Moment) : Bool :=
  moment.expires || moment.releases

/-- Whether the watchdog runs on while the station turns to another network. -/
def leavesRunning (moment : Moment) : Prop :=
  moment.releases = true ∧
    moment.before.station.timeouts.isRunning .beaconWatchdog = true

variable {moment : Moment}

private theorem releases_of_operation {operation : Operation}
    (hoperation : moment.operation? = some operation) :
    moment.releases = true ↔ moment.opened.Releases operation := by
  unfold releases
  rw [hoperation]
  cases operation with
  | setSsid ssid => simp [System.Releases]
  | setAddress | register | ensureAssociated | receive | timeout | send
  | capabilitiesChanged | setActiveProbing => simp [System.Releases]

private theorem loses_of_operation {operation : Operation}
    (hoperation : moment.operation? = some operation) :
    moment.loses = true ↔
      moment.opened.Expires operation ∨ moment.opened.Releases operation := by
  rw [← expires_of_operation hoperation, ← releases_of_operation hoperation]
  exact Bool.or_eq_true_iff

private theorem loses_of_none (hoperation : moment.operation? = none) :
    moment.loses = false := by
  simp [loses, expires, releases, hoperation]

private theorem refused_of_releases (hreleases : moment.releases = true) :
    moment.before.station.phase = .refused := by
  unfold releases at hreleases
  split at hreleases
  · exact of_decide_eq_true (Bool.and_eq_true_iff.mp hreleases).2
  · cases hreleases

private theorem expires_of_open (hloses : moment.loses = true)
    (hopen : moment.before.station.phase.isOpen = true) :
    moment.expires = true := by
  rcases Bool.or_eq_true_iff.mp hloses with hexpires | hreleases
  · exact hexpires
  · rw [refused_of_releases hreleases] at hopen
    cases hopen

private theorem not_releases_of_expires (hexpires : moment.expires = true) :
    moment.releases = false := by
  obtain ⟨id, hoperation, _⟩ := expires_iff.mp hexpires
  simp [releases, hoperation]

private theorem running_of_expires (hexpires : moment.expires = true) :
    moment.before.station.timeouts.isRunning .beaconWatchdog = true := by
  obtain ⟨id, _, _, htake, _⟩ := expires_iff.mp hexpires
  exact Timeouts.isRunning_of_take _ htake

theorem lost_iff {bssid : MacAddr} :
    .lost bssid ∈ moment.outcome.notices ↔ moment.loses = true ∧
      moment.before.station.listeners.lost = true ∧
      bssid = moment.before.station.bssid.getD .null := by
  cases moment.course with
  | idle hnone _ heffects =>
      simp [Outcome.notices, heffects, loses_of_none hnone]
  | reacted hoperation hreaction _ _ heffects =>
      rw [Outcome.notices_of_parting heffects, List.mem_append,
        or_iff_left (Turn.lost_not_mem_partingNotice _ _ _),
        loses_of_operation hoperation]
      constructor
      · intro hlost
        have hloses := hreaction.expires_or_releases_of_lost hlost
        exact ⟨hloses, (hreaction.lost_iff hloses).mp hlost⟩
      · rintro ⟨hloses, hlost⟩
        exact (hreaction.lost_iff hloses).mpr hlost

private theorem open_of_loses (hloses : moment.loses = true) :
    moment.after.station.phase.isOpen = true := by
  cases moment.course with
  | idle hnone => simp [loses_of_none hnone] at hloses
  | reacted hoperation hreaction hstation =>
      rw [hstation]
      exact hreaction.open_of_loses ((loses_of_operation hoperation).mp hloses)

private theorem ended_of_expires (hexpires : moment.expires = true) :
    moment.after.station.timeouts.isRunning .beaconWatchdog = false ∧
      moment.transmits .probeRequest =
        moment.before.station.activeProbing := by
  cases moment.course with
  | idle hnone =>
      obtain ⟨id, hoperation, _⟩ := expires_iff.mp hexpires
      cases hnone.symm.trans hoperation
  | reacted hoperation hreaction hstation _ heffects =>
      rw [hstation, transmits_of_parting heffects]
      exact hreaction.ended_of_expires
        ((expires_of_operation hoperation).mp hexpires)

private theorem open_or_asks (hopen : moment.before.station.phase.isOpen = true) :
    moment.after.station.phase.isOpen = true ∨
      moment.transmits .assocRequest = true ∧
        ∃ frame, moment.operation? = some (.receive frame) := by
  cases moment.course with
  | idle _ hafter =>
      rw [hafter]
      exact .inl hopen
  | reacted hoperation hreaction hstation _ heffects =>
      rw [hstation, transmits_of_parting heffects, hoperation]
      refine (hreaction.open_or_asks hopen).imp_right ?_
      rintro ⟨hasks, frame, hframe⟩
      exact ⟨hasks, frame, congrArg some hframe⟩

private theorem open_before (hunset : moment.before.station.Unset)
    (hkept : moment.expires = false)
    (hopen : moment.after.station.phase.isOpen = true) :
    (moment.releases = true ∨ moment.before.station.phase.isOpen = true) ∧
      moment.after.station.timeouts.isRunning .beaconWatchdog =
        moment.before.station.timeouts.isRunning .beaconWatchdog := by
  cases moment.course with
  | idle _ hafter =>
      rw [hafter] at hopen ⊢
      exact ⟨.inr hopen, rfl⟩
  | reacted hoperation hreaction hstation =>
      rw [hstation] at hopen ⊢
      rw [releases_of_operation hoperation]
      refine hreaction.open_before hunset ?_ hopen
      rw [← expires_of_operation hoperation, hkept]
      exact Bool.false_ne_true

end Moment

/-- The station has turned to another network with its watchdog running, and has given up none
since. -/
def LeftRunning (history : List Moment) : Prop :=
  Since Moment.leavesRunning (fun moment => moment.loses = false) history

/-- The station has lost its network, and has asked none since. -/
def Bereft (history : List Moment) : Prop :=
  Since (fun moment => moment.loses = true)
    (fun moment => moment.transmits .assocRequest = false) history

private theorem watchdog_step {history : List Moment} {moment : Moment}
    (hunset : moment.before.station.Unset)
    (hbefore : moment.before.station.phase.isOpen = true →
      (moment.before.station.timeouts.isRunning .beaconWatchdog = true ↔
        LeftRunning history))
    (hopen : moment.after.station.phase.isOpen = true) :
    moment.after.station.timeouts.isRunning .beaconWatchdog = true ↔
      LeftRunning (history ++ [moment]) := by
  rw [LeftRunning, since_concat]
  cases hexpires : moment.expires with
  | true =>
      simp [(Moment.ended_of_expires hexpires).1, Moment.leavesRunning,
        Moment.not_releases_of_expires hexpires, Moment.loses, hexpires]
  | false =>
      obtain ⟨hcause, hsame⟩ := Moment.open_before hunset hexpires hopen
      rw [hsame]
      -- A release is the one loss that leaves the watchdog as it is.
      cases hreleases : moment.releases with
      | true => simp [Moment.leavesRunning, Moment.loses, hreleases]
      | false =>
          have hstill : moment.before.station.phase.isOpen = true := by
            simpa [hreleases] using hcause
          rw [hbefore hstill]
          simp [Moment.leavesRunning, Moment.loses, hexpires, hreleases,
            LeftRunning]

private theorem watchdog_run_open (config : Config) (moves : List Move)
    (hopen : ((System.ofConfig config).run moves).station.phase.isOpen =
      true) :
    ((System.ofConfig config).run moves).station.timeouts.isRunning
        .beaconWatchdog = true ↔
      LeftRunning ((System.ofConfig config).history moves) := by
  induction moves using List.reverseRecOn with
  | nil =>
      refine iff_of_false ?_ not_since_nil
      exact Bool.false_ne_true
  | append_singleton moves move ih =>
      rw [System.run_concat] at hopen ⊢
      rw [System.history_concat]
      exact watchdog_step (unset_run config moves) ih hopen

private theorem bereft_run_open {config : Config} {moves : List Move}
    (hbereft : Bereft ((System.ofConfig config).history moves)) :
    ((System.ofConfig config).run moves).station.phase.isOpen = true := by
  induction moves using List.reverseRecOn with
  | nil => exact absurd hbereft not_since_nil
  | append_singleton moves move ih =>
      rw [System.history_concat, Bereft, since_concat] at hbereft
      rw [System.run_concat]
      rcases hbereft with hloses | ⟨hbereft, hquiet⟩
      · exact Moment.open_of_loses hloses
      · let moment : Moment := ⟨(System.ofConfig config).run moves, move⟩
        have hbefore : moment.before.station.phase.isOpen = true := ih hbereft
        rcases Moment.open_or_asks hbefore with hopen | ⟨hasks, _⟩
        · exact hopen
        · exact absurd hasks (ne_true_of_eq_false hquiet)

section Split

variable {config : Config} {moves : List Move}
  {earlier later : List Moment} {moment : Moment}

private theorem open_of_bereft
    (hhistory : (System.ofConfig config).history moves =
      earlier ++ moment :: later) (hbereft : Bereft earlier) :
    moment.before.station.phase.isOpen = true := by
  obtain ⟨before, _, _, rfl, hbefore⟩ := System.history_split hhistory
  rw [hbefore]
  exact bereft_run_open hbereft

private theorem leftRunning_of_expires
    (hhistory : (System.ofConfig config).history moves =
      earlier ++ moment :: later)
    (hopen : moment.before.station.phase.isOpen = true)
    (hexpires : moment.expires = true) : LeftRunning earlier := by
  have hrunning := Moment.running_of_expires hexpires
  obtain ⟨before, _, _, rfl, hbefore⟩ := System.history_split hhistory
  rw [hbefore] at hopen hrunning
  exact (watchdog_run_open config before hopen).mp hrunning

/-- Two losses with no request between them are those of a watchdog left running by the first. -/
private theorem losses_apart {between : List Moment} {first second : Moment}
    (hhistory : (System.ofConfig config).history moves =
      earlier ++ first :: (between ++ second :: later))
    (hfirst : first.loses = true) (hsecond : second.loses = true)
    (hquiet : ∀ other ∈ between, other.transmits .assocRequest = false) :
    first.leavesRunning ∧ second.expires = true ∧
      ∀ other ∈ between, other.loses = false := by
  have hsplit : (System.ofConfig config).history moves =
      (earlier ++ first :: between) ++ second :: later := by
    simp [hhistory]
  have hopen := open_of_bereft hsplit ⟨earlier, first, between, rfl, hfirst, hquiet⟩
  have hexpires := Moment.expires_of_open hsecond hopen
  obtain ⟨before, last, since, hlast, hleaves, hkept⟩ :=
    leftRunning_of_expires hsplit hopen hexpires
  -- The first loss itself left the watchdog running: a later one would take a refusal, and so a
  -- request between, and an earlier one no longer counts after the first loss.
  suffices hsame : first = last ∧ between = since by
    obtain ⟨rfl, rfl⟩ := hsame
    exact ⟨hleaves, hexpires, hkept⟩
  rcases List.append_eq_append_iff.mp hlast with
    ⟨middle, hbefore, hrest⟩ | ⟨middle, _, hrest⟩
  · cases middle with
    | nil => exact List.cons.inj hrest
    | cons other middle =>
        obtain ⟨rfl, rfl⟩ := List.cons.inj hrest
        have hlater : (System.ofConfig config).history moves =
            (earlier ++ first :: middle) ++ last :: (since ++ second :: later) := by
          simp [hhistory]
        have hstill := open_of_bereft hlater
          ⟨earlier, first, middle, rfl, hfirst, fun other hother =>
            hquiet other (List.mem_append_left _ hother)⟩
        rw [Moment.refused_of_releases hleaves.1] at hstill
        cases hstill
  · cases middle with
    | nil => exact (List.cons.inj hrest).imp Eq.symm Eq.symm
    | cons other middle =>
        obtain ⟨_, rfl⟩ := List.cons.inj hrest
        have hnone := hkept first (by simp)
        exact absurd hfirst (ne_true_of_eq_false hnone)

end Split

private theorem System.open_later {system : System} {later : List Move}
    (hopen : system.station.phase.isOpen = true)
    (hquiet : ∀ moment ∈ system.history later,
      ∀ frame, moment.operation? ≠ some (.receive frame)) :
    (system.run later).station.phase.isOpen = true ∧
      ∀ moment ∈ system.history later,
        moment.before.station.phase.isOpen = true := by
  induction later generalizing system with
  | nil => exact ⟨hopen, by simp [history]⟩
  | cons move later ih =>
      let moment : Moment := ⟨system, move⟩
      have hbefore : moment.before.station.phase.isOpen = true := hopen
      rcases Moment.open_or_asks hbefore with hafter | ⟨_, frame, hframe⟩
      · have hlater := ih hafter fun other hother =>
          hquiet other (List.mem_cons_of_mem _ hother)
        exact ⟨hlater.1, List.forall_mem_cons.mpr ⟨hopen, hlater.2⟩⟩
      · exact absurd hframe (hquiet moment (List.mem_cons_self ..) frame)

private theorem expires_later (config : Config) {moves later : List Move}
    (hleft : LeftRunning ((System.ofConfig config).history moves))
    (hopen : ((System.ofConfig config).run moves).station.phase.isOpen = true)
    (hquiet : ∀ moment ∈ ((System.ofConfig config).run moves).history later,
      ∀ frame, moment.operation? ≠ some (.receive frame))
    (hprompt : ∀ moment ∈ (System.ofConfig config).history (moves ++ later),
      moment.Prompt)
    (hlate : ∀ event ∈ (((System.ofConfig config).run moves).run
        later).clock.pending,
      coveredUntil ((System.ofConfig config).history moves) < event.1) :
    ∃ moment ∈ ((System.ofConfig config).run moves).history later,
      moment.before.station.phase.isOpen = true ∧ moment.expires = true := by
  obtain ⟨hstill, hstays⟩ := System.open_later hopen hquiet
  -- Otherwise it would still be running, with an event due by then.
  by_contra hnone
  have hkept : ∀ moment ∈ ((System.ofConfig config).run moves).history later,
      moment.loses = false := by
    intro moment hmoment
    refine eq_false_of_ne_true fun hloses => hnone ⟨moment, hmoment, ?_⟩
    have hphase := hstays moment hmoment
    exact ⟨hphase, Moment.expires_of_open hloses hphase⟩
  have hrun := System.run_append (System.ofConfig config) moves later
  have hsince := hleft.append hkept
  rw [← System.history_append] at hsince
  rw [← hrun] at hstill
  have hrunning := (watchdog_run_open config (moves ++ later) hstill).mpr hsince
  obtain ⟨event, hevent, hdue⟩ :=
    watchdog_run_due config (moves ++ later) hprompt hrunning
  rw [← coverage_run, hrun, System.coverage_later hquiet, coverage_run] at hdue
  rw [hrun] at hevent
  exact absurd (hlate event hevent) (Time.not_lt.mpr hdue)

/-- In every run a loss is reported where a network is given up, or one is named to a station that
has been turned away.  A station without a network has none to report, unless it was turned away and
its watchdog left running then: that watchdog reports a loss again, and has the station probe again,
once.  So two losses have a request between them, or are the two of that kind; and the second of
those comes unless a frame is heard before the watchdog goes off. -/
theorem losses_are_explained (config : Config) (moves : List Move) :
    let start := System.ofConfig config
    let reached := start.run moves
    (∀ earlier moment later,
      start.history moves = earlier ++ moment :: later →
      (∀ bssid, .lost bssid ∈ moment.outcome.notices ↔
        moment.loses = true ∧ moment.before.station.listeners.lost = true ∧
          bssid = moment.before.station.bssid.getD .null) ∧
      (moment.before.station.phase.isOpen = true → moment.loses = true →
        moment.expires = true ∧ LeftRunning earlier ∧
          moment.transmits .probeRequest =
            moment.before.station.activeProbing)) ∧
    (∀ earlier first between second later,
      start.history moves =
        earlier ++ first :: (between ++ second :: later) →
      first.loses = true → second.loses = true →
      (∃ moment ∈ between, moment.transmits .assocRequest = true) ∨
        first.leavesRunning ∧ second.expires = true ∧
          ∀ moment ∈ between, moment.loses = false) ∧
    ∀ later, LeftRunning (start.history moves) →
      reached.station.phase.isOpen = true →
      (∀ moment ∈ reached.history later,
        ∀ frame, moment.operation? ≠ some (.receive frame)) →
      (∀ moment ∈ start.history (moves ++ later), moment.Prompt) →
      (∀ event ∈ (reached.run later).clock.pending,
        coveredUntil (start.history moves) < event.1) →
      ∃ moment ∈ reached.history later,
        moment.before.station.phase.isOpen = true ∧
          moment.expires = true := by
  intro start reached
  refine ⟨?_, ?_, ?_⟩
  · intro earlier moment later hhistory
    refine ⟨fun bssid => Moment.lost_iff, ?_⟩
    intro hopen hloses
    have hexpires := Moment.expires_of_open hloses hopen
    exact ⟨hexpires, leftRunning_of_expires hhistory hopen hexpires,
      (Moment.ended_of_expires hexpires).2⟩
  · intro earlier first between second later hhistory hfirst hsecond
    by_cases hasks : ∃ moment ∈ between, moment.transmits .assocRequest = true
    · exact .inl hasks
    · refine .inr (losses_apart hhistory hfirst hsecond ?_)
      intro moment hmoment
      exact eq_false_of_ne_true fun htransmits =>
        hasks ⟨moment, hmoment, htransmits⟩
  · intro later hleft hopen hquiet hprompt hlate
    exact expires_later config hleft hopen hquiet hprompt hlate

namespace Sample

def refusal : Frame :=
  { response with body := { status := .refused } }

/-- The station is turned away by the first network that it hears of, and then sent to another. -/
def turnedAway : List Move :=
  [.perform refuse (.setAddress own), .perform refuse (.register .lost),
    .perform refuse (.receive beacon), .perform refuse (.receive refusal),
    .perform refuse (.setSsid [110, 101, 119])]

def coverageEnd : Time := .ofNanos 1024000000

end Sample

theorem losses_are_explained_sample :
    LeftRunning ((System.ofConfig {}).history Sample.turnedAway) ∧
    ((System.ofConfig {}).run Sample.turnedAway).station.phase.isOpen = true ∧
    ∃ moment ∈ ((System.ofConfig {}).run Sample.turnedAway).history
        [.advance Sample.coverageEnd],
      moment.before.station.phase.isOpen = true ∧ moment.expires = true := by
  have hopen : ((System.ofConfig {}).run
      Sample.turnedAway).station.phase.isOpen = true := by decide
  have hleft := (watchdog_run_open {} Sample.turnedAway hopen).mp (by decide)
  have hquiet : ∀ moment ∈ ((System.ofConfig {}).run Sample.turnedAway).history
      [.advance Sample.coverageEnd],
      ∀ frame, moment.operation? ≠ some (.receive frame) := by
    intro moment hmoment frame
    rw [List.mem_singleton.mp hmoment]
    simp [Moment.operation?, Move.operation?]
  have hprompt : ∀ moment ∈ (System.ofConfig {}).history
      (Sample.turnedAway ++ [.advance Sample.coverageEnd]), moment.Prompt := by
    simp [Sample.turnedAway, System.history, Moment.Prompt]
  have hlater := (losses_are_explained {} Sample.turnedAway).2.2
    [.advance Sample.coverageEnd] hleft hopen hquiet hprompt (by decide)
  exact ⟨hleft, hopen, hlater⟩

/-- Without a network, and told of each event at once, a station reports a loss. -/
theorem loss_without_network_sample :
    let history := (System.ofConfig {}).history
      (Sample.turnedAway ++ [.advance Sample.coverageEnd])
    (∀ moment ∈ history, moment.Prompt) ∧
    ∃ moment ∈ history, moment.before.station.phase = .searching ∧
      .lost Sample.accessPoint ∈ moment.outcome.notices := by
  intro history
  have hprompt : ∀ moment ∈ history, moment.Prompt := by
    simp [history, Sample.turnedAway, System.history, Moment.Prompt]
  let last : Moment := ⟨(System.ofConfig {}).run Sample.turnedAway,
    .advance Sample.coverageEnd⟩
  have hlast : last ∈ history := by
    unfold history
    rw [System.history_concat]
    exact List.mem_append_right _ (List.mem_singleton_self _)
  have hphase : last.before.station.phase = .searching := by decide
  have hlost : .lost Sample.accessPoint ∈ last.outcome.notices := by decide
  exact ⟨hprompt, last, hlast, hphase, hlost⟩

end Roaming

import Roaming.Proofs.Coverage
import Roaming.Proofs.LinkReports

namespace Roaming

/-! Which network a link that goes down is said to have been with: the last one that the station has
heeded, which need not be the one that it was let in by. -/

/-- The network of the frame that a station heeds, if it does. -/
def System.heeded? (system : System) (decision : Decision) :
    Operation → Option MacAddr
  | .receive frame =>
      if system.station.heeds decision frame then some frame.network else none
  | _ => none

def Moment.heeded? (moment : Moment) : Option MacAddr :=
  moment.operation?.bind (moment.opened.heeded? moment.move.decision)

def lastHeeded (history : List Moment) : Option MacAddr :=
  (history.filterMap Moment.heeded?).getLast?

private theorem lastHeeded_concat (history : List Moment) (moment : Moment) :
    lastHeeded (history ++ [moment]) =
      moment.heeded?.or (lastHeeded history) :=
  getLast?_filterMap_concat ..

theorem bssid_reaction {system : System} {decision : Decision}
    {operation : Operation} {turn : Turn}
    (hreaction : Reaction system decision operation turn) :
    turn.station.bssid =
      (system.heeded? decision operation).or system.station.bssid := by
  cases hreaction.hearing with
  | heeded hoperation hheeds hbssid =>
      simp [hoperation, System.heeded?, hheeds, hbssid]
  | unheeded hheeds hbssid =>
      cases operation with
      | receive frame =>
          simp [System.heeded?, hheeds frame rfl, hbssid]
      | setAddress | register | ensureAssociated | timeout | send
      | capabilitiesChanged | setActiveProbing | setSsid => exact hbssid

private theorem Moment.bssid_heeded (moment : Moment) :
    moment.after.station.bssid =
      moment.heeded?.or moment.before.station.bssid := by
  rw [heeded?]
  cases moment.course with
  | idle hoperation hafter =>
      rw [hafter, hoperation]
      rfl
  | reacted hoperation hreaction hstation =>
      rw [hstation, hoperation]
      exact bssid_reaction hreaction

theorem System.bssid_run (system : System) (moves : List Move) :
    (system.run moves).station.bssid =
      (lastHeeded (system.history moves)).or system.station.bssid := by
  refine run_induction (motive := fun history reached =>
    reached.station.bssid = (lastHeeded history).or system.station.bssid)
    ?_ ?_ moves
  · rfl
  · intro history reached move hbefore
    rw [lastHeeded_concat, Option.or_assoc, ← hbefore]
    exact Moment.bssid_heeded ⟨reached, move⟩

/-- Whoever reports a link as up is with the network reported. -/
private theorem Moment.report_of_up {moment : Moment} {up : LinkUp}
    (hnamed : moment.before.station.Named)
    (hup : .up up ∈ moment.outcome.notices) :
    moment.after.station.phase = .associated ∧
      moment.after.station.bssid = some up.newRouter := by
  have hreport : up ∈ moment.ups := List.mem_filterMap.mpr ⟨_, hup, rfl⟩
  cases moment.course with
  | idle _ _ heffects => simp [Outcome.notices, heffects] at hup
  | reacted _ hreaction hstation _ heffects =>
      rw [ups_of_reaction heffects] at hreport
      have hnamed' : moment.opened.station.Named := hnamed
      rcases association_reaction hnamed' hreaction with ⟨hnone, _⟩ |
        ⟨own, bssid, _, hassociated, hbssid, _, hnotices⟩
      · rw [hnone] at hreport
        cases hreport
      · rw [hnotices] at hreport
        obtain ⟨notice, hnotice, htold⟩ := List.mem_filterMap.mp hreport
        obtain ⟨_, rfl⟩ := (Station.mem_upNotice _ _).mp hnotice
        obtain rfl := Option.some.inj htold
        rw [hstation]
        exact ⟨Phase.eq_of_isAssociated hassociated, hbssid⟩

private theorem Moment.reported_of_expires {moment : Moment}
    (hexpires : moment.expires = true) :
    moment.after.station.downReported = true := by
  obtain ⟨_, own, _, _, _, rfl, hstation, _⟩ := reaction_of_expires hexpires
  rw [hstation, Turn.station_loseNetwork]

/-- No link is reported as down, and the station is neither turned away nor has it to switch. -/
structure Moment.Steady (moment : Moment) : Prop where
  quiet : ∀ link, .down link ∉ moment.outcome.notices
  admitted : moment.after.station.phase ≠ .refused
  stays : ∀ source link, .detected source link true ∉ moment.outcome.notices

namespace Moment.Steady

variable {moment : Moment}

private theorem unreported (hsteady : moment.Steady)
    (hheard : moment.HeardBy [.up, .down])
    (hunreported : moment.before.station.downReported = false) :
    moment.after.station.downReported = false := by
  cases Moment.relay hheard with
  | silent _ hsame => rw [hsame, hunreported]
  | up _ _ hreported => exact hreported
  | down own hreports =>
      have hreport : .down (moment.before.station.downReport own) ∈
          moment.linkReports := by
        rw [hreports]
        exact List.mem_singleton_self _
      obtain ⟨notice, hnotice, hlink⟩ := List.mem_filterMap.mp hreport
      cases notice with
      | down link => exact absurd hnotice (hsteady.quiet link)
      | detected | up | lost | joined | left => cases hlink

private theorem bound (hsteady : moment.Steady)
    (hbound : moment.before.station.phase.isBound = true)
    (hunreported : moment.after.station.downReported = false) :
    moment.after.station.phase.isBound = true := by
  -- Who is neither turned away nor out of time keeps its network.
  rcases Moment.bound_or_parted hbound with hstill | ⟨hrefused, _⟩ | hexpires
  · exact hstill
  · exact absurd hrefused hsteady.admitted
  · cases hunreported.symm.trans (Moment.reported_of_expires hexpires)

end Moment.Steady

private theorem System.bssid_steady {system : System} {later : List Move}
    (hbound : system.station.phase.isBound = true)
    (hunreported : system.station.downReported = false)
    (hheard : ∀ moment ∈ system.history later, moment.HeardBy [.up, .down])
    (hsteady : ∀ moment ∈ system.history later, moment.Steady) :
    (system.run later).station.bssid = system.station.bssid := by
  induction later generalizing system with
  | nil => rfl
  | cons move later ih =>
      have hfirst := hsteady _ (List.mem_cons_self ..)
      have hstill := hfirst.unreported (hheard _ (List.mem_cons_self ..))
        hunreported
      have hrest := ih (hfirst.bound hbound hstill) hstill
        (fun moment hmoment => hheard moment (List.mem_cons_of_mem _ hmoment))
        (fun moment hmoment => hsteady moment (List.mem_cons_of_mem _ hmoment))
      exact hrest.trans (Moment.bssid_after hbound hfirst.stays)

/-- In every run, a link reported as down names the network that the station has heeded last since a
link was reported as up, and if it has heeded none, the one of that link.  It is still that one if
both reports have been wanted since, none has been made of a link as down, and the station has
neither been turned away nor had to switch. -/
theorem down_names_last_heeded (config : Config) (moves : List Move)
    (earlier between later : List Moment) (grant loss : Moment)
    (hhistory : (System.ofConfig config).history moves =
      earlier ++ grant :: (between ++ loss :: later))
    (up : LinkUp) (hup : .up up ∈ grant.outcome.notices)
    (down : LinkDown) (hdown : .down down ∈ loss.outcome.notices) :
    down.link.attachment = down.oldRouter ∧
    down.oldRouter = (lastHeeded between).getD up.newRouter ∧
    ((∀ moment ∈ between, moment.HeardBy [.up, .down]) →
      (∀ moment ∈ between, moment.Steady) →
      down.oldRouter = up.newRouter) := by
  obtain ⟨before, inside, hbefore, rfl, hlast⟩ :=
    System.history_between hhistory
  have hnamed := named_run config before
  rw [← hbefore] at hnamed
  obtain ⟨hassociated, hbssid⟩ := Moment.report_of_up hnamed hup
  obtain ⟨⟨own, rfl⟩, _⟩ := Moment.report_of_down hdown
  have hreport : (loss.before.station.downReport own).oldRouter =
      (grant.after.run inside).station.bssid.getD .null := by
    rw [hlast]
    rfl
  refine ⟨rfl, ?_, ?_⟩
  · rw [hreport, System.bssid_run, hbssid]
    cases lastHeeded (grant.after.history inside) <;> rfl
  · intro hheard hsteady
    have hafter : grant.after =
        (System.ofConfig config).run (before ++ [grant.move]) := by
      rw [System.run_concat, ← hbefore]
    have hunreported := unreported_run config (before ++ [grant.move])
    rw [← hafter] at hunreported
    rw [hreport, System.bssid_steady (by rw [hassociated]; rfl)
      (hunreported hassociated) hheard hsteady, hbssid]
    rfl

namespace Sample

/-- Reports of links are wanted, and a first network is heard. -/
def wantedJoins : List Move :=
  [.perform refuse (.register .up), .perform refuse (.register .down),
    .perform refuse (.register (.detected ⟨"observer"⟩)),
    .perform refuse (.setAddress own), .perform refuse (.receive beacon)]

def letIn : Move := .perform refuse (.receive response)

/-- Asked again, the network turns the station away, who then hears another one. -/
def turnedOut : List Move :=
  [.perform refuse .capabilitiesChanged, .perform refuse (.receive refusal),
    .perform refuse (.receive rivalBeacon)]

def sentOn : Move := .perform refuse (.setSsid [110, 101, 119])

/-- The network is heard once more. -/
def heardAgain : List Move := [.perform refuse (.receive beacon)]

/-- The listener prefers another network, and that one leaves two requests unanswered. -/
def luredAway : List Move :=
  [.perform (fun _ _ => true) (.receive rivalBeacon), .advance .last,
    .advance .last]

def linkUp : LinkUp where
  link := Turn.wifiLink own accessPoint
  oldRouter := none
  newRouter := accessPoint
  ipRenewal := true
  mobility := .single .mobileIpv4

def rivalDown : LinkDown :=
  ⟨Turn.wifiLink own rival, rival, .noBroadcast⟩

def formerDown : LinkDown :=
  ⟨Turn.wifiLink own accessPoint, accessPoint, .noBroadcast⟩

end Sample

theorem down_names_last_heeded_sample :
    let grant : Moment :=
      ⟨(System.ofConfig {}).run Sample.wantedJoins, Sample.letIn⟩
    let loss : Moment := ⟨grant.after.run Sample.turnedOut, Sample.sentOn⟩
    let lapse : Moment := ⟨grant.after.run Sample.heardAgain, .advance .last⟩
    (∃ down, .down down ∈ loss.outcome.notices ∧
      down.oldRouter = Sample.rival) ∧
    ∃ down, .down down ∈ lapse.outcome.notices ∧
      down.oldRouter = Sample.linkUp.newRouter := by
  intro grant loss lapse
  have hup : .up Sample.linkUp ∈ grant.outcome.notices := by decide
  refine ⟨⟨Sample.rivalDown, by decide, ?_⟩, Sample.formerDown, by decide, ?_⟩
  · have hnames := down_names_last_heeded {} _ _ _ _ grant loss
      (System.history_around _ Sample.wantedJoins Sample.turnedOut
        Sample.letIn Sample.sentOn) _ hup Sample.rivalDown (by decide)
    have hlast : lastHeeded (grant.after.history Sample.turnedOut) =
        some Sample.rival := by decide
    rw [hnames.2.1, hlast]
    rfl
  · let heard : Moment :=
      ⟨grant.after, .perform Sample.refuse (.receive Sample.beacon)⟩
    have hquiet : heard.outcome.notices = [] := by decide
    have hsteady : heard.Steady :=
      ⟨fun _ => hquiet ▸ List.not_mem_nil, by decide,
        fun _ _ => hquiet ▸ List.not_mem_nil⟩
    have hhistory : grant.after.history Sample.heardAgain = [heard] := rfl
    have hnames := down_names_last_heeded {} _ _ _ _ grant lapse
      (System.history_around _ Sample.wantedJoins Sample.heardAgain
        Sample.letIn (.advance .last)) _ hup Sample.formerDown (by decide)
    rw [hhistory] at hnames
    exact hnames.2.2
      (List.forall_mem_singleton.mpr (.of_listening (by decide)))
      (List.forall_mem_singleton.mpr hsteady)

/-- A link is reported as down for a network that has not let the station in. -/
theorem down_misnames_sample :
    ∃ moves earlier grant between loss up down,
      (System.ofConfig {}).history moves =
        earlier ++ grant :: (between ++ [loss]) ∧
      (∀ moment ∈ (System.ofConfig {}).history moves,
        moment.HeardBy [.up, .down]) ∧
      .up up ∈ grant.outcome.notices ∧ linkReports between = [] ∧
      .down down ∈ loss.outcome.notices ∧ down.oldRouter ≠ up.newRouter := by
  let grant : Moment :=
    ⟨(System.ofConfig {}).run Sample.wantedJoins, Sample.letIn⟩
  let loss : Moment := ⟨grant.after.run Sample.luredAway, .advance .last⟩
  refine ⟨_, _, grant, _, loss, Sample.linkUp, Sample.rivalDown,
    System.history_around _ Sample.wantedJoins Sample.luredAway
      Sample.letIn (.advance .last), ?_, by decide, by decide, by decide,
    by decide⟩
  simp only [Sample.wantedJoins, Sample.letIn, Sample.luredAway,
    List.cons_append, List.nil_append, System.history, List.forall_mem_cons]
  exact ⟨.of_setting rfl rfl, .of_setting rfl rfl, .of_setting rfl rfl,
    .of_setting rfl rfl, .of_listening (by decide), .of_listening (by decide),
    .of_listening (by decide), .of_listening (by decide),
    .of_listening (by decide), .of_listening (by decide), by simp⟩

end Roaming

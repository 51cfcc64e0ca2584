import Roaming.Proofs.Identity
import Roaming.Proofs.Selectors
import Roaming.Proofs.TimerTable

namespace Roaming

/-! What comes of a beacon: whether the listener is asked about it, whether the station follows it,
and whether it asks the sender to be let in. -/

/-- Rates that advertise one of the selectors required, if there are any. -/
def Config.Eligible (config : Config) (rates : RateSet) : Prop :=
  config.requiredSelectors = [] ∨
    ∃ selector ∈ config.requiredSelectors,
      ∃ rate ∈ rates, rate.units = selector ∧ rate.isBasic = true

theorem Config.eligible_iff {config : Config} {rates : RateSet} :
    config.Eligible rates ↔ Turn.advertisesAny config rates = true := by
  simp only [Eligible, Turn.advertisesAny, Bool.or_eq_true, List.isEmpty_iff,
    List.any_eq_true, RateSet.advertises_iff]

namespace Phase

theorem isBound_iff {phase : Phase} : phase.isBound = true ↔
    phase = .associated ∨ ∃ attempt, phase = .joining attempt := by
  cases phase <;> simp [isBound]

theorem isOpen_iff {phase : Phase} :
    phase.isOpen = true ↔ phase = .searching ∨ phase = .probing := by
  cases phase <;> simp [isOpen]

end Phase

namespace Station

variable {station : Station} {own : MacAddr} {decision : Decision}
  {frame : Frame}

def ServedBy (station : Station) (sender : MacAddr) : Prop :=
  station.phase = .associated ∧ station.bssid = some sender

theorem servedBy_iff :
    station.ServedBy frame.header.third ↔ station.attends frame = true := by
  simp only [ServedBy, attends, Bool.and_eq_true, isAssociated_iff,
    beq_iff_eq]

/-- Without a name to look for, any network will do. -/
def Seeks (station : Station) (ssid : Ssid) : Prop :=
  station.ssid = [] ∨ ssid = station.ssid

theorem seeks_iff {ssid : Ssid} :
    station.Seeks ssid ↔ station.wantsSsid ssid = true := by
  simp only [Seeks, wantsSsid, Bool.or_eq_true, List.isEmpty_iff,
    decide_eq_true_eq]

/-- The listener sends the station to a network that it has not joined. -/
structure SentTo (station : Station) (own : MacAddr) (decision : Decision)
    (frame : Frame) : Prop where
  other : ¬station.ServedBy frame.header.third
  eligible : station.config.Eligible frame.body.rates
  answer : ∃ source, station.listeners.detected = some source ∧
    decision source (Turn.detectedLink own frame) = true

theorem sentTo_iff : station.SentTo own decision frame ↔
    station.switches own decision frame = true := by
  unfold switches prefers
  rw [Bool.and_eq_true, ← Config.eligible_iff]
  constructor
  · rintro ⟨hother, heligible, source, hlistener, hanswer⟩
    refine ⟨heligible, ?_⟩
    simp [hlistener, hanswer, mt servedBy_iff.mpr hother]
  · rintro ⟨heligible, hprefers⟩
    split at hprefers
    · cases hprefers
    · next source hlistener =>
        obtain ⟨hother, hanswer⟩ := Bool.and_eq_true_iff.mp hprefers
        refine ⟨?_, heligible, source, hlistener, hanswer⟩
        rw [servedBy_iff]
        simpa using hother

instance : Decidable (station.SentTo own decision frame) :=
  decidable_of_iff _ sentTo_iff.symm

/-- A beacon of a network that the station looks for, and that is not a rival of the one that it has
settled on. -/
structure Welcomes (station : Station) (frame : Frame) : Prop where
  sought : station.Seeks frame.body.ssid
  eligible : station.config.Eligible frame.body.rates
  unrivalled : ¬((station.phase = .associated ∨
    ∃ attempt, station.phase = .joining attempt) ∧
      station.bssid ≠ some frame.header.third)

theorem welcomes_iff :
    station.Welcomes frame ↔ station.suits frame = true := by
  unfold suits
  simp only [Bool.and_eq_true, ← Config.eligible_iff, ← seeks_iff]
  have hunrivalled : (station.bssid == some frame.header.third ||
      !station.phase.isBound) = true ↔ ¬((station.phase = .associated ∨
        ∃ attempt, station.phase = .joining attempt) ∧
          station.bssid ≠ some frame.header.third) := by
    rw [← Phase.isBound_iff, Bool.or_eq_true, beq_iff_eq,
      Bool.not_eq_true', ← Bool.not_eq_true,
      Classical.not_and_iff_not_or_not, Classical.not_not, or_comm]
  rw [hunrivalled]
  exact ⟨fun hwelcomes => ⟨⟨hwelcomes.eligible, hwelcomes.sought⟩,
    hwelcomes.unrivalled⟩, fun ⟨⟨heligible, hsought⟩, hunrivalled⟩ =>
      ⟨hsought, heligible, hunrivalled⟩⟩

instance : Decidable (station.Welcomes frame) :=
  decidable_of_iff _ welcomes_iff.symm

/-- A beacon that makes the station ask the sender to be let in. -/
def Approaches (station : Station) (own : MacAddr) (decision : Decision)
    (frame : Frame) : Prop :=
  station.SentTo own decision frame ∨ station.Welcomes frame ∧
    (station.phase = .searching ∨ station.phase = .probing)

theorem approaches_iff : station.Approaches own decision frame ↔
    station.switches own decision frame = true ∨
      station.suits frame = true ∧ station.phase.isOpen = true := by
  rw [Approaches, sentTo_iff, welcomes_iff, Phase.isOpen_iff]

end Station

/-- The event is not on the clock, and will not come back to it. -/
structure Clock.Rid (clock : Clock) (id : EventId) : Prop where
  issued : id.index ≤ clock.issued
  absent : ∀ deadline, (deadline, id) ∉ clock.pending

private theorem Timeouts.rid_kept (id : EventId) :
    Kept fun _ clock => clock.Rid id where
  cancel {timeouts clock} hrid kind := by
    unfold cancel
    split
    · exact hrid
    · refine ⟨hrid.issued, fun deadline hpending => ?_⟩
      exact hrid.absent deadline (Clock.mem_pending_cancel.mp hpending).1
  arm {_ clock} hrid _ _ _ hdeadline := by
    refine ⟨Nat.le_succ_of_le hrid.issued, fun deadline hpending => ?_⟩
    rcases (Clock.mem_pending_schedule hdeadline).mp hpending with
      hnew | hpending
    · obtain ⟨_, rfl⟩ := Prod.mk.inj hnew
      exact Nat.not_succ_le_self _ hrid.issued
    · exact hrid.absent deadline hpending
  cover hrid _ := hrid

def Notice.isQuestion : Notice → Bool
  | .detected _ _ _ => true
  | _ => false

/-- What listeners are asked, with their answers. -/
def Outcome.questions (outcome : Outcome) : List Notice :=
  outcome.notices.filter Notice.isQuestion

namespace System

/-- The sender of a beacon is asked to let the station in.  A network that it has joined is told
before, and an own search is over. -/
structure Joins (before : System) (own : MacAddr) (frame : Frame)
    (outcome : Outcome) : Prop where
  requests : outcome.requests =
    (before.opening (.receive frame)).farewell own ++
      [.transmit (.assocRequest own frame.header.third before.station.ssid
        before.station.config false)]
  phase : outcome.system.station.phase = .joining ⟨false, frame.header.third⟩
  idle : outcome.system.station.timeouts.isRunning .probeRequest = false
  rid : ∀ armed, before.station.timeouts.armed? .probeRequest = some armed →
    outcome.system.clock.Rid armed.id

/-- The sender of a beacon is taken for the station's network, with all that it says of itself, and
the watchdog waits for the next beacons. -/
structure Follows (before : System) (frame : Frame) (after : System) :
    Prop where
  bssid : after.station.bssid = some frame.header.third
  capabilities : after.station.capabilities =
    before.station.capabilities.adoptBeacon before.station.config frame.body
  coverage : after.station.timeouts.coverage =
    max (before.clock.now.after (before.station.config.watchdogDelay
      frame.body.beaconInterval)) before.station.timeouts.coverage
  watchdog : after.station.timeouts.armed? .beaconWatchdog =
    (before.station.timeouts.armed? .beaconWatchdog).or
      (some ⟨⟨before.clock.issued + 1⟩, before.clock.now.after
        (before.station.config.watchdogDelay frame.body.beaconInterval)⟩)
  counters : after.station.counters = before.station.counters

/-- Nothing is asked of anybody, and neither the station's phase nor its requests are touched. -/
structure Stays (before : System) (outcome : Outcome) : Prop where
  requests : outcome.requests = []
  phase : outcome.system.station.phase = before.station.phase
  armed : ∀ kind, kind ≠ .beaconWatchdog →
    outcome.system.station.timeouts.armed? kind =
      before.station.timeouts.armed? kind

private theorem Stays.not_joins {before : System} {own : MacAddr} {frame : Frame}
    {outcome : Outcome} (hstays : before.Stays outcome) :
    ¬before.Joins own frame outcome := by
  intro hjoins
  have hrequests := hstays.requests
  simp [hjoins.requests] at hrequests

end System

private theorem Timeouts.Listed.rid_cancel {timeouts : Timeouts} {clock : Clock}
    (hlisted : timeouts.Listed clock) {kind : Timeout} {armed : Armed}
    (harmed : timeouts.armed? kind = some armed) :
    (timeouts.cancel clock kind).2.Rid armed.id := by
  rw [cancel_of_some timeouts clock kind harmed]
  refine ⟨hlisted.issued kind armed harmed, fun deadline hpending => ?_⟩
  exact (Clock.mem_pending_cancel.mp hpending).2 rfl

section Beacon

variable {turn : Turn} {own : MacAddr} {frame : Frame}

private theorem Turn.rid_joinSender
    (hlisted : turn.station.timeouts.Listed turn.clock) {armed : Armed}
    (harmed : turn.station.timeouts.armed? .probeRequest = some armed) :
    (turn.joinSender own frame).clock.Rid armed.id := by
  let followed := turn.followBeacon frame
  have hfollowed : followed.station.timeouts.Listed followed.clock :=
    Timeouts.listed_lasts.extendWatchdog hlisted _
  have hkept : followed.station.timeouts.armed? .probeRequest = some armed := by
    simp [followed, harmed]
  exact (Timeouts.rid_kept armed.id).start (hfollowed.rid_cancel hkept) _ _

private theorem Timeouts.watchdog_extended (timeouts : Timeouts) (clock : Clock)
    (delay : Duration) :
    (timeouts.extendWatchdog clock delay).1.armed? .beaconWatchdog =
      (timeouts.armed? .beaconWatchdog).or
        (some ⟨⟨clock.issued + 1⟩, clock.now.after delay⟩) := by
  rw [armed?_extendWatchdog]
  cases harmed : timeouts.armed? .beaconWatchdog <;> simp [isRunning, harmed]

variable {decision : Decision}

private theorem Turn.depart_of_isOpen (hopen : turn.station.phase.isOpen = true) :
    turn.depart own = turn := by
  simp [depart, Station.isAssociated, Phase.isAssociated_of_isOpen hopen]

private theorem Turn.receiveBeacon_of_approaches
    (happroaches : turn.station.Approaches own decision frame) :
    turn.receiveBeacon own decision frame =
      ((turn.consulted own decision frame).depart own).joinSender own
        frame := by
  rw [receiveBeacon_eq]
  rcases Station.approaches_iff.mp happroaches with hswitch | ⟨hsuits, hopen⟩
  · rw [if_pos hswitch]
  · rw [depart_of_isOpen (by simpa using hopen), if_pos hsuits, if_pos hopen]
    split <;> rfl

private theorem Turn.receiveBeacon_of_welcomes
    (hstays : ¬turn.station.Approaches own decision frame)
    (hwelcomes : turn.station.Welcomes frame) :
    turn.receiveBeacon own decision frame =
      (turn.consulted own decision frame).followBeacon frame := by
  have hsuits := Station.welcomes_iff.mp hwelcomes
  rw [Station.approaches_iff, not_or, not_and] at hstays
  rw [receiveBeacon_eq, if_neg hstays.1, if_pos hsuits,
    if_neg (hstays.2 hsuits)]

private theorem Turn.receiveBeacon_of_unwelcome
    (hstays : ¬turn.station.Approaches own decision frame)
    (hunwelcome : ¬turn.station.Welcomes frame) :
    turn.receiveBeacon own decision frame =
      (turn.consulted own decision frame).dropReceived := by
  rw [Station.approaches_iff, not_or] at hstays
  rw [Station.welcomes_iff] at hunwelcome
  rw [receiveBeacon_eq, if_neg hstays.1, if_neg hunwelcome]

end Beacon

namespace System

/-- What can come of a beacon. -/
inductive Verdict (system : System) (own : MacAddr) (decision : Decision)
    (frame : Frame) (outcome : Outcome) : Prop
  | joined (happroaches : system.station.Approaches own decision frame)
      (hjoins : system.Joins own frame outcome)
      (hfollows : system.Follows frame outcome.system)
  | followed (hunmoved : ¬system.station.Approaches own decision frame)
      (hwelcomes : system.station.Welcomes frame)
      (hstays : system.Stays outcome)
      (hfollows : system.Follows frame outcome.system)
  | dropped (hunmoved : ¬system.station.Approaches own decision frame)
      (hunwelcome : ¬system.station.Welcomes frame)
      (hstays : system.Stays outcome)
      (hdropped : outcome.system = { system with
        station.counters.rxDrops := system.station.counters.rxDrops + 1 })

end System

namespace Turn

variable (turn : Turn) (wasAssociated : Bool)

@[simp] theorem questions_outcome :
    (turn.outcome wasAssociated).questions =
      turn.notices.filter Notice.isQuestion := by
  have hparting : (turn.partingNotice wasAssociated).filter
      Notice.isQuestion = [] := by
    refine List.filter_eq_nil_iff.mpr fun notice hnotice => ?_
    obtain ⟨bssid, rfl | rfl⟩ := turn.mem_partingNotice hnotice <;>
      exact Bool.false_ne_true
  rw [Outcome.questions, notices_outcome, List.filter_append, hparting,
    List.append_nil]

end Turn

private theorem Station.filter_question (station : Station) (own : MacAddr)
    (decision : Decision) (frame : Frame) :
    (station.question own decision frame).filter Notice.isQuestion =
      station.question own decision frame := by
  unfold question
  split <;> rfl

namespace System

variable {system : System} {own : MacAddr} {decision : Decision}
  {frame : Frame}

private theorem perform_beacon (haddress : system.station.address = some own)
    (hreaches : frame.reaches own = true)
    (hkind : frame.header.kind = .beacon) :
    system.perform decision (.receive frame) =
      ((system.opening (.receive frame)).receiveBeacon own decision
        frame).outcome system.station.isAssociated := by
  rw [perform_receive haddress, Turn.receive_beacon hreaches hkind]
  rfl

private theorem questions_beacon (haddress : system.station.address = some own)
    (hreaches : frame.reaches own = true)
    (hkind : frame.header.kind = .beacon) :
    (system.perform decision (.receive frame)).questions =
      bif system.station.attends frame then []
      else system.station.question own decision frame := by
  rw [perform_beacon haddress hreaches hkind, Turn.questions_outcome,
    Turn.notices_receiveBeacon, Turn.notices_consulted]
  cases hattends : system.station.attends frame with
  | true => simp [hattends]
  | false => simp [hattends, Station.filter_question]

section Turns

variable (system own decision frame)

def consulted : Turn :=
  (system.opening (.receive frame)).consulted own decision frame

private theorem joins_joinSender
    (hlisted : system.station.timeouts.Listed system.clock)
    (wasAssociated : Bool) :
    system.Joins own frame ((((system.consulted own decision frame).depart
      own).joinSender own frame).outcome wasAssociated) where
  requests := by simp [consulted, Turn.farewell]
  phase := by simp
  idle := by simp [Turn.joinSender]
  rid armed harmed := by
    rw [Turn.clock_outcome]
    exact Turn.rid_joinSender (by simpa [consulted] using hlisted)
      (by simpa [consulted] using harmed)

private theorem follows_joinSender (wasAssociated : Bool) :
    system.Follows frame ((((system.consulted own decision frame).depart
      own).joinSender own frame).outcome wasAssociated).system where
  bssid := by simp
  capabilities := by simp [consulted]
  coverage := by simp [Turn.joinSender, consulted]
  watchdog := by
    simp [Turn.joinSender, consulted, -Timeouts.armed?_extendWatchdog,
      Timeouts.watchdog_extended]
  counters := by simp [consulted]

private theorem follows_followBeacon (wasAssociated : Bool) :
    system.Follows frame (((system.consulted own decision
      frame).followBeacon frame).outcome wasAssociated).system where
  bssid := by simp
  capabilities := by simp [consulted]
  coverage := by simp [consulted]
  watchdog := by
    simp [consulted, -Timeouts.armed?_extendWatchdog,
      Timeouts.watchdog_extended]
  counters := by simp [consulted]

private theorem stays_followBeacon (wasAssociated : Bool) :
    system.Stays (((system.consulted own decision
      frame).followBeacon frame).outcome wasAssociated) where
  requests := by simp [consulted]
  phase := by simp [consulted]
  armed kind hkind := by simp [consulted, hkind]

private theorem stays_dropReceived (wasAssociated : Bool) :
    system.Stays ((system.consulted own decision
      frame).dropReceived.outcome wasAssociated) where
  requests := by simp [consulted]
  phase := by simp [consulted]
  armed kind _ := by simp [consulted]

theorem isAssociated_dropReceived :
    (system.consulted own decision frame).dropReceived.station.isAssociated =
      system.station.isAssociated := by
  simp [consulted, Station.isAssociated]

theorem system_dropReceived :
    ((system.consulted own decision frame).dropReceived.outcome
      system.station.isAssociated).system = { system with
        station.counters.rxDrops := system.station.counters.rxDrops + 1 } := by
  rw [Turn.outcome_of_lasting (isAssociated_dropReceived ..)]
  simp [consulted, Turn.system]

end Turns

private theorem verdict_beacon (haddress : system.station.address = some own)
    (hreaches : frame.reaches own = true)
    (hkind : frame.header.kind = .beacon)
    (hlisted : system.station.timeouts.Listed system.clock) :
    system.Verdict own decision frame
      (system.perform decision (.receive frame)) := by
  rw [perform_beacon haddress hreaches hkind]
  by_cases happroaches : system.station.Approaches own decision frame
  · rw [Turn.receiveBeacon_of_approaches happroaches]
    exact .joined happroaches (joins_joinSender _ _ _ _ hlisted _)
      (follows_joinSender ..)
  · by_cases hwelcomes : system.station.Welcomes frame
    · rw [Turn.receiveBeacon_of_welcomes happroaches hwelcomes]
      exact .followed happroaches hwelcomes (stays_followBeacon ..)
        (follows_followBeacon ..)
    · rw [Turn.receiveBeacon_of_unwelcome happroaches hwelcomes]
      exact .dropped happroaches hwelcomes (stays_dropReceived ..)
        (system_dropReceived ..)

end System

/-- In every run a beacon that reaches the station is judged by one rule.  The listener, if there is
one, is asked once, unless the beacon is from the network joined.  The sender is asked to let the
station in exactly if the listener sends the station there, or if the station looks for a network
and welcomes this one; else nothing is sent, and the station's phase stays.  The beacon is followed
exactly if it is welcome or the listener sends the station there, and is counted as dropped else. -/
theorem beacons_are_judged (config : Config) (moves : List Move) :
    let reached := (System.ofConfig config).run moves
    ∀ own decision frame, reached.station.address = some own →
      frame.reaches own = true → frame.header.kind = .beacon →
      let station := reached.station
      let link := Turn.detectedLink own frame
      let outcome := reached.perform decision (.receive frame)
      let joins := station.SentTo own decision frame ∨
        station.Welcomes frame ∧
          (station.phase = .searching ∨ station.phase = .probing)
      let follows :=
        station.Welcomes frame ∨ station.SentTo own decision frame
      (∀ source, station.listeners.detected = some source →
        ¬station.ServedBy frame.header.third → outcome.questions =
          [.detected source link (decision source link)]) ∧
      (station.listeners.detected = none ∨
        station.ServedBy frame.header.third → outcome.questions = []) ∧
      (reached.Joins own frame outcome ↔ joins) ∧
      (¬joins → reached.Stays outcome) ∧
      (reached.Follows frame outcome.system ↔ follows) ∧
      (¬follows → outcome.system = { reached with
        station.counters.rxDrops :=
          reached.station.counters.rxDrops + 1 }) := by
  intro reached own decision frame haddress hreaches hkind station link
    outcome joins follows
  have hquestions : outcome.questions = bif station.attends frame then []
      else station.question own decision frame :=
    System.questions_beacon haddress hreaches hkind
  refine ⟨?_, ?_, ?_⟩
  · intro source hlistener hother
    rw [Station.servedBy_iff, Bool.not_eq_true] at hother
    rw [hquestions, hother, cond_false, Station.question, hlistener]
  · intro hunasked
    rw [hquestions]
    rcases hunasked with hnone | hserved
    · cases station.attends frame <;> simp [Station.question, hnone]
    · rw [Station.servedBy_iff.mp hserved, cond_true]
  · have hverdict : reached.Verdict own decision frame outcome :=
      System.verdict_beacon haddress hreaches hkind (listed_run config moves)
    cases hverdict with
    | joined happroaches hjoins hfollows =>
        have hfollowed : follows := by
          rcases happroaches with hsent | ⟨hwelcomes, _⟩
          · exact .inr hsent
          · exact .inl hwelcomes
        exact ⟨iff_of_true hjoins happroaches, (absurd happroaches ·),
          iff_of_true hfollows hfollowed, (absurd hfollowed ·)⟩
    | followed hunmoved hwelcomes hstays hfollows =>
        refine ⟨iff_of_false hstays.not_joins hunmoved, fun _ => hstays,
          iff_of_true hfollows (.inl hwelcomes), ?_⟩
        exact (absurd (Or.inl hwelcomes) ·)
    | dropped hunmoved hunwelcome hstays hdropped =>
        have hunfollowed : ¬follows := by
          rintro (hwelcomes | hsent)
          · exact hunwelcome hwelcomes
          · exact hunmoved (.inl hsent)
        refine ⟨iff_of_false hstays.not_joins hunmoved, fun _ => hstays,
          iff_of_false ?_ hunfollowed, fun _ => hdropped⟩
        intro hfollows
        have hcounters := hfollows.counters
        rw [hdropped] at hcounters
        exact Nat.succ_ne_self _ (congrArg Counters.rxDrops hcounters)

open Sample in
theorem beacons_are_judged_sample :
    let reached := (System.ofConfig {}).run askedJoins
    let wanted := reached.perform (fun _ _ => true) (.receive rivalBeacon)
    let offered := reached.perform refuse (.receive rivalBeacon)
    reached.Joins own rivalBeacon wanted ∧
      reached.Follows rivalBeacon wanted.system ∧
      reached.Stays offered ∧
      offered.system.station.counters.rxDrops = 1 := by
  intro reached wanted offered
  have hlured : reached.station.SentTo own (fun _ _ => true) rivalBeacon := by
    decide
  have hspared : ¬reached.station.SentTo own refuse rivalBeacon := by
    decide
  have hunwelcome : ¬reached.station.Welcomes rivalBeacon := by
    decide
  have hrule := beacons_are_judged {} askedJoins own
  obtain ⟨_, _, hjoins, _, hfollows, _⟩ :=
    hrule (fun _ _ => true) rivalBeacon rfl (by decide) rfl
  obtain ⟨_, _, _, hstays, _, hdropped⟩ :=
    hrule refuse rivalBeacon rfl (by decide) rfl
  refine ⟨hjoins.mpr (.inl hlured), hfollows.mpr (.inr hlured),
    hstays (not_or.mpr ⟨hspared, (hunwelcome ·.1)⟩), ?_⟩
  rw [hdropped (not_or.mpr ⟨hunwelcome, hspared⟩)]
  decide

end Roaming

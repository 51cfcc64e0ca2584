import Roaming.Proofs.FollowedLink
import Roaming.Proofs.SessionRun

namespace Roaming

/-! A service access point that is put in charge of a new station's links, held against the station
at every later time. -/

def Effect.link? (effect : Effect) : Option LinkReport :=
  effect.notice?.bind Notice.link?

private theorem Moment.linkReports_eq (moment : Moment) :
    moment.linkReports = moment.outcome.effects.filterMap Effect.link? :=
  List.filterMap_filterMap ..

/-- What an event of a service access point tells of the link. -/
def LinkEvent.link? : LinkEvent → Option LinkReport
  | .detected _ _ _ => none
  | .up link => some (.up link)
  | .down link => some (.down link)

namespace Sap

/-- What a service access point that hears everything makes of an effect. -/
def hear (sap : Sap) : Effect → Sap
  | .notice (.detected source detected _) => (sap.detect source detected).2
  | .notice (.up up) => sap.linkUp up
  | .notice (.down down) => sap.linkDown down
  | .notice (.lost _) => sap.linkLost
  | _ => sap

def links (sap : Sap) : List LinkReport :=
  sap.outbox.filterMap LinkEvent.link?

/-- A service access point of a radio, with somebody to take its events. -/
structure Wireless (sap : Sap) : Prop where
  medium : ∃ ranking, sap.medium = .wifi ranking
  heard : sap.heard = true

/-- How a service access point has changed by what it was told of the link. -/
structure Heard (sap : Sap) (reports : List LinkReport) (later : Sap) :
    Prop where
  wireless : later.Wireless
  link : later.link = reports.foldl LinkId.follow sap.link
  links : later.links = sap.links ++ reports

private theorem heard_publish (event : LinkEvent) {sap changed : Sap}
    (hwireless : changed.Wireless)
    (hlink : changed.link = event.link?.toList.foldl LinkId.follow sap.link)
    (houtbox : changed.outbox = sap.outbox) :
    sap.Heard event.link?.toList (changed.publish event) := by
  have hpublish : changed.publish event =
      { changed with outbox := changed.outbox ++ [event] } :=
    if_pos hwireless.heard
  rw [hpublish]
  refine ⟨⟨hwireless.medium, hwireless.heard⟩, hlink, ?_⟩
  rw [links, houtbox, List.filterMap_append]
  cases hevent : event.link? <;> simp [links, hevent]

private theorem Wireless.hear {sap : Sap} (hwireless : sap.Wireless)
    (effect : Effect) :
    sap.Heard effect.link?.toList (sap.hear effect) := by
  have hsame : sap.Heard [] sap :=
    ⟨hwireless, rfl, (List.append_nil _).symm⟩
  obtain ⟨⟨ranking, hmedium⟩, hheard⟩ := hwireless
  cases effect with
  | request request => exact hsame
  | notice notice =>
      cases notice with
      | detected source detected answer =>
          simp only [Sap.hear, detect, hmedium]
          exact heard_publish (.detected source detected _) ⟨⟨_, rfl⟩, hheard⟩ rfl rfl
      | up up =>
          simp only [Sap.hear, linkUp, hmedium]
          exact heard_publish (.up up) ⟨⟨_, rfl⟩, hheard⟩ rfl rfl
      | down down =>
          simp only [Sap.hear, linkDown, resetRanking, withAttachment, hmedium]
          exact heard_publish (.down down) ⟨⟨_, rfl⟩, hheard⟩ rfl rfl
      | lost bssid =>
          simp only [Sap.hear, linkLost, resetRanking, hmedium]
          exact ⟨⟨⟨_, rfl⟩, hheard⟩, rfl, (List.append_nil _).symm⟩
      | joined bssid | left bssid => exact hsame

private theorem Wireless.hearAll {sap : Sap} (hwireless : sap.Wireless)
    (effects : List Effect) :
    sap.Heard (effects.filterMap Effect.link?) (effects.foldl Sap.hear sap) := by
  induction effects generalizing sap with
  | nil => exact ⟨hwireless, rfl, (List.append_nil _).symm⟩
  | cons effect effects ih =>
      have hfirst := hwireless.hear effect
      have hrest := ih hfirst.wireless
      have hreports : (effect :: effects).filterMap Effect.link? =
          effect.link?.toList ++ effects.filterMap Effect.link? := by
        cases heffect : effect.link? <;> simp [heffect]
      rw [hreports]
      refine ⟨hrest.wireless, ?_, ?_⟩
      · rw [List.foldl_append, ← hfirst.link]
        exact hrest.link
      · rw [← List.append_assoc, ← hfirst.links]
        exact hrest.links

end Sap

namespace Session

/-- A session with a single service access point, which hears everything about links. -/
structure ServedBy (session : Session) (sap : Sap) : Prop where
  saps : session.saps = [sap]
  judge : session.judge = .sap 0
  upHearer : session.upHearer = .sap 0
  downHearer : session.downHearer = .sap 0
  lostHearer : session.lostHearer = .sap 0

section Served

variable {session : Session} {sap : Sap}

private theorem ServedBy.deliver (hserved : session.ServedBy sap) (effect : Effect) :
    (session.deliver effect).2.ServedBy (sap.hear effect) := by
  obtain ⟨system, saps, judge, upHearer, downHearer, lostHearer, streaming⟩ :=
    session
  obtain ⟨rfl, rfl, rfl, rfl, rfl⟩ := hserved
  cases effect with
  | request request => exact ⟨rfl, rfl, rfl, rfl, rfl⟩
  | notice notice => cases notice <;> exact ⟨rfl, rfl, rfl, rfl, rfl⟩

private theorem ServedBy.deliverAll (hserved : session.ServedBy sap)
    (effects : List Effect) :
    (session.deliverAll effects).2.ServedBy (effects.foldl Sap.hear sap) := by
  induction effects generalizing session sap with
  | nil => exact hserved
  | cons effect effects ih => exact ih (hserved.deliver effect)

private theorem ServedBy.hear (hserved : session.ServedBy sap) (outcome : Outcome) :
    (session.hear outcome).session.ServedBy
      (outcome.effects.foldl Sap.hear sap) := by
  have hsystem : { session with system := outcome.system }.ServedBy sap :=
    { hserved with }
  exact hsystem.deliverAll outcome.effects

end Served

/-- Whether a step changes neither who hears of links nor anything about those who do. -/
def Step.spares : Step → Bool
  | .observe .joined | .observe .left => true
  | .observe _ | .decideBy _ _ | .install _ | .meddle _ _ => false
  | _ => true

/-- The events that a step takes from a service access point. -/
def Step.taken (session : Session) : Step → List LinkEvent
  | .collect index =>
      match session.saps[index]? with
      | some sap => sap.collect.1
      | none => []
  | _ => []

private theorem Step.taken_of_move {session : Session} {step : Step} {move : Move}
    (hmove : step.move? session.decision = some move) :
    step.taken session = [] := by
  cases step with
  | collect index => cases hmove
  | _ => rfl

def taken (session : Session) : List Step → List LinkEvent
  | [] => []
  | step :: steps => step.taken session ++ (session.after step).taken steps

end Session

private theorem Moment.listening_after (moment : Moment)
    (hlistening : ∀ listener ∈ [Listener.up, .down],
      moment.before.station.listeners.has listener = true) :
    ∀ listener ∈ [Listener.up, .down],
      moment.after.station.listeners.has listener = true := by
  rw [moment.eq_noted (fun _ _ => rfl) Reaction.listeners_eq]
  unfold noted
  cases moment.operation? with
  | none => exact hlistening
  | some operation =>
      cases operation with
      | register listener =>
          cases listener <;> simp_all [Listeners.add, Listeners.has]
      | _ => exact hlistening

/-- How the one service access point of a session agrees with what has been reported to it. -/
structure Mirrored (history : List Moment) (taken : List LinkEvent)
    (session : Session) (sap : Sap) : Prop where
  served : session.ServedBy sap
  wireless : sap.Wireless
  link : sap.link = followedLink history
  links : taken.filterMap LinkEvent.link? ++ sap.links = linkReports history
  listening : ∀ listener ∈ [Listener.up, .down],
    session.system.station.listeners.has listener = true
  heard : ∀ moment ∈ history, moment.HeardBy [.up, .down]

namespace Mirrored

variable {history : List Moment} {taken : List LinkEvent} {session : Session}
  {sap : Sap}

private theorem move (hmirrored : Mirrored history taken session sap)
    (move : Move) :
    ∃ later, Mirrored (history ++ [⟨session.system, move⟩]) taken
      (session.hear (Moment.outcome ⟨session.system, move⟩)).session later := by
  let moment : Moment := ⟨session.system, move⟩
  have hheard := hmirrored.wireless.hearAll moment.outcome.effects
  rw [← moment.linkReports_eq] at hheard
  refine ⟨_, hmirrored.served.hear moment.outcome, hheard.wireless, ?_, ?_,
    ?_, ?_⟩
  · rw [hheard.link, hmirrored.link]
    exact (followedLink_concat history moment).symm
  · rw [hheard.links, ← List.append_assoc, hmirrored.links]
    exact (linkReports_concat history moment).symm
  · rw [Session.system_hear]
    exact moment.listening_after hmirrored.listening
  · intro other hother
    rcases List.mem_append.mp hother with hother | hother
    · exact hmirrored.heard other hother
    · obtain rfl := List.mem_singleton.mp hother
      exact .of_listening hmirrored.listening

private theorem collect (hmirrored : Mirrored history taken session sap)
    (index : Nat) :
    ∃ later, Mirrored history
      (taken ++ Session.Step.taken session (.collect index))
      (session.updateSap index fun sap => sap.collect.2) later := by
  obtain ⟨system, saps, judge, upHearer, downHearer, lostHearer, streaming⟩ :=
    session
  obtain ⟨⟨rfl, rfl, rfl, rfl, rfl⟩, hwireless, hlink, hlinks, hlistening,
    hheard⟩ := hmirrored
  cases index with
  | zero =>
      refine ⟨sap.collect.2, ⟨rfl, rfl, rfl, rfl, rfl⟩,
        ⟨hwireless.medium, hwireless.heard⟩, hlink, ?_, hlistening, hheard⟩
      rw [← hlinks]
      simp [Session.Step.taken, Sap.collect, Sap.links]
  | succ index =>
      have hsaps : [sap].modify (index + 1) (fun sap => sap.collect.2) =
          [sap] := by simp
      refine ⟨sap, ⟨hsaps, rfl, rfl, rfl, rfl⟩, hwireless, hlink, ?_, hlistening,
        hheard⟩
      simpa [Session.Step.taken] using hlinks

private theorem step (hmirrored : Mirrored history taken session sap)
    {step : Session.Step} (hspares : step.spares = true) :
    ∃ later, Mirrored
      (history ++ session.system.history (step.moves session.decision))
      (taken ++ step.taken session) (session.after step) later := by
  cases hmove : step.move? session.decision with
  | some move =>
      rw [Session.Step.moves_of_move hmove, Session.Step.taken_of_move hmove,
        List.append_nil, Session.after, Session.report_of_move hmove]
      exact hmirrored.move move
  | none =>
      cases step with
      | perform _ | advance _ | withhold _ | schedule _ | cancel _ =>
          cases hmove
      | decideBy _ _ | install _ | meddle _ _ => cases hspares
      | observe listener =>
          have hregistered := hmirrored.move
            (.perform session.decision (.register listener))
          cases listener with
          | detected _ | up | down | lost => cases hspares
          | joined | left =>
              rw [← List.append_nil taken] at hregistered
              exact hregistered
      | collect index =>
          rw [← List.append_nil history] at hmirrored
          exact hmirrored.collect index
      | dropStream =>
          rw [← List.append_nil history, ← List.append_nil taken] at hmirrored
          exact ⟨sap, { hmirrored with served := { hmirrored.served with } }⟩

theorem run (hmirrored : Mirrored history taken session sap)
    {steps : List Session.Step}
    (hspares : ∀ step ∈ steps, step.spares = true) :
    ∃ later, Mirrored (history ++ session.system.history (session.moves steps))
      (taken ++ session.taken steps) (session.run steps) later := by
  induction steps generalizing history taken session sap with
  | nil =>
      rw [← List.append_nil history, ← List.append_nil taken] at hmirrored
      exact ⟨sap, hmirrored⟩
  | cons step steps ih =>
      obtain ⟨hfirst, hrest⟩ := List.forall_mem_cons.mp hspares
      obtain ⟨next, hnext⟩ := hmirrored.step hfirst
      obtain ⟨later, hlater⟩ := ih hnext hrest
      refine ⟨later, ?_⟩
      rw [Session.system_after, List.append_assoc, ← System.history_append,
        List.append_assoc] at hlater
      exact hlater

end Mirrored

/-- To begin with the service access point knows of no link, and the station of none either. -/
private theorem mirrored_install (config : Config) (owner : MihfId) :
    let session := Session.ofConfig config
    let step := Session.Step.install (.wifi owner)
    Mirrored (session.system.history (step.moves session.decision)) []
      (session.after step) (.wifi owner) where
  served := ⟨rfl, rfl, rfl, rfl, rfl⟩
  wireless := ⟨⟨_, rfl⟩, rfl⟩
  link := rfl
  links := rfl
  listening := by
    rintro listener (_ | ⟨_, _ | ⟨_, hnone⟩⟩)
    · rfl
    · rfl
    · cases hnone
  heard := by
    intro moment hmoment
    obtain ⟨listener, _, hmove⟩ := List.mem_map.mp (System.move_mem hmoment)
    have hoperation : moment.operation? = some (.register listener) := by
      rw [Moment.operation?, ← hmove]
      rfl
    exact .of_setting hoperation rfl

theorem mirrored_run (config : Config) (owner : MihfId)
    {later : List Session.Step}
    (hspares : ∀ step ∈ later, step.spares = true) :
    let start := Session.ofConfig config
    let steps := .install (.wifi owner) :: later
    ∃ sap, Mirrored (start.system.history (start.moves steps))
      (start.taken steps) (start.run steps) sap := by
  intro start steps
  obtain ⟨sap, hmirrored⟩ := (mirrored_install config owner).run hspares
  rw [Session.system_after, ← System.history_append, List.nil_append]
    at hmirrored
  exact ⟨sap, hmirrored⟩

/-- A service access point of a radio that is put in charge right from the start, and that nobody
else changes or replaces, names the station's network as long as there is one and none once it has
been given up, names no other than the last one in between, and publishes what the station reports
of its link. -/
theorem installed_point_mirrors_station (config : Config) (owner : MihfId)
    (later : List Session.Step)
    (hspares : ∀ step ∈ later, step.spares = true) :
    let start := Session.ofConfig config
    let steps := .install (.wifi owner) :: later
    let session := start.run steps
    let station := session.system.station
    let history := start.system.history (start.moves steps)
    ∃ sap, session.saps = [sap] ∧
      (station.phase = .associated → ∃ own bssid,
        station.bssid = some bssid ∧ sap.link = ⟨.wifi, own, bssid⟩ ∧
        Entered history own bssid) ∧
      (station.phase.isOpen = true → sap.link.attachment = .null) ∧
      (sap.link.attachment = .null ∨
        station.previousAp = some sap.link.attachment) ∧
      (start.taken steps ++ sap.outbox).filterMap LinkEvent.link? =
        linkReports history := by
  intro start steps session station history
  obtain ⟨sap, hmirrored⟩ := mirrored_run config owner hspares
  have hstation : station = (start.system.run (start.moves steps)).station :=
    congrArg System.station (start.system_run steps)
  have hfollowed : Followed history station := by
    rw [hstation]
    exact followed_run config _ hmirrored.heard
  have hnamed : station.Named := by
    rw [hstation]
    exact named_run config _
  have hlink : sap.link = followedLink history := hmirrored.link
  have hattachment := hfollowed.attachment
  rw [← hlink] at hattachment
  refine ⟨sap, hmirrored.served.saps, fun hphase => ?_, fun hopen => ?_, ?_, ?_⟩
  · obtain ⟨own, bssid, hknown, hprevious, hentered⟩ := hfollowed.entered hphase
    obtain ⟨named, hbssid, hsame⟩ := hnamed.accessPoint hphase
    obtain rfl : bssid = named := Option.some.inj (hprevious.symm.trans hsame)
    exact ⟨own, bssid, hbssid, hlink.trans hknown, hentered⟩
  · rcases hfollowed.unlinked hopen with hreported | hnone
    · rw [hattachment, hreported]
      rfl
    · rw [hattachment, hnone]
      cases station.downReported <;> rfl
  · rw [hattachment]
    cases station.downReported with
    | true => exact .inl rfl
    | false =>
        cases hprevious : station.previousAp with
        | none => exact .inl rfl
        | some bssid => exact .inr rfl
  · rw [List.filterMap_append]
    exact hmirrored.links

namespace Sample

/-- The station joins under a service access point's eyes. -/
def servedJoins : List Session.Step :=
  [.perform (.setAddress own), .perform (.receive beacon),
    .perform (.receive response)]

/-- The network falls silent after somebody has taken the service access point's events. -/
def servedLoss : List Session.Step :=
  servedJoins ++ [.collect 0, .advance .last]

end Sample

theorem installed_point_mirrors_station_sample :
    let start := Session.ofConfig {}
    let install := Session.Step.install (.wifi ⟨"1"⟩)
    (∃ sap own, (start.run (install :: Sample.servedJoins)).saps = [sap] ∧
      sap.link = ⟨.wifi, own, Sample.accessPoint⟩) ∧
    ∃ sap, (start.run (install :: Sample.servedLoss)).saps = [sap] ∧
      sap.link.attachment = .null := by
  intro start install
  constructor
  · obtain ⟨sap, hsaps, hlink, _⟩ := installed_point_mirrors_station {} ⟨"1"⟩
      Sample.servedJoins (by decide)
    obtain ⟨own, bssid, hbssid, hlink, _⟩ := hlink (by decide)
    obtain rfl : Sample.accessPoint = bssid :=
      Option.some.inj (Eq.trans (by decide) hbssid)
    exact ⟨sap, own, hsaps, hlink⟩
  · obtain ⟨sap, hsaps, _, hnull, _⟩ := installed_point_mirrors_station {} ⟨"1"⟩
      Sample.servedLoss (by decide)
    exact ⟨sap, hsaps, hnull (by decide)⟩

end Roaming

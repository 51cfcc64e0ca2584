import Roaming.Proofs.Notices
import Roaming.Proofs.Ranking
import Roaming.Proofs.SessionRun

namespace Roaming

/-! What a beacon that is dropped for want of a membership selector makes of the ranking that
candidates are held against. -/

namespace Station

/-- A beacon that reaches the station and lacks every selector required. -/
structure Spurns (station : Station) (own : MacAddr) (frame : Frame) :
    Prop where
  address : station.address = some own
  beacon : frame.header.kind = .beacon
  reaches : frame.reaches own = true
  lacking : Turn.advertisesAny station.config frame.body.rates = false

private theorem Spurns.requiredSelectors_ne {station : Station} {own : MacAddr}
    {frame : Frame} (hspurns : station.Spurns own frame) :
    station.config.requiredSelectors ≠ [] := by
  intro hnone
  have hlacking := hspurns.lacking
  simp [Turn.advertisesAny, hnone] at hlacking

/-- The question put to a listener unless the frame is from the network joined. -/
def inquiry (station : Station) (own : MacAddr) (decision : Decision)
    (frame : Frame) : List Notice :=
  bif station.attends frame then [] else station.question own decision frame

end Station

namespace Turn

theorem effects_consulted (turn : Turn) (own : MacAddr) (decision : Decision)
    (frame : Frame) :
    (turn.consulted own decision frame).effects = turn.effects ++
      (turn.station.inquiry own decision frame).map .notice := by
  unfold consulted consult Station.inquiry Station.question
  cases turn.station.attends frame with
  | true => simp
  | false => cases turn.station.listeners.detected <;> simp

private theorem receive_spurned {turn : Turn} {own : MacAddr} {frame : Frame}
    (decision : Decision) (hspurns : turn.station.Spurns own frame) :
    turn.receive own decision frame =
      (turn.consulted own decision frame).dropReceived := by
  rw [receive_beacon hspurns.reaches hspurns.beacon, receiveBeacon_eq]
  simp [Station.switches, Station.suits, hspurns.lacking]

private theorem advertisesAny_nil {config : Config}
    (hrequired : config.requiredSelectors ≠ []) :
    advertisesAny config [] = false := by
  simp [advertisesAny, hrequired, RateSet.advertises, RateSet.requires]

end Turn

/-- Nothing comes of such a beacon but the question. -/
private theorem System.perform_spurned {system : System} {own : MacAddr}
    {frame : Frame} (decision : Decision)
    (hspurns : system.station.Spurns own frame) :
    system.perform decision (.receive frame) =
      { system := { system with
          station.counters.rxDrops := system.station.counters.rxDrops + 1 }
        effects :=
          (system.station.inquiry own decision frame).map .notice } := by
  let turn := system.opening (.receive frame)
  have hreceive : turn.receive own decision frame =
      (turn.consulted own decision frame).dropReceived :=
    Turn.receive_spurned decision hspurns
  have hlasting : system.station.isAssociated =
      (turn.consulted own decision
        frame).dropReceived.station.isAssociated := by
    simp [Station.isAssociated, turn]
  rw [perform_receive hspurns.address, hreceive, hlasting,
    Turn.settle_isAssociated]
  simp [turn, Turn.system, Turn.dropReceived, Turn.effects_consulted,
    System.opening]

namespace Session

def ranking? (session : Session) (index : Nat) : Option Ranking :=
  session.saps[index]?.bind Sap.ranking?

/-- Whether it is a service access point that is asked about a frame. -/
def consults (session : Session) (index : Nat) (frame : Frame) : Bool :=
  decide (session.judge = .sap index) &&
    session.system.station.listeners.detected.isSome &&
    !session.system.station.attends frame

private theorem ranking_updateSap (session : Session) (changed index : Nat)
    (f : Sap → Sap) :
    (session.updateSap changed f).ranking? index =
      if changed = index then
        session.saps[index]?.bind fun sap => (f sap).ranking?
      else session.ranking? index := by
  unfold ranking? updateSap
  rw [List.getElem?_modify]
  split <;> cases session.saps[index]? <;> rfl

private theorem ranking_recordDetected (session : Session) (source : MihfId)
    (detected : DetectedLink) (index : Nat) :
    (session.recordDetected source detected).ranking? index =
      if session.judge = .sap index then
        (session.ranking? index).map fun ranking => ranking.judge detected
      else session.ranking? index := by
  unfold recordDetected
  cases hjudge : session.judge with
  | policy policy => simp [ranking?]
  | sap judging =>
      simp only [ranking_updateSap, Judge.sap.injEq, Sap.ranking_detect]
      split
      · unfold ranking?
        cases session.saps[index]? <;> rfl
      · rfl

section Spurned

variable {session : Session} {own : MacAddr} {frame : Frame}
  (hspurns : session.system.station.Spurns own frame)

include hspurns

private theorem after_spurned :
    let dropped : Session := { session with
      system.station.counters.rxDrops :=
        session.system.station.counters.rxDrops + 1 }
    session.after (.perform (.receive frame)) =
      (dropped.deliverAll ((session.system.station.inquiry own
        session.decision frame).map .notice)).2 := by
  intro dropped
  change (session.hear (session.system.perform session.decision
    (.receive frame))).session = _
  rw [System.perform_spurned session.decision hspurns]
  rfl

private theorem system_after_spurned :
    (session.after (.perform (.receive frame))).system =
      { session.system with
        station.counters.rxDrops :=
          session.system.station.counters.rxDrops + 1 } := by
  rw [after_spurned hspurns, system_deliverAll]

private theorem ranking_after_spurned (index : Nat) :
    (session.after (.perform (.receive frame))).ranking? index =
      if session.consults index frame then
        (session.ranking? index).map fun ranking =>
          ranking.judge (Turn.detectedLink own frame)
      else session.ranking? index := by
  rw [after_spurned hspurns]
  unfold Station.inquiry Station.question consults
  cases session.system.station.attends frame with
  | true =>
      rw [Bool.not_true, Bool.and_false]
      rfl
  | false =>
      cases session.system.station.listeners.detected with
      | none =>
          rw [Option.isSome_none, Bool.and_false]
          rfl
      | some source =>
          simp only [Option.isSome_some, Bool.and_true, Bool.not_false,
            decide_eq_true_eq]
          exact ranking_recordDetected _ source _ index

/-- A ranking moves exactly if it is asked about the beacon and takes it. -/
theorem ranking_after_spurned_ne_iff (index : Nat) :
    (session.after (.perform (.receive frame))).ranking? index ≠
        session.ranking? index ↔
      session.consults index frame = true ∧
        ∃ ranking, session.ranking? index = some ranking ∧
          ranking.takes (Turn.detectedLink own frame) = true := by
  rw [ranking_after_spurned hspurns]
  cases session.consults index frame with
  | false => simp
  | true =>
      cases session.ranking? index with
      | none => simp
      | some ranking => simp [← Ranking.judge_ne_iff]

private theorem ranking_after_spurned_of_ne {index : Nat}
    (hmoved : (session.after (.perform (.receive frame))).ranking? index ≠
      session.ranking? index) :
    (session.after (.perform (.receive frame))).ranking? index =
      some ⟨(Turn.detectedLink own frame).signal,
        Ranking.successor (Turn.detectedLink own frame).stations⟩ := by
  obtain ⟨hconsults, ranking, hranking, htakes⟩ :=
    (ranking_after_spurned_ne_iff hspurns index).mp hmoved
  rw [ranking_after_spurned hspurns, if_pos hconsults, hranking,
    Option.map_some, Ranking.judge_of_takes htakes]

end Spurned

theorem config_run (config : Config) (steps : List Step) :
    ((ofConfig config).run steps).system.station.config = config := by
  rw [system_run]
  exact System.config_run config _

end Session

namespace Sample

/-- A service access point is put in charge of a station that is about to search. -/
def served : List Session.Step :=
  [.install (.wifi ⟨"1"⟩), .perform (.setAddress own)]

end Sample

open Sample in
/-- The first link detected is always taken, even if it cannot be joined. -/
private theorem ranking_moved_by_spurned {config : Config}
    (hrequired : config.requiredSelectors ≠ []) :
    let session := (Session.ofConfig config).run served
    session.system.station.Spurns own beacon ∧
      (session.after (.perform (.receive beacon))).ranking? 0 ≠
        session.ranking? 0 := by
  intro session
  have hlacking : Turn.advertisesAny session.system.station.config
      beacon.body.rates = false := by
    rw [Session.config_run]
    exact Turn.advertisesAny_nil hrequired
  have hspurns : session.system.station.Spurns own beacon :=
    ⟨rfl, rfl, by decide, hlacking⟩
  refine ⟨hspurns, ?_⟩
  rw [Session.ranking_after_spurned_ne_iff hspurns]
  exact ⟨rfl, .untracked, rfl, by decide⟩

/-- In every run a beacon that lacks every selector required is dropped, and the station is left as
it was.  But the service access point that is asked about links is asked about this one, too, and
if it takes it, then it is this link that the next one has to beat.  So the rankings are left alone
in every run only if no selector is required at all. -/
theorem spurned_beacons_spare_rankings_iff (config : Config) :
    (∀ (steps : List Session.Step) own frame,
      let session := (Session.ofConfig config).run steps
      let later := session.after (.perform (.receive frame))
      let link := Turn.detectedLink own frame
      session.system.station.Spurns own frame →
        later.system = { session.system with
          station.counters.rxDrops :=
            session.system.station.counters.rxDrops + 1 } ∧
        ∀ index,
          (later.ranking? index ≠ session.ranking? index ↔
            session.consults index frame = true ∧
              ∃ ranking, session.ranking? index = some ranking ∧
                ranking.takes link = true) ∧
          (later.ranking? index ≠ session.ranking? index →
            later.ranking? index =
              some ⟨link.signal, Ranking.successor link.stations⟩)) ∧
    ((∀ (steps : List Session.Step) own frame index,
      let session := (Session.ofConfig config).run steps
      session.system.station.Spurns own frame →
        (session.after (.perform (.receive frame))).ranking? index =
          session.ranking? index) ↔
      config.requiredSelectors = []) := by
  constructor
  · intro steps own frame session later link hspurns
    exact ⟨Session.system_after_spurned hspurns, fun index =>
      ⟨Session.ranking_after_spurned_ne_iff hspurns index,
        Session.ranking_after_spurned_of_ne hspurns⟩⟩
  · constructor
    · intro hspared
      refine Decidable.byContradiction fun hrequired => ?_
      obtain ⟨hspurns, hmoved⟩ := ranking_moved_by_spurned hrequired
      exact hmoved (hspared _ _ _ 0 hspurns)
    · intro hnone steps own frame index session hspurns
      have hrequired := hspurns.requiredSelectors_ne
      rw [Session.config_run] at hrequired
      exact absurd hnone hrequired

open Sample in
theorem spurned_beacons_spare_rankings_sample :
    let session := (Session.ofConfig { requiredSelectors := [127] }).run served
    let later := session.after (.perform (.receive beacon))
    session.system.station.Spurns own beacon ∧
      later.system.station.counters.rxDrops = 1 ∧
      later.ranking? 0 = some ⟨0, 1⟩ := by
  intro session later
  have hspurns : session.system.station.Spurns own beacon :=
    ⟨rfl, rfl, by decide, by decide⟩
  obtain ⟨hsystem, hrankings⟩ :=
    (spurned_beacons_spare_rankings_iff _).1 served own beacon hspurns
  obtain ⟨hmoves, hrecord⟩ := hrankings 0
  refine ⟨hspurns, by rw [hsystem]; rfl, hrecord (hmoves.mpr ?_)⟩
  exact ⟨rfl, .untracked, rfl, by decide⟩

namespace Sample

def strength (frame : Frame) (signal : Float) : Frame :=
  { frame with measurements := [.signal signal] }

end Sample

open Sample in
/-- A network that could be joined is turned down for a louder one that could not. -/
theorem spurned_beacon_raises_bar_sample :
    let config : Config := { requiredSelectors := [127] }
    let session := (Session.ofConfig config).run served
    let loud := strength beacon (Float.ofBits 0xc03e000000000000)
    let faint := { strength beacon (Float.ofBits 0xc044000000000000) with
      body.rates := [Rate.ofUnits 127 true] }
    let later := session.after (.perform (.receive loud))
    later.system.station.counters.rxDrops = 1 ∧
      later.ranking? 0 ≠ session.ranking? 0 ∧
      session.decision ⟨"1"⟩ (Turn.detectedLink own faint) = true ∧
      later.decision ⟨"1"⟩ (Turn.detectedLink own faint) = false := by
  decide

end Roaming

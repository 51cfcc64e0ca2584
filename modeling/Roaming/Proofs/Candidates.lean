import Mathlib.Data.List.Chain
import Mathlib.Data.List.DropRight
import Roaming.Proofs.Ranking

namespace Roaming

/-! The candidates that the service access point of a radio takes, of all those that it is asked
about.  Whenever the link goes down, or is lost, it starts over. -/

namespace Sap

/-- What a service access point is told about links. -/
inductive Call
  | detected (source : MihfId) (link : DetectedLink)
  | up (up : LinkUp)
  | down (down : LinkDown)
  | lost

def tell (sap : Sap) : Call → Sap
  | .detected source link => (sap.detect source link).2
  | .up up => sap.linkUp up
  | .down down => sap.linkDown down
  | .lost => sap.linkLost

structure Exchange where
  before : Sap
  call : Call

namespace Exchange

/-- The candidate that is taken. -/
def taken? (exchange : Exchange) : Option DetectedLink :=
  match exchange.call with
  | .detected source link =>
      if (exchange.before.detect source link).1 then some link else none
  | .up _ | .down _ | .lost => none

def restarts (exchange : Exchange) : Bool :=
  match exchange.call with
  | .down _ | .lost => true
  | .detected _ _ | .up _ => false

/-- The candidates taken in one go, once there is this exchange after them. -/
def extend (exchange : Exchange) (taken : List DetectedLink) :
    List DetectedLink :=
  if exchange.restarts then [] else taken ++ exchange.taken?.toList

/-- The event that is published. -/
def event? (exchange : Exchange) : Option LinkEvent :=
  match exchange.call with
  | .detected source link =>
      some (.detected source link (exchange.before.detect source link).1)
  | .up up => some (.up up)
  | .down down => some (.down down)
  | .lost => none

end Exchange

def run (sap : Sap) (calls : List Call) : Sap :=
  calls.foldl tell sap

def history (sap : Sap) : List Call → List Exchange
  | [] => []
  | call :: calls => ⟨sap, call⟩ :: (sap.tell call).history calls

theorem run_concat (sap : Sap) (calls : List Call) (call : Call) :
    sap.run (calls ++ [call]) = (sap.run calls).tell call :=
  List.foldl_append

theorem history_concat (sap : Sap) (calls : List Call) (call : Call) :
    sap.history (calls ++ [call]) =
      sap.history calls ++ [⟨sap.run calls, call⟩] := by
  induction calls generalizing sap with
  | nil => rfl
  | cons first calls ih => exact congrArg (List.cons _) (ih (sap.tell first))

/-- The candidates taken since the ranking has last started over. -/
def taken (history : List Exchange) : List DetectedLink :=
  (history.rtakeWhile fun exchange =>
    !exchange.restarts).filterMap Exchange.taken?

private theorem taken_concat (history : List Exchange) (exchange : Exchange) :
    taken (history ++ [exchange]) = exchange.extend (taken history) := by
  unfold taken Exchange.extend
  rw [List.rtakeWhile_concat]
  cases exchange.restarts with
  | true => rfl
  | false =>
      simp only [Bool.not_false, if_true, List.filterMap_append]
      cases htaken : exchange.taken? <;> simp [htaken]

end Sap

namespace Ranking

/-- The ranking that goes by the last of these candidates. -/
def after (taken : List DetectedLink) : Ranking :=
  taken.getLast?.elim .untracked fun last =>
    ⟨last.signal, successor last.stations⟩

/-- A ranking goes by the last of these candidates, whose signal the next one has to beat, with no
more stations than one above that one's count, or above what can be counted. -/
structure Records (ranking : Ranking) (taken : List DetectedLink) : Prop where
  best : ranking.best =
    taken.getLast?.elim lowestSignal fun last => last.signal
  limit : ranking.limit.toNat =
    taken.getLast?.elim 4294967295 fun last =>
      min (last.stations.toNat + 1) 4294967295

private theorem records_after (taken : List DetectedLink) :
    (after taken).Records taken := by
  cases hlast : taken.getLast? with
  | none => constructor <;> rw [after, hlast] <;> rfl
  | some last =>
      constructor
      · rw [after, hlast]
        rfl
      · rw [after, hlast]
        exact toNat_successor last.stations

/-- What a ranking comes to by what the service access point is told. -/
def heed (ranking : Ranking) : Sap.Call → Ranking
  | .detected _ link => ranking.judge link
  | .up _ => ranking
  | .down _ | .lost => .untracked

private theorem accept_eq (ranking : Ranking) (link : DetectedLink) :
    ranking.accept link.signal link.stations =
      (ranking.takes link, ranking.judge link) := by
  unfold takes judge accept
  split
  · next himproves => rw [himproves]
  · next hrejected => rw [Bool.eq_false_of_not_eq_true hrejected]

/-- Candidates each of which beats all those before it, and serves at most one station more than the
one right before it. -/
structure Ascent (taken : List DetectedLink) : Prop where
  signals : taken.Pairwise fun former later => former.signal < later.signal
  stations : taken.IsChain fun former later =>
    later.stations.toNat ≤ min (former.stations.toNat + 1) 4294967295
  numbers : ∀ link ∈ taken,
    link.signal.isNaN = false ∧ link.signal ≠ lowestSignal

private theorem ascent_nil : Ascent [] :=
  ⟨.nil, .nil, by simp⟩

variable {taken : List DetectedLink} {link : DetectedLink}

theorem takes_iff {ranking : Ranking} : ranking.takes link = true ↔
    ranking.best < link.signal ∧ link.stations ≤ ranking.limit := by
  simp [takes, improves]

private theorem Ascent.concat (hascent : Ascent taken)
    (htakes : (after taken).takes link = true) : Ascent (taken ++ [link]) := by
  obtain ⟨hbest, hlimit⟩ := takes_iff.mp htakes
  have hnumber : link.signal.isNaN = false ∧ link.signal ≠ lowestSignal := by
    refine ⟨isNaN_of_lt hbest, fun hlowest => ?_⟩
    rw [hlowest] at hbest
    exact not_lt_lowestSignal hbest
  refine ⟨?_, ?_, ?_⟩
  · refine List.pairwise_append.mpr
      ⟨hascent.signals, List.pairwise_singleton .., ?_⟩
    intro former hformer later hlater
    rw [List.mem_singleton.mp hlater]
    -- A former one is the last before the link, or one that this last one beats.
    cases taken using List.reverseRecOn with
    | nil => cases hformer
    | append_singleton earlier last =>
        rw [after, List.getLast?_concat] at hbest
        rcases List.mem_append.mp hformer with hearlier | hlast
        · exact lt_trans ((List.pairwise_append.mp hascent.signals).2.2 former
            hearlier last (List.mem_singleton_self _)) hbest
        · rw [List.mem_singleton.mp hlast]
          exact hbest
  · refine hascent.stations.append (.singleton _) ?_
    intro last hlast later hlater
    obtain rfl := Option.some.inj hlater
    rw [after, Option.mem_def.mp hlast] at hlimit
    have hstations : link.stations.toNat ≤ (successor last.stations).toNat :=
      hlimit
    rwa [toNat_successor] at hstations
  · intro member hmember
    rcases List.mem_append.mp hmember with hmember | hlast
    · exact hascent.numbers member hmember
    · rw [List.mem_singleton.mp hlast]
      exact hnumber

end Ranking

namespace Sap

/-- A service access point of a radio, with somebody to take its events. -/
structure Ranks (sap : Sap) (ranking : Ranking) : Prop where
  medium : sap.medium = .wifi ranking
  heard : sap.heard = true

section Ranks

variable {sap : Sap} {ranking : Ranking} (hranks : sap.Ranks ranking)

include hranks

private theorem Ranks.ranking_eq : sap.ranking? = some ranking := by
  simp [ranking?, hranks.medium]

private theorem Ranks.publish (event : LinkEvent) :
    (sap.publish event).Ranks ranking ∧
      (sap.publish event).outbox = sap.outbox ++ [event] := by
  rw [Sap.publish, if_pos hranks.heard]
  exact ⟨⟨hranks.medium, hranks.heard⟩, rfl⟩

private theorem Ranks.detect (source : MihfId) (link : DetectedLink) :
    sap.detect source link = (ranking.takes link,
      { sap with medium := .wifi (ranking.judge link) }.publish
        (.detected source link (ranking.takes link))) := by
  simp only [Sap.detect, hranks.medium, Ranking.accept_eq]

private theorem Ranks.tell (call : Call) :
    (sap.tell call).Ranks (ranking.heed call) ∧
      (sap.tell call).outbox =
        sap.outbox ++ (Exchange.event? ⟨sap, call⟩).toList := by
  have hmedium := hranks.medium
  have hheard := hranks.heard
  cases call with
  | detected source link =>
      have hjudged : Ranks { sap with medium := .wifi (ranking.judge link) }
          (ranking.judge link) := ⟨rfl, hheard⟩
      simp only [Sap.tell, Exchange.event?, hranks.detect]
      exact hjudged.publish _
  | up up =>
      have hlinked : Ranks { sap with
          link := { up.link with attachment := up.newRouter }
          medium := .wifi ranking } ranking := ⟨rfl, hheard⟩
      simp only [Sap.tell, linkUp, hmedium]
      exact hlinked.publish _
  | down down =>
      have hreset : Ranks { sap.withAttachment .null with
          medium := .wifi .untracked } .untracked := ⟨rfl, hheard⟩
      simp only [Sap.tell, linkDown, resetRanking, withAttachment, hmedium]
      exact hreset.publish _
  | lost =>
      simp only [Sap.tell, linkLost, resetRanking, hmedium]
      exact ⟨⟨rfl, hheard⟩, (List.append_nil _).symm⟩

end Ranks

private theorem Ranks.extend {sap : Sap} {taken : List DetectedLink}
    (hranks : sap.Ranks (.after taken)) (hascent : Ranking.Ascent taken)
    (call : Call) :
    (Ranking.after taken).heed call =
        .after (Exchange.extend ⟨sap, call⟩ taken) ∧
      Ranking.Ascent (Exchange.extend ⟨sap, call⟩ taken) := by
  cases call with
  | detected source link =>
      simp only [Exchange.extend, Exchange.restarts, Exchange.taken?,
        hranks.detect, Ranking.heed, Bool.false_eq_true, if_false]
      cases htakes : (Ranking.after taken).takes link with
      | false =>
          simp only [Bool.false_eq_true, if_false, Option.toList_none,
            List.append_nil]
          exact ⟨Ranking.judge_of_not_takes htakes, hascent⟩
      | true =>
          simp only [if_true, Option.toList_some]
          refine ⟨?_, hascent.concat htakes⟩
          rw [Ranking.judge_of_takes htakes, Ranking.after,
            List.getLast?_concat]
          rfl
  | up up =>
      have hsame : Exchange.extend ⟨sap, .up up⟩ taken = taken :=
        List.append_nil taken
      rw [hsame]
      exact ⟨rfl, hascent⟩
  | down | lost => exact ⟨rfl, Ranking.ascent_nil⟩

/-- A service access point ranks by the candidates that it has taken itself. -/
theorem ranks_run (owner : MihfId) (calls : List Call) :
    let sap := (wifi owner).run calls
    let history := (wifi owner).history calls
    sap.Ranks (.after (taken history)) ∧
      sap.outbox = history.filterMap Exchange.event? ∧
      Ranking.Ascent (taken history) := by
  induction calls using List.reverseRecOn with
  | nil => exact ⟨⟨rfl, rfl⟩, rfl, Ranking.ascent_nil⟩
  | append_singleton calls call ih =>
      obtain ⟨hranks, houtbox, hascent⟩ := ih
      obtain ⟨hlater, hevent⟩ := hranks.tell call
      obtain ⟨hheed, hextended⟩ := hranks.extend hascent call
      simp only [run_concat, history_concat, taken_concat]
      refine ⟨hheed ▸ hlater, ?_, hextended⟩
      rw [hevent, houtbox, List.filterMap_append]
      cases hpublished : Exchange.event? ⟨(wifi owner).run calls, call⟩ <;>
        simp [hpublished]

end Sap

/-- Whatever a service access point is told about links, it takes a candidate exactly if its signal
is stronger than the best taken since it last started over, and its stations are no more than one
above those of that one, up to the highest count; the first is taken if its signal is a number above
the lowest.  It publishes one event for each candidate, with its answer.  Only a candidate that is
taken changes the ranking, until the link goes down or is lost and it starts over.  So those taken
in one go have ever stronger signals. -/
theorem candidates_ascend (owner : MihfId) (calls : List Sap.Call) :
    let sap := (Sap.wifi owner).run calls
    let history := (Sap.wifi owner).history calls
    ∃ ranking, sap.ranking? = some ranking ∧
    ranking.Records (Sap.taken history) ∧
    sap.outbox = history.filterMap Sap.Exchange.event? ∧
    (∀ source link,
      let accepted := decide (ranking.best < link.signal) &&
        decide (link.stations ≤ ranking.limit)
      (sap.detect source link).1 = accepted ∧
      (sap.detect source link).2.outbox =
        sap.outbox ++ [.detected source link accepted] ∧
      ∃ later, (sap.detect source link).2.ranking? = some later ∧
        (accepted = true → later.best = link.signal ∧
          later.limit.toNat = min (link.stations.toNat + 1) 4294967295) ∧
        (accepted = false → later = ranking)) ∧
    (∀ up, (sap.linkUp up).ranking? = some ranking) ∧
    (∀ down, (sap.linkDown down).ranking? = some .untracked) ∧
    sap.linkLost.ranking? = some .untracked ∧
    Ranking.Ascent (Sap.taken history) := by
  intro sap history
  obtain ⟨hranks, houtbox, hascent⟩ := Sap.ranks_run owner calls
  have htells (call : Sap.Call) :
      (sap.tell call).ranking? =
        some ((Ranking.after (Sap.taken history)).heed call) :=
    (hranks.tell call).1.ranking_eq
  refine ⟨.after (Sap.taken history), hranks.ranking_eq,
    Ranking.records_after _, houtbox, fun source link =>
      ⟨?_, ?_, _, htells (.detected source link), ?_, ?_⟩,
    fun up => htells (.up up), fun down => htells (.down down), htells .lost,
    hascent⟩
  · rw [hranks.detect]
    rfl
  · have hevent := (hranks.tell (.detected source link)).2
    simp only [Sap.Exchange.event?, hranks.detect] at hevent
    exact hevent
  · intro haccepted
    rw [Ranking.heed, Ranking.judge_of_takes haccepted]
    exact ⟨rfl, Ranking.toNat_successor link.stations⟩
  · exact Ranking.judge_of_not_takes

namespace Sample

def candidate (bits : UInt64) (stations : UInt32) : DetectedLink where
  link := ⟨.wifi, .null, .null⟩
  network := ""
  signal := Float.ofBits bits
  snr := 0
  rates := []
  features := .empty
  stations := stations

/-- At -60 dBm. -/
def quiet : DetectedLink := candidate 0xc04e000000000000 4

/-- At -50 dBm. -/
def louder (stations : UInt32) : DetectedLink :=
  candidate 0xc049000000000000 stations

end Sample

open Sample in
theorem candidates_ascend_sample :
    let fresh := (Sap.wifi ⟨"1"⟩).run []
    let sap := (Sap.wifi ⟨"1"⟩).run [.detected ⟨"2"⟩ quiet]
    (∃ ranking, sap.ranking? = some ranking ∧ ranking.best = quiet.signal ∧
      ranking.limit.toNat = 5) ∧
    (sap.detect ⟨"2"⟩ (louder 5)).1 = true ∧
    (sap.detect ⟨"2"⟩ (louder 6)).1 = false ∧
    (fresh.detect ⟨"2"⟩ (louder 4294967295)).1 = true ∧
    ∃ ranking,
      (fresh.detect ⟨"2"⟩ (louder 4294967295)).2.ranking? = some ranking ∧
        ranking.limit.toNat = 4294967295 := by
  intro fresh sap
  obtain ⟨ranking, hranking, hrecords, _, hjudged, _⟩ :=
    candidates_ascend ⟨"1"⟩ [.detected ⟨"2"⟩ quiet]
  obtain ⟨initial, hinitial, _, _, hfresh, _⟩ := candidates_ascend ⟨"1"⟩ []
  obtain rfl : initial = .untracked := Option.some.inj hinitial.symm
  obtain rfl : ranking = ⟨quiet.signal, 5⟩ := Option.some.inj hranking.symm
  obtain ⟨haccepted, _, later, hlater, hcrowded, _⟩ :=
    hfresh ⟨"2"⟩ (louder 4294967295)
  refine ⟨⟨_, hranking, hrecords.best, hrecords.limit⟩, ?_, ?_, ?_, later,
    hlater, (hcrowded (by decide)).2⟩
  · exact (hjudged ⟨"2"⟩ (louder 5)).1.trans (by decide)
  · exact (hjudged ⟨"2"⟩ (louder 6)).1.trans (by decide)
  · exact haccepted.trans (by decide)

end Roaming

import Mathlib.Data.List.Nodup
import Roaming.Proofs.ClockEvents

namespace Roaming

/-! The clock as a queue of events, held against a ledger of all that has been asked of it. -/

namespace Time

variable {first second third : Time}

theorem le_max_left (first second : Time) : first ≤ max first second := by
  rw [le_def, nanos_max]
  exact Nat.le_max_left ..

private theorem le_max_right (first second : Time) : second ≤ max first second := by
  rw [le_def, nanos_max]
  exact Nat.le_max_right ..

theorem max_le (hfirst : first ≤ third) (hsecond : second ≤ third) :
    max first second ≤ third := by
  rw [le_def, nanos_max]
  exact Nat.max_le.mpr ⟨hfirst, hsecond⟩

theorem max_eq_right (hle : first ≤ second) : max first second = second := by
  apply ext
  rw [nanos_max]
  exact Nat.max_eq_right hle

end Time

namespace Clock

/-- What can be done with a clock, by whoever has a hand on it. -/
inductive Step
  | schedule (deadline : Time)
  | cancel (id : EventId)
  | advanceUntil (bound : Time)
  | advanceBy (delay : Duration)
  | advanceToNext

structure Tick where
  before : Clock
  step : Step

namespace Tick

def after (tick : Tick) : Clock :=
  match tick.step with
  | .schedule deadline => (tick.before.schedule deadline).2
  | .cancel id => tick.before.cancel id
  | .advanceUntil bound => (tick.before.advanceUntil bound).2
  | .advanceBy delay => (tick.before.advanceBy delay).2
  | .advanceToNext => tick.before.advanceToNext.2

def released? (tick : Tick) : Option EventId :=
  match tick.step with
  | .schedule _ => none
  | .cancel _ => none
  | .advanceUntil bound => (tick.before.advanceUntil bound).1
  | .advanceBy delay => (tick.before.advanceBy delay).1
  | .advanceToNext => tick.before.advanceToNext.1

end Tick

def run (clock : Clock) (steps : List Step) : Clock :=
  steps.foldl (fun clock step => Tick.after ⟨clock, step⟩) clock

def history (clock : Clock) : List Step → List Tick
  | [] => []
  | step :: steps => ⟨clock, step⟩ :: (Tick.after ⟨clock, step⟩).history steps

private theorem history_split {clock : Clock} {steps : List Step}
    {earlier later : List Tick} {tick : Tick}
    (h : clock.history steps = earlier ++ tick :: later) :
    ∃ before, earlier = clock.history before ∧
      tick.before = clock.run before := by
  induction steps generalizing clock earlier with
  | nil => exact absurd h (by simp [history])
  | cons step steps ih =>
      cases earlier with
      | nil =>
          obtain ⟨rfl, _⟩ := List.cons.inj h
          exact ⟨[], rfl, rfl⟩
      | cons first earlier =>
          obtain ⟨rfl, hrest⟩ := List.cons.inj h
          obtain ⟨before, rfl, hbefore⟩ := ih hrest
          exact ⟨step :: before, rfl, hbefore⟩

/-- What has become of the events of a clock. -/
structure Ledger where
  /-- With the deadlines in effect, which have not passed when the event is scheduled. -/
  scheduled : List (Time × EventId) := []
  released : List EventId := []
  /-- Only those that had not been released. -/
  cancelled : List EventId := []

namespace Ledger

def settled (ledger : Ledger) : List EventId :=
  ledger.released ++ ledger.cancelled

/-- Events neither released nor cancelled, in the order of scheduling. -/
def outstanding (ledger : Ledger) : List (Time × EventId) :=
  ledger.scheduled.filter fun event => event.2 ∉ ledger.settled

def enter (ledger : Ledger) (event : Time × EventId) : Ledger :=
  { ledger with scheduled := ledger.scheduled ++ [event] }

def release (ledger : Ledger) (id? : Option EventId) : Ledger :=
  { ledger with released := ledger.released ++ id?.toList }

def cancel (ledger : Ledger) (id : EventId) : Ledger :=
  if id ∈ ledger.outstanding.map Prod.snd then
    { ledger with cancelled := ledger.cancelled ++ [id] }
  else ledger

def note (ledger : Ledger) (tick : Tick) : Ledger :=
  match tick.step with
  | .schedule deadline => ledger.enter
      (max deadline tick.before.now, (tick.before.schedule deadline).1)
  | .cancel id => ledger.cancel id
  | .advanceUntil _ => ledger.release tick.released?
  | .advanceBy _ => ledger.release tick.released?
  | .advanceToNext => ledger.release tick.released?

def ofHistory (history : List Tick) : Ledger :=
  history.foldl note {}

variable {ledger : Ledger} {id : EventId}

private theorem ofHistory_append (history later : List Tick) :
    ofHistory (history ++ later) = later.foldl note (ofHistory history) :=
  List.foldl_append

private theorem mem_outstanding {event : Time × EventId} :
    event ∈ ledger.outstanding ↔
      event ∈ ledger.scheduled ∧ event.2 ∉ ledger.settled := by
  simp [outstanding]

private theorem mem_settled_note (hsettled : id ∈ ledger.settled) (tick : Tick) :
    id ∈ (ledger.note tick).settled := by
  have hstill (released cancelled : List EventId) :
      id ∈ (ledger.released ++ released) ++ (ledger.cancelled ++ cancelled) := by
    rcases List.mem_append.mp hsettled with hreleased | hcancelled
    · simp [hreleased]
    · simp [hcancelled]
  obtain ⟨before, step⟩ := tick
  cases step with
  | schedule => exact hsettled
  | cancel other =>
      simp only [note, cancel]
      split
      · simpa [settled] using hstill [] [other]
      · exact hsettled
  | advanceUntil | advanceBy | advanceToNext =>
      simpa [note, release, settled] using hstill (Option.toList _) []

private theorem mem_settled_foldl (hsettled : id ∈ ledger.settled)
    (ticks : List Tick) : id ∈ (ticks.foldl note ledger).settled := by
  induction ticks generalizing ledger with
  | nil => exact hsettled
  | cons tick ticks ih => exact ih (mem_settled_note hsettled tick)

private theorem mem_settled_of_released {tick : Tick}
    (hreleased : tick.released? = some id) :
    id ∈ (ledger.note tick).settled := by
  obtain ⟨before, step⟩ := tick
  cases step with
  | schedule | cancel => cases hreleased
  | advanceUntil | advanceBy | advanceToNext =>
      simp [note, release, settled, hreleased]

private theorem mem_settled_of_cancel {tick : Tick} (hstep : tick.step = .cancel id)
    (hscheduled : id ∈ ledger.scheduled.map Prod.snd) :
    id ∈ (ledger.note tick).settled := by
  obtain ⟨event, hevent, rfl⟩ := List.mem_map.mp hscheduled
  simp only [note, hstep, cancel]
  split
  · simp [settled]
  · next hout =>
      -- What has been scheduled and is not outstanding has been settled already.
      refine Classical.byContradiction fun hopen => hout ?_
      exact List.mem_map.mpr
        ⟨event, mem_outstanding.mpr ⟨hevent, hopen⟩, rfl⟩

end Ledger

/-- No other event of a list has an earlier deadline, or the same one and an earlier place. -/
def Foremost (event : Time × EventId) (events : List (Time × EventId)) :
    Prop :=
  ∃ before after, events = before ++ event :: after ∧
    (∀ other ∈ before, event.1 < other.1) ∧
    ∀ other ∈ after, event.1 ≤ other.1

private theorem lt_of_precedes {first second : Time × EventId}
    (hprecedes : Agenda.Precedes first second)
    (hindex : second.2.index ≤ first.2.index) : first.1 < second.1 := by
  rcases hprecedes with hlt | ⟨_, hless⟩
  · exact hlt
  · exact absurd hindex (Nat.not_le_of_lt hless)

theorem advanceToNext_of_nil {clock : Clock} (hpending : clock.pending = []) :
    clock.advanceToNext = (none, clock) := by
  simp [advanceToNext, nextDeadline?, hpending]

theorem advanceToNext_of_cons {clock : Clock} {event : Time × EventId}
    {events : List (Time × EventId)}
    (hpending : clock.pending = event :: events) :
    clock.advanceToNext = clock.advanceUntil event.1 := by
  simp [advanceToNext, nextDeadline?, hpending]

theorem advanceToNext_of_first {clock : Clock} {event : Time × EventId}
    {events : List (Time × EventId)}
    (hpending : clock.pending = event :: events) :
    clock.advanceToNext =
      (some event.2, { clock.pop with now := max clock.now event.1 }) := by
  rw [advanceToNext_of_cons hpending, advanceUntil, hpending]
  exact if_pos (Nat.le_refl _)

private theorem now_advanceUntil (clock : Clock) (bound : Time) :
    clock.now ≤ (clock.advanceUntil bound).2.now := by
  rcases advanceUntil_cases clock bound with
    ⟨_, _, _, _, _, hadvanced⟩ | ⟨_, hadvanced⟩
  · rw [hadvanced]
    exact Time.le_max_left ..
  · rw [hadvanced]
    exact Time.le_max_left ..

private theorem Tick.now_after (tick : Tick) : tick.before.now ≤ tick.after.now := by
  obtain ⟨clock, step⟩ := tick
  cases step with
  | schedule | cancel => exact Nat.le_refl _
  | advanceUntil | advanceBy => exact now_advanceUntil clock _
  | advanceToNext =>
      cases hpending : clock.pending with
      | nil =>
          simp only [after, advanceToNext_of_nil hpending]
          exact Nat.le_refl _
      | cons event events =>
          simp only [after, advanceToNext_of_cons hpending]
          exact now_advanceUntil clock _

theorem now_run (clock : Clock) (steps : List Step) :
    clock.now ≤ (clock.run steps).now := by
  induction steps generalizing clock with
  | nil => exact Nat.le_refl _
  | cons step steps ih =>
      exact Nat.le_trans (Tick.now_after ⟨clock, step⟩) (ih _)

/-- A ledger agrees with the clock that it is kept of. -/
structure Tallies (ledger : Ledger) (clock : Clock) : Prop where
  inOrder : ledger.scheduled.Pairwise fun first second =>
    first.2.index < second.2.index
  issued : ∀ event ∈ ledger.scheduled, event.2.index ≤ clock.issued
  once : ledger.settled.Nodup
  known : ∀ id ∈ ledger.settled, id ∈ ledger.scheduled.map Prod.snd
  agrees : ∀ event, event ∈ clock.pending ↔ event ∈ ledger.outstanding
  ahead : ∀ event ∈ clock.pending, clock.now ≤ event.1

namespace Tallies

variable {ledger after : Ledger} {clock later : Clock} {id : EventId}

theorem start : Tallies {} start where
  inOrder := .nil
  issued := by simp
  once := .nil
  known := by simp [Ledger.settled]
  agrees := by simp [Clock.start, Agenda.empty, Ledger.outstanding]
  ahead := by simp [Clock.start, Agenda.empty]

private theorem distinct (htallies : Tallies ledger clock) :
    (ledger.scheduled.map Prod.snd).Nodup := by
  refine List.pairwise_map.mpr (htallies.inOrder.imp ?_)
  intro first second hlt hsame
  exact absurd (congrArg EventId.index hsame) (Nat.ne_of_lt hlt)

theorem schedule (htallies : Tallies ledger clock) (deadline : Time) :
    Tallies (ledger.enter (max deadline clock.now, ⟨clock.issued + 1⟩))
      (clock.schedule deadline).2 where
  inOrder := by
    refine List.pairwise_append.mpr
      ⟨htallies.inOrder, List.pairwise_singleton .., ?_⟩
    intro event hevent new hnew
    rw [List.mem_singleton.mp hnew]
    exact Nat.lt_succ_of_le (htallies.issued event hevent)
  issued event hevent := by
    rcases List.mem_append.mp hevent with hevent | hnew
    · exact Nat.le_succ_of_le (htallies.issued event hevent)
    · rw [List.mem_singleton.mp hnew]
      exact Nat.le_refl _
  once := htallies.once
  known other hother := by
    have hbefore := htallies.known other hother
    simp only [Ledger.enter, List.map_append]
    exact List.mem_append_left _ hbefore
  agrees event := by
    -- What has been settled had been scheduled, so the new event is not among it.
    have hnew : ⟨clock.issued + 1⟩ ∉ ledger.settled := by
      intro hsettled
      obtain ⟨former, hformer, hid⟩ :=
        List.mem_map.mp (htallies.known _ hsettled)
      have hissued := htallies.issued former hformer
      rw [hid] at hissued
      exact Nat.not_succ_le_self _ hissued
    have hsettled : (ledger.enter (max deadline clock.now,
        ⟨clock.issued + 1⟩)).settled = ledger.settled := rfl
    rw [pending_schedule, Agenda.mem_enqueue, htallies.agrees,
      Ledger.mem_outstanding, Ledger.mem_outstanding, hsettled, Ledger.enter,
      List.mem_append, List.mem_singleton]
    constructor
    · rintro (rfl | ⟨hevent, hopen⟩)
      · exact ⟨.inr rfl, hnew⟩
      · exact ⟨.inl hevent, hopen⟩
    · rintro ⟨hevent | rfl, hopen⟩
      · exact .inr ⟨hevent, hopen⟩
      · exact .inl rfl
  ahead event hevent := by
    rcases Agenda.mem_enqueue.mp hevent with rfl | hevent
    · exact Time.le_max_right deadline clock.now
    · exact htallies.ahead event hevent

/-- An event that is outstanding is settled, by its release or by being cancelled. -/
private theorem settle (htallies : Tallies ledger clock)
    (hid : id ∈ ledger.outstanding.map Prod.snd)
    (hscheduled : after.scheduled = ledger.scheduled)
    (hsettled : after.settled.Perm (id :: ledger.settled))
    (hloses : clock.Loses id later)
    (hahead : ∀ event ∈ later.pending, later.now ≤ event.1) :
    Tallies after later := by
  obtain ⟨event, hevent, rfl⟩ := List.mem_map.mp hid
  obtain ⟨hentered, hopen⟩ := Ledger.mem_outstanding.mp hevent
  refine ⟨hscheduled ▸ htallies.inOrder, ?_, ?_, ?_, ?_, hahead⟩
  · rw [hscheduled, hloses.issued]
    exact htallies.issued
  · exact hsettled.nodup_iff.mpr (List.nodup_cons.mpr ⟨hopen, htallies.once⟩)
  · intro other hother
    rw [hscheduled]
    rcases List.mem_cons.mp (hsettled.mem_iff.mp hother) with rfl | hother
    · exact List.mem_map.mpr ⟨event, hentered, rfl⟩
    · exact htallies.known other hother
  · intro other
    rw [hloses.mem, htallies.agrees, Ledger.mem_outstanding,
      Ledger.mem_outstanding, hscheduled, hsettled.mem_iff, List.mem_cons,
      not_or, and_assoc, and_comm (a := other.2 ∉ ledger.settled)]

private theorem rest (htallies : Tallies ledger clock) {now : Time}
    (hahead : ∀ event ∈ clock.pending, now ≤ event.1) :
    Tallies ledger { clock with now := now } :=
  { htallies with ahead := hahead }

theorem cancel (htallies : Tallies ledger clock) (id : EventId) :
    Tallies (ledger.cancel id) (clock.cancel id) := by
  have hloses := loses_cancel clock id
  unfold Ledger.cancel
  split
  · next hid =>
      refine htallies.settle hid rfl ?_ hloses fun event hevent =>
        htallies.ahead event (hloses.sublist.mem hevent)
      simp only [Ledger.settled, ← List.append_assoc]
      exact List.perm_append_singleton ..
  · next hid =>
      have hpending : (clock.cancel id).pending = clock.pending := by
        rw [pending_cancel]
        refine List.filter_eq_self.mpr fun event hevent => ?_
        refine decide_eq_true fun hsame => hid ?_
        exact List.mem_map.mpr
          ⟨event, (htallies.agrees event).mp hevent, hsame⟩
      exact { htallies with
        agrees := fun event => hpending ▸ htallies.agrees event
        ahead := fun event hevent => htallies.ahead event (hpending ▸ hevent) }

private theorem mem_of_head (htallies : Tallies ledger clock)
    {event : Time × EventId} {events : List (Time × EventId)}
    (hpending : clock.pending = event :: events) :
    event ∈ ledger.outstanding := by
  refine (htallies.agrees event).mp ?_
  rw [hpending]
  exact List.mem_cons_self ..

theorem now_head (htallies : Tallies ledger clock)
    {event : Time × EventId} {events : List (Time × EventId)}
    (hpending : clock.pending = event :: events) :
    max clock.now event.1 = event.1 := by
  refine Time.max_eq_right (htallies.ahead event ?_)
  rw [hpending]
  exact List.mem_cons_self ..

theorem advance (htallies : Tallies ledger clock) (bound : Time) :
    Tallies (ledger.release (clock.advanceUntil bound).1)
      (clock.advanceUntil bound).2 := by
  rcases advanceUntil_cases clock bound with
    ⟨deadline, id, events, hpending, hdue, hadvanced⟩ | ⟨hlater, hadvanced⟩
  · have hreleased : (clock.advanceUntil bound).1 = some id := by
      rw [hadvanced]
    have hloses := loses_released hreleased
    refine htallies.settle
      (List.mem_map.mpr ⟨_, htallies.mem_of_head hpending, rfl⟩)
      rfl ?_ hloses ?_
    · rw [hadvanced]
      simp only [Ledger.settled, Ledger.release, Option.toList_some,
        List.append_assoc, List.singleton_append]
      exact List.perm_middle
    · rw [hadvanced, htallies.now_head hpending]
      exact fun event hevent => head_le hpending (hloses.sublist.mem (by
        rwa [hadvanced]))
  · rw [hadvanced]
    have hsame : ledger.release none = ledger := by simp [Ledger.release]
    rw [hsame]
    exact htallies.rest fun event hevent => Time.max_le
      (htallies.ahead event hevent) (Nat.le_of_lt (hlater event hevent))

private theorem note (htallies : Tallies ledger clock) (step : Step) :
    Tallies (ledger.note ⟨clock, step⟩) (Tick.after ⟨clock, step⟩) := by
  cases step with
  | schedule deadline => exact htallies.schedule deadline
  | cancel id => exact htallies.cancel id
  | advanceUntil bound => exact htallies.advance bound
  | advanceBy delay => exact htallies.advance (clock.now.after delay)
  | advanceToNext =>
      simp only [Ledger.note, Tick.released?, Tick.after]
      cases hpending : clock.pending with
      | nil =>
          rw [advanceToNext_of_nil hpending]
          simpa [Ledger.release] using htallies
      | cons event events =>
          rw [advanceToNext_of_cons hpending]
          exact htallies.advance event.1

private theorem foldl (htallies : Tallies ledger clock) (steps : List Step) :
    Tallies ((clock.history steps).foldl Ledger.note ledger)
      (clock.run steps) := by
  induction steps generalizing ledger clock with
  | nil => exact htallies
  | cons step steps ih => exact ih (htallies.note step)

private theorem isSome_advanceUntil (htallies : Tallies ledger clock) (bound : Time) :
    (clock.advanceUntil bound).1.isSome = true ↔
      ∃ event ∈ ledger.outstanding, event.1 ≤ bound := by
  rcases advanceUntil_cases clock bound with
    ⟨deadline, id, events, hpending, hdue, hadvanced⟩ | ⟨hlater, hadvanced⟩
  · rw [hadvanced]
    exact iff_of_true rfl ⟨_, htallies.mem_of_head hpending, hdue⟩
  · rw [hadvanced]
    refine iff_of_false Bool.false_ne_true ?_
    rintro ⟨event, hevent, hdue⟩
    exact Nat.not_le_of_lt (hlater event ((htallies.agrees event).mpr hevent))
      hdue

/-- The order of the queue is that of the deadlines, and among equal ones that of scheduling. -/
private theorem foremost (htallies : Tallies ledger clock)
    {event : Time × EventId} {events : List (Time × EventId)}
    (hpending : clock.pending = event :: events) :
    Foremost event ledger.outstanding := by
  obtain ⟨before, after, hsplit⟩ :=
    List.append_of_mem (htallies.mem_of_head hpending)
  have hinOrder : ledger.outstanding.Pairwise fun first second =>
      first.2.index < second.2.index :=
    htallies.inOrder.sublist List.filter_sublist
  rw [hsplit] at hinOrder
  refine ⟨before, after, hsplit, fun other hother => ?_, fun other hother => ?_⟩
  · have hindex : other.2.index < event.2.index :=
      (List.pairwise_append.mp hinOrder).2.2 other hother event
        (List.mem_cons_self ..)
    have hmem := (htallies.agrees other).mpr (by simp [hsplit, hother])
    have hsorted := clock.mirrored.sorted
    rw [hpending] at hmem hsorted
    rcases List.mem_cons.mp hmem with rfl | hmem
    · exact absurd hindex (Nat.lt_irrefl _)
    · exact lt_of_precedes ((List.pairwise_cons.mp hsorted).1 other hmem)
        (Nat.le_of_lt hindex)
  · exact head_le hpending
      ((htallies.agrees other).mpr (by simp [hsplit, hother]))

private theorem advanceUntil_some (htallies : Tallies ledger clock) {bound : Time}
    (hreleased : (clock.advanceUntil bound).1 = some id) :
    ∃ deadline, Foremost (deadline, id) ledger.outstanding ∧
      (clock.advanceUntil bound).2.now = deadline := by
  obtain ⟨deadline, events, hpending, _, hlater⟩ :=
    advanceUntil_of_some hreleased
  rw [hlater]
  exact ⟨deadline, htallies.foremost hpending, htallies.now_head hpending⟩

private theorem pending_perm (htallies : Tallies ledger clock) :
    clock.pending.Perm ledger.outstanding := by
  refine (List.perm_ext_iff_of_nodup clock.mirrored.nodup ?_).mpr
    htallies.agrees
  exact (List.Nodup.of_map _ htallies.distinct).filter _

private theorem scheduled_perm (htallies : Tallies ledger clock) :
    (ledger.scheduled.map Prod.snd).Perm
      (ledger.released ++ ledger.cancelled ++ clock.pending.map Prod.snd) := by
  refine (List.perm_ext_iff_of_nodup htallies.distinct ?_).mpr fun id => ?_
  · refine List.nodup_append.mpr
      ⟨htallies.once, clock.mirrored.distinct, ?_⟩
    rintro id hid other hother rfl
    obtain ⟨event, hevent, rfl⟩ := List.mem_map.mp hother
    exact (Ledger.mem_outstanding.mp
      ((htallies.agrees event).mp hevent)).2 hid
  · rw [List.mem_append]
    constructor
    · intro hid
      refine Classical.or_iff_not_imp_left.mpr fun hopen => ?_
      obtain ⟨event, hevent, rfl⟩ := List.mem_map.mp hid
      exact List.mem_map.mpr ⟨event, (htallies.agrees event).mpr
        (Ledger.mem_outstanding.mpr ⟨hevent, hopen⟩), rfl⟩
    · rintro (hid | hid)
      · exact htallies.known id hid
      · obtain ⟨event, hevent, rfl⟩ := List.mem_map.mp hid
        exact List.mem_map.mpr ⟨event, (Ledger.mem_outstanding.mp
          ((htallies.agrees event).mp hevent)).1, rfl⟩

end Tallies

theorem tallies_run (steps : List Step) :
    Tallies (Ledger.ofHistory (start.history steps)) (start.run steps) :=
  Tallies.start.foldl steps

/-- What is released has been neither released nor cancelled before. -/
private theorem unsettled_of_released {steps : List Step}
    {earlier later : List Tick} {tick : Tick} {id : EventId}
    (hhistory : start.history steps = earlier ++ tick :: later)
    (hreleased : tick.released? = some id) :
    id ∉ (Ledger.ofHistory earlier).settled := by
  obtain ⟨before, rfl, hbefore⟩ := history_split hhistory
  have hlater := (tallies_run before).note tick.step
  rw [← hbefore] at hlater
  intro hsettled
  have honce := hlater.once
  obtain ⟨clock, step⟩ := tick
  cases step with
  | schedule | cancel => cases hreleased
  | advanceUntil | advanceBy | advanceToNext =>
      simp only [Ledger.note, hreleased, Ledger.release, Ledger.settled,
        Option.toList_some, List.append_assoc, List.singleton_append] at honce
      exact (List.nodup_cons.mp (List.perm_middle.nodup_iff.mp honce)).1 hsettled

/-- Advancing a clock up to a bound releases an event if one is due by then, and of these the one
that comes first, at whose deadline the clock then stands; if none is due, it rests at the bound or
where it stood. -/
structure Advances (clock : Clock) (outstanding : List (Time × EventId))
    (bound : Time) (outcome : Option EventId × Clock) : Prop where
  due : outcome.1.isSome = true ↔ ∃ event ∈ outstanding, event.1 ≤ bound
  first : ∀ id, outcome.1 = some id → ∃ deadline,
    Foremost (deadline, id) outstanding ∧ outcome.2.now = deadline
  rests : outcome.1 = none → outcome.2.now = max clock.now bound

private theorem Tallies.advances {ledger : Ledger} {clock : Clock}
    (htallies : Tallies ledger clock) (bound : Time) :
    clock.Advances ledger.outstanding bound (clock.advanceUntil bound) where
  due := htallies.isSome_advanceUntil bound
  first _ := htallies.advanceUntil_some
  rests hnone := by rw [(advanceUntil_of_none hnone).2]

private theorem Tallies.advanceToNext_cases {ledger : Ledger} {clock : Clock}
    (htallies : Tallies ledger clock) :
    (clock.pending = [] ∧ clock.advanceToNext = (none, clock)) ∨
    ∃ event, event ∈ clock.pending ∧ Foremost event ledger.outstanding ∧
      clock.advanceToNext.1 = some event.2 ∧
        clock.advanceToNext.2.now = event.1 := by
  cases hpending : clock.pending with
  | nil => exact .inl ⟨rfl, advanceToNext_of_nil hpending⟩
  | cons event events =>
      refine .inr ⟨event, List.mem_cons_self .., htallies.foremost hpending, ?_⟩
      rw [advanceToNext_of_first hpending]
      exact ⟨rfl, htallies.now_head hpending⟩

/-- In every run of a clock its time never goes back; each event that has been scheduled is another
one, and has either been released or cancelled before that or is pending; none is released once
more, or after it has been cancelled.  What is outstanding is what the clock has under both keys,
and cancelling takes just the event with that number off, under both.  Advancing up to a time, or by
a delay and at most to the last instant, releases an event if one is due by then, and of these the
one that comes first by deadline and by order of scheduling, at just that deadline; if none is due,
the clock rests at that time or where it stood.  Advancing to the next event releases the first of
all, at its deadline; only if none is pending it releases none, and leaves the clock as it was. -/
theorem clock_is_event_queue (steps : List Step) :
    let clock := start.run steps
    let history := start.history steps
    let ledger := Ledger.ofHistory history
    (∀ later, clock.now ≤ (clock.run later).now) ∧
    (ledger.scheduled.map Prod.snd).Nodup ∧
    (ledger.scheduled.map Prod.snd).Perm
      (ledger.released ++ ledger.cancelled ++ clock.pending.map Prod.snd) ∧
    (clock.pending.Perm ledger.outstanding ∧
      clock.pendingEvents = ledger.outstanding.length ∧
      (∀ deadline id, clock.deadline? id = some deadline ↔
        (deadline, id) ∈ ledger.outstanding) ∧
      ∀ id, (clock.cancel id).toAgenda = clock.toAgenda.keep (· ≠ id)) ∧
    (∀ earlier first between second later id,
      history = earlier ++ first :: (between ++ second :: later) →
      second.released? = some id →
      first.released? ≠ some id ∧
      (first.step = .cancel id →
        id ∉ (Ledger.ofHistory earlier).scheduled.map Prod.snd)) ∧
    (∀ bound, clock.Advances ledger.outstanding bound
      (clock.advanceUntil bound)) ∧
    (∀ delay, ∃ bound : Time,
      bound.nanos = min (clock.now.nanos + delay.nanos) 18446744073709551615 ∧
      clock.Advances ledger.outstanding bound (clock.advanceBy delay)) ∧
    (clock.advanceToNext.1 = none ↔ clock.pending = []) ∧
    (clock.advanceToNext.1 = none → clock.advanceToNext.2 = clock) ∧
    ∀ id, clock.advanceToNext.1 = some id → ∃ deadline,
      Foremost (deadline, id) ledger.outstanding ∧
        clock.advanceToNext.2.now = deadline := by
  intro clock history ledger
  have htallies : Tallies ledger clock := tallies_run steps
  refine ⟨now_run clock, htallies.distinct, htallies.scheduled_perm,
    ⟨htallies.pending_perm, htallies.pending_perm.length_eq, ?_,
      clock.mirrored.cancel_eq_keep⟩, ?_, htallies.advances,
    fun delay => ⟨clock.now.after delay, Time.nanos_after ..,
      htallies.advances _⟩, ?_⟩
  · intro deadline id
    rw [← clock.mirrored.mirrors, htallies.agrees]
  · intro earlier first between second later id hhistory hreleased
    have haround : Clock.start.history steps =
        (earlier ++ first :: between) ++ second :: later := by
      simpa [history] using hhistory
    have hopen := unsettled_of_released haround hreleased
    rw [Ledger.ofHistory_append, List.foldl_cons] at hopen
    refine ⟨fun hfirst => hopen ?_, fun hcancel hscheduled => hopen ?_⟩
    · exact Ledger.mem_settled_foldl
        (Ledger.mem_settled_of_released hfirst) between
    · exact Ledger.mem_settled_foldl
        (Ledger.mem_settled_of_cancel hcancel hscheduled) between
  · rcases htallies.advanceToNext_cases with
      ⟨hpending, hadvanced⟩ | ⟨event, hevent, hfirst, hreleased, hnow⟩
    · rw [hadvanced]
      exact ⟨iff_of_true rfl hpending, fun _ => rfl, nofun⟩
    · rw [hreleased]
      refine ⟨iff_of_false nofun (List.ne_nil_of_mem hevent), nofun, ?_⟩
      rintro _ ⟨⟩
      exact ⟨event.1, hfirst, hnow⟩

end Clock

end Roaming

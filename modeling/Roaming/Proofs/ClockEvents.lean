import Roaming.Proofs.TimerTable

namespace Roaming

/-! The events on a clock that a station shares with others.  Those of the station are the ones that
its timeouts wait for, but for what the clock has released and nobody has handed over yet. -/

namespace Clock

/-- An event is gone from the clock, under both its keys. -/
structure Loses (clock : Clock) (id : EventId) (later : Clock) : Prop where
  issued : later.issued = clock.issued
  agenda : later.toAgenda = clock.toAgenda.keep (· ≠ id)

variable {clock later : Clock} {id : EventId}

namespace Loses

variable (hloses : clock.Loses id later)

include hloses

private theorem pending :
    later.pending = clock.pending.filter fun event => event.2 ≠ id :=
  congrArg Agenda.pending hloses.agenda

theorem sublist : later.pending.Sublist clock.pending :=
  hloses.pending ▸ List.filter_sublist

theorem mem (event : Time × EventId) :
    event ∈ later.pending ↔ event ∈ clock.pending ∧ event.2 ≠ id := by
  rw [hloses.pending, List.mem_filter, decide_eq_true_iff]

end Loses

theorem loses_cancel (clock : Clock) (id : EventId) :
    clock.Loses id (clock.cancel id) :=
  ⟨rfl, clock.mirrored.cancel_eq_keep id⟩

theorem loses_released {bound : Time}
    (hreleased : (clock.advanceUntil bound).1 = some id) :
    clock.Loses id (clock.advanceUntil bound).2 := by
  obtain ⟨deadline, events, hpending, _, hlater⟩ :=
    advanceUntil_of_some hreleased
  rw [hlater]
  exact ⟨rfl, clock.mirrored.pop_eq_keep hpending⟩

private theorem issued_released {bound : Time}
    (hreleased : (clock.advanceUntil bound).1 = some id) :
    id.index ≤ clock.issued := by
  obtain ⟨⟨deadline, hpending⟩, _⟩ := advanceUntil_some hreleased
  refine clock.mirrored.issued (deadline, id) ?_
  rw [hpending]
  exact List.mem_cons_self ..

end Clock

namespace Timeouts

/-- The events on the clock are those of the others and those that the timeouts wait for, unless
these have been withheld. -/
structure InStep (foreign withheld : EventId → Prop) (timeouts : Timeouts)
    (clock : Clock) : Prop extends Listed timeouts clock where
  scheduled : ∀ id, foreign id ∨ withheld id → id.index ≤ clock.issued
  agrees : ∀ event, event ∈ clock.pending ∧ ¬foreign event.2 ↔
    (∃ kind, timeouts.armed? kind = some ⟨event.2, event.1⟩) ∧
      ¬withheld event.2

variable {foreign withheld : EventId → Prop} {timeouts rest : Timeouts}
  {clock later : Clock} {id : EventId}

namespace InStep

private theorem drop (hstep : timeouts.InStep foreign withheld clock)
    (hdrops : timeouts.Drops id rest) (hloses : clock.Loses id later) :
    rest.InStep foreign withheld later where
  toListed := hstep.toListed.drop hdrops (Nat.le_of_eq hloses.issued.symm)
  scheduled other hother := hloses.issued ▸ hstep.scheduled other hother
  agrees event := by
    have hagrees := hstep.agrees event
    simp only [hloses.mem, hdrops.armed, exists_and_right]
    rw [and_right_comm, hagrees, and_right_comm]

private theorem awaited_arm {kind : Timeout} (hidle : timeouts.armed? kind = none)
    {deadline : Time} {event : Time × EventId} :
    (∃ other, (timeouts.arm clock kind deadline).armed? other =
        some ⟨event.2, event.1⟩) ↔
      event = (deadline, ⟨clock.issued + 1⟩) ∨
        ∃ other, timeouts.armed? other = some ⟨event.2, event.1⟩ := by
  simp only [armed?_arm]
  constructor
  · rintro ⟨other, harmed⟩
    split at harmed
    · obtain ⟨hid, hdeadline⟩ := Armed.mk.inj (Option.some.inj harmed)
      exact .inl (Prod.ext hdeadline.symm hid.symm)
    · exact .inr ⟨other, harmed⟩
  · rintro (rfl | ⟨other, harmed⟩)
    · exact ⟨kind, if_pos rfl⟩
    · refine ⟨other, ?_⟩
      rw [if_neg, harmed]
      rintro rfl
      cases hidle.symm.trans harmed

private theorem arm (hstep : timeouts.InStep foreign withheld clock)
    {kind : Timeout} (hidle : timeouts.armed? kind = none) {deadline : Time}
    (hdeadline : clock.now ≤ deadline) :
    (timeouts.arm clock kind deadline).InStep foreign withheld
      (clock.schedule deadline).2 where
  toListed := hstep.toListed.arm hidle deadline
  scheduled other hother :=
    Nat.le_succ_of_le (hstep.scheduled other hother)
  agrees event := by
    -- The event is new, so it is nobody else's and has not been released.
    have hnew : ¬(foreign ⟨clock.issued + 1⟩ ∨ withheld ⟨clock.issued + 1⟩) :=
      fun hother => Nat.not_succ_le_self _ (hstep.scheduled _ hother)
    obtain ⟨hforeign, hwithheld⟩ := not_or.mp hnew
    rw [Clock.mem_pending_schedule hdeadline, awaited_arm hidle, or_and_right,
      or_and_right, hstep.agrees]
    refine or_congr_left (and_congr_right ?_)
    rintro rfl
    exact iff_of_true hforeign hwithheld

private theorem kept : Kept (InStep foreign withheld) where
  cancel hstep kind := by
    rcases hstep.toListed.cancel_cases kind with hsame | ⟨id, hdrops, hclock⟩
    · rw [hsame]
      exact hstep
    · rw [hclock]
      exact hstep.drop hdrops (Clock.loses_cancel _ _)
  arm hstep _ _ hidle hdeadline := hstep.arm hidle hdeadline
  cover hstep coverage := by
    refine ⟨listed_lasts.cover hstep.toListed coverage, hstep.scheduled,
      fun event => ?_⟩
    simpa using hstep.agrees event

private theorem elapse (hstep : timeouts.InStep foreign withheld clock)
    (hpending : later.pending = clock.pending)
    (hissued : later.issued = clock.issued) :
    timeouts.InStep foreign withheld later where
  toListed := listed_lasts.elapse hstep.toListed (Nat.le_of_eq hissued.symm)
  scheduled other hother := hissued ▸ hstep.scheduled other hother
  agrees event := hpending ▸ hstep.agrees event

private theorem release (hstep : timeouts.InStep foreign withheld clock)
    (hloses : clock.Loses id later) (hid : id.index ≤ clock.issued) :
    timeouts.InStep foreign (fun other => other = id ∨ withheld other)
      later where
  toListed := listed_lasts.elapse hstep.toListed
    (Nat.le_of_eq hloses.issued.symm)
  scheduled other hother := by
    rw [hloses.issued]
    rcases hother with hforeign | rfl | hwithheld
    · exact hstep.scheduled other (.inl hforeign)
    · exact hid
    · exact hstep.scheduled other (.inr hwithheld)
  agrees event := by
    rw [hloses.mem, and_right_comm, hstep.agrees, not_or]
    constructor
    · rintro ⟨⟨harmed, hwithheld⟩, hother⟩
      exact ⟨harmed, hother, hwithheld⟩
    · rintro ⟨harmed, hother, hwithheld⟩
      exact ⟨⟨harmed, hwithheld⟩, hother⟩

/-- An event is handed over that the clock no longer has, unless no timeout waits for it. -/
private theorem hand (hstep : timeouts.InStep foreign withheld clock) (id : EventId)
    (hreleased : id ∈ clock.pending.map Prod.snd →
      timeouts.waitsFor id = false) :
    (timeouts.take id).2.InStep foreign
      (fun other => withheld other ∧ other ≠ id) clock where
  toListed := listed_lasts.take hstep.toListed id
  scheduled other hother :=
    hstep.scheduled other (hother.imp_right And.left)
  agrees event := by
    have hagrees := hstep.agrees event
    simp only [(hstep.toListed.drops_take id).armed, exists_and_right]
    by_cases hid : event.2 = id
    · refine iff_of_false (fun hpending => ?_) fun hawaited =>
        hawaited.1.2 hid
      obtain ⟨⟨kind, harmed⟩, _⟩ := hagrees.mp hpending
      have hunawaited := hreleased
        (List.mem_map.mpr ⟨event, hpending.1, hid⟩)
      exact ne_of_unawaited hunawaited harmed hid
    · rw [hagrees]
      simp [hid]

private theorem foreign_schedule (hstep : timeouts.InStep foreign withheld clock)
    (deadline : Time) :
    timeouts.InStep (fun other => other = ⟨clock.issued + 1⟩ ∨ foreign other)
      withheld (clock.schedule deadline).2 where
  toListed := listed_lasts.elapse hstep.toListed (Nat.le_succ _)
  scheduled other hother := by
    rcases hother with (rfl | hforeign) | hwithheld
    · exact Nat.le_refl _
    · exact Nat.le_succ_of_le (hstep.scheduled other (.inl hforeign))
    · exact Nat.le_succ_of_le (hstep.scheduled other (.inr hwithheld))
  agrees event := by
    rw [Clock.pending_schedule, Agenda.mem_enqueue, not_or]
    by_cases hid : event.2 = ⟨clock.issued + 1⟩
    · refine iff_of_false (fun hpending => hpending.2.1 hid) ?_
      rintro ⟨⟨kind, harmed⟩, _⟩
      exact hstep.toListed.fresh harmed hid
    · have hother : event ≠ (max deadline clock.now, ⟨clock.issued + 1⟩) :=
        fun hsame => hid (congrArg Prod.snd hsame)
      simpa [hid, hother] using hstep.agrees event

private theorem foreign_cancel (hstep : timeouts.InStep foreign withheld clock)
    (hunawaited : timeouts.waitsFor id = false) :
    timeouts.InStep foreign withheld (clock.cancel id) where
  toListed := listed_lasts.elapse hstep.toListed (Nat.le_refl _)
  scheduled := hstep.scheduled
  agrees event := by
    rw [Clock.mem_pending_cancel, and_right_comm, hstep.agrees]
    refine and_iff_left_of_imp ?_
    rintro ⟨⟨kind, harmed⟩, _⟩
    exact ne_of_unawaited hunawaited harmed

theorem of_iff {others kept : EventId → Prop}
    (hstep : timeouts.InStep foreign withheld clock)
    (hothers : ∀ id, others id ↔ foreign id)
    (hkept : ∀ id, kept id ↔ withheld id) :
    timeouts.InStep others kept clock := by
  obtain rfl : others = foreign := funext fun id => propext (hothers id)
  obtain rfl : kept = withheld := funext fun id => propext (hkept id)
  exact hstep

end InStep

end Timeouts

namespace Moment

/-- The event that the clock releases, if it is kept from the station for now. -/
def withheld? (moment : Moment) : Option EventId :=
  match moment.move with
  | .withhold bound => (moment.before.clock.advanceUntil bound).1
  | _ => none

def foreign? (moment : Moment) : Option EventId :=
  match moment.move with
  | .schedule deadline => some (moment.before.clock.schedule deadline).1
  | _ => none

/-- Nobody hands over an event that a timeout waits for before it is released, or cancels it. -/
def Timely (moment : Moment) : Prop :=
  match moment.move with
  | .perform _ (.timeout id) =>
      id ∈ moment.before.clock.pending.map Prod.snd →
        moment.before.station.timeouts.waitsFor id = false
  | .cancel id => moment.before.station.timeouts.waitsFor id = false
  | _ => True

end Moment

def Foreign (history : List Moment) (id : EventId) : Prop :=
  ∃ moment ∈ history, moment.foreign? = some id

/-- An event has been released, and has not been handed over since. -/
def Withheld (history : List Moment) (id : EventId) : Prop :=
  Since (fun moment => moment.withheld? = some id)
    (fun moment => moment.handed? ≠ some id) history

section Concat

variable {history : List Moment} {moment : Moment} {id : EventId}

private theorem foreign_concat :
    Foreign (history ++ [moment]) id ↔
      moment.foreign? = some id ∨ Foreign history id := by
  simp [Foreign, or_comm]

private theorem withheld_concat :
    Withheld (history ++ [moment]) id ↔
      moment.withheld? = some id ∨
        Withheld history id ∧ moment.handed? ≠ some id :=
  since_concat

private theorem Withheld.released (hwithheld : Withheld history id) :
    ∃ moment ∈ history, moment.withheld? = some id := by
  obtain ⟨earlier, moment, later, rfl, hreleased, _⟩ := hwithheld
  exact ⟨moment, by simp, hreleased⟩

end Concat

namespace Moment

variable {history : List Moment} {moment : Moment}

private theorem Timely.step_idle (htimely : moment.Timely)
    (hstep : moment.before.station.timeouts.InStep (Foreign history)
      (Withheld history) moment.before.clock)
    (hnone : moment.operation? = none) :
    moment.before.station.timeouts.InStep (Foreign (history ++ [moment]))
      (Withheld (history ++ [moment])) moment.opened.clock := by
  have hhanded : moment.handed? = none := by simp [handed?, hnone]
  obtain ⟨⟨station, clock⟩, move⟩ := moment
  cases move with
  | perform decision operation => cases hnone
  | advance bound =>
      obtain ⟨hpending, hissued⟩ :=
        Clock.advanceUntil_none (Option.map_eq_none_iff.mp hnone)
      refine (hstep.elapse hpending hissued).of_iff (fun id => ?_) fun id => ?_
      · simp [foreign_concat, foreign?]
      · simp [withheld_concat, withheld?, hhanded]
  | withhold bound =>
      cases hreleased : (clock.advanceUntil bound).1 with
      | none =>
          obtain ⟨hpending, hissued⟩ := Clock.advanceUntil_none hreleased
          refine (hstep.elapse hpending hissued).of_iff (fun id => ?_)
            fun id => ?_
          · simp [foreign_concat, foreign?]
          · simp [withheld_concat, withheld?, hhanded, hreleased]
      | some id =>
          have hloses := Clock.loses_released hreleased
          refine (hstep.release hloses ?_).of_iff (fun other => ?_)
            fun other => ?_
          · exact Clock.issued_released hreleased
          · simp [foreign_concat, foreign?]
          · simp [withheld_concat, withheld?, hhanded, hreleased, eq_comm]
  | schedule deadline =>
      refine (hstep.foreign_schedule deadline).of_iff (fun id => ?_) fun id => ?_
      · simp [foreign_concat, foreign?, Clock.schedule, eq_comm]
      · simp [withheld_concat, withheld?, hhanded]
  | cancel id =>
      refine (hstep.foreign_cancel htimely).of_iff (fun other => ?_)
        fun other => ?_
      · simp [foreign_concat, foreign?]
      · simp [withheld_concat, withheld?, hhanded]

private theorem Timely.step_opening (htimely : moment.Timely)
    (hstep : moment.before.station.timeouts.InStep (Foreign history)
      (Withheld history) moment.before.clock)
    {operation : Operation} (hsome : moment.operation? = some operation) :
    (moment.opened.opening operation).station.timeouts.InStep
      (Foreign (history ++ [moment])) (Withheld (history ++ [moment]))
      moment.opened.clock := by
  obtain ⟨⟨station, clock⟩, move⟩ := moment
  cases move with
  | perform decision told =>
      obtain rfl : told = operation := Option.some.inj hsome
      cases told with
      | timeout id =>
          have hhanded := handed?_iff.mpr hsome
          refine (hstep.hand id htimely).of_iff (fun other => ?_) fun other => ?_
          · simp [foreign_concat, foreign?]
          · simp [withheld_concat, withheld?, hhanded, eq_comm]
      | setAddress | register | ensureAssociated | receive | send
      | capabilitiesChanged | setActiveProbing | setSsid =>
          refine hstep.of_iff (fun id => ?_) fun id => ?_
          · simp [foreign_concat, foreign?]
          · simp [withheld_concat, withheld?, handed?, hsome]
  | advance bound =>
      obtain ⟨id, hreleased, rfl⟩ := Option.map_eq_some_iff.mp hsome
      -- What the clock releases here is withheld just until it is handed over.
      have hhanded := handed?_iff.mpr hsome
      have hloses := Clock.loses_released hreleased
      have hreleasing := hstep.release hloses
        (Clock.issued_released hreleased)
      refine (hreleasing.hand id fun hpending => ?_).of_iff (fun other => ?_)
        fun other => ?_
      · obtain ⟨event, hevent, hid⟩ := List.mem_map.mp hpending
        exact absurd hid ((hloses.mem event).mp hevent).2
      · simp [foreign_concat, foreign?]
      · simp [withheld_concat, withheld?, hhanded, or_and_right, eq_comm]
  | withhold | schedule | cancel => cases hsome

end Moment

theorem step_run (config : Config) (moves : List Move)
    (htimely : ∀ moment ∈ (System.ofConfig config).history moves,
      moment.Timely) :
    ((System.ofConfig config).run moves).station.timeouts.InStep
      (Foreign ((System.ofConfig config).history moves))
      (Withheld ((System.ofConfig config).history moves))
      ((System.ofConfig config).run moves).clock := by
  refine System.run_induction (motive := fun history system =>
    (∀ moment ∈ history, moment.Timely) →
      system.station.timeouts.InStep (Foreign history) (Withheld history)
        system.clock) ?_ ?_ moves htimely
  · intro _
    refine ⟨listed_run config [], ?_, ?_⟩
    · rintro id (⟨moment, hmoment, _⟩ | hwithheld)
      · cases hmoment
      · exact absurd hwithheld not_since_nil
    · intro event
      refine iff_of_false (fun hpending => ?_) ?_
      · cases hpending.1
      · rintro ⟨⟨kind, harmed⟩, _⟩
        cases kind <;> cases harmed
  · intro history system move hbefore htimely
    have hstep := hbefore fun moment hmoment =>
      htimely moment (List.mem_append_left _ hmoment)
    have hlast : Moment.Timely ⟨system, move⟩ :=
      htimely _ (List.mem_append_right _ (List.mem_singleton_self _))
    cases Moment.course ⟨system, move⟩ with
    | idle hoperation hafter =>
        rw [hafter]
        exact hlast.step_idle hstep hoperation
    | reacted hoperation hreaction hstation hclock =>
        rw [hstation, hclock]
        exact Timeouts.InStep.kept.reaction
          (hlast.step_opening hstep hoperation) hreaction

/-- In every run the table has the events that the timeouts wait for, each with the kind of its
timeout, so that no other event is taken for a timeout.  To hand over another event changes nothing,
and so does handing one over again that the station has acted upon.  If nobody hands over an event
of the station's that has not been released, or cancels one, then the station's events on the clock
are those that the timeouts wait for, at their deadlines, but for those released and not handed over
yet; and so are those whose deadlines the clock finds by their numbers. -/
theorem timeouts_match_clock (config : Config) (moves : List Move) :
    let history := (System.ofConfig config).history moves
    let reached := (System.ofConfig config).run moves
    let timeouts := reached.station.timeouts
    (∀ id kind, timeouts.timer.lookup? id = some kind ↔
      ∃ deadline, timeouts.armed? kind = some ⟨id, deadline⟩) ∧
    (∀ id, (timeouts.take id).1 = timeouts.timer.lookup? id) ∧
    (∀ id, timeouts.waitsFor id = false → ∀ decision,
      reached.perform decision (.timeout id) = { system := reached }) ∧
    (∀ earlier first between second later id,
      history = earlier ++ first :: (between ++ second :: later) →
      first.acted? = some id → second.handed? = some id →
      second.outcome = { system := second.opened }) ∧
    ((∀ moment ∈ history, moment.Timely) → ∀ deadline id,
      let awaited := (∃ kind, timeouts.armed? kind = some ⟨id, deadline⟩) ∧
        ¬Withheld history id
      ((deadline, id) ∈ reached.clock.pending ∧ ¬Foreign history id ↔
        awaited) ∧
      (reached.clock.deadline? id = some deadline ∧ ¬Foreign history id ↔
        awaited)) := by
  intro history reached timeouts
  have hlisted : timeouts.Listed reached.clock := listed_run config moves
  refine ⟨hlisted.known, hlisted.take_eq_lookup, ?_, ?_, ?_⟩
  · intro id hunawaited decision
    exact System.perform_unawaited hlisted hunawaited decision
  · intro earlier first between second later id hhistory hacted hhanded
    exact Moment.outcome_of_acted hhistory hacted hhanded
  · intro htimely deadline id
    have hagrees := (step_run config moves htimely).agrees (deadline, id)
    rw [← reached.clock.mirrored.mirrors]
    exact ⟨hagrees, hagrees⟩

namespace Sample

/-- The station joins on a clock that somebody else uses too, and its request goes unanswered. -/
def sharedClock : List Move :=
  [.schedule (.ofNanos 5), .perform refuse (.setAddress own),
    .perform refuse (.receive beacon), .withhold .last,
    .perform refuse (.timeout ⟨1⟩), .withhold .last]

def handOver : Move := .perform refuse (.timeout ⟨3⟩)

def handedTwice : List Move :=
  sharedClock ++ handOver :: ([] ++ [handOver])

end Sample

theorem timeouts_match_clock_sample :
    let first : Moment :=
      ⟨(System.ofConfig {}).run Sample.sharedClock, Sample.handOver⟩
    let second : Moment := ⟨first.after, Sample.handOver⟩
    first.acted? = some ⟨3⟩ ∧
    second.outcome = { system := second.opened } ∧
    second.after.station.timeouts.armed? .assocRequest =
      some ⟨⟨4⟩, .ofNanos 1000000000⟩ ∧
    (.ofNanos 1000000000, ⟨4⟩) ∈ second.after.clock.pending ∧
    second.after.clock.deadline? ⟨4⟩ = some (.ofNanos 1000000000) := by
  intro first second
  have hmatch := timeouts_match_clock {} Sample.handedTwice
  have hhistory := System.history_around (System.ofConfig {})
    Sample.sharedClock [] Sample.handOver Sample.handOver
  have hacted : first.acted? = some ⟨3⟩ := by decide
  have harmed : second.after.station.timeouts.armed? .assocRequest =
      some ⟨⟨4⟩, .ofNanos 1000000000⟩ := by decide
  have htimely : ∀ moment ∈ (System.ofConfig {}).history Sample.handedTwice,
      moment.Timely := by
    simp only [Sample.handedTwice, Sample.sharedClock, List.cons_append,
      List.nil_append, System.history, List.forall_mem_cons]
    exact ⟨trivial, trivial, trivial, trivial, fun _ => by decide, trivial,
      fun hpending => absurd hpending (by decide), fun _ => by decide, by simp⟩
  have hnever : ∀ moment ∈ (System.ofConfig {}).history Sample.handedTwice,
      moment.withheld? ≠ some ⟨4⟩ := by decide
  have hopen : ¬Withheld ((System.ofConfig {}).history Sample.handedTwice)
      ⟨4⟩ := by
    intro hwithheld
    obtain ⟨moment, hmoment, hreleased⟩ := hwithheld.released
    exact hnever moment hmoment hreleased
  obtain ⟨hpending, hdeadline⟩ :=
    hmatch.2.2.2.2 htimely (.ofNanos 1000000000) ⟨4⟩
  refine ⟨hacted, ?_, harmed, ?_, ?_⟩
  · exact hmatch.2.2.2.1 _ _ _ _ _ _ hhistory hacted rfl
  · exact (hpending.mpr ⟨⟨.assocRequest, harmed⟩, hopen⟩).1
  · exact (hdeadline.mpr ⟨⟨.assocRequest, harmed⟩, hopen⟩).1

end Roaming

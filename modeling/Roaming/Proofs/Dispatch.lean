import Roaming.Proofs.EventQueue
import Roaming.Proofs.PhaseTimeouts
import Roaming.Proofs.SessionRun
import Roaming.Proofs.Validation

namespace Roaming

/-! The loop that hands over to a station all that its clock releases until some time.  Whatever the
station starts meanwhile falls due later, so that the loop ends. -/

private theorem Time.lt_after {time : Time} {delay : Duration} (hearly : time < .last)
    (hdelay : 0 < delay.nanos) : time < time.after delay := by
  have hlimit : time.nanos < limit := hearly
  rw [lt_def, nanos_after]
  omega

namespace Clock

/-- How many events are due before the clock goes on. -/
def due (clock : Clock) : Nat :=
  clock.pending.countP fun event => event.1 ≤ clock.now

/-- The clock has not gone on, and no more is due than was before. -/
structure Defers (clock later : Clock) : Prop where
  now : later.now = clock.now
  due : later.due ≤ clock.due

variable {clock middle later : Clock} {bound deadline : Time} {id : EventId}

private theorem Defers.refl (clock : Clock) : clock.Defers clock :=
  ⟨rfl, Nat.le_refl _⟩

private theorem Defers.trans (hfirst : clock.Defers middle)
    (hsecond : middle.Defers later) : clock.Defers later :=
  ⟨hsecond.now.trans hfirst.now, Nat.le_trans hsecond.due hfirst.due⟩

private theorem defers_cancel (clock : Clock) (id : EventId) :
    clock.Defers (clock.cancel id) :=
  ⟨rfl, (loses_cancel clock id).sublist.countP_le⟩

private theorem defers_schedule (hlater : clock.now < deadline) :
    clock.Defers (clock.schedule deadline).2 := by
  have hearly : ¬max deadline clock.now ≤ clock.now :=
    Nat.not_le_of_lt (Nat.lt_of_lt_of_le hlater (Time.le_max_left ..))
  refine ⟨rfl, Nat.le_of_eq ?_⟩
  rw [due, due, pending_schedule, now_schedule, List.countP_eq_length_filter,
    List.countP_eq_length_filter,
    Agenda.filter_enqueue (decide_eq_false hearly)]

/-- Some ledger agrees with the clock. -/
def Tallied (clock : Clock) : Prop :=
  ∃ ledger, Tallies ledger clock

/-- A release takes the clock on, or else an event off those that are due. -/
theorem Tallied.release (htallied : clock.Tallied)
    (hreleased : (clock.advanceUntil bound).1 = some id) :
    let later := (clock.advanceUntil bound).2
    clock.now ≤ later.now ∧ later.now ≤ bound ∧
      (later.now = clock.now → later.due < clock.due) := by
  obtain ⟨ledger, htallies⟩ := htallied
  obtain ⟨deadline, events, hpending, hdue, hlater⟩ :=
    advanceUntil_of_some hreleased
  have hnow := htallies.now_head hpending
  have hhead : clock.now ≤ deadline :=
    htallies.ahead (deadline, id) (by simp [hpending])
  rw [hlater]
  simp only [hnow]
  refine ⟨hhead, hdue, ?_⟩
  rintro rfl
  rw [due, due, hpending, List.countP_cons_of_pos]
  · exact Nat.lt_succ_of_le
      (Nat.le_of_eq (congrArg _ (pending_pop hpending)))
  · exact decide_eq_true (Nat.le_refl _)

/-- The event released last is due when the clock stands at it. -/
theorem Tallied.now_released (htallied : clock.Tallied)
    (hreleased : (clock.advanceUntil bound).1 = some id)
    (hpending : (deadline, id) ∈ clock.pending) :
    (clock.advanceUntil bound).2.now = deadline := by
  obtain ⟨ledger, htallies⟩ := htallied
  obtain ⟨first, events, hevents, _, hlater⟩ :=
    advanceUntil_of_some hreleased
  have hfirst : (first, id) ∈ clock.pending := by simp [hevents]
  obtain rfl := clock.mirrored.unique hfirst hpending
  rw [hlater]
  exact htallies.now_head hevents

/-- A clock that has nothing to release until some time rests at it, or where it stood. -/
theorem rests_of_idle (hidle : (clock.advanceUntil bound).1 = none) :
    let later := (clock.advanceUntil bound).2
    later.now = max bound clock.now ∧
      ∀ event ∈ later.pending, bound < event.1 := by
  obtain ⟨hahead, hlater⟩ := advanceUntil_of_none hidle
  rw [hlater]
  exact ⟨Time.max_comm .., hahead⟩

end Clock

private theorem Move.tallied {clock : Clock} (htallied : clock.Tallied) (move : Move) :
    (move.clock clock).Tallied := by
  obtain ⟨ledger, htallies⟩ := htallied
  cases move with
  | perform => exact ⟨ledger, htallies⟩
  | advance bound | withhold bound => exact ⟨_, htallies.advance bound⟩
  | schedule deadline => exact ⟨_, htallies.schedule deadline⟩
  | cancel id => exact ⟨_, htallies.cancel id⟩

namespace Timeouts

private theorem tallied_kept : Kept fun _ clock => clock.Tallied where
  cancel {timeouts clock} htallied kind := by
    cases harmed : timeouts.armed? kind with
    | none =>
        rw [cancel_of_none _ _ _ harmed]
        exact htallied
    | some armed =>
        rw [cancel_of_some _ _ _ harmed]
        exact Move.tallied htallied (.cancel armed.id)
  arm htallied _ deadline _ _ := Move.tallied htallied (.schedule deadline)
  cover htallied _ := htallied

variable (timeouts : Timeouts) {clock : Clock} (kind : Timeout)

private theorem defers_cancel : clock.Defers (timeouts.cancel clock kind).2 := by
  cases harmed : timeouts.armed? kind with
  | none =>
      rw [cancel_of_none _ _ _ harmed]
      exact .refl _
  | some armed =>
      rw [cancel_of_some _ _ _ harmed]
      exact Clock.defers_cancel clock armed.id

private theorem defers_start {delay : Duration} (hearly : clock.now < .last)
    (hdelay : 0 < delay.nanos) :
    clock.Defers (timeouts.start clock kind delay).2 := by
  rw [start_eq]
  refine (timeouts.defers_cancel kind).trans (Clock.defers_schedule ?_)
  refine Time.lt_after ?_ hdelay
  rw [now_cancel]
  exact hearly

end Timeouts

/-- No request of the station runs out at once. -/
def Config.Patient (config : Config) : Prop :=
  0 < config.probeTimeout.nanos ∧ 0 < config.assocTimeout.nanos

private theorem Config.timeouts_pos {config : Config} (hvalid : config.defect? = none) :
    config.Patient := by
  have hsound := defect?_eq_none_iff.mp hvalid
  have hpos {millis : UInt64} (hne : millis ≠ 0) : 0 < millis.toNat :=
    Nat.pos_of_ne_zero fun hzero => hne (UInt64.toNat_inj.mp hzero)
  exact ⟨Nat.mul_pos (hpos hsound.probeTimeout) (by decide),
    Nat.mul_pos (hpos hsound.assocTimeout) (by decide)⟩

private theorem Turn.defers_loseNetwork (turn : Turn) (own : MacAddr)
    (hearly : turn.clock.now < .last)
    (hprobe : 0 < turn.station.config.probeTimeout.nanos) :
    turn.clock.Defers (turn.loseNetwork own).clock := by
  rw [clock_loseNetwork]
  cases turn.station.activeProbing with
  | false => exact .refl _
  | true => exact Timeouts.defers_start _ _ hearly hprobe

/-- What a station starts when it is told of an event falls due later. -/
private theorem Reaction.defers {system : System} {decision : Decision} {id : EventId}
    {turn : Turn} (hreaction : Reaction system decision (.timeout id) turn)
    (hpatient : system.station.config.Patient)
    (hearly : system.clock.now < .last) : system.clock.Defers turn.clock := by
  obtain ⟨hprobe, hassoc⟩ := hpatient
  cases hreaction with
  | rested | outlived => exact .refl _
  | reprobed => exact Timeouts.defers_start _ _ hearly hprobe
  | rejoined => exact Timeouts.defers_start _ _ hearly hassoc
  | rearmed _ _ _ hcovered =>
      exact Timeouts.defers_start _ _ hearly (Nat.sub_pos_of_lt hcovered)
  | expired =>
      let opened := system.opening (.timeout id)
      have hstopped : system.clock.Defers
          ((opened.stop .probeRequest).stop .assocRequest).clock :=
        (Timeouts.defers_cancel _ .probeRequest).trans
          (Timeouts.defers_cancel _ .assocRequest)
      refine hstopped.trans (Turn.defers_loseNetwork _ _ ?_ hprobe)
      rw [hstopped.now]
      exact hearly
  | searched _ hoperation => simp at hoperation

namespace System

def Reached (config : Config) (system : System) : Prop :=
  ∃ moves, (ofConfig config).run moves = system

/-- The clock goes on until some time to the next event, and the station is told of it. -/
def told (system : System) (bound : Time) (id : EventId) : Outcome :=
  handleTimeout ⟨system.station, (system.clock.advanceUntil bound).2⟩ id

/-- The station is told of each event that the clock releases until some time: how many there are,
and what comes of it. -/
inductive Dispatches (bound : Time) : System → Nat → System → Prop
  | done {system : System}
      (hidle : (system.clock.advanceUntil bound).1 = none) :
      Dispatches bound system 0
        ⟨system.station, (system.clock.advanceUntil bound).2⟩
  | round {system ended : System} {id : EventId} {rounds : Nat}
      (hreleased : (system.clock.advanceUntil bound).1 = some id)
      (hlater : Dispatches bound (system.told bound id).system rounds ended) :
      Dispatches bound system (rounds + 1) ended

variable {config : Config} {system : System} {bound : Time} {id : EventId}

private theorem after_idle (hidle : (system.clock.advanceUntil bound).1 = none) :
    Moment.after ⟨system, .advance bound⟩ =
      ⟨system.station, (system.clock.advanceUntil bound).2⟩ := by
  simp only [Moment.after, Moment.outcome, Moment.operation?,
    Move.operation?, hidle, Option.map_none]
  rfl

private theorem after_released
    (hreleased : (system.clock.advanceUntil bound).1 = some id) :
    Moment.after ⟨system, .advance bound⟩ =
      (system.told bound id).system := by
  simp only [Moment.after, Moment.outcome, Moment.operation?,
    Move.operation?, hreleased, Option.map_some]
  rfl

/-- The loop is a run of its own. -/
theorem Dispatches.run_eq {rounds : Nat} {ended : System}
    (hdispatches : Dispatches bound system rounds ended) :
    system.run (List.replicate (rounds + 1) (.advance bound)) = ended := by
  induction hdispatches with
  | done hidle => exact after_idle hidle
  | round hreleased _ ih =>
      rw [← ih, ← after_released hreleased]
      rfl

namespace Reached

private theorem config_eq (hreached : Reached config system) :
    system.station.config = config := by
  obtain ⟨moves, rfl⟩ := hreached
  exact config_run config moves

private theorem unset (hreached : Reached config system) : system.station.Unset := by
  obtain ⟨moves, rfl⟩ := hreached
  exact unset_run config moves

theorem tallied (hreached : Reached config system) : system.clock.Tallied := by
  obtain ⟨moves, rfl⟩ := hreached
  refine run_induction (motive := fun _ system => system.clock.Tallied)
    ⟨{}, .start⟩ ?_ moves
  intro _ system move htallied
  have hopened : (Moment.opened ⟨system, move⟩).clock.Tallied :=
    Move.tallied htallied move
  cases Moment.course ⟨system, move⟩ with
  | idle _ hafter =>
      rw [hafter]
      exact hopened
  | reacted _ hreaction _ hclock =>
      rw [hclock]
      exact Timeouts.tallied_kept.reaction hopened hreaction

private theorem told (hreached : Reached config system)
    (hreleased : (system.clock.advanceUntil bound).1 = some id) :
    Reached config (system.told bound id).system := by
  obtain ⟨moves, rfl⟩ := hreached
  refine ⟨moves ++ [.advance bound], ?_⟩
  rw [run_concat]
  exact after_released hreleased

end Reached

private theorem told_reacts (system : System) (bound : Time) (id : EventId) :
    let opened : System :=
      ⟨system.station, (system.clock.advanceUntil bound).2⟩
    ∃ turn, Reaction opened (fun _ _ => false) (.timeout id) turn ∧
      (system.told bound id).system.clock = turn.clock := by
  intro opened
  obtain ⟨turn, hreaction, hsystem, _⟩ :=
    opened.perform_reacts (fun _ _ => false) (.timeout id)
  refine ⟨turn, hreaction, ?_⟩
  exact (congrArg System.clock hsystem).trans (Turn.clock_settle ..)

/-- Each round takes the clock on, or else an event off those that are due. -/
private theorem Reached.progress (hreached : Reached config system)
    (hpatient : config.Patient) (hbound : bound < .last)
    (hreleased : (system.clock.advanceUntil bound).1 = some id) :
    let later := (system.told bound id).system.clock
    system.clock.now ≤ later.now ∧ later.now ≤ bound ∧
      (later.now = system.clock.now → later.due < system.clock.due) := by
  obtain ⟨hpast, hfuture, hdue⟩ := hreached.tallied.release hreleased
  obtain ⟨turn, hreaction, hclock⟩ := system.told_reacts bound id
  have hdefers := hreaction.defers (hreached.config_eq ▸ hpatient)
    (Nat.lt_of_le_of_lt hfuture hbound)
  intro later
  have hnow : later.now = (system.clock.advanceUntil bound).2.now :=
    (congrArg Clock.now hclock).trans hdefers.now
  have hless : later.due ≤ (system.clock.advanceUntil bound).2.due :=
    Nat.le_trans (Nat.le_of_eq (congrArg Clock.due hclock)) hdefers.due
  rw [hnow]
  exact ⟨hpast, hfuture, fun hstill => Nat.lt_of_le_of_lt hless (hdue hstill)⟩

/-- The loop ends: it cannot go on for ever without passing the time given, and at one time it can
only use up what is due. -/
theorem Reached.dispatches_of_patient {system : System}
    (hreached : Reached config system) (hpatient : config.Patient)
    (hbound : bound < .last) :
    ∃ rounds ended, Dispatches bound system rounds ended := by
  cases hreleased : (system.clock.advanceUntil bound).1 with
  | none => exact ⟨0, _, .done hreleased⟩
  | some id =>
      have hprogress := hreached.progress hpatient hbound hreleased
      obtain ⟨rounds, ended, hlater⟩ :=
        (hreached.told hreleased).dispatches_of_patient hpatient hbound
      exact ⟨rounds + 1, ended, .round hreleased hlater⟩
termination_by (bound.nanos - system.clock.now.nanos, system.clock.due)
decreasing_by
  -- Either the clock has gone on, or it stands and one event less is due.
  obtain ⟨hpast, hfuture, hdue⟩ := hprogress
  rcases Nat.lt_or_eq_of_le hpast with hlater | hstill
  · refine Prod.Lex.left _ _ ?_
    exact Nat.sub_lt_sub_left (Nat.lt_of_lt_of_le hlater hfuture) hlater
  · rw [← hstill]
    exact Prod.Lex.right _ (hdue (Time.ext hstill.symm))

private theorem Reached.dispatches (hreached : Reached config system)
    (hvalid : config.defect? = none) (hbound : bound < .last) :
    ∃ rounds ended, Dispatches bound system rounds ended :=
  hreached.dispatches_of_patient (Config.timeouts_pos hvalid) hbound

theorem Dispatches.rests_of_patient {rounds : Nat} {ended : System}
    (hdispatches : Dispatches bound system rounds ended)
    (hreached : Reached config system) (hpatient : config.Patient)
    (hbound : bound < .last) :
    ended.clock.now = max bound system.clock.now ∧
      ∀ event ∈ ended.clock.pending, bound < event.1 := by
  induction hdispatches with
  | done hidle => exact Clock.rests_of_idle hidle
  | round hreleased _ ih =>
      obtain ⟨hpast, hfuture, _⟩ :=
        hreached.progress hpatient hbound hreleased
      obtain ⟨hnow, hpending⟩ := ih (hreached.told hreleased)
      refine ⟨?_, hpending⟩
      rw [hnow, Time.max_comm, Time.max_eq_right hfuture, Time.max_comm,
        Time.max_eq_right (Nat.le_trans hpast hfuture)]

private theorem Dispatches.rests {rounds : Nat} {ended : System}
    (hdispatches : Dispatches bound system rounds ended)
    (hreached : Reached config system) (hvalid : config.defect? = none)
    (hbound : bound < .last) :
    ended.clock.now = max bound system.clock.now ∧
      ∀ event ∈ ended.clock.pending, bound < event.1 :=
  hdispatches.rests_of_patient hreached (Config.timeouts_pos hvalid) hbound

private theorem told_error (hunset : system.station.Unset) (bound : Time)
    (id : EventId) : (system.told bound id).error? = none := by
  refine handleTimeout_error ?_ id
  exact hunset

end System

namespace Session

variable {session : Session} {bound : Time} {id : EventId} (count : Nat)

private theorem dispatchUntil_idle
    (hidle : (session.system.clock.advanceUntil bound).1 = none) :
    session.dispatchUntil bound (count + 1) =
      ([], { session := { session with
        system.clock := (session.system.clock.advanceUntil bound).2 } }) := by
  simp [dispatchUntil, dispatch, hidle]

private theorem dispatchUntil_released
    (hreleased : (session.system.clock.advanceUntil bound).1 = some id)
    (hfine : (session.system.told bound id).error? = none) :
    session.dispatchUntil bound (count + 1) =
      let report := session.hear (session.system.told bound id)
      let (ids, later) := report.session.dispatchUntil bound count
      (id :: ids, { later with trace := report.trace ++ later.trace }) := by
  have hreport : Session.perform { session with
      system.clock := (session.system.clock.advanceUntil bound).2 }
        (.timeout id) = session.hear (session.system.told bound id) := rfl
  have herror : (session.hear (session.system.told bound id)).error? = none :=
    hfine
  simp only [dispatchUntil, dispatch, hreleased, hreport, herror]

end Session

/-- A session that may go on for longer than the loop takes goes through all of it. -/
private theorem System.Dispatches.dispatchUntil {config : Config} {bound : Time}
    {system ended : System} {rounds : Nat}
    (hdispatches : Dispatches bound system rounds ended)
    (hreached : Reached config system) {session : Session}
    (hsession : session.system = system) {count : Nat}
    (hcount : rounds < count) :
    (session.dispatchUntil bound count).1.length = rounds ∧
      (session.dispatchUntil bound count).2.error? = none ∧
      (session.dispatchUntil bound count).2.session.system = ended := by
  induction hdispatches generalizing session count with
  | done hidle =>
      obtain ⟨more, rfl⟩ := Nat.exists_eq_add_one.mpr hcount
      subst hsession
      rw [Session.dispatchUntil_idle more hidle]
      exact ⟨rfl, rfl, rfl⟩
  | @round system ended id rounds hreleased _ ih =>
      obtain ⟨more, rfl⟩ :=
        Nat.exists_eq_add_one.mpr (Nat.zero_lt_of_lt hcount)
      subst hsession
      have hfine := told_error hreached.unset bound id
      obtain ⟨hlength, herror, hsystem⟩ := ih (hreached.told hreleased)
        (Session.system_hear session _) (Nat.lt_of_succ_lt_succ hcount)
      rw [Session.dispatchUntil_released more hreleased hfine]
      exact ⟨congrArg Nat.succ hlength, herror, hsystem⟩

/-- In every run with a proper configuration, whoever else has events on the clock and however many,
handing over to the station what the clock releases until some time before the last one comes to an
end.  Then the clock rests at that time, or where it stood if that was later, and no event is due by
it; and a session that does so meets no error on the way. -/
theorem dispatch_ends (config : Config) (hvalid : config.defect? = none)
    (moves : List Move) (bound : Time) (hbound : bound < .last) :
    let reached := (System.ofConfig config).run moves
    ∃ rounds ended, reached.Dispatches bound rounds ended ∧
      ended.clock.now = max bound reached.clock.now ∧
      (∀ event ∈ ended.clock.pending, bound < event.1) ∧
      ∀ session : Session, session.system = reached →
        ∀ count, rounds < count →
        let (ids, report) := session.dispatchUntil bound count
        ids.length = rounds ∧ report.error? = none ∧
          report.session.system = ended := by
  intro reached
  have hreached : reached.Reached config := ⟨moves, rfl⟩
  obtain ⟨rounds, ended, hdispatches⟩ := hreached.dispatches hvalid hbound
  obtain ⟨hnow, hpending⟩ := hdispatches.rests hreached hvalid hbound
  exact ⟨rounds, ended, hdispatches, hnow, hpending,
    fun session hsession count => hdispatches.dispatchUntil hreached hsession⟩

theorem dispatch_ends_sample :
    let bound : Time := .ofNanos 2000000000
    let reached := (System.ofConfig {}).run
      (.schedule (.ofNanos 5) :: Sample.joins)
    ∃ rounds ended, reached.Dispatches bound rounds ended ∧
      ended.clock.now = bound ∧
      (∀ event ∈ ended.clock.pending, bound < event.1) ∧
      (Session.dispatchUntil { system := reached } bound
        (rounds + 1)).1.length = rounds := by
  intro bound reached
  obtain ⟨rounds, ended, hdispatches, hnow, hpending, hsession⟩ :=
    dispatch_ends {} (by decide) (.schedule (.ofNanos 5) :: Sample.joins) bound
      (by decide)
  refine ⟨rounds, ended, hdispatches, hnow.trans (by decide), hpending, ?_⟩
  exact (hsession { system := reached } rfl _ (Nat.lt_succ_self _)).1

end Roaming

import Roaming.Proofs.Histories
import Roaming.Proofs.Reaction

namespace Roaming

/-! Runs of a station on a clock that it may share with others, and what has happened in them. -/

inductive Move
  | perform (decision : Decision) (operation : Operation)
  /-- The clock goes on to the next event due by `bound`, and the station is told of it. -/
  | advance (bound : Time)
  /-- The clock goes on likewise, and the station is told nothing. -/
  | withhold (bound : Time)
  /-- Somebody else schedules an event. -/
  | schedule (deadline : Time)
  /-- Somebody else cancels an event. -/
  | cancel (id : EventId)

namespace Move

/-- What a move makes of the clock. -/
def clock (clock : Clock) : Move → Clock
  | .perform _ _ => clock
  | .advance bound => (clock.advanceUntil bound).2
  | .withhold bound => (clock.advanceUntil bound).2
  | .schedule deadline => (clock.schedule deadline).2
  | .cancel id => clock.cancel id

/-- What a move has the station do, once the clock has gone on. -/
def operation? (clock : Clock) : Move → Option Operation
  | .perform _ operation => some operation
  | .advance bound => (clock.advanceUntil bound).1.map .timeout
  | _ => none

def decision : Move → Decision
  | .perform decision _ => decision
  | _ => fun _ _ => false

end Move

structure Moment where
  before : System
  move : Move

namespace Moment

/-- The system in which the station is told what to do. -/
def opened (moment : Moment) : System :=
  ⟨moment.before.station, moment.move.clock moment.before.clock⟩

@[simp] theorem station_opened (moment : Moment) :
    moment.opened.station = moment.before.station := rfl

def operation? (moment : Moment) : Option Operation :=
  moment.move.operation? moment.before.clock

def outcome (moment : Moment) : Outcome :=
  match moment.operation? with
  | none => { system := moment.opened }
  | some operation => moment.opened.perform moment.move.decision operation

def after (moment : Moment) : System := moment.outcome.system

/-- What a moment comes to: it leaves the station alone, or has it react. -/
inductive Course (moment : Moment) : Prop
  | idle (hoperation : moment.operation? = none)
      (hafter : moment.after = moment.opened)
      (heffects : moment.outcome.effects = [])
  | reacted {operation : Operation} {turn : Turn}
      (hoperation : moment.operation? = some operation)
      (hreaction : Reaction moment.opened moment.move.decision operation turn)
      (hstation : moment.after.station =
        { turn.station with
          reportedAp := turn.settledAp moment.before.station.isAssociated })
      (hclock : moment.after.clock = turn.clock)
      (heffects : moment.outcome.effects =
        turn.effects ++ turn.parting moment.before.station.isAssociated)

theorem course (moment : Moment) : moment.Course := by
  cases hoperation : moment.operation? with
  | none =>
      have houtcome : moment.outcome = { system := moment.opened } := by
        simp [outcome, hoperation]
      refine .idle hoperation ?_ ?_
      · rw [after, houtcome]
      · rw [houtcome]
  | some operation =>
      have houtcome : moment.outcome =
          moment.opened.perform moment.move.decision operation := by
        simp [outcome, hoperation]
      obtain ⟨turn, hreaction, hsystem, heffects⟩ :=
        moment.opened.perform_reacts moment.move.decision operation
      refine .reacted hoperation hreaction ?_ ?_ ?_
      · rw [after, houtcome, hsystem]
        exact Turn.station_settle ..
      · rw [after, houtcome, hsystem]
        exact Turn.clock_settle ..
      · rw [houtcome, heffects]
        exact Turn.effects_settle ..

theorem config_after (moment : Moment) :
    moment.after.station.config = moment.before.station.config := by
  cases moment.course with
  | idle _ hafter =>
      rw [hafter]
      rfl
  | reacted _ hreaction hstation =>
      rw [hstation]
      exact hreaction.config_eq

/-- The station once it has noted what it is told, before it acts upon it. -/
def noted (moment : Moment) : Station :=
  moment.operation?.elim moment.before.station moment.before.station.prepare

/-- What no reaction changes is as the station has noted it. -/
theorem eq_noted {α : Type} (moment : Moment) {field : Station → α}
    (hreported : ∀ station reported,
      field { station with reportedAp := reported } = field station)
    (hreaction : ∀ {system : System} {decision operation turn},
      Reaction system decision operation turn →
      field turn.station = field (system.station.prepare operation)) :
    field moment.after.station = field moment.noted := by
  unfold noted
  cases moment.course with
  | idle hoperation hafter =>
      rw [hafter, hoperation]
      rfl
  | reacted hoperation hreacted hstation =>
      have hnoted := hreaction hreacted
      rw [hstation, hoperation, hreported]
      exact hnoted

end Moment

namespace System

def run (system : System) (moves : List Move) : System :=
  moves.foldl (fun system move => Moment.after ⟨system, move⟩) system

def history (system : System) : List Move → List Moment
  | [] => []
  | move :: moves =>
      ⟨system, move⟩ :: (Moment.after ⟨system, move⟩).history moves

theorem run_append (system : System) (moves later : List Move) :
    system.run (moves ++ later) = (system.run moves).run later :=
  List.foldl_append

theorem history_append (system : System) (moves later : List Move) :
    system.history (moves ++ later) =
      system.history moves ++ (system.run moves).history later := by
  induction moves generalizing system with
  | nil => rfl
  | cons move moves ih =>
      exact congrArg (List.cons _) (ih (Moment.after ⟨system, move⟩))

theorem history_concat (system : System) (moves : List Move) (move : Move) :
    system.history (moves ++ [move]) =
      system.history moves ++ [⟨system.run moves, move⟩] :=
  history_append system moves [move]

theorem run_concat (system : System) (moves : List Move) (move : Move) :
    system.run (moves ++ [move]) = Moment.after ⟨system.run moves, move⟩ :=
  run_append system moves [move]

/-- Each moment of a run found the system that the moves before it had led to. -/
theorem history_split {system : System} {moves : List Move}
    {earlier later : List Moment} {moment : Moment}
    (h : system.history moves = earlier ++ moment :: later) :
    ∃ before after, moves = before ++ moment.move :: after ∧
      earlier = system.history before ∧
      moment.before = system.run before := by
  induction moves generalizing system earlier with
  | nil => exact absurd h (by simp [history])
  | cons move moves ih =>
      cases earlier with
      | nil =>
          obtain ⟨hfirst, _⟩ := List.cons.inj h
          subst hfirst
          exact ⟨[], moves, rfl, rfl, rfl⟩
      | cons first earlier =>
          obtain ⟨hfirst, hrest⟩ := List.cons.inj h
          obtain ⟨before, after, hmoves, hearlier, hbefore⟩ := ih hrest
          refine ⟨move :: before, after, ?_, ?_, hbefore⟩
          · exact congrArg (List.cons move) hmoves
          · rw [← hfirst, hearlier]
            rfl

theorem move_mem {system : System} {moves : List Move} {moment : Moment}
    (hmoment : moment ∈ system.history moves) : moment.move ∈ moves := by
  obtain ⟨earlier, later, hhistory⟩ := List.append_of_mem hmoment
  obtain ⟨before, after, rfl, _⟩ := history_split hhistory
  exact List.mem_append_right _ List.mem_cons_self

theorem history_around (system : System) (before inside : List Move)
    (first last : Move) :
    let moment : Moment := ⟨system.run before, first⟩
    system.history (before ++ first :: (inside ++ [last])) =
      system.history before ++ moment :: (moment.after.history inside ++
        [⟨moment.after.run inside, last⟩]) := by
  intro moment
  rw [history_append]
  exact congrArg (fun rest => system.history before ++ moment :: rest)
    (history_concat moment.after inside last)

/-- What lies between two moments of a run is a run by itself, from where the first one had led. -/
theorem history_between {system : System} {moves : List Move}
    {earlier between later : List Moment} {first second : Moment}
    (h : system.history moves =
      earlier ++ first :: (between ++ second :: later)) :
    ∃ before inside, first.before = system.run before ∧
      between = first.after.history inside ∧
      second.before = first.after.run inside := by
  obtain ⟨before, after, rfl, rfl, hfirst⟩ := history_split h
  rw [history_append] at h
  obtain ⟨_, hrest⟩ := List.cons.inj (List.append_cancel_left h)
  rw [← hfirst] at hrest
  obtain ⟨inside, _, _, hbetween, hsecond⟩ := history_split hrest
  exact ⟨before, inside, hfirst, hbetween, hsecond⟩

/-- What holds at the start, and of a run and its end whenever it held one move earlier, holds of
every run. -/
theorem run_induction {motive : List Moment → System → Prop} {system : System}
    (start : motive [] system)
    (step : ∀ history system move, motive history system →
      motive (history ++ [⟨system, move⟩]) (Moment.after ⟨system, move⟩))
    (moves : List Move) :
    motive (system.history moves) (system.run moves) := by
  -- The induction is along the moves to come, so the history so far has to vary.
  suffices hgeneral : ∀ earlier, motive earlier system →
      motive (earlier ++ system.history moves) (system.run moves) from
    hgeneral [] start
  clear start
  induction moves generalizing system with
  | nil => simp [history, run]
  | cons move moves ih =>
      intro earlier hearlier
      have hlater := ih _ (step earlier system move hearlier)
      rwa [List.append_assoc] at hlater

/-- The same for runs whose moments all meet a premise. -/
theorem run_induction_of {motive : List Moment → System → Prop}
    {premise : Moment → Prop} {system : System} (start : motive [] system)
    (step : ∀ history moment, premise moment → motive history moment.before →
      motive (history ++ [moment]) moment.after)
    {moves : List Move}
    (hpremise : ∀ moment ∈ system.history moves, premise moment) :
    motive (system.history moves) (system.run moves) := by
  refine run_induction (motive := fun history system =>
    (∀ moment ∈ history, premise moment) → motive history system)
    (fun _ => start) ?_ moves hpremise
  intro history system move hbefore hmoments
  refine step history ⟨system, move⟩ ?_ (hbefore fun moment hmoment => ?_)
  · exact hmoments _ (List.mem_append_right _ (List.mem_singleton_self _))
  · exact hmoments moment (List.mem_append_left _ hmoment)

/-- What holds of the station at the start, and after every reaction of a station of which it
held, holds after every run. -/
theorem station_induction {motive : Station → Prop} {system : System}
    (start : motive system.station)
    (step : ∀ (system : System) decision operation turn,
      motive system.station → Reaction system decision operation turn →
      motive (turn.settle system.station.isAssociated).station)
    (moves : List Move) :
    motive (system.run moves).station := by
  refine run_induction (motive := fun _ system => motive system.station)
    start ?_ moves
  intro _ system move hbefore
  cases Moment.course ⟨system, move⟩ with
  | idle _ hafter =>
      rw [hafter]
      exact hbefore
  | reacted _ hreaction hstation =>
      rw [hstation, ← Turn.station_settle]
      exact step (Moment.opened ⟨system, move⟩) _ _ _ hbefore hreaction

theorem config_run (config : Config) (moves : List Move) :
    ((ofConfig config).run moves).station.config = config := by
  refine station_induction (motive := fun station =>
    station.config = config) rfl ?_ moves
  intro system decision operation turn hbefore hreaction
  rw [Turn.station_settle]
  exact hreaction.config_eq.trans hbefore

end System

/-- Something has happened, and ever since something else has been so. -/
def Since (happened holds : Moment → Prop) (history : List Moment) : Prop :=
  ∃ earlier moment later, history = earlier ++ moment :: later ∧
    happened moment ∧ ∀ other ∈ later, holds other

section Since

variable {happened holds : Moment → Prop} {history : List Moment}
  {moment : Moment}

theorem not_since_nil : ¬Since happened holds [] := by
  rintro ⟨earlier, moment, later, hhistory, _⟩
  simp at hhistory

theorem Since.append (hsince : Since happened holds history)
    {more : List Moment} (hmore : ∀ other ∈ more, holds other) :
    Since happened holds (history ++ more) := by
  obtain ⟨earlier, first, later, rfl, hfirst, hlater⟩ := hsince
  refine ⟨earlier, first, later ++ more, by simp, hfirst, ?_⟩
  intro other hother
  rcases List.mem_append.mp hother with hother | hother
  · exact hlater other hother
  · exact hmore other hother

theorem since_concat :
    Since happened holds (history ++ [moment]) ↔
      happened moment ∨ Since happened holds history ∧ holds moment :=
  split_concat_iff

end Since

namespace Sample

/-! A station that joins the first network it hears of. -/

def own : MacAddr := ⟨0x021111111111#48⟩

def accessPoint : MacAddr := ⟨0x022222222222#48⟩

def beacon : Frame where
  header := {
    kind := .beacon
    receiver := .broadcast
    transmitter := accessPoint
    third := accessPoint }
  body := { beaconInterval := .usualBeaconInterval }

def response : Frame where
  header := {
    kind := .assocResponse
    receiver := own
    transmitter := accessPoint
    third := accessPoint }

def data : Frame where
  header := {
    kind := .data
    receiver := own
    transmitter := accessPoint
    third := accessPoint
    fromDs := true }
  payload := [1, 2, 3]

def refuse : Decision := fun _ _ => false

def joins : List Move :=
  [.perform refuse (.setAddress own), .perform refuse (.receive beacon),
    .perform refuse (.receive response)]

end Sample

end Roaming

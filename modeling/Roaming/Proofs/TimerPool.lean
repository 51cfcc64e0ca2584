import Mathlib.Logic.Function.Basic
import Roaming.Proofs.EventQueue
import Roaming.Proofs.Histories

namespace Roaming

/-! Any number of users who share a clock, each with a timer of its own, and what one step of theirs
makes of the clock and the timers. -/

namespace Clock

/-- The events of a clock in the order in which it releases them, going on from each to the next. -/
def releaseOrder (clock : Clock) : List EventId :=
  (clock.history (.replicate clock.pending.length .advanceToNext)).filterMap
    Tick.released?

private theorem releaseOrder_eq (clock : Clock) :
    clock.releaseOrder = clock.pending.map Prod.snd := by
  obtain ⟨events, hpending⟩ : ∃ events, clock.pending = events := ⟨_, rfl⟩
  induction events generalizing clock with
  | nil => simp [releaseOrder, hpending, history]
  | cons event events ih =>
      have hadvanced := advanceToNext_of_first hpending
      have hrest := ih { clock.pop with now := max clock.now event.1 }
        (pending_pop hpending)
      simp only [releaseOrder, hpending, pending_pop hpending,
        List.length_cons, List.replicate_succ, history,
        List.filterMap_cons, Tick.released?, Tick.after, hadvanced,
        List.map_cons] at hrest ⊢
      rw [hrest]

/-- The clock with those of its events that are to be kept, under both their keys. -/
def keep (clock : Clock) (kept : EventId → Bool) : Clock :=
  { clock with
    toAgenda := clock.toAgenda.keep kept
    mirrored := clock.mirrored.keep kept }

theorem cancel_eq_keep (clock : Clock) (id : EventId) :
    clock.cancel id = clock.keep (· ≠ id) := by
  simp only [cancel, keep, clock.mirrored.cancel_eq_keep]

theorem keep_congr {clock : Clock} {first second : EventId → Bool}
    (hsame : ∀ event ∈ clock.pending, first event.2 = second event.2) :
    clock.keep first = clock.keep second := by
  simp only [keep, clock.mirrored.keep_congr hsame]

/-- Cancelling one event after another takes all of them off, in whatever order they come. -/
private theorem foldl_cancel (ids : List EventId) (clock : Clock) :
    ids.foldl cancel clock = clock.keep (· ∉ ids) := by
  induction ids generalizing clock with
  | nil => simp [keep, Agenda.keep_all]
  | cons id ids ih =>
      have hboth : (clock.cancel id).keep (· ∉ ids) =
          clock.keep fun other => other ∉ ids && other ≠ id := by
        simp only [cancel_eq_keep, keep, Agenda.keep_keep]
      rw [List.foldl_cons, ih, hboth]
      exact keep_congr fun event _ => by simp [Bool.and_comm]

/-- Whatever a clock is advanced by, it schedules nothing. -/
structure Passes (clock later : Clock) : Prop where
  issued : later.issued = clock.issued
  sublist : later.pending.Sublist clock.pending

private theorem passes_advanceUntil (clock : Clock) (bound : Time) :
    clock.Passes (clock.advanceUntil bound).2 := by
  refine ⟨issued_advanceUntil clock bound, ?_⟩
  cases hreleased : (clock.advanceUntil bound).1 with
  | none => rw [(advanceUntil_none hreleased).1]
  | some id =>
      obtain ⟨⟨deadline, hpending⟩, _⟩ := advanceUntil_some hreleased
      rw [hpending]
      exact List.sublist_cons_self ..

private theorem passes_advanceToNext (clock : Clock) :
    clock.Passes clock.advanceToNext.2 := by
  cases hpending : clock.pending with
  | nil =>
      rw [advanceToNext_of_nil hpending]
      exact ⟨rfl, .refl _⟩
  | cons event events =>
      rw [advanceToNext_of_cons hpending]
      exact passes_advanceUntil clock event.1

end Clock

theorem Timer.lookup?_eq_none {Payload : Type} {timer : Timer Payload}
    {id : EventId} :
    timer.lookup? id = none ↔ id ∉ timer.events.map Prod.fst := by
  rw [lookup?, List.lookup_eq_none_iff, List.mem_map]
  constructor
  · rintro habsent ⟨event, hevent, rfl⟩
    exact absurd rfl (bne_iff_ne.mp (habsent event hevent))
  · intro habsent event hevent
    exact bne_iff_ne.mpr fun hid => habsent ⟨event, hevent, hid.symm⟩

structure TimerPool (User Payload : Type) where
  clock : Clock
  timers : User → Timer Payload

namespace TimerPool

inductive Step (User Payload : Type)
  | scheduleAt (user : User) (deadline : Time) (payload : Payload)
  | scheduleAfter (user : User) (delay : Duration) (payload : Payload)
  | cancel (user : User) (id : EventId)
  | cancelAll (user : User)
  | take (user : User) (id : EventId)
  | advanceUntil (bound : Time)
  | advanceBy (delay : Duration)
  | advanceToNext

/-- An event that a user has scheduled. -/
structure Entry (User Payload : Type) where
  user : User
  id : EventId
  payload : Payload

namespace Step

variable {User Payload : Type}

def user? : Step User Payload → Option User
  | .scheduleAt user _ _ | .scheduleAfter user _ _ | .cancel user _
  | .cancelAll user | .take user _ => some user
  | .advanceUntil _ | .advanceBy _ | .advanceToNext => none

/-- After such a step the payload of the event is gone. -/
def Revokes (step : Step User Payload) (user : User) (id : EventId) : Prop :=
  step = .cancel user id ∨ step = .cancelAll user ∨ step = .take user id

/-- Users name none but events of their own. -/
def Fair (issued : User → List EventId) : Step User Payload → Prop
  | .cancel user id | .take user id => id ∈ issued user
  | _ => True

def taken? [DecidableEq User] (user : User) :
    Step User Payload → Option EventId
  | .take taker id => if taker = user then some id else none
  | _ => none

end Step

variable {User Payload : Type}

def entered? (pool : TimerPool User Payload) :
    Step User Payload → Option (Entry User Payload)
  | .scheduleAt user deadline payload =>
      let id := ((pool.timers user).scheduleAt pool.clock deadline payload).1
      some ⟨user, id, payload⟩
  | .scheduleAfter user delay payload =>
      let id := ((pool.timers user).scheduleAfter pool.clock delay payload).1
      some ⟨user, id, payload⟩
  | _ => none

section Entry

variable {pool : TimerPool User Payload} {step : Step User Payload}
  {user : User} {id : EventId} {payload : Payload}

private theorem user_of_entry {entry : Entry User Payload}
    (hentry : pool.entered? step = some entry) :
    step.user? = some entry.user := by
  cases step with
  | scheduleAt | scheduleAfter =>
      obtain rfl := Option.some.inj hentry
      rfl
  | cancel | cancelAll | take | advanceUntil | advanceBy | advanceToNext =>
      cases hentry

private theorem user_of_revokes (hrevokes : step.Revokes user id) :
    step.user? = some user := by
  rcases hrevokes with rfl | rfl | rfl <;> rfl

/-- No timer has a payload for an event that has not been scheduled yet. -/
def Fresh (pool : TimerPool User Payload) : Prop :=
  ∀ user id payload, (pool.timers user).lookup? id = some payload →
    id.index ≤ pool.clock.issued

private theorem Fresh.lookup?_insert (hfresh : pool.Fresh) (user : User)
    (stored : Payload) :
    ((pool.timers user).insert ⟨pool.clock.issued + 1⟩ stored).lookup? id =
        some payload ↔
      (⟨pool.clock.issued + 1⟩ = id ∧ stored = payload) ∨
        (pool.timers user).lookup? id = some payload := by
  rw [Timer.lookup?_insert]
  split
  · next hnew =>
      subst hnew
      have hnone : (pool.timers user).lookup? ⟨pool.clock.issued + 1⟩ ≠
          some payload :=
        fun hstored => Nat.not_succ_le_self _ (hfresh _ _ _ hstored)
      simp [hnone]
  · next hold => simp [Ne.symm hold]

/-- What a step of somebody else leaves to a user: its payloads, the time, and its events on the
clock with their deadlines and in the order of their release. -/
structure Undisturbed (pool : TimerPool User Payload) (user : User)
    (own : List EventId) (later : TimerPool User Payload) : Prop where
  timer : later.timers user = pool.timers user
  now : later.clock.now = pool.clock.now
  pending : (later.clock.pending.filter fun event => event.2 ∈ own) =
    pool.clock.pending.filter fun event => event.2 ∈ own
  order : (later.clock.releaseOrder.filter fun id => id ∈ own) =
    pool.clock.releaseOrder.filter fun id => id ∈ own

theorem undisturbed_of {later : TimerPool User Payload} {own : List EventId}
    (htimer : later.timers user = pool.timers user)
    (hnow : later.clock.now = pool.clock.now)
    (hpending : (later.clock.pending.filter fun event => event.2 ∈ own) =
      pool.clock.pending.filter fun event => event.2 ∈ own) :
    pool.Undisturbed user own later := by
  refine ⟨htimer, hnow, hpending, ?_⟩
  have hmap (events : List (Time × EventId)) :
      (events.map Prod.snd).filter (fun id => id ∈ own) =
        (events.filter fun event => event.2 ∈ own).map Prod.snd :=
    List.filter_map
  rw [Clock.releaseOrder_eq, Clock.releaseOrder_eq, hmap, hmap, hpending]

end Entry

variable [DecidableEq User]

def start : TimerPool User Payload := ⟨.start, fun _ => .empty⟩

def withTimer (pool : TimerPool User Payload) (user : User)
    (timer : Timer Payload) (clock : Clock) : TimerPool User Payload :=
  ⟨clock, Function.update pool.timers user timer⟩

def after (pool : TimerPool User Payload) :
    Step User Payload → TimerPool User Payload
  | .scheduleAt user deadline payload =>
      let (_, timer, clock) :=
        (pool.timers user).scheduleAt pool.clock deadline payload
      pool.withTimer user timer clock
  | .scheduleAfter user delay payload =>
      let (_, timer, clock) :=
        (pool.timers user).scheduleAfter pool.clock delay payload
      pool.withTimer user timer clock
  | .cancel user id =>
      let (timer, clock) := (pool.timers user).cancel pool.clock id
      pool.withTimer user timer clock
  | .cancelAll user =>
      let (timer, clock) := (pool.timers user).cancelAll pool.clock
      pool.withTimer user timer clock
  | .take user id =>
      pool.withTimer user ((pool.timers user).take id).2 pool.clock
  | .advanceUntil bound =>
      { pool with clock := (pool.clock.advanceUntil bound).2 }
  | .advanceBy delay => { pool with clock := (pool.clock.advanceBy delay).2 }
  | .advanceToNext => { pool with clock := pool.clock.advanceToNext.2 }

def run (steps : List (Step User Payload)) : TimerPool User Payload :=
  steps.foldl after start

def entriesFrom (pool : TimerPool User Payload) :
    List (Step User Payload) → List (Entry User Payload)
  | [] => []
  | step :: steps =>
      (pool.entered? step).toList ++ (pool.after step).entriesFrom steps

def entries (steps : List (Step User Payload)) : List (Entry User Payload) :=
  start.entriesFrom steps

/-- The events that a user has scheduled. -/
def issued (steps : List (Step User Payload)) (user : User) : List EventId :=
  (entries steps).filterMap fun entry =>
    if entry.user = user then some entry.id else none

/-- The events whose payloads a user has asked for. -/
def taken (steps : List (Step User Payload)) (user : User) : List EventId :=
  steps.filterMap (Step.taken? user)

/-- Steps in which users name none but events that they have scheduled before. -/
inductive Fair : List (Step User Payload) → Prop
  | start : Fair []
  | concat {steps : List (Step User Payload)} {step : Step User Payload}
      (hfair : Fair steps) (hstep : step.Fair (issued steps)) :
      Fair (steps ++ [step])

/-- The payload has been stored with the event, and has not been revoked since. -/
def Live (steps : List (Step User Payload)) (user : User) (id : EventId)
    (payload : Payload) : Prop :=
  ∃ before step later, steps = before ++ step :: later ∧
    (run before).entered? step = some ⟨user, id, payload⟩ ∧
    ∀ next ∈ later, ¬next.Revokes user id

theorem run_concat (steps : List (Step User Payload))
    (step : Step User Payload) :
    run (steps ++ [step]) = (run steps).after step :=
  List.foldl_append

theorem entriesFrom_append (pool : TimerPool User Payload)
    (steps later : List (Step User Payload)) :
    pool.entriesFrom (steps ++ later) =
      pool.entriesFrom steps ++ (steps.foldl after pool).entriesFrom later := by
  induction steps generalizing pool with
  | nil => rfl
  | cons step steps ih =>
      rw [List.cons_append, entriesFrom, entriesFrom, ih, List.append_assoc]
      rfl

theorem entries_concat (steps : List (Step User Payload))
    (step : Step User Payload) :
    entries (steps ++ [step]) =
      entries steps ++ ((run steps).entered? step).toList := by
  rw [entries, entriesFrom_append, entriesFrom, entriesFrom, List.append_nil]
  rfl

theorem mem_issued {steps : List (Step User Payload)} {user : User}
    {id : EventId} :
    id ∈ issued steps user ↔
      ∃ entry ∈ entries steps, entry.user = user ∧ entry.id = id := by
  simp [issued]

theorem live_concat {steps : List (Step User Payload)}
    {step : Step User Payload} {user : User} {id : EventId}
    {payload : Payload} :
    Live (steps ++ [step]) user id payload ↔
      (run steps).entered? step = some ⟨user, id, payload⟩ ∨
        Live steps user id payload ∧ ¬step.Revokes user id :=
  split_concat_iff

section After

variable {pool : TimerPool User Payload} {step : Step User Payload}
  {user : User} {id : EventId} {payload : Payload}

theorem clock_cancelAll :
    (pool.after (.cancelAll user)).clock =
      pool.clock.keep (· ∉ (pool.timers user).events.map Prod.fst) := by
  rw [← Clock.foldl_cancel, List.foldl_map]
  rfl

theorem id_of_entry {entry : Entry User Payload}
    (hentry : pool.entered? step = some entry) :
    entry.id = ⟨pool.clock.issued + 1⟩ ∧
      (pool.after step).clock.issued = pool.clock.issued + 1 := by
  cases step with
  | scheduleAt | scheduleAfter =>
      obtain rfl := Option.some.inj hentry
      exact ⟨rfl, rfl⟩
  | cancel | cancelAll | take | advanceUntil | advanceBy | advanceToNext =>
      cases hentry

private theorem passes_after (hnobody : step.user? = none) :
    pool.clock.Passes (pool.after step).clock ∧
      (pool.after step).timers = pool.timers := by
  cases step with
  | scheduleAt | scheduleAfter | cancel | cancelAll | take => cases hnobody
  | advanceUntil | advanceBy => exact ⟨Clock.passes_advanceUntil .., rfl⟩
  | advanceToNext => exact ⟨Clock.passes_advanceToNext _, rfl⟩

theorem issued_le : pool.clock.issued ≤ (pool.after step).clock.issued := by
  cases step with
  | scheduleAt | scheduleAfter => exact Nat.le_succ _
  | cancel | take => exact Nat.le_refl _
  | cancelAll user =>
      exact Nat.le_of_eq (congrArg Clock.issued clock_cancelAll).symm
  | advanceUntil | advanceBy | advanceToNext =>
      exact Nat.le_of_eq (passes_after rfl).1.issued.symm

theorem timers_of_ne (hother : step.user? ≠ some user) :
    (pool.after step).timers user = pool.timers user := by
  cases step with
  | scheduleAt | scheduleAfter | cancel | cancelAll | take =>
      exact Function.update_of_ne
        (fun hsame => hother (congrArg some hsame.symm)) ..
  | advanceUntil | advanceBy | advanceToNext => rfl

/-- What a user's timer holds is what has been scheduled there and not revoked. -/
theorem lookup?_after (hfresh : pool.Fresh) :
    ((pool.after step).timers user).lookup? id = some payload ↔
      pool.entered? step = some ⟨user, id, payload⟩ ∨
        (pool.timers user).lookup? id = some payload ∧
          ¬step.Revokes user id := by
  by_cases hown : step.user? = some user
  · cases step with
    | scheduleAt owner time stored | scheduleAfter owner time stored =>
        obtain rfl := Option.some.inj hown
        simp only [after, withTimer, entered?, Timer.scheduleAfter,
          Timer.scheduleAt, Clock.schedule, Function.update_self,
          hfresh.lookup?_insert, Option.some.injEq, Entry.mk.injEq, true_and]
        simp [Step.Revokes]
    | cancel owner other | take owner other =>
        obtain rfl := Option.some.inj hown
        simp [after, withTimer, entered?, Timer.cancel, Timer.take,
          Timer.lookup?_erase, Step.Revokes, and_comm, eq_comm]
    | cancelAll owner =>
        obtain rfl := Option.some.inj hown
        simp [after, withTimer, entered?, Timer.cancelAll, Timer.empty,
          Timer.lookup?, Step.Revokes]
    | advanceUntil | advanceBy | advanceToNext => cases hown
  · have hentry : pool.entered? step ≠ some ⟨user, id, payload⟩ :=
      fun hentry => hown (user_of_entry hentry)
    have hkept : ¬step.Revokes user id := fun hrevokes =>
      hown (user_of_revokes hrevokes)
    simp [timers_of_ne hown, hentry, hkept]

theorem pending_after {event : Time × EventId}
    (hevent : event ∈ (pool.after step).clock.pending) :
    event ∈ pool.clock.pending ∨ event.2 = ⟨pool.clock.issued + 1⟩ := by
  cases step with
  | scheduleAt | scheduleAfter =>
      rcases Agenda.mem_enqueue.mp hevent with rfl | hevent
      · exact .inr rfl
      · exact .inl hevent
  | cancel => exact .inl (Clock.mem_pending_cancel.mp hevent).1
  | cancelAll =>
      rw [clock_cancelAll] at hevent
      exact .inl (List.mem_filter.mp hevent).1
  | take => exact .inl hevent
  | advanceUntil | advanceBy | advanceToNext =>
      exact .inl ((passes_after rfl).1.sublist.mem hevent)

end After

end TimerPool

end Roaming

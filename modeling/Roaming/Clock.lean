import Roaming.Agenda

namespace Roaming

/-! A virtual clock and the events scheduled on it.  Events are released by deadline, and in the
order of scheduling where deadlines agree. -/

/-- On its agenda are the events neither released nor cancelled. -/
structure Clock extends Agenda where
  now : Time
  /-- How many events have been scheduled so far. -/
  issued : Nat
  mirrored : toAgenda.Mirrored issued
deriving DecidableEq

namespace Clock

def start : Clock := ⟨.empty, .zero, 0, .empty⟩

/-- Deadlines that have passed fall due at once. -/
def schedule (clock : Clock) (deadline : Time) : EventId × Clock :=
  let id : EventId := ⟨clock.issued + 1⟩
  let deadline := max deadline clock.now
  (id, { clock with
    toAgenda := clock.toAgenda.insert deadline id
    issued := clock.issued + 1
    mirrored := clock.mirrored.insert deadline })

def cancel (clock : Clock) (id : EventId) : Clock :=
  { clock with
    toAgenda := clock.toAgenda.cancel id
    mirrored := clock.mirrored.cancel id }

def pop (clock : Clock) : Clock :=
  { clock with
    toAgenda := clock.toAgenda.pop
    mirrored := clock.mirrored.pop }

/-- Releases the first event due by `bound`; without one the clock rests at `bound`. -/
def advanceUntil (clock : Clock) (bound : Time) : Option EventId × Clock :=
  match clock.pending with
  | [] => (none, { clock with now := max clock.now bound })
  | (deadline, id) :: _ =>
      if deadline ≤ bound then
        (some id, { clock.pop with now := max clock.now deadline })
      else (none, { clock with now := max clock.now bound })

def advanceBy (clock : Clock) (delay : Duration) : Option EventId × Clock :=
  clock.advanceUntil (clock.now.after delay)

def nextDeadline? (clock : Clock) : Option Time :=
  clock.pending.head?.map Prod.fst

def pendingEvents (clock : Clock) : Nat :=
  clock.pending.length

def advanceToNext (clock : Clock) : Option EventId × Clock :=
  match clock.nextDeadline? with
  | none => (none, clock)
  | some deadline => clock.advanceUntil deadline

variable (clock : Clock) (id : EventId)

@[simp] theorem now_schedule (deadline : Time) :
    (clock.schedule deadline).2.now = clock.now := rfl

@[simp] theorem issued_schedule (deadline : Time) :
    (clock.schedule deadline).2.issued = clock.issued + 1 := rfl

@[simp] theorem pending_schedule (deadline : Time) :
    (clock.schedule deadline).2.pending =
      Agenda.enqueue (max deadline clock.now, ⟨clock.issued + 1⟩)
        clock.pending := rfl

@[simp] theorem now_cancel : (clock.cancel id).now = clock.now := rfl

@[simp] theorem issued_cancel : (clock.cancel id).issued = clock.issued := rfl

@[simp] theorem pending_cancel :
    (clock.cancel id).pending =
      clock.pending.filter fun event => event.2 ≠ id :=
  congrArg Agenda.pending (clock.mirrored.cancel_eq_keep id)

@[simp] theorem now_pop : clock.pop.now = clock.now := rfl

@[simp] theorem issued_pop : clock.pop.issued = clock.issued := rfl

theorem pending_pop {clock : Clock} {event : Time × EventId}
    {events : List (Time × EventId)}
    (hpending : clock.pending = event :: events) :
    clock.pop.pending = events := by
  simp [pop, Agenda.pop, hpending, Agenda.remove]

end Clock

end Roaming

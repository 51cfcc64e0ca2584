import Roaming.Clock

namespace Roaming

/-! A table of payloads for the events that one user has scheduled on a clock. -/

structure Timer (Payload : Type) where
  events : List (EventId × Payload)

namespace Timer

variable {Payload : Type}

def empty : Timer Payload := ⟨[]⟩

def lookup? (timer : Timer Payload) (id : EventId) : Option Payload :=
  timer.events.lookup id

def erase (timer : Timer Payload) (id : EventId) : Timer Payload :=
  ⟨timer.events.filter fun event => event.1 ≠ id⟩

def insert (timer : Timer Payload) (id : EventId) (payload : Payload) :
    Timer Payload :=
  ⟨(id, payload) :: (timer.erase id).events⟩

/-- Hands out the payload of a released event, once. -/
def take (timer : Timer Payload) (id : EventId) :
    Option Payload × Timer Payload :=
  (timer.lookup? id, timer.erase id)

def scheduleAt (timer : Timer Payload) (clock : Clock) (deadline : Time)
    (payload : Payload) : EventId × Timer Payload × Clock :=
  let (id, clock) := clock.schedule deadline
  (id, timer.insert id payload, clock)

def scheduleAfter (timer : Timer Payload) (clock : Clock) (delay : Duration)
    (payload : Payload) : EventId × Timer Payload × Clock :=
  timer.scheduleAt clock (clock.now.after delay) payload

/-- Drops the payload, and the event itself from the clock. -/
def cancel (timer : Timer Payload) (clock : Clock) (id : EventId) :
    Timer Payload × Clock :=
  (timer.erase id, clock.cancel id)

def cancelAll (timer : Timer Payload) (clock : Clock) :
    Timer Payload × Clock :=
  (empty, timer.events.foldl (fun clock event => clock.cancel event.1) clock)

end Timer

end Roaming

import Roaming.Timer

namespace Roaming

/-! The timeouts of a station, at most one of each kind running. -/

inductive Timeout
  | probeRequest | assocRequest | beaconWatchdog
deriving DecidableEq

structure Armed where
  id : EventId
  deadline : Time
deriving DecidableEq

structure Timeouts where
  timer : Timer Timeout
  probeRequest : Option Armed
  assocRequest : Option Armed
  beaconWatchdog : Option Armed
  /-- The latest time that the watchdog has been asked to cover. -/
  coverage : Time

namespace Timeouts

def idle : Timeouts := ⟨.empty, none, none, none, .zero⟩

def armed? (timeouts : Timeouts) : Timeout → Option Armed
  | .probeRequest => timeouts.probeRequest
  | .assocRequest => timeouts.assocRequest
  | .beaconWatchdog => timeouts.beaconWatchdog

def withArmed (timeouts : Timeouts) (kind : Timeout) (armed : Option Armed) :
    Timeouts :=
  match kind with
  | .probeRequest => { timeouts with probeRequest := armed }
  | .assocRequest => { timeouts with assocRequest := armed }
  | .beaconWatchdog => { timeouts with beaconWatchdog := armed }

def isRunning (timeouts : Timeouts) (kind : Timeout) : Bool :=
  (timeouts.armed? kind).isSome

def cancel (timeouts : Timeouts) (clock : Clock) (kind : Timeout) :
    Timeouts × Clock :=
  match timeouts.armed? kind with
  | none => (timeouts, clock)
  | some armed =>
      let (timer, clock) := timeouts.timer.cancel clock armed.id
      ({ timeouts with timer := timer }.withArmed kind none, clock)

/-- Replaces a running timeout of the same kind. -/
def start (timeouts : Timeouts) (clock : Clock) (kind : Timeout)
    (delay : Duration) : Timeouts × Clock :=
  let (timeouts, clock) := timeouts.cancel clock kind
  let deadline := clock.now.after delay
  let (id, timer, clock) := timeouts.timer.scheduleAt clock deadline kind
  ({ timeouts with timer := timer }.withArmed kind (some ⟨id, deadline⟩), clock)

/-- The kind of timeout that a released event belongs to, unless it is stale. -/
def take (timeouts : Timeouts) (id : EventId) : Option Timeout × Timeouts :=
  match timeouts.timer.take id with
  | (none, timer) => (none, { timeouts with timer := timer })
  | (some kind, timer) =>
      let timeouts := { timeouts with timer := timer }
      match timeouts.armed? kind with
      | none => (none, timeouts)
      | some armed =>
          if armed.id = id then (some kind, timeouts.withArmed kind none)
          else (none, timeouts)

/-- Makes the watchdog cover at least `delay` from now.  A running watchdog is left alone and
rearms itself when it fires. -/
def extendWatchdog (timeouts : Timeouts) (clock : Clock) (delay : Duration) :
    Timeouts × Clock :=
  let timeouts := { timeouts with
    coverage := max (clock.now.after delay) timeouts.coverage }
  if timeouts.isRunning .beaconWatchdog then (timeouts, clock)
  else timeouts.start clock .beaconWatchdog delay

/-- Rearms a watchdog that fired before its coverage ended, and says whether it had ended. -/
def watchdogFired (timeouts : Timeouts) (clock : Clock) :
    Bool × Timeouts × Clock :=
  if clock.now < timeouts.coverage then
    (false, timeouts.start clock .beaconWatchdog
      (clock.now.remaining timeouts.coverage))
  else (true, timeouts, clock)

@[simp] theorem armed?_withArmed_self (timeouts : Timeouts) (kind : Timeout)
    (armed : Option Armed) :
    (timeouts.withArmed kind armed).armed? kind = armed := by
  cases kind <;> rfl

theorem armed?_withArmed_of_ne (timeouts : Timeouts) {kind other : Timeout}
    (armed : Option Armed) (hne : other ≠ kind) :
    (timeouts.withArmed kind armed).armed? other = timeouts.armed? other := by
  cases kind <;> cases other <;> first | rfl | exact absurd rfl hne

end Timeouts

end Roaming

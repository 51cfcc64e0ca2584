import Roaming.Station.Timeouts

namespace Roaming

/-! What starting, stopping and taking a timeout does to each of the timeouts, to the coverage of
the watchdog and to the clock. -/

namespace Time

theorem not_lt {first second : Time} : ¬first < second ↔ second ≤ first :=
  Nat.not_lt

theorem le_after (time : Time) (delay : Duration) :
    time ≤ time.after delay := by
  have hlimit := time.nanos_le
  rw [le_def, nanos_after]
  omega

theorem max_comm (first second : Time) :
    max first second = max second first := by
  apply Time.ext
  rw [nanos_max, nanos_max]
  exact Nat.max_comm ..

end Time

namespace Timer

theorem lookup?_erase {Payload : Type} (timer : Timer Payload)
    (id other : EventId) :
    (timer.erase id).lookup? other =
      if other = id then none else timer.lookup? other := by
  have hfilter := lookup_filter (· ≠ id) timer.events other
  simpa [erase, lookup?] using hfilter

theorem lookup?_insert {Payload : Type} (timer : Timer Payload)
    (id other : EventId) (payload : Payload) :
    (timer.insert id payload).lookup? other =
      if other = id then some payload else timer.lookup? other :=
  lookup_replace ..

end Timer

namespace Clock

theorem mem_pending_schedule {clock : Clock} {deadline : Time}
    {event : Time × EventId} (hdeadline : clock.now ≤ deadline) :
    event ∈ (clock.schedule deadline).2.pending ↔
      event = (deadline, ⟨clock.issued + 1⟩) ∨ event ∈ clock.pending := by
  have hlater : max deadline clock.now = deadline := by
    apply Time.ext
    rw [Time.nanos_max]
    exact Nat.max_eq_left hdeadline
  rw [pending_schedule, Agenda.mem_enqueue, hlater]

theorem mem_pending_cancel {clock : Clock} {id : EventId}
    {event : Time × EventId} :
    event ∈ (clock.cancel id).pending ↔
      event ∈ clock.pending ∧ event.2 ≠ id := by
  rw [pending_cancel, List.mem_filter, decide_eq_true_iff]

/-- No event comes before the first one. -/
theorem head_le {clock : Clock} {first event : Time × EventId}
    {events : List (Time × EventId)} (hpending : clock.pending = first :: events)
    (hevent : event ∈ clock.pending) : first.1 ≤ event.1 := by
  have hsorted := clock.mirrored.sorted
  rw [hpending] at hsorted hevent
  rcases List.mem_cons.mp hevent with rfl | hevent
  · exact Nat.le_refl _
  · exact ((List.pairwise_cons.mp hsorted).1 event hevent).le

/-- A clock releases its first event if that one is due, and else rests. -/
theorem advanceUntil_cases (clock : Clock) (bound : Time) :
    (∃ deadline id events, clock.pending = (deadline, id) :: events ∧
      deadline ≤ bound ∧ clock.advanceUntil bound =
        (some id, { clock.pop with now := max clock.now deadline })) ∨
    (∀ event ∈ clock.pending, bound < event.1) ∧
      clock.advanceUntil bound =
        (none, { clock with now := max clock.now bound }) := by
  unfold advanceUntil
  split
  · next hpending => exact .inr ⟨by simp [hpending], rfl⟩
  · next deadline id events hpending =>
      split
      · next hdue => exact .inl ⟨deadline, id, events, hpending, hdue, rfl⟩
      · next hdue =>
          refine .inr ⟨fun event hevent => ?_, rfl⟩
          exact Nat.lt_of_lt_of_le (Nat.lt_of_not_le hdue)
            (head_le hpending hevent)

theorem advanceUntil_of_some {clock : Clock} {bound : Time} {id : EventId}
    (h : (clock.advanceUntil bound).1 = some id) :
    ∃ deadline events, clock.pending = (deadline, id) :: events ∧
      deadline ≤ bound ∧ (clock.advanceUntil bound).2 =
        { clock.pop with now := max clock.now deadline } := by
  rcases advanceUntil_cases clock bound with
    ⟨deadline, first, events, hpending, hdue, hadvanced⟩ | ⟨_, hadvanced⟩
  · rw [hadvanced] at h ⊢
    obtain rfl := Option.some.inj h
    exact ⟨deadline, events, hpending, hdue, rfl⟩
  · rw [hadvanced] at h
    cases h

theorem advanceUntil_of_none {clock : Clock} {bound : Time}
    (h : (clock.advanceUntil bound).1 = none) :
    (∀ event ∈ clock.pending, bound < event.1) ∧
      (clock.advanceUntil bound).2 =
        { clock with now := max clock.now bound } := by
  rcases advanceUntil_cases clock bound with
    ⟨_, _, _, _, _, hadvanced⟩ | ⟨hlater, hadvanced⟩
  · rw [hadvanced] at h
    cases h
  · exact ⟨hlater, congrArg Prod.snd hadvanced⟩

theorem advanceUntil_none {clock : Clock} {bound : Time}
    (h : (clock.advanceUntil bound).1 = none) :
    (clock.advanceUntil bound).2.pending = clock.pending ∧
      (clock.advanceUntil bound).2.issued = clock.issued := by
  rw [(advanceUntil_of_none h).2]
  exact ⟨rfl, rfl⟩

theorem advanceUntil_some {clock : Clock} {bound : Time} {id : EventId}
    (h : (clock.advanceUntil bound).1 = some id) :
    (∃ deadline, clock.pending =
        (deadline, id) :: (clock.advanceUntil bound).2.pending) ∧
      (clock.advanceUntil bound).2.issued = clock.issued := by
  obtain ⟨deadline, events, hpending, _, hlater⟩ := advanceUntil_of_some h
  rw [hlater]
  exact ⟨⟨deadline, by rw [pending_pop hpending, hpending]⟩, rfl⟩

theorem issued_advanceUntil (clock : Clock) (bound : Time) :
    (clock.advanceUntil bound).2.issued = clock.issued := by
  cases hreleased : (clock.advanceUntil bound).1 with
  | none => exact (advanceUntil_none hreleased).2
  | some id => exact (advanceUntil_some hreleased).2

end Clock

namespace Timeouts

variable (timeouts others : Timeouts) (clock : Clock) (kind other : Timeout)

@[simp] theorem armed?_withTimer (timer : Timer Timeout) :
    ({ timeouts with timer := timer } : Timeouts).armed? kind =
      timeouts.armed? kind := by
  cases kind <;> rfl

@[simp] theorem armed?_withCoverage (coverage : Time) :
    ({ timeouts with coverage := coverage } : Timeouts).armed? kind =
      timeouts.armed? kind := by
  cases kind <;> rfl

@[simp] theorem armed?_cond (choice : Bool) :
    (bif choice then timeouts else others).armed? kind =
      bif choice then timeouts.armed? kind else others.armed? kind := by
  cases choice <;> rfl

@[simp] theorem isRunning_cond (choice : Bool) :
    (bif choice then timeouts else others).isRunning kind =
      bif choice then timeouts.isRunning kind else others.isRunning kind := by
  cases choice <;> rfl

@[simp] theorem coverage_cond (choice : Bool) :
    (bif choice then timeouts else others).coverage =
      bif choice then timeouts.coverage else others.coverage := by
  cases choice <;> rfl

theorem armed?_withArmed (armed : Option Armed) :
    (timeouts.withArmed kind armed).armed? other =
      if other = kind then armed else timeouts.armed? other := by
  by_cases heq : other = kind
  · subst other
    simp
  · rw [if_neg heq, armed?_withArmed_of_ne timeouts armed heq]

@[simp] theorem coverage_withArmed (armed : Option Armed) :
    (timeouts.withArmed kind armed).coverage = timeouts.coverage := by
  cases kind <;> rfl

@[simp] theorem timer_withArmed (armed : Option Armed) :
    (timeouts.withArmed kind armed).timer = timeouts.timer := by
  cases kind <;> rfl

@[simp] theorem isRunning_withCoverage (coverage : Time) :
    ({ timeouts with coverage := coverage } : Timeouts).isRunning kind =
      timeouts.isRunning kind := by
  simp [isRunning]

theorem isRunning_iff :
    timeouts.isRunning kind = true ↔
      ∃ armed, timeouts.armed? kind = some armed :=
  Option.isSome_iff_exists

theorem cancel_of_none (h : timeouts.armed? kind = none) :
    timeouts.cancel clock kind = (timeouts, clock) := by
  simp [cancel, h]

theorem cancel_of_some {armed : Armed}
    (h : timeouts.armed? kind = some armed) :
    timeouts.cancel clock kind =
      (({ timeouts with timer := timeouts.timer.erase armed.id } :
        Timeouts).withArmed kind none, clock.cancel armed.id) := by
  simp [cancel, h, Timer.cancel]

@[simp] theorem armed?_cancel :
    (timeouts.cancel clock kind).1.armed? other =
      if other = kind then none else timeouts.armed? other := by
  cases harmed : timeouts.armed? kind with
  | none =>
      simp only [cancel, harmed]
      split
      · next heq => rw [heq, harmed]
      · rfl
  | some armed => simp [cancel, harmed, Timer.cancel, armed?_withArmed]

@[simp] theorem isRunning_cancel :
    (timeouts.cancel clock kind).1.isRunning other =
      if other = kind then false else timeouts.isRunning other := by
  unfold isRunning
  rw [armed?_cancel]
  split <;> rfl

@[simp] theorem coverage_cancel :
    (timeouts.cancel clock kind).1.coverage = timeouts.coverage := by
  unfold cancel
  split
  · rfl
  · exact coverage_withArmed ..

@[simp] theorem now_cancel :
    (timeouts.cancel clock kind).2.now = clock.now := by
  unfold cancel
  split <;> rfl

@[simp] theorem issued_cancel :
    (timeouts.cancel clock kind).2.issued = clock.issued := by
  unfold cancel
  split <;> rfl

@[simp] theorem armed?_start (delay : Duration) :
    (timeouts.start clock kind delay).1.armed? other =
      if other = kind then some ⟨⟨clock.issued + 1⟩, clock.now.after delay⟩
      else timeouts.armed? other := by
  unfold start Timer.scheduleAt Clock.schedule
  simp only [armed?_withArmed, armed?_withTimer, armed?_cancel, now_cancel,
    issued_cancel]
  split <;> rfl

@[simp] theorem isRunning_start (delay : Duration) :
    (timeouts.start clock kind delay).1.isRunning other =
      if other = kind then true else timeouts.isRunning other := by
  unfold isRunning
  rw [armed?_start]
  split <;> rfl

@[simp] theorem now_start (delay : Duration) :
    (timeouts.start clock kind delay).2.now = clock.now :=
  now_cancel ..

@[simp] theorem coverage_start (delay : Duration) :
    (timeouts.start clock kind delay).1.coverage = timeouts.coverage := by
  unfold start Timer.scheduleAt Clock.schedule
  exact (coverage_withArmed ..).trans (coverage_cancel timeouts clock kind)

@[simp] theorem armed?_extendWatchdog (delay : Duration) :
    (timeouts.extendWatchdog clock delay).1.armed? other =
      if other = .beaconWatchdog ∧ timeouts.isRunning .beaconWatchdog = false then
        some ⟨⟨clock.issued + 1⟩, clock.now.after delay⟩
      else timeouts.armed? other := by
  cases hrunning : timeouts.isRunning .beaconWatchdog with
  | true => simp [extendWatchdog, hrunning]
  | false => simp [extendWatchdog, hrunning]

@[simp] theorem isRunning_extendWatchdog (delay : Duration) :
    (timeouts.extendWatchdog clock delay).1.isRunning other =
      if other = .beaconWatchdog then true else timeouts.isRunning other := by
  unfold isRunning
  rw [armed?_extendWatchdog]
  by_cases hother : other = .beaconWatchdog
  · subst other
    cases hrunning : timeouts.isRunning .beaconWatchdog with
    | true => simpa [isRunning] using hrunning
    | false => simp
  · simp [hother]

@[simp] theorem coverage_extendWatchdog (delay : Duration) :
    (timeouts.extendWatchdog clock delay).1.coverage =
      max (clock.now.after delay) timeouts.coverage := by
  simp only [extendWatchdog]
  split
  · rfl
  · exact coverage_start ..

@[simp] theorem now_extendWatchdog (delay : Duration) :
    (timeouts.extendWatchdog clock delay).2.now = clock.now := by
  simp only [extendWatchdog]
  split
  · rfl
  · exact now_start ..

/-- A stale event changes nothing but the table. -/
theorem take_none {id : EventId} (h : (timeouts.take id).1 = none) :
    (timeouts.take id).2 = { timeouts with timer := timeouts.timer.erase id } := by
  unfold take Timer.take at h ⊢
  cases hlookup : timeouts.timer.lookup? id with
  | none => rfl
  | some kind =>
      simp only [hlookup, armed?_withTimer] at h ⊢
      cases harmed : timeouts.armed? kind with
      | none => rfl
      | some armed =>
          by_cases hid : armed.id = id
          · simp [harmed, hid] at h
          · simp [hid]

/-- An event that is not stale belongs to a running timeout, which it ends. -/
theorem take_some {id : EventId} {kind : Timeout}
    (h : (timeouts.take id).1 = some kind) :
    (∃ deadline, timeouts.armed? kind = some ⟨id, deadline⟩) ∧
      (timeouts.take id).2 = ({ timeouts with
        timer := timeouts.timer.erase id } : Timeouts).withArmed kind none := by
  unfold take Timer.take at h ⊢
  cases hlookup : timeouts.timer.lookup? id with
  | none => simp [hlookup] at h
  | some found =>
      simp only [hlookup, armed?_withTimer] at h ⊢
      cases harmed : timeouts.armed? found with
      | none => simp [harmed] at h
      | some armed =>
          by_cases hid : armed.id = id
          · obtain rfl : found = kind := by simpa [harmed, hid] using h
            subst hid
            exact ⟨⟨armed.deadline, harmed⟩, by simp⟩
          · simp [harmed, hid] at h

@[simp] theorem coverage_take (id : EventId) :
    (timeouts.take id).2.coverage = timeouts.coverage := by
  cases htake : (timeouts.take id).1 with
  | none => rw [take_none timeouts htake]
  | some kind => simp [(take_some timeouts htake).2]

theorem take_of_armed {armed : Armed}
    (hknown : timeouts.timer.lookup? armed.id = some kind)
    (harmed : timeouts.armed? kind = some armed) :
    (timeouts.take armed.id).1 = some kind := by
  simp [take, Timer.take, hknown, harmed]

theorem armed?_take (id : EventId) :
    (timeouts.take id).2.armed? other =
      if (timeouts.take id).1 = some other then none
      else timeouts.armed? other := by
  cases htake : (timeouts.take id).1 with
  | none => simp [take_none timeouts htake]
  | some kind =>
      simp [(take_some timeouts htake).2, armed?_withArmed, eq_comm]

theorem isRunning_take (id : EventId) :
    (timeouts.take id).2.isRunning other =
      if (timeouts.take id).1 = some other then false
      else timeouts.isRunning other := by
  unfold isRunning
  rw [armed?_take]
  split <;> rfl

theorem isRunning_of_isRunning_take {id : EventId} {kind : Timeout}
    (hrunning : (timeouts.take id).2.isRunning kind = true) :
    timeouts.isRunning kind = true := by
  rw [isRunning_take] at hrunning
  split at hrunning
  · cases hrunning
  · exact hrunning

theorem isRunning_of_take {id : EventId} {kind : Timeout}
    (h : (timeouts.take id).1 = some kind) :
    timeouts.isRunning kind = true := by
  obtain ⟨⟨deadline, harmed⟩, _⟩ := take_some timeouts h
  exact (isRunning_iff timeouts kind).mpr ⟨_, harmed⟩

end Timeouts

end Roaming

import Roaming.Proofs.Run

namespace Roaming

/-! The table of a station's events and the timeouts that wait for them.  They agree whatever has
happened, so that the station acts upon no other event, and upon none twice. -/

private theorem Timer.erase_of_lookup {Payload : Type} {timer : Timer Payload}
    {id : EventId} (hnone : timer.lookup? id = none) : timer.erase id = timer := by
  cases timer with
  | mk events =>
      refine congrArg Timer.mk (List.filter_eq_self.mpr ?_)
      intro event hevent
      have hother := List.lookup_eq_none_iff.mp hnone event hevent
      refine decide_eq_true fun hsame => ?_
      simp [hsame] at hother

namespace Timeouts

/-- Whether a timeout waits for an event. -/
def waitsFor (timeouts : Timeouts) (id : EventId) : Bool :=
  [Timeout.probeRequest, .assocRequest, .beaconWatchdog].any fun kind =>
    (timeouts.armed? kind).any fun armed => decide (armed.id = id)

variable {timeouts rest : Timeouts} {clock later : Clock} {id : EventId}

theorem waitsFor_iff : timeouts.waitsFor id = true ↔
    ∃ kind deadline, timeouts.armed? kind = some ⟨id, deadline⟩ := by
  have hany (kind : Timeout) :
      ((timeouts.armed? kind).any fun armed => decide (armed.id = id)) = true ↔
        ∃ deadline, timeouts.armed? kind = some ⟨id, deadline⟩ := by
    rw [Option.any_eq_true]
    constructor
    · rintro ⟨⟨_, deadline⟩, harmed, hid⟩
      obtain rfl := of_decide_eq_true hid
      exact ⟨deadline, harmed⟩
    · rintro ⟨deadline, harmed⟩
      exact ⟨_, harmed, decide_eq_true rfl⟩
  simp only [waitsFor, List.any_eq_true, hany]
  constructor
  · rintro ⟨kind, _, harmed⟩
    exact ⟨kind, harmed⟩
  · rintro ⟨kind, harmed⟩
    exact ⟨kind, by cases kind <;> simp, harmed⟩

theorem ne_of_unawaited (hunawaited : timeouts.waitsFor id = false)
    {kind : Timeout} {armed : Armed}
    (harmed : timeouts.armed? kind = some armed) : armed.id ≠ id := by
  rintro rfl
  exact absurd (waitsFor_iff.mpr ⟨kind, armed.deadline, harmed⟩)
    (ne_true_of_eq_false hunawaited)

/-- The table has the events that the timeouts wait for, and no others. -/
structure Listed (timeouts : Timeouts) (clock : Clock) : Prop where
  known : ∀ id kind, timeouts.timer.lookup? id = some kind ↔
    ∃ deadline, timeouts.armed? kind = some ⟨id, deadline⟩
  issued : ∀ kind armed, timeouts.armed? kind = some armed →
    armed.id.index ≤ clock.issued

structure Drops (timeouts : Timeouts) (id : EventId) (rest : Timeouts) :
    Prop where
  table : rest.timer = timeouts.timer.erase id
  armed : ∀ kind armed, rest.armed? kind = some armed ↔
    timeouts.armed? kind = some armed ∧ armed.id ≠ id

/-- A timeout of a kind that does not run is made to wait for the next event. -/
def arm (timeouts : Timeouts) (clock : Clock) (kind : Timeout)
    (deadline : Time) : Timeouts :=
  ({ timeouts with
    timer := timeouts.timer.insert ⟨clock.issued + 1⟩ kind } :
      Timeouts).withArmed kind (some ⟨⟨clock.issued + 1⟩, deadline⟩)

@[simp] theorem armed?_arm (kind other : Timeout) (deadline : Time) :
    (timeouts.arm clock kind deadline).armed? other =
      if other = kind then some ⟨⟨clock.issued + 1⟩, deadline⟩
      else timeouts.armed? other := by
  simp [arm, armed?_withArmed]

@[simp] theorem timer_arm (kind : Timeout) (deadline : Time) :
    (timeouts.arm clock kind deadline).timer =
      timeouts.timer.insert ⟨clock.issued + 1⟩ kind :=
  timer_withArmed ..

theorem start_eq (kind : Timeout) (delay : Duration) :
    timeouts.start clock kind delay =
      ((timeouts.cancel clock kind).1.arm (timeouts.cancel clock kind).2 kind
          ((timeouts.cancel clock kind).2.now.after delay),
        ((timeouts.cancel clock kind).2.schedule
          ((timeouts.cancel clock kind).2.now.after delay)).2) := rfl

namespace Listed

private theorem id_ne (hlisted : timeouts.Listed clock) {kind other : Timeout}
    {first second : Armed} (hne : kind ≠ other)
    (hfirst : timeouts.armed? kind = some first)
    (hsecond : timeouts.armed? other = some second) :
    first.id ≠ second.id := by
  intro hid
  have hkind := (hlisted.known first.id kind).mpr ⟨first.deadline, hfirst⟩
  rw [hid, (hlisted.known second.id other).mpr ⟨second.deadline, hsecond⟩]
    at hkind
  exact hne (Option.some.inj hkind).symm

theorem fresh (hlisted : timeouts.Listed clock) {kind : Timeout}
    {armed : Armed} (harmed : timeouts.armed? kind = some armed) :
    armed.id ≠ ⟨clock.issued + 1⟩ := by
  intro hid
  have hissued := hlisted.issued kind armed harmed
  rw [hid] at hissued
  exact Nat.not_succ_le_self _ hissued

theorem take_eq_lookup (hlisted : timeouts.Listed clock) (id : EventId) :
    (timeouts.take id).1 = timeouts.timer.lookup? id := by
  cases hlookup : timeouts.timer.lookup? id with
  | none => simp [take, Timer.take, hlookup]
  | some kind =>
      obtain ⟨deadline, harmed⟩ := (hlisted.known id kind).mp hlookup
      exact take_of_armed timeouts kind hlookup harmed

private theorem lookup_of_unawaited (hlisted : timeouts.Listed clock)
    (hunawaited : timeouts.waitsFor id = false) :
    timeouts.timer.lookup? id = none := by
  refine Option.eq_none_iff_forall_ne_some.mpr fun kind hlookup => ?_
  obtain ⟨deadline, harmed⟩ := (hlisted.known id kind).mp hlookup
  exact ne_of_unawaited hunawaited harmed rfl

private theorem take_of_unawaited (hlisted : timeouts.Listed clock)
    (hunawaited : timeouts.waitsFor id = false) :
    timeouts.take id = (none, timeouts) := by
  have hlookup := hlisted.lookup_of_unawaited hunawaited
  have htake := (hlisted.take_eq_lookup id).trans hlookup
  have hrest := take_none timeouts htake
  rw [Timer.erase_of_lookup hlookup] at hrest
  exact Prod.ext htake hrest

private theorem drops_ended (hlisted : timeouts.Listed clock) {kind : Timeout}
    {ended : Armed} (hended : timeouts.armed? kind = some ended) :
    timeouts.Drops ended.id (({ timeouts with
      timer := timeouts.timer.erase ended.id } :
        Timeouts).withArmed kind none) where
  table := timer_withArmed ..
  armed other armed := by
    rw [armed?_withArmed, armed?_withTimer]
    split
    · next hsame =>
        subst other
        refine iff_of_false (by simp) ?_
        rintro ⟨harmed, hid⟩
        exact hid (congrArg Armed.id (Option.some.inj (harmed.symm.trans hended)))
    · next hne => exact (and_iff_left_of_imp
        fun harmed => hlisted.id_ne hne harmed hended).symm

/-- Cancelling takes one event out of the table and off the clock, if any. -/
theorem cancel_cases (hlisted : timeouts.Listed clock) (kind : Timeout) :
    timeouts.cancel clock kind = (timeouts, clock) ∨
      ∃ id, timeouts.Drops id (timeouts.cancel clock kind).1 ∧
        (timeouts.cancel clock kind).2 = clock.cancel id := by
  cases hended : timeouts.armed? kind with
  | none => exact .inl (cancel_of_none _ _ _ hended)
  | some ended =>
      rw [cancel_of_some _ _ _ hended]
      exact .inr ⟨ended.id, hlisted.drops_ended hended, rfl⟩

theorem drops_take (hlisted : timeouts.Listed clock) (id : EventId) :
    timeouts.Drops id (timeouts.take id).2 := by
  cases htake : (timeouts.take id).1 with
  | none =>
      have hlookup := (hlisted.take_eq_lookup id).symm.trans htake
      refine ⟨by rw [take_none timeouts htake], fun kind armed => ?_⟩
      rw [take_none timeouts htake, armed?_withTimer]
      refine (and_iff_left_of_imp fun harmed => ?_).symm
      rintro rfl
      cases hlookup.symm.trans
        ((hlisted.known armed.id kind).mpr ⟨armed.deadline, harmed⟩)
  | some kind =>
      obtain ⟨⟨deadline, hended⟩, hrest⟩ := take_some timeouts htake
      rw [hrest]
      exact hlisted.drops_ended hended

theorem drop (hlisted : timeouts.Listed clock) (hdrops : timeouts.Drops id rest)
    (hissued : clock.issued ≤ later.issued) : rest.Listed later where
  known other kind := by
    rw [hdrops.table, Timer.lookup?_erase]
    simp only [hdrops.armed]
    split
    · next hsame => simp [hsame]
    · next hne => simp [hne, hlisted.known]
  issued kind armed harmed :=
    Nat.le_trans (hlisted.issued kind armed ((hdrops.armed _ _).mp harmed).1)
      hissued

theorem arm (hlisted : timeouts.Listed clock) {kind : Timeout}
    (hidle : timeouts.armed? kind = none) (deadline : Time) :
    (timeouts.arm clock kind deadline).Listed
      (clock.schedule deadline).2 where
  known other found := by
    rw [timer_arm, Timer.lookup?_insert, armed?_arm]
    by_cases hnew : other = ⟨clock.issued + 1⟩
    · subst other
      by_cases hkind : found = kind
      · simp [hkind]
      · rw [if_pos rfl, if_neg hkind]
        refine iff_of_false (fun hsome => hkind (Option.some.inj hsome).symm) ?_
        rintro ⟨_, harmed⟩
        exact hlisted.fresh harmed rfl
    · rw [if_neg hnew, hlisted.known]
      by_cases hkind : found = kind
      · subst found
        simp [hidle, Ne.symm hnew]
      · rw [if_neg hkind]
  issued other armed harmed := by
    rw [armed?_arm] at harmed
    rw [Clock.issued_schedule]
    split at harmed
    · cases harmed
      exact Nat.le_refl _
    · exact Nat.le_succ_of_le (hlisted.issued other armed harmed)

end Listed

/-- What cancelling and starting timeouts keeps so, whatever the watchdog covers. -/
structure Kept (holds : Timeouts → Clock → Prop) : Prop where
  cancel : ∀ {timeouts clock}, holds timeouts clock → ∀ kind,
    holds (timeouts.cancel clock kind).1 (timeouts.cancel clock kind).2
  arm : ∀ {timeouts clock}, holds timeouts clock → ∀ {kind deadline},
    timeouts.armed? kind = none → clock.now ≤ deadline →
    holds (timeouts.arm clock kind deadline) (clock.schedule deadline).2
  cover : ∀ {timeouts clock}, holds timeouts clock → ∀ coverage,
    holds { timeouts with coverage := coverage } clock

namespace Kept

variable {holds : Timeouts → Clock → Prop}

theorem start (hkept : Kept holds) (hbefore : holds timeouts clock)
    (kind : Timeout) (delay : Duration) :
    holds (timeouts.start clock kind delay).1
      (timeouts.start clock kind delay).2 := by
  rw [start_eq]
  exact hkept.arm (hkept.cancel hbefore kind) (by simp) (Time.le_after ..)

theorem extendWatchdog (hkept : Kept holds) (hbefore : holds timeouts clock)
    (delay : Duration) :
    holds (timeouts.extendWatchdog clock delay).1
      (timeouts.extendWatchdog clock delay).2 := by
  simp only [Timeouts.extendWatchdog]
  split
  · exact hkept.cover hbefore _
  · exact hkept.start (hkept.cover hbefore _) .beaconWatchdog delay

private theorem search (hkept : Kept holds) (hbefore : holds timeouts clock)
    (probing : Bool) (delay : Duration) :
    holds (bif probing then (timeouts.start clock .probeRequest delay).1
        else timeouts)
      (bif probing then (timeouts.start clock .probeRequest delay).2
        else clock) := by
  cases probing with
  | true => exact hkept.start hbefore .probeRequest delay
  | false => exact hbefore

theorem reaction (hkept : Kept holds) {system : System} {decision : Decision}
    {operation : Operation} {turn : Turn}
    (hopening : holds (system.opening operation).station.timeouts system.clock)
    (hreaction : Reaction system decision operation turn) :
    holds turn.station.timeouts turn.clock := by
  cases hreaction with
  | rested | outlived => exact hopening
  | dropped | declined | forwarded | relayed | sent | unsent =>
      simpa using hopening
  | followed => simpa using hkept.extendWatchdog hopening _
  | joined =>
      simpa [Turn.joinSender] using hkept.start
        (hkept.cancel (hkept.extendWatchdog hopening _) _) _ _
  | answered =>
      simpa [Turn.joinResponder] using hkept.start
        (hkept.cancel (hkept.extendWatchdog hopening _) _) _ _
  | granted | denied | silenced => simpa using hkept.cancel hopening _
  | reprobed | rejoined | rearmed | reassociated =>
      simpa using hkept.start hopening _ _
  | expired =>
      simpa using hkept.search (hkept.cancel (hkept.cancel hopening _) _) _ _
  | searched | soughtUnsent | released => simpa using hkept.search hopening _ _

end Kept

theorem now_kept (time : Time) : Kept fun _ clock => clock.now = time where
  cancel hnow kind := by simpa using hnow
  arm hnow _ _ _ _ := hnow
  cover hnow _ := hnow

/-- What also the passing of time keeps so, and the taking of events. -/
structure Lasting (holds : Timeouts → Clock → Prop) : Prop extends
    Kept holds where
  elapse : ∀ {timeouts clock}, holds timeouts clock → ∀ {later : Clock},
    clock.issued ≤ later.issued → holds timeouts later
  take : ∀ {timeouts clock}, holds timeouts clock → ∀ id,
    holds (timeouts.take id).2 clock

theorem listed_lasts : Lasting Listed where
  cancel hlisted kind := by
    rcases hlisted.cancel_cases kind with hsame | ⟨id, hdrops, hclock⟩
    · rw [hsame]
      exact hlisted
    · rw [hclock]
      exact hlisted.drop hdrops (Nat.le_refl _)
  arm hlisted _ _ hidle _ := hlisted.arm hidle _
  cover hlisted coverage := by
    refine ⟨fun id kind => ?_, fun kind armed harmed => ?_⟩
    · simpa using hlisted.known id kind
    · exact hlisted.issued kind armed (by simpa using harmed)
  elapse hlisted _ hissued :=
    ⟨hlisted.known, fun kind armed harmed =>
      Nat.le_trans (hlisted.issued kind armed harmed) hissued⟩
  take hlisted id := hlisted.drop (hlisted.drops_take id) (Nat.le_refl _)

/-- No timeout waits for an event that has been scheduled, and none will. -/
structure Spent (id : EventId) (timeouts : Timeouts) (clock : Clock) :
    Prop where
  issued : id.index ≤ clock.issued
  unawaited : timeouts.waitsFor id = false

private theorem unawaited_of (hunawaited : timeouts.waitsFor id = false)
    (hrest : ∀ kind armed, rest.armed? kind = some armed →
      timeouts.armed? kind = some armed ∨ armed.id ≠ id) :
    rest.waitsFor id = false := by
  refine eq_false_of_ne_true fun hwaits => ?_
  obtain ⟨kind, deadline, harmed⟩ := waitsFor_iff.mp hwaits
  rcases hrest kind _ harmed with hbefore | hother
  · exact ne_of_unawaited hunawaited hbefore rfl
  · exact hother rfl

private theorem spent_lasts (id : EventId) : Lasting (Spent id) where
  cancel hspent kind := by
    refine ⟨by simpa using hspent.issued, unawaited_of hspent.unawaited ?_⟩
    intro other armed harmed
    rw [armed?_cancel] at harmed
    split at harmed
    · cases harmed
    · exact .inl harmed
  arm hspent kind deadline _ _ := by
    refine ⟨Nat.le_succ_of_le hspent.issued, unawaited_of hspent.unawaited ?_⟩
    intro other armed harmed
    rw [armed?_arm] at harmed
    split at harmed
    · cases harmed
      refine .inr fun hnew => ?_
      have hissued := hspent.issued
      rw [← hnew] at hissued
      exact Nat.not_succ_le_self _ hissued
    · exact .inl harmed
  cover hspent coverage := by
    refine ⟨hspent.issued, unawaited_of hspent.unawaited ?_⟩
    exact fun kind armed harmed => .inl (by simpa using harmed)
  elapse hspent _ hissued :=
    ⟨Nat.le_trans hspent.issued hissued, hspent.unawaited⟩
  take hspent other := by
    refine ⟨hspent.issued, unawaited_of hspent.unawaited ?_⟩
    intro kind armed harmed
    rw [armed?_take] at harmed
    split at harmed
    · cases harmed
    · exact .inl harmed

end Timeouts

private theorem Move.issued_le (clock : Clock) (move : Move) :
    clock.issued ≤ (move.clock clock).issued := by
  cases move with
  | perform | cancel => exact Nat.le_refl _
  | advance bound | withhold bound =>
      exact Nat.le_of_eq (clock.issued_advanceUntil bound).symm
  | schedule => exact Nat.le_succ _

namespace Timeouts.Lasting

variable {holds : Timeouts → Clock → Prop}

private theorem prepared (hlasting : Lasting holds) {station : Station} {clock : Clock}
    (hbefore : holds station.timeouts clock) (operation : Operation) :
    holds (station.prepare operation).timeouts clock := by
  cases operation with
  | timeout id => exact hlasting.take hbefore id
  | setAddress | register | ensureAssociated | receive | send
  | capabilitiesChanged | setActiveProbing | setSsid => exact hbefore

private theorem moment (hlasting : Lasting holds) {moment : Moment}
    (hbefore : holds moment.before.station.timeouts moment.before.clock) :
    holds moment.after.station.timeouts moment.after.clock := by
  have hopened : holds moment.opened.station.timeouts moment.opened.clock :=
    hlasting.elapse hbefore (Move.issued_le _ _)
  cases moment.course with
  | idle _ hafter =>
      rw [hafter]
      exact hopened
  | reacted _ hreaction hstation hclock =>
      rw [hstation, hclock]
      exact hlasting.reaction (hlasting.prepared hopened _) hreaction

theorem run (hlasting : Lasting holds) {system : System}
    (hbefore : holds system.station.timeouts system.clock)
    (moves : List Move) :
    holds (system.run moves).station.timeouts (system.run moves).clock := by
  refine System.run_induction (motive := fun _ reached =>
    holds reached.station.timeouts reached.clock) hbefore ?_ moves
  intro _ reached move hreached
  let moment : Moment := ⟨reached, move⟩
  have hmoment : holds moment.before.station.timeouts moment.before.clock :=
    hreached
  exact hlasting.moment hmoment

end Timeouts.Lasting

theorem listed_run (config : Config) (moves : List Move) :
    ((System.ofConfig config).run moves).station.timeouts.Listed
      ((System.ofConfig config).run moves).clock := by
  refine Timeouts.listed_lasts.run ⟨?_, ?_⟩ moves
  · intro id kind
    refine iff_of_false (fun hlookup => ?_) ?_
    · cases hlookup
    · rintro ⟨deadline, harmed⟩
      cases kind <;> cases harmed
  · intro kind armed harmed
    cases kind <;> cases harmed

/-- Nobody but the one who waits for an event is concerned by it. -/
theorem System.perform_unawaited {system : System} {id : EventId}
    (hlisted : system.station.timeouts.Listed system.clock)
    (hunawaited : system.station.timeouts.waitsFor id = false)
    (decision : Decision) :
    system.perform decision (.timeout id) = { system } := by
  have htake := hlisted.take_of_unawaited hunawaited
  simp [perform, handleTimeout, htake]

namespace Moment

/-- The event that is handed over to the station. -/
def handed? (moment : Moment) : Option EventId :=
  match moment.operation? with
  | some (.timeout id) => some id
  | _ => none

/-- The event handed over, if the station acts upon it. -/
def acted? (moment : Moment) : Option EventId :=
  moment.handed?.filter fun id =>
    (moment.before.station.timeouts.take id).1.isSome

variable {moment : Moment} {id : EventId}

theorem handed?_iff :
    moment.handed? = some id ↔ moment.operation? = some (.timeout id) := by
  unfold handed?
  split
  · next found hoperation => simp [hoperation]
  · next hother =>
      refine iff_of_false (by simp) fun hoperation => ?_
      exact hother id hoperation

private theorem outcome_of_unawaited
    (hlisted : moment.before.station.timeouts.Listed moment.before.clock)
    (hhanded : moment.handed? = some id)
    (hunawaited : moment.before.station.timeouts.waitsFor id = false) :
    moment.outcome = { system := moment.opened } := by
  have hopened : moment.opened.station.timeouts.Listed moment.opened.clock :=
    Timeouts.listed_lasts.elapse hlisted (Move.issued_le _ _)
  rw [outcome, handed?_iff.mp hhanded]
  exact System.perform_unawaited hopened hunawaited _

private theorem spent_of_acted
    (hlisted : moment.before.station.timeouts.Listed moment.before.clock)
    (hacted : moment.acted? = some id) :
    moment.after.station.timeouts.Spent id moment.after.clock := by
  obtain ⟨hhanded, htaken⟩ := Option.filter_eq_some_iff.mp hacted
  obtain ⟨kind, htake⟩ := Option.isSome_iff_exists.mp htaken
  obtain ⟨⟨deadline, harmed⟩, _⟩ := Timeouts.take_some _ htake
  have hoperation := handed?_iff.mp hhanded
  -- Once taken, the event is spent; what the reaction starts waits for later ones.
  have hopening : (moment.opened.opening
      (.timeout id)).station.timeouts.Spent id moment.opened.clock := by
    refine ⟨?_, eq_false_of_ne_true fun hwaits => ?_⟩
    · exact Nat.le_trans (hlisted.issued kind _ harmed) (Move.issued_le _ _)
    · obtain ⟨other, _, hother⟩ := Timeouts.waitsFor_iff.mp hwaits
      exact (((hlisted.drops_take id).armed other _).mp hother).2 rfl
  cases moment.course with
  | idle hnone => cases hnone.symm.trans hoperation
  | @reacted operation _ hsome hreaction hstation hclock =>
      obtain rfl : operation = .timeout id :=
        Option.some.inj (hsome.symm.trans hoperation)
      rw [hstation, hclock]
      exact (Timeouts.spent_lasts id).reaction hopening hreaction

/-- An event that the station has acted upon does nothing more, whoever hands it over again. -/
theorem outcome_of_acted {config : Config} {moves : List Move}
    {earlier between later : List Moment} {first second : Moment}
    (hhistory : (System.ofConfig config).history moves =
      earlier ++ first :: (between ++ second :: later))
    (hacted : first.acted? = some id) (hhanded : second.handed? = some id) :
    second.outcome = { system := second.opened } := by
  obtain ⟨before, inside, hfirst, _, hsecond⟩ :=
    System.history_between hhistory
  have hlisted := listed_run config before
  rw [← hfirst] at hlisted
  have hspent := (Timeouts.spent_lasts id).run
    (spent_of_acted hlisted hacted) inside
  have hstill := Timeouts.listed_lasts.run
    (Timeouts.listed_lasts.moment hlisted) inside
  rw [← hsecond] at hspent hstill
  exact outcome_of_unawaited hstill hhanded hspent.unawaited

end Moment

end Roaming

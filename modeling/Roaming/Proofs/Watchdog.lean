import Roaming.Proofs.Coverage
import Roaming.Proofs.Pending

namespace Roaming

/-! When the watchdog of a station gives its network up. -/

/-- An operation hands over the event of a watchdog that has no more to cover. -/
def System.Expires (system : System) (operation : Operation) : Prop :=
  ∃ id, operation = .timeout id ∧ system.station.address.isSome = true ∧
    (system.station.timeouts.take id).1 = some .beaconWatchdog ∧
    system.station.phase ≠ .refused ∧
    system.station.timeouts.coverage ≤ system.clock.now

theorem Reaction.eq_of_expires {system : System} {decision : Decision}
    {operation : Operation} {turn : Turn}
    (hreaction : Reaction system decision operation turn)
    (hexpires : system.Expires operation) :
    ∃ own, system.station.address = some own ∧
      turn = (((system.opening operation).stop .probeRequest).stop
        .assocRequest).loseNetwork own := by
  obtain ⟨id, rfl, haddress, htake, hphase, hended⟩ := hexpires
  cases hreaction with
  | rested hrests => cases htake.symm.trans hrests
  | outlived hother houtlives =>
      obtain rfl := Option.some.inj (hother.symm.trans htake)
      rcases houtlives with hunset | hrefused
      · simp [hunset] at haddress
      · exact absurd hrefused hphase
  | reprobed _ hother | rejoined _ hother => cases hother.symm.trans htake
  | rearmed _ _ _ hcovered =>
      exact absurd hcovered (Time.not_lt.mpr hended)
  | expired hset => exact ⟨_, hset, rfl⟩
  | searched _ hasked => rcases hasked with hasked | hasked <;> cases hasked

namespace Moment

/-- Whether the station is handed the event of its watchdog, and gives the network up. -/
def expires (moment : Moment) : Bool :=
  match moment.operation? with
  | some (.timeout id) =>
      moment.before.station.address.isSome &&
        decide ((moment.before.station.timeouts.take id).1 =
          some .beaconWatchdog) &&
        decide (moment.before.station.phase ≠ .refused) &&
        ((moment.before.station.timeouts.take id).2.watchdogFired
          moment.opened.clock).1
  | _ => false

variable {moment : Moment}

theorem expires_iff : moment.expires = true ↔
    ∃ id, moment.operation? = some (.timeout id) ∧
      moment.before.station.address.isSome = true ∧
      (moment.before.station.timeouts.take id).1 = some .beaconWatchdog ∧
      moment.before.station.phase ≠ .refused ∧
      moment.before.station.timeouts.coverage ≤ moment.opened.clock.now := by
  unfold expires
  cases hoperation : moment.operation? with
  | none => simp
  | some operation =>
      cases operation with
      | timeout id =>
          have hfired : ((moment.before.station.timeouts.take id).2.watchdogFired
              moment.opened.clock).1 = true ↔
                moment.before.station.timeouts.coverage ≤
                  moment.opened.clock.now := by
            unfold Timeouts.watchdogFired
            rw [Timeouts.coverage_take]
            split
            · next hcovered =>
                exact iff_of_false Bool.false_ne_true (Nat.not_le_of_lt hcovered)
            · next hended => exact iff_of_true rfl (Time.not_lt.mp hended)
          simp [hfired, and_assoc]
      | setAddress | register | ensureAssociated | receive | send
      | capabilitiesChanged | setActiveProbing | setSsid => simp

theorem expires_of_operation {operation : Operation}
    (hoperation : moment.operation? = some operation) :
    moment.expires = true ↔ moment.opened.Expires operation := by
  rw [expires_iff, hoperation]
  simp only [Option.some.injEq]
  rfl

/-- The station then gives its network up. -/
theorem reaction_of_expires (hexpires : moment.expires = true) :
    ∃ id own turn,
      Reaction moment.opened moment.move.decision (.timeout id) turn ∧
      moment.before.station.address = some own ∧
      turn = (((moment.opened.opening (.timeout id)).stop .probeRequest).stop
        .assocRequest).loseNetwork own ∧
      moment.after.station = { turn.station with
        reportedAp := turn.settledAp moment.before.station.isAssociated } ∧
      moment.outcome.effects =
        turn.effects ++ turn.parting moment.before.station.isAssociated := by
  obtain ⟨id, hoperation, _⟩ := expires_iff.mp hexpires
  cases moment.course with
  | idle hnone => cases hnone.symm.trans hoperation
  | reacted hsome hreaction hstation _ heffects =>
      obtain rfl := Option.some.inj (hsome.symm.trans hoperation)
      obtain ⟨own, haddress, hturn⟩ :=
        hreaction.eq_of_expires ((expires_of_operation hsome).mp hexpires)
      exact ⟨id, own, _, hreaction, haddress, hturn, hstation, heffects⟩

private theorem unbound_of_expires (hexpires : moment.expires = true) :
    moment.after.station.phase.isBound = false := by
  obtain ⟨_, own, _, _, _, rfl, hstation, _⟩ := reaction_of_expires hexpires
  rw [hstation]
  exact Turn.isBound_loseNetwork ..

end Moment

/-- Nothing but a refusal or the end of its coverage parts a station from its network. -/
theorem bound_reaction {system : System} {decision : Decision}
    {operation : Operation} {turn : Turn}
    (hreaction : Reaction system decision operation turn)
    (hbound : system.station.phase.isBound = true) :
    turn.station.phase.isBound = true ∨
      (turn.station.phase = .refused ∧
        ∃ frame, operation = .receive frame) ∨
      system.Expires operation := by
  cases hreaction with
  | rested | dropped | declined | forwarded | relayed | followed | outlived
  | rearmed | silenced | sent | unsent =>
      exact .inl (by simpa using hbound)
  | joined | answered | granted | rejoined | reassociated => exact .inl rfl
  | denied => exact .inr (.inl ⟨rfl, _, rfl⟩)
  | expired haddress htake hphase hended =>
      exact .inr (.inr ⟨_, rfl, by simp [haddress], htake, hphase, hended⟩)
  | reprobed _ _ hphase | searched _ _ hphase | soughtUnsent _ hphase
  | released _ hphase =>
      rw [hphase] at hbound
      cases hbound

namespace Moment

variable {moment : Moment}

theorem bound_or_parted
    (hbound : moment.before.station.phase.isBound = true) :
    moment.after.station.phase.isBound = true ∨
      (moment.after.station.phase = .refused ∧
        ∃ frame, moment.operation? = some (.receive frame)) ∨
      moment.expires = true := by
  cases moment.course with
  | idle _ hafter =>
      rw [hafter]
      exact .inl hbound
  | reacted hoperation hreaction hstation =>
      rw [hstation, hoperation]
      rcases bound_reaction hreaction hbound with
        hturn | ⟨hrefused, frame, rfl⟩ | hexpires
      · exact .inl hturn
      · exact .inr (.inl ⟨hrefused, frame, rfl⟩)
      · exact .inr (.inr ((expires_of_operation hoperation).mpr hexpires))

private theorem bound_after (hbound : moment.before.station.phase.isBound = true)
    (hquiet : ∀ frame, moment.operation? ≠ some (.receive frame)) :
    moment.after.station.phase.isBound = true ∨ moment.expires = true := by
  rcases bound_or_parted hbound with hafter | ⟨_, frame, hframe⟩ | hexpires
  · exact .inl hafter
  · exact absurd hframe (hquiet frame)
  · exact .inr hexpires

private theorem coverage_after_quiet
    (hquiet : ∀ frame, moment.operation? ≠ some (.receive frame)) :
    moment.after.station.timeouts.coverage =
      moment.before.station.timeouts.coverage := by
  rw [coverage_after, covers?]
  cases hoperation : moment.operation? with
  | none => rfl
  | some operation =>
      cases operation with
      | receive frame => exact absurd hoperation (hquiet frame)
      | setAddress | register | ensureAssociated | timeout | send
      | capabilitiesChanged | setActiveProbing | setSsid => rfl

end Moment

namespace System

theorem coverage_later {system : System} {later : List Move}
    (hquiet : ∀ moment ∈ system.history later,
      ∀ frame, moment.operation? ≠ some (.receive frame)) :
    (system.run later).station.timeouts.coverage =
      system.station.timeouts.coverage := by
  induction later generalizing system with
  | nil => rfl
  | cons move later ih =>
      have hfirst := hquiet ⟨system, move⟩ (List.mem_cons_self ..)
      have hrest := ih fun moment hmoment =>
        hquiet moment (List.mem_cons_of_mem _ hmoment)
      exact hrest.trans (Moment.coverage_after_quiet hfirst)

private theorem bound_later {system : System} {later : List Move}
    (hbound : system.station.phase.isBound = true)
    (hquiet : ∀ moment ∈ system.history later,
      ∀ frame, moment.operation? ≠ some (.receive frame))
    (hearly : ∀ moment ∈ system.history later,
      ∀ id, moment.operation? = some (.timeout id) →
        moment.opened.clock.now < system.station.timeouts.coverage) :
    (system.run later).station.phase.isBound = true := by
  induction later generalizing system with
  | nil => exact hbound
  | cons move later ih =>
      have hfirst := hquiet ⟨system, move⟩ (List.mem_cons_self ..)
      have hcoverage := Moment.coverage_after_quiet hfirst
      refine ih ?_ ?_ ?_
      · rcases Moment.bound_after hbound hfirst with hafter | hexpires
        · exact hafter
        · obtain ⟨id, hoperation, _, _, _, hended⟩ :=
            Moment.expires_iff.mp hexpires
          have hcovered := hearly _ (List.mem_cons_self ..) id hoperation
          exact absurd hcovered (Time.not_lt.mpr hended)
      · intro moment hmoment
        exact hquiet moment (List.mem_cons_of_mem _ hmoment)
      · -- The coverage is the same as before, so what is early stays early.
        intro moment hmoment id hoperation
        rw [hcoverage]
        exact hearly moment (List.mem_cons_of_mem _ hmoment) id hoperation

end System

theorem watchdog_run_due (config : Config) (moves : List Move)
    (hprompt : ∀ moment ∈ (System.ofConfig config).history moves,
      moment.Prompt)
    (hrunning : ((System.ofConfig config).run moves).station.timeouts.isRunning
      .beaconWatchdog = true) :
    ∃ event ∈ ((System.ofConfig config).run moves).clock.pending,
      event.1 ≤ coveredUntil ((System.ofConfig config).history moves) := by
  have hfits := fits_run config moves
  obtain ⟨armed, harmed⟩ := (Timeouts.isRunning_iff _ _).mp hrunning
  have hpending :=
    (tracked_run config moves hprompt).pending .beaconWatchdog armed harmed
  refine ⟨_, hpending, ?_⟩
  rw [← coverage_run]
  exact hfits.covers armed harmed

private theorem bound_run_due (config : Config) (moves : List Move)
    (hprompt : ∀ moment ∈ (System.ofConfig config).history moves,
      moment.Prompt)
    (hbound : ((System.ofConfig config).run moves).station.phase.isBound =
      true) :
    ∃ event ∈ ((System.ofConfig config).run moves).clock.pending,
      event.1 ≤ coveredUntil ((System.ofConfig config).history moves) :=
  watchdog_run_due config moves hprompt
    ((fits_run config moves).watchdog hbound)

/-- In every run the watchdog covers the time that the frames heeded so far ask for; being asked
leaves it alone if it runs, as does everything but an event; it gives the network up only once that
time has come, and without a frame nothing else does.  So a station that hears no more keeps its
network as long as it is handed earlier events only, and has lost it, if nobody interferes, when no
event is left that is due by then. -/
theorem watchdog_is_exact (config : Config) (moves : List Move) :
    let start := System.ofConfig config
    let reached := start.run moves
    let covered := coveredUntil (start.history moves)
    reached.station.timeouts.coverage = covered ∧
    (reached.station.timeouts.isRunning .beaconWatchdog = true →
      ∀ delay, reached.station.timeouts.extendWatchdog reached.clock delay =
        ({ reached.station.timeouts with
          coverage := max (reached.clock.now.after delay) covered },
          reached.clock)) ∧
    (∀ move, let moment : Moment := ⟨reached, move⟩
      (∀ armed, reached.station.timeouts.armed? .beaconWatchdog = some armed →
        (∀ id, moment.operation? ≠ some (.timeout id)) →
        moment.after.station.timeouts.armed? .beaconWatchdog = some armed) ∧
      (moment.expires = true → covered ≤ moment.opened.clock.now ∧
        moment.after.station.phase.isBound = false) ∧
      (reached.station.phase.isBound = true →
        (∀ frame, moment.operation? ≠ some (.receive frame)) →
        moment.after.station.phase.isBound = true ∨ moment.expires = true)) ∧
    ∀ later, reached.station.phase.isBound = true →
      (∀ moment ∈ reached.history later,
        ∀ frame, moment.operation? ≠ some (.receive frame)) →
      ((∀ moment ∈ reached.history later,
          ∀ id, moment.operation? = some (.timeout id) →
            moment.opened.clock.now < covered) →
        (reached.run later).station.phase.isBound = true) ∧
      ((∀ moment ∈ start.history (moves ++ later), moment.Prompt) →
        (∀ event ∈ (reached.run later).clock.pending, covered < event.1) →
        (reached.run later).station.phase.isBound = false) := by
  intro start reached covered
  have hcoverage : reached.station.timeouts.coverage = covered :=
    coverage_run config moves
  refine ⟨hcoverage, ?_, ?_, ?_⟩
  · intro hrunning delay
    simp [Timeouts.extendWatchdog, hrunning, hcoverage]
  · intro move moment
    refine ⟨?_, ?_, ?_⟩
    · intro armed harmed hevent
      cases moment.course with
      | idle _ hafter =>
          rw [hafter]
          exact harmed
      | reacted hoperation hreaction hstation =>
          rw [hstation]
          refine watchdog_kept hreaction ?_ harmed
          rintro id rfl
          exact hevent id hoperation
    · intro hexpires
      obtain ⟨id, _, _, _, _, hended⟩ := Moment.expires_iff.mp hexpires
      exact ⟨hcoverage ▸ hended, Moment.unbound_of_expires hexpires⟩
    · intro hbound hquiet
      exact Moment.bound_after hbound hquiet
  · intro later hbound hquiet
    refine ⟨?_, ?_⟩
    · intro hearly
      rw [← hcoverage] at hearly
      exact System.bound_later hbound hquiet hearly
    · intro hprompt hlate
      -- With a network, the watchdog would still have an event due by then.
      refine eq_false_of_ne_true fun hstill => ?_
      have hsame := System.coverage_later hquiet
      have hrun : start.run (moves ++ later) = reached.run later :=
        System.run_append start moves later
      have hcovered := coverage_run config (moves ++ later)
      obtain ⟨event, hevent, hdue⟩ := bound_run_due config (moves ++ later)
        hprompt (by rw [hrun]; exact hstill)
      rw [← hcovered] at hdue
      rw [hrun] at hevent hdue
      rw [hsame, hcoverage] at hdue
      exact absurd (hlate event hevent) (Time.not_lt.mpr hdue)

theorem watchdog_is_exact_sample :
    let reached := (System.ofConfig {}).run Sample.joins
    reached.station.phase = .associated ∧
    reached.station.timeouts.coverage = .ofNanos 1024000000 ∧
    (reached.run [.advance (.ofNanos 1023999999)]).station.phase.isBound =
      true ∧
    (reached.run [.advance .last]).station.phase.isBound = false := by
  have hexact := watchdog_is_exact {} Sample.joins
  refine ⟨by decide, hexact.1.trans (by decide), ?_, ?_⟩
  · refine (hexact.2.2.2 [.advance (.ofNanos 1023999999)] (by decide) ?_).1 ?_
    · intro moment hmoment frame
      rw [List.mem_singleton.mp hmoment]
      intro hoperation
      cases hoperation
    · intro moment hmoment id
      rw [List.mem_singleton.mp hmoment]
      intro hoperation
      cases hoperation
  · refine (hexact.2.2.2 [.advance .last] (by decide) ?_).2 ?_ ?_
    · intro moment hmoment frame
      rw [List.mem_singleton.mp hmoment]
      intro hoperation
      cases hoperation
    · simp [Sample.joins, System.history, Moment.Prompt]
    · decide

end Roaming

import Roaming.Proofs.TimerTable

namespace Roaming

/-! The events of the timeouts that run stay on the clock, as long as nobody keeps them from the
station. -/

namespace Timeouts

structure Tracked (timeouts : Timeouts) (clock : Clock) : Prop extends
    Listed timeouts clock where
  pending : ∀ kind armed, timeouts.armed? kind = some armed →
    (armed.deadline, armed.id) ∈ clock.pending

variable {timeouts rest : Timeouts} {clock later : Clock} {id : EventId}

private theorem Tracked.onClock (htracked : timeouts.Tracked clock)
    (hissued : clock.issued ≤ later.issued)
    (hpending : ∀ kind armed, timeouts.armed? kind = some armed →
      (armed.deadline, armed.id) ∈ later.pending) :
    timeouts.Tracked later where
  toListed := listed_lasts.elapse htracked.toListed hissued
  pending := hpending

/-- An event that leaves the clock and the table takes no timeout with it but its own. -/
private theorem Tracked.drop (htracked : timeouts.Tracked clock)
    (hdrops : timeouts.Drops id rest)
    (hissued : clock.issued ≤ later.issued)
    (hpending : ∀ event ∈ clock.pending, event.2 ≠ id →
      event ∈ later.pending) : rest.Tracked later where
  toListed := htracked.toListed.drop hdrops hissued
  pending := by
    intro kind armed harmed
    obtain ⟨hbefore, hid⟩ := (hdrops.armed kind armed).mp harmed
    exact hpending _ (htracked.pending kind armed hbefore) hid

private theorem tracked_kept : Kept Tracked where
  cancel htracked kind := by
    rcases htracked.toListed.cancel_cases kind with hsame | ⟨id, hdrops, hclock⟩
    · rw [hsame]
      exact htracked
    · rw [hclock]
      refine htracked.drop hdrops (Nat.le_refl _) fun event hevent hid => ?_
      exact Clock.mem_pending_cancel.mpr ⟨hevent, hid⟩
  arm htracked kind deadline hidle hdeadline := by
    refine ⟨htracked.toListed.arm hidle deadline, fun other armed harmed => ?_⟩
    rw [armed?_arm] at harmed
    rw [Clock.mem_pending_schedule hdeadline]
    split at harmed
    · cases harmed
      exact .inl rfl
    · exact .inr (htracked.pending other armed harmed)
  cover htracked coverage := by
    refine ⟨listed_lasts.cover htracked.toListed coverage, ?_⟩
    intro kind armed harmed
    exact htracked.pending kind armed (by simpa using harmed)

private theorem Tracked.take (htracked : timeouts.Tracked clock) (id : EventId)
    (hissued : clock.issued ≤ later.issued)
    (hpending : ∀ event ∈ clock.pending, event.2 ≠ id →
      event ∈ later.pending) :
    (timeouts.take id).2.Tracked later :=
  htracked.drop (htracked.toListed.drops_take id) hissued hpending

end Timeouts

namespace Moment

/-- Nobody keeps from the station an event that the clock releases, or cancels one that the station
waits for. -/
def Prompt (moment : Moment) : Prop :=
  match moment.move with
  | .withhold bound => (moment.before.clock.advanceUntil bound).1 = none
  | .cancel id => ∀ kind armed,
      moment.before.station.timeouts.armed? kind = some armed → armed.id ≠ id
  | _ => True

variable {moment : Moment}

private theorem Prompt.tracked_of_none (hprompt : moment.Prompt)
    (htracked : moment.before.station.timeouts.Tracked moment.before.clock)
    (hnone : moment.operation? = none) :
    moment.before.station.timeouts.Tracked moment.opened.clock := by
  obtain ⟨⟨station, clock⟩, move⟩ := moment
  cases move with
  | perform decision operation => cases hnone
  | advance bound =>
      have hidle := Option.map_eq_none_iff.mp hnone
      obtain ⟨hpending, hissued⟩ := Clock.advanceUntil_none hidle
      refine htracked.onClock (Nat.le_of_eq hissued.symm) ?_
      intro kind armed harmed
      exact hpending ▸ htracked.pending kind armed harmed
  | withhold bound =>
      obtain ⟨hpending, hissued⟩ := Clock.advanceUntil_none hprompt
      refine htracked.onClock (Nat.le_of_eq hissued.symm) ?_
      intro kind armed harmed
      exact hpending ▸ htracked.pending kind armed harmed
  | schedule deadline =>
      refine htracked.onClock (Nat.le_succ _) ?_
      intro kind armed harmed
      exact Agenda.mem_enqueue.mpr (.inr (htracked.pending kind armed harmed))
  | cancel id =>
      refine htracked.onClock (Nat.le_refl _) ?_
      intro kind armed harmed
      have hpending := htracked.pending kind armed harmed
      exact Clock.mem_pending_cancel.mpr
        ⟨hpending, hprompt kind armed harmed⟩

private theorem tracked_opening {operation : Operation}
    (htracked : moment.before.station.timeouts.Tracked moment.before.clock)
    (hsome : moment.operation? = some operation) :
    (moment.opened.opening operation).station.timeouts.Tracked
      moment.opened.clock := by
  obtain ⟨⟨station, clock⟩, move⟩ := moment
  cases move with
  | perform decision told =>
      obtain rfl : told = operation := Option.some.inj hsome
      cases told with
      | timeout id =>
          -- The event may stay on the clock, as the table no longer knows it.
          exact htracked.take id (Nat.le_refl _) fun _ hevent _ => hevent
      | setAddress | register | ensureAssociated | receive | send
      | capabilitiesChanged | setActiveProbing | setSsid => exact htracked
  | advance bound =>
      obtain ⟨id, hreleased, rfl⟩ := Option.map_eq_some_iff.mp hsome
      obtain ⟨⟨deadline, hpending⟩, hissued⟩ :=
        Clock.advanceUntil_some hreleased
      refine htracked.take id (Nat.le_of_eq hissued.symm) ?_
      intro event hevent hid
      rw [hpending] at hevent
      rcases List.mem_cons.mp hevent with rfl | hevent
      · exact absurd rfl hid
      · exact hevent
  | withhold | schedule | cancel => cases hsome

end Moment

theorem tracked_run (config : Config) (moves : List Move)
    (hprompt : ∀ moment ∈ (System.ofConfig config).history moves,
      moment.Prompt) :
    ((System.ofConfig config).run moves).station.timeouts.Tracked
      ((System.ofConfig config).run moves).clock := by
  refine System.run_induction (motive := fun history system =>
    (∀ moment ∈ history, moment.Prompt) →
      system.station.timeouts.Tracked system.clock) ?_ ?_ moves hprompt
  · intro _
    refine ⟨listed_run config [], fun kind armed harmed => ?_⟩
    cases kind <;> cases harmed
  · intro history system move hbefore hprompt
    have htracked := hbefore fun moment hmoment =>
      hprompt moment (List.mem_append_left _ hmoment)
    have hlast : Moment.Prompt ⟨system, move⟩ :=
      hprompt _ (List.mem_append_right _ (List.mem_singleton_self _))
    cases Moment.course ⟨system, move⟩ with
    | idle hoperation hafter =>
        rw [hafter]
        exact hlast.tracked_of_none htracked hoperation
    | reacted hoperation hreaction hstation hclock =>
        rw [hstation, hclock]
        exact Timeouts.tracked_kept.reaction
          (Moment.tracked_opening htracked hoperation) hreaction

end Roaming

import Mathlib.Data.List.Induction
import Roaming.Proofs.Requests
import Roaming.Proofs.Watchdog

namespace Roaming

/-! Whether a station that waits for an answer to its probes will probe again. -/

/-- The station wants to probe and waits for an answer, but will not ask again. -/
structure Station.Stalled (station : Station) : Prop where
  phase : station.phase = .probing
  active : station.activeProbing = true
  idle : station.timeouts.isRunning .probeRequest = false

namespace Turn

variable {turn : Turn} {own : MacAddr}

private theorem asks_of_search (hother : turn.station.phase ≠ .probing)
    (hprobing : (turn.search own).station.phase = .probing) :
    (turn.search own).transmits .probeRequest = true ∧
      (turn.search own).station.timeouts.isRunning .probeRequest = true := by
  cases hactive : turn.station.activeProbing with
  | true => simp [transmits, hactive]
  | false =>
      rw [station_search, hactive] at hprobing
      exact absurd hprobing hother

private theorem asks_of_loseNetwork
    (hprobing : (turn.loseNetwork own).station.phase = .probing) :
    (turn.loseNetwork own).transmits .probeRequest = true ∧
      (turn.loseNetwork own).station.timeouts.isRunning .probeRequest =
        true := by
  rw [loseNetwork_eq] at hprobing ⊢
  exact asks_of_search (by simp) hprobing

end Turn

namespace Reaction

variable {system : System} {decision : Decision} {operation : Operation}
  {turn : Turn}

private theorem activeProbing_eq (hreaction : Reaction system decision operation turn) :
    turn.station.activeProbing =
      (system.station.prepare operation).activeProbing := by
  cases hreaction <;> simp

/-- A station that waits for an answer has just asked, or it has waited before and its timeout does
what it did, unless it is told not to probe. -/
private theorem probing_before (hreaction : Reaction system decision operation turn)
    (hunset : system.station.Unset) (hprobing : turn.station.phase = .probing) :
    (operation ≠ .setActiveProbing false ∧
        turn.transmits .probeRequest = true ∧
        turn.station.timeouts.isRunning .probeRequest = true) ∨
      system.station.phase = .probing ∧
        turn.transmits .probeRequest = false ∧
        (turn.station.timeouts.isRunning .probeRequest = true ↔
          operation ≠ .setActiveProbing false ∧
            system.station.timeouts.isRunning .probeRequest = true) := by
  cases hreaction with
  | rested hrests =>
      refine .inr ⟨by simpa using hprobing, rfl, ?_⟩
      rw [System.station_opening, Station.isRunning_prepare hrests]
      refine iff_and_self.mpr ?_
      rintro hrunning rfl
      -- Told so without an address, the station has no timeout to stop.
      rcases hrests with hnone | ⟨hon, _⟩
      · simp [Timeouts.isRunning, hunset hnone] at hrunning
      · cases hon
  | dropped | declined | forwarded | relayed | followed | unsent =>
      exact .inr ⟨by simpa using hprobing, by simp [Turn.transmits], by
        simp [Station.prepare]⟩
  | sent _ hphase => simp [Station.prepare, hphase] at hprobing
  | joined | answered | granted | denied | rejoined | reassociated =>
      cases hprobing
  | @outlived _ kind htake houtlives =>
      refine .inr ⟨by simpa using hprobing, rfl, ?_⟩
      rcases houtlives with hnone | hphase
      · exact absurd hnone (hunset.address_ne htake)
      · cases kind with
        | probeRequest => exact absurd (by simpa using hprobing) hphase
        | assocRequest | beaconWatchdog =>
            simp [Station.prepare, Timeouts.isRunning_take, htake]
  | reprobed => exact .inl (by simp [Turn.transmits])
  | rearmed _ htake =>
      refine .inr ⟨by simpa using hprobing, by simp [Turn.transmits], ?_⟩
      simp [Station.prepare, Timeouts.isRunning_take, htake]
  | silenced =>
      exact .inr ⟨by simpa using hprobing, by simp [Turn.transmits], by simp⟩
  | expired | released =>
      exact .inl ⟨by simp, Turn.asks_of_loseNetwork hprobing⟩
  | soughtUnsent _ hphase =>
      exact .inl ⟨by simp, Turn.asks_of_search (by simp [hphase]) hprobing⟩
  | searched _ hoperation hphase =>
      refine .inl ⟨?_, Turn.asks_of_search (by simp [hphase]) hprobing⟩
      rcases hoperation with rfl | rfl <;> simp

/-- Without its timeout, a station that waits for an answer does not ask again, unless a watchdog
sends it back to where it started. -/
private theorem silent_of_idle (hreaction : Reaction system decision operation turn)
    (hphase : system.station.phase = .probing)
    (hidle : system.station.timeouts.isRunning .probeRequest = false)
    (hkept : ¬system.Expires operation) :
    turn.transmits .probeRequest = false := by
  cases hreaction with
  | reprobed _ htake =>
      have hrunning := Timeouts.isRunning_of_take _ htake
      exact absurd hrunning (ne_true_of_eq_false hidle)
  | expired haddress htake hother hended =>
      exact absurd ⟨_, rfl, by simp [haddress], htake, hother, hended⟩ hkept
  | searched _ _ hother | soughtUnsent _ hother | released _ hother
  | rejoined _ _ hother | sent _ hother | reassociated _ hother =>
      cases hphase.symm.trans hother
  | joined =>
      simp only [Turn.transmits, Turn.requests_joinSender, Turn.requests_depart,
        List.any_append, Bool.or_eq_false_iff]
      refine ⟨⟨by simp, ?_⟩, by simp⟩
      rw [List.any_eq_false]
      intro request hrequest
      simp [Turn.kind?_of_mem_farewell hrequest]
  | _ => simp [Turn.transmits]

end Reaction

namespace Moment

/-- What the station is told about probing, if it is told so. -/
def setting? (moment : Moment) : Option Bool :=
  match moment.operation? with
  | some (.setActiveProbing on) => some on
  | _ => none

variable {moment : Moment}

private theorem setting?_eq_false : moment.setting? = some false ↔
    moment.operation? = some (.setActiveProbing false) := by
  unfold setting?
  split
  · next on hoperation => simp [hoperation]
  · next hother => exact iff_of_false (by simp) (hother false)

private theorem activeProbing_after :
    moment.after.station.activeProbing =
      moment.setting?.getD moment.before.station.activeProbing := by
  rw [moment.eq_noted (fun _ _ => rfl) Reaction.activeProbing_eq]
  unfold noted setting?
  cases moment.operation? with
  | none => rfl
  | some operation => cases operation <;> rfl

private theorem silent_of_idle (hphase : moment.before.station.phase = .probing)
    (hidle : moment.before.station.timeouts.isRunning .probeRequest = false)
    (hkept : moment.expires = false) :
    moment.transmits .probeRequest = false := by
  cases moment.course with
  | idle _ _ heffects => simp [transmits, Outcome.requests, heffects]
  | reacted hoperation hreaction _ _ heffects =>
      rw [transmits_of_parting heffects]
      refine hreaction.silent_of_idle hphase hidle ?_
      rw [← expires_of_operation hoperation, hkept]
      exact Bool.false_ne_true

end Moment

/-- What the station has been told last about probing, or its configuration says. -/
def probingSetting (config : Config) (history : List Moment) : Bool :=
  (history.filterMap Moment.setting?).getLast?.getD config.activeProbing

private theorem probingSetting_concat (config : Config) (history : List Moment)
    (moment : Moment) :
    probingSetting config (history ++ [moment]) =
      moment.setting?.getD (probingSetting config history) := by
  unfold probingSetting
  rw [getLast?_filterMap_concat, Option.getD_or]

theorem activeProbing_run (config : Config) (moves : List Move) :
    ((System.ofConfig config).run moves).station.activeProbing =
      probingSetting config ((System.ofConfig config).history moves) := by
  induction moves using List.reverseRecOn with
  | nil => rfl
  | append_singleton moves move ih =>
      rw [System.run_concat, System.history_concat, probingSetting_concat,
        Moment.activeProbing_after, ih]

/-- The station has been told not to probe, and has not probed since. -/
def Silenced (history : List Moment) : Prop :=
  Since (fun moment => moment.setting? = some false)
    (fun moment => moment.transmits .probeRequest = false) history

private theorem silenced_step {history : List Moment} {moment : Moment}
    (hunset : moment.before.station.Unset)
    (hbefore : moment.before.station.phase = .probing →
      (moment.before.station.timeouts.isRunning .probeRequest = true ↔
        ¬Silenced history))
    (hprobing : moment.after.station.phase = .probing) :
    moment.after.station.timeouts.isRunning .probeRequest = true ↔
      ¬Silenced (history ++ [moment]) := by
  rw [Silenced, since_concat, Moment.setting?_eq_false]
  cases moment.course with
  | idle hnone hafter heffects =>
      rw [hafter] at hprobing ⊢
      have hsilent : moment.transmits .probeRequest = false := by
        simp [Moment.transmits, Outcome.requests, heffects]
      simp [hnone, hsilent, hbefore hprobing, Silenced]
  | reacted hoperation hreaction hstation _ heffects =>
      rw [hstation] at hprobing ⊢
      rw [hoperation, Moment.transmits_of_parting heffects]
      rcases hreaction.probing_before hunset hprobing with
        ⟨hsetting, hprobes, hrunning⟩ | ⟨hphase, hsilent, hrunning⟩
      · simp [hsetting, hprobes, hrunning]
      · simp [hrunning, hsilent, hbefore hphase, Silenced]

theorem probe_run (config : Config) (moves : List Move)
    (hprobing : ((System.ofConfig config).run moves).station.phase =
      .probing) :
    ((System.ofConfig config).run moves).station.timeouts.isRunning
        .probeRequest = true ↔
      ¬Silenced ((System.ofConfig config).history moves) := by
  induction moves using List.reverseRecOn with
  | nil => cases hprobing
  | append_singleton moves move ih =>
      rw [System.run_concat] at hprobing ⊢
      rw [System.history_concat]
      exact silenced_step (unset_run config moves) ih hprobing

theorem idle_run (config : Config) {moves : List Move}
    (hsilenced : ((System.ofConfig config).run moves).station.phase = .probing →
      Silenced ((System.ofConfig config).history moves)) :
    ((System.ofConfig config).run moves).station.timeouts.isRunning
      .probeRequest = false := by
  refine eq_false_of_ne_true fun hrunning => ?_
  have hprobing := (fits_run config moves).probeRequest hrunning
  exact (probe_run config moves hprobing).mp hrunning (hsilenced hprobing)

private theorem silenced_of_stalled {config : Config} {moves : List Move}
    (hstalled : ((System.ofConfig config).run moves).station.Stalled) :
    Silenced ((System.ofConfig config).history moves) := by
  have hprobe := probe_run config moves hstalled.phase
  exact not_not.mp fun hnot =>
    ne_true_of_eq_false hstalled.idle (hprobe.mpr hnot)

private theorem silent_later (config : Config) {moves later : List Move}
    (hstalled : ((System.ofConfig config).run moves).station.Stalled)
    (hwaits : ∀ moment ∈ ((System.ofConfig config).run moves).history later,
      moment.before.station.phase = .probing ∧ moment.expires = false) :
    (∀ moment ∈ ((System.ofConfig config).run moves).history later,
      moment.transmits .probeRequest = false) ∧
    (((System.ofConfig config).run moves).run later).station.timeouts.isRunning
      .probeRequest = false := by
  induction later using List.reverseRecOn with
  | nil => exact ⟨by simp [System.history], hstalled.idle⟩
  | append_singleton later move ih =>
      rw [System.history_concat] at hwaits ⊢
      obtain ⟨hearlier, hidle⟩ := ih fun moment hmoment =>
        hwaits moment (List.mem_append_left _ hmoment)
      obtain ⟨hphase, hkept⟩ := hwaits _
        (List.mem_append_right _ (List.mem_singleton_self _))
      have hsilent := List.forall_mem_append.mpr ⟨hearlier,
        List.forall_mem_singleton.mpr (Moment.silent_of_idle hphase hidle hkept)⟩
      refine ⟨hsilent, ?_⟩
      -- Since it was stalled the station has not probed, so it is silenced still.
      have hsince := (silenced_of_stalled hstalled).append hsilent
      rw [← System.history_concat, ← System.history_append] at hsince
      rw [← System.run_append]
      exact idle_run config fun _ => hsince

/-- In every run the timeout of a station that waits for an answer to its probes runs, unless the
station has been told not to probe and has not probed since.  So the station is stalled exactly
where it has been told so and then the opposite while it waits; and then it does not probe again as
long as it waits, unless an old watchdog goes off. -/
theorem stalled_iff_silenced (config : Config) (moves : List Move) :
    let reached := (System.ofConfig config).run moves
    let history := (System.ofConfig config).history moves
    (reached.station.phase = .probing →
      (reached.station.timeouts.isRunning .probeRequest = true ↔
        ¬Silenced history)) ∧
    (reached.station.Stalled ↔ reached.station.phase = .probing ∧
      Silenced history ∧ probingSetting config history = true) ∧
    ∀ later, reached.station.Stalled →
      (∀ moment ∈ reached.history later,
        moment.before.station.phase = .probing ∧ moment.expires = false) →
      (∀ moment ∈ reached.history later,
        moment.transmits .probeRequest = false) ∧
      (reached.run later).station.timeouts.isRunning .probeRequest = false := by
  intro reached history
  have hsetting : reached.station.activeProbing =
      probingSetting config history := activeProbing_run config moves
  refine ⟨probe_run config moves, ⟨?_, ?_⟩, ?_⟩
  · intro hstalled
    exact ⟨hstalled.phase, silenced_of_stalled hstalled,
      hsetting ▸ hstalled.active⟩
  · rintro ⟨hphase, hsilenced, hactive⟩
    exact ⟨hphase, hsetting.trans hactive, idle_run config fun _ => hsilenced⟩
  · intro later hstalled hwaits
    exact silent_later config hstalled hwaits

namespace Sample

/-- The station begins to probe, and is told to stop and then to go on. -/
def silencing : List Move :=
  [.perform refuse (.setAddress own), .perform refuse (.setActiveProbing true),
    .perform refuse (.setActiveProbing false),
    .perform refuse (.setActiveProbing true)]

end Sample

/-- No configuration keeps a station from stalling. -/
private theorem stalled_silencing (config : Config) :
    ((System.ofConfig config).run Sample.silencing).station.Stalled :=
  ⟨rfl, rfl, rfl⟩

theorem stalled_iff_silenced_sample :
    let reached := (System.ofConfig {}).run Sample.silencing
    reached.station.Stalled ∧
    ∀ moment ∈ reached.history [.advance .last],
      moment.transmits .probeRequest = false := by
  intro reached
  have hstalled := stalled_silencing {}
  refine ⟨hstalled, ((stalled_iff_silenced {} Sample.silencing).2.2
    [.advance .last] hstalled ?_).1⟩
  intro moment hmoment
  rw [List.mem_singleton.mp hmoment]
  decide

theorem probing_stalls_sample :
    ¬∀ moves, let station := ((System.ofConfig {}).run moves).station
      station.phase = .probing → station.activeProbing = true →
        station.timeouts.isRunning .probeRequest = true := by
  intro hruns
  have hstalled := stalled_silencing {}
  exact ne_true_of_eq_false hstalled.idle
    (hruns Sample.silencing hstalled.phase hstalled.active)

end Roaming

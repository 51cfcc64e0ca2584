import Roaming.Proofs.Run

namespace Roaming

/-! Which timeouts run in which phase of a station, whatever has happened to it. -/

namespace Station

def Unset (station : Station) : Prop :=
  station.address = none → ∀ kind, station.timeouts.armed? kind = none

theorem Unset.address_ne {station : Station} (hunset : station.Unset)
    {id : EventId} {kind : Timeout}
    (htake : (station.timeouts.take id).1 = some kind) :
    station.address ≠ none := by
  intro hnone
  have hrunning := Timeouts.isRunning_of_take _ htake
  simp [Timeouts.isRunning, hunset hnone] at hrunning

end Station

/-- The timeouts of a station that has no address are idle, so none can meet the error that its
operations do. -/
theorem System.handleTimeout_error {system : System}
    (hunset : system.station.Unset) (id : EventId) :
    (system.handleTimeout id).error? = none := by
  rw [handleTimeout_eq]
  split
  · rfl
  · next kind htake =>
      unfold act
      split
      · next hnone => exact absurd hnone (hunset.address_ne htake)
      · rfl

theorem unset_reaction {system : System} {decision : Decision}
    {operation : Operation} {turn : Turn}
    (hunset : system.station.Unset)
    (hreaction : Reaction system decision operation turn) :
    turn.station.Unset := by
  intro hnone
  have haddress := hreaction.address_eq.symm.trans hnone
  cases hreaction with
  | rested hrests =>
      cases operation with
      | setAddress address => cases haddress
      | timeout id =>
          intro kind
          have hidle := hunset haddress kind
          simp [Station.prepare, Timeouts.armed?_take, hidle]
      | register | ensureAssociated | receive | send | capabilitiesChanged
      | setActiveProbing | setSsid => exact hunset haddress
  | outlived htake houtlives =>
      intro kind
      have hidle := hunset haddress kind
      simp [Station.prepare, Timeouts.armed?_take, hidle]
  | searched hset hoperation =>
      rcases hoperation with rfl | rfl <;> cases hset.symm.trans haddress
  | _ hset => cases hset.symm.trans haddress

namespace Timeouts

/-- The watchdog is due no later than the end of what it has been asked to cover. -/
def Covers (timeouts : Timeouts) : Prop :=
  ∀ armed, timeouts.armed? .beaconWatchdog = some armed →
    armed.deadline ≤ timeouts.coverage

/-- The timeouts that run are those that the phase calls for. -/
structure Fits (timeouts : Timeouts) (phase : Phase) : Prop where
  assocRequest : timeouts.isRunning .assocRequest = true ↔
    ∃ attempt, phase = .joining attempt
  probeRequest : timeouts.isRunning .probeRequest = true → phase = .probing
  watchdog : phase.isBound = true →
    timeouts.isRunning .beaconWatchdog = true
  covers : timeouts.Covers

variable {timeouts : Timeouts} {clock : Clock} {phase : Phase}

private theorem Covers.cancel (hcovers : timeouts.Covers) (kind : Timeout) :
    (timeouts.cancel clock kind).1.Covers := by
  intro armed harmed
  rw [armed?_cancel] at harmed
  split at harmed
  · cases harmed
  · rw [coverage_cancel]
    exact hcovers armed harmed

private theorem Covers.start (hcovers : timeouts.Covers) {kind : Timeout}
    (hkind : kind ≠ .beaconWatchdog) (delay : Duration) :
    (timeouts.start clock kind delay).1.Covers := by
  intro armed harmed
  rw [armed?_start, if_neg hkind.symm] at harmed
  rw [coverage_start]
  exact hcovers armed harmed

private theorem Covers.extendWatchdog (hcovers : timeouts.Covers) (delay : Duration) :
    (timeouts.extendWatchdog clock delay).1.Covers := by
  intro armed harmed
  rw [armed?_extendWatchdog] at harmed
  rw [coverage_extendWatchdog, Time.le_def, Time.nanos_max]
  split at harmed
  · cases harmed
    exact Nat.le_max_left ..
  · exact Nat.le_trans (hcovers armed harmed) (Nat.le_max_right ..)

private theorem Covers.take (hcovers : timeouts.Covers) (id : EventId) :
    (timeouts.take id).2.Covers := by
  intro armed harmed
  rw [armed?_take] at harmed
  split at harmed
  · cases harmed
  · rw [coverage_take]
    exact hcovers armed harmed

private theorem covers_start_remaining
    (hcovered : clock.now < timeouts.coverage) :
    (timeouts.start clock .beaconWatchdog
      (clock.now.remaining timeouts.coverage)).1.Covers := by
  intro armed harmed
  rw [armed?_start, if_pos rfl] at harmed
  cases harmed
  have hlt := Time.lt_def.mp hcovered
  rw [coverage_start, Time.le_def]
  simp only [Time.nanos_after, Time.remaining, Time.nanos_since]
  omega

theorem Fits.probe_idle (hfits : timeouts.Fits phase)
    (hphase : phase ≠ .probing) :
    timeouts.isRunning .probeRequest = false :=
  eq_false_of_ne_true fun hrunning => hphase (hfits.probeRequest hrunning)

theorem Fits.assoc_idle (hfits : timeouts.Fits phase)
    (hphase : ∀ attempt, phase ≠ .joining attempt) :
    timeouts.isRunning .assocRequest = false := by
  refine eq_false_of_ne_true fun hrunning => ?_
  obtain ⟨attempt, hjoining⟩ := hfits.assocRequest.mp hrunning
  exact hphase attempt hjoining

private theorem Fits.extendWatchdog (hfits : timeouts.Fits phase) (delay : Duration) :
    (timeouts.extendWatchdog clock delay).1.Fits phase where
  assocRequest := by simpa using hfits.assocRequest
  probeRequest := by simpa using hfits.probeRequest
  watchdog := by simp
  covers := hfits.covers.extendWatchdog delay

private theorem Fits.stopProbe (hfits : timeouts.Fits phase) :
    (timeouts.cancel clock .probeRequest).1.Fits phase where
  assocRequest := by simpa using hfits.assocRequest
  probeRequest := by simp
  watchdog := by simpa using hfits.watchdog
  covers := hfits.covers.cancel .probeRequest

private theorem fits_join (hwatchdog : timeouts.isRunning .beaconWatchdog = true)
    (hprobe : timeouts.isRunning .probeRequest = false)
    (hcovers : timeouts.Covers) (delay : Duration) (attempt : Attempt) :
    (timeouts.start clock .assocRequest delay).1.Fits (.joining attempt) where
  assocRequest := by simp
  probeRequest := by simp [hprobe]
  watchdog := by simp [hwatchdog]
  covers := hcovers.start (by simp) delay

private theorem Fits.follow (hfits : timeouts.Fits phase) (silence : Duration)
    (stopped started : Clock) (delay : Duration) (attempt : Attempt) :
    (((timeouts.extendWatchdog clock silence).1.cancel stopped
      .probeRequest).1.start started .assocRequest delay).1.Fits
        (.joining attempt) := by
  refine fits_join ?_ ?_ ((hfits.covers.extendWatchdog silence).cancel _) delay
    attempt
  · simp
  · simp

private theorem Fits.reprobe (hfits : timeouts.Fits .probing) (id : EventId)
    (delay : Duration) :
    ((timeouts.take id).2.start clock .probeRequest delay).1.Fits .probing where
  assocRequest := by simp [isRunning_take, hfits.assoc_idle (by simp)]
  probeRequest := by simp
  watchdog := by simp [Phase.isBound]
  covers := (hfits.covers.take id).start (by simp) delay

private theorem Fits.rejoin {attempt : Attempt}
    (hfits : timeouts.Fits (.joining attempt)) {id : EventId}
    (htake : (timeouts.take id).1 = some .assocRequest) (delay : Duration) :
    ((timeouts.take id).2.start clock .assocRequest delay).1.Fits
      (.joining attempt) := by
  refine fits_join ?_ ?_ (hfits.covers.take id) delay attempt
  · simp [isRunning_take, htake, hfits.watchdog rfl]
  · simp [isRunning_take, hfits.probe_idle (by simp)]

private theorem Fits.rearm (hfits : timeouts.Fits phase) {id : EventId}
    (htake : (timeouts.take id).1 = some .beaconWatchdog)
    (hcovered : clock.now < timeouts.coverage) :
    ((timeouts.take id).2.start clock .beaconWatchdog
      (clock.now.remaining timeouts.coverage)).1.Fits phase := by
  refine ⟨?_, ?_, ?_, ?_⟩
  · simpa [isRunning_take, htake] using hfits.assocRequest
  · simpa [isRunning_take, htake] using hfits.probeRequest
  · simp
  · rw [← coverage_take timeouts id] at hcovered ⊢
    exact covers_start_remaining hcovered

private theorem Fits.endJoin {attempt : Attempt}
    (hfits : timeouts.Fits (.joining attempt)) (hphase : phase = .associated ∨
      phase = .refused) :
    (timeouts.cancel clock .assocRequest).1.Fits phase where
  assocRequest := by rcases hphase with rfl | rfl <;> simp
  probeRequest := by simp [hfits.probe_idle (by simp)]
  watchdog := by
    intro _
    simpa using hfits.watchdog rfl
  covers := hfits.covers.cancel .assocRequest

private theorem fits_search (hassoc : timeouts.isRunning .assocRequest = false)
    (hprobe : timeouts.isRunning .probeRequest = false)
    (hcovers : timeouts.Covers) (probing : Bool) (delay : Duration) :
    (bif probing then (timeouts.start clock .probeRequest delay).1
      else timeouts).Fits (bif probing then .probing else .searching) := by
  cases probing with
  | true =>
      refine ⟨?_, ?_, ?_, hcovers.start (by simp) delay⟩
      · simp [hassoc]
      · simp
      · simp [Phase.isBound]
  | false =>
      refine ⟨?_, ?_, ?_, hcovers⟩
      · simp [hassoc]
      · simp [hprobe]
      · simp [Phase.isBound]

end Timeouts

private theorem fits_outlived {station : Station} (hunset : station.Unset)
    (hfits : station.timeouts.Fits station.phase) {id : EventId}
    {kind : Timeout} (htake : (station.timeouts.take id).1 = some kind)
    (houtlives : station.Outlives kind) :
    (station.timeouts.take id).2.Fits station.phase := by
  have hrunning := Timeouts.isRunning_of_take _ htake
  rcases houtlives with hnone | hphase
  · exact absurd hnone (hunset.address_ne htake)
  · cases kind with
    | probeRequest => exact absurd (hfits.probeRequest hrunning) hphase
    | assocRequest =>
        obtain ⟨attempt, hjoining⟩ := hfits.assocRequest.mp hrunning
        exact absurd hjoining (hphase attempt)
    | beaconWatchdog =>
        -- The watchdog of a station turned away is the one that may run out unnoticed.
        change station.phase = .refused at hphase
        rw [hphase] at hfits ⊢
        refine ⟨?_, ?_, ?_, hfits.covers.take id⟩
        · simp [Timeouts.isRunning_take, htake, hfits.assoc_idle (by simp)]
        · simp [Timeouts.isRunning_take, htake, hfits.probe_idle (by simp)]
        · simp [Phase.isBound]

theorem fits_reaction {system : System} {decision : Decision}
    {operation : Operation} {turn : Turn} (hunset : system.station.Unset)
    (hfits : system.station.timeouts.Fits system.station.phase)
    (hreaction : Reaction system decision operation turn) :
    turn.station.timeouts.Fits turn.station.phase := by
  cases hreaction with
  | rested hrests =>
      cases operation with
      | timeout id =>
          have hsame : ∀ kind,
              (system.station.timeouts.take id).2.isRunning kind =
                system.station.timeouts.isRunning kind :=
            Station.isRunning_prepare hrests
          refine ⟨?_, ?_, ?_, hfits.covers.take id⟩
          · exact (hsame _).symm ▸ hfits.assocRequest
          · exact (hsame _).symm ▸ hfits.probeRequest
          · exact (hsame _).symm ▸ hfits.watchdog
      | setAddress | register | ensureAssociated | receive | send
      | capabilitiesChanged | setActiveProbing | setSsid => exact hfits
  | dropped => simpa using hfits
  | declined => simpa using hfits
  | forwarded => simpa using hfits
  | relayed => simpa using hfits
  | followed => simpa using hfits.extendWatchdog _
  | joined =>
      simpa [Turn.joinSender] using hfits.follow _ _ _ _ _
  | answered =>
      simpa [Turn.joinResponder] using hfits.follow _ _ _ _ _
  | granted _ _ _ hphase =>
      rw [hphase] at hfits
      simpa using hfits.endJoin (.inl rfl)
  | denied _ _ _ hphase =>
      rw [hphase] at hfits
      simpa using hfits.endJoin (.inr rfl)
  | outlived htake houtlives => exact fits_outlived hunset hfits htake houtlives
  | reprobed _ htake hphase =>
      rw [hphase] at hfits
      simpa [hphase] using hfits.reprobe _ _
  | rejoined _ htake hphase =>
      rw [hphase] at hfits
      simpa using hfits.rejoin htake _
  | rearmed _ htake hphase hcovered =>
      simpa using hfits.rearm htake hcovered
  | expired _ htake hphase hended =>
      simpa using Timeouts.fits_search (by simp) (by simp)
        (((hfits.covers.take _).cancel _).cancel _) _ _
  | searched _ hoperation hphase =>
      rw [hphase] at hfits
      have hassoc := hfits.assoc_idle (by simp)
      have hprobe := hfits.probe_idle (by simp)
      rcases hoperation with rfl | rfl
      · simpa [hphase] using
          Timeouts.fits_search hassoc hprobe hfits.covers _ _
      · simpa [hphase] using
          Timeouts.fits_search hassoc hprobe hfits.covers true _
  | silenced => simpa using hfits.stopProbe
  | sent => simpa using hfits
  | unsent => simpa using hfits
  | soughtUnsent _ hphase =>
      rw [hphase] at hfits
      simpa [hphase] using
        Timeouts.fits_search (hfits.assoc_idle (by simp))
          (hfits.probe_idle (by simp)) hfits.covers _ _
  | reassociated _ hphase =>
      rw [hphase] at hfits
      simpa using Timeouts.fits_join (hfits.watchdog rfl)
        (hfits.probe_idle (by simp)) hfits.covers _ _
  | released _ hphase =>
      rw [hphase] at hfits
      simpa [hphase] using
        Timeouts.fits_search (hfits.assoc_idle (by simp))
          (hfits.probe_idle (by simp)) hfits.covers _ _

theorem unset_run (config : Config) (moves : List Move) :
    ((System.ofConfig config).run moves).station.Unset := by
  refine System.station_induction (motive := Station.Unset) ?_ ?_ moves
  · intro _ kind
    cases kind <;> rfl
  · intro system decision operation turn hunset hreaction
    simpa [Station.Unset] using unset_reaction hunset hreaction

theorem fits_run (config : Config) (moves : List Move) :
    ((System.ofConfig config).run moves).station.timeouts.Fits
      ((System.ofConfig config).run moves).station.phase := by
  refine (System.station_induction (motive := fun station =>
    station.Unset ∧ station.timeouts.Fits station.phase) ?_ ?_ moves).2
  · refine ⟨unset_run config [], ?_, ?_, ?_, ?_⟩
    · simp [System.ofConfig, Station.ofConfig, Timeouts.idle,
        Timeouts.isRunning, Timeouts.armed?]
    · intro hrunning
      cases hrunning
    · intro hbound
      cases hbound
    · intro armed harmed
      cases harmed
  · intro system decision operation turn hbefore hreaction
    obtain ⟨hunset, hfits⟩ := hbefore
    refine ⟨?_, ?_⟩
    · simpa [Station.Unset] using unset_reaction hunset hreaction
    · simpa using fits_reaction hunset hfits hreaction

/-- In every run the association timeout runs exactly while the station is joining, the probe
timeout only while it probes, and the watchdog whenever it is joining or associated; and the
watchdog is never due later than its coverage ends. -/
theorem timeouts_fit_phase (config : Config) (moves : List Move) :
    let station := ((System.ofConfig config).run moves).station
    (station.timeouts.isRunning .assocRequest = true ↔
      ∃ attempt, station.phase = .joining attempt) ∧
    (station.timeouts.isRunning .probeRequest = true →
      station.phase = .probing) ∧
    ((∃ attempt, station.phase = .joining attempt) ∨
        station.phase = .associated →
      station.timeouts.isRunning .beaconWatchdog = true) ∧
    ∀ armed, station.timeouts.armed? .beaconWatchdog = some armed →
      armed.deadline ≤ station.timeouts.coverage := by
  have hfits := fits_run config moves
  refine ⟨hfits.assocRequest, hfits.probeRequest, ?_, hfits.covers⟩
  rintro (⟨attempt, hphase⟩ | hphase)
  · exact hfits.watchdog (by rw [hphase]; rfl)
  · exact hfits.watchdog (by rw [hphase]; rfl)

end Roaming
